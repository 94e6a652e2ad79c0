/-
Module: WaitFor.Proofs.Path.Nesting
Purpose: Nothing unterminated is read: escapes and quotes are complete, brackets and parentheses nest,
  and a parenthesis only opens the test of a filter.
Main exports:
  Lexeme.Nested, Lexeme.Introduced, Lexeme.Sound, Lexeme.Nests, Grammar.Steps.nests,
  Chain.read_only_nested
-/
import Mathlib
import WaitFor.Proofs.Path.Leading
import WaitFor.Proofs.Path.Lexemes

namespace WaitFor

namespace Lexeme

/-! ### Nesting -/

/-- Words of brackets and parentheses in which each is closed by its own kind. -/
inductive Nested : List Char → Prop where
  | nil : Nested []
  | square {inside rest : List Char} (inner : Nested inside) (next : Nested rest) :
      Nested ('[' :: (inside ++ ']' :: rest))
  | round {inside rest : List Char} (inner : Nested inside) (next : Nested rest) :
      Nested ('(' :: (inside ++ ')' :: rest))

/-- Nested words stay nested side by side. -/
theorem Nested.append {front back : List Char} (first : Nested front) (second : Nested back) :
    Nested (front ++ back) := by
  induction first with
  | nil => exact second
  | square inner _ _ ih => simpa using Nested.square inner ih
  | round inner _ _ ih => simpa using Nested.round inner ih

/-- Up to white space, the lexemes end in a question mark that directly follows an opening bracket. -/
def Introduced (lexemes : List Lexeme) : Prop :=
  ∃ front first second, Blank first ∧ Blank second ∧
    lexemes = front ++ bare '[' :: (first ++ bare '?' :: second)

/-- What introduces a parenthesis still does so with more text in front. -/
theorem Introduced.behind {lexemes : List Lexeme} (introduced : Introduced lexemes)
    (outer : List Lexeme) : Introduced (outer ++ lexemes) := by
  obtain ⟨front, first, second, firstBlank, secondBlank, rfl⟩ := introduced
  exact ⟨outer ++ front, first, second, firstBlank, secondBlank, by simp⟩

/-- Behind what stands before, each opening parenthesis opens the test of a filter. -/
def Filters (before lexemes : List Lexeme) : Prop :=
  ∀ front back, lexemes = front ++ bare '(' :: back → Introduced (before ++ front)

/-- A parenthesis behind another part is judged with this part in front of it. -/
theorem Filters.append {before front back : List Lexeme} (first : Filters before front)
    (second : Filters (before ++ front) back) : Filters before (front ++ back) := by
  intro left right same
  obtain ⟨between, rfl, cut⟩ | ⟨between, rfl, cut⟩ := List.append_eq_append_iff.mp same
  · rw [← List.append_assoc]
    exact second between right cut
  · cases between with
    | nil =>
        -- The parenthesis is the first lexeme of the back.
        have introduced := second [] right (by simpa using cut.symm)
        simpa using introduced
    | cons lexeme between =>
        obtain ⟨rfl, -⟩ := List.cons.inj cut
        exact first left between rfl

theorem Filters.of_not_mem {lexemes : List Lexeme} (before : List Lexeme)
    (absent : bare '(' ∉ lexemes) : Filters before lexemes := by
  rintro front back rfl
  simp at absent

/-- Where no bracket stands for itself, there is no parenthesis to judge. -/
theorem Filters.of_quiet {lexemes : List Lexeme} (before : List Lexeme)
    (quiet : brackets lexemes = []) : Filters before lexemes := by
  refine .of_not_mem before fun member => ?_
  rw [brackets, List.filterMap_eq_nil_iff] at quiet
  cases quiet _ member

/-- Parentheses that open filters on their own do so behind any text. -/
theorem Filters.behind {lexemes : List Lexeme} (filters : Filters [] lexemes)
    (before : List Lexeme) : Filters before lexemes :=
  fun front back same => (filters front back same).behind before

/-- Lexemes that nest, and whose parentheses belong to filters. -/
structure Sound (before lexemes : List Lexeme) : Prop where
  nested : Nested (brackets lexemes)
  filters : Filters before lexemes

/-- The front of a text, up to the rest, is scanned as sound lexemes. -/
def Nests (before : List Lexeme) (text rest : List Char) : Prop :=
  ∃ lexemes, Lexes text lexemes rest ∧ Sound before lexemes

/-- A front without brackets nests. -/
theorem Quiet.nests {text rest : List Char} (quiet : Quiet text rest) (before : List Lexeme) :
    Nests before text rest := by
  obtain ⟨lexemes, lexes, none⟩ := quiet
  refine ⟨lexemes, lexes, ?_, .of_quiet before none⟩
  rw [none]
  exact .nil

/-- Two parts that nest, one behind the other, nest together. -/
theorem Nests.trans {text mid rest : List Char} (first : Nests [] text mid)
    (second : Nests [] mid rest) : Nests [] text rest := by
  obtain ⟨front, frontLexes, frontSound⟩ := first
  obtain ⟨back, backLexes, backSound⟩ := second
  have filters := frontSound.filters.append (backSound.filters.behind front)
  refine ⟨front ++ back, frontLexes.trans backLexes, ?_, filters⟩
  rw [brackets_append]
  exact frontSound.nested.append backSound.nested

/-!
### Brackets and filters

Between brackets, with white space at both ends, the inside of a filter begins with a question mark.
-/

/-- Between brackets stands white space, then what nests behind an opening bracket, then white space
again. -/
private theorem nests_square {text mid rest : List Char}
    (inside : ∀ padding, Blank padding →
      Nests (bare '[' :: padding) (Grammar.behindBlank text) mid)
    (closes : Grammar.behindBlank mid = ']' :: rest) : Nests [] ('[' :: text) rest := by
  obtain ⟨padding, paddingLexes, blank⟩ := lexes_blank text
  obtain ⟨lexemes, insideLexes, sound⟩ := inside padding blank
  obtain ⟨ending, endingLexes, endingBlank⟩ := lexes_blank mid
  rw [closes] at endingLexes
  have opened : Lexes ('[' :: text) [bare '['] text := rfl
  have closed : Lexes (']' :: rest) [bare ']'] rest := rfl
  have front := (opened.trans paddingLexes).trans insideLexes
  refine ⟨_, (front.trans endingLexes).trans closed, ?_, ?_⟩
  · simp only [brackets_append, blank.brackets_eq, endingBlank.brackets_eq, List.append_nil]
    exact Nested.square sound.nested .nil
  · have opening : Filters [] ([bare '['] ++ padding) :=
      .append (.of_not_mem [] (by simp)) (.of_quiet _ blank.brackets_eq)
    have closing : Filters (([bare '['] ++ padding) ++ lexemes) (ending ++ [bare ']']) :=
      .append (.of_quiet _ endingBlank.brackets_eq) (.of_not_mem _ (by simp))
    have whole := (opening.append sound.filters).append closing
    rwa [← List.append_assoc] at whole

/-- The parenthesis of a filter is introduced by the question mark, if this is the first character
between the brackets. -/
private theorem nests_filter {padding : List Lexeme} (blank : Blank padding)
    {text after mid rest : List Char} (opens : Grammar.behindBlank text = '(' :: after)
    (body : Nests [] (Grammar.behindBlank after) mid)
    (closes : Grammar.behindBlank mid = ')' :: rest) :
    Nests (bare '[' :: padding) ('?' :: text) rest := by
  obtain ⟨first, firstLexes, firstBlank⟩ := lexes_blank text
  obtain ⟨second, secondLexes, secondBlank⟩ := lexes_blank after
  obtain ⟨lexemes, bodyLexes, sound⟩ := body
  obtain ⟨ending, endingLexes, endingBlank⟩ := lexes_blank mid
  rw [opens] at firstLexes
  rw [closes] at endingLexes
  have question : Lexes ('?' :: text) [bare '?'] text := rfl
  have opened : Lexes ('(' :: after) [bare '('] after := rfl
  have closed : Lexes (')' :: rest) [bare ')'] rest := rfl
  have front := ((question.trans firstLexes).trans opened).trans secondLexes
  refine ⟨_, ((front.trans bodyLexes).trans endingLexes).trans closed, ?_, ?_⟩
  · simp only [brackets_append, firstBlank.brackets_eq, secondBlank.brackets_eq,
      endingBlank.brackets_eq, List.append_nil]
    exact Nested.round sound.nested .nil
  · have opening : Filters (bare '[' :: padding) ([bare '?'] ++ first) :=
      .append (.of_not_mem _ (by simp)) (.of_quiet _ firstBlank.brackets_eq)
    -- The parenthesis of the filter itself; those inside it open filters of their own.
    have parenthesis : Filters (bare '[' :: padding ++ ([bare '?'] ++ first)) [bare '('] := by
      intro left right same
      obtain ⟨rfl, -⟩ : left = [] ∧ right = [] := by
        simpa [List.cons_eq_append_iff] using same
      exact ⟨[], padding, first, blank, firstBlank, by simp⟩
    have inside := (opening.append parenthesis).append (.of_quiet _ secondBlank.brackets_eq)
    have closing := (inside.append (sound.filters.behind _)).append
      (.of_quiet _ endingBlank.brackets_eq)
    exact closing.append (.of_not_mem _ (by simp))

end Lexeme

namespace Grammar

open Lexeme

/-!
### What is read nests

One case for each rule.  Between brackets the white space behind the opening one is left open, since
only the rule for the whole bracket passes over it.
-/

mutual

/-- What stands between brackets nests: only a filter has brackets of its own. -/
theorem Inside.nests : ∀ {text rest : List Char} {selector : Selector},
    Inside text selector rest → ∀ padding, Blank padding → Nests (bare '[' :: padding) text rest
  | _, _, _, .wildcard rest, _, _ => (quiet_cons (by decide) rest).nests _
  | _, _, _, .filter opens body closes, _, blank => nests_filter blank opens body.nests closes
  | _, _, _, .names first others, _, _ =>
      ((quiet_of_quoted first).trans (quiet_of_moreNames others)).nests _
  | _, _, _, .positions reads, _, _ => (quiet_of_positions reads).nests _

theorem Tested.nests : ∀ {text rest : List Char} {t : Test}, Tested text t rest → Nests [] text rest
  | _, _, _, .present side closes => side.nests.trans ((quiet_of_behindBlank closes).nests [])
  | _, _, _, .compare first sign second => by
      have between := (quiet_of_behindBlank sign).trans (quiet_of_comparison _ _)
      exact (first.nests.trans ((between.trans (quiet_blank _)).nests [])).trans second.nests

theorem Side.nests : ∀ {text rest : List Char} {side : Operand},
    Side text side rest → Nests [] text rest
  | _, _, _, .current steps => ((quiet_cons (by decide) _).nests []).trans steps.nests
  | _, _, _, .literal constant => (quiet_of_constant constant).nests []

/-- The steps of a path nest: by recursion on the rules, each filter with its own paths. -/
theorem Steps.nests : ∀ {text rest : List Char} {steps : List Selector},
    Steps text steps rest → Nests [] text rest
  | _, _, _, .done _ => (Quiet.refl _).nests []
  | _, _, _, .dot first next => by
      have front := (quiet_dot _).trans (quiet_of_afterDot first)
      exact (front.nests []).trans next.nests
  | _, _, _, .dots first next => by
      have front := (quiet_dots _).trans (quiet_of_afterDot first)
      exact (front.nests []).trans next.nests
  | _, _, _, .bareDots _ next => ((quiet_dots _).nests []).trans next.nests
  | _, _, _, .bracket inside closes next => (nests_square inside.nests closes).trans next.nests

end

end Grammar

namespace Chain

open Lexeme Spelling

/-- Nothing unterminated is read.  The text of a template that is read can be scanned to its end, so
that no quote is open there and no escape without its character.  The brackets and parentheses
outside quotes and escapes nest, and each opening parenthesis stands, up to white space, behind a
question mark that in the same way stands behind an opening bracket. -/
theorem read_only_nested {text : List Char} {steps : Chain}
    (reads : Chain.read (template text) = .ok steps) :
    ∃ lexemes, scan none text = some lexemes ∧ Nested (brackets lexemes) ∧
      ∀ front back, lexemes = front ++ bare '(' :: back → Introduced front := by
  rw [Chain.read_template_eq] at reads
  obtain ⟨rest, areSteps, ends⟩ := Reader.steps_of_inner reads
  have front := (quiet_root (Cursor.start text)).nests []
  have back := (quiet_of_behindBlank ends).nests []
  obtain ⟨lexemes, lexes, sound⟩ := (front.trans areSteps.nests).trans back
  exact ⟨lexemes, lexes.scan_eq, sound.nested, sound.filters⟩

/-- Parentheses in quotes and behind an escape are covered; the other ones, and the brackets, nest. -/
theorem read_only_nested_of_covered :
    Chain.read (template "[? (@['a)'] == \"[\")].b\\(".toList) =
        .ok [.filter (.compare (.current [.field "a)"]) .equal (.literal (.string "["))),
          .field "b("] ∧
      ∃ lexemes, scan none "[? (@['a)'] == \"[\")].b\\(".toList = some lexemes ∧
        brackets lexemes = "[([])]".toList ∧ Nested (brackets lexemes) ∧
        ∀ front back, lexemes = front ++ bare '(' :: back → Introduced front := by
  have reads : Chain.read (template "[? (@['a)'] == \"[\")].b\\(".toList) =
      .ok [.filter (.compare (.current [.field "a)"]) .equal (.literal (.string "["))),
        .field "b("] := rfl
  have word : (scan none "[? (@['a)'] == \"[\")].b\\(".toList).map brackets =
      some "[([])]".toList := rfl
  obtain ⟨lexemes, scanned, nested, introduced⟩ := read_only_nested reads
  rw [scanned] at word
  exact ⟨reads, lexemes, scanned, Option.some.inj word, nested, introduced⟩

end Chain

end WaitFor
