/-
Module: WaitFor.Proofs.Path.Trailing
Purpose: White space behind the fields of a template, and which paths it changes.
Main exports:
  Reader.inner_dot_extend, Shorthand.isFields_of_compile, Shorthand.dropDot_append,
  Path.compile_fields_padded, Path.compile_padded
-/
import Mathlib
import WaitFor.Proofs.Path.Extension

namespace WaitFor

open Spelling

/-!
White space behind a path is passed over once the path has ended.  Two dots end a path only where
the text ends, so in front of white space they ask for a name; and a lone dot, which is relaxed to two
dots, is relaxed in front of white space to one dot, which selects the whole document and nothing
below it.
-/

namespace Reader

variable {tail : List Char}

theorem padding_of_behindBlank {text : List Char} (nothing : Grammar.behindBlank text = []) :
    Padding text :=
  List.dropWhile_eq_nil_iff.mp nothing

/-- What is read behind a dot is read with white space behind it as well, unless it ends in a descent,
which then has no name behind it. -/
theorem inner_dot_extend (blank : Padding tail) (something : tail ≠ []) {text : List Char}
    {steps : Chain} (reads : inner ('.' :: text) = .ok steps) :
    inner ('.' :: (text ++ tail)) =
      if Chain.endsInDescent steps then .error (.emptyName (text.length + 1)) else .ok steps := by
  by_cases nothing : Padding text
  · have nothingLonger : Padding (text ++ tail) := List.forall_mem_append.mpr ⟨nothing, blank⟩
    rw [inner_dot_of_blank nothing] at reads
    cases reads
    exact inner_dot_of_blank nothingLonger
  · have front := root_dot text
    rw [if_neg fun all => nothing (List.all_eq_true.mp all)] at front
    have frontLonger := root_dot (text ++ tail)
    rw [if_neg fun all => nothing fun c member =>
      List.all_eq_true.mp all c (List.mem_append_left tail member)] at frontLonger
    rw [inner_of_root front] at reads
    obtain ⟨⟨found, last⟩, chainRead, reads⟩ := bind_eq_ok.mp reads
    have fewer : ('.' :: text).length ≤ ('.' :: (text ++ tail)).length := by simp
    have longer : chain ('.' :: (text ++ tail)).length ⟨0, '.' :: (text ++ tail)⟩ =
        if Chain.endsInDescent found then .error (.emptyName last.position)
        else .ok (found, last.extend tail) := chain_extend blank something fewer le_rfl chainRead
    rw [inner_of_root frontLonger, longer]
    dsimp only at reads
    split at reads
    · next ends =>
        cases reads
        by_cases descends : Chain.endsInDescent steps = true
        · obtain ⟨ahead, areSteps⟩ := chain_follows _ le_rfl chainRead
          have atEnd : last.position = text.length + 1 := by
            have total := ahead.total
            rw [areSteps.readUpTo.ends descends] at total
            simpa using total
          rw [if_pos descends, if_pos descends, Except.bind, atEnd]
        · have endsLonger : (last.extend tail).skipBlank.rest = [] :=
            List.dropWhile_eq_nil_iff.mpr
              (List.forall_mem_append.mpr ⟨padding_of_behindBlank ends, blank⟩)
          rw [if_neg descends, if_neg descends]
          simp only [Except.bind, endsLonger]
    · cases reads

end Reader

namespace Shorthand

/-- A text has fields if it has them without a dot in front. -/
theorem isFields_of_dropDot {text : List Char} (isFields : IsFields (dropDot text)) :
    IsFields text := by
  rw [dropDot.eq_def] at isFields
  split at isFields
  · refine ⟨List.cons_ne_nil _ _, ?_⟩
    simpa [hasBrace] using isFields.2
  · exact isFields

/-- A template that compiles has fields. -/
theorem isFields_of_compile {text : List Char} {path : Path}
    (compiled : Path.compile (template text) = .ok path) : IsFields text := by
  obtain ⟨relaxed, -⟩ := Path.compile_eq_ok_iff.mp compiled
  obtain ⟨empty, -⟩ | ⟨-, isFields, -⟩ := relax_eq_ok relaxed
  · exact absurd empty (template_ne_empty text)
  · rw [fields_template] at isFields
    exact isFields_of_dropDot isFields

theorem isFields_append {text tail : List Char} (isFields : IsFields text) (blank : Padding tail) :
    IsFields (text ++ tail) := by
  refine ⟨by simp [isFields.1], ?_⟩
  have noBrace : hasBrace tail = false := by
    rw [hasBrace, List.any_eq_false]
    intro c member
    have notOpen : c ≠ '{' := ne_of_holds (blank c member) (by decide)
    have notClose : c ≠ '}' := ne_of_holds (blank c member) (by decide)
    simp [notOpen, notClose]
  rw [hasBrace, List.any_append, ← hasBrace, ← hasBrace, isFields.2, noBrace]
  rfl

/-- The dot in front is the same in a longer text, unless it is all that there is. -/
theorem dropDot_append {text : List Char} (nonempty : text ≠ []) (notLone : text ≠ ['.'])
    (tail : List Char) : dropDot (text ++ tail) = dropDot text ++ tail := by
  cases text with
  | nil => exact absurd rfl nonempty
  | cons c rest =>
      by_cases isDot : c = '.'
      · subst isDot
        cases rest with
        | nil => exact absurd rfl notLone
        | cons d rest => rfl
      · rw [List.cons_append, dropDot_of_ne isDot, dropDot_of_ne isDot, List.cons_append]

end Shorthand

namespace Path

variable {text padding : List Char} {path : Path}

/-- A lone dot is a descent, but in front of white space it is the empty chain. -/
theorem compile_lone_padded (blank : Padding padding) (something : padding ≠ []) :
    compile (template (['.'] ++ padding)) = .ok ⟨template ('.' :: padding), []⟩ := by
  obtain ⟨c, rest, rfl⟩ := List.exists_cons_of_ne_nil something
  have isFields : Shorthand.IsFields ['.'] := ⟨by simp, rfl⟩
  have undotted : Shorthand.dropDot (['.'] ++ c :: rest) = c :: rest := rfl
  rw [compile_template (Shorthand.isFields_append isFields blank), undotted,
    Reader.inner_dot_of_blank blank]

/-- White space behind other fields changes nothing unless the path ends in a descent. -/
theorem compile_fields_padded (compiled : compile (template text) = .ok path)
    (notLone : text ≠ ['.']) (blank : Padding padding) (something : padding ≠ []) :
    compile (template (text ++ padding)) =
      if Chain.endsInDescent path.selectors then
        .error (.badPath (template (text ++ padding))
          (.emptyName ('.' :: Shorthand.dropDot text).length))
      else .ok ⟨template ('.' :: (Shorthand.dropDot text ++ padding)), path.selectors⟩ := by
  have isFields := Shorthand.isFields_of_compile compiled
  rw [compile_template isFields] at compiled
  rw [compile_template (Shorthand.isFields_append isFields blank),
    Shorthand.dropDot_append isFields.1 notLone]
  cases reads : Reader.inner ('.' :: Shorthand.dropDot text) with
  | error fault =>
      rw [reads] at compiled
      cases compiled
  | ok steps =>
      rw [reads] at compiled
      cases compiled
      rw [Reader.inner_dot_extend blank something reads]
      by_cases descends : Chain.endsInDescent steps = true
      · simp only [descends, if_true, List.length_cons]
      · simp only [descends, if_false, Bool.false_eq_true]

/-- White space at the end of a template is ignored exactly if the path does not end in a descent.
Behind a lone dot it turns the descent into the empty chain, and behind any other path that ends in a
descent it is refused, because there is no name where it begins. -/
theorem compile_padded (compiled : compile (template text) = .ok path) (blank : Padding padding)
    (something : padding ≠ []) :
    ((∃ padded, compile (template (text ++ padding)) = .ok padded ∧
          padded.selectors = path.selectors) ↔
        Chain.endsInDescent path.selectors = false) ∧
      (text = ['.'] → path.selectors = [.descent] ∧
        compile (template (text ++ padding)) = .ok ⟨template ('.' :: padding), []⟩) ∧
      (text ≠ ['.'] → Chain.endsInDescent path.selectors = true →
        compile (template (text ++ padding)) =
          .error (.badPath (template (text ++ padding))
            (.emptyName ('.' :: Shorthand.dropDot text).length))) := by
  by_cases lone : text = ['.']
  · subst lone
    have whole : compile (template ['.']) = .ok ⟨template ['.', '.'], [.descent]⟩ := rfl
    obtain rfl := Except.ok.inj (whole.symm.trans compiled)
    have emptied := compile_lone_padded blank something
    refine ⟨⟨?_, fun single => by cases single⟩, fun _ => ⟨rfl, emptied⟩, fun notLone => ?_⟩
    · rintro ⟨padded, again, same⟩
      obtain rfl := Except.ok.inj (emptied.symm.trans again)
      cases same
    · exact absurd rfl notLone
  · have outcome := compile_fields_padded compiled lone blank something
    refine ⟨⟨?_, fun single => ?_⟩, fun isLone => absurd isLone lone, fun _ descends => ?_⟩
    · rintro ⟨padded, again, -⟩
      by_contra descends
      rw [outcome, if_pos (by simpa using descends)] at again
      cases again
    · rw [single] at outcome
      exact ⟨_, outcome, rfl⟩
    · rw [outcome, if_pos descends]

/-- A tab behind a filter changes nothing; a space behind two dots is refused, and behind a lone dot
it changes the path. -/
theorem compile_padded_of_filter :
    Padding ['\t'] ∧ Padding [' '] ∧
      (compile (template "a[?(@.b == 'c')]".toList) = .ok ⟨template ".a[?(@.b == 'c')]".toList,
          [.field "a", .filter (.compare (.current [.field "b"]) .equal (.literal (.string "c")))]⟩ ∧
        ∃ padded, compile (template ("a[?(@.b == 'c')]".toList ++ ['\t'])) = .ok padded ∧
          padded.selectors = [.field "a",
            .filter (.compare (.current [.field "b"]) .equal (.literal (.string "c")))]) ∧
      (compile (template "a..".toList) = .ok ⟨template ".a..".toList, [.field "a", .descent]⟩ ∧
        compile (template ("a..".toList ++ [' '])) =
          .error (.badPath (template ("a..".toList ++ [' '])) (.emptyName 4))) ∧
      compile (template ['.']) = .ok ⟨template "..".toList, [.descent]⟩ ∧
        compile (template (['.'] ++ [' '])) = .ok ⟨template ". ".toList, []⟩ := by
  have tab : Padding ['\t'] := by simp [Padding, Text.isBlank]
  have space : Padding [' '] := by simp [Padding, Text.isBlank]
  have filter : compile (template "a[?(@.b == 'c')]".toList) =
      .ok ⟨template ".a[?(@.b == 'c')]".toList,
        [.field "a", .filter (.compare (.current [.field "b"]) .equal (.literal (.string "c")))]⟩ :=
    rfl
  have descent : compile (template "a..".toList) =
      .ok ⟨template ".a..".toList, [.field "a", .descent]⟩ := rfl
  have whole : compile (template ['.']) = .ok ⟨template "..".toList, [.descent]⟩ := rfl
  refine ⟨tab, space, ⟨filter, ?_⟩, ⟨descent, ?_⟩, whole, ?_⟩
  · exact (compile_padded filter tab (by simp)).1.mpr rfl
  · exact (compile_padded descent space (by simp)).2.2 (by decide) rfl
  · exact ((compile_padded whole space (by simp)).2.1 rfl).2

/-- A path that ends in two dots compiles, but with a space behind it there is no path that it
compiles to. -/
theorem compile_refuses_blank_behind_descent :
    Text.isBlank ' ' = true ∧
      compile "\x7ba..\x7d" = .ok ⟨"\x7b.a..\x7d", [.field "a", .descent]⟩ ∧
      compile "\x7ba.. \x7d" = .error (.badPath "\x7ba.. \x7d" (.emptyName 4)) :=
  ⟨rfl, rfl, rfl⟩

end Path

end WaitFor
