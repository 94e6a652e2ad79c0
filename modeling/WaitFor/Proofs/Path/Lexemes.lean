/-
Module: WaitFor.Proofs.Path.Lexemes
Purpose: The text of a path as a row of characters that stand for themselves and characters that an
  escape or quotes cover.
Main exports:
  Lexeme, Lexeme.scan, Lexeme.brackets, Lexeme.Lexes, Lexeme.Quiet, Lexeme.lexes_blank,
  Lexeme.quiet_of_nameBody, Lexeme.quiet_of_quoted, Lexeme.quiet_of_positions,
  Lexeme.quiet_of_constant, Lexeme.quiet_root
-/
import Mathlib
import WaitFor.Proofs.Path.Grammar
import WaitFor.Proofs.Text.Parts

namespace WaitFor

/-- A unit of a scanned text. -/
inductive Lexeme where
  /-- A character that stands for itself. -/
  | bare (c : Char)
  /-- An escape with the character behind it, a quote, or a character between quotes. -/
  | covered
deriving Repr, DecidableEq

namespace Lexeme

/-!
### Scanning

The scan knows nothing of paths.  It only knows whether it is between quotes and by which quote it
will leave them; a backslash covers the next character there and outside.
-/

/-- The lexemes of a text, from outside quotes or from behind a given opening quote.  There are none
if the text ends between quotes or behind a lone backslash. -/
def scan : Option Char → List Char → Option (List Lexeme)
  | none, [] => some []
  | some _, [] => none
  | _, ['\\'] => none
  | quote, '\\' :: _ :: rest => (scan quote rest).map (covered :: ·)
  | some quote, c :: rest => (scan (if c = quote then none else some quote) rest).map (covered :: ·)
  | none, c :: rest =>
    if Reader.isQuote c then (scan (some c) rest).map (covered :: ·)
    else (scan none rest).map (bare c :: ·)

/-- Whether a character is a bracket or a parenthesis. -/
def isBracket (c : Char) : Bool := ['[', ']', '(', ')'].contains c

/-- The brackets and parentheses that stand for themselves. -/
def brackets (lexemes : List Lexeme) : List Char :=
  lexemes.filterMap fun
    | .bare c => if isBracket c then some c else none
    | .covered => none

@[simp] theorem brackets_append (front back : List Lexeme) :
    brackets (front ++ back) = brackets front ++ brackets back := List.filterMap_append

/-- White space that stands for itself. -/
def Blank (lexemes : List Lexeme) : Prop :=
  ∀ lexeme ∈ lexemes, ∃ c, lexeme = bare c ∧ Text.isBlank c = true

/-!
### Fronts of a text

Outside quotes a scan can be cut: what it makes of a text is what it makes of the front, and then what
it makes of the rest.
-/

/-- The front of a text, up to the rest, is scanned as given lexemes. -/
def Lexes (text : List Char) (lexemes : List Lexeme) (rest : List Char) : Prop :=
  scan none text = (scan none rest).map (lexemes ++ ·)

theorem Lexes.refl (text : List Char) : Lexes text [] text := by
  simp [Lexes]

/-- Lexemes of one part behind those of another are the lexemes of both. -/
theorem Lexes.trans {text mid rest : List Char} {front back : List Lexeme}
    (first : Lexes text front mid) (second : Lexes mid back rest) :
    Lexes text (front ++ back) rest := by
  rw [Lexes, first, second, Option.map_map]
  congr 1
  funext lexemes
  exact (List.append_assoc front back lexemes).symm

/-- A text that is scanned to its end has exactly these lexemes. -/
theorem Lexes.scan_eq {text : List Char} {lexemes : List Lexeme} (whole : Lexes text lexemes []) :
    scan none text = some lexemes := by
  rw [whole, scan, Option.map_some, List.append_nil]

/-- The characters that are brackets or that the scan knows. -/
def marks : List Char := ['\\', '\'', '"', '[', ']', '(', ')']

/-- A class of characters without marks. -/
theorem not_mem_marks {p : Char → Bool} (excludes : marks.any p = false) {c : Char}
    (holds : p c = true) : c ∉ marks := by
  intro isMark
  rw [List.any_eq_false] at excludes
  exact excludes c isMark holds

/-- A character without a mark means nothing to the scan. -/
private theorem not_special {c : Char} (plain : c ∉ marks) :
    c ≠ '\\' ∧ Reader.isQuote c = false ∧ isBracket c = false := by
  simp only [marks, List.mem_cons, not_or] at plain
  simp [Reader.isQuote, isBracket, plain]

/-- A character that is neither a backslash nor a quote stands for itself. -/
private theorem lexes_cons {c : Char} (plain : c ≠ '\\') (unquoted : Reader.isQuote c = false)
    (rest : List Char) : Lexes (c :: rest) [bare c] rest := by
  rw [Lexes, scan, unquoted]
  · rfl
  · exact fun escape => absurd escape plain
  · exact fun _ _ escape => absurd escape plain

private theorem lexes_escape (c : Char) (rest : List Char) :
    Lexes ('\\' :: c :: rest) [covered] rest := rfl

/-- A front without brackets. -/
def Quiet (text rest : List Char) : Prop :=
  ∃ lexemes, Lexes text lexemes rest ∧ brackets lexemes = []

theorem Quiet.refl (text : List Char) : Quiet text text := ⟨[], Lexes.refl text, rfl⟩

/-- Two fronts without brackets, one behind the other, are one. -/
theorem Quiet.trans {text mid rest : List Char} (first : Quiet text mid) (second : Quiet mid rest) :
    Quiet text rest := by
  obtain ⟨front, frontLexes, frontQuiet⟩ := first
  obtain ⟨back, backLexes, backQuiet⟩ := second
  exact ⟨front ++ back, frontLexes.trans backLexes, by simp [frontQuiet, backQuiet]⟩

theorem quiet_cons {c : Char} (plain : c ∉ marks) (rest : List Char) : Quiet (c :: rest) rest := by
  obtain ⟨noEscape, unquoted, noBracket⟩ := not_special plain
  exact ⟨[bare c], lexes_cons noEscape unquoted rest, by simp [brackets, noBracket]⟩

/-- A text without marks has no brackets, whatever follows it. -/
theorem quiet_append {text : List Char} (plain : ∀ c ∈ text, c ∉ marks) (rest : List Char) :
    Quiet (text ++ rest) rest := by
  induction text with
  | nil => exact Quiet.refl rest
  | cons c text ih =>
      rw [List.forall_mem_cons] at plain
      exact (quiet_cons plain.1 (text ++ rest)).trans (ih plain.2)

/-- A run of a class without marks is quiet. -/
theorem quiet_dropWhile {p : Char → Bool} {text : List Char}
    (plain : ∀ c ∈ text.takeWhile p, c ∉ marks) : Quiet text (text.dropWhile p) := by
  have cut := quiet_append plain (text.dropWhile p)
  rwa [List.takeWhile_append_dropWhile] at cut

private theorem not_mem_marks_of_isBlank {c : Char} (blank : Text.isBlank c = true) : c ∉ marks :=
  not_mem_marks (p := Text.isBlank) rfl blank

/-!
### What the readers pass over
-/

/-- White space is scanned as white space. -/
theorem lexes_blank (text : List Char) :
    ∃ padding, Lexes text padding (Grammar.behindBlank text) ∧ Blank padding := by
  rw [Grammar.behindBlank]
  induction text with
  | nil => exact ⟨[], Lexes.refl [], by simp [Blank]⟩
  | cons c text ih =>
      cases blank : Text.isBlank c with
      | false =>
          rw [List.dropWhile_cons_of_neg (by simp [blank])]
          exact ⟨[], Lexes.refl _, by simp [Blank]⟩
      | true =>
          rw [List.dropWhile_cons_of_pos blank]
          obtain ⟨padding, lexes, areBlank⟩ := ih
          obtain ⟨noEscape, unquoted, -⟩ := not_special (not_mem_marks_of_isBlank blank)
          refine ⟨[bare c] ++ padding, (lexes_cons noEscape unquoted text).trans lexes, ?_⟩
          rw [List.singleton_append, Blank, List.forall_mem_cons]
          exact ⟨⟨c, rfl, blank⟩, areBlank⟩

/-- White space has no brackets. -/
theorem Blank.brackets_eq {padding : List Lexeme} (blank : Blank padding) : brackets padding = [] := by
  rw [brackets, List.filterMap_eq_nil_iff]
  intro lexeme member
  obtain ⟨c, rfl, isBlank⟩ := blank lexeme member
  obtain ⟨-, -, noBracket⟩ := not_special (not_mem_marks_of_isBlank isBlank)
  simp [noBracket]

/-- Passing over white space passes over no bracket. -/
theorem quiet_of_behindBlank {text rest : List Char} (behind : Grammar.behindBlank text = rest) :
    Quiet text rest := by
  obtain ⟨padding, lexes, blank⟩ := lexes_blank text
  rw [behind] at lexes
  exact ⟨padding, lexes, blank.brackets_eq⟩

theorem quiet_blank (text : List Char) : Quiet text (Grammar.behindBlank text) :=
  quiet_of_behindBlank rfl

/-- A name has no brackets but escaped ones. -/
theorem quiet_of_nameBody {text name rest : List Char}
    (reads : Reader.nameBody text = .ok (name, rest)) : Quiet text rest := by
  fun_induction Reader.nameBody text generalizing name rest with
  | case1 =>
      cases reads
      exact Quiet.refl _
  | case2 => cases reads
  | case3 c text ih =>
      obtain ⟨⟨inner, after⟩, body, same⟩ := Reader.bind_eq_ok.mp reads
      cases same
      have escaped : Quiet ('\\' :: c :: text) text := ⟨[covered], lexes_escape c text, rfl⟩
      exact escaped.trans (ih body)
  | case4 c text alone notEscape isName ih =>
      -- A backslash would count among the characters of a name, but it never gets here.
      obtain ⟨⟨inner, after⟩, body, same⟩ := Reader.bind_eq_ok.mp reads
      cases same
      have noEscape : c ≠ '\\' := by
        rintro rfl
        cases text with
        | nil => exact alone rfl rfl
        | cons d text => exact notEscape d text rfl rfl
      have plain : c ∉ marks :=
        not_mem_marks (p := fun c => Reader.isNameChar c && c != '\\') rfl (by simp [isName, noEscape])
      exact (quiet_cons plain text).trans (ih body)
  | case5 =>
      cases reads
      exact Quiet.refl _

/-- The text up to the closing quote is covered, whatever it holds. -/
private theorem scan_of_quotedBody {quote : Char} (notEscape : quote ≠ '\\')
    {text content rest : List Char}
    (reads : Reader.quotedBody quote text = some (content, rest)) :
    ∃ lexemes, scan (some quote) text = (scan none rest).map (lexemes ++ ·) ∧
      brackets lexemes = [] := by
  fun_induction Reader.quotedBody quote text generalizing content rest with
  | case1 => cases reads
  | case2 => cases reads
  | case3 c text ih =>
      obtain ⟨⟨inner, after⟩, body, same⟩ := Option.map_eq_some_iff.mp reads
      cases same
      obtain ⟨lexemes, scanned, quiet⟩ := ih body
      refine ⟨covered :: lexemes, ?_, quiet⟩
      rw [scan, scanned, Option.map_map]
      rfl
  | case4 text =>
      cases reads
      refine ⟨[covered], ?_, rfl⟩
      rw [scan, if_pos rfl]
      · rfl
      · exact fun escape => absurd escape notEscape
      · exact fun _ _ escape => absurd escape notEscape
  | case5 c text alone notPair inside ih =>
      obtain ⟨⟨inner, after⟩, body, same⟩ := Option.map_eq_some_iff.mp reads
      cases same
      obtain ⟨lexemes, scanned, quiet⟩ := ih body
      refine ⟨covered :: lexemes, ?_, quiet⟩
      rw [scan, if_neg inside, scanned, Option.map_map]
      · rfl
      · exact alone
      · exact notPair

/-- A text in quotes has no brackets that stand for themselves. -/
theorem quiet_of_quoted {text rest : List Char} {content : String}
    (quoted : Grammar.Quoted text content rest) : Quiet text rest := by
  cases quoted with
  | @quoted quote body _ _ isQuote inside =>
      have notEscape : quote ≠ '\\' := by
        rintro rfl
        cases isQuote
      obtain ⟨lexemes, scanned, quiet⟩ := scan_of_quotedBody notEscape inside
      refine ⟨covered :: lexemes, ?_, quiet⟩
      rw [Lexes, scan, if_pos isQuote, scanned, Option.map_map]
      · rfl
      · exact fun escape => absurd escape notEscape
      · exact fun _ _ escape => absurd escape notEscape

/-! ### Positions and constants -/

/-- The characters of positions and bounds, with the colons and the white space between them. -/
def isPositionChar (c : Char) : Bool :=
  c.isDigit || Text.isBlank c || ['-', '+', ':'].contains c

private theorem isPositionChar_of_isBlank {c : Char} (blank : Text.isBlank c = true) :
    isPositionChar c = true := by
  simp [isPositionChar, blank]

/-- An integer is a row of digits behind at most one sign. -/
private theorem isPositionChar_of_integer {text : List Char} {position : Int}
    (reads : Reader.integer? text = some position) : ∀ c ∈ text, isPositionChar c = true := by
  simp only [Reader.integer?, readInteger?, Option.bind_eq_bind, Option.bind_eq_some_iff] at reads
  obtain ⟨n, digitsRead, -⟩ := reads
  rw [readNatural?] at digitsRead
  obtain ⟨filled, -⟩ := Option.ite_none_right_eq_some.mp digitsRead
  have digits : ∀ c ∈ (splitSign text).2, isPositionChar c = true := by
    rw [Bool.and_eq_true, List.all_eq_true] at filled
    intro c member
    simp [isPositionChar, filled.2 c member]
  rw [splitSign.eq_def] at digits
  split at digits
  · exact List.forall_mem_cons.mpr ⟨rfl, digits⟩
  · exact List.forall_mem_cons.mpr ⟨rfl, digits⟩
  · exact digits

/-- A bound holds an integer between white space, or white space alone. -/
private theorem isPositionChar_of_bound {part : List Char} {bound : Option Int}
    (reads : Reader.bound? part = some bound) : ∀ c ∈ part, isPositionChar c = true := by
  intro c member
  obtain blank | inside := Text.mem_trim member
  · exact isPositionChar_of_isBlank blank
  · rw [Reader.bound?] at reads
    split at reads
    · next nothing =>
        rw [nothing] at inside
        cases inside
    · obtain ⟨position, isInteger, -⟩ := Option.map_eq_some_iff.mp reads
      exact isPositionChar_of_integer isInteger c inside

/-- The reader of an index or a slice passes to the next closing bracket without a look at what it
passes over, but it accepts nothing with a mark in it. -/
private theorem isPositionChar_of_indexOrSliceOf {text : List Char} {selector : Selector}
    (reads : Reader.indexOrSliceOf text = .ok selector) : ∀ c ∈ text, isPositionChar c = true := by
  obtain ⟨position, -, isInteger⟩ | ⟨start, stop, step, -, areBounds, -⟩ :=
    Reader.indexOrSliceOf_cases reads
  · exact isPositionChar_of_integer isInteger
  · intro c member
    obtain rfl | ⟨part, isPart, inPart⟩ := Text.mem_splitAtEach ':' member
    · rfl
    · obtain ⟨bound, isBound⟩ := areBounds part isPart
      exact isPositionChar_of_bound isBound c inPart

/-- An index or a slice has no brackets up to the closing one. -/
theorem quiet_of_positions {text : List Char} {selector : Selector}
    (reads : Reader.indexOrSliceOf (Text.trim (text.takeWhile (· != ']'))) = .ok selector) :
    Quiet text (text.dropWhile (· != ']')) := by
  refine quiet_dropWhile fun c member => not_mem_marks (p := isPositionChar) rfl ?_
  obtain blank | inside := Text.mem_trim member
  · exact isPositionChar_of_isBlank blank
  · exact isPositionChar_of_indexOrSliceOf reads c inside

/-- A constant has no brackets that stand for themselves. -/
theorem quiet_of_constant {text rest : List Char} {value : Literal}
    (constant : Grammar.Constant text value rest) : Quiet text rest := by
  cases constant with
  | string quoted => exact quiet_of_quoted quoted
  | number =>
      refine quiet_dropWhile fun c member => ?_
      exact not_mem_marks (p := Reader.isNumberChar) rfl (List.mem_takeWhile_imp member)
  | word known rest =>
      simp only [Reader.keywords, List.mem_cons, Prod.mk.injEq, List.not_mem_nil, or_false] at known
      obtain ⟨rfl, rfl⟩ | ⟨rfl, rfl⟩ | ⟨rfl, rfl⟩ := known
      · exact quiet_append (by simp [marks]) rest
      · exact quiet_append (by simp [marks]) rest
      · exact quiet_append (by simp [marks]) rest

theorem quiet_of_comparison (op : Comparison) (rest : List Char) :
    Quiet (op.text.toList ++ rest) rest := by
  cases op <;> exact quiet_append (by simp [Comparison.text, marks]) rest

/-! ### Names -/

/-- What follows a dot has no brackets that stand for themselves. -/
theorem quiet_of_afterDot {text rest : List Char} {selector : Selector}
    (behind : Grammar.AfterDot text selector rest) : Quiet text rest := by
  cases behind with
  | wildcard rest => exact quiet_cons (by decide) rest
  | field reads => exact quiet_of_nameBody reads

/-- The further names of a union have no brackets that stand for themselves. -/
theorem quiet_of_moreNames {text rest : List Char} {names : List String}
    (moreNames : Grammar.MoreNames text names rest) : Quiet text rest := by
  induction moreNames with
  | done text => exact quiet_blank text
  | @more text after mid rest name names comma first next ih =>
      have front := (quiet_of_behindBlank comma).trans (quiet_cons (by decide) after)
      exact front.trans ((quiet_blank after).trans ((quiet_of_quoted first).trans ih))

theorem quiet_dot (text : List Char) : Quiet ('.' :: text) text := quiet_cons (by decide) text

theorem quiet_dots (text : List Char) : Quiet ('.' :: '.' :: text) text :=
  (quiet_dot ('.' :: text)).trans (quiet_dot text)

private theorem quiet_advance {k : Cursor} {c : Char} {text : List Char} (plain : c ∉ marks)
    (front : k.rest = c :: text) : Quiet k.rest (k.advance 1).rest := by
  rw [Cursor.rest_advance front, front]
  exact quiet_cons plain text

/-- What may stand before the first step holds no bracket. -/
theorem quiet_root (k : Cursor) : Quiet k.rest (Reader.root k).rest := by
  refine (quiet_blank k.rest).trans ?_
  rw [Reader.root, ← Cursor.rest_skipBlank]
  generalize k.skipBlank = k
  -- A dot may stand behind a dollar sign or alone, and is passed over only at the end.
  split
  · next text dot =>
      split at dot
      · next after dollar =>
          have passed := quiet_advance (by decide) dollar
          split
          · exact passed.trans (quiet_advance (by decide) dot)
          · exact passed
      · split
        · exact quiet_advance (by decide) dot
        · exact Quiet.refl _
  · split
    · next after dollar => exact quiet_advance (by decide) dollar
    · exact Quiet.refl _

end Lexeme

end WaitFor
