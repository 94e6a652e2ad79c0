/-
Module: WaitFor.Proofs.Path.Extension
Purpose: What a path reader makes of a text is what it makes of it in front of white space.
Main exports:
  Cursor.extend, Reader.Extends, Reader.Needs, Reader.operand_extends, Reader.test_extends,
  Reader.filter_extend, Reader.bracket_extend, Reader.step_cases, Reader.step_extend,
  Reader.chain_extend
-/
import Mathlib
import WaitFor.Proofs.Path.Accepted

namespace WaitFor

open Spelling

namespace Cursor

/-!
### Places in a longer text
-/

/-- The same place in a text with more behind it. -/
def extend (k : Cursor) (tail : List Char) : Cursor := ⟨k.position, k.rest ++ tail⟩

theorem advance_extend {k : Cursor} (count : Nat) (enough : count ≤ k.rest.length)
    (tail : List Char) : (k.extend tail).advance count = (k.advance count).extend tail := by
  simp only [extend, advance, List.drop_append_of_le_length enough]

/-- A word that stands in front is passed over in a longer text as well. -/
theorem advance_word_extend {k : Cursor} {word : String}
    (isFront : word.toList.isPrefixOf k.rest = true) (tail : List Char) :
    (k.extend tail).advance word.length = (k.advance word.length).extend tail := by
  apply advance_extend
  rw [← String.length_toList]
  exact (List.isPrefixOf_iff_prefix.mp isFront).length_le

theorem moveTo_extend (k : Cursor) (rest tail : List Char) :
    (k.extend tail).moveTo (rest ++ tail) = (k.moveTo rest).extend tail := by
  simp only [extend, moveTo, List.length_append, Nat.add_sub_add_right]

/-- A run of characters ends where it does as long as something is left behind it. -/
theorem skipWhile_extend {k : Cursor} {p : Char → Bool} (left : (k.skipWhile p).rest ≠ [])
    (tail : List Char) : (k.extend tail).skipWhile p = (k.skipWhile p).extend tail := by
  have dropped : (k.rest ++ tail).dropWhile p = k.rest.dropWhile p ++ tail := by
    have notEmpty : (k.rest.dropWhile p).isEmpty = false := by simpa [skipWhile, moveTo] using left
    rw [List.dropWhile_append, notEmpty]
    rfl
  rw [skipWhile, skipWhile, ← moveTo_extend]
  simp only [extend, dropped]

/-- White space that ends before the text does is passed over with any tail. -/
theorem skipBlank_extend {k : Cursor} (left : k.skipBlank.rest ≠ []) (tail : List Char) :
    (k.extend tail).skipBlank = k.skipBlank.extend tail :=
  skipWhile_extend left tail

/-- What stands behind white space stands there in a longer text. -/
theorem rest_skipBlank_extend {k : Cursor} {c : Char} {more : List Char}
    (front : k.skipBlank.rest = c :: more) (tail : List Char) :
    (k.extend tail).skipBlank.rest = c :: (more ++ tail) := by
  rw [skipBlank_extend (by simp [front]), extend, front]
  rfl

/-- Something behind white space is something. -/
theorem left_of_skipBlank {k : Cursor} (left : k.skipBlank.rest ≠ []) : k.rest ≠ [] := by
  intro nothing
  rw [rest_skipBlank, nothing] at left
  exact left rfl

/-- What a text does not begin with, a longer one does not begin with either. -/
theorem front_extend {k : Cursor} (left : k.rest ≠ []) {c : Char}
    (other : ∀ more, k.rest ≠ c :: more) (tail : List Char) :
    ∀ more, (k.extend tail).rest ≠ c :: more := by
  intro more begins
  obtain ⟨d, text, same⟩ := List.exists_cons_of_ne_nil left
  rw [extend, same] at begins
  obtain ⟨rfl, -⟩ := List.cons.inj begins
  exact other text same

end Cursor

namespace Reader

open Cursor

/-!
### Readers that need something

Where one reader follows on another behind white space, there is something behind the white space,
because the second reader would have failed on nothing.
-/

/-- A reader that fails where nothing is left. -/
def Needs {α : Type} (reader : Reads α) : Prop :=
  ∀ position, ∃ fault, reader ⟨position, []⟩ = .error fault

/-- A reader that fails on nothing has read something. -/
theorem Needs.left {α : Type} {reader : Reads α} (needs : Needs reader) {k next : Cursor}
    {value : α} (reads : reader k = .ok (value, next)) : k.rest ≠ [] := by
  intro nothing
  obtain ⟨position, text⟩ := k
  obtain rfl : text = [] := nothing
  obtain ⟨fault, failed⟩ := needs position
  rw [failed] at reads
  cases reads

theorem afterDot_needs : Needs afterDot := fun _ => ⟨_, rfl⟩

theorem quoted_needs : Needs quoted := fun _ => ⟨_, rfl⟩

theorem comparison_needs : Needs comparison := fun _ => ⟨_, rfl⟩

theorem operand_needs (path : Reads Chain) : Needs (operand path) := fun _ => ⟨_, rfl⟩

theorem test_needs (path : Reads Chain) : Needs (test path) := fun _ => ⟨_, rfl⟩

theorem bracketBody_needs (path : Reads Chain) : Needs (bracketBody path) := fun _ => ⟨_, rfl⟩

private theorem left_of_expect {wanted : Char} {k next : Cursor}
    (reads : expect wanted k = .ok next) : k.rest ≠ [] := by
  rw [(expect_follows reads).2]
  exact List.cons_ne_nil _ _

/-!
### Names, texts in quotes and positions

A reader that stops at a mark of its own (a closing quote, a bracket) makes the same of a longer text,
whatever is added.  One that goes on as far as it can does so only if something was left, or if what
is added stops it; the added text is white space in the end, which continues nothing.
-/

/-- What one reader reads in front of something, another one reads in front of something longer. -/
def Extends {α : Type} (size : Nat) (tail : List Char) (reader longer : Reads α) : Prop :=
  ∀ {k next : Cursor} {value : α}, k.rest.length ≤ size → reader k = .ok (value, next) →
    next.rest ≠ [] → longer (k.extend tail) = .ok (value, next.extend tail)

variable {tail : List Char}

/-- The cases of a reader that come behind those of a backslash are about other characters. -/
theorem plain_of_no_escape {c : Char} {text : List Char} (noEnd : c = '\\' → text = [] → False)
    (noEscape : ∀ d rest, c = '\\' → text = d :: rest → False) : c ≠ '\\' := by
  intro same
  cases text with
  | nil => exact noEnd same rfl
  | cons d rest => exact noEscape d rest same rfl

/-- A name ends where it did if the tail does not go on with it. -/
theorem nameBody_append {text name rest : List Char} (stops : Stops isNameChar tail)
    (reads : nameBody text = .ok (name, rest)) :
    nameBody (text ++ tail) = .ok (name, rest ++ tail) := by
  fun_induction nameBody text generalizing name rest with
  | case1 =>
      cases reads
      exact nameBody_of_stops stops
  | case2 => cases reads
  | case3 c text ih =>
      obtain ⟨⟨inner, after⟩, body, same⟩ := bind_eq_ok.mp reads
      cases same
      rw [List.cons_append, List.cons_append, nameBody_escape, ih body]
      rfl
  | case4 c text noEnd noEscape isName ih =>
      obtain ⟨⟨inner, after⟩, body, same⟩ := bind_eq_ok.mp reads
      cases same
      have plain : c ≠ '\\' := plain_of_no_escape noEnd noEscape
      rw [List.cons_append, nameBody_cons plain, if_pos isName, ih body]
      rfl
  | case5 c text _ _ noName =>
      cases reads
      exact nameBody_of_stops (Stops.cons (by simpa using noName) (text ++ tail))

/-- A text in quotes ends at its closing quote, whatever follows. -/
theorem quotedBody_append {quote : Char} {text content rest : List Char}
    (reads : quotedBody quote text = some (content, rest)) (tail : List Char) :
    quotedBody quote (text ++ tail) = some (content, rest ++ tail) := by
  fun_induction quotedBody quote text generalizing content rest with
  | case1 => cases reads
  | case2 => cases reads
  | case3 c text ih =>
      obtain ⟨⟨inner, after⟩, body, same⟩ := Option.map_eq_some_iff.mp reads
      cases same
      rw [List.cons_append, List.cons_append, quotedBody, ih body]
      rfl
  | case4 text noEnd noEscape =>
      cases reads
      have plain : quote ≠ '\\' := plain_of_no_escape noEnd noEscape
      rw [List.cons_append, quotedBody.eq_4 _ _ _ (by simp [plain]) (by simp [plain]), if_pos rfl]
  | case5 c text noEnd noEscape inside ih =>
      obtain ⟨⟨inner, after⟩, body, same⟩ := Option.map_eq_some_iff.mp reads
      cases same
      have plain : c ≠ '\\' := plain_of_no_escape noEnd noEscape
      rw [List.cons_append, quotedBody_cons_of_ne plain inside, ih body]
      rfl

theorem name_extend {k next : Cursor} {value : String} (stops : Stops isNameChar tail)
    (reads : name k = .ok (value, next)) :
    name (k.extend tail) = .ok (value, next.extend tail) := by
  obtain ⟨⟨body, rest⟩, inside, named⟩ := bind_eq_ok.mp reads
  dsimp only at named
  split at named
  · cases named
  · next nonempty =>
      cases named
      rw [name, extend, nameBody_append stops inside, ← moveTo_extend]
      simp only [bind, Except.bind, nonempty, if_false, Bool.false_eq_true, extend]

theorem afterDot_extend {k next : Cursor} {selector : Selector} (stops : Stops isNameChar tail)
    (reads : afterDot k = .ok (selector, next)) :
    afterDot (k.extend tail) = .ok (selector, next.extend tail) := by
  obtain ⟨c, text, same⟩ := List.exists_cons_of_ne_nil (afterDot_needs.left reads)
  obtain ⟨position, front⟩ := k
  obtain rfl : front = c :: text := same
  by_cases isAsterisk : c = '*'
  · subst isAsterisk
    cases reads
    rfl
  · rw [afterDot_of_ne isAsterisk] at reads
    obtain ⟨⟨value, mid⟩, named, same⟩ := bind_eq_ok.mp reads
    cases same
    have longer : name ⟨position, c :: (text ++ tail)⟩ = .ok (value, mid.extend tail) :=
      name_extend stops named
    exact (afterDot_of_ne isAsterisk position (text ++ tail)).trans (by rw [longer]; rfl)

theorem quoted_extend {k next : Cursor} {text : String} (reads : quoted k = .ok (text, next))
    (tail : List Char) : quoted (k.extend tail) = .ok (text, next.extend tail) := by
  obtain ⟨position, front⟩ := k
  rw [quoted.eq_def] at reads
  split at reads
  · cases reads
  · next quote body same =>
      obtain rfl : front = quote :: body := same
      split at reads
      · next isQuote =>
          split at reads
          · next content rest inside =>
              cases reads
              rw [← moveTo_extend, quoted, extend]
              simp only [List.cons_append, isQuote, if_true, quotedBody_append inside tail]
          · cases reads
      · cases reads

/-- A comma stands in front of one more name. -/
theorem moreNames_of_comma {k : Cursor} {after : List Char}
    (comma : k.skipBlank.rest = ',' :: after) (fuel : Nat) :
    moreNames (fuel + 1) k =
      (quoted (k.skipBlank.advance 1).skipBlank).bind fun first =>
        (moreNames fuel first.2).bind fun others => .ok (first.1 :: others.1, others.2) := by
  rw [moreNames]
  simp only [comma]
  rfl

/-- Names end where no comma follows. -/
theorem moreNames_of_no_comma {k : Cursor} (ends : ∀ after, k.skipBlank.rest ≠ ',' :: after)
    (fuel : Nat) : moreNames (fuel + 1) k = .ok ([], k.skipBlank) := by
  rw [moreNames]
  split
  · next after comma => exact absurd comma (ends after)
  · rfl

/-- By induction on the fuel, of which a name with its comma takes one. -/
theorem moreNames_extends {fuel more : Nat} (enough : fuel ≤ more) (tail : List Char) :
    Extends fuel tail (moreNames fuel) (moreNames more) := by
  induction fuel generalizing more with
  | zero =>
      intro k next names small reads left
      cases reads
      exact absurd (List.length_eq_zero_iff.mp (by omega)) left
  | succ fuel ih =>
      intro k next names small reads left
      obtain ⟨more, rfl⟩ : ∃ fewer, more = fewer + 1 := ⟨more - 1, by omega⟩
      by_cases comma : ∃ after, k.skipBlank.rest = ',' :: after
      · obtain ⟨after, comma⟩ := comma
        have blank := skipBlank_extend (k := k) (by simp [comma]) tail
        have passed := advance_extend (k := k.skipBlank) 1 (by simp [comma]) tail
        rw [moreNames_of_comma comma] at reads
        obtain ⟨⟨first, mid⟩, firstRead, reads⟩ := bind_eq_ok.mp reads
        obtain ⟨⟨others, last⟩, othersRead, same⟩ := bind_eq_ok.mp reads
        cases same
        have behind : Ahead (k.skipBlank.advance 1) mid :=
          (ahead_skipBlank _).trans (quoted_follows _ le_rfl firstRead).1
        have fits : mid.rest.length ≤ fuel := by
          have shorter := (ahead_skipBlank k).length_le
          have fewer := behind.length_le
          simp only [advance, List.length_drop] at fewer
          omega
        rw [moreNames_of_comma (rest_skipBlank_extend comma tail), blank, passed,
          skipBlank_extend (quoted_needs.left firstRead), quoted_extend firstRead]
        simp only [Except.bind, ih (by omega : fuel ≤ more) fits othersRead left]
      · rw [not_exists] at comma
        rw [moreNames_of_no_comma comma] at reads
        cases reads
        have blank := skipBlank_extend left tail
        have endsLonger : ∀ after, (k.extend tail).skipBlank.rest ≠ ',' :: after := by
          rw [blank]
          exact front_extend left comma tail
        rw [moreNames_of_no_comma endsLonger, blank]

/-- Names in quotes end where they did, since something is left behind them. -/
theorem names_extends (size : Nat) (tail : List Char) : Extends size tail names names := by
  intro k next selector small reads left
  obtain ⟨⟨first, mid⟩, quotedRead, reads⟩ := bind_eq_ok.mp reads
  obtain ⟨⟨others, last⟩, othersRead, same⟩ := bind_eq_ok.mp reads
  cases same
  have longer : mid.rest.length ≤ (mid.extend tail).rest.length := by simp [extend]
  rw [names, quoted_extend quotedRead tail]
  simp only [bind, Except.bind, moreNames_extends longer tail le_rfl othersRead left]

/-- What stands before the first character that ends a run does not depend on what comes later. -/
private theorem takeWhile_append_of_left {p : Char → Bool} {text : List Char}
    (left : text.dropWhile p ≠ []) (tail : List Char) :
    (text ++ tail).takeWhile p = text.takeWhile p := by
  have short : (text.takeWhile p).length ≠ text.length := by
    have parts := congrArg List.length (List.takeWhile_append_dropWhile (p := p) (l := text))
    have positive := List.length_pos_of_ne_nil left
    rw [List.length_append] at parts
    omega
  rw [List.takeWhile_append, if_neg short]

theorem indexOrSlice_extends (size : Nat) (tail : List Char) :
    Extends size tail indexOrSlice indexOrSlice := by
  intro k next selector small reads left
  obtain ⟨found, positions, same⟩ := bind_eq_ok.mp reads
  cases same
  rw [indexOrSlice, skipWhile_extend left, extend, takeWhile_append_of_left left, positions]
  rfl

/-!
### Constants and comparisons
-/

theorem number_extends (size : Nat) (tail : List Char) : Extends size tail number number := by
  intro k next value small reads left
  rw [number] at reads
  split at reads
  · next decimal parsed =>
      cases reads
      rw [number, skipWhile_extend left, extend, takeWhile_append_of_left left]
      simp only [parsed]
  · cases reads

/-- Whether a word stands in front does not depend on white space behind, of which it has none. -/
private theorem isPrefixOf_append {word : List Char} (solid : ∀ c ∈ word, Text.isBlank c = false)
    (blank : Padding tail) (text : List Char) :
    word.isPrefixOf (text ++ tail) = word.isPrefixOf text := by
  rw [Bool.eq_iff_iff, List.isPrefixOf_iff_prefix, List.isPrefixOf_iff_prefix]
  refine ⟨fun front => ?_, fun front => front.trans (List.prefix_append _ _)⟩
  obtain isFront | ⟨more, rfl⟩ :=
    List.prefix_or_prefix_of_prefix front (List.prefix_append text tail)
  · exact isFront
  · have inTail := (List.prefix_append_right_inj text).mp front
    cases more with
    | nil => rw [List.append_nil]
    | cons c more =>
        have isBlank := blank c (inTail.subset List.mem_cons_self)
        rw [solid c (by simp)] at isBlank
        cases isBlank

/-- Padding does not make one comparison out of another. -/
theorem comparison_extend {k next : Cursor} {op : Comparison} (blank : Padding tail)
    (reads : comparison k = .ok (op, next)) :
    comparison (k.extend tail) = .ok (op, next.extend tail) := by
  have solid (op : Comparison) : ∀ c ∈ op.text.toList, Text.isBlank c = false := by
    cases op <;> simp [Comparison.text] <;> decide
  rw [comparison] at reads
  split at reads
  · next found =>
      cases reads
      have isFront : op.text.toList.isPrefixOf k.rest = true :=
        List.find?_some (p := fun op : Comparison => op.text.toList.isPrefixOf k.rest) found
      have longer : (comparisons.find? fun op =>
          op.text.toList.isPrefixOf (k.extend tail).rest) = some op :=
        (List.find?_congr fun op _ => isPrefixOf_append (solid op) blank k.rest).trans found
      rw [comparison, ← advance_word_extend isFront]
      simp only [longer]
  · cases reads

private theorem keyword_of_find {k : Cursor} {first : Char} {word : String} {value : Literal}
    (found : (keywords.find? fun entry => entry.1.toList.isPrefixOf k.rest) = some (word, value)) :
    keyword k first = .ok (value, k.advance word.length) := by
  rw [keyword]
  split
  · next other constant isOther =>
      cases isOther.symm.trans found
      rfl
  · next missing => cases missing.symm.trans found

theorem keyword_extend {k next : Cursor} {value : Literal} {first : Char} (blank : Padding tail)
    (reads : keyword k first = .ok (value, next)) :
    keyword (k.extend tail) first = .ok (value, next.extend tail) := by
  have solid : ∀ entry ∈ keywords, ∀ c ∈ entry.1.toList, Text.isBlank c = false := by
    intro entry member
    fin_cases member <;> simp <;> decide
  rw [keyword] at reads
  split at reads
  · next word constant found =>
      cases reads
      have isFront : word.toList.isPrefixOf k.rest = true :=
        List.find?_some (p := fun entry : String × Literal => entry.1.toList.isPrefixOf k.rest) found
      have longer : (keywords.find? fun entry =>
          entry.1.toList.isPrefixOf (k.extend tail).rest) = some (word, value) :=
        (List.find?_congr fun entry member =>
          isPrefixOf_append (solid entry member) blank k.rest).trans found
      rw [← advance_word_extend isFront]
      exact keyword_of_find longer
  · cases reads

/-- A character that is there is there with any tail. -/
theorem expect_extend {wanted : Char} {k next : Cursor} (reads : expect wanted k = .ok next)
    (tail : List Char) : expect wanted (k.extend tail) = .ok (next.extend tail) := by
  obtain ⟨position, text⟩ := k
  cases text with
  | nil => cases reads
  | cons c text =>
      rw [expect] at reads
      dsimp only at reads
      split at reads
      · next isWanted =>
          cases reads
          rw [← advance_extend 1 (by simp), extend, expect]
          simp only [List.cons_append, isWanted, if_true]
      · cases reads

/-!
### Filters and brackets

The readers take the reader of the paths inside a filter as an argument.  The lemmas suppose that a
second such reader extends the first one on fewer characters than the filter has.
-/

/-- A path alone is known by the parenthesis behind it. -/
theorem test_of_closed {path : Reads Chain} {k mid : Cursor} {steps : Chain} {more : List Char}
    (first : operand path k = .ok (.current steps, mid))
    (closes : mid.skipBlank.rest = ')' :: more) :
    test path k = .ok (.present steps, mid.skipBlank) := by
  rw [test, first]
  simp only [bind, Except.bind, closes]

/-- A constant alone is no test. -/
theorem test_of_literal {path : Reads Chain} {k mid : Cursor} {value : Literal} {more : List Char}
    (first : operand path k = .ok (.literal value, mid))
    (closes : mid.skipBlank.rest = ')' :: more) : test path k = .error .literalAlone := by
  rw [test, first]
  simp only [bind, Except.bind, closes]

/-- An operand that is not alone is compared with a second one. -/
theorem test_of_open {path : Reads Chain} {k mid : Cursor} {side : Operand}
    (first : operand path k = .ok (side, mid))
    (opens : ∀ more, mid.skipBlank.rest ≠ ')' :: more) :
    test path k =
      (comparison mid.skipBlank).bind fun sign =>
        (operand path sign.2.skipBlank).bind fun second =>
          .ok (.compare side sign.1 second.1, second.2) := by
  rw [test, first]
  simp only [bind, Except.bind]
  split
  · next closes => exact absurd closes (opens _)
  · next closes => exact absurd closes (opens _)
  · rfl

section Filters

variable {path longer : Reads Chain} {size : Nat}
variable (blank : Padding tail) (paths : Extends size tail path longer)

include blank paths

/-- A side of a comparison ends where it did in front of padding. -/
theorem operand_extends : Extends (size + 1) tail (operand path) (operand longer) := by
  intro k next side small reads left
  obtain ⟨position, text⟩ := k
  cases text with
  | nil => cases reads
  | cons c text =>
      have front : (⟨position, c :: text⟩ : Cursor).extend tail = ⟨position, c :: (text ++ tail)⟩ :=
        rfl
      have passed := advance_extend (k := ⟨position, c :: text⟩) 1 (by simp) tail
      rw [front] at passed
      rw [operand] at reads
      rw [front, operand]
      dsimp only at reads ⊢
      split at reads
      · next isPath =>
          obtain ⟨⟨steps, mid⟩, pathRead, same⟩ := bind_eq_ok.mp reads
          cases same
          have fits : ((⟨position, c :: text⟩ : Cursor).advance 1).rest.length ≤ size := by
            simpa [advance] using small
          rw [if_pos isPath, passed, paths fits pathRead left]
          rfl
      · next noPath =>
          rw [if_neg noPath]
          split at reads
          · next isText =>
              obtain ⟨⟨content, mid⟩, quotedRead, same⟩ := bind_eq_ok.mp reads
              cases same
              rw [if_pos isText, ← front, quoted_extend quotedRead]
              rfl
          · next noText =>
              rw [if_neg noText]
              split at reads
              · next isNumber =>
                  obtain ⟨⟨value, mid⟩, numberRead, same⟩ := bind_eq_ok.mp reads
                  cases same
                  rw [if_pos isNumber, ← front, number_extends _ tail le_rfl numberRead left]
                  rfl
              · next noNumber =>
                  obtain ⟨⟨value, mid⟩, wordRead, same⟩ := bind_eq_ok.mp reads
                  cases same
                  rw [if_neg noNumber, ← front, keyword_extend blank wordRead]
                  rfl

variable (follows : Follows size path Grammar.Steps)

include follows

theorem test_extends : Extends (size + 1) tail (test path) (test longer) := by
  intro k next t small reads left
  obtain ⟨⟨side, mid⟩, firstRead, -⟩ := bind_eq_ok.mp reads
  by_cases closes : ∃ more, mid.skipBlank.rest = ')' :: more
  · obtain ⟨more, closes⟩ := closes
    have skipped := skipBlank_extend (k := mid) (by simp [closes]) tail
    have closesLonger := rest_skipBlank_extend closes tail
    have firstLonger :=
      operand_extends blank paths small firstRead (left_of_skipBlank (by simp [closes]))
    cases side with
    | current steps =>
        rw [test_of_closed firstRead closes] at reads
        cases reads
        rw [test_of_closed firstLonger closesLonger, skipped]
    | literal value =>
        rw [test_of_literal firstRead closes] at reads
        cases reads
  · rw [not_exists] at closes
    rw [test_of_open firstRead closes] at reads
    obtain ⟨⟨op, behind⟩, signRead, reads⟩ := bind_eq_ok.mp reads
    obtain ⟨⟨other, last⟩, secondRead, same⟩ := bind_eq_ok.mp reads
    cases same
    have signLeft := comparison_needs.left signRead
    have skipped := skipBlank_extend signLeft tail
    have opensLonger : ∀ more, (mid.extend tail).skipBlank.rest ≠ ')' :: more := by
      rw [skipped]
      exact front_extend signLeft closes tail
    have firstLonger := operand_extends blank paths small firstRead (left_of_skipBlank signLeft)
    have before := (operand_follows follows small firstRead).1.trans ((ahead_skipBlank mid).trans
      ((comparison_follows signRead).1.trans (ahead_skipBlank behind)))
    rw [test_of_open firstLonger opensLonger, skipped, comparison_extend blank signRead]
    simp only [Except.bind]
    rw [skipBlank_extend ((operand_needs path).left secondRead),
      operand_extends blank paths (before.length_le.trans small) secondRead left]

/-- A filter closes with a parenthesis of its own, so nothing has to be left behind it. -/
theorem filter_extend {k next : Cursor} {t : Test} (small : k.rest.length ≤ size + 1)
    (reads : filter path k = .ok (t, next)) :
    filter longer (k.extend tail) = .ok (t, next.extend tail) := by
  obtain ⟨inside, openRead, reads⟩ := bind_eq_ok.mp reads
  obtain ⟨⟨_, mid⟩, testRead, reads⟩ := bind_eq_ok.mp reads
  obtain ⟨last, closeRead, same⟩ := bind_eq_ok.mp reads
  cases same
  have front := (ahead_skipBlank k).trans
    ((expect_follows openRead).1.trans (ahead_skipBlank inside))
  have closes := left_of_expect closeRead
  have testLonger := test_extends blank paths follows (front.length_le.trans small) testRead
    (left_of_skipBlank closes)
  rw [filter, skipBlank_extend (left_of_expect openRead), expect_extend openRead]
  simp only [bind, Except.bind]
  rw [skipBlank_extend ((test_needs path).left testRead), testLonger]
  simp only
  rw [skipBlank_extend closes, expect_extend closeRead]

theorem bracketBody_extends :
    Extends (size + 1) tail (bracketBody path) (bracketBody longer) := by
  intro k next selector small reads left
  obtain ⟨position, text⟩ := k
  cases text with
  | nil => cases reads
  | cons c text =>
      have front : (⟨position, c :: text⟩ : Cursor).extend tail = ⟨position, c :: (text ++ tail)⟩ :=
        rfl
      have passed := advance_extend (k := ⟨position, c :: text⟩) 1 (by simp) tail
      rw [front] at passed
      rw [bracketBody] at reads
      rw [front, bracketBody]
      dsimp only at reads ⊢
      split at reads
      · next isAsterisk =>
          cases reads
          rw [if_pos isAsterisk, passed]
      · next noAsterisk =>
          rw [if_neg noAsterisk]
          split at reads
          · next isQuestion =>
              obtain ⟨⟨t, mid⟩, filterRead, same⟩ := bind_eq_ok.mp reads
              cases same
              have fits : ((⟨position, c :: text⟩ : Cursor).advance 1).rest.length ≤ size + 1 :=
                (ahead_advance 1 (by simp)).length_le.trans small
              rw [if_pos isQuestion, passed, filter_extend blank paths follows fits filterRead]
              rfl
          · next noQuestion =>
              rw [if_neg noQuestion]
              split at reads
              · next isText => rw [if_pos isText, ← front, names_extends _ tail small reads left]
              · next noText =>
                  rw [if_neg noText, ← front, indexOrSlice_extends _ tail small reads left]

theorem bracket_extend {k next : Cursor} {selector : Selector} (small : k.rest.length ≤ size + 1)
    (reads : bracket path k = .ok (selector, next)) :
    bracket longer (k.extend tail) = .ok (selector, next.extend tail) := by
  obtain ⟨⟨_, mid⟩, bodyRead, reads⟩ := bind_eq_ok.mp reads
  simp only at reads
  split at reads
  · cases reads
  · next rest closes =>
      cases reads
      have skipped := skipBlank_extend (k := mid) (by simp [closes]) tail
      have closesLonger := rest_skipBlank_extend closes tail
      have bodyLonger := bracketBody_extends blank paths follows
        ((ahead_skipBlank k).length_le.trans small) bodyRead (left_of_skipBlank (by simp [closes]))
      rw [bracket, skipBlank_extend ((bracketBody_needs path).left bodyRead), bodyLonger]
      simp only [bind, Except.bind, closesLonger]
      rw [skipped, advance_extend 1 (by simp [closes])]
  · cases reads

end Filters

/-!
### Steps and chains
-/

/-- White space continues no path. -/
theorem stops_of_padding (blank : Padding tail) : Stops continuesPath tail :=
  fun c member => not_continuesPath_of_isBlank (blank c (List.mem_of_mem_head? member))

theorem stopsName_of_padding (blank : Padding tail) : Stops isNameChar tail :=
  (stops_of_padding blank).mono continuesPath_of_isNameChar

section Steps

variable {path longer : Reads Chain} {size : Nat}

/-- The kinds of steps: two dots at the end of the text, in front of a bracket, and in front of
something else; one dot; a bracket. -/
theorem step_cases {position : Nat} {text : List Char} {mid : Cursor} {first : Chain}
    (reads : step path ⟨position, text⟩ = .ok (some (first, mid))) :
    text = ['.', '.'] ∨
      (∃ after, text = '.' :: '.' :: '[' :: after ∧ first = [.descent] ∧
        mid = ⟨position + 2, '[' :: after⟩) ∨
      (∃ c more selector, text = '.' :: '.' :: c :: more ∧ c ≠ '[' ∧
        first = [.descent, selector] ∧ afterDot ⟨position + 2, c :: more⟩ = .ok (selector, mid)) ∨
      (∃ c more selector, text = '.' :: c :: more ∧ c ≠ '.' ∧ first = [selector] ∧
        afterDot ⟨position + 1, c :: more⟩ = .ok (selector, mid)) ∨
      ∃ more selector, text = '[' :: more ∧ first = [selector] ∧
        bracket path ⟨position + 1, more⟩ = .ok (selector, mid) := by
  rw [step] at reads
  split at reads
  · next same => exact Or.inl same
  · next after same =>
      cases reads
      obtain rfl : text = '.' :: '.' :: '[' :: after := same
      exact Or.inr (Or.inl ⟨after, rfl, rfl, rfl⟩)
  · next behind _ noBracket same =>
      obtain rfl : text = '.' :: '.' :: behind := same
      obtain ⟨⟨selector, last⟩, dotRead, same⟩ := bind_eq_ok.mp reads
      cases same
      obtain ⟨c, more, rfl⟩ := List.exists_cons_of_ne_nil (afterDot_needs.left dotRead)
      have plain : c ≠ '[' := fun isBracket => noBracket more (by rw [isBracket])
      exact Or.inr (Or.inr (Or.inl ⟨c, more, selector, rfl, plain, rfl, dotRead⟩))
  · next behind _ _ noDots same =>
      obtain rfl : text = '.' :: behind := same
      obtain ⟨⟨selector, last⟩, dotRead, same⟩ := bind_eq_ok.mp reads
      cases same
      obtain ⟨c, more, rfl⟩ := List.exists_cons_of_ne_nil (afterDot_needs.left dotRead)
      have plain : c ≠ '.' := fun isDot => noDots more (by rw [isDot])
      exact Or.inr (Or.inr (Or.inr (Or.inl ⟨c, more, selector, rfl, plain, rfl, dotRead⟩)))
  · next behind same =>
      obtain rfl : text = '[' :: behind := same
      obtain ⟨⟨selector, last⟩, bracketRead, same⟩ := bind_eq_ok.mp reads
      cases same
      exact Or.inr (Or.inr (Or.inr (Or.inr ⟨behind, selector, rfl, rfl, bracketRead⟩)))
  · cases reads

/-- Where there is no step, white space behind makes none. -/
theorem step_none_extend (blank : Padding tail) {k : Cursor} (reads : step path k = .ok none) :
    step longer (k.extend tail) = .ok none := by
  have ends := ends_of_step reads
  obtain ⟨position, text⟩ := k
  cases text with
  | nil => exact step_of_blank blank position
  | cons c more =>
      obtain ⟨noDot, noBracket⟩ := ends c rfl
      exact step_of_ne noDot noBracket position (more ++ tail)

variable (follows : Follows size path Grammar.Steps)

include follows

/-- A step is the same in front of white space, unless it is two dots at the end of the text. -/
theorem step_extend (blank : Padding tail) (paths : Extends size tail path longer)
    {k mid : Cursor} {first : Chain} (small : k.rest.length ≤ size + 1)
    (apart : k.rest ≠ ['.', '.']) (reads : step path k = .ok (some (first, mid))) :
    step longer (k.extend tail) = .ok (some (first, mid.extend tail)) := by
  have stops := stopsName_of_padding blank
  obtain ⟨position, text⟩ := k
  obtain same | ⟨after, rfl, rfl, rfl⟩ | ⟨c, more, selector, rfl, noBracket, rfl, dotRead⟩ |
    ⟨c, more, selector, rfl, noDot, rfl, dotRead⟩ | ⟨more, selector, rfl, rfl, bracketRead⟩ :=
    step_cases reads
  · exact absurd same apart
  · rfl
  · have dotLonger : afterDot ⟨position + 2, c :: (more ++ tail)⟩ =
        .ok (selector, mid.extend tail) := afterDot_extend stops dotRead
    exact (step_dots noBracket position (more ++ tail)).trans (by rw [dotLonger]; rfl)
  · have dotLonger : afterDot ⟨position + 1, c :: (more ++ tail)⟩ =
        .ok (selector, mid.extend tail) := afterDot_extend stops dotRead
    exact (step_dot noDot position (more ++ tail)).trans (by rw [dotLonger]; rfl)
  · have fits : more.length ≤ size + 1 := by
      simp only [List.length_cons] at small
      omega
    have bracketLonger : bracket longer ⟨position + 1, more ++ tail⟩ =
        .ok (selector, mid.extend tail) := bracket_extend blank paths follows fits bracketRead
    exact (step_bracket position (more ++ tail)).trans (by rw [bracketLonger]; rfl)

/-- No step but two dots at the end of the text is a descent in which a chain ends. -/
theorem endsInDescent_of_step {k mid : Cursor} {first others : Chain} {rest : List Char}
    (small : k.rest.length ≤ size + 1) (apart : k.rest ≠ ['.', '.'])
    (reads : step path k = .ok (some (first, mid)))
    (behind : Grammar.Steps mid.rest others rest) :
    Chain.endsInDescent (first ++ others) = Chain.endsInDescent others := by
  obtain ⟨position, text⟩ := k
  obtain same | ⟨after, rfl, rfl, rfl⟩ | ⟨c, more, selector, rfl, noBracket, rfl, dotRead⟩ |
    ⟨c, more, selector, rfl, noDot, rfl, dotRead⟩ | ⟨more, selector, rfl, rfl, bracketRead⟩ :=
    step_cases reads
  · exact absurd same apart
  · obtain ⟨selector, more, rfl, -⟩ := behind.of_bracket
    rfl
  · exact Chain.endsInDescent_cons_of_single (afterDot_follows _ le_rfl dotRead).2.isDescent others
  · exact Chain.endsInDescent_cons_of_single (afterDot_follows _ le_rfl dotRead).2.isDescent others
  · have fits : more.length ≤ size + 1 := by
      simp only [List.length_cons] at small
      omega
    obtain ⟨-, inner, inside, -⟩ := bracket_follows follows fits bracketRead
    exact Chain.endsInDescent_cons_of_single inside.isDescent others

end Steps

/-- Two dots at the end are a descent. -/
theorem chain_dots (fuel position : Nat) :
    chain (fuel + 1) ⟨position, ['.', '.']⟩ = .ok ([.descent], ⟨position + 2, []⟩) := by
  have nothing : chain fuel ⟨position + 2, []⟩ = .ok ([], ⟨position + 2, []⟩) :=
    chain_of_step_none (fun _ => rfl) fuel
  have opens : chain (fuel + 1) ⟨position, ['.', '.']⟩ =
      (chain fuel ⟨position + 2, []⟩).bind fun read => .ok (.descent :: read.1, read.2) := rfl
  rw [opens, nothing]
  rfl

/-- Two dots in front of white space have no name behind them. -/
theorem chain_dots_refused (blank : Padding tail) (something : tail ≠ []) (fuel position : Nat) :
    chain (fuel + 1) ⟨position, '.' :: '.' :: tail⟩ = .error (.emptyName (position + 2)) := by
  obtain ⟨c, rest, rfl⟩ := List.exists_cons_of_ne_nil something
  have isBlank : Text.isBlank c = true := blank c List.mem_cons_self
  rw [chain, step_dots (ne_of_holds isBlank (by decide)),
    afterDot_of_ne (ne_of_holds isBlank (by decide)), name_of_stops (stopsName_of_padding blank)]
  rfl

/-- A chain is read in front of white space as it is without, but one that ends in a descent is refused
for want of a name.  By induction on the fuel; the paths inside the first step are read with less of
it, and none of them ends in a descent, because something follows. -/
theorem chain_extend (blank : Padding tail) (something : tail ≠ []) {fuel more : Nat}
    (enough : fuel ≤ more) {k last : Cursor} {steps : Chain} (small : k.rest.length ≤ fuel)
    (reads : chain fuel k = .ok (steps, last)) :
    chain more (k.extend tail) =
      if Chain.endsInDescent steps then .error (.emptyName last.position)
      else .ok (steps, last.extend tail) := by
  induction fuel generalizing more k last steps with
  | zero =>
      cases reads
      obtain ⟨position, text⟩ := k
      obtain rfl : text = [] := List.length_eq_zero_iff.mp (by simpa using small)
      exact chain_of_stops (stops_of_padding blank) more position
  | succ fuel ih =>
      obtain ⟨more, rfl⟩ : ∃ fewer, more = fewer + 1 := ⟨more - 1, by omega⟩
      by_cases dots : k.rest = ['.', '.']
      · obtain ⟨position, text⟩ := k
        obtain rfl : text = ['.', '.'] := dots
        rw [chain_dots] at reads
        cases reads
        exact chain_dots_refused blank something more position
      · have follows : Follows fuel (chain fuel) Grammar.Steps := chain_follows fuel
        have paths : Extends fuel tail (chain fuel) (chain more) := by
          intro k next steps small reads left
          have single : Chain.endsInDescent steps = false := by
            have behind := (chain_follows fuel small reads).2.readUpTo.ends
            exact Bool.eq_false_iff.mpr fun ends => left (behind ends)
          rw [ih (by omega) small reads, single]
          rfl
        obtain ⟨stepped, stepRead, reads⟩ := bind_eq_ok.mp reads
        cases stepped with
        | none =>
            cases reads
            rw [chain, step_none_extend blank stepRead]
            rfl
        | some stepped =>
            obtain ⟨first, mid⟩ := stepped
            obtain ⟨⟨others, last⟩, othersRead, same⟩ := bind_eq_ok.mp reads
            cases same
            have shorter := (step_follows follows small stepRead).2.1
            have fewer : mid.rest.length ≤ fuel := by omega
            have behind := (chain_follows fuel fewer othersRead).2
            have othersLonger := ih (by omega : fuel ≤ more) fewer othersRead
            rw [chain, step_extend follows blank paths small dots stepRead,
              endsInDescent_of_step follows small dots stepRead behind]
            simp only [bind, Except.bind, othersLonger]
            by_cases descends : Chain.endsInDescent others = true
            · simp only [descends, if_true]
            · simp only [descends, if_false, Bool.false_eq_true]

end Reader

end WaitFor
