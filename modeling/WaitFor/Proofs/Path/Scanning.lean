/-
Module: WaitFor.Proofs.Path.Scanning
Purpose: What the readers of names, texts in quotes, integers and literals make of their spellings.
Main exports:
  Reader.Stops, Reader.Passes, Reader.name_passes, Reader.quoted_passes,
  Reader.integer?_integerText, Reader.literal_passes
-/
import Mathlib
import WaitFor.Proofs.Numeric.IntegerText
import WaitFor.Proofs.Path.Spelling
import WaitFor.Proofs.Text.Parts

namespace WaitFor

namespace Cursor

theorem moveTo_append (position : Nat) (text rest : List Char) :
    (⟨position, text ++ rest⟩ : Cursor).moveTo rest = ⟨position + text.length, rest⟩ := by
  simp [moveTo]

theorem advance_append (position : Nat) (text rest : List Char) :
    (⟨position, text ++ rest⟩ : Cursor).advance text.length =
      ⟨position + text.length, rest⟩ := by
  simp [advance]

end Cursor

namespace Reader

open Spelling

/-!
### What may follow

Names, numbers and white space are read as far as they go, so what is read depends on the first
character that follows.
-/

/-- A text whose first character, if there is one, lacks a property. -/
def Stops (p : Char → Bool) (rest : List Char) : Prop := ∀ c ∈ rest.head?, p c = false

theorem Stops.nil (p : Char → Bool) : Stops p [] := by
  intro c member
  simp at member

theorem Stops.cons {p : Char → Bool} {c : Char} (lacks : p c = false) (rest : List Char) :
    Stops p (c :: rest) := by
  intro d member
  obtain rfl : c = d := by simpa using member
  exact lacks

private theorem dropWhile_of_stops {p : Char → Bool} {rest : List Char} (stops : Stops p rest) :
    rest.dropWhile p = rest := by
  cases rest with
  | nil => rfl
  | cons c rest => exact List.dropWhile_cons_of_neg (by simp [stops c (by simp)])

private theorem takeWhile_of_stops {p : Char → Bool} {rest : List Char} (stops : Stops p rest) :
    rest.takeWhile p = [] := by
  cases rest with
  | nil => rfl
  | cons c rest => exact List.takeWhile_cons_of_neg (by simp [stops c (by simp)])

theorem takeWhile_append {p : Char → Bool} {text rest : List Char}
    (all : ∀ c ∈ text, p c = true) (stops : Stops p rest) :
    (text ++ rest).takeWhile p = text := by
  rw [List.takeWhile_append_of_pos all, takeWhile_of_stops stops, List.append_nil]

/-- Characters that all have a property are passed over up to one that lacks it. -/
theorem dropWhile_append {p : Char → Bool} {text rest : List Char}
    (all : ∀ c ∈ text, p c = true) (stops : Stops p rest) :
    (text ++ rest).dropWhile p = rest := by
  rw [List.dropWhile_append_of_pos all, dropWhile_of_stops stops]

/-- A cursor passes over a text whose characters all have a property, and no further. -/
theorem skipWhile_append {p : Char → Bool} {text rest : List Char} (position : Nat)
    (all : ∀ c ∈ text, p c = true) (stops : Stops p rest) :
    (⟨position, text ++ rest⟩ : Cursor).skipWhile p = ⟨position + text.length, rest⟩ := by
  rw [Cursor.skipWhile, dropWhile_append all stops, Cursor.moveTo_append]

/-- A cursor passes over padding, and no further. -/
theorem skipBlank_append {padding rest : List Char} (position : Nat) (blank : Padding padding)
    (stops : Stops Text.isBlank rest) :
    (⟨position, padding ++ rest⟩ : Cursor).skipBlank = ⟨position + padding.length, rest⟩ :=
  skipWhile_append position blank stops

theorem skipBlank_of_stops {rest : List Char} (position : Nat)
    (stops : Stops Text.isBlank rest) :
    (⟨position, rest⟩ : Cursor).skipBlank = ⟨position, rest⟩ := by
  have nothing : Padding [] := by simp [Padding]
  exact skipBlank_append position nothing stops

/-- A reader passes over exactly a given text in front of a given rest, wherever the text begins,
and gives a value for it. -/
def Passes {α : Type} (reader : Reads α) (text rest : List Char) (value : α) : Prop :=
  ∀ position, reader ⟨position, text ++ rest⟩ = .ok (value, ⟨position + text.length, rest⟩)

/-!
### Names and texts in quotes
-/

/-- A character without a backslash in front either belongs to the name or ends it. -/
theorem nameBody_cons {c : Char} (plain : c ≠ '\\') (rest : List Char) :
    nameBody (c :: rest) =
      if isNameChar c then (nameBody rest).map fun read => (c :: read.1, read.2)
      else .ok ([], c :: rest) := by
  rw [nameBody.eq_def]
  split
  case h_1 text => contradiction
  case h_2 text same => simp_all
  case h_3 d more same => simp_all
  case h_4 d more _ _ same =>
      obtain ⟨rfl, rfl⟩ := List.cons.inj same
      cases nameBody rest <;> rfl

/-- A character behind a backslash belongs to the name. -/
theorem nameBody_escape (c : Char) (rest : List Char) :
    nameBody ('\\' :: c :: rest) =
      (nameBody rest).map fun read => (c :: read.1, read.2) := by
  have reads : nameBody ('\\' :: c :: rest) =
      (nameBody rest).bind fun read => .ok (c :: read.1, read.2) := rfl
  rw [reads]
  cases nameBody rest <;> rfl

/-- A name ends where a character follows that no name holds bare. -/
theorem nameBody_of_stops {rest : List Char} (stops : Stops isNameChar rest) :
    nameBody rest = .ok ([], rest) := by
  cases rest with
  | nil => rfl
  | cons c rest =>
      have ends : isNameChar c = false := stops c (by simp)
      have plain : c ≠ '\\' := (ne_of_holds (by decide) ends).symm
      rw [nameBody_cons plain, if_neg (by simp [ends])]

/-- There is no name where a character follows that no name holds bare, or nothing. -/
theorem name_of_stops {rest : List Char} (stops : Stops isNameChar rest) (position : Nat) :
    Reader.name ⟨position, rest⟩ = .error (.emptyName position) := by
  rw [Reader.name, nameBody_of_stops stops]
  rfl

/-- The spelling of a name is read back as the name. -/
private theorem nameBody_escapeName (name : List Char) {rest : List Char}
    (stops : Stops isNameChar rest) :
    nameBody (escapeName name ++ rest) = .ok (name, rest) := by
  induction name with
  | nil => exact nameBody_of_stops stops
  | cons c name ih =>
      by_cases escaped : c = '\\' ∨ isNameChar c = false
      · have spelled : escapeName (c :: name) ++ rest = '\\' :: c :: (escapeName name ++ rest) := by
          simp [escapeName, escaped]
        rw [spelled, nameBody_escape, ih]
        rfl
      · have spelled : escapeName (c :: name) ++ rest = c :: (escapeName name ++ rest) := by
          simp [escapeName, escaped]
        obtain ⟨plain, isName⟩ := not_or.mp escaped
        rw [spelled, nameBody_cons plain, if_pos (by simpa using isName), ih]
        rfl

/-- A field name that is not empty is read from its spelling. -/
theorem name_passes {name : String} {rest : List Char} (nonempty : name ≠ "")
    (stops : Stops isNameChar rest) :
    Passes Reader.name (escapeName name.toList) rest name := by
  intro position
  have holds : name.toList.isEmpty = false := by simpa using nonempty
  simp only [Reader.name, nameBody_escapeName _ stops, bind, Except.bind, holds,
    Cursor.moveTo_append, String.ofList_toList, Bool.false_eq_true, if_false]

/-- A character that is neither a backslash nor the quote belongs to the text. -/
theorem quotedBody_cons_of_ne {quote c : Char} (plain : c ≠ '\\') (inside : c ≠ quote)
    (rest : List Char) :
    quotedBody quote (c :: rest) =
      (quotedBody quote rest).map fun (text, rest) => (c :: text, rest) := by
  rw [quotedBody.eq_4 _ _ _ (by simp [plain]) (by simp [plain]), if_neg inside]

/-- The spelling of a text in quotes is read back up to the closing quote. -/
private theorem quotedBody_escapeQuoted {quote : Char} (plain : quote ≠ '\\')
    (text rest : List Char) :
    quotedBody quote (escapeQuoted quote text ++ quote :: rest) = some (text, rest) := by
  induction text with
  | nil =>
      have closing := quotedBody.eq_4 quote quote rest (by simp [plain]) (by simp [plain])
      rw [if_pos rfl] at closing
      exact closing
  | cons c text ih =>
      by_cases escaped : c = '\\' ∨ c = quote
      · have spelled : escapeQuoted quote (c :: text) ++ quote :: rest =
            '\\' :: c :: (escapeQuoted quote text ++ quote :: rest) := by
          simp [escapeQuoted, escaped]
        rw [spelled, quotedBody, ih]
        rfl
      · have spelled : escapeQuoted quote (c :: text) ++ quote :: rest =
            c :: (escapeQuoted quote text ++ quote :: rest) := by
          simp [escapeQuoted, escaped]
        obtain ⟨plain, inside⟩ := not_or.mp escaped
        rw [spelled, quotedBody_cons_of_ne plain inside, ih]
        rfl

/-- A text is read from its spelling in either kind of quotes. -/
theorem quoted_passes {text : String} {spelled : List Char} (quotedText : QuotedText text spelled)
    (rest : List Char) : Passes quoted spelled rest text := by
  intro position
  cases quotedText with
  | quoted quote isQuote =>
      have plain : quote ≠ '\\' := ne_of_holds isQuote (by decide)
      have inside := quotedBody_escapeQuoted plain text.toList rest
      have moved := Cursor.moveTo_append position
        (quote :: (escapeQuoted quote text.toList ++ [quote])) rest
      simp only [List.cons_append, List.append_assoc, List.nil_append] at moved ⊢
      simp only [quoted, isQuote, if_true, inside, String.ofList_toList, moved]

/-!
### Several names

The readers count the characters that are left as fuel, and each further name takes at least one.
-/

theorem not_blank_of_isQuote {c : Char} (isQuote : Reader.isQuote c = true) :
    Text.isBlank c = false := by
  simp only [Reader.isQuote, Bool.or_eq_true, beq_iff_eq] at isQuote
  rcases isQuote with rfl | rfl <;> decide

/-- The further names of a union are read from their spellings, if the fuel covers their number. -/
theorem moreNames_passes {names : List String} {text : List Char}
    (moreNamesText : MoreNamesText names text) (rest : List Char) :
    ∀ fuel, names.length ≤ fuel → Passes (moreNames fuel) text (']' :: rest) names := by
  induction moreNamesText with
  | nil =>
      intro fuel _ position
      have stays : (⟨position, ']' :: rest⟩ : Cursor).skipBlank = ⟨position, ']' :: rest⟩ :=
        skipBlank_of_stops position (Stops.cons (by decide) rest)
      cases fuel with
      | zero => rfl
      | succ fuel =>
          rw [List.nil_append, moreNames, stays]
          rfl
  | @cons name names padding spelled more blank first _ ih =>
      intro fuel enough position
      cases fuel with
      | zero => simp at enough
      | succ fuel =>
          have comma : (⟨position, ',' :: (padding ++ (spelled ++ more)) ++ ']' :: rest⟩ :
              Cursor).skipBlank =
                ⟨position, ',' :: (padding ++ (spelled ++ (more ++ ']' :: rest)))⟩ := by
            simp only [List.cons_append, List.append_assoc]
            exact skipBlank_of_stops position (Stops.cons (by decide) _)
          have padded : (⟨position + 1, padding ++ (spelled ++ (more ++ ']' :: rest))⟩ :
              Cursor).skipBlank =
                ⟨position + 1 + padding.length, spelled ++ (more ++ ']' :: rest)⟩ := by
            obtain ⟨quote, inside, rfl, isQuote⟩ := first.head
            exact skipBlank_append _ blank (Stops.cons (not_blank_of_isQuote isQuote) _)
          have quoted := quoted_passes first (more ++ ']' :: rest)
            (position + 1 + padding.length)
          have others := ih fuel (by simpa using enough)
            (position + 1 + padding.length + spelled.length)
          rw [moreNames, comma]
          simp only [Cursor.advance, List.drop_succ_cons, List.drop_zero, padded, quoted, others,
            bind, Except.bind, Except.ok.injEq, Prod.mk.injEq, Cursor.mk.injEq, true_and, and_true,
            List.length_cons, List.length_append]
          omega

/-- One name in quotes is a field and several are a union. -/
theorem names_passes {name : String} {names : List String} {spelled more : List Char}
    (first : QuotedText name spelled) (moreNamesText : MoreNamesText names more)
    (rest : List Char) :
    Passes Reader.names (spelled ++ more) (']' :: rest)
      (if names.isEmpty then .field name else .union (name :: names)) := by
  intro position
  have quoted := quoted_passes first (more ++ ']' :: rest) position
  have enough : names.length ≤ (more ++ ']' :: rest).length := by
    have bound := moreNamesText.length_le
    simp only [List.length_append]
    omega
  have others := moreNames_passes moreNamesText rest _ enough (position + spelled.length)
  rw [List.append_assoc, Reader.names, List.length_append, ← Nat.add_assoc]
  simp only [quoted, bind, Except.bind, others]

/-!
### Positions and bounds
-/

theorem not_blank_of_isDigit {c : Char} (digit : c.isDigit = true) : Text.isBlank c = false := by
  have range := Char.isDigit_iff_toNat.mp digit
  have zero : '0'.toNat = 48 := rfl
  have nine : '9'.toNat = 57 := rfl
  simp only [Text.isBlank, Bool.or_eq_false_iff, Bool.and_eq_false_iff, decide_eq_false_iff_not,
    beq_eq_false_iff_ne]
  omega

theorem not_isQuote_of_isDigit {c : Char} (digit : c.isDigit = true) :
    Reader.isQuote c = false := by
  have single : c ≠ '\'' := ne_of_holds digit (by decide)
  have double : c ≠ '"' := ne_of_holds digit (by decide)
  simp [Reader.isQuote, single, double]

/-- An integer is written without white space, colons and brackets. -/
theorem integerText_plain {position : Int} {c : Char} (member : c ∈ integerText position) :
    Text.isBlank c = false ∧ c ≠ ':' ∧ c ≠ ']' := by
  rcases isDigit_of_mem_toString member with rfl | digit
  · decide
  · exact ⟨not_blank_of_isDigit digit, ne_of_holds digit (by decide),
      ne_of_holds digit (by decide)⟩

/-- A bound is written without white space, colons and brackets. -/
private theorem boundText_plain {bound : Option Int} {c : Char} (member : c ∈ boundText bound) :
    Text.isBlank c = false ∧ c ≠ ':' ∧ c ≠ ']' := by
  cases bound with
  | none => simp [boundText] at member
  | some position => exact integerText_plain member

theorem integerText_ne_nil (position : Int) : integerText position ≠ [] := by
  rw [integerText, toList_toString]
  simp

/-- A machine word is read from its spelling. -/
theorem integer?_integerText {position : Int} (word : SignedWord position) :
    integer? (integerText position) = some position :=
  readInteger?_toString word.1 word.2

/-- A bound is read from its spelling, and an absent one from nothing. -/
theorem bound?_boundText {bound : Option Int} (words : ∀ position ∈ bound, SignedWord position) :
    bound? (boundText bound) = some bound := by
  have trimmed : Text.trim (boundText bound) = boundText bound :=
    Text.trim_of_forall fun c member => (boundText_plain member).1
  rw [bound?, trimmed]
  cases bound with
  | none => rfl
  | some position =>
      have reads := integer?_integerText (words position rfl)
      rw [boundText]
      split
      · next empty => exact absurd empty (integerText_ne_nil position)
      · rw [reads]
        rfl

/-- An index is read from its spelling. -/
theorem indexOrSliceOf_index {position : Int} (word : SignedWord position) :
    indexOrSliceOf (integerText position) = .ok (.index position) := by
  have whole : Text.splitAtEach ':' (integerText position) = [integerText position] :=
    Text.splitAtEach_of_not_mem fun member => (integerText_plain member).2.1 rfl
  simp only [indexOrSliceOf, whole, integer?_integerText word]

/-- A slice is read from its three bounds with a colon between each two. -/
theorem indexOrSliceOf_slice {start stop step : Option Int}
    (startWord : ∀ position ∈ start, SignedWord position)
    (stopWord : ∀ position ∈ stop, SignedWord position)
    (stepWord : ∀ position ∈ step, SignedWord position) :
    indexOrSliceOf (boundText start ++ ':' :: (boundText stop ++ ':' :: boundText step)) =
      .ok (.slice start stop step) := by
  have noColon (bound : Option Int) : ':' ∉ boundText bound := fun member =>
    (boundText_plain member).2.1 rfl
  have parts : Text.splitAtEach ':'
      (boundText start ++ ':' :: (boundText stop ++ ':' :: boundText step)) =
        [boundText start, boundText stop, boundText step] := by
    rw [Text.splitAtEach_append (noColon start), Text.splitAtEach_append (noColon stop),
      Text.splitAtEach_of_not_mem (noColon step)]
  have bounds : [boundText start, boundText stop, boundText step].mapM bound? =
      some [start, stop, step] := by
    simp only [List.mapM_cons, List.mapM_nil, bound?_boundText startWord,
      bound?_boundText stopWord, bound?_boundText stepWord, bind, Option.bind, pure]
  simp only [indexOrSliceOf, parts, bounds]

/-- A text without white space and closing brackets in front of a closing bracket is read as a
whole as an index or a slice. -/
theorem indexOrSlice_passes {text : List Char} {selector : Selector}
    (plain : ∀ c ∈ text, Text.isBlank c = false ∧ c ≠ ']')
    (reads : indexOrSliceOf text = .ok selector) (rest : List Char) :
    Passes indexOrSlice text (']' :: rest) selector := by
  intro position
  have inside : ∀ c ∈ text, (c != ']') = true := fun c member => by
    simpa using (plain c member).2
  have stops : Stops (· != ']') (']' :: rest) := Stops.cons (by decide) rest
  have trimmed : Text.trim text = text := Text.trim_of_forall fun c member => (plain c member).1
  rw [indexOrSlice, takeWhile_append inside stops, trimmed, reads,
    skipWhile_append position inside stops]
  rfl

/-!
### Comparisons and constants
-/

/-- A comparison is read as itself; what follows it must not begin with an equals sign. -/
theorem comparison_passes (op : Comparison) {rest : List Char} (stops : Stops (· == '=') rest) :
    Passes comparison op.text.toList rest op := by
  intro position
  have found : (comparisons.find? fun other =>
      other.text.toList.isPrefixOf (op.text.toList ++ rest)) = some op := by
    have noEquals : ['='].isPrefixOf rest = false := by
      cases rest with
      | nil => rfl
      | cons c rest =>
          have different : c ≠ '=' := by simpa using stops c (by simp)
          simp [List.isPrefixOf, Ne.symm different]
    -- Only the two signs that also begin another one depend on what follows.
    cases op with
    | equal => rfl
    | different => rfl
    | atLeast => rfl
    | atMost => rfl
    | greater =>
        have other : (">=".toList.isPrefixOf (">".toList ++ rest)) = false := noEquals
        simp only [comparisons, List.find?, Comparison.text, other]
        rfl
    | less =>
        have other : ("<=".toList.isPrefixOf ("<".toList ++ rest)) = false := noEquals
        simp only [comparisons, List.find?, Comparison.text, other]
        rfl
  simp only [comparison, found, ← String.length_toList, Cursor.advance_append]

theorem isNumberChar_of_isDigit {c : Char} (digit : c.isDigit = true) : isNumberChar c = true := by
  rw [isNumberChar, digit]
  rfl

/-- A decimal literal is read as far as it goes. -/
theorem number_passes {text rest : List Char} {decimal : Decimal}
    (digits : ∀ c ∈ text, isNumberChar c = true) (reads : Decimal.read? text = some decimal)
    (stops : Stops isNumberChar rest) :
    Passes number text rest (.number decimal.toBinary64) := by
  intro position
  rw [number, takeWhile_append digits stops, skipWhile_append position digits stops]
  simp only [reads]

/-- A constant is an operand, however the paths of operands are read. -/
theorem literal_passes {value : Literal} {text rest : List Char}
    (literalText : LiteralText value text) (stops : Stops isNumberChar rest)
    (path : Reads Chain) : Passes (operand path) text rest (.literal value) := by
  intro position
  cases literalText with
  | yes => rfl
  | no => rfl
  | null => rfl
  | @string content spelled quotedText =>
      have reads := quoted_passes quotedText rest position
      obtain ⟨quote, inside, rfl, isQuote⟩ := quotedText.head
      have notPath : quote ≠ '@' := ne_of_holds isQuote (by decide)
      simp only [operand, List.cons_append, notPath, isQuote, if_true, if_false] at reads ⊢
      rw [reads]
      rfl
  | @number first more decimal starts digits parses =>
      have opens : ∀ c ∈ first :: more, isNumberChar c = true := by
        intro c member
        rcases List.mem_cons.mp member with rfl | later
        · rcases starts with rfl | digit
          · decide
          · exact isNumberChar_of_isDigit digit
        · rcases digits c later with digit | sign
          · exact isNumberChar_of_isDigit digit
          · simpa [isNumberChar] using Or.inr sign
      have reads := number_passes opens parses stops position
      have notPath : first ≠ '@' := by
        rcases starts with rfl | digit
        · decide
        · exact ne_of_holds digit (by decide)
      have notQuote : Reader.isQuote first = false := by
        rcases starts with rfl | digit
        · decide
        · exact not_isQuote_of_isDigit digit
      have numeric : (first = '-' || first.isDigit) = true := by simpa using starts
      simp only [operand, List.cons_append, notPath, notQuote, numeric, if_true, if_false,
        Bool.false_eq_true] at reads ⊢
      rw [reads]
      rfl

end Reader

end WaitFor
