/-
Module: WaitFor.Proofs.Path.RoundTrip
Purpose: Every spelling of a well-formed chain is read back as that chain.
Main exports:
  Reader.ReadsChains, Reader.operand_passes, Reader.test_passes, Reader.bracket_passes,
  Reader.chain_passes, Chain.read_template
-/
import Mathlib
import WaitFor.Proofs.Path.Scanning

namespace WaitFor

namespace Reader

open Spelling

/-!
### What may follow a path

A path inside a filter goes on as long as a dot, a bracket or a character of a name follows.
-/

/-- The characters that continue a path. -/
def continuesPath (c : Char) : Bool := isNameChar c || c == '.' || c == '['

theorem Stops.mono {p q : Char → Bool} {rest : List Char} (stops : Stops q rest)
    (implies : ∀ c, p c = true → q c = true) : Stops p rest := by
  intro c member
  by_contra holds
  have larger := implies c (by simpa using holds)
  exact absurd larger (by simp [stops c member])

theorem Stops.append {p : Char → Bool} {first rest : List Char}
    (lacks : ∀ c ∈ first, p c = false) (stops : Stops p rest) : Stops p (first ++ rest) := by
  cases first with
  | nil => exact stops
  | cons c first => exact Stops.cons (lacks c (by simp)) _

theorem continuesPath_of_isNameChar (c : Char) (isName : isNameChar c = true) :
    continuesPath c = true := by
  simp [continuesPath, isName]

theorem isNameChar_of_isDigit {c : Char} (digit : c.isDigit = true) : isNameChar c = true := by
  have inside : nameEnds.contains c = false := by
    have noEnd : ∀ d ∈ nameEnds, d.isDigit = false := by
      intro d member
      fin_cases member <;> decide
    rw [List.contains_eq_mem, decide_eq_false_iff_not]
    intro member
    exact absurd digit (by simp [noEnd c member])
  rw [isNameChar, not_blank_of_isDigit digit, inside]
  rfl

/-- A number goes on with characters of a name or with a dot. -/
theorem continuesPath_of_isNumberChar (c : Char) (inNumber : isNumberChar c = true) :
    continuesPath c = true := by
  rw [isNumberChar, Bool.or_eq_true] at inNumber
  rcases inNumber with digit | sign
  · exact continuesPath_of_isNameChar c (isNameChar_of_isDigit digit)
  · have members : ∀ d ∈ ['-', '+', '.', 'e', 'E'], continuesPath d = true := by
      intro d member
      fin_cases member <;> decide
    exact members c (by simpa using sign)

/-- White space continues nothing. -/
theorem not_continuesPath_of_isBlank {c : Char} (blank : Text.isBlank c = true) :
    continuesPath c = false := by
  have notDot : c ≠ '.' := ne_of_holds blank (by decide)
  have notBracket : c ≠ '[' := ne_of_holds blank (by decide)
  simp [continuesPath, isNameChar, blank, notDot, notBracket]

/-- A comparison, with or without white space in front, ends the operand before it. -/
theorem stops_of_comparison {before : List Char} (blank : Padding before) (op : Comparison)
    (rest : List Char) : Stops continuesPath (before ++ (op.text.toList ++ rest)) := by
  refine Stops.append (fun c member => not_continuesPath_of_isBlank (blank c member)) ?_
  cases op with
  | equal => exact Stops.cons (by decide) _
  | different => exact Stops.cons (by decide) _
  | greater => exact Stops.cons (by decide) _
  | atLeast => exact Stops.cons (by decide) _
  | less => exact Stops.cons (by decide) _
  | atMost => exact Stops.cons (by decide) _

/-!
### Filters

Inside a filter there are paths again.  The readers take the reader of these paths as an argument,
and so do the lemmas: they suppose that it reads back every spelling up to a given length.
-/

/-- A reader of paths reads back each spelling of a well-formed chain of at most a given length, as
long as the chain does not end in a descent and nothing follows that continues it. -/
def ReadsChains (path : Reads Chain) (size : Nat) : Prop :=
  ∀ {inner : List Selector} {text rest : List Char}, ChainText false inner text →
    Chain.WellFormed inner → Chain.endsInDescent inner = false → text.length ≤ size →
    Stops continuesPath rest → Passes path text rest inner

variable {path : Reads Chain} {size : Nat}

theorem operand_passes (reads : ReadsChains path size) {side : Operand} {text rest : List Char}
    (spelled : OperandText side text) (wellFormed : Operand.WellFormed side)
    (fits : text.length ≤ size) (stops : Stops continuesPath rest) :
    Passes (operand path) text rest side := by
  cases spelled with
  | literal constant =>
      exact literal_passes constant (stops.mono continuesPath_of_isNumberChar) path
  | @current inner spelled body =>
      intro position
      obtain ⟨innerFormed, open_⟩ := wellFormed
      have shorter : spelled.length ≤ size := by
        simp only [List.length_cons] at fits
        omega
      have passed := reads body innerFormed open_ shorter stops (position + 1)
      simp only [operand, List.cons_append, if_true, Cursor.advance, List.drop_succ_cons,
        List.drop_zero, passed, bind, Except.bind, Except.ok.injEq, Prod.mk.injEq,
        Cursor.mk.injEq, true_and, and_true, List.length_cons]
      omega

/-- An operand begins with a character that is neither white space nor an equals sign. -/
theorem operandText_head {side : Operand} {text : List Char} (spelled : OperandText side text) :
    ∃ c more, text = c :: more ∧ Text.isBlank c = false ∧ c ≠ '=' := by
  cases spelled with
  | current body => exact ⟨'@', _, rfl, by decide, by decide⟩
  | literal constant =>
      cases constant with
      | yes => exact ⟨'t', _, rfl, by decide, by decide⟩
      | no => exact ⟨'f', _, rfl, by decide, by decide⟩
      | null => exact ⟨'n', _, rfl, by decide, by decide⟩
      | string quotedText =>
          obtain ⟨quote, inside, same, isQuote⟩ := quotedText.head
          exact ⟨quote, inside, same, not_blank_of_isQuote isQuote,
            ne_of_holds isQuote (by decide)⟩
      | @number first more decimal starts digits parses =>
          rcases starts with rfl | digit
          · exact ⟨'-', more, rfl, by decide, by decide⟩
          · exact ⟨first, more, rfl, not_blank_of_isDigit digit,
              ne_of_holds digit (by decide)⟩

/-- A comparison begins with a character that is neither white space nor a parenthesis. -/
theorem comparison_head (op : Comparison) :
    ∃ c more, op.text.toList = c :: more ∧ Text.isBlank c = false ∧ c ≠ ')' := by
  cases op with
  | equal => exact ⟨'=', ['='], rfl, by decide, by decide⟩
  | different => exact ⟨'!', ['='], rfl, by decide, by decide⟩
  | greater => exact ⟨'>', [], rfl, by decide, by decide⟩
  | atLeast => exact ⟨'>', ['='], rfl, by decide, by decide⟩
  | less => exact ⟨'<', [], rfl, by decide, by decide⟩
  | atMost => exact ⟨'<', ['='], rfl, by decide, by decide⟩

theorem test_passes (reads : ReadsChains path size) {t : Test} {text : List Char}
    (spelled : TestText t text) (wellFormed : Test.WellFormed t) (fits : text.length ≤ size)
    (rest : List Char) : Passes (test path) text (')' :: rest) t := by
  have closes : Stops continuesPath (')' :: rest) := Stops.cons (by decide) rest
  have solid : Stops Text.isBlank (')' :: rest) := Stops.cons (by decide) rest
  intro position
  cases spelled with
  | @present inner spelled body =>
      have left := operand_passes reads (OperandText.current body) wellFormed fits closes position
      rw [test]
      simp only [left, bind, Except.bind, skipBlank_of_stops _ solid]
  | @compare left right op first last before behind leftText rightText blankBefore blankBehind =>
      simp only [List.length_append] at fits
      obtain ⟨o, signs, opSpelled, opSolid, opOpen⟩ := comparison_head op
      obtain ⟨c, inside, lastSpelled, lastSolid, notEquals⟩ := operandText_head rightText
      have opStops : Stops Text.isBlank (op.text.toList ++ (behind ++ (last ++ ')' :: rest))) := by
        rw [opSpelled]
        exact Stops.cons opSolid _
      have lastStops : Stops Text.isBlank (last ++ ')' :: rest) := by
        rw [lastSpelled]
        exact Stops.cons lastSolid _
      have noEquals : Stops (· == '=') (behind ++ (last ++ ')' :: rest)) := by
        refine Stops.append (fun d member => ?_) ?_
        · rw [beq_eq_false_iff_ne]
          exact ne_of_holds (blankBehind d member) (by decide)
        · rw [lastSpelled]
          exact Stops.cons (by simpa using notEquals) _
      -- The four pieces are passed one after another, each where the one before it ended.
      have leftRead := operand_passes reads leftText wellFormed.1 (by omega)
        (stops_of_comparison blankBefore op (behind ++ (last ++ ')' :: rest))) position
      have afterLeft := skipBlank_append (position + first.length) blankBefore opStops
      have opRead := comparison_passes op noEquals (position + first.length + before.length)
      have afterOp := skipBlank_append
        (position + first.length + before.length + op.text.toList.length) blankBehind lastStops
      have rightRead := operand_passes reads rightText wellFormed.2 (by omega) closes
        (position + first.length + before.length + op.text.toList.length + behind.length)
      have notClosed : ∀ more,
          op.text.toList ++ (behind ++ (last ++ ')' :: rest)) ≠ ')' :: more := by
        intro more same
        rw [opSpelled] at same
        exact opOpen (List.cons.inj same).1
      simp only [List.append_assoc] at leftRead ⊢
      rw [test]
      simp only [leftRead, bind, Except.bind, afterLeft]
      split
      · next closed => exact absurd closed (notClosed _)
      · next closed => exact absurd closed (notClosed _)
      · simp only [opRead, afterOp, rightRead]
        simp only [List.length_append, Nat.add_assoc]

theorem filter_passes (reads : ReadsChains path size) {t : Test} {text : List Char}
    (spelled : TestText t text) (wellFormed : Test.WellFormed t) (fits : text.length ≤ size)
    (rest : List Char) : Passes (filter path) ('(' :: (text ++ [')'])) rest t := by
  intro position
  have opens : Stops Text.isBlank ('(' :: (text ++ ')' :: rest)) := Stops.cons (by decide) _
  have starts : Stops Text.isBlank (text ++ ')' :: rest) := by
    cases spelled with
    | present body => exact Stops.cons (by decide) _
    | compare leftText rightText blankBefore blankBehind =>
        obtain ⟨c, inside, rfl, solid, -⟩ := operandText_head leftText
        exact Stops.cons solid _
  have closes : Stops Text.isBlank (')' :: rest) := Stops.cons (by decide) rest
  have body := test_passes reads spelled wellFormed fits rest (position + 1)
  simp only [filter, List.cons_append, List.append_assoc, List.nil_append,
    skipBlank_of_stops _ opens, expect, if_true, Cursor.advance, List.drop_succ_cons,
    List.drop_zero, bind, Except.bind, skipBlank_of_stops _ starts, body,
    skipBlank_of_stops _ closes, Except.ok.injEq, Prod.mk.injEq, Cursor.mk.injEq, true_and,
    and_true, List.length_cons, List.length_append, List.length_nil]
  omega

/-!
### Brackets
-/

/-- Names in quotes begin with a quote, which no other content of brackets does. -/
theorem bracketBody_of_isQuote {quote : Char} (isQuote : Reader.isQuote quote = true)
    (position : Nat) (rest : List Char) :
    bracketBody path ⟨position, quote :: rest⟩ = Reader.names ⟨position, quote :: rest⟩ := by
  have noAsterisk : quote ≠ '*' := ne_of_holds isQuote (by decide)
  have noQuestion : quote ≠ '?' := ne_of_holds isQuote (by decide)
  simp only [bracketBody, noAsterisk, noQuestion, isQuote, if_true, if_false]

/-- The characters of indices and slices have no other meaning between brackets. -/
theorem plain_of_position {c : Char} (position : c = ':' ∨ c = '-' ∨ c.isDigit = true) :
    (Text.isBlank c = false ∧ c ≠ ']') ∧ c ≠ '*' ∧ c ≠ '?' ∧ Reader.isQuote c = false := by
  rcases position with rfl | rfl | digit
  · decide
  · decide
  · exact ⟨⟨not_blank_of_isDigit digit, ne_of_holds digit (by decide)⟩,
      ne_of_holds digit (by decide), ne_of_holds digit (by decide),
      not_isQuote_of_isDigit digit⟩

theorem position_of_mem_boundText {bound : Option Int} {c : Char}
    (member : c ∈ boundText bound) : c = ':' ∨ c = '-' ∨ c.isDigit = true := by
  cases bound with
  | none => simp [boundText] at member
  | some position => exact Or.inr (isDigit_of_mem_toString member)

/-- What is read as an index or a slice is passed as such between brackets. -/
theorem positions_pass {body : List Char} {selector : Selector}
    (positions : ∀ c ∈ body, c = ':' ∨ c = '-' ∨ c.isDigit = true) (nonempty : body ≠ [])
    (means : indexOrSliceOf body = .ok selector) (rest : List Char) :
    Stops Text.isBlank (body ++ ']' :: rest) ∧
      Passes (bracketBody path) body (']' :: rest) selector := by
  obtain ⟨c, more, rfl⟩ := List.exists_cons_of_ne_nil nonempty
  obtain ⟨⟨solid, -⟩, noAsterisk, noQuestion, noQuote⟩ :=
    plain_of_position (positions c (by simp))
  refine ⟨Stops.cons solid _, ?_⟩
  intro position
  have inside := indexOrSlice_passes
    (fun d member => (plain_of_position (positions d member)).1) means rest position
  simp only [bracketBody, List.cons_append, noAsterisk, noQuestion, noQuote, if_false,
    Bool.false_eq_true] at inside ⊢
  exact inside

/-- What stands between brackets is read as the selector that it spells. -/
theorem bracketBody_passes (reads : ReadsChains path size) {selector : Selector}
    {body : List Char} (spelled : BracketText selector body)
    (wellFormed : Selector.WellFormed selector) (fits : body.length ≤ size)
    (rest : List Char) :
    Stops Text.isBlank (body ++ ']' :: rest) ∧
      Passes (bracketBody path) body (']' :: rest) selector := by
  cases spelled with
  | wildcard => exact ⟨Stops.cons (by decide) _, fun position => rfl⟩
  | @field name spelled quotedText =>
      have inside := names_passes quotedText MoreNamesText.nil rest
      obtain ⟨quote, more, rfl, isQuote⟩ := quotedText.head
      refine ⟨Stops.cons (not_blank_of_isQuote isQuote) _, fun position => ?_⟩
      rw [List.append_nil] at inside
      rw [List.cons_append, bracketBody_of_isQuote isQuote, ← List.cons_append]
      exact inside position
  | @union name names spelled more first others =>
      have inside := names_passes first others rest
      obtain ⟨quote, content, rfl, isQuote⟩ := first.head
      refine ⟨Stops.cons (not_blank_of_isQuote isQuote) _, fun position => ?_⟩
      have several : names.isEmpty = false := by
        have two : 2 ≤ names.length + 1 := wellFormed
        cases names with
        | nil => simp at two
        | cons name names => rfl
      rw [several, if_neg Bool.false_ne_true] at inside
      have passed := inside position
      rw [List.cons_append, List.cons_append] at passed ⊢
      rw [bracketBody_of_isQuote isQuote, passed]
  | index position =>
      refine positions_pass (fun c member => ?_) (integerText_ne_nil position)
        (indexOrSliceOf_index wellFormed) rest
      exact Or.inr (isDigit_of_mem_toString member)
  | slice start stop step =>
      obtain ⟨startWord, stopWord, stepWord⟩ := wellFormed
      refine positions_pass (fun c member => ?_) (by simp)
        (indexOrSliceOf_slice startWord stopWord stepWord) rest
      simp only [List.mem_append, List.mem_cons] at member
      rcases member with inStart | rfl | inStop | rfl | inStep
      · exact position_of_mem_boundText inStart
      · exact Or.inl rfl
      · exact position_of_mem_boundText inStop
      · exact Or.inl rfl
      · exact position_of_mem_boundText inStep
  | @filter t spelled body =>
      refine ⟨Stops.cons (by decide) _, fun position => ?_⟩
      have shorter : spelled.length ≤ size := by
        simp only [List.length_cons, List.length_append] at fits
        omega
      have inside := filter_passes reads body wellFormed shorter (']' :: rest) (position + 1)
      simp only [bracketBody, List.cons_append, List.append_assoc, List.nil_append,
        Cursor.advance, List.drop_succ_cons, List.drop_zero, Char.reduceEq, if_true,
        if_false] at inside ⊢
      rw [inside]
      simp only [bind, Except.bind, Except.ok.injEq, Prod.mk.injEq, Cursor.mk.injEq, true_and,
        and_true, List.length_cons]
      omega

theorem bracket_passes (reads : ReadsChains path size) {selector : Selector} {body : List Char}
    (spelled : BracketText selector body) (wellFormed : Selector.WellFormed selector)
    (fits : body.length ≤ size) (rest : List Char) :
    Passes (bracket path) (body ++ [']']) rest selector := by
  intro position
  obtain ⟨starts, inside⟩ := bracketBody_passes reads spelled wellFormed fits rest
  have closes : Stops Text.isBlank (']' :: rest) := Stops.cons (by decide) rest
  rw [bracket, List.append_assoc, List.singleton_append, skipBlank_of_stops position starts]
  simp only [inside position, bind, Except.bind, skipBlank_of_stops _ closes, Cursor.advance,
    List.drop_succ_cons, List.drop_zero, List.length_append, List.length_singleton,
    Nat.add_assoc]

/-!
### Steps

A step begins with a dot or a bracket.  What stands behind its dots does not begin with a dot or a
bracket itself, so the number of dots can be told.
-/

/-- Behind a dot, what is no asterisk is a name. -/
theorem afterDot_of_ne {c : Char} (noAsterisk : c ≠ '*') (position : Nat) (rest : List Char) :
    afterDot ⟨position, c :: rest⟩ =
      (Reader.name ⟨position, c :: rest⟩).bind fun read => .ok (.field read.1, read.2) := by
  simp only [afterDot, List.cons.injEq, noAsterisk, false_and, imp_self, implies_true]
  rfl

theorem afterDot_passes {selector : Selector} {body rest : List Char}
    (behind : DotText selector body) (stops : Stops isNameChar rest) :
    Passes afterDot body rest selector := by
  intro position
  cases behind with
  | wildcard => rfl
  | @field name nonempty =>
      have reads := name_passes nonempty stops position
      obtain ⟨c, more, same, isName⟩ := escapeName_head name.toList (by simpa using nonempty)
      rw [same, List.cons_append] at reads ⊢
      rw [afterDot_of_ne (ne_of_holds isName (by decide)), reads]
      rfl

/-- One step passes over exactly a given text and adds given selectors. -/
def Steps (path : Reads Chain) (text rest : List Char) (first : Chain) : Prop :=
  ∀ position, step path ⟨position, text ++ rest⟩ =
    .ok (some (first, ⟨position + text.length, rest⟩))

/-- A step begins with a dot or a bracket. -/
theorem step_of_ne {c : Char} (noDot : c ≠ '.') (noBracket : c ≠ '[') (position : Nat)
    (rest : List Char) : step path ⟨position, c :: rest⟩ = .ok none := by
  simp [step, noDot, noBracket]

theorem step_none {rest : List Char} (stops : Stops continuesPath rest) (position : Nat) :
    step path ⟨position, rest⟩ = .ok none := by
  cases rest with
  | nil => rfl
  | cons c rest =>
      have ends := stops c (by simp)
      have noDot : c ≠ '.' := (ne_of_holds (by decide) ends).symm
      have noBracket : c ≠ '[' := (ne_of_holds (by decide) ends).symm
      exact step_of_ne noDot noBracket position rest

/-- One dot is a step of its own unless another one follows. -/
theorem step_dot {c : Char} (noDot : c ≠ '.') (position : Nat) (rest : List Char) :
    step path ⟨position, '.' :: c :: rest⟩ =
      (afterDot ⟨position + 1, c :: rest⟩).bind fun read => .ok (some ([read.1], read.2)) := by
  simp only [step, List.cons.injEq, noDot, false_and, imp_self, implies_true, Cursor.advance,
    List.drop_succ_cons, List.drop_zero]
  rfl

theorem dot_steps {selector : Selector} {body rest : List Char} (behind : DotText selector body)
    (stops : Stops isNameChar rest) : Steps path ('.' :: body) rest [selector] := by
  intro position
  have reads := afterDot_passes behind stops (position + 1)
  obtain ⟨c, more, rfl, noDot, -⟩ := behind.head
  rw [List.cons_append] at reads
  rw [List.cons_append, List.cons_append, step_dot noDot, reads]
  simp only [Except.bind, List.length_cons, Nat.add_assoc, Nat.add_comm 1]

/-- Two dots that no bracket follows take what stands behind them with them. -/
theorem step_dots {c : Char} (noBracket : c ≠ '[') (position : Nat) (rest : List Char) :
    step path ⟨position, '.' :: '.' :: c :: rest⟩ =
      (afterDot ⟨position + 2, c :: rest⟩).bind fun read =>
        .ok (some ([.descent, read.1], read.2)) := by
  simp only [step, List.cons.injEq, noBracket, false_and, imp_self, implies_true, Cursor.advance,
    List.drop_succ_cons, List.drop_zero]
  rfl

theorem descent_steps_bare {selector : Selector} {body rest : List Char}
    (behind : DotText selector body) (stops : Stops isNameChar rest) :
    Steps path ('.' :: '.' :: body) rest [.descent, selector] := by
  intro position
  have reads := afterDot_passes behind stops (position + 2)
  obtain ⟨c, more, rfl, -, noBracket⟩ := behind.head
  rw [List.cons_append] at reads
  rw [List.cons_append, List.cons_append, List.cons_append, step_dots noBracket, reads]
  simp only [Except.bind, List.length_cons, Nat.add_assoc, Nat.add_comm 2]

/-- Two dots are a step of their own at the end and in front of a bracket. -/
theorem descent_steps {rest : List Char} (alone : rest = [] ∨ ∃ more, rest = '[' :: more) :
    Steps path ['.', '.'] rest [.descent] := by
  intro position
  rcases alone with rfl | ⟨more, rfl⟩
  · rfl
  · rfl

theorem step_bracket (position : Nat) (rest : List Char) :
    step path ⟨position, '[' :: rest⟩ =
      (bracket path ⟨position + 1, rest⟩).bind fun read => .ok (some ([read.1], read.2)) :=
  rfl

theorem bracket_steps (reads : ReadsChains path size) {selector : Selector} {body : List Char}
    (inside : BracketText selector body) (wellFormed : Selector.WellFormed selector)
    (fits : body.length ≤ size) (rest : List Char) :
    Steps path ('[' :: (body ++ [']'])) rest [selector] := by
  intro position
  have passed := bracket_passes reads inside wellFormed fits rest (position + 1)
  rw [List.cons_append, step_bracket, passed]
  simp only [Except.bind, List.length_cons, Nat.add_assoc, Nat.add_comm 1]

/-!
### Chains

The induction is on the number of steps that the reader may take.  It is at least the length of the
text, so it also bounds the paths inside the filters of the first step.
-/

theorem chain_of_stops {rest : List Char} (stops : Stops continuesPath rest) (fuel : Nat) :
    Passes (chain fuel) [] rest [] := by
  intro position
  cases fuel with
  | zero => rfl
  | succ fuel =>
      rw [List.nil_append, chain, step_none stops]
      rfl

/-- A chain is its first step and the chain behind it. -/
theorem chain_of_steps {fuel : Nat} {text tail rest : List Char} {first more : Chain}
    (stepped : Steps (chain fuel) text (tail ++ rest) first)
    (continued : Passes (chain fuel) tail rest more) :
    Passes (chain (fuel + 1)) (text ++ tail) rest (first ++ more) := by
  intro position
  rw [chain, List.append_assoc, stepped position, List.length_append, ← Nat.add_assoc]
  simp only [bind, Except.bind, continued (position + text.length)]

/-- A chain that is spelled without dots in front begins with a dot or a bracket. -/
theorem chainText_stops {steps : List Selector} {text rest : List Char}
    (spelled : ChainText false steps text) (stops : Stops continuesPath rest) :
    Stops isNameChar (text ++ rest) := by
  cases spelled with
  | nil => exact stops.mono continuesPath_of_isNameChar
  | bracket inside next => exact Stops.cons (by decide) _
  | dot behind next => exact Stops.cons (by decide) _
  | descent next => exact Stops.cons (by decide) _

theorem endsInDescent_cons {selector : Selector} {rest : List Selector}
    (ends : Chain.endsInDescent rest = true) :
    Chain.endsInDescent (selector :: rest) = true := by
  cases rest with
  | nil => exact absurd ends Bool.false_ne_true
  | cons next rest => exact ends

/-- Each spelling of a well-formed chain is read back as the chain.  A descent at the end is read
as such only at the end of the whole text. -/
theorem chain_passes (fuel : Nat) :
    ∀ {steps : List Selector} {text rest : List Char}, ChainText false steps text →
      Chain.WellFormed steps → text.length ≤ fuel → Stops continuesPath rest →
      (Chain.endsInDescent steps = true → rest = []) →
      Passes (chain fuel) text rest steps := by
  induction fuel with
  | zero =>
      intro steps text rest spelled _ fits stops _
      cases spelled with
      | nil => exact chain_of_stops stops 0
      | bracket inside next => simp at fits
      | dot behind next => simp at fits
      | descent next => simp at fits
  | succ fuel ih =>
      intro steps text rest spelled wellFormed fits stops ends
      have reads : ReadsChains (chain fuel) fuel := by
        intro inner text rest spelled wellFormed unended fits stops
        exact ih spelled wellFormed fits stops (by simp [unended])
      cases spelled with
      | nil => exact chain_of_stops stops (fuel + 1)
      | @bracket _ selector more body tail inside next =>
          obtain ⟨formed, -, moreFormed⟩ := wellFormed
          simp only [List.length_cons, List.length_append] at fits
          have stepped := bracket_steps reads inside formed (by omega) (tail ++ rest)
          have continued := ih next moreFormed (by omega) stops
            (fun descends => ends (endsInDescent_cons descends))
          have whole := chain_of_steps stepped continued
          simpa using whole
      | @dot selector more body tail behind next =>
          obtain ⟨-, -, moreFormed⟩ := wellFormed
          simp only [List.length_cons, List.length_append] at fits
          have stepped : Steps (chain fuel) ('.' :: body) (tail ++ rest) [selector] :=
            dot_steps behind (chainText_stops next stops)
          have continued := ih next moreFormed (by omega) stops
            (fun descends => ends (endsInDescent_cons descends))
          exact chain_of_steps stepped continued
      | @descent _ more tail next =>
          obtain ⟨-, single, moreFormed⟩ := wellFormed
          simp only [List.length_cons] at fits
          -- The step takes what follows the dots with them, unless it is a bracket or the end.
          cases next with
          | nil =>
              obtain rfl := ends rfl
              have continued := chain_of_stops (Stops.nil continuesPath) fuel
              exact chain_of_steps (descent_steps (Or.inl rfl)) continued
          | @bracket _ selector more body tail inside next =>
              have spelled : ChainText false (selector :: more) ('[' :: (body ++ ']' :: tail)) :=
                .bracket inside next
              have stepped : Steps (chain fuel) ['.', '.'] (('[' :: (body ++ ']' :: tail)) ++ rest)
                  [.descent] := descent_steps (Or.inr ⟨_, rfl⟩)
              have continued := ih spelled moreFormed (by omega) stops
                (fun descends => ends (endsInDescent_cons descends))
              exact chain_of_steps stepped continued
          | @bare selector more body tail behind next =>
              obtain ⟨-, -, tailFormed⟩ := moreFormed
              simp only [List.length_append] at fits
              have stepped : Steps (chain fuel) ('.' :: '.' :: body) (tail ++ rest)
                  [.descent, selector] := descent_steps_bare behind (chainText_stops next stops)
              have continued := ih next tailFormed (by omega) stops
                (fun descends => ends (endsInDescent_cons (endsInDescent_cons descends)))
              exact chain_of_steps stepped continued
          | descent next => exact absurd (single rfl .descent rfl) (by decide)

/-!
### Templates

In front of the first step the reader passes over white space, a dollar sign, and a dot with nothing
but white space behind it.  No spelling begins with any of them.
-/

/-- Nothing that may stand in front of the first step stands in front of a spelling. -/
theorem root_of_chainText {steps : List Selector} {text : List Char}
    (spelled : ChainText false steps text) : root (Cursor.start text) = Cursor.start text := by
  -- The text is empty, or begins with a bracket, or with a dot and a character that is not blank.
  have opened (c d : Char) (more : List Char) (cSolid : Text.isBlank c = false)
      (noDollar : c ≠ '$') (dSolid : c = '.' → Text.isBlank d = false) :
      root (Cursor.start (c :: d :: more)) = Cursor.start (c :: d :: more) := by
    have stays : (Cursor.start (c :: d :: more)).skipBlank = Cursor.start (c :: d :: more) :=
      skipBlank_of_stops 0 (Stops.cons cSolid _)
    rw [root, stays]
    by_cases isDot : c = '.'
    · subst isDot
      simp [Cursor.start, dSolid rfl]
    · simp [Cursor.start, noDollar, isDot]
  cases spelled with
  | nil => rfl
  | @bracket _ selector more body tail inside next =>
      cases body with
      | nil =>
          exact opened '[' ']' tail (by decide) (by decide) (fun same => absurd same (by decide))
      | cons d body =>
          exact opened '[' d (body ++ ']' :: tail) (by decide) (by decide)
            (fun same => absurd same (by decide))
  | @dot selector more body tail behind next =>
      cases behind with
      | wildcard => exact opened '.' '*' tail (by decide) (by decide) (fun _ => by decide)
      | @field name nonempty =>
          obtain ⟨d, inside, same, isName⟩ :=
            escapeName_head name.toList (by simpa using nonempty)
          have solid : Text.isBlank d = false := by
            simp only [isNameChar, Bool.and_eq_true, Bool.not_eq_true'] at isName
            exact isName.1
          rw [same]
          exact opened '.' d (inside ++ tail) (by decide) (by decide) (fun _ => solid)
  | @descent _ more tail next =>
      exact opened '.' '.' tail (by decide) (by decide) (fun _ => by decide)

theorem inner_of_chainText {steps : List Selector} {text : List Char}
    (spelled : ChainText false steps text) (wellFormed : Chain.WellFormed steps) :
    inner text = .ok steps := by
  have passed := chain_passes text.length spelled wellFormed (Nat.le_refl _)
    (Stops.nil continuesPath) (fun _ => rfl) 0
  rw [List.append_nil] at passed
  rw [inner, root_of_chainText spelled]
  simp only [Cursor.start, passed, bind, Except.bind]
  rfl

end Reader

/-- Every spelling of a well-formed chain, put in braces, is read as that chain. -/
theorem Chain.read_template {steps : List Selector} {text : List Char}
    (wellFormed : Chain.WellFormed steps) (spelled : Spelling.ChainText false steps text) :
    Chain.read (Spelling.template text) = .ok steps := by
  have last : (text ++ ['}']).getLast? = some '}' := by simp
  have front : (text ++ ['}']).dropLast = text := by simp
  rw [Chain.read, Spelling.template, String.toList_ofList]
  simp only [last, front, if_true]
  exact Reader.inner_of_chainText spelled wellFormed

/-- A comparison with an escaped name and a decimal literal, a descent, a union in both quotes, a
slice with an absent bound and a bare asterisk, read back as one chain. -/
theorem Chain.read_template_of_filter :
    Chain.read "\x7b[?(@.a\\.b >= -1.5e3)]..[\"x\", 'y\\'s'][1::-2].*\x7d" =
      .ok [.filter (.compare (.current [.field "a.b"]) .atLeast
            (.literal (.number (Decimal.toBinary64 ⟨true, 15, 2⟩)))),
          .descent, .union ["x", "y's"], .slice (some 1) none (some (-2)), .wildcard] := by
  have wellFormed : Chain.WellFormed [.filter (.compare (.current [.field "a.b"]) .atLeast
            (.literal (.number (Decimal.toBinary64 ⟨true, 15, 2⟩)))),
          .descent, .union ["x", "y's"], .slice (some 1) none (some (-2)), .wildcard] := by
    simp [Chain.WellFormed, Selector.WellFormed, Test.WellFormed, Operand.WellFormed,
      Chain.endsInDescent, Selector.isDescent, SignedWord, leastSigned, greatestSigned]
  have space : Spelling.Padding [' '] := by
    intro c member
    fin_cases member
    decide
  have literal : Spelling.LiteralText (.number (Decimal.toBinary64 ⟨true, 15, 2⟩))
      ['-', '1', '.', '5', 'e', '3'] := by
    refine .number (Or.inl rfl) ?_ rfl
    intro c member
    fin_cases member <;> decide
  have path : Spelling.OperandText (.current [.field "a.b"]) "@.a\\.b".toList :=
    .current (.dot (.field (by decide)) (.nil false))
  have test := @Spelling.TestText.compare _ _ .atLeast _ _ _ _ path (.literal literal) space space
  have union := Spelling.BracketText.union (.quoted '"' rfl : Spelling.QuotedText "x" _)
    (.cons space (.quoted '\'' rfl : Spelling.QuotedText "y's" _) .nil)
  exact Chain.read_template wellFormed (.bracket (.filter test) (.descent (.bracket union
    (.bracket (.slice (some 1) none (some (-2))) (.dot .wildcard (.nil false))))))

end WaitFor
