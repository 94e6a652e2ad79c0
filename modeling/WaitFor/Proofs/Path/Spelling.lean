/-
Module: WaitFor.Proofs.Path.Spelling
Purpose: The texts that write a chain of selectors, as relations beside the reader of paths.
Main exports:
  Chain.WellFormed, Chain.endsInDescent, Spelling.QuotedText, Spelling.BracketText,
  Spelling.DotText, Spelling.ChainText, Spelling.TestText, Spelling.OperandText
-/
import Mathlib
import WaitFor.Path.Reader

namespace WaitFor

/-!
### Well-formed chains

Not every chain can be written.  A union of fewer than two names has no brackets of its own, two
descents in a row would be four dots, and inside a filter nothing may follow a descent that is not
one of its steps.  Positions are signed integers of 64 bits.
-/

/-- Whether a selector is a recursive descent. -/
def Selector.isDescent : Selector → Bool
  | .descent => true
  | _ => false

/-- The integers that may stand as a position or as a bound. -/
def SignedWord (position : Int) : Prop := leastSigned ≤ position ∧ position ≤ greatestSigned

/-- Whether the last selector of a chain is a descent. -/
def Chain.endsInDescent : List Selector → Bool
  | [] => false
  | [last] => last.isDescent
  | _ :: rest => Chain.endsInDescent rest

mutual

/-- A union has at least two names, positions are words, and tests are well-formed. -/
def Selector.WellFormed : Selector → Prop
  | .union names => 2 ≤ names.length
  | .index position => SignedWord position
  | .slice start stop step =>
      (∀ position ∈ start, SignedWord position) ∧ (∀ position ∈ stop, SignedWord position) ∧
        ∀ position ∈ step, SignedWord position
  | .filter test => Test.WellFormed test
  | _ => True

/-- The paths of a test are well-formed and do not end in a descent. -/
def Test.WellFormed : Test → Prop
  | .present path => Chain.WellFormed path ∧ Chain.endsInDescent path = false
  | .compare left _ right => Operand.WellFormed left ∧ Operand.WellFormed right

/-- The path of an operand is well-formed and does not end in a descent. -/
def Operand.WellFormed : Operand → Prop
  | .current path => Chain.WellFormed path ∧ Chain.endsInDescent path = false
  | .literal _ => True

/-- Each selector is well-formed, and no descent follows a descent. -/
def Chain.WellFormed : List Selector → Prop
  | [] => True
  | selector :: rest =>
      Selector.WellFormed selector ∧
        (selector.isDescent = true → ∀ next ∈ rest.head?, next.isDescent = false) ∧
        Chain.WellFormed rest

end

namespace Spelling

/-!
### Spellings

A chain has many spellings: either quote may be used, a field may stand in brackets or behind a dot,
and a number has many decimal forms.  The spellings are therefore a relation.  Its first argument
says whether two dots stand directly in front, because a name or an asterisk behind them has no dot
of its own.
-/

/-- A text between quotes: a backslash stands before each backslash and before each such quote. -/
def escapeQuoted (quote : Char) (text : List Char) : List Char :=
  text.flatMap fun c => if c = '\\' ∨ c = quote then ['\\', c] else [c]

/-- A bare name: a backslash stands before each backslash and before each character that would end
the name. -/
def escapeName (name : List Char) : List Char :=
  name.flatMap fun c => if c = '\\' ∨ Reader.isNameChar c = false then ['\\', c] else [c]

/-- White space, or nothing. -/
def Padding (text : List Char) : Prop := ∀ c ∈ text, Text.isBlank c = true

/-- A text in quotes. -/
inductive QuotedText (text : String) : List Char → Prop where
  | quoted (quote : Char) (isQuote : Reader.isQuote quote = true) :
      QuotedText text (quote :: (escapeQuoted quote text.toList ++ [quote]))

/-- Names in quotes, each behind a comma. -/
inductive MoreNamesText : List String → List Char → Prop where
  | nil : MoreNamesText [] []
  | cons {name : String} {names : List String} {padding spelled more : List Char}
      (blank : Padding padding) (first : QuotedText name spelled)
      (rest : MoreNamesText names more) :
      MoreNamesText (name :: names) (',' :: (padding ++ (spelled ++ more)))

/-- An integer in decimal digits. -/
def integerText (position : Int) : List Char := (toString position).toList

/-- A bound of a slice; nothing stands for an absent one. -/
def boundText : Option Int → List Char
  | none => []
  | some position => integerText position

/-- A constant: a text in quotes, a decimal literal that begins with a digit or a minus sign, or a
word. -/
inductive LiteralText : Literal → List Char → Prop where
  | string {text : String} {spelled : List Char} (quoted : QuotedText text spelled) :
      LiteralText (.string text) spelled
  | number {first : Char} {more : List Char} {decimal : Decimal}
      (starts : first = '-' ∨ first.isDigit = true)
      (digits : ∀ c ∈ more, c.isDigit = true ∨ c ∈ ['-', '+', '.', 'e', 'E'])
      (reads : Decimal.read? (first :: more) = some decimal) :
      LiteralText (.number decimal.toBinary64) (first :: more)
  | yes : LiteralText (.boolean true) "true".toList
  | no : LiteralText (.boolean false) "false".toList
  | null : LiteralText .null "null".toList

/-- What stands behind a dot: an asterisk or a name. -/
inductive DotText : Selector → List Char → Prop where
  | wildcard : DotText .wildcard ['*']
  | field {name : String} (nonempty : name ≠ "") :
      DotText (.field name) (escapeName name.toList)

mutual

/-- What stands between brackets. -/
inductive BracketText : Selector → List Char → Prop where
  | field {name : String} {spelled : List Char} (quoted : QuotedText name spelled) :
      BracketText (.field name) spelled
  | union {name : String} {names : List String} {spelled more : List Char}
      (first : QuotedText name spelled) (rest : MoreNamesText names more) :
      BracketText (.union (name :: names)) (spelled ++ more)
  | wildcard : BracketText .wildcard ['*']
  | index (position : Int) : BracketText (.index position) (integerText position)
  | slice (start stop step : Option Int) :
      BracketText (.slice start stop step)
        (boundText start ++ ':' :: (boundText stop ++ ':' :: boundText step))
  | filter {test : Test} {spelled : List Char} (body : TestText test spelled) :
      BracketText (.filter test) ('?' :: '(' :: (spelled ++ [')']))

/-- What stands between the parentheses of a filter. -/
inductive TestText : Test → List Char → Prop where
  | present {path : List Selector} {spelled : List Char} (body : ChainText false path spelled) :
      TestText (.present path) ('@' :: spelled)
  | compare {left right : Operand} {op : Comparison} {first last before behind : List Char}
      (leftText : OperandText left first) (rightText : OperandText right last)
      (blankBefore : Padding before) (blankBehind : Padding behind) :
      TestText (.compare left op right)
        (first ++ (before ++ (op.text.toList ++ (behind ++ last))))

/-- One side of a comparison. -/
inductive OperandText : Operand → List Char → Prop where
  | current {path : List Selector} {spelled : List Char} (body : ChainText false path spelled) :
      OperandText (.current path) ('@' :: spelled)
  | literal {value : Literal} {spelled : List Char} (constant : LiteralText value spelled) :
      OperandText (.literal value) spelled

/-- The steps of a chain one after another; the first argument says whether two dots stand directly
in front. -/
inductive ChainText : Bool → List Selector → List Char → Prop where
  | nil (behindDots : Bool) : ChainText behindDots [] []
  | bracket {behindDots : Bool} {selector : Selector} {rest : List Selector}
      {body more : List Char} (inside : BracketText selector body)
      (next : ChainText false rest more) :
      ChainText behindDots (selector :: rest) ('[' :: (body ++ ']' :: more))
  | dot {selector : Selector} {rest : List Selector} {body more : List Char}
      (behind : DotText selector body) (next : ChainText false rest more) :
      ChainText false (selector :: rest) ('.' :: (body ++ more))
  | bare {selector : Selector} {rest : List Selector} {body more : List Char}
      (behind : DotText selector body) (next : ChainText false rest more) :
      ChainText true (selector :: rest) (body ++ more)
  | descent {behindDots : Bool} {rest : List Selector} {more : List Char}
      (next : ChainText true rest more) :
      ChainText behindDots (.descent :: rest) ('.' :: '.' :: more)

end

/-- The template of a path: its text in braces. -/
def template (text : List Char) : String := String.ofList ('{' :: (text ++ ['}']))

/-!
### First characters
-/

/-- A character with a property is not one that lacks it. -/
theorem ne_of_holds {p : Char → Bool} {c d : Char} (holds : p c = true) (lacks : p d = false) :
    c ≠ d := by
  rintro rfl
  rw [holds] at lacks
  cases lacks

/-- An escaped name begins with a backslash or with a character of a name. -/
theorem escapeName_head (name : List Char) (nonempty : name ≠ []) :
    ∃ c more, escapeName name = c :: more ∧ Reader.isNameChar c = true := by
  cases name with
  | nil => exact absurd rfl nonempty
  | cons c name =>
      by_cases escaped : c = '\\' ∨ Reader.isNameChar c = false
      · exact ⟨'\\', c :: escapeName name, by simp [escapeName, escaped], by decide⟩
      · obtain ⟨-, isName⟩ := not_or.mp escaped
        exact ⟨c, escapeName name, by simp [escapeName, escaped], by simpa using isName⟩

/-- A text in quotes begins with its quote. -/
theorem QuotedText.head {text : String} {spelled : List Char}
    (quotedText : QuotedText text spelled) :
    ∃ quote more, spelled = quote :: more ∧ Reader.isQuote quote = true := by
  cases quotedText with
  | quoted quote isQuote => exact ⟨quote, _, rfl, isQuote⟩

/-- What stands behind a dot begins with an asterisk or with a character of a name. -/
theorem DotText.head {selector : Selector} {body : List Char} (behind : DotText selector body) :
    ∃ c more, body = c :: more ∧ c ≠ '.' ∧ c ≠ '[' := by
  cases behind with
  | wildcard => exact ⟨'*', [], rfl, by decide, by decide⟩
  | @field name nonempty =>
      obtain ⟨c, more, same, isName⟩ := escapeName_head name.toList (by simpa using nonempty)
      exact ⟨c, more, same, ne_of_holds isName (by decide), ne_of_holds isName (by decide)⟩

/-- Several names take at least one character each. -/
theorem MoreNamesText.length_le {names : List String} {text : List Char}
    (moreNames : MoreNamesText names text) : names.length ≤ text.length := by
  induction moreNames with
  | nil => exact Nat.le_refl 0
  | cons blank first rest ih =>
      simp only [List.length_cons, List.length_append]
      omega

end Spelling

end WaitFor
