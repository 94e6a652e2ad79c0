/-
Module: WaitFor.Path.Fault
Purpose: Why the text of a path is refused.
Main exports: Fault, Fault.position?, Fault.message
-/

namespace WaitFor

/-!
A fault names its cause.  Positions count characters from the start of the text inside the braces,
beginning with zero; a fault without a position either quotes the offending text or lies at the end.
-/

/-- The causes for which a path is refused. -/
inductive Fault where
  /-- Neither a plain text nor a text in one pair of braces. -/
  | notAPath
  | missingOpenBrace (template : String)
  | missingCloseBrace (template : String)
  | wrongChar (wanted : Char) (position : Nat) (found : Char)
  | endedBefore (wanted : Char)
  | unexpectedChar (found : Char) (position : Nat)
  | danglingEscape
  | emptyName (position : Nat)
  | unclosedBracket
  | missingQuote (position : Nat)
  | unclosedQuote
  | badIndex (text : String)
  | badSlice (text : String)
  | literalAlone
  | missingComparison (position : Nat)
  | unclosedFilter
  | badNumber (text : String)
deriving Repr, DecidableEq, Inhabited

namespace Fault

/-- The position that the message of a fault names. -/
def position? : Fault → Option Nat
  | wrongChar _ position _ | unexpectedChar _ position | emptyName position
  | missingQuote position | missingComparison position => some position
  | _ => none

/-- The character that the message of a fault shows as standing at its position. -/
def found? : Fault → Option Char
  | wrongChar _ _ found | unexpectedChar found _ => some found
  | _ => none

/-- The wording of a fault. -/
def message : Fault → String
  | notAPath =>
    "unexpected path string, expected a 'name1.name2' or '.name1.name2' or " ++
      "'\x7bname1.name2\x7d' or '\x7b.name1.name2\x7d'"
  | missingOpenBrace template => "expected '\x7b' at the start of " ++ template
  | missingCloseBrace template => "unclosed action in " ++ template
  | wrongChar wanted position found =>
    s!"expected '{wanted}' at position {position}, found '{found}'"
  | endedBefore wanted => s!"expected '{wanted}' but reached the end of the expression"
  | unexpectedChar found position => s!"unexpected character '{found}' at position {position}"
  | danglingEscape => "dangling escape at the end of the expression"
  | emptyName position => s!"empty field name at position {position}"
  | unclosedBracket => "unterminated '['"
  | missingQuote position => s!"expected a quoted string at position {position}"
  | unclosedQuote => "unterminated string"
  | badIndex text => s!"invalid array index '{text}'"
  | badSlice text => s!"invalid array slice '{text}'"
  | literalAlone => "filter without comparison must test an '@' path"
  | missingComparison position => s!"expected a comparison operator at position {position}"
  | unclosedFilter => "unterminated filter"
  | badNumber text => s!"invalid number '{text}'"

end Fault

end WaitFor
