/-
Module: WaitFor.Text.Quoted
Purpose: Text in double quotes, for messages that show a string unambiguously.
Main exports: Text.escapeChar, Text.quote
-/
import WaitFor.Text.Unprintable

namespace WaitFor.Text

/-- A character inside quotes.  The quote, the backslash and four controls have short escapes;
other unprintable characters are shown by their code point in braces. -/
def escapeChar (c : Char) : List Char :=
  if c = '"' then ['\\', '"']
  else if c = '\\' then ['\\', '\\']
  else if c = '\n' then ['\\', 'n']
  else if c = '\r' then ['\\', 'r']
  else if c = '\t' then ['\\', 't']
  else if c.toNat = 0 then ['\\', '0']
  else if isUnprintable c then ['\\', 'u', '{'] ++ Nat.toDigits 16 c.toNat ++ ['}']
  else [c]

/-- A text in double quotes. -/
def quote (text : String) : String :=
  String.ofList ('"' :: (text.toList.flatMap escapeChar ++ ['"']))

end WaitFor.Text
