/-
Module: WaitFor.Path.Reader
Purpose: Reading the text of a path into its chain of selectors.
Main exports:
  Reader.name, Reader.quoted, Reader.indexOrSlice, Reader.operand, Reader.filter, Reader.bracket,
  Reader.chain, Reader.inner, Chain.read
-/
import WaitFor.Numeric.Decimal
import WaitFor.Path.Cursor
import WaitFor.Path.Fault
import WaitFor.Path.Selector
import WaitFor.Text.Parts

namespace WaitFor

/-!
Each reader takes a cursor and gives what it read with the cursor behind it, or the first fault from
the left.  A filter holds paths of its own, so the readers of operands, filters and brackets take
the reader of those inner paths as an argument.  `Reader.chain` closes the circle: it allows as many
nested or successive steps as its first argument says, and every step passes over at least one
character, so the length of the remaining text is always enough.
-/

namespace Reader

/-- A reader: what it read with the cursor behind it, or the fault that stopped it. -/
abbrev Reads (α : Type) := Cursor → Except Fault (α × Cursor)

/-- The characters besides white space that end a name. -/
def nameEnds : List Char :=
  ['.', '[', ']', '(', ')', '=', '!', '<', '>', ',', '\'', '"', '*', '@', '$', '?', '{', '}']

/-- The characters that a name holds without an escape. -/
def isNameChar (c : Char) : Bool :=
  !Text.isBlank c && !nameEnds.contains c

/-- The longest name at the front of a text, with its escapes resolved, and the rest. -/
def nameBody : List Char → Except Fault (List Char × List Char)
  | [] => .ok ([], [])
  | ['\\'] => .error .danglingEscape
  | '\\' :: c :: rest => do
    let (name, rest) ← nameBody rest
    .ok (c :: name, rest)
  | c :: rest =>
    if isNameChar c then do
      let (name, rest) ← nameBody rest
      .ok (c :: name, rest)
    else .ok ([], c :: rest)

/-- Reads a field name of at least one character. -/
def name (k : Cursor) : Except Fault (String × Cursor) := do
  let (name, rest) ← nameBody k.rest
  if name.isEmpty then .error (.emptyName k.position)
  else .ok (String.ofList name, k.moveTo rest)

/-- The text up to the closing quote, with its escapes resolved, and what follows the quote. -/
def quotedBody (quote : Char) : List Char → Option (List Char × List Char)
  | [] => none
  | ['\\'] => none
  | '\\' :: c :: rest => (quotedBody quote rest).map fun (text, rest) => (c :: text, rest)
  | c :: rest =>
    if c = quote then some ([], rest)
    else (quotedBody quote rest).map fun (text, rest) => (c :: text, rest)

/-- The two quote characters. -/
def isQuote (c : Char) : Bool := c == '\'' || c == '"'

/-- Reads a text in single or double quotes. -/
def quoted (k : Cursor) : Except Fault (String × Cursor) :=
  match k.rest with
  | [] => .error (.missingQuote k.position)
  | quote :: body =>
    if isQuote quote then
      match quotedBody quote body with
      | some (text, rest) => .ok (String.ofList text, k.moveTo rest)
      | none => .error .unclosedQuote
    else .error (.missingQuote k.position)

/-- Reads the names of a union that follow its first name, each behind a comma. -/
def moreNames : Nat → Cursor → Except Fault (List String × Cursor)
  | 0, k => .ok ([], k)
  | fuel + 1, k =>
    match k.skipBlank.rest with
    | ',' :: _ => do
      let (name, k) ← quoted (k.skipBlank.advance 1).skipBlank
      let (names, k) ← moreNames fuel k
      .ok (name :: names, k)
    | _ => .ok ([], k.skipBlank)

/-- Reads one quoted name or several. -/
def names (k : Cursor) : Except Fault (Selector × Cursor) := do
  let (first, k) ← quoted k
  let (more, k) ← moreNames k.rest.length k
  .ok (if more.isEmpty then .field first else .union (first :: more), k)

/-- Reads a whole text as a signed integer of 64 bits. -/
def integer? (text : List Char) : Option Int := readInteger? leastSigned greatestSigned text

/-- A bound of a slice: absent if blank. -/
def bound? (part : List Char) : Option (Option Int) :=
  match Text.trim part with
  | [] => some none
  | text => (integer? text).map some

/-- The selector that the text of an index or slice writes. -/
def indexOrSliceOf (text : List Char) : Except Fault Selector :=
  let bounds? (parts : List (List Char)) : Option (List (Option Int)) := parts.mapM bound?
  match Text.splitAtEach ':' text with
  | [_] =>
    match integer? text with
    | some position => .ok (.index position)
    | none => .error (.badIndex (String.ofList text))
  | parts =>
    match bounds? parts with
    | some [start, stop] => .ok (.slice start stop none)
    | some [start, stop, step] => .ok (.slice start stop step)
    | _ => .error (.badSlice (String.ofList text))

/-- Reads everything before the next closing bracket as an index or a slice. -/
def indexOrSlice (k : Cursor) : Except Fault (Selector × Cursor) := do
  let selector ← indexOrSliceOf (Text.trim (k.rest.takeWhile (· != ']')))
  .ok (selector, k.skipWhile (· != ']'))

/-- Passes over one given character. -/
def expect (wanted : Char) (k : Cursor) : Except Fault Cursor :=
  match k.rest with
  | [] => .error (.endedBefore wanted)
  | found :: _ =>
    if found = wanted then .ok (k.advance 1) else .error (.wrongChar wanted k.position found)

/-- The comparisons, those that begin with another one first. -/
def comparisons : List Comparison := [.equal, .different, .atLeast, .atMost, .greater, .less]

/-- Reads a comparison. -/
def comparison (k : Cursor) : Except Fault (Comparison × Cursor) :=
  match comparisons.find? fun op => op.text.toList.isPrefixOf k.rest with
  | some op => .ok (op, k.advance op.text.length)
  | none => .error (.missingComparison k.position)

/-- The characters that may belong to a number. -/
def isNumberChar (c : Char) : Bool := c.isDigit || ['-', '+', '.', 'e', 'E'].contains c

/-- Reads all characters that may belong to a number as one decimal literal. -/
def number (k : Cursor) : Except Fault (Literal × Cursor) :=
  let text := k.rest.takeWhile isNumberChar
  match Decimal.read? text with
  | some d => .ok (.number d.toBinary64, k.skipWhile isNumberChar)
  | none => .error (.badNumber (String.ofList text))

/-- The literals that are words. -/
def keywords : List (String × Literal) :=
  [("true", .boolean true), ("false", .boolean false), ("null", .null)]

/-- Reads a literal that is a word. -/
def keyword (k : Cursor) (first : Char) : Except Fault (Literal × Cursor) :=
  match keywords.find? fun (word, _) => word.toList.isPrefixOf k.rest with
  | some (word, value) => .ok (value, k.advance word.length)
  | none => .error (.unexpectedChar first k.position)

/-- Reads one side of a comparison; `path` reads the path behind an `@`. -/
def operand (path : Reads Chain) (k : Cursor) : Except Fault (Operand × Cursor) :=
  match k.rest with
  | [] => .error .unclosedFilter
  | c :: _ =>
    if c = '@' then do
      let (chain, k) ← path (k.advance 1)
      .ok (.current chain, k)
    else if isQuote c then do
      let (text, k) ← quoted k
      .ok (.literal (.string text), k)
    else if c = '-' || c.isDigit then do
      let (value, k) ← number k
      .ok (.literal value, k)
    else do
      let (value, k) ← keyword k c
      .ok (.literal value, k)

/-- Reads what stands between the parentheses of a filter: an operand that is a path, or a
comparison of two operands. -/
def test (path : Reads Chain) (k : Cursor) : Except Fault (Test × Cursor) := do
  let (left, k) ← operand path k
  let k := k.skipBlank
  match k.rest, left with
  | ')' :: _, .current chain => .ok (.present chain, k)
  | ')' :: _, .literal _ => .error .literalAlone
  | _, _ => do
    let (op, k) ← comparison k
    let (right, k) ← operand path k.skipBlank
    .ok (.compare left op right, k)

/-- Reads a test in parentheses. -/
def filter (path : Reads Chain) (k : Cursor) : Except Fault (Test × Cursor) := do
  let k ← expect '(' k.skipBlank
  let (t, k) ← test path k.skipBlank
  let k ← expect ')' k.skipBlank
  .ok (t, k)

/-- Reads what stands between brackets. -/
def bracketBody (path : Reads Chain) (k : Cursor) : Except Fault (Selector × Cursor) :=
  match k.rest with
  | [] => .error .unclosedBracket
  | c :: _ =>
    if c = '*' then .ok (.wildcard, k.advance 1)
    else if c = '?' then do
      let (t, k) ← filter path (k.advance 1)
      .ok (.filter t, k)
    else if isQuote c then names k
    else indexOrSlice k

/-- Reads a selector in brackets, the opening one already passed. -/
def bracket (path : Reads Chain) (k : Cursor) : Except Fault (Selector × Cursor) := do
  let (selector, k) ← bracketBody path k.skipBlank
  let k := k.skipBlank
  match k.rest with
  | [] => .error .unclosedBracket
  | ']' :: _ => .ok (selector, k.advance 1)
  | found :: _ => .error (.wrongChar ']' k.position found)

/-- Reads what stands behind one dot or two: a wildcard or a field. -/
def afterDot (k : Cursor) : Except Fault (Selector × Cursor) :=
  match k.rest with
  | '*' :: _ => .ok (.wildcard, k.advance 1)
  | _ => do
    let (name, k) ← name k
    .ok (.field name, k)

/-- Reads one step of a path, or nothing where the path ends.  Two dots are a descent; the bracket
that may follow them is a step of its own, and so is their end. -/
def step (path : Reads Chain) (k : Cursor) : Except Fault (Option (Chain × Cursor)) :=
  match k.rest with
  | ['.', '.'] | '.' :: '.' :: '[' :: _ => .ok (some ([.descent], k.advance 2))
  | '.' :: '.' :: _ => do
    let (selector, k) ← afterDot (k.advance 2)
    .ok (some ([.descent, selector], k))
  | '.' :: _ => do
    let (selector, k) ← afterDot (k.advance 1)
    .ok (some ([selector], k))
  | '[' :: _ => do
    let (selector, k) ← bracket path (k.advance 1)
    .ok (some ([selector], k))
  | _ => .ok none

/-- Reads a path of at most `fuel` steps, counting those of its filters. -/
def chain : Nat → Cursor → Except Fault (Chain × Cursor)
  | 0, k => .ok ([], k)
  | fuel + 1, k => do
    match ← step (chain fuel) k with
    | none => .ok ([], k)
    | some (first, k) =>
      let (more, k) ← chain fuel k
      .ok (first ++ more, k)

/-- Passes over what may stand before the first step: white space, a dollar sign, and a dot with
nothing but white space behind it. -/
def root (k : Cursor) : Cursor :=
  let k := k.skipBlank
  let k := match k.rest with
    | '$' :: _ => k.advance 1
    | _ => k
  match k.rest with
  | '.' :: rest => if rest.all Text.isBlank then k.advance 1 else k
  | _ => k

/-- Reads the whole text inside the braces of a template. -/
def inner (text : List Char) : Except Fault Chain := do
  let k := root (Cursor.start text)
  let (selectors, k) ← chain k.rest.length k
  match k.skipBlank.rest with
  | [] => .ok selectors
  | found :: _ => .error (.unexpectedChar found k.skipBlank.position)

end Reader

/-- Reads a template: a path in braces. -/
def Chain.read (template : String) : Except Fault Chain :=
  match template.toList with
  | '{' :: rest =>
    if rest.getLast? = some '}' then Reader.inner rest.dropLast
    else .error (.missingCloseBrace template)
  | _ => .error (.missingOpenBrace template)

end WaitFor
