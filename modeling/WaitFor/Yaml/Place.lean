/-
Module: WaitFor.Yaml.Place
Purpose: A place in a YAML stream and the characters around it.
Main exports:
  Yaml.Place, Yaml.Place.skip, Yaml.Place.moveTo, Yaml.Place.takeBreak?, Yaml.isBreak, Yaml.isBlank
-/

namespace WaitFor.Yaml

/-- A place in a stream: the characters that follow, how many bytes of UTF-8 lie before, its line,
and how many characters lie before it on that line.  All counts begin with zero. -/
structure Place where
  rest : List Char
  offset : Nat
  line : Nat
  column : Nat
deriving Repr, Inhabited

/-- The characters that end a line: line feed, carriage return, next line, and the separators of
lines and paragraphs. -/
def isBreak (c : Char) : Bool :=
  c == '\n' || c == '\r' || c.toNat == 0x85 || c.toNat == 0x2028 || c.toNat == 0x2029

/-- The characters that separate on one line. -/
def isBlank (c : Char) : Bool := c == ' ' || c == '\t'

/-- Whether a text ends or continues with white space. -/
def atSpace : List Char → Bool
  | [] => true
  | c :: _ => isBlank c || isBreak c

/-- The characters of anchors, directive names and tag handles. -/
def isWordChar (c : Char) : Bool := c.isAlphanum || c == '_' || c == '-'

/-- How many bytes of UTF-8 a text takes. -/
def byteLength (text : List Char) : Nat := text.foldl (fun n c => n + c.utf8Size) 0

namespace Place

/-- The place before a text. -/
def start (text : List Char) : Place := ⟨text, 0, 0, 0⟩

/-- Passes over some characters of one line. -/
def skip (p : Place) (count : Nat) : Place :=
  { p with
    rest := p.rest.drop count
    offset := p.offset + byteLength (p.rest.take count)
    column := p.column + count }

/-- Passes to a later place on the same line, given by the characters that follow it. -/
def moveTo (p : Place) (rest : List Char) : Place := p.skip (p.rest.length - rest.length)

/-- Passes over the characters at the front that satisfy a predicate; they lie on one line. -/
def skipWhile (p : Place) (accepts : Char → Bool) : Place := p.moveTo (p.rest.dropWhile accepts)

/-- Passes over the end of a line.  Both characters of a return with a line feed make one end, and
all ends but the two separators count as a line feed. -/
def takeBreak? (p : Place) : Option (List Char × Place) :=
  match p.rest with
  | '\r' :: '\n' :: rest => some (['\n'], ⟨rest, p.offset + 2, p.line + 1, 0⟩)
  | c :: rest =>
    if isBreak c then
      some ([if c.toNat = 0x2028 ∨ c.toNat = 0x2029 then c else '\n'],
        ⟨rest, p.offset + c.utf8Size, p.line + 1, 0⟩)
    else none
  | [] => none

/-- Passes over a comment, if one begins here. -/
def skipComment (p : Place) : Place :=
  match p.rest with
  | '#' :: _ => p.skipWhile fun c => !isBreak c
  | _ => p

/-- Passes over blanks, a comment and the end of the line, if nothing else stands on it. -/
def skipLineEnd? (p : Place) : Option Place :=
  let p := (p.skipWhile isBlank).skipComment
  if p.rest.isEmpty then some p else p.takeBreak?.map (·.2)

/-- Whether a row of three equal marks on the margin ends or begins a document here. -/
def atMarks (mark : Char) (p : Place) : Bool :=
  p.column == 0 && p.rest.take 3 == [mark, mark, mark] && atSpace (p.rest.drop 3)

/-- Whether a document begins or ends here by explicit marks. -/
def atDocumentMark (p : Place) : Bool := p.atMarks '-' || p.atMarks '.'

end Place

end WaitFor.Yaml
