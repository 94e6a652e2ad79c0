/-
Module: WaitFor.Yaml.Layout
Purpose: From the text of a stream to its tokens: indentation, flow collections and keys.
Main exports: Yaml.Layout, Yaml.Layout.next?, Yaml.tokens
-/
import WaitFor.Yaml.Property
import WaitFor.Yaml.Scalar
import WaitFor.Yaml.Stream

namespace WaitFor.Yaml

/-!
Blocks are opened and closed by indentation, and a key of one line is known as one only when the
colon behind it is met.  A layout therefore remembers the columns of the open blocks and, for each
open flow collection and for the block around them, the last place where a key may have begun.  When
the colon comes, the tokens that announce the key are put in front of the token at that place.
-/

/-- A token that may turn out to begin a key: its number, its place, and whether nothing but a key
is allowed there. -/
structure KeyStart where
  required : Bool
  number : Nat
  offset : Nat
  line : Nat
  column : Nat
deriving Repr, Inhabited

/-- The state between two tokens.  Tokens are in reverse order. -/
structure Layout where
  place : Place
  /-- Whether the stream breaks off behind the text. -/
  broken : Bool
  emitted : List Token
  count : Nat
  /-- The column of the innermost open block, `-1` if there is none. -/
  indent : Int
  /-- The columns of the blocks around it. -/
  outer : List Int
  /-- The number of open flow collections. -/
  flow : Nat
  keyAllowed : Bool
  /-- The last possible key, innermost level first. -/
  keys : List (Option KeyStart)
  ended : Bool
deriving Inhabited

namespace Layout

def start (stream : Stream) : Layout :=
  { place := Place.start stream.text, broken := stream.broken, emitted := [], count := 0
    indent := -1, outer := [], flow := 0, keyAllowed := true, keys := [none], ended := false }

def emit (s : Layout) (token : Token) : Layout :=
  { s with emitted := token :: s.emitted, count := s.count + 1 }

/-- Puts a token in front of the one with a given number. -/
def emitAt (s : Layout) (number : Nat) (token : Token) : Layout :=
  { s with emitted := s.emitted.insertIdx (s.count - number) token, count := s.count + 1 }

/-- Emits a token of the given length that stands at the place. -/
def pass (s : Layout) (length : Nat) (token : Token) : Layout :=
  { s.emit token with place := s.place.skip length }

/-- Opens a block at a column, if that lies right of the open one. -/
def openBlock (s : Layout) (column : Nat) (number : Nat) (token : Token) : Layout :=
  if s.flow = 0 ∧ s.indent < column then
    { s.emitAt number token with indent := column, outer := s.indent :: s.outer }
  else s

/-- Closes the given number of blocks at most, as far as they lie right of a column. -/
def closeBlocks (column : Int) : Nat → Layout → Layout
  | 0, s => s
  | fuel + 1, s =>
    if s.flow = 0 ∧ column < s.indent then
      closeBlocks column fuel
        { s.emit .blockEnd with indent := s.outer.headD (-1), outer := s.outer.tail }
    else s

/-- Closes the blocks that lie right of a column. -/
def closeTo (s : Layout) (column : Int) : Layout := closeBlocks column (s.outer.length + 1) s

/-- Gives up the possible keys that lie on an earlier line or more than 1024 bytes back; none if one
of them was required. -/
def dropStale? (s : Layout) : Option Layout := do
  let keys ← s.keys.mapM fun key? =>
    match key? with
    | none => some none
    | some key =>
      if key.line < s.place.line ∨ key.offset + 1024 < s.place.offset then
        if key.required then none else some none
      else some (some key)
  some { s with keys }

/-- The tokens that are settled: those before the first that may still turn out to begin a key. -/
def settled (s : Layout) : List Token :=
  let s := s.dropStale?.getD s
  let pending := s.keys.filterMap fun key? => key?.map KeyStart.number
  s.emitted.reverse.take (pending.foldl min s.count)

/-- Gives up the possible key of the innermost level; none if it was required. -/
def dropKey? (s : Layout) : Option Layout :=
  match s.keys with
  | some key :: rest => if key.required then none else some { s with keys := none :: rest }
  | _ => some s

/-- Notes that the next token may begin a key. -/
def saveKey? (s : Layout) : Option Layout := do
  if !s.keyAllowed then some s else
  let s ← s.dropKey?
  let p := s.place
  let key := ⟨s.flow == 0 && s.indent == p.column, s.count, p.offset, p.line, p.column⟩
  some { s with keys := some key :: s.keys.tail }

/-- A byte order mark.  In front of a line it is passed over, but it takes a column. -/
def byteOrderMark : Char := Char.ofNat 0xFEFF

/-- Passes over blanks, comments and line ends.  A tab separates only where no key may begin. -/
def skipSpace : Nat → Layout → Layout
  | 0, s => s
  | fuel + 1, s =>
    let marked := s.place.column = 0 ∧ s.place.rest.head? = some byteOrderMark
    let p := if marked then s.place.skip 1 else s.place
    let tabs := s.flow != 0 || !s.keyAllowed
    let p := (p.skipWhile fun c => c == ' ' || (tabs && c == '\t')).skipComment
    match p.takeBreak? with
    | some (_, p) =>
      skipSpace fuel { s with place := p, keyAllowed := s.keyAllowed || s.flow == 0 }
    | none => { s with place := p }

/-- The end of the stream. -/
def endStream? (s : Layout) : Option Layout := do
  let s ← (s.closeTo (-1)).dropKey?
  some { s.emit .streamEnd with ended := true }

/-- A directive or a document mark, which closes all blocks. -/
def margin? (s : Layout) : Option Layout := do
  let s ← (s.closeTo (-1)).dropKey?
  some { s with keyAllowed := false }

def directive? (s : Layout) : Option Layout := do
  let s ← s.margin?
  let (token, place) ← takeDirective? (s.place.skip 1)
  some { s.emit token with place }

def openFlow? (s : Layout) (token : Token) : Option Layout := do
  let s ← s.saveKey?
  some { s.pass 1 token with keys := none :: s.keys, flow := s.flow + 1, keyAllowed := true }

def closeFlow? (s : Layout) (token : Token) : Option Layout := do
  let s ← s.dropKey?
  let keys := if s.flow = 0 then s.keys else s.keys.tail
  some { s.pass 1 token with keys, flow := s.flow - 1, keyAllowed := false }

def flowEntry? (s : Layout) : Option Layout := do
  let s ← s.dropKey?
  some { s.pass 1 .flowEntry with keyAllowed := true }

/-- A dash or a question mark, which opens a block where one may begin. -/
def blockIndicator? (s : Layout) (opening token : Token) (keyAllowed : Bool) : Option Layout := do
  if s.flow = 0 ∧ !s.keyAllowed then none else
  let s ← (s.openBlock s.place.column s.count opening).dropKey?
  some { s.pass 1 token with keyAllowed }

/-- A colon.  Behind a possible key it announces that key; else it needs a key on a line of its
own. -/
def value? (s : Layout) : Option Layout :=
  match s.keys with
  | some key :: rest =>
    let s := (s.emitAt key.number .key).openBlock key.column key.number .blockMappingStart
    some { s.pass 1 .value with keys := none :: rest, keyAllowed := false }
  | _ =>
    if s.flow = 0 ∧ !s.keyAllowed then none
    else
      let s := s.openBlock s.place.column s.count .blockMappingStart
      some { s.pass 1 .value with keyAllowed := s.flow == 0 }

def anchor? (s : Layout) (token : String → Token) : Option Layout := do
  let s ← s.saveKey?
  let (name, rest) ← takeAnchorName? (s.place.rest.drop 1)
  some { s.emit (token name) with place := s.place.moveTo rest, keyAllowed := false }

def tag? (s : Layout) : Option Layout := do
  let s ← s.saveKey?
  let (token, rest) ← takeTag? (s.flow != 0) s.place.rest
  some { s.emit token with place := s.place.moveTo rest, keyAllowed := false }

def block? (s : Layout) (literal : Bool) : Option Layout := do
  let s ← s.dropKey?
  let (text, place) ← takeBlock? literal s.indent (s.place.skip 1)
  some { s.emit (.scalar false (String.ofList text)) with place, keyAllowed := true }

def quoted? (s : Layout) (single : Bool) : Option Layout := do
  let s ← s.saveKey?
  let p := s.place.skip 1
  let (text, place) ← takeQuoted? single (p.rest.length + 1) p
  some { s.emit (.scalar false (String.ofList text)) with place, keyAllowed := false }

/-- A plain scalar.  A line break behind it lets a key begin. -/
def plain? (s : Layout) : Option Layout := do
  let s ← s.saveKey?
  let (text, broken, place) ←
    takePlain? (s.flow != 0) (s.indent + 1) (s.place.rest.length + 1) Gap.none s.place
  some { s.emit (.scalar true (String.ofList text)) with place, keyAllowed := broken }

/-- The characters with which no plain scalar begins. -/
def isIndicator (c : Char) : Bool :=
  ['-', '?', ':', ',', '[', ']', '{', '}', '#', '&', '*', '!', '|', '>', '\'', '"', '%', '@',
    '`'].contains c

/-- Whether a plain scalar begins at a text: with no indicator, or with one that has no meaning
because of the character behind it. -/
def beginsPlain (flow : Bool) : List Char → Bool
  | [] => false
  | c :: rest =>
    !(isBlank c || isBreak c || isIndicator c) || (c == '-' && !rest.head?.any isBlank) ||
      (!flow && (c == '?' || c == ':') && !atSpace rest)

/-- Takes the next token at a place that is neither white space nor the end. -/
def token? (s : Layout) (c : Char) (rest : List Char) : Option Layout :=
  let flow := s.flow != 0
  if s.place.column = 0 ∧ c = '%' then s.directive?
  else if s.place.atMarks '-' then s.margin?.map (·.pass 3 .documentStart)
  else if s.place.atMarks '.' then s.margin?.map (·.pass 3 .documentEnd)
  else if c = '[' then s.openFlow? .flowSequenceStart
  else if c = '{' then s.openFlow? .flowMappingStart
  else if c = ']' then s.closeFlow? .flowSequenceEnd
  else if c = '}' then s.closeFlow? .flowMappingEnd
  else if c = ',' then s.flowEntry?
  else if c = '-' ∧ atSpace rest then s.blockIndicator? .blockSequenceStart .blockEntry true
  else if c = '?' ∧ (flow ∨ atSpace rest) then
    s.blockIndicator? .blockMappingStart .key (!flow)
  else if c = ':' ∧ (flow ∨ atSpace rest) then s.value?
  else if c = '*' then s.anchor? .alias
  else if c = '&' then s.anchor? .anchor
  else if c = '!' then s.tag?
  else if c = '|' ∧ !flow then s.block? true
  else if c = '>' ∧ !flow then s.block? false
  else if c = '\'' then s.quoted? true
  else if c = '"' then s.quoted? false
  else if beginsPlain flow s.place.rest then s.plain?
  else none

/-- Whether the stream breaks off before a number of characters could be read. -/
def runsOut (s : Layout) (count : Nat) : Bool := s.broken && (s.place.rest.drop (count - 1)).isEmpty

/-- Takes the next token, with those that the layout adds; none where no token can begin.  Four
characters are looked at before a token is taken, and one behind it. -/
def next? (s : Layout) : Option Layout := do
  let s ← (skipSpace (s.place.rest.length + 1) s).dropStale?
  let s := s.closeTo s.place.column
  if s.runsOut 4 then none else
  let s ← match s.place.rest with
    | [] => s.endStream?
    | c :: rest => s.token? c rest
  if s.runsOut 1 then none else some s

/-- Takes the remaining tokens.  Where no further one can be taken, those stand that are
settled. -/
def run : Nat → Layout → List Token
  | 0, s => s.emitted.reverse
  | fuel + 1, s =>
    if s.ended then s.emitted.reverse
    else match s.next? with
      | some s => run fuel s
      | none => s.settled

end Layout

/-- The tokens of a stream.  A stream that breaks off has no end token. -/
def tokens (stream : Stream) : List Token :=
  Layout.run (stream.text.length + 2) (Layout.start stream)

end WaitFor.Yaml
