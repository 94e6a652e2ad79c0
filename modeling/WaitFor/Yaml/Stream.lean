/-
Module: WaitFor.Yaml.Stream
Purpose: How far a text can be read as a YAML stream.
Main exports: Yaml.Stream, Yaml.Stream.ofText
-/

namespace WaitFor.Yaml

/-!
A stream is read in blocks, and the characters of a block are checked before any of them is used.
A character that no stream may hold so makes its whole block unreadable, and the blocks before it
can still be used.
-/

/-- The characters that a stream may hold. -/
def isStreamChar (c : Char) : Bool :=
  let n := c.toNat
  n == 0x9 || n == 0xA || n == 0xD || (0x20 ≤ n && n ≤ 0x7E) || n == 0x85 ||
    (0xA0 ≤ n && n ≤ 0xD7FF) || (0xE000 ≤ n && n ≤ 0xFFFD) || 0x10000 ≤ n

/-- The readable text of a stream, and whether the stream breaks off behind it. -/
structure Stream where
  text : List Char
  broken : Bool
deriving Repr, DecidableEq, Inhabited

namespace Stream

/-- How many bytes of UTF-8 a block holds.  No character is divided between two blocks. -/
def blockSize : Nat := 16384

/-- The characters at the front of a text that fit into a number of bytes, and the rest. -/
def splitAtBytes : Nat → List Char → List Char × List Char
  | _, [] => ([], [])
  | bytes, c :: rest =>
    if c.utf8Size ≤ bytes then
      let (front, rest) := splitAtBytes (bytes - c.utf8Size) rest
      (c :: front, rest)
    else ([], c :: rest)

/-- Reads a text of at most the given number of blocks. -/
def ofBlocks : Nat → List Char → Stream
  | 0, _ => ⟨[], true⟩
  | fuel + 1, text =>
    let (block, rest) := splitAtBytes blockSize text
    if !block.all isStreamChar then ⟨[], true⟩
    else if rest.isEmpty then ⟨block, false⟩
    else
      let more := ofBlocks fuel rest
      ⟨block ++ more.text, more.broken⟩

/-- Reads a text.  Every block holds at least one character. -/
def ofText (text : List Char) : Stream := ofBlocks (text.length + 1) text

end Stream

end WaitFor.Yaml
