/-
Module: WaitFor.Yaml.Scalar
Purpose: The texts of plain, quoted and block scalars.
Main exports: Yaml.Gap, Yaml.takePlain?, Yaml.takeQuoted?, Yaml.takeBlock?
-/
import WaitFor.Json.Reader
import WaitFor.Yaml.Place

namespace WaitFor.Yaml

/-!
Inside a plain or quoted scalar a single line break stands for a space, and of several the first is
left out.  Inside a block scalar lines are kept as they stand, or folded in the same way where
neither neighbour is indented further.
-/

/-- The white space between two words of a scalar: the blanks of one line or, if it has a line
break, that break and the further ones. -/
structure Gap where
  blanks : List Char
  first : Option (List Char)
  more : List Char
deriving Repr, Inhabited

namespace Gap

def none : Gap := ⟨[], Option.none, []⟩

/-- The gap that begins behind an escaped line break, which leaves no trace. -/
def escaped : Gap := ⟨[], some [], []⟩

/-- What a gap contributes to the text of a scalar. -/
def text (gap : Gap) : List Char :=
  match gap.first with
  | Option.none => gap.blanks
  | some ['\n'] => if gap.more.isEmpty then [' '] else gap.more
  | some first => first ++ gap.more

/-- Takes the rest of a gap.  On a line of its own a tab may not stand left of `indent`. -/
def take? (indent : Int) : Nat → Gap → Place → Option (Gap × Place)
  | 0, gap, p => some (gap, p)
  | fuel + 1, gap, p =>
    match p.rest, p.takeBreak? with
    | _, some (text, p) =>
      let gap :=
        if gap.first.isSome then { gap with more := gap.more ++ text } else ⟨[], some text, []⟩
      take? indent fuel gap p
    | c :: _, Option.none =>
      if !isBlank c then some (gap, p)
      else if gap.first.isSome then
        if c = '\t' ∧ (p.column : Int) < indent then Option.none
        else take? indent fuel gap (p.skip 1)
      else take? indent fuel { gap with blanks := gap.blanks ++ [c] } (p.skip 1)
    | [], Option.none => some (gap, p)

end Gap

/-- The indicators that end a plain scalar inside a flow collection. -/
def isFlowIndicator (c : Char) : Bool := [',', '[', ']', '{', '}'].contains c

/-- Whether a colon at the front of a text is one that no flow collection admits. -/
def isBadColon : List Char → Bool
  | ':' :: c :: _ => isFlowIndicator c || c == '?'
  | _ => false

/-- The longest word of a plain scalar at the front of a text, and the rest. -/
def plainWord? (flow : Bool) : List Char → Option (List Char × List Char)
  | [] => some ([], [])
  | c :: rest =>
    if isBlank c || isBreak c then some ([], c :: rest)
    else if flow && isBadColon (c :: rest) then none
    else if (c == ':' && atSpace rest) || (flow && isFlowIndicator c) then some ([], c :: rest)
    else (plainWord? flow rest).map fun (word, rest) => (c :: word, rest)

/-- Takes the words of a plain scalar that follow a gap: the text, whether the scalar is followed by
a line break, and the place behind it. -/
def takePlain? (flow : Bool) (indent : Int) :
    Nat → Gap → Place → Option (List Char × Bool × Place)
  | 0, gap, p => some ([], gap.first.isSome, p)
  | fuel + 1, gap, p => do
    if p.atDocumentMark || p.rest.head? = some '#' then some ([], gap.first.isSome, p) else
    let (word, rest) ← plainWord? flow p.rest
    if word.isEmpty then some ([], gap.first.isSome, p) else
    let q := p.moveTo rest
    let (next, q) ← Gap.take? indent q.rest.length Gap.none q
    if q.rest.isEmpty || (!flow && (q.column : Int) < indent) then
      some (gap.text ++ word, next.first.isSome, q)
    else
      let (more, broken, q) ← takePlain? flow indent fuel next q
      some (gap.text ++ word ++ more, broken, q)

/-- The word of a single-quoted scalar at the front of a text, up to white space or the closing
quote; a doubled quote stands for one. -/
def singleWord : List Char → List Char × List Char
  | [] => ([], [])
  | '\'' :: '\'' :: rest =>
    let (word, rest) := singleWord rest
    ('\'' :: word, rest)
  | c :: rest =>
    if isBlank c || isBreak c || c = '\'' then ([], c :: rest)
    else
      let (word, rest) := singleWord rest
      (c :: word, rest)

/-- The character that a one-letter escape stands for. -/
def escape? (c : Char) : Option Char :=
  match c with
  | '0' => some (Char.ofNat 0x0)
  | 'a' => some (Char.ofNat 0x7)
  | 'b' => some (Char.ofNat 0x8)
  | 't' | '\t' => some '\t'
  | 'n' => some '\n'
  | 'v' => some (Char.ofNat 0xB)
  | 'f' => some (Char.ofNat 0xC)
  | 'r' => some '\r'
  | 'e' => some (Char.ofNat 0x1B)
  | ' ' => some ' '
  | '"' => some '"'
  | '/' => some '/'
  | '\\' => some '\\'
  | 'N' => some (Char.ofNat 0x85)
  | '_' => some (Char.ofNat 0xA0)
  | 'L' => some (Char.ofNat 0x2028)
  | 'P' => some (Char.ofNat 0x2029)
  | _ => none

/-- How many hexadecimal digits follow the letter of an escape by code point. -/
def codeLength? (c : Char) : Option Nat :=
  match c with
  | 'x' => some 2
  | 'u' => some 4
  | 'U' => some 8
  | _ => none

/-- Takes a code point of the given number of hexadecimal digits. -/
def takeCode? (count : Nat) (text : List Char) : Option (Char × List Char) := do
  if text.length < count then none else
  let digits ← (text.take count).mapM Json.hexValue?
  let code := digits.foldl (fun n digit => 16 * n + digit) 0
  if code.isValidChar then some (Char.ofNat code, text.drop count) else none

/-- The word of a double-quoted scalar at the front of a text, up to white space, the closing quote
or an escaped line break; whether it is the last; and the rest. -/
def doubleWord? : Nat → List Char → Option (List Char × Bool × List Char)
  | fuel + 1, c :: rest =>
    if isBlank c || isBreak c || c = '"' then some ([], false, c :: rest)
    else if c = '\\' then
      match rest with
      | [] => none
      | letter :: after =>
        if isBreak letter then some ([], true, rest)
        else do
          let (escaped, after) ← match codeLength? letter with
            | some count => takeCode? count after
            | none => (escape? letter).map fun c => (c, after)
          let (word, broken, rest) ← doubleWord? fuel after
          some (escaped :: word, broken, rest)
    else do
      let (word, broken, rest) ← doubleWord? fuel rest
      some (c :: word, broken, rest)
  | _, rest => some ([], false, rest)

/-- Takes the rest of a quoted scalar, its opening quote already passed. -/
def takeQuoted? (single : Bool) : Nat → Place → Option (List Char × Place)
  | 0, _ => none
  | fuel + 1, p => do
    if p.atDocumentMark || p.rest.isEmpty then none else
    let (word, broken, rest) ←
      if single then
        let (word, rest) := singleWord p.rest
        some (word, false, rest)
      else doubleWord? p.rest.length p.rest
    let q := p.moveTo rest
    let (gap, q) ← if broken then q.takeBreak?.map fun (_, q) => (Gap.escaped, q)
      else some (Gap.none, q)
    if q.rest.head? = some (if single then '\'' else '"') then some (word, q.skip 1)
    else
      let (gap, q) ← Gap.take? 0 q.rest.length gap q
      let (more, q) ← takeQuoted? single fuel q
      some (word ++ gap.text ++ more, q)

/-- What becomes of the line breaks at the end of a block scalar. -/
inductive Chomping where
  | strip
  | clip
  | keep
deriving Repr, DecidableEq

/-- Takes a sign of a block header. -/
def takeChomping : List Char → Chomping × List Char
  | '+' :: rest => (.keep, rest)
  | '-' :: rest => (.strip, rest)
  | rest => (.clip, rest)

/-- Takes an indentation digit of a block header, `0` if there is none. -/
def takeIncrement? : List Char → Option (Nat × List Char)
  | c :: rest =>
    if !c.isDigit then some (0, c :: rest)
    else if c = '0' then none
    else some (c.toNat - '0'.toNat, rest)
  | [] => some (0, [])

/-- Takes the sign and the digit of a block header, in either order. -/
def takeHeader? (text : List Char) : Option (Chomping × Nat × List Char) := do
  match takeChomping text with
  | (.clip, text) =>
    let (increment, text) ← takeIncrement? text
    if increment = 0 then some (.clip, 0, text)
    else
      let (chomping, text) := takeChomping text
      some (chomping, increment, text)
  | (chomping, text) =>
    let (increment, text) ← takeIncrement? text
    some (chomping, increment, text)

/-- Passes over the indentation of the lines of a block scalar and over empty lines.  The
indentation is `indent` columns, or as yet unknown if that is `0`.  Gives the breaks of the empty
lines, the deepest column seen and the place of the first character of a line. -/
def takeEmptyLines? (indent : Nat) : Nat → Nat → Place → Option (List Char × Nat × Place)
  | 0, deepest, p => some ([], deepest, p)
  | fuel + 1, deepest, p =>
    let within (column : Nat) : Bool := indent = 0 || column < indent
    let spaces := (p.rest.takeWhile (· == ' ')).length
    let p := p.skip (if indent = 0 then spaces else min spaces (indent - p.column))
    let deepest := max deepest p.column
    if within p.column && p.rest.head? = some '\t' then none
    else match p.takeBreak? with
      | some (text, p) =>
        (takeEmptyLines? indent fuel deepest p).map fun (more, deepest, p) =>
          (text ++ more, deepest, p)
      | none => some ([], deepest, p)

/-- Takes the lines of a block scalar.  `leading` is the break before the line, `empty` the breaks
of the empty lines between, and `indented` says whether the line before began with a blank.  Gives
the text, the last break and the breaks behind it. -/
def takeLines? (literal : Bool) (indent : Nat) :
    Nat → (leading empty : List Char) → (indented : Bool) → Place →
      Option (List Char × List Char × List Char × Place)
  | 0, leading, empty, _, p => some ([], leading, empty, p)
  | fuel + 1, leading, empty, indented, p =>
    if p.column ≠ indent ∨ p.rest.isEmpty then some ([], leading, empty, p)
    else do
      let blank := p.rest.head?.any isBlank
      let join :=
        if !literal && leading == ['\n'] && !indented && !blank then
          if empty.isEmpty then [' '] else []
        else leading
      let line := p.rest.takeWhile fun c => !isBreak c
      let p := p.skip line.length
      let (leading, p) := p.takeBreak?.getD ([], p)
      let (newEmpty, _, p) ← takeEmptyLines? indent p.rest.length 0 p
      let (text, leading, empty', p) ← takeLines? literal indent fuel leading newEmpty blank p
      some (join ++ empty ++ line ++ text, leading, empty', p)

/-- Takes a block scalar, its indicator already passed, inside a block of the given indentation,
which is `-1` at the top. -/
def takeBlock? (literal : Bool) (outer : Int) (p : Place) : Option (List Char × Place) := do
  let (chomping, increment, rest) ← takeHeader? p.rest
  let p ← (p.moveTo rest).skipLineEnd?
  let given := if increment = 0 then 0 else (max outer 0).toNat + increment
  let (empty, deepest, p) ← takeEmptyLines? given p.rest.length 0 p
  let indent := if given = 0 then max deepest (max (outer + 1).toNat 1) else given
  let (text, leading, empty, p) ← takeLines? literal indent (p.rest.length + 1) [] empty false p
  let tail := match chomping with
    | .strip => []
    | .clip => leading
    | .keep => leading ++ empty
  some (text ++ tail, p)

end WaitFor.Yaml
