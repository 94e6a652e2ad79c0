/-
Module: WaitFor.Yaml.Node
Purpose: The nodes of a YAML document, read from its tokens.
Main exports: Yaml.Node, Yaml.Node.take?, Yaml.Roots, Yaml.Roots.ofTokens
-/
import WaitFor.Yaml.Token

namespace WaitFor.Yaml

/-- A node.  Anchors and aliases are names of the given type; a missing scalar is an empty plain
one. -/
inductive Node (ref : Type) where
  | alias (target : ref)
  | scalar (anchor : Option ref) (tag : Option Tag) (plain : Bool) (text : String)
  | sequence (anchor : Option ref) (tag : Option Tag) (items : List (Node ref))
  | mapping (anchor : Option ref) (tag : Option Tag) (entries : List (Node ref × Node ref))
deriving Inhabited

/-- What each tag handle stands for. -/
abbrev Handles := List (String × Tag)

namespace Node

/-- The node that stands where none is written. -/
def missing : Node String := .scalar none none true ""

/-- The full form of a tag. -/
def resolveTag? (handles : Handles) (handle : String) (suffix : Tag) : Option Tag :=
  if handle.isEmpty then some suffix
  else (handles.lookup handle).map fun lead => lead ++ suffix

/-- Takes the anchor and the tag of a node, in either order. -/
def takeProperties? (handles : Handles) :
    List Token → Option (Option String × Option Tag × List Token)
  | .anchor name :: .tag handle suffix :: rest
  | .tag handle suffix :: .anchor name :: rest => do
    some (some name, some (← resolveTag? handles handle suffix), rest)
  | .anchor name :: rest => some (some name, none, rest)
  | .tag handle suffix :: rest => do some (none, some (← resolveTag? handles handle suffix), rest)
  | rest => some (none, none, rest)

/-- What takes a node off the front of some tokens. -/
abbrev Takes := List Token → Option (Node String × List Token)

/-- Takes a node unless one of the given tokens follows, which say that it is missing. -/
def orMissing (isEnd : Token → Bool) (node : Takes) : Takes
  | [] => none
  | token :: rest => if isEnd token then some (missing, token :: rest) else node (token :: rest)

/-- The tokens that may follow a missing item of a block sequence. -/
def endsItem : Token → Bool
  | .blockEntry | .blockEnd => true
  | _ => false

/-- The tokens that may follow a missing item of a sequence without indentation. -/
def endsFlatItem : Token → Bool
  | .blockEntry | .key | .value | .blockEnd => true
  | _ => false

/-- The tokens that may follow a missing key or value of a block mapping. -/
def endsEntry : Token → Bool
  | .key | .value | .blockEnd => true
  | _ => false

/-- The tokens that may follow a missing value of a pair in a flow sequence. -/
def endsPairValue : Token → Bool
  | .flowEntry | .flowSequenceEnd => true
  | _ => false

/-- The tokens that may follow a missing key of a flow mapping. -/
def endsFlowKey : Token → Bool
  | .value | .flowEntry | .flowMappingEnd => true
  | _ => false

/-- The tokens that may follow a missing value of a flow mapping. -/
def endsFlowValue : Token → Bool
  | .flowEntry | .flowMappingEnd => true
  | _ => false

/-- Takes the value of a key, if a colon says that there is one. -/
def takeValue? (isEnd : Token → Bool) (node : Takes) : Takes
  | [] => none
  | .value :: rest => orMissing isEnd node rest
  | rest => some (missing, rest)

/-- Takes the items of a block sequence and its end. -/
def takeItems? (node : Takes) : Nat → List Token → Option (List (Node String) × List Token)
  | fuel + 1, .blockEntry :: rest => do
    let (item, rest) ← orMissing endsItem node rest
    let (items, rest) ← takeItems? node fuel rest
    some (item :: items, rest)
  | _, .blockEnd :: rest => some ([], rest)
  | _, _ => none

/-- Takes the items of a sequence without indentation, which has no end of its own. -/
def takeFlatItems? (node : Takes) : Nat → List Token → Option (List (Node String) × List Token)
  | fuel + 1, .blockEntry :: rest => do
    let (item, rest) ← orMissing endsFlatItem node rest
    let (items, rest) ← takeFlatItems? node fuel rest
    some (item :: items, rest)
  | _, [] => none
  | _, rest => some ([], rest)

/-- Takes the entries of a block mapping and its end. -/
def takeEntries? (node : Takes) :
    Nat → List Token → Option (List (Node String × Node String) × List Token)
  | fuel + 1, .key :: rest => do
    let (key, rest) ← orMissing endsEntry node rest
    let (value, rest) ← takeValue? endsEntry node rest
    let (entries, rest) ← takeEntries? node fuel rest
    some ((key, value) :: entries, rest)
  | _, .blockEnd :: rest => some ([], rest)
  | _, _ => none

/-- Takes a pair that stands as an item of a flow sequence, its key token already passed.  Where
the key is missing, the token that says so is passed too. -/
def takePair? (node : Takes) : Takes
  | [] => none
  | first :: rest => do
    let (key, rest) ← match first with
      | .value | .flowEntry | .flowSequenceEnd => some (missing, rest)
      | _ => node (first :: rest)
    let (value, rest) ← takeValue? endsPairValue node rest
    some (.mapping none none [(key, value)], rest)

/-- Takes the items of a flow sequence and its end; `first` says that no comma is due. -/
def takeFlowItems? (node : Takes) :
    Nat → Bool → List Token → Option (List (Node String) × List Token)
  | 0, _, _ => none
  | _, _, .flowSequenceEnd :: rest => some ([], rest)
  | fuel + 1, first, tokens => do
    let tokens ← match first, tokens with
      | true, tokens => some tokens
      | false, .flowEntry :: rest => some rest
      | false, _ => none
    match tokens with
    | .flowSequenceEnd :: rest => some ([], rest)
    | .key :: rest =>
      let (item, rest) ← takePair? node rest
      let (items, rest) ← takeFlowItems? node fuel false rest
      some (item :: items, rest)
    | _ =>
      let (item, rest) ← node tokens
      let (items, rest) ← takeFlowItems? node fuel false rest
      some (item :: items, rest)

/-- Takes the entries of a flow mapping and its end; `first` says that no comma is due. -/
def takeFlowEntries? (node : Takes) :
    Nat → Bool → List Token → Option (List (Node String × Node String) × List Token)
  | 0, _, _ => none
  | _, _, .flowMappingEnd :: rest => some ([], rest)
  | fuel + 1, first, tokens => do
    let tokens ← match first, tokens with
      | true, tokens => some tokens
      | false, .flowEntry :: rest => some rest
      | false, _ => none
    match tokens with
    | .flowMappingEnd :: rest => some ([], rest)
    | .key :: rest =>
      let (key, rest) ← orMissing endsFlowKey node rest
      let (value, rest) ← takeValue? endsFlowValue node rest
      let (entries, rest) ← takeFlowEntries? node fuel false rest
      some ((key, value) :: entries, rest)
    | _ =>
      let (key, rest) ← node tokens
      let (entries, rest) ← takeFlowEntries? node fuel false rest
      some ((key, missing) :: entries, rest)

/-- Which nodes may stand at a place. -/
inductive Position where
  /-- Inside a flow collection. -/
  | flow
  /-- Inside a block. -/
  | block
  /-- As a key or value of a block mapping, where a sequence needs no indentation. -/
  | entry
deriving Repr, DecidableEq

/-- Takes a node with at most the given number of levels.  Every level passes over a token. -/
def take? (handles : Handles) :
    Nat → Position → List Token → Option (Node String × List Token)
  | 0, _, _ => none
  | _, _, [] => none
  | _, _, .alias name :: rest => some (.alias name, rest)
  | fuel + 1, position, tokens => do
    let (anchor, tag, tokens) ← takeProperties? handles tokens
    let count := tokens.length
    match tokens with
    | [] => none
    | .scalar plain text :: rest =>
      some (.scalar anchor tag plain text, rest)
    | .flowSequenceStart :: rest =>
      let (items, rest) ← takeFlowItems? (take? handles fuel .flow) count true rest
      some (.sequence anchor tag items, rest)
    | .flowMappingStart :: rest =>
      let (entries, rest) ← takeFlowEntries? (take? handles fuel .flow) count true rest
      some (.mapping anchor tag entries, rest)
    | first :: rest =>
      if first = .blockEntry ∧ position = .entry then
        let (items, rest) ← takeFlatItems? (take? handles fuel .block) count tokens
        some (.sequence anchor tag items, rest)
      else if first = .blockSequenceStart ∧ position ≠ .flow then
        let (items, rest) ← takeItems? (take? handles fuel .block) count rest
        some (.sequence anchor tag items, rest)
      else if first = .blockMappingStart ∧ position ≠ .flow then
        let (entries, rest) ← takeEntries? (take? handles fuel .entry) count rest
        some (.mapping anchor tag entries, rest)
      else if anchor.isSome || tag.isSome then some (.scalar anchor tag true "", tokens)
      else none

end Node

/-- The root nodes of the documents of a stream, as far as they can be read, and whether that is
all of them. -/
structure Roots where
  nodes : List (Node String)
  complete : Bool
deriving Inhabited

namespace Roots

/-- What the handles of every document stand for unless it says otherwise. -/
def defaultHandles : Handles := [("!", Tag.mark), ("!!", Tag.core "")]

/-- Takes the directives before a document.  A document states its version and each handle at most
once; the version is 1.1 or 1.2. -/
def takeDirectives? (versioned : Bool) (handles : Handles) :
    List Token → Option (Handles × List Token)
  | .version major minor :: rest =>
    if !versioned && major == 1 && (minor == 1 || minor == 2) then
      takeDirectives? true handles rest
    else none
  | .handle name lead :: rest =>
    if (handles.lookup name).isSome then none
    else takeDirectives? versioned ((name, lead) :: handles) rest
  | rest => some (handles ++ defaultHandles, rest)

/-- The tokens with which a document without content ends. -/
def endsDocument : Token → Bool
  | .version .. | .handle .. | .documentStart | .documentEnd | .streamEnd => true
  | _ => false

/-- Takes the content of a document and its end mark. -/
def takeContent? (handles : Handles) (tokens : List Token) :
    Option (Node String × List Token) := do
  let (root, rest) ← Node.take? handles (tokens.length + 1) .block tokens
  match rest with
  | [] => none
  | .documentEnd :: rest => some (root, rest)
  | rest => some (root, rest)

/-- Takes a document that begins with its mark, perhaps behind directives. -/
def takeMarked? (tokens : List Token) : Option (Node String × List Token) := do
  let (handles, rest) ← takeDirectives? false [] tokens
  match rest with
  | .documentStart :: first :: rest =>
    if endsDocument first then
      match first with
      | .documentEnd => some (Node.missing, rest)
      | _ => some (Node.missing, first :: rest)
    else takeContent? handles (first :: rest)
  | _ => none

/-- The documents that begin with their marks, each after any number of end marks. -/
def marked : Nat → List Token → Roots
  | 0, _ => ⟨[], false⟩
  | fuel + 1, tokens =>
    match tokens.dropWhile (· == .documentEnd) with
    | .streamEnd :: _ => ⟨[], true⟩
    | tokens =>
      match takeMarked? tokens with
      | none => ⟨[], false⟩
      | some (root, rest) =>
        let more := marked fuel rest
        ⟨root :: more.nodes, more.complete⟩

/-- The documents of a stream.  Only the first may begin without a mark. -/
def ofTokens (tokens : List Token) : Roots :=
  match tokens with
  | [] => ⟨[], false⟩
  | .streamEnd :: _ => ⟨[], true⟩
  | .version .. :: _ | .handle .. :: _ | .documentStart :: _ => marked tokens.length tokens
  | _ =>
    match takeContent? defaultHandles tokens with
    | none => ⟨[], false⟩
    | some (root, rest) =>
      let more := marked rest.length rest
      ⟨root :: more.nodes, more.complete⟩

end Roots

end WaitFor.Yaml
