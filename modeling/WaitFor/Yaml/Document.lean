/-
Module: WaitFor.Yaml.Document
Purpose: The values of the documents of a YAML stream.
Main exports: Yaml.Node.number?, Yaml.Node.value?, Yaml.Documents, Yaml.read
-/
import WaitFor.Yaml.Layout
import WaitFor.Yaml.Node
import WaitFor.Yaml.Schema

namespace WaitFor.Yaml

/-!
Anchors are numbered, and aliases refer to numbers.  An anchor takes as its number how many
different names were in use before it, whether its own name is one of them or not; an alias takes
the number that its name has at that point.  A number stands for the last node that took it.  Names
that are used once so have numbers of their own.

An alias is replaced by its node when values are built.  Cyclic and exploding documents end at the
limits of depth and of replacements.
-/

/-- The numbers of the anchor names in use. -/
abbrev Names := List (String × Nat)

/-- Gives an anchor its number. -/
def Names.define (names : Names) : Option String → Option Nat × Names
  | none => (none, names)
  | some name =>
    let number := names.length
    (some number, (name, number) :: names.filter fun entry => entry.1 != name)

namespace Node

mutual

/-- Numbers the anchors and aliases of a node; none if an alias has no anchor before it. -/
def number? (names : Names) : Node String → Option (Node Nat × Names)
  | .alias target => (names.lookup target).map fun number => (.alias number, names)
  | .scalar anchor tag plain text =>
    let (anchor, names) := names.define anchor
    some (.scalar anchor tag plain text, names)
  | .sequence anchor tag items => do
    let (anchor, names) := names.define anchor
    let (items, names) ← numberItems? names items
    some (.sequence anchor tag items, names)
  | .mapping anchor tag entries => do
    let (anchor, names) := names.define anchor
    let (entries, names) ← numberEntries? names entries
    some (.mapping anchor tag entries, names)

def numberItems? (names : Names) : List (Node String) → Option (List (Node Nat) × Names)
  | [] => some ([], names)
  | item :: rest => do
    let (item, names) ← number? names item
    let (rest, names) ← numberItems? names rest
    some (item :: rest, names)

def numberEntries? (names : Names) :
    List (Node String × Node String) → Option (List (Node Nat × Node Nat) × Names)
  | [] => some ([], names)
  | (key, value) :: rest => do
    let (key, names) ← number? names key
    let (value, names) ← number? names value
    let (rest, names) ← numberEntries? names rest
    some ((key, value) :: rest, names)

end

/-- A node with its number, if it has one. -/
def entry (node : Node Nat) (anchor : Option Nat) : List (Nat × Node Nat) :=
  (anchor.map fun number => (number, node)).toList

mutual

/-- The numbered nodes in the order in which they begin. -/
def numbered : Node Nat → List (Nat × Node Nat)
  | .alias _ => []
  | .scalar anchor tag plain text => entry (.scalar anchor tag plain text) anchor
  | .sequence anchor tag items => entry (.sequence anchor tag items) anchor ++ numberedItems items
  | .mapping anchor tag entries =>
    entry (.mapping anchor tag entries) anchor ++ numberedEntries entries

def numberedItems : List (Node Nat) → List (Nat × Node Nat)
  | [] => []
  | item :: rest => numbered item ++ numberedItems rest

def numberedEntries : List (Node Nat × Node Nat) → List (Nat × Node Nat)
  | [] => []
  | (key, value) :: rest => numbered key ++ numbered value ++ numberedEntries rest

end

mutual

/-- The number of marks in the written form of a node: one for a scalar or an alias, two for the
ends of a collection. -/
def marks : Node Nat → Nat
  | .alias _ | .scalar .. => 1
  | .sequence _ _ items => 2 + marksOfItems items
  | .mapping _ _ entries => 2 + marksOfEntries entries

def marksOfItems : List (Node Nat) → Nat
  | [] => 0
  | item :: rest => marks item + marksOfItems rest

def marksOfEntries : List (Node Nat × Node Nat) → Nat
  | [] => 0
  | (key, value) :: rest => marks key + marks value + marksOfEntries rest

end

/-- What aliases stand for, and how many may be replaced. -/
structure Aliases where
  nodes : List (Nat × Node Nat)
  limit : Nat

/-- The aliases of a document.  Of several nodes with one number the last counts. -/
def Aliases.ofRoot (root : Node Nat) : Aliases := ⟨root.numbered.reverse, 100 * root.marks⟩

/-- Replaces an alias by its node.  The number of replacements so far goes along. -/
def follow? (aliases : Aliases) : Node Nat → Nat → Option (Node Nat × Nat)
  | .alias number, used =>
    if used < aliases.limit then
      (aliases.nodes.lookup number).map fun node => (node, used + 1)
    else none
  | node, used => some (node, used)

/-- Whether a collection with the given tag may be read. -/
def isReadable (tag : Option Tag) : Bool := !tag.any Tag.isRefused

/-- Builds the values of several nodes in turn. -/
def values? (value : Node Nat → Nat → Option (Json × Nat)) :
    List (Node Nat) → Nat → Option (List Json × Nat)
  | [], used => some ([], used)
  | node :: rest, used => do
    let (first, used) ← value node used
    let (more, used) ← values? value rest used
    some (first :: more, used)

/-- Builds the fields of an object.  A key is a scalar and counts by its text alone. -/
def fields? (aliases : Aliases) (value : Node Nat → Nat → Option (Json × Nat)) :
    List (Node Nat × Node Nat) → Nat → Option (List (String × Json) × Nat)
  | [], used => some ([], used)
  | (key, node) :: rest, used => do
    let (key, used) ← follow? aliases key used
    match key with
    | .scalar _ _ _ name =>
      let (first, used) ← value node used
      let (more, used) ← fields? aliases value rest used
      some ((name, first) :: more, used)
    | _ => none

/-- Builds the value of a node that is no alias.  The values inside a collection are built by
`inner`, of which there is none where no further level is allowed. -/
def assemble? (aliases : Aliases) (inner : Option (Node Nat → Nat → Option (Json × Nat))) :
    Node Nat → Nat → Option (Json × Nat)
  | .scalar _ tag plain text, used =>
    (scalarValue? tag plain text).map fun value => (value, used)
  | .sequence _ tag items, used => do
    let value ← inner
    if isReadable tag then
      let (items, used) ← values? value items used
      some (.array items, used)
    else none
  | .mapping _ tag entries, used => do
    let value ← inner
    if isReadable tag then
      let (fields, used) ← fields? aliases value entries used
      some (Json.ofFields fields, used)
    else none
  | .alias _, _ => none

/-- Builds the value of a node with at most the given number of levels. -/
def build? (aliases : Aliases) : Nat → Node Nat → Nat → Option (Json × Nat)
  | 0, node, used => do
    let (node, used) ← follow? aliases node used
    assemble? aliases none node used
  | depth + 1, node, used => do
    let (node, used) ← follow? aliases node used
    assemble? aliases (some (build? aliases depth)) node used

/-- How deeply collections may be nested. -/
def depthLimit : Nat := 128

/-- The value of a document with the given root. -/
def value? (root : Node String) : Option Json := do
  let (root, _) ← root.number? []
  let (value, _) ← build? (Aliases.ofRoot root) depthLimit root 0
  some value

end Node

/-- The values of the documents of a stream up to the first that has none, and whether that is all
of them. -/
structure Documents where
  values : List Json
  complete : Bool
deriving Inhabited

namespace Documents

/-- The values of the documents with the given roots. -/
def ofNodes (complete : Bool) : List (Node String) → Documents
  | [] => ⟨[], complete⟩
  | root :: rest =>
    match root.value? with
    | none => ⟨[], false⟩
    | some value =>
      let more := ofNodes complete rest
      ⟨value :: more.values, more.complete⟩

end Documents

/-- Reads a stream. -/
def read (text : String) : Documents :=
  let roots := Roots.ofTokens (tokens (Stream.ofText text.toList))
  Documents.ofNodes roots.complete roots.nodes

end WaitFor.Yaml
