/-
Module: WaitFor.Path.Basic
Purpose: Compiled paths.
Main exports: Path, Path.compile, Path.find, Path.first?
-/
import WaitFor.Path.Find
import WaitFor.Path.Reader
import WaitFor.Path.Shorthand

namespace WaitFor

/-- A path that has been read: its canonical text and the selectors that this text writes. -/
structure Path where
  source : String
  selectors : Chain

namespace Path

/-- Reads a path in any spelling.  A refused path is reported as it was given. -/
def compile (raw : String) : Except WaitError Path := do
  let source ← Shorthand.relax raw
  if source.isEmpty then .error .emptyExpression
  else match Chain.read source with
    | .ok selectors => .ok ⟨source, selectors⟩
    | .error fault => .error (.badPath raw fault)

/-- Every value that a path selects in a document. -/
def find (path : Path) (document : Json) : List Json := Chain.find path.selectors document

/-- The first value that a path selects in a document. -/
def first? (path : Path) (document : Json) : Option Json := Chain.first? path.selectors document

end Path

end WaitFor
