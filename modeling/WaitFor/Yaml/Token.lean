/-
Module: WaitFor.Yaml.Token
Purpose: The tokens of a YAML stream.
Main exports: Yaml.Token
-/
import WaitFor.Yaml.Tag

namespace WaitFor.Yaml

/-- A token.  Blocks are bracketed by tokens of their own, which stand for the indentation. -/
inductive Token where
  | streamEnd
  | version (major minor : Nat)
  | handle (name : String) (lead : Tag)
  | documentStart
  | documentEnd
  | blockSequenceStart
  | blockMappingStart
  | blockEnd
  | flowSequenceStart
  | flowSequenceEnd
  | flowMappingStart
  | flowMappingEnd
  | blockEntry
  | flowEntry
  | key
  | value
  | alias (name : String)
  | anchor (name : String)
  | tag (handle : String) (suffix : Tag)
  /-- A scalar; only a plain one is open to interpretation. -/
  | scalar (plain : Bool) (text : String)
deriving Repr, DecidableEq, Inhabited

end WaitFor.Yaml
