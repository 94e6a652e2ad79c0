/-
Module: WaitFor.Resource.Load
Purpose: The resources in manifest files.
Main exports: LoadError, Manifest.ofStream, Manifest.ofFile
-/
import WaitFor.Resource.Manifest
import WaitFor.Yaml.Document

namespace WaitFor

/-- Why a manifest could not be loaded. -/
inductive LoadError where
  /-- There is no such file. -/
  | absent
  /-- The file is not UTF-8 text. -/
  | notText
  /-- The text is no YAML stream, or one with a value that JSON lacks. -/
  | badStream
  /-- A document is no resource. -/
  | resource (error : FetchError)
deriving Repr, DecidableEq, Inhabited

/-- The wording of a load error; none for what is wrong inside a stream. -/
def LoadError.message? : LoadError → Option String
  | absent => some "No such file or directory (os error 2)"
  | notText => some "stream did not contain valid UTF-8"
  | badStream => none
  | resource error => some error.message

namespace Manifest

/-- The resources in some documents, of which perhaps not all could be read.  What is wrong with an
earlier document is reported before what is wrong with a later one. -/
def ofDocuments (documents : Yaml.Documents) : Except LoadError (List Resource) :=
  match resourcesOfAll documents.values with
  | .error error => .error (.resource error)
  | .ok resources => if documents.complete then .ok resources else .error .badStream

/-- The resources in a YAML stream. -/
def ofStream (text : String) : Except LoadError (List Resource) :=
  ofDocuments (Yaml.read text)

/-- The resources in a file with the given content. -/
def ofFile (content : Option ByteArray) : Except LoadError (List Resource) :=
  match content with
  | none => .error .absent
  | some bytes =>
    match String.fromUTF8? bytes with
    | none => .error .notText
    | some text => ofStream text

end Manifest

end WaitFor
