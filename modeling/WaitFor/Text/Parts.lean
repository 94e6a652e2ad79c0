/-
Module: WaitFor.Text.Parts
Purpose: Cutting a text at a separating character.
Main exports: Text.splitAtEach, Text.cutAt?
-/

namespace WaitFor.Text

/-- The parts of a text between the occurrences of a character; one part more than occurrences. -/
def splitAtEach (mark : Char) : List Char → List (List Char)
  | [] => [[]]
  | c :: rest =>
    if c = mark then [] :: splitAtEach mark rest
    else match splitAtEach mark rest with
      | part :: parts => (c :: part) :: parts
      | [] => [[c]]

/-- The texts before and after the first occurrence of a character. -/
def cutAt? (mark : Char) (text : List Char) : Option (List Char × List Char) :=
  match text.dropWhile (· != mark) with
  | _ :: after => some (text.takeWhile (· != mark), after)
  | [] => none

end WaitFor.Text
