/-
Module: WaitFor.Proofs.Text.Parts
Purpose: Laws of cutting a text at a mark and of trimming.
Main exports:
  Text.splitAtEach_append, Text.splitAtEach_of_not_mem, Text.length_splitAtEach,
  Text.mem_splitAtEach, Text.cutAt?_append, Text.cutAt?_of_not_mem, Text.trim_of_forall,
  Text.mem_trim
-/
import Mathlib
import WaitFor.Text.Blank
import WaitFor.Text.Parts

namespace WaitFor.Text

/-- A text without the mark is one part. -/
theorem splitAtEach_of_not_mem {mark : Char} {text : List Char} (absent : mark ∉ text) :
    splitAtEach mark text = [text] := by
  induction text with
  | nil => rfl
  | cons c text ih =>
      simp only [List.mem_cons, not_or] at absent
      rw [splitAtEach, if_neg (Ne.symm absent.1), ih absent.2]

/-- The first part ends at the first mark. -/
theorem splitAtEach_append {mark : Char} {text : List Char} (absent : mark ∉ text)
    (rest : List Char) :
    splitAtEach mark (text ++ mark :: rest) = text :: splitAtEach mark rest := by
  induction text with
  | nil => rw [List.nil_append, splitAtEach, if_pos rfl]
  | cons c text ih =>
      simp only [List.mem_cons, not_or] at absent
      rw [List.cons_append, splitAtEach, if_neg (Ne.symm absent.1), ih absent.2]

/-- There is one part more than marks. -/
theorem length_splitAtEach (mark : Char) (text : List Char) :
    (splitAtEach mark text).length = text.count mark + 1 := by
  induction text with
  | nil => rfl
  | cons c text ih =>
      rw [splitAtEach]
      by_cases isMark : c = mark
      · subst isMark
        rw [if_pos rfl, List.length_cons, ih, List.count_cons_self]
      · rw [if_neg isMark, List.count_cons_of_ne isMark]
        cases parts : splitAtEach mark text with
        | nil => simp [parts] at ih
        | cons part parts' => simpa [parts] using ih

/-- A character of a text is the mark or belongs to a part. -/
theorem mem_splitAtEach (mark : Char) {c : Char} {text : List Char} (member : c ∈ text) :
    c = mark ∨ ∃ part ∈ splitAtEach mark text, c ∈ part := by
  induction text with
  | nil => cases member
  | cons d text ih =>
      have behind (inText : c ∈ text) :
          c = mark ∨ ∃ part ∈ splitAtEach mark (d :: text), c ∈ part := by
        refine (ih inText).imp_right ?_
        rintro ⟨part, isPart, inPart⟩
        rw [splitAtEach]
        split
        · exact ⟨part, List.mem_cons_of_mem _ isPart, inPart⟩
        · split
          · next first parts same =>
              rw [same] at isPart
              obtain rfl | isPart := List.mem_cons.mp isPart
              · exact ⟨_, List.mem_cons_self, List.mem_cons_of_mem _ inPart⟩
              · exact ⟨part, List.mem_cons_of_mem _ isPart, inPart⟩
          · next nothing =>
              rw [nothing] at isPart
              cases isPart
      obtain rfl | inText := List.mem_cons.mp member
      · by_cases isMark : c = mark
        · exact Or.inl isMark
        · rw [splitAtEach, if_neg isMark]
          split
          · exact Or.inr ⟨_, List.mem_cons_self, List.mem_cons_self⟩
          · exact Or.inr ⟨_, List.mem_cons_self, List.mem_cons_self⟩
      · exact behind inText

/-- A text with a mark is cut at the first one. -/
theorem cutAt?_append {mark : Char} {text : List Char} (absent : mark ∉ text) (rest : List Char) :
    cutAt? mark (text ++ mark :: rest) = some (text, rest) := by
  have before : ∀ c ∈ text, (c != mark) = true := by
    intro c member
    rw [bne_iff_ne]
    rintro rfl
    exact absent member
  rw [cutAt?, List.dropWhile_append_of_pos before, List.takeWhile_append_of_pos before]
  simp

theorem cutAt?_of_not_mem {mark : Char} {text : List Char} (absent : mark ∉ text) :
    cutAt? mark text = none := by
  have nothing : text.dropWhile (· != mark) = [] := by
    rw [List.dropWhile_eq_nil_iff]
    intro c member
    rw [bne_iff_ne]
    rintro rfl
    exact absent member
  rw [cutAt?, nothing]

/-- Nothing is trimmed off a text without white space. -/
theorem trim_of_forall {text : List Char} (solid : ∀ c ∈ text, isBlank c = false) :
    trim text = text := by
  have kept (part : List Char) (solid : ∀ c ∈ part, isBlank c = false) :
      part.dropWhile isBlank = part := by
    cases part with
    | nil => rfl
    | cons c part => exact List.dropWhile_cons_of_neg (by simp [solid c (by simp)])
  rw [trim, kept text solid, kept text.reverse (by simpa using solid), List.reverse_reverse]

/-- Only white space is trimmed off. -/
theorem mem_trim {c : Char} {text : List Char} (member : c ∈ text) :
    isBlank c = true ∨ c ∈ trim text := by
  have kept {part : List Char} (inPart : c ∈ part) :
      isBlank c = true ∨ c ∈ part.dropWhile isBlank := by
    rw [← List.takeWhile_append_dropWhile (p := isBlank) (l := part), List.mem_append] at inPart
    exact inPart.imp_left List.mem_takeWhile_imp
  obtain blank | front := kept member
  · exact Or.inl blank
  · rw [trim, List.mem_reverse]
    exact kept (List.mem_reverse.mpr front)

end WaitFor.Text
