/-
Module: WaitFor.Proofs.Path.Canonical
Purpose: The four spellings of a path are those that can be relaxed, and they compile alike.
Main exports:
  Shorthand.Spells, Shorthand.fields_of_spells, Shorthand.spells_fields,
  Shorthand.relax_succeeds_iff, Shorthand.relax_of_spells, Path.compile_of_spells,
  Path.compile_canonical
-/
import Mathlib
import WaitFor.Proofs.Path.Leading

namespace WaitFor

open Spelling

namespace Shorthand

/-!
### Spellings

A text can be a spelling of two fields at once: `.a` is `a` behind a dot, and it is `.a` without
one.  Relaxing takes the dot away where something is left behind it, so the fields that it finds have
a dot in front only if two were written, or nothing but one.
-/

/-- The spellings of given fields: as they are or behind a dot, and both without braces or in them. -/
inductive Spells (fields : List Char) : String → Prop where
  | bare : Spells fields (String.ofList fields)
  | dotted : Spells fields (String.ofList ('.' :: fields))
  | braced : Spells fields (template fields)
  | dottedInBraces : Spells fields (template ('.' :: fields))

/-- At most one dot is dropped. -/
theorem eq_or_eq_dropDot (text : List Char) : text = dropDot text ∨ text = '.' :: dropDot text := by
  rw [dropDot.eq_def]
  split
  · exact Or.inr rfl
  · exact Or.inl rfl

/-- A dot is dropped in front of something. -/
theorem dropDot_dotted {text : List Char} (nonempty : text ≠ []) : dropDot ('.' :: text) = text := by
  cases text with
  | nil => exact absurd rfl nonempty
  | cons c rest => rfl

/-- A text without braces does not stand in braces. -/
theorem insideBraces?_of_plain {text : List Char} (plain : hasBrace text = false) :
    insideBraces? text = none := by
  cases text with
  | nil => rfl
  | cons c rest =>
      have notOpen : c ≠ '{' := by
        rintro rfl
        simp [hasBrace] at plain
      simp [insideBraces?, notOpen]

/-- What stands in braces is the text between them. -/
theorem eq_of_insideBraces? {text inside : List Char} (braced : insideBraces? text = some inside) :
    text = '{' :: (inside ++ ['}']) := by
  rw [insideBraces?.eq_def] at braced
  split at braced
  · next rest =>
      obtain ⟨closes, same⟩ := Option.ite_none_right_eq_some.mp braced
      obtain ⟨front, rfl⟩ := List.getLast?_eq_some_iff.mp closes
      cases same
      rw [List.dropLast_concat]
  · cases braced

/-- The fields that are found in a spelling are the given ones, with a dot in front or without it. -/
theorem fields_of_spells {fields : List Char} {path : String} (isFields : IsFields fields)
    (spells : Spells fields path) :
    Shorthand.fields path.toList = fields ∨ Shorthand.fields path.toList = dropDot fields := by
  cases spells with
  | bare =>
      right
      rw [String.toList_ofList, Shorthand.fields, insideBraces?_of_plain isFields.2]
      rfl
  | dotted =>
      left
      rw [String.toList_ofList, Shorthand.fields]
      exact dropDot_dotted isFields.1
  | braced =>
      right
      exact fields_template fields
  | dottedInBraces =>
      left
      rw [fields_template, dropDot_dotted isFields.1]

/-- A path is a spelling of the fields that are found in it. -/
theorem spells_fields (path : String) : Spells (Shorthand.fields path.toList) path := by
  have fromList (text : List Char) (same : path.toList = text) : path = String.ofList text := by
    rw [← same, String.ofList_toList]
  cases braced : insideBraces? path.toList with
  | none =>
      have found : Shorthand.fields path.toList = dropDot path.toList := by
        rw [Shorthand.fields, braced]
        rfl
      rcases eq_or_eq_dropDot path.toList with same | same
      · have spelled := fromList _ same
        rw [found]
        nth_rewrite 2 [spelled]
        exact .bare
      · have spelled := fromList _ same
        rw [found]
        nth_rewrite 2 [spelled]
        exact .dotted
  | some inside =>
      have found : Shorthand.fields path.toList = dropDot inside := by
        rw [Shorthand.fields, braced]
        rfl
      have spelled : path = template inside := fromList _ (eq_of_insideBraces? braced)
      rw [found, spelled]
      rcases eq_or_eq_dropDot inside with same | same
      · nth_rewrite 2 [same]
        exact .braced
      · nth_rewrite 2 [same]
        exact .dottedInBraces

/-- What can be relaxed is the empty text and the spellings of some text without braces. -/
theorem relax_succeeds_iff (path : String) :
    (∃ source, relax path = .ok source) ↔
      path = "" ∨ ∃ fields, IsFields fields ∧ Spells fields path := by
  constructor
  · rintro ⟨source, relaxed⟩
    rcases relax_eq_ok relaxed with ⟨empty, -⟩ | ⟨-, isFields, -⟩
    · exact Or.inl empty
    · exact Or.inr ⟨_, isFields, spells_fields path⟩
  · rintro (rfl | ⟨fields, isFields, spells⟩)
    · exact ⟨"", relax_empty⟩
    · have found : IsFields (Shorthand.fields path.toList) := by
        rcases fields_of_spells isFields spells with same | same
        · rwa [same]
        · rw [same]
          exact isFields_dropDot isFields
      have nonempty : path ≠ "" := by
        rintro rfl
        exact found.1 rfl
      exact ⟨_, relax_of_fields nonempty found⟩

/-- All spellings of fields without a dot in front are relaxed to one canonical form. -/
theorem relax_of_spells {fields : List Char} {path : String} (isFields : IsFields fields)
    (undotted : fields.head? ≠ some '.') (spells : Spells fields path) :
    relax path = .ok (canonical fields) := by
  have nothingDropped : dropDot fields = fields := by
    cases fields with
    | nil => rfl
    | cons c rest => exact dropDot_of_ne (by simpa using undotted) rest
  have found : Shorthand.fields path.toList = fields := by
    rcases fields_of_spells isFields spells with same | same
    · exact same
    · rw [same, nothingDropped]
  have nonempty : path ≠ "" := by
    rintro rfl
    exact isFields.1 found.symm
  rw [relax_of_fields nonempty (by rwa [found]), found]

end Shorthand

namespace Path

/-- All spellings of fields without a dot in front compile to one path, or all are refused for one
fault. -/
theorem compile_of_spells {fields : List Char} (isFields : Shorthand.IsFields fields)
    (undotted : fields.head? ≠ some '.') :
    (∃ steps, ∀ path, Shorthand.Spells fields path →
        compile path = .ok ⟨Shorthand.canonical fields, steps⟩) ∨
      ∃ fault, ∀ path, Shorthand.Spells fields path →
        compile path = .error (.badPath path fault) := by
  have filled : (Shorthand.canonical fields).isEmpty = false := by
    simpa using Shorthand.canonical_ne_empty fields
  cases reads : Chain.read (Shorthand.canonical fields) with
  | ok steps =>
      refine Or.inl ⟨steps, fun path spells => ?_⟩
      rw [compile_of_relax (Shorthand.relax_of_spells isFields undotted spells), filled, reads]
      rfl
  | error fault =>
      refine Or.inr ⟨fault, fun path spells => ?_⟩
      rw [compile_of_relax (Shorthand.relax_of_spells isFields undotted spells), filled, reads]
      rfl

/-- Compiling goes through one canonical form.  The texts that have one are the empty text and the
spellings of fields, a canonical form is its own, the four spellings of fields without a dot in front
compile to one path or are all refused for one fault, and a path that was compiled is compiled again
from its source. -/
theorem compile_canonical :
    (∀ path, (∃ source, Shorthand.relax path = .ok source) ↔
        path = "" ∨ ∃ fields, Shorthand.IsFields fields ∧ Shorthand.Spells fields path) ∧
      (∀ path source, Shorthand.relax path = .ok source → Shorthand.relax source = .ok source) ∧
      (∀ fields, Shorthand.IsFields fields → fields.head? ≠ some '.' →
        (∃ steps, ∀ path, Shorthand.Spells fields path →
            compile path = .ok ⟨template ('.' :: fields), steps⟩) ∨
          ∃ fault, ∀ path, Shorthand.Spells fields path →
            compile path = .error (.badPath path fault)) ∧
      ∀ raw path, compile raw = .ok path → compile path.source = .ok path := by
  refine ⟨Shorthand.relax_succeeds_iff, fun _ _ relaxed => Shorthand.relax_relaxed relaxed,
    fun fields isFields undotted => ?_, fun _ _ compiled => compile_source compiled⟩
  rw [← Shorthand.canonical_eq_template]
  exact compile_of_spells isFields undotted

/-- Two dots in braces are a spelling; a lone dot is relaxed to them, and compiled again from them; an
index that is no number is refused in braces as it is without them. -/
theorem compile_canonical_of_index :
    (∃ source, Shorthand.relax "\x7b..\x7d" = .ok source) ∧
      (Shorthand.relax "." = .ok "\x7b..\x7d" ∧
        Shorthand.relax "\x7b..\x7d" = .ok "\x7b..\x7d") ∧
      (Shorthand.IsFields "a[x]".toList ∧ "a[x]".toList.head? ≠ some '.' ∧
        Shorthand.Spells "a[x]".toList "\x7b.a[x]\x7d" ∧
        compile "a[x]" = .error (.badPath "a[x]" (.badIndex "x")) ∧
        compile "\x7b.a[x]\x7d" = .error (.badPath "\x7b.a[x]\x7d" (.badIndex "x"))) ∧
      compile "." = .ok ⟨"\x7b..\x7d", [.descent]⟩ ∧
        compile "\x7b..\x7d" = .ok ⟨"\x7b..\x7d", [.descent]⟩ := by
  have dots : Shorthand.IsFields "..".toList := ⟨by decide, rfl⟩
  have lone : Shorthand.relax "." = .ok "\x7b..\x7d" := rfl
  have isFields : Shorthand.IsFields "a[x]".toList := ⟨by decide, rfl⟩
  have undotted : "a[x]".toList.head? ≠ some '.' := by decide
  have spells : Shorthand.Spells "a[x]".toList "\x7b.a[x]\x7d" := .dottedInBraces
  have unchanged : Shorthand.Spells "a[x]".toList "a[x]" := .bare
  have refused : compile "a[x]" = .error (.badPath "a[x]" (.badIndex "x")) := rfl
  have whole : compile "." = .ok ⟨"\x7b..\x7d", [.descent]⟩ := rfl
  refine ⟨?_, ⟨lone, compile_canonical.2.1 _ _ lone⟩, ⟨isFields, undotted, spells, refused, ?_⟩,
    whole, compile_canonical.2.2.2 _ _ whole⟩
  · exact (compile_canonical.1 _).mpr (Or.inr ⟨_, dots, .braced⟩)
  · rcases compile_canonical.2.2.1 _ isFields undotted with ⟨steps, compiled⟩ | ⟨fault, failed⟩
    · rw [compiled _ unchanged] at refused
      cases refused
    · have same := (failed _ unchanged).symm.trans refused
      cases same
      exact failed _ spells

end Path

end WaitFor
