/-
Module: WaitFor.Proofs.Path.Shorthand
Purpose: The canonical form of a path is a fixed point of relaxation, and compiling respects it.
Main exports:
  Shorthand.relax_of_fields, Shorthand.relax_canonical, Shorthand.relax_eq_ok,
  Shorthand.not_mem_of_relax, Path.compile_of_relax, Path.compile_error, Path.compile_eq_ok_iff,
  Path.compile_source
-/
import Mathlib
import WaitFor.Condition.Classify

namespace WaitFor

namespace Shorthand

/-- The fields of a path are what a canonical form is made of: some text without braces. -/
def IsFields (text : List Char) : Prop := text ≠ [] ∧ hasBrace text = false

theorem relax_empty : relax "" = .ok "" := rfl

theorem relax_of_fields {path : String} (nonempty : path ≠ "")
    (isFields : IsFields (fields path.toList)) :
    relax path = .ok (canonical (fields path.toList)) := by
  have notEmpty : path.isEmpty = false := by simpa using nonempty
  have someFields : (fields path.toList).isEmpty = false := by simpa using isFields.1
  simp only [relax, notEmpty, someFields, isFields.2, Bool.or_self, Bool.false_eq_true, if_false]

theorem relax_of_not_fields {path : String} (nonempty : path ≠ "")
    (isNot : ¬IsFields (fields path.toList)) : relax path = .error (.badPath path .notAPath) := by
  have notEmpty : path.isEmpty = false := by simpa using nonempty
  have refused : ((fields path.toList).isEmpty || hasBrace (fields path.toList)) = true := by
    by_contra accepted
    simp only [Bool.or_eq_true, List.isEmpty_iff, not_or, Bool.not_eq_true] at accepted
    exact isNot accepted
  simp only [relax, notEmpty, refused, Bool.false_eq_true, if_false, if_true]

/-- A path is relaxed to the canonical form of its fields, and only the empty text to the empty
text. -/
theorem relax_eq_ok {path source : String} (relaxed : relax path = .ok source) :
    (path = "" ∧ source = "") ∨
      (path ≠ "" ∧ IsFields (fields path.toList) ∧ source = canonical (fields path.toList)) := by
  by_cases nonempty : path = ""
  · subst nonempty
    exact Or.inl ⟨rfl, (Except.ok.inj relaxed).symm⟩
  · by_cases isFields : IsFields (fields path.toList)
    · rw [relax_of_fields nonempty isFields] at relaxed
      exact Or.inr ⟨nonempty, isFields, (Except.ok.inj relaxed).symm⟩
    · rw [relax_of_not_fields nonempty isFields] at relaxed
      cases relaxed

theorem relax_eq_error {path : String} {error : WaitError} (refused : relax path = .error error) :
    error = .badPath path .notAPath := by
  by_cases nonempty : path = ""
  · subst nonempty
    cases refused
  · by_cases isFields : IsFields (fields path.toList)
    · rw [relax_of_fields nonempty isFields] at refused
      cases refused
    · rw [relax_of_not_fields nonempty isFields] at refused
      exact (Except.error.inj refused).symm

theorem canonical_ne_empty (text : List Char) : canonical text ≠ "" := by
  intro same
  have lists := congrArg String.toList same
  simp [canonical] at lists

/-- Between braces around a whole text stands the text. -/
theorem insideBraces?_braced (text : List Char) :
    insideBraces? ('{' :: (text ++ ['}'])) = some text := by
  have last : (text ++ ['}']).getLast? = some '}' := List.getLast?_concat
  rw [insideBraces?, if_pos last, List.dropLast_concat]

/-- The fields of a canonical form are those that it was made of. -/
theorem fields_canonical {text : List Char} (nonempty : text ≠ []) :
    fields (canonical text).toList = text := by
  obtain ⟨c, rest, rfl⟩ := List.exists_cons_of_ne_nil nonempty
  have inside := insideBraces?_braced ('.' :: c :: rest)
  rw [List.cons_append] at inside
  rw [canonical, String.toList_ofList, fields, inside]
  rfl

/-- Relaxing a canonical form changes nothing. -/
theorem relax_canonical {text : List Char} (isFields : IsFields text) :
    relax (canonical text) = .ok (canonical text) := by
  have same := fields_canonical isFields.1
  rw [relax_of_fields (canonical_ne_empty text) (by rwa [same]), same]

/-- Relaxing twice is relaxing once. -/
theorem relax_relaxed {path source : String} (relaxed : relax path = .ok source) :
    relax source = .ok source := by
  rcases relax_eq_ok relaxed with ⟨-, rfl⟩ | ⟨-, isFields, rfl⟩
  · exact relax_empty
  · exact relax_canonical isFields

/-- The fields of a path are some of its characters. -/
theorem fields_sublist (path : List Char) : (fields path).Sublist path := by
  have undotted (text : List Char) : (dropDot text).Sublist text := by
    rw [dropDot.eq_def]
    split
    · exact List.sublist_cons_self _ _
    · exact List.Sublist.refl _
  have unbraced : ((insideBraces? path).getD path).Sublist path := by
    rw [insideBraces?.eq_def]
    split
    · split
      · exact (List.dropLast_sublist _).trans (List.sublist_cons_self _ _)
      · exact List.Sublist.refl _
    · exact List.Sublist.refl _
  exact (undotted _).trans unbraced

/-- Relaxing adds braces and a dot to the characters of a path, and nothing else. -/
theorem not_mem_of_relax {path source : String} {mark : Char}
    (relaxed : relax path = .ok source) (plain : mark ∉ ['{', '.', '}'])
    (absent : mark ∉ path.toList) : mark ∉ source.toList := by
  rcases relax_eq_ok relaxed with ⟨-, rfl⟩ | ⟨-, -, rfl⟩
  · simp
  · intro member
    rw [canonical, String.toList_ofList] at member
    have inside : mark ∈ fields path.toList := by
      simp only [List.mem_cons, List.mem_append, List.not_mem_nil, or_false, not_or] at member plain
      tauto
    exact absent ((fields_sublist path.toList).mem inside)

end Shorthand

namespace Path

/-- Compiling is reading the canonical form; a fault is reported against the path as given. -/
theorem compile_of_relax {path source : String} (relaxed : Shorthand.relax path = .ok source) :
    compile path =
      if source.isEmpty then .error .emptyExpression
      else match Chain.read source with
        | .ok selectors => .ok ⟨source, selectors⟩
        | .error fault => .error (.badPath path fault) := by
  rw [compile, relaxed]
  rfl

/-- A compiled path is made of the canonical form of the path as given and the chain that this form
writes. -/
theorem compile_eq_ok_iff {raw : String} {path : Path} :
    compile raw = .ok path ↔
      Shorthand.relax raw = .ok path.source ∧ path.source ≠ "" ∧
        Chain.read path.source = .ok path.selectors := by
  constructor
  · intro compiled
    cases relaxed : Shorthand.relax raw with
    | error refusal =>
        rw [compile, relaxed] at compiled
        cases compiled
    | ok source =>
        rw [compile_of_relax relaxed] at compiled
        split at compiled
        · cases compiled
        · next filled =>
            split at compiled
            · next selectors read =>
                obtain rfl := Except.ok.inj compiled
                exact ⟨rfl, by simpa using filled, read⟩
            · cases compiled
  · rintro ⟨relaxed, nonempty, read⟩
    have filled : path.source.isEmpty = false := by simpa using nonempty
    rw [compile_of_relax relaxed, filled, read]
    rfl

/-- Compiling the canonical form of a compiled path gives the path again. -/
theorem compile_source {raw : String} {path : Path} (compiled : compile raw = .ok path) :
    compile path.source = .ok path := by
  rw [compile_eq_ok_iff] at compiled ⊢
  obtain ⟨relaxed, read⟩ := compiled
  exact ⟨Shorthand.relax_relaxed relaxed, read⟩

/-- Compiling fails for want of a path or for a fault of the given path, and for nothing else. -/
theorem compile_error {path : String} {error : WaitError} (failed : compile path = .error error) :
    error = .emptyExpression ∨ ∃ fault, error = .badPath path fault := by
  cases relaxed : Shorthand.relax path with
  | error refusal =>
      have same : compile path = .error refusal := by
        rw [compile, relaxed]
        rfl
      rw [same, Shorthand.relax_eq_error relaxed] at failed
      exact Or.inr ⟨.notAPath, (Except.error.inj failed).symm⟩
  | ok source =>
      rw [compile_of_relax relaxed] at failed
      split at failed
      · exact Or.inl (Except.error.inj failed).symm
      · split at failed
        · cases failed
        · next fault _ => exact Or.inr ⟨fault, (Except.error.inj failed).symm⟩

/-- Compiling the canonical form and naming the given path in a fault is compiling the given
path. -/
theorem compilePath_of_relax {path source : String} (relaxed : Shorthand.relax path = .ok source) :
    Condition.compilePath path source = compile path := by
  rw [Condition.compilePath, compile_of_relax (Shorthand.relax_relaxed relaxed),
    compile_of_relax relaxed]
  by_cases empty : source.isEmpty = true
  · simp only [empty, if_true]
  · simp only [empty, Bool.false_eq_true, if_false]
    cases Chain.read source with
    | ok selectors => rfl
    | error fault => rfl

end Path

end WaitFor
