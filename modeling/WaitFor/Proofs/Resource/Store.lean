/-
Module: WaitFor.Proofs.Resource.Store
Purpose: What a store answers after resources were put in.
Main exports:
  Store.lookup_insert, Store.lookup_erase, Store.find?_insert, Store.LastUnder,
  Store.get_ofResources
-/
import Mathlib
import WaitFor.Resource.Store

namespace WaitFor.Store

/-- Entries under other keys are found as before. -/
theorem lookup_others (key other : String) (entries : List (String × Json)) :
    (others key entries).lookup other = if other = key then none else entries.lookup other := by
  induction entries with
  | nil => simp [others]
  | cons entry entries ih =>
      obtain ⟨stored, object⟩ := entry
      rw [others] at ih ⊢
      by_cases own : stored = key
      · rw [List.filter_cons_of_neg (by simpa using own), ih, List.lookup_cons]
        subst own
        by_cases same : other = stored
        · rw [if_pos same, if_pos same]
        · rw [if_neg same, if_neg same, beq_false_of_ne same]
      · rw [List.filter_cons_of_pos (by simpa using own)]
        by_cases same : other = stored
        · subst same
          rw [List.lookup_cons_self, List.lookup_cons_self, if_neg own]
        · rw [List.lookup_cons, List.lookup_cons, ih, beq_false_of_ne same]

/-- What is put in is found under its key, and under other keys what was there before. -/
theorem lookup_insert (store : Store) (resource : Resource) (key : String) :
    (store.insert resource).entries.lookup key =
      (if key = resource.key then resource.object else none).or (store.entries.lookup key) := by
  cases carried : resource.object with
  | none => simp [insert, carried]
  | some object =>
      have entries : (store.insert resource).entries =
          (resource.key, object) :: others resource.key store.entries := by
        simp only [insert, carried]
      rw [entries]
      by_cases same : key = resource.key
      · rw [if_pos same, same, List.lookup_cons_self, Option.some_or]
      · rw [if_neg same, List.lookup_cons, lookup_others, if_neg same, beq_false_of_ne same,
          Option.none_or]

/-- What is forgotten is not found any more, and all else as before. -/
theorem lookup_erase (store : Store) (resource : Resource) (key : String) :
    (store.erase resource).entries.lookup key =
      if key = resource.key then none else store.entries.lookup key :=
  lookup_others resource.key key store.entries

/-- The object that was put in last is found under its key, and all else as before. -/
theorem find?_insert {store : Store} {resource : Resource} {object : Json}
    (carried : resource.object = some object) (wanted : Resource) :
    (store.insert resource).find? wanted =
      if wanted.key = resource.key then some object else store.find? wanted := by
  rw [find?, lookup_insert, carried]
  by_cases same : wanted.key = resource.key
  · rw [if_pos same, if_pos same, Option.some_or]
  · rw [if_neg same, if_neg same, Option.none_or, find?]

theorem get_empty (resource : Resource) :
    empty.get resource = .error (.notFound resource.kind resource.name) := rfl

theorem get_insert_of_ne {store : Store} {resource other : Resource}
    (apart : other.key ≠ resource.key) : (store.insert other).get resource = store.get resource := by
  rw [get, get, find?, find?, lookup_insert, if_neg apart.symm, Option.none_or]

theorem get_erase_of_ne {store : Store} {resource other : Resource}
    (apart : other.key ≠ resource.key) : (store.erase other).get resource = store.get resource := by
  rw [get, get, find?, find?, lookup_erase, if_neg apart.symm]

/-- What was put in under the key of a resource is the answer for it. -/
theorem get_insert_of_key_eq {resource other : Resource} {object : Json}
    (carried : other.object = some object) (same : other.key = resource.key) (store : Store) :
    (store.insert other).get resource = .ok object := by
  rw [get, find?_insert carried, if_pos same.symm]

/-- What was forgotten under the key of a resource is forgotten for it. -/
theorem get_erase_of_key_eq {resource other : Resource} (same : other.key = resource.key)
    (store : Store) :
    (store.erase other).get resource = .error (.notFound resource.kind resource.name) := by
  rw [get, find?, lookup_erase, if_pos same.symm]

/-- Of some resources the last under a given key. -/
def LastUnder (resources : List Resource) (key : String) (last : Resource) : Prop :=
  last.key = key ∧ ∃ before after, resources = before ++ last :: after ∧
    ∀ later ∈ after, later.key ≠ key

/-- A resource under a key that no other resource has is the last under it. -/
theorem LastUnder.eq_of_nodup {resources : List Resource} {resource last : Resource}
    (distinct : (resources.map Resource.key).Nodup) (member : resource ∈ resources)
    (isLast : LastUnder resources resource.key last) : last = resource := by
  obtain ⟨same, before, after, rfl, -⟩ := isLast
  exact List.inj_on_of_nodup_map distinct (by simp) member same

theorem LastUnder.mem {resources : List Resource} {key : String} {last : Resource}
    (isLast : LastUnder resources key last) : last ∈ resources := by
  obtain ⟨-, before, after, rfl, -⟩ := isLast
  simp

/-- Among resources there is a last one under the key of each. -/
theorem exists_lastUnder {resources : List Resource} {resource : Resource}
    (member : resource ∈ resources) : ∃ last, LastUnder resources resource.key last := by
  induction resources using List.reverseRecOn with
  | nil => cases member
  | append_singleton resources latest ih =>
      by_cases same : latest.key = resource.key
      · exact ⟨latest, same, resources, [], rfl, by simp⟩
      · have earlier : resource ∈ resources := by
          rcases List.mem_append.mp member with earlier | only
          · exact earlier
          · exact absurd (congrArg Resource.key (List.mem_singleton.mp only)).symm same
        obtain ⟨last, isSame, before, after, rfl, later⟩ := ih earlier
        refine ⟨last, isSame, before, after ++ [latest], by simp, ?_⟩
        intro other inside
        rcases List.mem_append.mp inside with inside | only
        · exact later other inside
        · exact List.mem_singleton.mp only ▸ same

/-- Putting further resources in does not change what is found under other keys. -/
theorem find?_foldl_of_forall_ne {resources : List Resource} {wanted : Resource}
    (other : ∀ resource ∈ resources, resource.key ≠ wanted.key) (store : Store) :
    (resources.foldl insert store).find? wanted = store.find? wanted := by
  induction resources generalizing store with
  | nil => rfl
  | cons resource resources ih =>
      rw [List.foldl_cons, ih fun later member => other later (List.mem_cons_of_mem _ member)]
      have apart : wanted.key ≠ resource.key := (other resource List.mem_cons_self).symm
      cases carried : resource.object with
      | none => simp only [insert, carried]
      | some object => rw [find?_insert carried, if_neg apart]

/-- A store answers with the object of the last resource that was put in under the key. -/
theorem get_ofResources {resources : List Resource} {wanted last : Resource} {object : Json}
    (isLast : LastUnder resources wanted.key last) (carried : last.object = some object) :
    (ofResources resources).get wanted = .ok object := by
  obtain ⟨same, before, after, rfl, later⟩ := isLast
  have found : (ofResources (before ++ last :: after)).find? wanted = some object := by
    rw [ofResources, List.foldl_append, List.foldl_cons, find?_foldl_of_forall_ne later,
      find?_insert carried, if_pos same.symm]
  rw [get, found]

end WaitFor.Store
