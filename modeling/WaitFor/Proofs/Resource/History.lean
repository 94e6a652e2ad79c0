/-
Module: WaitFor.Proofs.Resource.History
Purpose: A store answers with the last change that had an effect, and a deletion is seen by that.
Main exports:
  Store.Write, Store.Write.perform, Store.Write.Effective, Store.LastEffective, Store.Holds,
  Store.lookup_run, Store.agree_foldl_insert_of_perm, Store.Reflects, Store.run_reflects
-/
import Mathlib
import WaitFor.Proofs.Json.Location
import WaitFor.Proofs.Resource.Store
import WaitFor.Proofs.Waiter.Evaluation

namespace WaitFor.Store

/-! ### Histories -/

/-- A change to a store. -/
inductive Write where
  | insert (resource : Resource)
  | erase (resource : Resource)

namespace Write

/-- The store after a change. -/
def perform (store : Store) : Write → Store
  | insert resource => store.insert resource
  | erase resource => store.erase resource

/-- A change has an effect under the key of its resource.  Only an insertion without an object has
none. -/
def Effective (key : String) : Write → Prop
  | insert resource => key = resource.key ∧ resource.object.isSome = true
  | erase resource => key = resource.key

end Write

/-- Of a history the last change that has an effect under a key. -/
def LastEffective (history : List Write) (key : String) (last : Write) : Prop :=
  last.Effective key ∧ ∃ before after, history = before ++ last :: after ∧
    ∀ later ∈ after, ¬later.Effective key

/-- The last change of a history that has an effect under a key is an insertion of an object. -/
def Holds (history : List Write) (key : String) (object : Json) : Prop :=
  ∃ resource, LastEffective history key (.insert resource) ∧ resource.object = some object

theorem lastEffective_nil {key : String} {last : Write} : ¬LastEffective [] key last := by
  rintro ⟨-, before, after, split, -⟩
  simp at split

/-- A further change is the last that has an effect, or has none. -/
theorem lastEffective_concat {history : List Write} {key : String} {latest last : Write} :
    LastEffective (history ++ [latest]) key last ↔
      (latest.Effective key ∧ last = latest) ∨
        (¬latest.Effective key ∧ LastEffective history key last) := by
  constructor
  · rintro ⟨effective, before, after, split, none⟩
    cases after using List.reverseRecOn with
    | nil =>
        obtain ⟨-, same⟩ := List.append_inj' split rfl
        obtain rfl := List.singleton_inj.mp same
        exact Or.inl ⟨effective, rfl⟩
    | append_singleton after final _ =>
        rw [← List.cons_append, ← List.append_assoc] at split
        obtain ⟨rfl, same⟩ := List.append_inj' split rfl
        obtain rfl := List.singleton_inj.mp same
        refine Or.inr ⟨none latest (by simp), effective, before, after, rfl, ?_⟩
        exact fun later member => none later (List.mem_append_left _ member)
  · rintro (⟨effective, rfl⟩ | ⟨ineffective, effective, before, after, rfl, none⟩)
    · exact ⟨effective, history, [], rfl, by simp⟩
    · refine ⟨effective, before, after ++ [latest], by simp, fun later member => ?_⟩
      rcases List.mem_append.mp member with earlier | only
      · exact none later earlier
      · exact List.mem_singleton.mp only ▸ ineffective

/-- A change without an effect under a key leaves what is found there. -/
theorem lookup_perform_of_not {store : Store} {key : String} {write : Write}
    (ineffective : ¬write.Effective key) :
    (write.perform store).entries.lookup key = store.entries.lookup key := by
  cases write with
  | insert resource =>
      rw [Write.perform, lookup_insert]
      by_cases same : key = resource.key
      · have without : resource.object = none := by
          by_contra carries
          exact ineffective ⟨same, Option.isSome_iff_ne_none.mpr carries⟩
        rw [if_pos same, without, Option.none_or]
      · rw [if_neg same, Option.none_or]
  | erase resource =>
      have apart : key ≠ resource.key := ineffective
      rw [Write.perform, lookup_erase, if_neg apart]

/-- After a history the object is found that the last change with an effect has put in. -/
theorem lookup_run (history : List Write) (key : String) (object : Json) :
    (history.foldl Write.perform empty).entries.lookup key = some object ↔
      Holds history key object := by
  induction history using List.reverseRecOn with
  | nil =>
      constructor
      · intro found
        cases found
      · rintro ⟨resource, last, -⟩
        exact absurd last lastEffective_nil
  | append_singleton history latest ih =>
      simp only [Holds, lastEffective_concat, List.foldl_append, List.foldl_cons, List.foldl_nil]
      by_cases effective : latest.Effective key
      · simp only [effective, true_and, not_true_eq_false, false_and, or_false]
        cases latest with
        | insert resource =>
            obtain ⟨same, carries⟩ := effective
            obtain ⟨carried, isCarried⟩ := Option.isSome_iff_exists.mp carries
            rw [Write.perform, lookup_insert, if_pos same, isCarried, Option.some_or]
            constructor
            · intro found
              exact ⟨resource, rfl, isCarried.trans found⟩
            · rintro ⟨other, isLatest, holds⟩
              obtain rfl := Write.insert.inj isLatest
              exact isCarried.symm.trans holds
        | erase resource =>
            have same : key = resource.key := effective
            rw [Write.perform, lookup_erase, if_pos same]
            simp
      · simp only [effective, false_and, not_false_eq_true, true_and, false_or]
        rw [lookup_perform_of_not effective]
        exact ih

/-- Making a store of resources is putting them in one after the other. -/
theorem ofResources_eq_run (resources : List Resource) :
    ofResources resources = (resources.map Write.insert).foldl Write.perform empty := by
  rw [ofResources, List.foldl_map]
  rfl

/-! ### The stored keys -/

theorem mem_keys_iff {store : Store} {key : String} :
    key ∈ store.entries.map Prod.fst ↔ ∃ object, store.entries.lookup key = some object := by
  simp only [Json.lookup_eq_some_iff_mem store.distinct, List.mem_map, Prod.exists,
    exists_and_right, exists_eq_right]

/-- A store counts one object for each key under which something is found. -/
theorem size_eq_card (store : Store) :
    store.size = (store.entries.map Prod.fst).toFinset.card := by
  rw [List.toFinset_card_of_nodup store.distinct, List.length_map, size]

/-! ### The order of insertions -/

/-- In the two stores the same is found. -/
def Agree (one two : Store) : Prop :=
  ∀ key, one.entries.lookup key = two.entries.lookup key

namespace Agree

variable {one two : Store}

theorem get_eq (agree : Agree one two) : one.get = two.get := by
  funext wanted
  rw [get, get, find?, find?, agree wanted.key]

theorem size_eq (agree : Agree one two) : one.size = two.size := by
  rw [size_eq_card, size_eq_card]
  congr 1
  ext key
  rw [List.mem_toFinset, List.mem_toFinset, mem_keys_iff, mem_keys_iff, agree key]

theorem insert (agree : Agree one two) (resource : Resource) :
    Agree (one.insert resource) (two.insert resource) := by
  intro key
  rw [lookup_insert, lookup_insert, agree key]

theorem foldl_insert (agree : Agree one two) (resources : List Resource) :
    Agree (resources.foldl Store.insert one) (resources.foldl Store.insert two) := by
  induction resources generalizing one two with
  | nil => exact agree
  | cons resource _ ih => exact ih (agree.insert resource)

end Agree

theorem agree_insert_comm {first second : Resource} (apart : first.key ≠ second.key)
    (store : Store) :
    Agree ((store.insert first).insert second) ((store.insert second).insert first) := by
  intro key
  rw [lookup_insert, lookup_insert, lookup_insert, lookup_insert]
  by_cases same : key = first.key
  · have other : key ≠ second.key := same ▸ apart
    rw [if_neg other, Option.none_or, Option.none_or]
  · rw [if_neg same, Option.none_or, Option.none_or]

/-- Insertions under distinct keys come to the same in any order. -/
theorem agree_foldl_insert_of_perm {resources reordered : List Resource}
    (perm : resources.Perm reordered) (distinct : (resources.map Resource.key).Nodup)
    (store : Store) : Agree (resources.foldl insert store) (reordered.foldl insert store) := by
  induction perm generalizing store with
  | nil => exact fun _ => rfl
  | cons resource _ ih => exact ih (List.nodup_cons.mp distinct).2 (store.insert resource)
  | swap one two rest =>
      have apart : two.key ≠ one.key := fun same =>
        (List.nodup_cons.mp distinct).1 (same ▸ List.mem_cons_self)
      exact (agree_insert_comm apart store).foldl_insert rest
  | trans first _ ihFirst ihSecond =>
      intro key
      rw [ihFirst distinct store key]
      exact ihSecond ((first.map Resource.key).nodup_iff.mp distinct) store key

/-! ### What a store answers -/

/-- The answers of a store, and of a waiter for a deletion that asks it, are those that a history
tells. -/
structure Reflects (store : Store) (history : List Write) : Prop where
  /-- The answer is the object that the last effective change has put in. -/
  found_iff (wanted : Resource) (object : Json) :
    store.get wanted = .ok object ↔ Holds history wanted.key object
  /-- Where the last effective change is no insertion, or there is none, nothing is found. -/
  missing_iff (wanted : Resource) :
    store.get wanted = .error (.notFound wanted.kind wanted.name) ↔
      ∀ object, ¬Holds history wanted.key object
  /-- The keys are counted of which the last effective change is an insertion. -/
  size_eq : ∃ keys : Finset String,
    (∀ key, key ∈ keys ↔ ∃ object, Holds history key object) ∧ store.size = keys.card
  /-- A deletion has come exactly where nothing is found. -/
  deleted_iff (waiter : Waiter) (waits : waiter.condition = .deletion) (wanted : Resource) :
    (waiter.evaluate wanted store.get).outcome = .ok ⟨wanted.object, true⟩ ↔
      store.get wanted = .error (.notFound wanted.kind wanted.name)
  /-- Otherwise it is still to come, and the stored object is what was looked at. -/
  pending_iff (waiter : Waiter) (waits : waiter.condition = .deletion) (wanted : Resource)
    (object : Json) :
    (waiter.evaluate wanted store.get).outcome = .ok ⟨some object, false⟩ ↔
      store.get wanted = .ok object

theorem get_eq_ok_iff {store : Store} {wanted : Resource} {object : Json} :
    store.get wanted = .ok object ↔ store.entries.lookup wanted.key = some object := by
  rw [get, find?]
  cases store.entries.lookup wanted.key <;> simp

/-- A store gives an object, or the report that there is none for this resource. -/
theorem get_cases (store : Store) (wanted : Resource) :
    (∃ object, store.get wanted = .ok object) ∨
      store.get wanted = .error (.notFound wanted.kind wanted.name) := by
  rw [get]
  cases store.find? wanted with
  | none => exact Or.inr rfl
  | some object => exact Or.inl ⟨object, rfl⟩

theorem reflects_run (history : List Write) :
    Reflects (history.foldl Write.perform empty) history where
  found_iff wanted object := by rw [get_eq_ok_iff, lookup_run]
  missing_iff wanted := by
    simp only [← lookup_run, ← get_eq_ok_iff]
    rcases get_cases (history.foldl Write.perform empty) wanted with ⟨object, found⟩ | missing
    · simp [found]
    · simp [missing]
  size_eq := by
    refine ⟨_, fun key => ?_, size_eq_card _⟩
    rw [List.mem_toFinset, mem_keys_iff]
    simp only [lookup_run]
  deleted_iff waiter waits wanted := by
    rcases get_cases (history.foldl Write.perform empty) wanted with ⟨object, found⟩ | missing
    · simp [Waiter.evaluate_deletion_of_present waits found, found]
    · simp [Waiter.evaluate_deletion_of_absent waits missing, missing]
  pending_iff waiter waits wanted object := by
    rcases get_cases (history.foldl Write.perform empty) wanted with ⟨other, found⟩ | missing
    · simp [Waiter.evaluate_deletion_of_present waits found, found]
    · simp [Waiter.evaluate_deletion_of_absent waits missing, missing]

/-- After any changes, a store that was made of resources answers with the last effective change.
Further resources of distinct keys may be put in in any order. -/
theorem run_reflects (resources : List Resource) (changes : List Write) :
    Reflects (changes.foldl Write.perform (ofResources resources))
      (resources.map .insert ++ changes) ∧
    ∀ further reordered : List Resource, further.Perm reordered →
      (further.map Resource.key).Nodup →
        (reordered.foldl insert (changes.foldl Write.perform (ofResources resources))).get =
            (further.foldl insert (changes.foldl Write.perform (ofResources resources))).get ∧
          (reordered.foldl insert (changes.foldl Write.perform (ofResources resources))).size =
            (further.foldl insert (changes.foldl Write.perform (ofResources resources))).size := by
  constructor
  · rw [ofResources_eq_run, ← List.foldl_append]
    exact reflects_run _
  · intro further reordered perm distinct
    have agree := agree_foldl_insert_of_perm perm distinct
      (changes.foldl Write.perform (ofResources resources))
    exact ⟨agree.get_eq.symm, agree.size_eq.symm⟩

/-- An insertion without an object has no effect, although its resource has the key of another that
is stored: the deletion of either is still to come.  Two further resources change places. -/
theorem run_reflects_of_ghost :
    ∃ store : Store,
      store = ([.insert ⟨"POD", "a", some "", none⟩] : List Write).foldl Write.perform
        (ofResources [⟨"Pod", "a", none, some .null⟩]) ∧
      store.get ⟨"POD", "a", some "", none⟩ = .ok .null ∧
      ((Waiter.ofCondition .deletion false).evaluate ⟨"POD", "a", some "", none⟩
        store.get).outcome = .ok ⟨some .null, false⟩ ∧
      ((store.insert ⟨"Pod", "c", none, none⟩).insert ⟨"Pod", "b", none, some .null⟩).get =
        ((store.insert ⟨"Pod", "b", none, some .null⟩).insert ⟨"Pod", "c", none, none⟩).get := by
  have same : (⟨"POD", "a", some "", none⟩ : Resource).key =
      (⟨"Pod", "a", none, some .null⟩ : Resource).key := by
    decide +kernel
  have apart : (([⟨"Pod", "b", none, some .null⟩, ⟨"Pod", "c", none, none⟩] : List Resource).map
      Resource.key).Nodup := by
    decide +kernel
  have holds : Holds [.insert ⟨"Pod", "a", none, some .null⟩, .insert ⟨"POD", "a", some "", none⟩]
      (⟨"POD", "a", some "", none⟩ : Resource).key .null := by
    refine ⟨⟨"Pod", "a", none, some .null⟩, ⟨⟨same, rfl⟩, [], _, rfl, ?_⟩, rfl⟩
    intro later member effective
    obtain rfl := List.mem_singleton.mp member
    cases effective.2
  obtain ⟨reflects, anyOrder⟩ := run_reflects [⟨"Pod", "a", none, some .null⟩]
    [.insert ⟨"POD", "a", some "", none⟩]
  have found := (reflects.found_iff _ _).mpr holds
  have pending := (reflects.pending_iff (Waiter.ofCondition .deletion false) rfl _ _).mpr found
  exact ⟨_, rfl, found, pending, (anyOrder _ _ (.swap _ _ []) apart).1⟩

end WaitFor.Store
