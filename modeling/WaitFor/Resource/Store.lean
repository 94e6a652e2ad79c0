/-
Module: WaitFor.Resource.Store
Purpose: The objects of resources, kept by key.
Main exports:
  Store, Store.insert, Store.erase, Store.find?, Store.get, Store.ofResources, Store.size
-/
import WaitFor.Resource.Basic

namespace WaitFor

/-- Objects under pairwise different keys. -/
structure Store where
  entries : List (String × Json)
  distinct : (entries.map (·.1)).Nodup

namespace Store

/-- The store that holds nothing. -/
def empty : Store := ⟨[], List.nodup_nil⟩

instance : Inhabited Store := ⟨empty⟩

/-- The entries under other keys. -/
def others (key : String) (entries : List (String × Json)) : List (String × Json) :=
  entries.filter fun entry => entry.1 != key

theorem others_distinct {key : String} {entries : List (String × Json)}
    (distinct : (entries.map (·.1)).Nodup) : ((others key entries).map (·.1)).Nodup :=
  List.Nodup.sublist (List.Sublist.map _ List.filter_sublist) distinct

theorem not_mem_others (key : String) (entries : List (String × Json)) :
    key ∉ (others key entries).map (·.1) := by
  simp [others]

/-- Stores the object of a resource in place of the one that was stored.  A resource without an
object changes nothing. -/
def insert (store : Store) (resource : Resource) : Store :=
  match resource.object with
  | none => store
  | some object =>
    ⟨(resource.key, object) :: others resource.key store.entries,
      List.nodup_cons.mpr ⟨not_mem_others _ _, others_distinct store.distinct⟩⟩

/-- Forgets the object of a resource. -/
def erase (store : Store) (resource : Resource) : Store :=
  ⟨others resource.key store.entries, others_distinct store.distinct⟩

/-- The object stored for a resource. -/
def find? (store : Store) (resource : Resource) : Option Json := store.entries.lookup resource.key

/-- The object stored for a resource, or the report that there is none. -/
def get (store : Store) (resource : Resource) : Except FetchError Json :=
  match store.find? resource with
  | some object => .ok object
  | none => .error (.notFound resource.kind resource.name)

/-- How many objects are stored. -/
def size (store : Store) : Nat := store.entries.length

def isEmpty (store : Store) : Bool := store.entries.isEmpty

/-- The objects of some resources; of several under one key the last counts. -/
def ofResources (resources : List Resource) : Store := resources.foldl insert empty

end Store

end WaitFor
