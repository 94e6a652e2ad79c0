/-
Module: WaitFor.Proofs.Json.Location
Purpose: The places in a document, and the values below a value listed with their places.
Main exports:
  Step, Location, Json.child?, Json.at?, Json.Ordered, Json.lookup_insert, Json.ordered_ofFields,
  Json.stepped, Json.mem_stepped, Json.entries, Json.mem_entries,
  Json.located, Json.mem_located, Json.nodup_located
-/
import Mathlib
import WaitFor.Path.Find

namespace WaitFor

/-- One step into a document: to the value under a name, or to an item of an array. -/
inductive Step where
  | key (name : String)
  | item (position : Nat)
deriving Repr, DecidableEq, Inhabited

/-- A place in a document, as the steps that lead to it from the root. -/
abbrev Location := List Step

namespace Json

/-! ### Places -/

/-- The value that one step leads to. -/
def child? : Json → Step → Option Json
  | object fields, .key name => fields.lookup name
  | array items, .item position => items[position]?
  | _, _ => none

/-- The value at a place. -/
def at? (value : Json) : Location → Option Json
  | [] => some value
  | step :: rest => (value.child? step).bind fun child => at? child rest

@[simp] theorem at?_nil (value : Json) : value.at? [] = some value := rfl

@[simp] theorem at?_cons (value : Json) (step : Step) (rest : Location) :
    value.at? (step :: rest) = (value.child? step).bind fun child => child.at? rest := rfl

@[simp] theorem at?_singleton (value : Json) (step : Step) :
    value.at? [step] = value.child? step := by
  rw [at?_cons]
  cases value.child? step <;> rfl

/-- A place below a place is reached by way of it. -/
theorem at?_append (value : Json) (near far : Location) :
    value.at? (near ++ far) = (value.at? near).bind fun child => child.at? far := by
  induction near generalizing value with
  | nil => rfl
  | cons step near ih =>
      rw [List.cons_append, at?_cons, at?_cons]
      cases value.child? step with
      | none => rfl
      | some child => exact ih child

theorem child?_key (value : Json) (name : String) :
    value.child? (.key name) = value.field? name := by
  cases value <;> rfl

/-! ### Documents -/

/-- The names of every object, at any depth, stand in increasing order.  All documents are built
so, and no name occurs twice in such an object. -/
inductive Ordered : Json → Prop where
  | intro {value : Json}
      (increasing : ∀ fields, value = object fields → (fields.map Prod.fst).Pairwise (· < ·))
      (below : ∀ child ∈ value.children, Ordered child) : Ordered value

/-- The values inside an ordered value are ordered. -/
theorem Ordered.of_mem_children {value child : Json} (ordered : value.Ordered)
    (member : child ∈ value.children) : child.Ordered := by
  cases ordered with
  | intro _ below => exact below child member

/-- The names of an ordered object increase. -/
theorem Ordered.names {fields : List (String × Json)} (ordered : (object fields).Ordered) :
    (fields.map Prod.fst).Pairwise (· < ·) := by
  cases ordered with
  | intro increasing _ => exact increasing fields rfl

theorem Ordered.nodup_names {fields : List (String × Json)} (ordered : (object fields).Ordered) :
    (fields.map Prod.fst).Nodup :=
  ordered.names.imp ne_of_lt

/-- Under distinct names each value is found under its own. -/
theorem lookup_eq_some_iff_mem {fields : List (String × Json)}
    (distinct : (fields.map Prod.fst).Nodup) {name : String} {value : Json} :
    fields.lookup name = some value ↔ (name, value) ∈ fields := by
  induction fields with
  | nil => simp
  | cons field fields ih =>
      obtain ⟨other, old⟩ := field
      rw [List.map_cons, List.nodup_cons] at distinct
      rw [List.lookup_cons, List.mem_cons]
      by_cases same : name = other
      · subst same
        have absent : (name, value) ∉ fields := fun member =>
          distinct.1 (List.mem_map.mpr ⟨_, member, rfl⟩)
        simp [absent, eq_comm]
      · rw [beq_false_of_ne same]
        simp only [Prod.mk.injEq, same, false_and, false_or]
        exact ih distinct.2

/-- Nothing but the inserted field is new. -/
theorem mem_of_mem_insert {name : String} {value : Json} {fields : List (String × Json)}
    {field : String × Json} (member : field ∈ insert name value fields) :
    field = (name, value) ∨ field ∈ fields := by
  induction fields with
  | nil => exact Or.inl (List.mem_singleton.mp member)
  | cons first fields ih =>
      rw [insert] at member
      split at member
      · exact List.mem_cons.mp member
      · split at member
        · exact (List.mem_cons.mp member).imp_right (List.mem_cons_of_mem _)
        · rcases List.mem_cons.mp member with rfl | member
          · exact Or.inr List.mem_cons_self
          · exact (ih member).imp_right (List.mem_cons_of_mem _)

theorem lookup_cons_ite (name : String) (value : Json) (fields : List (String × Json))
    (wanted : String) :
    ((name, value) :: fields).lookup wanted =
      if wanted = name then some value else fields.lookup wanted := by
  rw [List.lookup_cons]
  by_cases same : wanted = name
  · rw [if_pos same, same, beq_self_eq_true]
  · rw [if_neg same, beq_false_of_ne same]

/-- A value that is put under a name is found there, and all other values as before. -/
theorem lookup_insert (name : String) (value : Json) (fields : List (String × Json))
    (wanted : String) :
    (insert name value fields).lookup wanted =
      if wanted = name then some value else fields.lookup wanted := by
  induction fields with
  | nil => rw [insert, lookup_cons_ite]
  | cons first fields ih =>
      obtain ⟨other, old⟩ := first
      rw [insert]
      split
      · rw [lookup_cons_ite]
      · split
        · next replaced =>
            rw [lookup_cons_ite, lookup_cons_ite, replaced]
            by_cases same : wanted = other
            · rw [if_pos same, if_pos same]
            · rw [if_neg same, if_neg same, if_neg same]
        · next different =>
            rw [lookup_cons_ite, lookup_cons_ite, ih]
            by_cases own : wanted = other
            · rw [if_pos own, if_pos own, if_neg (own ▸ Ne.symm different)]
            · rw [if_neg own, if_neg own]

/-- Fields in order stay in order when a value is put under a name. -/
theorem pairwise_insert (name : String) (value : Json) {fields : List (String × Json)}
    (increasing : (fields.map Prod.fst).Pairwise (· < ·)) :
    ((insert name value fields).map Prod.fst).Pairwise (· < ·) := by
  induction fields with
  | nil => simp [insert]
  | cons first fields ih =>
      obtain ⟨other, old⟩ := first
      rw [List.map_cons, List.pairwise_cons] at increasing
      obtain ⟨above, increasing⟩ := increasing
      rw [insert]
      split
      · next before =>
          rw [List.map_cons, List.map_cons, List.pairwise_cons, List.pairwise_cons]
          refine ⟨fun next member => ?_, above, increasing⟩
          rcases List.mem_cons.mp member with rfl | member
          · exact before
          · exact lt_trans before (above next member)
      · next notBefore =>
          split
          · next same =>
              subst same
              rw [List.map_cons, List.pairwise_cons]
              exact ⟨above, increasing⟩
          · next different =>
              rw [List.map_cons, List.pairwise_cons]
              refine ⟨fun next member => ?_, ih increasing⟩
              obtain ⟨field, inserted, rfl⟩ := List.mem_map.mp member
              rcases mem_of_mem_insert inserted with rfl | kept
              · exact lt_of_le_of_ne (not_lt.mp notBefore) (Ne.symm different)
              · exact above field.1 (List.mem_map_of_mem kept)

/-- An object stays ordered when an ordered value is put under a name. -/
theorem Ordered.insert {fields : List (String × Json)} (ordered : (object fields).Ordered)
    (name : String) {value : Json} (valueOrdered : value.Ordered) :
    (object (insert name value fields)).Ordered := by
  refine .intro (fun inserted same => ?_) fun child member => ?_
  · cases same
    exact pairwise_insert name value ordered.names
  · obtain ⟨field, inside, rfl⟩ := List.mem_map.mp member
    rcases mem_of_mem_insert inside with rfl | kept
    · exact valueOrdered
    · exact ordered.of_mem_children (List.mem_map_of_mem kept)

private theorem ordered_foldl_insert {fields done : List (String × Json)}
    (values : ∀ field ∈ fields, field.2.Ordered) (ordered : (object done).Ordered) :
    (object (fields.foldl (fun done field => insert field.1 field.2 done) done)).Ordered := by
  induction fields generalizing done with
  | nil => exact ordered
  | cons field fields ih =>
      rw [List.forall_mem_cons] at values
      exact ih values.2 (ordered.insert field.1 values.1)

/-- The object of given fields is ordered, whatever their order, if their values are. -/
theorem ordered_ofFields {fields : List (String × Json)}
    (values : ∀ field ∈ fields, field.2.Ordered) : (ofFields fields).Ordered := by
  have empty : (object []).Ordered := by
    refine .intro (fun fields same => ?_) (by simp [children])
    cases same
    exact List.Pairwise.nil
  exact ordered_foldl_insert values empty

/-- An array of ordered values is ordered. -/
theorem ordered_array {items : List Json} (each : ∀ item ∈ items, item.Ordered) :
    (array items).Ordered :=
  .intro (fun _ same => by cases same) each

/-- A value without further values in it is ordered. -/
theorem ordered_leaf {value : Json} (notObject : ∀ fields, value ≠ object fields)
    (childless : value.children = []) : value.Ordered :=
  .intro (fun fields same => absurd same (notObject fields)) (by simp [childless])

/-! ### Single steps -/

/-- The values that given steps lead to, with their places. -/
def stepped (value : Json) (steps : List Step) : List (Location × Json) :=
  steps.filterMap fun step => (value.child? step).map fun child => ([step], child)

/-- Steps reach the values that they lead to, in the order of the steps. -/
theorem map_snd_stepped (value : Json) (steps : List Step) :
    (value.stepped steps).map Prod.snd = steps.filterMap value.child? := by
  rw [stepped, List.map_filterMap]
  congr 1
  funext step
  cases value.child? step <;> rfl

theorem mem_stepped {value child : Json} {steps : List Step} {location : Location} :
    (location, child) ∈ value.stepped steps ↔
      ∃ step ∈ steps, location = [step] ∧ value.child? step = some child := by
  simp only [stepped, List.mem_filterMap, Option.map_eq_some_iff, Prod.mk.injEq]
  constructor
  · rintro ⟨step, member, child, found, rfl, rfl⟩
    exact ⟨step, member, rfl, found⟩
  · rintro ⟨step, member, rfl, found⟩
    exact ⟨step, member, child, found, rfl, rfl⟩

/-- Different steps lead to different places. -/
theorem nodup_stepped (value : Json) {steps : List Step} (distinct : steps.Nodup) :
    ((value.stepped steps).map Prod.fst).Nodup := by
  rw [stepped, List.map_filterMap]
  apply distinct.filterMap
  intro one two location first second
  simp only [Option.mem_def, Option.map_eq_some_iff] at first second
  obtain ⟨-, ⟨child, -, rfl⟩, rfl⟩ := first
  obtain ⟨-, ⟨child', -, rfl⟩, same⟩ := second
  exact (List.singleton_inj.mp same).symm

/-- The number of items of an array; nothing else has any. -/
def size : Json → Nat
  | .array items => items.length
  | _ => 0

/-- Under a name there is only something in an object. -/
theorem child?_key_eq_some {value child : Json} {name : String}
    (found : value.child? (.key name) = some child) : ∃ fields, value = .object fields := by
  cases value with
  | object fields => exact ⟨fields, rfl⟩
  | _ => cases found

/-- At a position there is only something in an array. -/
theorem child?_item_eq_some {value child : Json} {position : Nat}
    (found : value.child? (.item position) = some child) : ∃ items, value = .array items := by
  cases value with
  | array items => exact ⟨items, rfl⟩
  | _ => cases found

/-- A step leads to a child. -/
theorem mem_children_of_child? {value child : Json} {step : Step}
    (found : value.child? step = some child) : child ∈ value.children := by
  cases step with
  | key name =>
      obtain ⟨fields, rfl⟩ := child?_key_eq_some found
      obtain ⟨before, after, rfl, -⟩ := List.lookup_eq_some_iff.mp found
      simp [children]
  | item position =>
      obtain ⟨items, rfl⟩ := child?_item_eq_some found
      exact List.mem_of_getElem? found

/-! ### Children with their places -/

/-- The children of a value with their places, in document order. -/
def entries : Json → List (Location × Json)
  | array items => items.zipIdx.map fun (item, position) => ([.item position], item)
  | object fields => fields.map fun (name, value) => ([.key name], value)
  | _ => []

/-- The entries of a value are its children, each with the step to it. -/
theorem map_snd_entries (value : Json) : value.entries.map Prod.snd = value.children := by
  cases value with
  | array items =>
      rw [entries, List.map_map]
      exact List.zipIdx_map_fst 0 items
  | object fields => simp [entries, children]
  | null => rfl
  | boolean _ => rfl
  | number _ => rfl
  | string _ => rfl

/-- The entries of a value are the places one step away. -/
theorem mem_entries {value : Json} (ordered : value.Ordered) {location : Location} {child : Json} :
    (location, child) ∈ value.entries ↔
      ∃ step, location = [step] ∧ value.child? step = some child := by
  cases value with
  | array items =>
      simp only [entries, List.mem_map, Prod.exists, Prod.mk.injEq, List.mk_mem_zipIdx_iff_getElem?]
      constructor
      · rintro ⟨item, position, found, rfl, rfl⟩
        exact ⟨_, rfl, found⟩
      · rintro ⟨step, rfl, found⟩
        cases step with
        | key name => cases found
        | item position => exact ⟨child, position, found, rfl, rfl⟩
  | object fields =>
      simp only [entries, List.mem_map, Prod.exists, Prod.mk.injEq]
      constructor
      · rintro ⟨name, value, member, rfl, rfl⟩
        exact ⟨_, rfl, (lookup_eq_some_iff_mem ordered.nodup_names).mpr member⟩
      · rintro ⟨step, rfl, found⟩
        cases step with
        | key name =>
            exact ⟨name, child, (lookup_eq_some_iff_mem ordered.nodup_names).mp found, rfl, rfl⟩
        | item position => cases found
  | null => simp [entries, child?]
  | boolean _ => simp [entries, child?]
  | number _ => simp [entries, child?]
  | string _ => simp [entries, child?]

theorem map_fst_entries_array (items : List Json) :
    (array items).entries.map Prod.fst =
      (List.range' 0 items.length).map fun position => [Step.item position] := by
  rw [← List.zipIdx_map_snd 0 items, entries, List.map_map, List.map_map]
  rfl

theorem map_fst_entries_object (fields : List (String × Json)) :
    (object fields).entries.map Prod.fst =
      (fields.map Prod.fst).map fun name => [Step.key name] := by
  rw [entries, List.map_map, List.map_map]
  rfl

/-- The entries of an ordered value have different places. -/
theorem nodup_entries {value : Json} (ordered : value.Ordered) :
    (value.entries.map Prod.fst).Nodup := by
  cases value with
  | array items =>
      rw [map_fst_entries_array]
      exact List.Nodup.map (fun one two same => by simpa using same) (List.nodup_range' ..)
  | object fields =>
      rw [map_fst_entries_object]
      exact List.Nodup.map (fun one two same => by simpa using same) ordered.nodup_names
  | null => simp [entries]
  | boolean _ => simp [entries]
  | number _ => simp [entries]
  | string _ => simp [entries]

theorem Ordered.child {value child : Json} (ordered : value.Ordered) {step : Step}
    (found : value.child? step = some child) : child.Ordered :=
  ordered.of_mem_children (mem_children_of_child? found)

/-- Everything in an ordered document is ordered. -/
theorem Ordered.at {value found : Json} (ordered : value.Ordered) {location : Location}
    (reached : value.at? location = some found) : found.Ordered := by
  induction location generalizing value with
  | nil =>
      cases reached
      exact ordered
  | cons step rest ih =>
      rw [at?_cons, Option.bind_eq_some_iff] at reached
      obtain ⟨child, first, reached⟩ := reached
      exact ih (ordered.child first) reached

/-! ### Everything below a value with its place -/

/-- Places counted from `near`, counted from where `near` itself is counted from. -/
def beyond (near : Location) (places : List (Location × Json)) : List (Location × Json) :=
  places.map fun far => (near ++ far.1, far.2)

theorem map_snd_beyond (near : Location) (places : List (Location × Json)) :
    (beyond near places).map Prod.snd = places.map Prod.snd := by
  rw [beyond, List.map_map]
  rfl

theorem map_fst_beyond (near : Location) (places : List (Location × Json)) :
    (beyond near places).map Prod.fst = (places.map Prod.fst).map fun far => near ++ far := by
  rw [beyond, List.map_map, List.map_map]
  rfl

/-- A place beyond a near one is the near one with the rest of the way behind it. -/
theorem mem_beyond {near location : Location} {places : List (Location × Json)} {value : Json} :
    (location, value) ∈ beyond near places ↔
      ∃ far, location = near ++ far ∧ (far, value) ∈ places := by
  simp only [beyond, List.mem_map, Prod.exists, Prod.mk.injEq]
  constructor
  · rintro ⟨far, value, member, rfl, rfl⟩
    exact ⟨far, rfl, member⟩
  · rintro ⟨far, rfl, member⟩
    exact ⟨far, value, member, rfl, rfl⟩

/-- Places that are reached in two stages are distinct if those of each stage are and the first
place can be recovered from the second. -/
theorem nodup_flatMap_beyond {nears : List (Location × Json)} {fars : Json → List (Location × Json)}
    (distinct : (nears.map Prod.fst).Nodup)
    (each : ∀ near ∈ nears, ((fars near.2).map Prod.fst).Nodup)
    (recovered : ∀ one ∈ nears, ∀ two ∈ nears, ∀ p ∈ fars one.2, ∀ q ∈ fars two.2,
      one.1 ++ p.1 = two.1 ++ q.1 → one.1 = two.1) :
    ((nears.flatMap fun near => beyond near.1 (fars near.2)).map Prod.fst).Nodup := by
  rw [List.map_flatMap, List.nodup_flatMap]
  constructor
  · intro near member
    rw [map_fst_beyond]
    exact (each near member).map fun one two same => List.append_cancel_left same
  · rw [List.Nodup, List.pairwise_map] at distinct
    refine distinct.imp_of_mem fun {one two} oneMember twoMember different location => ?_
    intro first second
    simp only [List.mem_map, Prod.exists, exists_and_right, exists_eq_right] at first second
    obtain ⟨u, first⟩ := first
    obtain ⟨w, second⟩ := second
    obtain ⟨p, rfl, pMember⟩ := mem_beyond.mp first
    obtain ⟨q, same, qMember⟩ := mem_beyond.mp second
    exact different (recovered one oneMember two twoMember (p, u) pMember (q, w) qMember same)

mutual

/-- A value and everything below it with their places, each value before the values inside it. -/
def located : Json → List (Location × Json)
  | array items => ([], array items) :: locatedItems 0 items
  | object fields => ([], object fields) :: locatedFields fields
  | leaf => [([], leaf)]

def locatedItems : Nat → List Json → List (Location × Json)
  | _, [] => []
  | position, item :: rest =>
    beyond [.item position] (located item) ++ locatedItems (position + 1) rest

def locatedFields : List (String × Json) → List (Location × Json)
  | [] => []
  | (name, value) :: rest => beyond [.key name] (located value) ++ locatedFields rest

end

private theorem locatedItems_eq (position : Nat) (items : List Json) :
    locatedItems position items =
      ((items.zipIdx position).map fun (item, position) => ([Step.item position], item)).flatMap
        fun near => beyond near.1 (located near.2) := by
  induction items generalizing position with
  | nil => rfl
  | cons item rest ih =>
      rw [locatedItems, ih (position + 1)]
      rfl

private theorem locatedFields_eq (fields : List (String × Json)) :
    locatedFields fields =
      (fields.map fun (name, value) => ([Step.key name], value)).flatMap
        fun near => beyond near.1 (located near.2) := by
  induction fields with
  | nil => rfl
  | cons field rest ih =>
      rw [locatedFields, ih]
      rfl

/-- What is below a value is below one of its entries. -/
theorem located_eq (value : Json) :
    value.located =
      ([], value) :: value.entries.flatMap fun near => beyond near.1 (located near.2) := by
  cases value with
  | array items => rw [located, locatedItems_eq, entries]
  | object fields => rw [located, locatedFields_eq, entries]
  | null => rfl
  | boolean _ => rfl
  | number _ => rfl
  | string _ => rfl

mutual

/-- The values below a value are listed in the order of a descent. -/
theorem map_snd_located : ∀ value : Json, value.located.map Prod.snd = value.subtree
  | array items => by
      rw [located, subtree, List.map_cons, map_snd_locatedItems 0 items]
  | object fields => by
      rw [located, subtree, List.map_cons, map_snd_locatedFields fields]
  | null => rfl
  | boolean _ => rfl
  | number _ => rfl
  | string _ => rfl

theorem map_snd_locatedItems : ∀ (position : Nat) (items : List Json),
    (locatedItems position items).map Prod.snd = subtreesOfItems items
  | _, [] => rfl
  | position, item :: rest => by
      rw [locatedItems, subtreesOfItems, List.map_append, map_snd_beyond, map_snd_located item,
        map_snd_locatedItems (position + 1) rest]

theorem map_snd_locatedFields : ∀ fields : List (String × Json),
    (locatedFields fields).map Prod.snd = subtreesOfFields fields
  | [] => rfl
  | (name, value) :: rest => by
      rw [locatedFields, subtreesOfFields, List.map_append, map_snd_beyond, map_snd_located value,
        map_snd_locatedFields rest]

end

/-- Every place of an ordered document is listed, with the value that is there. -/
theorem mem_located {value : Json} (ordered : value.Ordered) {location : Location} {found : Json} :
    (location, found) ∈ value.located ↔ value.at? location = some found := by
  induction location generalizing value with
  | nil =>
      rw [located_eq, List.mem_cons, at?_nil]
      constructor
      · rintro (same | member)
        · rw [(Prod.mk.inj same).2]
        · -- A place below an entry begins with a step.
          obtain ⟨near, entry, member⟩ := List.mem_flatMap.mp member
          obtain ⟨far, empty, -⟩ := mem_beyond.mp member
          obtain ⟨step, single, -⟩ := (mem_entries ordered).mp entry
          rw [single] at empty
          cases empty
      · intro same
        rw [Option.some.inj same]
        exact Or.inl rfl
  | cons step rest ih =>
      rw [located_eq, List.mem_cons, at?_cons, Option.bind_eq_some_iff]
      constructor
      · rintro (same | member)
        · cases (Prod.mk.inj same).1
        · obtain ⟨near, entry, member⟩ := List.mem_flatMap.mp member
          obtain ⟨far, path, member⟩ := mem_beyond.mp member
          obtain ⟨first, single, found⟩ := (mem_entries ordered).mp entry
          rw [single, List.singleton_append, List.cons.injEq] at path
          obtain ⟨rfl, rfl⟩ := path
          exact ⟨near.2, found, (ih (ordered.child found)).mp member⟩
      · rintro ⟨child, found, reached⟩
        refine Or.inr (List.mem_flatMap.mpr ⟨([step], child), ?_, ?_⟩)
        · exact (mem_entries ordered).mpr ⟨step, rfl, found⟩
        · exact mem_beyond.mpr ⟨rest, rfl, (ih (ordered.child found)).mpr reached⟩

/-- No place of an ordered document is listed twice. -/
theorem nodup_located {value : Json} (ordered : value.Ordered) :
    (value.located.map Prod.fst).Nodup := by
  induction ordered with
  | @intro value increasing below ih =>
      have ordered : value.Ordered := .intro increasing below
      rw [located_eq, List.map_cons, List.nodup_cons]
      constructor
      · intro member
        obtain ⟨place, member, empty⟩ := List.mem_map.mp member
        obtain ⟨near, entry, member⟩ := List.mem_flatMap.mp member
        obtain ⟨far, path, -⟩ := mem_beyond.mp member
        obtain ⟨step, single, -⟩ := (mem_entries ordered).mp entry
        rw [empty, single] at path
        cases path
      · refine nodup_flatMap_beyond (nodup_entries ordered) (fun near entry => ?_) ?_
        · refine ih near.2 ?_
          rw [← map_snd_entries]
          exact List.mem_map_of_mem entry
        · intro one oneEntry two twoEntry p _ q _ same
          obtain ⟨first, single, -⟩ := (mem_entries ordered).mp oneEntry
          obtain ⟨second, single', -⟩ := (mem_entries ordered).mp twoEntry
          rw [single, single'] at same ⊢
          exact List.append_inj_left same rfl

end Json

end WaitFor
