/-
Module: WaitFor.Proofs.Path.Matching
Purpose: A chain reaches the places that it describes, and each of them once.
Main exports:
  Selector.Reaches, Chain.Matches, Selector.reached, Selector.mem_reached,
  Chain.reached, Chain.mem_reached, Chain.mem_places, Chain.map_some_find, Chain.nodup_reached,
  Chain.find_locations
-/
import Mathlib
import WaitFor.Proofs.Json.Location
import WaitFor.Proofs.Path.Evaluation
import WaitFor.Proofs.Path.SlicePositions
import WaitFor.Proofs.Path.Spelling

namespace WaitFor

/-! ### What a chain describes -/

/-- The places that a selector describes, as they are counted from the value that it is run on.  All
selectors but the descent describe places one step away. -/
inductive Selector.Reaches : Selector → Json → Location → Prop where
  | field {name : String} {fields : List (String × Json)} :
      Reaches (.field name) (.object fields) [.key name]
  | union {names : List String} {name : String} {fields : List (String × Json)}
      (member : name ∈ names) : Reaches (.union names) (.object fields) [.key name]
  | wildcard {value : Json} {step : Step} : Reaches .wildcard value [step]
  | index {position : Int} {items : List Json} {index : Nat}
      (isItem : Slice.IsItem position items.length index) :
      Reaches (.index position) (.array items) [.item index]
  | slice {start stop step : Option Int} {items : List Json} {position : Nat}
      (visits : Slice.Visits start stop (step.getD 1) items.length position) :
      Reaches (.slice start stop step) (.array items) [.item position]
  | descent {value : Json} {location : Location} : Reaches .descent value location
  | filter {test : Test} {value child : Json} {step : Step}
      (found : value.child? step = some child) (passes : test.holds child = true) :
      Reaches (.filter test) value [step]

/-- The places that a chain describes: they split into one part for each selector, and each part is
described by its selector at the value where it begins. -/
inductive Chain.Matches : Chain → Json → Location → Prop where
  | nil {value : Json} : Matches [] value []
  | cons {selector : Selector} {rest : Chain} {value child : Json} {near far : Location}
      (reaches : selector.Reaches value near) (found : value.at? near = some child)
      (continues : Matches rest child far) : Matches (selector :: rest) value (near ++ far)

/-- A selector other than a descent describes places one step away. -/
theorem Selector.Reaches.length {selector : Selector} {value : Json} {location : Location}
    (reaches : selector.Reaches value location) (single : selector.isDescent = false) :
    location.length = 1 := by
  cases reaches with
  | descent => cases single
  | field => rfl
  | union _ => rfl
  | wildcard => rfl
  | index _ => rfl
  | slice _ => rfl
  | filter _ _ => rfl

/-! ### One selector -/

/-- The values that a selector reaches, with their places. -/
def Selector.reached : Selector → Json → List (Location × Json)
  | .field name, value => value.stepped [.key name]
  | .union names, value => value.stepped (names.map .key)
  | .wildcard, value => value.entries
  | .index position, value => value.stepped ((Slice.place? position value.size).toList.map .item)
  | .slice start stop step, value =>
    value.stepped ((Slice.positions start stop (step.getD 1) value.size).map .item)
  | .descent, value => value.located
  | .filter test, value => value.entries.filter fun entry => test.holds entry.2

/-- A selector selects the values that it reaches, in this order. -/
theorem Selector.map_snd_reached (selector : Selector) (value : Json) :
    (selector.reached value).map Prod.snd = selector.select value := by
  cases selector with
  | field name =>
      rw [reached, select, Json.map_snd_stepped, ← Json.child?_key]
      cases found : value.child? (.key name) <;> simp [found]
  | union names =>
      rw [reached, select, Json.map_snd_stepped, List.filterMap_map]
      congr 1
      funext name
      exact Json.child?_key value name
  | wildcard => rw [reached, select, Json.map_snd_entries]
  | index position =>
      cases value with
      | array items =>
          rw [reached, select, Json.map_snd_stepped, Json.size, Slice.itemAt?_eq_bind]
          cases Slice.place? position items.length with
          | none => rfl
          | some place =>
              simp only [Option.toList_some, List.map_singleton, Option.bind_some]
              cases found : items[place]? <;> simp [Json.child?, found]
      | _ =>
          rw [reached, Json.map_snd_stepped, List.filterMap_map]
          exact List.filterMap_none _
  | slice start stop step =>
      cases value with
      | array items =>
          rw [reached, select, Json.map_snd_stepped, Json.size, List.filterMap_map,
            Slice.items_eq_filterMap]
          rfl
      | _ =>
          rw [reached, Json.map_snd_stepped, List.filterMap_map]
          exact List.filterMap_none _
  | descent => rw [reached, select, Json.map_snd_located]
  | filter test =>
      rw [reached, select, ← Json.map_snd_entries, List.filter_map]
      rfl

/-- A selector reaches exactly the places of a document that it describes. -/
theorem Selector.mem_reached {selector : Selector} {value : Json} (ordered : value.Ordered)
    {location : Location} {found : Json} :
    (location, found) ∈ selector.reached value ↔
      selector.Reaches value location ∧ value.at? location = some found := by
  cases selector with
  | field name =>
      rw [reached, Json.mem_stepped]
      constructor
      · rintro ⟨step, member, rfl, there⟩
        obtain rfl := List.mem_singleton.mp member
        obtain ⟨fields, rfl⟩ := Json.child?_key_eq_some there
        exact ⟨.field, by rwa [Json.at?_singleton]⟩
      · rintro ⟨reaches, there⟩
        cases reaches with
        | field => exact ⟨_, List.mem_singleton_self _, rfl, by rwa [Json.at?_singleton] at there⟩
  | union names =>
      rw [reached, Json.mem_stepped]
      constructor
      · rintro ⟨step, member, rfl, there⟩
        obtain ⟨name, named, rfl⟩ := List.mem_map.mp member
        obtain ⟨fields, rfl⟩ := Json.child?_key_eq_some there
        exact ⟨.union named, by rwa [Json.at?_singleton]⟩
      · rintro ⟨reaches, there⟩
        cases reaches with
        | union named =>
            exact ⟨_, List.mem_map_of_mem named, rfl, by rwa [Json.at?_singleton] at there⟩
  | wildcard =>
      rw [reached, Json.mem_entries ordered]
      constructor
      · rintro ⟨step, rfl, there⟩
        exact ⟨.wildcard, by rwa [Json.at?_singleton]⟩
      · rintro ⟨reaches, there⟩
        cases reaches with
        | wildcard => exact ⟨_, rfl, by rwa [Json.at?_singleton] at there⟩
  | index position =>
      rw [reached, Json.mem_stepped]
      constructor
      · rintro ⟨step, member, rfl, there⟩
        obtain ⟨place, placed, rfl⟩ := List.mem_map.mp member
        obtain ⟨items, rfl⟩ := Json.child?_item_eq_some there
        have isItem := Slice.place?_eq_some_iff.mp (Option.mem_toList.mp placed)
        exact ⟨.index isItem, by rwa [Json.at?_singleton]⟩
      · rintro ⟨reaches, there⟩
        cases reaches with
        | index isItem =>
            have placed := Option.mem_toList.mpr (Slice.place?_eq_some_iff.mpr isItem)
            exact ⟨_, List.mem_map_of_mem placed, rfl, by rwa [Json.at?_singleton] at there⟩
  | slice start stop step =>
      rw [reached, Json.mem_stepped]
      constructor
      · rintro ⟨step, member, rfl, there⟩
        obtain ⟨position, visited, rfl⟩ := List.mem_map.mp member
        obtain ⟨items, rfl⟩ := Json.child?_item_eq_some there
        exact ⟨.slice (Slice.mem_positions.mp visited), by rwa [Json.at?_singleton]⟩
      · rintro ⟨reaches, there⟩
        cases reaches with
        | slice visits =>
            have visited := Slice.mem_positions.mpr visits
            exact ⟨_, List.mem_map_of_mem visited, rfl, by rwa [Json.at?_singleton] at there⟩
  | descent =>
      rw [reached, Json.mem_located ordered]
      exact ⟨fun there => ⟨.descent, there⟩, fun reaches => reaches.2⟩
  | filter test =>
      rw [reached, List.mem_filter, Json.mem_entries ordered]
      constructor
      · rintro ⟨⟨step, rfl, there⟩, passes⟩
        exact ⟨.filter there passes, by rwa [Json.at?_singleton]⟩
      · rintro ⟨reaches, there⟩
        cases reaches with
        | filter found passes =>
            rw [Json.at?_singleton, found, Option.some.injEq] at there
            exact ⟨⟨_, rfl, there ▸ found⟩, there ▸ passes⟩

/-- A selector reaches no place twice, unless it is a union that repeats a name. -/
theorem Selector.nodup_reached {selector : Selector} {value : Json} (ordered : value.Ordered)
    (distinct : ∀ names, selector = .union names → names.Nodup) :
    ((selector.reached value).map Prod.fst).Nodup := by
  cases selector with
  | field name => exact Json.nodup_stepped value (List.nodup_singleton _)
  | union names =>
      refine Json.nodup_stepped value ((distinct names rfl).map fun one two same => ?_)
      exact Step.key.inj same
  | wildcard => exact Json.nodup_entries ordered
  | index position =>
      refine Json.nodup_stepped value ?_
      cases Slice.place? position value.size <;> simp
  | slice start stop step =>
      refine Json.nodup_stepped value ((Slice.nodup_positions ..).map fun one two same => ?_)
      exact Step.item.inj same
  | descent => exact Json.nodup_located ordered
  | filter test => exact (Json.nodup_entries ordered).sublist (List.filter_sublist.map Prod.fst)

/-! ### Chains -/

namespace Chain

/-- The values that a chain reaches, with their places. -/
def reached : List Selector → Json → List (Location × Json)
  | [], value => [([], value)]
  | selector :: rest, value =>
    (selector.reached value).flatMap fun near => Json.beyond near.1 (reached rest near.2)

/-- A chain finds the values that it reaches, in this order. -/
theorem map_snd_reached (chain : Chain) (value : Json) :
    (reached chain value).map Prod.snd = find chain value := by
  induction chain generalizing value with
  | nil => rw [reached, find_nil, List.map_singleton]
  | cons selector rest ih =>
      rw [reached, find_cons, ← Selector.map_snd_reached, List.map_flatMap, List.flatMap_map]
      congr 1
      funext near
      rw [Json.map_snd_beyond, ih]

/-- A chain reaches exactly the places of a document that it describes. -/
theorem mem_reached {chain : Chain} {value : Json} (ordered : value.Ordered)
    {location : Location} {found : Json} :
    (location, found) ∈ reached chain value ↔
      Matches chain value location ∧ value.at? location = some found := by
  induction chain generalizing value location with
  | nil =>
      rw [reached, List.mem_singleton]
      constructor
      · intro same
        obtain ⟨rfl, rfl⟩ := Prod.mk.inj same
        exact ⟨.nil, rfl⟩
      · rintro ⟨matched, there⟩
        cases matched with
        | nil => rw [Option.some.inj there]
  | cons selector rest ih =>
      rw [reached, List.mem_flatMap]
      constructor
      · rintro ⟨near, first, second⟩
        obtain ⟨far, rfl, later⟩ := Json.mem_beyond.mp second
        obtain ⟨reaches, there⟩ := (Selector.mem_reached ordered).mp first
        obtain ⟨continues, further⟩ := (ih (ordered.at there)).mp later
        refine ⟨.cons reaches there continues, ?_⟩
        rw [Json.at?_append, there, Option.bind_some, further]
      · rintro ⟨matched, there⟩
        cases matched with
        | @cons _ _ _ child near far reaches foundNear continues =>
            rw [Json.at?_append, foundNear, Option.bind_some] at there
            refine ⟨(near, child), (Selector.mem_reached ordered).mpr ⟨reaches, foundNear⟩, ?_⟩
            exact Json.mem_beyond.mpr
              ⟨far, rfl, (ih (ordered.at foundNear)).mpr ⟨continues, there⟩⟩

/-- The places that a chain reaches are those of the document that it describes. -/
theorem mem_places {chain : Chain} {value : Json} (ordered : value.Ordered)
    {location : Location} :
    location ∈ (reached chain value).map Prod.fst ↔
      (value.at? location).isSome = true ∧ Matches chain value location := by
  simp only [List.mem_map, Prod.exists, exists_and_right, exists_eq_right, mem_reached ordered,
    exists_and_left, Option.isSome_iff_exists]
  exact and_comm

/-- A chain finds the values at the places that it reaches. -/
theorem map_some_find {chain : Chain} {value : Json} (ordered : value.Ordered) :
    (find chain value).map some = ((reached chain value).map Prod.fst).map value.at? := by
  rw [← map_snd_reached, List.map_map, List.map_map]
  apply List.map_congr_left
  intro place member
  exact ((mem_reached ordered).mp member).2.symm

/-- Without a descent, the length of a place is the length of the chain. -/
theorem Matches.length {chain : Chain} {value : Json} {location : Location}
    (matched : Matches chain value location)
    (level : chain.countP Selector.isDescent = 0) : location.length = chain.length := by
  induction matched with
  | nil => rfl
  | @cons selector rest _ _ near far reaches _ _ ih =>
      have single : selector.isDescent = false := by
        by_contra descent
        rw [Bool.not_eq_false] at descent
        rw [List.countP_cons_of_pos descent] at level
        omega
      rw [List.countP_cons_of_neg (by simp [single])] at level
      rw [List.length_append, reaches.length single, ih level, List.length_cons, Nat.add_comm]

/-- A chain with at most one descent reaches no place twice. -/
theorem nodup_reached {chain : Chain} {value : Json} (ordered : value.Ordered)
    (descents : chain.countP Selector.isDescent ≤ 1)
    (distinct : ∀ names, Selector.union names ∈ chain → names.Nodup) :
    ((reached chain value).map Prod.fst).Nodup := by
  induction chain generalizing value with
  | nil => exact List.nodup_singleton _
  | cons selector rest ih =>
      have restDistinct : ∀ names, Selector.union names ∈ rest → names.Nodup :=
        fun names member => distinct names (List.mem_cons_of_mem _ member)
      have firstDistinct : ∀ names, selector = .union names → names.Nodup := by
        rintro names rfl
        exact distinct names List.mem_cons_self
      rw [reached]
      refine Json.nodup_flatMap_beyond (Selector.nodup_reached ordered firstDistinct) ?_ ?_
      · intro near member
        obtain ⟨-, there⟩ := (Selector.mem_reached ordered).mp member
        refine ih (ordered.at there) ?_ restDistinct
        exact le_trans (List.Sublist.countP_le (List.sublist_cons_self _ _)) descents
      · intro one oneMember two twoMember p pMember q qMember same
        obtain ⟨oneReaches, oneThere⟩ := (Selector.mem_reached ordered).mp oneMember
        obtain ⟨twoReaches, twoThere⟩ := (Selector.mem_reached ordered).mp twoMember
        by_cases descent : selector.isDescent = true
        · -- The rest holds no descent, so where it begins can be counted from the end.
          rw [List.countP_cons_of_pos descent] at descents
          have level : rest.countP Selector.isDescent = 0 := by omega
          have pLength := ((mem_reached (ordered.at oneThere)).mp pMember).1.length level
          have qLength := ((mem_reached (ordered.at twoThere)).mp qMember).1.length level
          exact List.append_inj_left' same (pLength.trans qLength.symm)
        · rw [Bool.not_eq_true] at descent
          have lengths := (oneReaches.length descent).trans (twoReaches.length descent).symm
          exact List.append_inj_left same lengths

/-- A chain with at most one descent and without repeated names in its unions finds the values at
the places of a document that it describes, each place once. -/
theorem find_locations (chain : Chain) (value : Json) (ordered : value.Ordered)
    (descents : chain.countP Selector.isDescent ≤ 1)
    (distinct : ∀ names, Selector.union names ∈ chain → names.Nodup) :
    ∃ locations : List Location,
      locations.Nodup ∧
      (∀ location, location ∈ locations ↔
        (value.at? location).isSome = true ∧ Matches chain value location) ∧
      (find chain value).map some = locations.map value.at? := by
  refine ⟨(reached chain value).map Prod.fst, nodup_reached ordered descents distinct,
    fun location => ?_, ?_⟩
  · rw [List.mem_map]
    constructor
    · rintro ⟨⟨place, found⟩, member, rfl⟩
      obtain ⟨matched, there⟩ := (mem_reached ordered).mp member
      exact ⟨by rw [there]; rfl, matched⟩
    · rintro ⟨inside, matched⟩
      obtain ⟨found, there⟩ := Option.isSome_iff_exists.mp inside
      exact ⟨(location, found), (mem_reached ordered).mpr ⟨matched, there⟩, rfl⟩
  · rw [← map_snd_reached, List.map_map, List.map_map]
    apply List.map_congr_left
    intro place member
    exact ((mem_reached ordered).mp member).2.symm

/-- A field of the same name inside another is found beside it, and each of the two once. -/
theorem find_locations_of_nested :
    (Json.object [("a", .object [("a", .null)])]).Ordered ∧
      [Selector.descent, .union ["b", "a"]].countP Selector.isDescent ≤ 1 ∧
      (∀ names, Selector.union names ∈ [Selector.descent, .union ["b", "a"]] → names.Nodup) ∧
      ∃ locations : List Location,
        locations.Nodup ∧
        (∀ location, location ∈ locations ↔
          ((Json.object [("a", .object [("a", .null)])]).at? location).isSome = true ∧
            Matches [.descent, .union ["b", "a"]] (.object [("a", .object [("a", .null)])])
              location) ∧
        (find [.descent, .union ["b", "a"]] (.object [("a", .object [("a", .null)])])).map some =
          locations.map (Json.object [("a", .object [("a", .null)])]).at? := by
  have leaf : Json.null.Ordered := Json.ordered_leaf (by simp) rfl
  have inner : (Json.object [("a", .null)]).Ordered :=
    @Json.ordered_ofFields [("a", .null)] (by simpa using leaf)
  have ordered : (Json.object [("a", .object [("a", .null)])]).Ordered :=
    @Json.ordered_ofFields [("a", .object [("a", .null)])] (by simpa using inner)
  have descents : [Selector.descent, .union ["b", "a"]].countP Selector.isDescent ≤ 1 := by
    decide
  have distinct : ∀ names,
      Selector.union names ∈ [Selector.descent, .union ["b", "a"]] → names.Nodup := by
    intro names member
    simp only [List.mem_cons, reduceCtorEq, Selector.union.injEq, List.not_mem_nil, or_false,
      false_or] at member
    subst member
    decide
  exact ⟨ordered, descents, distinct, find_locations _ _ ordered descents distinct⟩

end Chain

end WaitFor
