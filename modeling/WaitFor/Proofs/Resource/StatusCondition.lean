/-
Module: WaitFor.Proofs.Resource.StatusCondition
Purpose: The named conditions of a resource are those that a path with a filter finds.
Main exports:
  StatusCondition.ofType, StatusCondition.path, StatusCondition.Shows, StatusCondition.Listed,
  StatusCondition.mem_ofObject, StatusCondition.mem_find_path,
  StatusCondition.mem_ofObject_iff_find
-/
import Mathlib
import WaitFor.Proofs.Path.Evaluation
import WaitFor.Resource.StatusCondition

namespace WaitFor

/-- A value compares equal to a text exactly if it is a string of this text. -/
theorem Json.order?_string_eq (value : Json) (text : String) :
    value.order? (.string text) = some .eq ↔ value = .string text := by
  cases value with
  | string other => simp [order?]
  | _ => simp [order?, same]

/-- A chain of one field finds the value under the name, if there is one. -/
theorem Chain.find_field (name : String) (value : Json) :
    find [.field name] value = (value.field? name).toList := by
  rw [find_cons, Selector.select]
  cases value.field? name <;> simp [find_nil]

theorem Chain.mem_find_field {name : String} {rest : Chain} {value found : Json} :
    found ∈ find (.field name :: rest) value ↔
      ∃ inner, value.field? name = some inner ∧ found ∈ find rest inner := by
  rw [find_cons, Selector.select, List.mem_flatMap]
  simp only [Option.mem_toList]

namespace StatusCondition

/-!
The conditions of a resource are read entry by entry, and an entry without a text as its type or
without a status is left out.  A path whose filter asks for the type goes through the same entries.
-/

/-- The test for an entry whose type is a given text. -/
def ofType (name : String) : Test :=
  .compare (.current [.field "type"]) .equal (.literal (.string name))

/-- The path to the statuses of the conditions of a given name. -/
def path (name : String) : Chain :=
  [.field "status", .field "conditions", .filter (ofType name), .field "status"]

/-- A value shows a status: it is a string of the same text, or a boolean that is written so. -/
def Shows (value : Json) (status : String) : Prop :=
  value = .string status ∨ ∃ flag : Bool, value = .boolean flag ∧ toString flag = status

/-- The conditions of a resource are an array, if there are any. -/
def Listed (object : Json) : Prop :=
  ∀ conditions, (object.field? "status").bind (Json.field? "conditions") = some conditions →
    ∃ items, conditions = .array items

theorem statusText?_eq_some_iff {value : Json} {status : String} :
    statusText? value = some status ↔ Shows value status := by
  cases value with
  | string text => simp [statusText?, Shows]
  | boolean flag =>
      have written : (if flag then "true" else "false") = toString flag := by
        cases flag <;> rfl
      simp [statusText?, Shows, written]
  | _ => simp [statusText?, Shows]

theorem text?_eq_some_iff {value : Json} {text : String} :
    value.text? = some text ↔ value = .string text := by
  cases value with
  | string other => simp [Json.text?]
  | _ => simp [Json.text?]

theorem items?_eq_some_iff {value : Json} {items : List Json} :
    value.items? = some items ↔ value = .array items := by
  cases value with
  | array other => simp [Json.items?]
  | _ => simp [Json.items?]

/-- An entry stands for a condition if its type is the name and its status is shown. -/
theorem ofEntry?_eq_some_iff {entry : Json} {name status : String} :
    ofEntry? entry = some ⟨name, status⟩ ↔
      entry.field? "type" = some (.string name) ∧
        ∃ value, entry.field? "status" = some value ∧ Shows value status := by
  simp only [Option.bind_eq_bind, ofEntry?, Option.bind_eq_some_iff, Option.some.injEq,
    StatusCondition.mk.injEq, text?_eq_some_iff, statusText?_eq_some_iff]
  constructor
  · rintro ⟨_, ⟨_, typed, rfl⟩, _, ⟨value, stated, shows⟩, rfl, rfl⟩
    exact ⟨typed, value, stated, shows⟩
  · rintro ⟨typed, value, stated, shows⟩
    exact ⟨name, ⟨_, typed, rfl⟩, status, ⟨value, stated, shows⟩, rfl, rfl⟩

/-- A condition of a resource is one that an entry of its status stands for. -/
theorem mem_ofObject {object : Json} {condition : StatusCondition} :
    condition ∈ ofObject object ↔
      ∃ outer items entry, object.field? "status" = some outer ∧
        outer.field? "conditions" = some (.array items) ∧ entry ∈ items ∧
        ofEntry? entry = some condition := by
  have entries (items : List Json) :
      ((object.field? "status").bind (Json.field? "conditions")).bind Json.items? = some items ↔
        ∃ outer, object.field? "status" = some outer ∧
          outer.field? "conditions" = some (.array items) := by
    simp only [Option.bind_eq_some_iff, items?_eq_some_iff]
    constructor
    · rintro ⟨_, ⟨outer, first, second⟩, rfl⟩
      exact ⟨outer, first, second⟩
    · rintro ⟨outer, first, second⟩
      exact ⟨_, ⟨outer, first, second⟩, rfl⟩
  rw [ofObject, List.mem_filterMap]
  constructor
  · rintro ⟨entry, member, stands⟩
    cases read : ((object.field? "status").bind (Json.field? "conditions")).bind Json.items? with
    | none =>
        rw [read] at member
        cases member
    | some items =>
        rw [read] at member
        obtain ⟨outer, first, second⟩ := (entries items).mp read
        exact ⟨outer, items, entry, first, second, member, stands⟩
  · rintro ⟨outer, items, entry, first, second, member, stands⟩
    have read := (entries items).mpr ⟨outer, first, second⟩
    exact ⟨entry, by rwa [read], stands⟩

/-- The test of a type compares the whole value under `type` with the name. -/
theorem holds_ofType {name : String} {entry : Json} :
    (ofType name).holds entry = true ↔ entry.field? "type" = some (.string name) := by
  have left : (Operand.current [.field "type"]).value? entry = entry.field? "type" := by
    have first : (Operand.current [.field "type"]).value? entry =
        (Chain.find [.field "type"] entry).head? := by
      rw [Operand.value?, Chain.find]
    rw [first, Chain.find_field]
    cases entry.field? "type" <;> rfl
  rw [ofType, Test.holds, left, Operand.value?, Literal.value?]
  cases typed : entry.field? "type" with
  | none => simp
  | some value =>
      simp only [Comparison.accepts, beq_iff_eq, Json.order?_string_eq, Option.some.injEq]

/-- The path to the statuses goes to a child of the conditions whose type is the name, and from
there to its status. -/
theorem mem_find_path {name : String} {object found : Json} :
    found ∈ Chain.find (path name) object ↔
      ∃ outer conditions entry, object.field? "status" = some outer ∧
        outer.field? "conditions" = some conditions ∧ entry ∈ conditions.children ∧
        entry.field? "type" = some (.string name) ∧ entry.field? "status" = some found := by
  have entries (conditions : Json) :
      found ∈ Chain.find [.filter (ofType name), .field "status"] conditions ↔
        ∃ entry ∈ conditions.children,
          entry.field? "type" = some (.string name) ∧ entry.field? "status" = some found := by
    rw [Chain.find_cons, Selector.select, List.mem_flatMap]
    simp only [List.mem_filter, holds_ofType, Chain.find_field, Option.mem_toList, and_assoc]
  simp only [path, Chain.mem_find_field, entries]
  constructor
  · rintro ⟨outer, first, conditions, second, entry, member, typed, stated⟩
    exact ⟨outer, conditions, entry, first, second, member, typed, stated⟩
  · rintro ⟨outer, conditions, entry, first, second, member, typed, stated⟩
    exact ⟨outer, first, conditions, second, entry, member, typed, stated⟩

/-- Where the conditions of a resource are an array, those of a name are those whose status the path
finds.  Both sides skip the same entries: those without a text as their type, and those whose status
is missing or is no status. -/
theorem mem_ofObject_iff_find {name status : String} {object : Json} (listed : Listed object) :
    ⟨name, status⟩ ∈ ofObject object ↔
      ∃ found ∈ Chain.find (path name) object, Shows found status := by
  rw [mem_ofObject]
  simp only [mem_find_path, ofEntry?_eq_some_iff]
  constructor
  · rintro ⟨outer, items, entry, first, second, member, typed, found, stated, shows⟩
    exact ⟨found, ⟨outer, .array items, entry, first, second, member, typed, stated⟩, shows⟩
  · rintro ⟨found, ⟨outer, conditions, entry, first, second, member, typed, stated⟩, shows⟩
    have present : (object.field? "status").bind (Json.field? "conditions") = some conditions := by
      rw [first, Option.bind_some, second]
    obtain ⟨items, rfl⟩ := listed conditions present
    exact ⟨outer, items, entry, first, second, member, typed, found, stated, shows⟩

/-- Whether a condition of a given name and status is listed. -/
theorem any_ofObject_iff {name status : String} {object : Json} :
    ((ofObject object).any fun entry => entry.name == name && entry.status == status) = true ↔
      ⟨name, status⟩ ∈ ofObject object := by
  rw [List.any_eq_true]
  constructor
  · rintro ⟨⟨_, _⟩, member, same⟩
    rw [Bool.and_eq_true, beq_iff_eq, beq_iff_eq] at same
    obtain ⟨rfl, rfl⟩ := same
    exact member
  · intro member
    exact ⟨_, member, by simp⟩

end StatusCondition

end WaitFor
