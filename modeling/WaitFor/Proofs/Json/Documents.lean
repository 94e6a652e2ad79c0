/-
Module: WaitFor.Proofs.Json.Documents
Purpose: What holds of all documents that are read, from JSON and from YAML.
Main exports:
  Json.IsScalar, Json.Composes, Json.Composes.of_read, Json.Composes.of_mem_read,
  Json.ordered_of_read, Yaml.ordered_of_mem_read, Json.Numeric, Json.numeric_of_read,
  Yaml.numeric_of_mem_read
-/
import Mathlib
import WaitFor.Proofs.Json.Location
import WaitFor.Proofs.Numeric.Rounding
import WaitFor.Yaml.Document

namespace WaitFor

/-!
Both readers build a value out of scalars, of the items of an array and of the fields of an object,
the latter through `Json.ofFields`.  A property that is kept by these three ways to build a value
holds of every document, so the recursion of each reader is followed here once.
-/

/-- The value is neither an array nor an object, and if it is a number, it is not the one that stands
for no number. -/
def Json.IsScalar : Json → Prop
  | .array _ => False
  | .object _ => False
  | .number n => n.toBinary64.isNaN = false
  | _ => True

/-- A property that a value has if its parts have it. -/
structure Json.Composes (P : Json → Prop) : Prop where
  scalar {value : Json} (scalar : value.IsScalar) : P value
  array {items : List Json} (each : ∀ item ∈ items, P item) : P (.array items)
  object {fields : List (String × Json)} (each : ∀ field ∈ fields, P field.2) :
    P (Json.ofFields fields)

variable {P : Json → Prop}

/-! ### Numbers -/

/-- A finite float stands for a number. -/
theorem Binary64.isNaN_of_isFinite {x : Binary64} (finite : x.isFinite = true) :
    x.isNaN = false :=
  decide_eq_false (lt_asymm (of_decide_eq_true finite))

namespace NumberText

/-- A number stays one when it is scaled by a power of ten. -/
private theorem isNaN_of_scale {x scaled : Binary64} {exponent : Int} (number : x.isNaN = false)
    (scales : scale? x exponent = some scaled) : scaled.isNaN = false := by
  rw [scale?] at scales
  split at scales
  · cases scales
    exact number
  · split at scales
    · cases scales
    · split at scales
      · cases (Option.ite_none_right_eq_some.mp scales).2
        exact Binary64.isNaN_ofRatio _ _ _
      · split at scales
        · cases scales
          exact Binary64.isNaN_ofRatio _ _ _
        · split at scales
          · cases scales
            exact Binary64.isNaN_ofRatio _ _ _
          · cases scales
            exact decide_eq_false (Nat.not_lt_zero _)

/-- A literal stands for a number. -/
private theorem isNaN_of_value {n : NumberText} {value : JsonNumber}
    (stands : n.value? = some value) :
    value.toBinary64.isNaN = false := by
  rw [value?] at stands
  split at stands
  · cases stands
    exact Binary64.isNaN_ofRatio _ _ _
  · split at stands
    · cases stands
      exact Binary64.isNaN_ofRatio _ _ _
    · rw [Option.map_eq_some_iff] at stands
      obtain ⟨x, float, rfl⟩ := stands
      simp only [float?, Option.bind_eq_bind, Option.bind_eq_some_iff] at float
      obtain ⟨y, scales, same⟩ := float
      cases same
      have number := isNaN_of_scale (Binary64.isNaN_ofRatio _ _ _) scales
      exact number

end NumberText

/-! ### JSON -/

namespace Json

/-- A taken item, if there is one, has the property. -/
def Takes (P : Json → Prop) (item : List Char → Option (Json × List Char)) : Prop :=
  ∀ text value rest, item text = some (value, rest) → P value

/-- By induction on the fuel: each item of an array is taken on its own. -/
theorem Takes.items {item : List Char → Option (Json × List Char)} (takes : Takes P item)
    {fuel : Nat} {text rest : List Char} {items : List Json}
    (taken : takeItems? item fuel text = some (items, rest)) : ∀ value ∈ items, P value := by
  induction fuel generalizing text items rest with
  | zero => cases taken
  | succ fuel ih =>
      simp only [takeItems?, Option.bind_eq_bind, Option.bind_eq_some_iff] at taken
      obtain ⟨⟨first, behind⟩, firstTaken, taken⟩ := taken
      have firstHas := takes _ _ _ firstTaken
      split at taken
      · cases taken
        simpa using firstHas
      · rw [Option.bind_eq_some_iff] at taken
        obtain ⟨⟨more, behind⟩, moreTaken, taken⟩ := taken
        cases taken
        rw [List.forall_mem_cons]
        exact ⟨firstHas, ih moreTaken⟩
      · cases taken

/-- By induction on the fuel: the value of each field is taken on its own. -/
theorem Takes.fields {item : List Char → Option (Json × List Char)} (takes : Takes P item)
    {fuel : Nat} {text rest : List Char} {fields : List (String × Json)}
    (taken : takeFields? item fuel text = some (fields, rest)) :
    ∀ field ∈ fields, P field.2 := by
  induction fuel generalizing text fields rest with
  | zero => cases taken
  | succ fuel ih =>
      simp only [takeFields?, Option.bind_eq_bind, Option.bind_eq_some_iff] at taken
      obtain ⟨⟨name, behind⟩, -, taken⟩ := taken
      split at taken
      · rw [Option.bind_eq_some_iff] at taken
        obtain ⟨⟨first, behind⟩, firstTaken, taken⟩ := taken
        have firstHas := takes _ _ _ firstTaken
        split at taken
        · cases taken
          simpa using firstHas
        · rw [Option.bind_eq_some_iff] at taken
          obtain ⟨⟨more, behind⟩, moreTaken, taken⟩ := taken
          cases taken
          rw [List.forall_mem_cons]
          exact ⟨firstHas, ih moreTaken⟩
        · cases taken
      · cases taken

namespace Composes

variable (composes : Composes P)

include composes

private theorem of_takeWord {word text rest : List Char} {constant value : Json}
    (taken : takeWord? word constant text = some (value, rest)) (scalar : constant.IsScalar) :
    P value := by
  rw [takeWord?, Option.map_eq_some_iff] at taken
  obtain ⟨_, -, same⟩ := taken
  rw [← (Prod.mk.inj same).1]
  exact composes.scalar scalar

/-- A value has the property if the values one level below it have it. -/
private theorem takes_of_deeper {depth : Nat}
    (deeper : ∀ levels, depth = levels + 1 → Takes P (takeValue? levels)) :
    Takes P (takeValue? depth) := by
  intro text value rest taken
  rw [takeValue?.eq_def] at taken
  dsimp only at taken
  -- The cases go by the first character: the words, a text, an array, an object, a number.
  split at taken
  · cases taken
  · split at taken
    · exact composes.of_takeWord taken trivial
    · split at taken
      · exact composes.of_takeWord taken trivial
      · split at taken
        · exact composes.of_takeWord taken trivial
        · split at taken
          · rw [Option.map_eq_some_iff] at taken
            obtain ⟨_, -, same⟩ := taken
            cases same
            exact composes.scalar trivial
          · split at taken
            · split at taken
              · cases taken
              · cases taken
                exact composes.array (by simp)
              · rw [Option.map_eq_some_iff] at taken
                obtain ⟨_, itemsTaken, same⟩ := taken
                cases same
                exact composes.array ((deeper _ rfl).items itemsTaken)
            · split at taken
              · split at taken
                · cases taken
                · cases taken
                  exact @Composes.object _ composes [] (by simp)
                · rw [Option.map_eq_some_iff] at taken
                  obtain ⟨_, fieldsTaken, same⟩ := taken
                  cases same
                  exact composes.object ((deeper _ rfl).fields fieldsTaken)
              · simp only [Option.bind_eq_bind, Option.bind_eq_some_iff] at taken
                obtain ⟨_, -, _, stands, same⟩ := taken
                cases same
                exact composes.scalar (NumberText.isNaN_of_value stands)

/-- By induction on the levels that are left: the values inside a value have one level less. -/
theorem takes_takeValue (depth : Nat) : Takes P (takeValue? depth) := by
  induction depth with
  | zero => exact composes.takes_of_deeper fun levels impossible => by omega
  | succ depth ih =>
      apply composes.takes_of_deeper
      intro levels same
      rwa [← Nat.succ.inj same]

/-- Every JSON text that is read has the property. -/
theorem of_read {text : String} {value : Json} (read : read? text = some value) : P value := by
  simp only [read?, Option.bind_eq_bind, Option.bind_eq_some_iff] at read
  obtain ⟨⟨taken, rest⟩, takes, read⟩ := read
  split at read
  · cases read
    exact composes.takes_takeValue _ _ _ _ takes
  · cases read

end Composes

end Json

/-! ### YAML -/

namespace Yaml

private theorem isScalar_of_null {text : String} {value : Json} (read : null? text = some value) :
    value.IsScalar := by
  rw [null?, Option.ite_none_right_eq_some] at read
  cases read.2
  trivial

private theorem isScalar_of_boolean {text : String} {value : Json}
    (read : boolean? text = some value) :
    value.IsScalar := by
  rw [boolean?] at read
  split at read
  · cases read
    trivial
  · rw [Option.ite_none_right_eq_some] at read
    cases read.2
    trivial

private theorem isScalar_of_integer {text : List Char} {value : Json}
    (read : integerValue? text = some (some value)) : value.IsScalar := by
  simp only [integerValue?, Option.bind_eq_bind, Option.bind_eq_some_iff] at read
  obtain ⟨z, -, read⟩ := read
  split at read
  · cases read
    exact Binary64.isNaN_ofRatio _ _ _
  · split at read
    · cases read
    · cases read

private theorem isScalar_of_float {text : String} {value : Json} (read : float? text = some value) :
    value.IsScalar := by
  rw [float?] at read
  split at read
  · cases read
    trivial
  · simp only [Option.bind_eq_bind, Option.bind_eq_some_iff] at read
    obtain ⟨x, -, read⟩ := read
    split at read
    · next finite =>
        cases read
        exact Binary64.isNaN_of_isFinite finite
    · cases read

/-- A plain scalar is a word, an integer, a float or a text. -/
private theorem isScalar_of_plain {text : String} {value : Json}
    (read : plainValue? text = some value) :
    value.IsScalar := by
  rw [plainValue?] at read
  split at read
  · cases read
    trivial
  · split at read
    · next word found =>
        cases read
        rcases null : null? text with _ | nothing
        · rw [null] at found
          exact isScalar_of_boolean found
        · rw [null] at found
          cases found
          exact isScalar_of_null null
    · split at read
      · next integer =>
          subst read
          exact isScalar_of_integer integer
      · split at read
        · cases read
          trivial
        · cases float : float? text with
          | none =>
              rw [float] at read
              cases read
              trivial
          | some number =>
              rw [float] at read
              cases read
              exact isScalar_of_float float

private theorem isScalar_of_untagged {plain : Bool} {text : String} {value : Json}
    (read : untaggedValue? plain text = some value) : value.IsScalar := by
  rw [untaggedValue?] at read
  split at read
  · exact isScalar_of_plain read
  · cases read
    trivial

/-- A scalar of a stream is a scalar of the document, whatever its tag. -/
theorem isScalar_of_scalar {tag : Option Tag} {plain : Bool} {text : String} {value : Json}
    (read : scalarValue? tag plain text = some value) : value.IsScalar := by
  rw [scalarValue?.eq_def] at read
  split at read
  · exact isScalar_of_untagged read
  · split at read
    · exact isScalar_of_null read
    · split at read
      · exact isScalar_of_boolean read
      · split at read
        · rw [Option.bind_eq_some_iff] at read
          obtain ⟨_, integer, rfl⟩ := read
          exact isScalar_of_integer integer
        · split at read
          · exact isScalar_of_float read
          · split at read
            · cases read
            · split at read
              · exact isScalar_of_untagged read
              · cases read
                trivial

namespace Node

/-- A built value, if there is one, has the property. -/
def Builds (P : Json → Prop) (value : Node Nat → Nat → Option (Json × Nat)) : Prop :=
  ∀ node used built after, value node used = some (built, after) → P built

/-- By induction on the nodes of a sequence. -/
theorem Builds.items {value : Node Nat → Nat → Option (Json × Nat)} (builds : Builds P value)
    {nodes : List (Node Nat)} {used after : Nat} {items : List Json}
    (built : values? value nodes used = some (items, after)) : ∀ item ∈ items, P item := by
  induction nodes generalizing used items after with
  | nil =>
      cases built
      simp
  | cons node rest ih =>
      simp only [values?, Option.bind_eq_bind, Option.bind_eq_some_iff] at built
      obtain ⟨⟨first, between⟩, firstBuilt, ⟨more, behind⟩, moreBuilt, same⟩ := built
      cases same
      rw [List.forall_mem_cons]
      exact ⟨builds _ _ _ _ firstBuilt, ih moreBuilt⟩

/-- By induction on the entries of a mapping. -/
theorem Builds.fields {aliases : Aliases} {value : Node Nat → Nat → Option (Json × Nat)}
    (builds : Builds P value) {entries : List (Node Nat × Node Nat)} {used after : Nat}
    {fields : List (String × Json)}
    (built : fields? aliases value entries used = some (fields, after)) :
    ∀ field ∈ fields, P field.2 := by
  induction entries generalizing used fields after with
  | nil =>
      cases built
      simp
  | cons entry rest ih =>
      simp only [fields?, Option.bind_eq_bind, Option.bind_eq_some_iff] at built
      obtain ⟨⟨key, between⟩, -, built⟩ := built
      split at built
      · simp only [Option.bind_eq_some_iff] at built
        obtain ⟨⟨first, between⟩, firstBuilt, ⟨more, behind⟩, moreBuilt, same⟩ := built
        cases same
        rw [List.forall_mem_cons]
        exact ⟨builds _ _ _ _ firstBuilt, ih moreBuilt⟩
      · cases built

end Node

end Yaml

namespace Json.Composes

open Yaml Yaml.Node

variable (composes : Composes P)

include composes

/-- A built value has the property if the values inside it have it. -/
private theorem builds_assemble {aliases : Aliases}
    {inner : Option (Node Nat → Nat → Option (Json × Nat))}
    (each : ∀ value, inner = some value → Builds P value) :
    Builds P (assemble? aliases inner) := by
  intro node used built after assembled
  cases node with
  | scalar anchor tag plain text =>
      rw [assemble?, Option.map_eq_some_iff] at assembled
      obtain ⟨_, scalar, same⟩ := assembled
      cases same
      exact composes.scalar (isScalar_of_scalar scalar)
  | sequence anchor tag items =>
      simp only [assemble?, Option.bind_eq_bind, Option.bind_eq_some_iff] at assembled
      obtain ⟨value, isInner, assembled⟩ := assembled
      split at assembled
      · rw [Option.bind_eq_some_iff] at assembled
        obtain ⟨_, itemsBuilt, same⟩ := assembled
        cases same
        exact composes.array ((each value isInner).items itemsBuilt)
      · cases assembled
  | mapping anchor tag entries =>
      simp only [assemble?, Option.bind_eq_bind, Option.bind_eq_some_iff] at assembled
      obtain ⟨value, isInner, assembled⟩ := assembled
      split at assembled
      · rw [Option.bind_eq_some_iff] at assembled
        obtain ⟨_, fieldsBuilt, same⟩ := assembled
        cases same
        exact composes.object ((each value isInner).fields fieldsBuilt)
      · cases assembled
  | _ =>
      -- An alias; these are followed before anything is built.
      cases assembled

/-- By induction on the levels that are left, as for JSON. -/
theorem builds_build (aliases : Aliases) (depth : Nat) : Builds P (build? aliases depth) := by
  induction depth with
  | zero =>
      intro node used built after builds
      rw [build?, Option.bind_eq_bind, Option.bind_eq_some_iff] at builds
      obtain ⟨_, -, assembled⟩ := builds
      exact composes.builds_assemble (fun value absent => by cases absent) _ _ _ _ assembled
  | succ depth ih =>
      intro node used built after builds
      rw [build?, Option.bind_eq_bind, Option.bind_eq_some_iff] at builds
      obtain ⟨_, -, assembled⟩ := builds
      refine composes.builds_assemble (fun value same => ?_) _ _ _ _ assembled
      rwa [← Option.some.inj same]

private theorem of_value {root : Node String} {value : Json} (built : root.value? = some value) :
    P value := by
  simp only [Node.value?, Option.bind_eq_bind, Option.bind_eq_some_iff] at built
  obtain ⟨_, -, _, builds, same⟩ := built
  cases same
  exact composes.builds_build _ _ _ _ _ _ builds

/-- Every document of a YAML stream has the property. -/
theorem of_mem_read {text : String} {value : Json} (member : value ∈ (Yaml.read text).values) :
    P value := by
  have each (complete : Bool) (roots : List (Node String))
      (member : value ∈ (Documents.ofNodes complete roots).values) : P value := by
    induction roots with
    | nil => cases member
    | cons root rest ih =>
        rw [Documents.ofNodes] at member
        split at member
        · cases member
        · next first built =>
            rcases List.mem_cons.mp member with rfl | later
            · exact composes.of_value built
            · exact ih later
  exact each _ _ member

end Json.Composes

/-! ### Fields in order -/

theorem Json.IsScalar.ordered {value : Json} (scalar : value.IsScalar) : value.Ordered := by
  cases value with
  | array _ => exact scalar.elim
  | object _ => exact scalar.elim
  | _ => exact Json.ordered_leaf (by simp) rfl

/-- To have the fields in order is a property of the parts: `ofFields` sorts the fields of an
object. -/
theorem Json.composes_ordered : Json.Composes Json.Ordered :=
  ⟨Json.IsScalar.ordered, Json.ordered_array, Json.ordered_ofFields⟩

/-- A JSON text has its fields in order once it is read. -/
theorem Json.ordered_of_read {text : String} {value : Json} (read : Json.read? text = some value) :
    value.Ordered :=
  Json.composes_ordered.of_read read

/-- The documents of a YAML stream have their fields in order. -/
theorem Yaml.ordered_of_mem_read {text : String} {value : Json}
    (member : value ∈ (Yaml.read text).values) : value.Ordered :=
  Json.composes_ordered.of_mem_read member

/-! ### Numbers that can be compared -/

namespace Json

/-- All numbers in the value, at any depth, are comparable with each other: no document holds the
float that stands for no number. -/
inductive Numeric : Json → Prop where
  | intro {value : Json} (here : ∀ n, value = number n → n.toBinary64.isNaN = false)
      (below : ∀ child ∈ value.children, Numeric child) : Numeric value

/-- The values inside a comparable value are comparable. -/
theorem Numeric.of_mem_children {value child : Json} (numeric : value.Numeric)
    (member : child ∈ value.children) : child.Numeric := by
  cases numeric with
  | intro _ below => exact below child member

/-- A comparable number is not the float that stands for no number. -/
theorem Numeric.isNaN {n : JsonNumber} (numeric : (number n).Numeric) :
    n.toBinary64.isNaN = false := by
  cases numeric with
  | intro here _ => exact here n rfl

theorem IsScalar.numeric {value : Json} (scalar : value.IsScalar) : value.Numeric := by
  cases value with
  | array _ => exact scalar.elim
  | object _ => exact scalar.elim
  | number n =>
      refine .intro (fun m same => ?_) (by simp [children])
      cases same
      exact scalar
  | _ => exact .intro (by simp) (by simp [children])

/-- The values of an object are among those that it was built of. -/
private theorem mem_of_mem_foldl_insert {fields done : List (String × Json)} {field : String × Json}
    (member : field ∈ fields.foldl (fun done field => insert field.1 field.2 done) done) :
    field ∈ fields ∨ field ∈ done := by
  induction fields generalizing done with
  | nil => exact Or.inr member
  | cons first fields ih =>
      rcases ih member with later | inserted
      · exact Or.inl (List.mem_cons_of_mem _ later)
      · rcases mem_of_mem_insert inserted with rfl | earlier
        · exact Or.inl List.mem_cons_self
        · exact Or.inr earlier

/-- To be comparable is a property of the parts: an object holds no value besides those of its
fields. -/
theorem composes_numeric : Composes Numeric := by
  refine ⟨IsScalar.numeric, fun each => .intro (by simp) each, fun each => ?_⟩
  refine .intro (by simp [ofFields]) fun child member => ?_
  obtain ⟨field, inside, rfl⟩ := List.mem_map.mp member
  exact each field ((mem_of_mem_foldl_insert inside).resolve_right (by simp))

/-- A JSON text holds only numbers that can be compared. -/
theorem numeric_of_read {text : String} {value : Json} (read : read? text = some value) :
    value.Numeric :=
  composes_numeric.of_read read

end Json

/-- The documents of a YAML stream hold only numbers that can be compared. -/
theorem Yaml.numeric_of_mem_read {text : String} {value : Json}
    (member : value ∈ (Yaml.read text).values) : value.Numeric :=
  Json.composes_numeric.of_mem_read member

end WaitFor
