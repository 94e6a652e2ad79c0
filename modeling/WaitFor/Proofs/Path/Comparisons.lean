/-
Module: WaitFor.Proofs.Path.Comparisons
Purpose: The laws of the six comparisons of a filter.
Main exports:
  Comparison.flip, Comparison.exclusive, Json.same_comm, Json.order?_swap,
  Operand.order?, Json.Satisfies, Json.satisfies_iff, Json.satisfies_laws
-/
import Mathlib
import WaitFor.Path.Find
import WaitFor.Proofs.Text.ByteOrder

namespace WaitFor

/-!
A comparison depends on its two sides through their order alone, and on that only if both sides have
values.  There are five outcomes: a side without a value, two values without an order, and the three
orders.  Whatever relates the comparisons to each other is settled by going through these.
-/

namespace Comparison

/-- The comparison that says the same with its sides exchanged. -/
def flip : Comparison → Comparison
  | equal => equal
  | different => different
  | greater => less
  | atLeast => atMost
  | less => greater
  | atMost => atLeast

/-- The comparisons that stand for one order each. -/
def exclusive : List Comparison := [less, equal, greater]

/-- A comparison accepts an order as the flipped one accepts the reverse. -/
theorem accepts_flip (op : Comparison) (order : Option Ordering) :
    op.flip.accepts (order.map Ordering.swap) = op.accepts order := by
  rcases order with _ | order
  · cases op <;> rfl
  · cases op <;> cases order <;> rfl

/-- At most one of the exclusive comparisons accepts an order. -/
theorem eq_of_accepts {order : Option Ordering} {one two : Comparison} (oneIs : one ∈ exclusive)
    (twoIs : two ∈ exclusive) (oneHolds : one.accepts order = true)
    (twoHolds : two.accepts order = true) : one = two := by
  simp only [exclusive, List.mem_cons, List.not_mem_nil, or_false] at oneIs twoIs
  rcases oneIs with rfl | rfl | rfl <;> rcases twoIs with rfl | rfl | rfl <;>
    simp_all [accepts]

/-- Two values are equal or different. -/
theorem xor_accepts (order : Option Ordering) :
    Xor (equal.accepts order = true) (different.accepts order = true) := by
  simp only [accepts, beq_iff_eq, bne_iff_ne]
  exact xor_not_right.mpr Iff.rfl

/-- Of two values with an order, one of the three comparisons holds and no other. -/
theorem existsUnique_accepts (order : Ordering) :
    ∃! op, op ∈ exclusive ∧ op.accepts (some order) = true := by
  have holds : ∃ op ∈ exclusive, op.accepts (some order) = true := by
    cases order with
    | lt => exact ⟨less, by decide, rfl⟩
    | eq => exact ⟨equal, by decide, rfl⟩
    | gt => exact ⟨greater, by decide, rfl⟩
  obtain ⟨op, isExclusive, accepted⟩ := holds
  exact ⟨op, ⟨isExclusive, accepted⟩, fun other both =>
    eq_of_accepts both.1 isExclusive both.2 accepted⟩

end Comparison

/-! ### The order of two values -/

theorem Binary64.compare?_swap (a b : Binary64) :
    (a.compare? b).map Ordering.swap = b.compare? a := by
  rw [compare?, compare?, Bool.or_comm]
  split
  · rfl
  · rw [Option.map_some, ← Std.OrientedOrd.eq_swap]

theorem JsonNumber.same_comm (a b : JsonNumber) : a.same b = b.same a := by
  cases a with
  | integer m =>
      cases b with
      | integer n => exact BEq.comm
      | float y => rfl
  | float x =>
      cases b with
      | integer n => rfl
      | float y =>
          rw [same, same, ← Binary64.compare?_swap x y]
          cases x.compare? y with
          | none => rfl
          | some order => cases order <;> rfl

namespace Json

mutual

/-- Sameness is symmetric: by recursion on the first value, through arrays and objects. -/
theorem same_comm : ∀ a b : Json, a.same b = b.same a
  | null, b => by cases b <;> simp [same]
  | boolean _, b => by cases b <;> simp [same, BEq.comm]
  | number x, b => by cases b <;> simp [same, JsonNumber.same_comm x]
  | string _, b => by cases b <;> simp [same, BEq.comm]
  | array items, b => by cases b <;> simp [same, sameItems_comm items]
  | object fields, b => by cases b <;> simp [same, sameFields_comm fields]

theorem sameItems_comm : ∀ as bs : List Json, sameItems as bs = sameItems bs as
  | [], bs => by cases bs <;> rfl
  | _ :: _, [] => rfl
  | a :: as, b :: bs => by rw [sameItems, sameItems, same_comm a b, sameItems_comm as bs]

theorem sameFields_comm : ∀ as bs : List (String × Json), sameFields as bs = sameFields bs as
  | [], bs => by cases bs <;> rfl
  | _ :: _, [] => rfl
  | (x, a) :: as, (y, b) :: bs => by
      rw [sameFields, sameFields, same_comm a b, sameFields_comm as bs, BEq.comm (a := x)]

end

/-- Two values that are neither both numbers nor both strings are equal or have no order. -/
theorem order?_of_others {a b : Json} (notNumbers : ∀ x y, a = number x → b = number y → False)
    (notStrings : ∀ x y, a = string x → b = string y → False) :
    a.order? b = if a.same b then some .eq else none := by
  rw [order?]
  · exact notNumbers
  · exact notStrings

/-- The order of two values turns around with them. -/
theorem order?_swap (a b : Json) : (a.order? b).map Ordering.swap = b.order? a := by
  fun_cases order? a b with
  | case1 x y => exact Binary64.compare?_swap _ _
  | case2 x y => rw [order?, Option.map_some, ← Std.OrientedOrd.eq_swap]
  | case3 _ _ notNumbers notStrings same =>
      rw [order?_of_others (fun y x isY isX => notNumbers x y isX isY)
        (fun y x isY isX => notStrings x y isX isY), same_comm, if_pos same]
      rfl
  | case4 _ _ notNumbers notStrings different =>
      rw [order?_of_others (fun y x isY isX => notNumbers x y isX isY)
        (fun y x isY isX => notStrings x y isX isY), same_comm, if_neg different]
      rfl

/-- Strings stand in the order of their bytes in UTF-8. -/
theorem order?_strings (a b : String) :
    ((string a).order? (string b) = some .lt ↔ Text.bytes a < Text.bytes b) ∧
      ((string a).order? (string b) = some .eq ↔ Text.bytes a = Text.bytes b) ∧
      ((string a).order? (string b) = some .gt ↔ Text.bytes b < Text.bytes a) := by
  rw [order?, Option.some.injEq, Option.some.injEq, Option.some.injEq, Text.bytes_lt_iff,
    Text.bytes_inj, Text.bytes_lt_iff]
  exact ⟨compare_lt_iff_lt, compare_eq_iff_eq, compare_gt_iff_gt⟩

end Json

/-! ### The comparisons of two sides -/

/-- The order of the values of two sides at a child, if both sides have values. -/
def Operand.order? (left right : Operand) (child : Json) : Option (Option Ordering) :=
  (left.value? child).bind fun a => (right.value? child).map a.order?

/-- A child passes the filter that compares two sides. -/
def Json.Satisfies (child : Json) (left : Operand) (op : Comparison) (right : Operand) : Prop :=
  (Test.compare left op right).holds child = true

namespace Operand

/-- There is no order exactly if one of the sides has no value. -/
theorem order?_eq_none_iff {left right : Operand} {child : Json} :
    order? left right child = none ↔ left.value? child = none ∨ right.value? child = none := by
  rw [order?, Option.bind_eq_none_iff]
  cases left.value? child <;> simp

theorem order?_swap (left right : Operand) (child : Json) :
    (order? left right child).map (Option.map Ordering.swap) = order? right left child := by
  rw [order?, order?]
  cases left.value? child with
  | none => cases right.value? child <;> rfl
  | some a =>
      cases right.value? child with
      | none => rfl
      | some b => exact congrArg some (a.order?_swap b)

end Operand

namespace Json

variable {child : Json} {left right : Operand}

/-- A comparison holds if both sides have values and it accepts their order. -/
theorem satisfies_iff {op : Comparison} :
    child.Satisfies left op right ↔
      ∃ order, Operand.order? left right child = some order ∧ op.accepts order = true := by
  rw [Satisfies, Test.holds, Operand.order?]
  cases left.value? child with
  | none => simp
  | some a => cases right.value? child <;> simp

theorem satisfies_of_order {op : Comparison} {order : Option Ordering}
    (ordered : Operand.order? left right child = some order) :
    child.Satisfies left op right ↔ op.accepts order = true := by
  simp [satisfies_iff, ordered]

/-- A comparison holds exactly if the flipped one holds with the sides exchanged. -/
theorem satisfies_flip (op : Comparison) :
    child.Satisfies left op right ↔ child.Satisfies right op.flip left := by
  rw [satisfies_iff, satisfies_iff, ← Operand.order?_swap left right]
  cases Operand.order? left right child with
  | none => simp
  | some order => simp [Comparison.accepts_flip]

theorem satisfies_atLeast :
    child.Satisfies left .atLeast right ↔
      child.Satisfies left .greater right ∨ child.Satisfies left .equal right := by
  simp only [satisfies_iff, Comparison.accepts, Bool.or_eq_true, and_or_left, exists_or]

theorem satisfies_atMost :
    child.Satisfies left .atMost right ↔
      child.Satisfies left .less right ∨ child.Satisfies left .equal right := by
  simp only [satisfies_iff, Comparison.accepts, Bool.or_eq_true, and_or_left, exists_or]

/-- The comparisons of a filter are symmetric and complementary, whatever its sides are and whatever
child it is asked about.  Turned around with its sides a comparison says the same; at least is
greater or equal, and at most is less or equal; no two of less, equal and greater hold.  If both
sides have values, either they are equal or different; if one has none, no comparison holds.  Of two
strings one of less, equal and greater holds, and it is that of their bytes in UTF-8. -/
theorem satisfies_laws (child : Json) (left right : Operand) :
    (∀ op, child.Satisfies left op right ↔ child.Satisfies right op.flip left) ∧
      (child.Satisfies left .atLeast right ↔
        child.Satisfies left .greater right ∨ child.Satisfies left .equal right) ∧
      (child.Satisfies left .atMost right ↔
        child.Satisfies left .less right ∨ child.Satisfies left .equal right) ∧
      (∀ one ∈ Comparison.exclusive, ∀ two ∈ Comparison.exclusive,
        child.Satisfies left one right → child.Satisfies left two right → one = two) ∧
      ((left.value? child).isSome = true → (right.value? child).isSome = true →
        Xor (child.Satisfies left .equal right) (child.Satisfies left .different right)) ∧
      (left.value? child = none ∨ right.value? child = none →
        ∀ op, ¬child.Satisfies left op right) ∧
      ∀ a b, left.value? child = some (string a) → right.value? child = some (string b) →
        (∃! op, op ∈ Comparison.exclusive ∧ child.Satisfies left op right) ∧
          (child.Satisfies left .less right ↔ Text.bytes a < Text.bytes b) ∧
          (child.Satisfies left .equal right ↔ Text.bytes a = Text.bytes b) ∧
          (child.Satisfies left .greater right ↔ Text.bytes b < Text.bytes a) := by
  refine ⟨satisfies_flip, satisfies_atLeast, satisfies_atMost, ?exclusive, ?complementary, ?absent,
    ?strings⟩
  case exclusive =>
    intro one oneIs two twoIs oneHolds twoHolds
    obtain ⟨order, ordered, oneAccepts⟩ := satisfies_iff.mp oneHolds
    exact Comparison.eq_of_accepts oneIs twoIs oneAccepts ((satisfies_of_order ordered).mp twoHolds)
  case complementary =>
    intro leftHas rightHas
    rcases ordered : Operand.order? left right child with _ | order
    · rcases Operand.order?_eq_none_iff.mp ordered with none | none
      · simp [none] at leftHas
      · simp [none] at rightHas
    · simp only [satisfies_of_order ordered]
      exact Comparison.xor_accepts order
  case absent =>
    intro absent op holds
    obtain ⟨order, ordered, -⟩ := satisfies_iff.mp holds
    rw [Operand.order?_eq_none_iff.mpr absent] at ordered
    cases ordered
  case strings =>
    intro a b leftIs rightIs
    have ordered : Operand.order? left right child = some ((string a).order? (string b)) := by
      rw [Operand.order?, leftIs, rightIs]
      rfl
    obtain ⟨less, equal, greater⟩ := order?_strings a b
    simp only [satisfies_of_order ordered, ← less, ← equal, ← greater, Comparison.accepts,
      beq_iff_eq, and_true, iff_self]
    rw [order?]
    exact Comparison.existsUnique_accepts (compare a b)

/-- A letter beyond ASCII stands behind `z`, as its first byte does; nothing compares with a field
that is missing. -/
theorem satisfies_laws_of_letter :
    ∃ child left right,
      child = object [("a", string "é")] ∧ left = Operand.current [.field "a"] ∧
      right = Operand.literal (.string "z") ∧
      left.value? child = some (string "é") ∧ right.value? child = some (string "z") ∧
      Xor (child.Satisfies left .equal right) (child.Satisfies left .different right) ∧
      (child.Satisfies left .greater right ∧ Text.bytes "z" < Text.bytes "é") ∧
      (Operand.current [.field "b"]).value? child = none ∧
      ∀ op, ¬child.Satisfies left op (.current [.field "b"]) := by
  have leftIs : (Operand.current [.field "a"]).value? (object [("a", string "é")]) =
      some (string "é") := rfl
  have rightIs : (Operand.literal (.string "z")).value? (object [("a", string "é")]) =
      some (string "z") := rfl
  have absent : (Operand.current [.field "b"]).value? (object [("a", string "é")]) = none := rfl
  have first : Text.bytes "z" < Text.bytes "é" := by decide
  obtain ⟨-, -, -, -, complementary, -, strings⟩ := satisfies_laws (object [("a", string "é")])
    (.current [.field "a"]) (.literal (.string "z"))
  obtain ⟨-, -, -, -, -, none, -⟩ := satisfies_laws (object [("a", string "é")])
    (.current [.field "a"]) (.current [.field "b"])
  exact ⟨_, _, _, rfl, rfl, rfl, leftIs, rightIs,
    complementary (by rw [leftIs]; rfl) (by rw [rightIs]; rfl),
    ⟨(strings _ _ leftIs rightIs).2.2.2.mpr first, first⟩, absent, none (Or.inr absent)⟩

end Json

end WaitFor
