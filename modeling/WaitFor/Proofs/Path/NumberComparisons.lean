/-
Module: WaitFor.Proofs.Path.NumberComparisons
Purpose: What the comparisons of a filter say about numbers.
Main exports:
  Comparison.Relates, Json.Compares, Json.satisfies_of_values, Json.compares_integers,
  Selector.numeric_of_select, Chain.numeric_of_find, Json.satisfies_literal
-/
import Mathlib
import WaitFor.Proofs.Json.Documents
import WaitFor.Proofs.Numeric.Rounding
import WaitFor.Proofs.Path.Comparisons
import WaitFor.Proofs.Path.Matching

namespace WaitFor

/-!
Numbers of all kinds are compared by the floating-point numbers nearest to them, and a comparison
says about these what its sign says.  For integers this differs from what the sign says about the
integers themselves only if two of them have one nearest float.  A literal that rounds to infinity
has no value, and no comparison with it holds.
-/

/-! ### Comparisons of ordered values -/

namespace Comparison

variable {α β : Type*} [LinearOrder α] [LinearOrder β]

/-- What the sign of a comparison says about two ordered values. -/
def Relates : Comparison → α → α → Prop
  | equal, a, b => a = b
  | different, a, b => a ≠ b
  | greater, a, b => b < a
  | atLeast, a, b => b ≤ a
  | less, a, b => a < b
  | atMost, a, b => a ≤ b

theorem accepts_compare (op : Comparison) (a b : α) :
    op.accepts (some (compare a b)) = true ↔ op.Relates a b := by
  rcases lt_trichotomy a b with less | rfl | greater
  · rw [compare_lt_iff_lt.mpr less]
    cases op <;> simp [accepts, Relates, less, less.le, less.ne, less.not_gt, less.not_ge]
  · rw [compare_eq_iff_eq.mpr rfl]
    cases op <;> simp [accepts, Relates]
  · rw [compare_gt_iff_gt.mpr greater]
    cases op <;>
      simp [accepts, Relates, greater, greater.le, greater.ne', greater.not_gt, greater.not_ge]

instance (op : Comparison) (a b : α) : Decidable (op.Relates a b) :=
  decidable_of_iff _ (accepts_compare op a b)

/-- Pairs in the same order satisfy the same comparisons. -/
theorem relates_iff_of_compare {a b : α} {c d : β} (same : compare a b = compare c d)
    (op : Comparison) : op.Relates a b ↔ op.Relates c d := by
  rw [← accepts_compare, ← accepts_compare, same]

end Comparison

/-! ### Comparisons of numbers -/

namespace Json

/-- The comparison of two values holds. -/
def Compares (a : Json) (op : Comparison) (b : Json) : Prop := op.accepts (a.order? b) = true

instance (a : Json) (op : Comparison) (b : Json) : Decidable (a.Compares op b) :=
  inferInstanceAs (Decidable (_ = true))

/-- Sides with values compare as these do. -/
theorem satisfies_of_values {child a b : Json} {left right : Operand} {op : Comparison}
    (leftIs : left.value? child = some a) (rightIs : right.value? child = some b) :
    child.Satisfies left op right ↔ a.Compares op b := by
  refine satisfies_of_order ?_
  rw [Operand.order?, leftIs, rightIs]
  rfl

theorem compares_numbers {m n : JsonNumber} (mNumber : m.toBinary64.isNaN = false)
    (nNumber : n.toBinary64.isNaN = false) (op : Comparison) :
    (number m).Compares op (number n) ↔ op.Relates m.toBinary64.value n.toBinary64.value := by
  rw [Compares, order?, Binary64.compare?_eq mNumber nNumber, Comparison.accepts_compare]

end Json

/-! ### Integers -/

namespace Binary64

/-- Integers keep their order unless both lie beyond `2 ^ 53` on one side. -/
theorem value_ofInt_lt {m n : Int} (ordered : m < n) (mBelow : m < 2 ^ 53) (nAbove : -2 ^ 53 < n) :
    (ofInt m).value < (ofInt n).value := by
  have first : (ofInt m).value ≤ (max m (-2 ^ 53) : Int) := by
    rw [← value_ofInt_of_small (by omega)]
    exact value_ofInt_mono (le_max_left _ _)
  have last : ((min n (2 ^ 53) : Int) : ℚ) ≤ (ofInt n).value := by
    rw [← value_ofInt_of_small (by omega)]
    exact value_ofInt_mono (min_le_left _ _)
  have between : max m (-2 ^ 53) < min n (2 ^ 53) := by omega
  exact first.trans_lt (lt_of_lt_of_le (by exact_mod_cast between) last)

/-- Integers are in the order of their floats, except for different ones with the same float. -/
theorem compare_ofInt_iff {m n : Int} :
    compare (ofInt m).value (ofInt n).value = compare m n ↔
      m = n ∨ (ofInt m).value ≠ (ofInt n).value := by
  rcases lt_trichotomy m n with less | rfl | greater
  · rw [compare_lt_iff_lt.mpr less, compare_lt_iff_lt, or_iff_right less.ne]
    exact (value_ofInt_mono less.le).lt_iff_ne
  · simp
  · rw [compare_gt_iff_gt.mpr greater, compare_gt_iff_gt, or_iff_right greater.ne']
    exact (value_ofInt_mono greater.le).lt_iff_ne.trans ne_comm

/-- The float of an integer of 64 bits is the nearest to it. -/
theorem isNearest_ofInt_of_word {z : Int} (least : leastSigned ≤ z) (greatest : z ≤ greatestUnsigned) :
    (ofInt z).IsNearest z := by
  rw [leastSigned, Nat.pow_eq] at least
  rw [greatestUnsigned, Nat.pow_eq] at greatest
  exact isNearest_ofInt (abs_lt_overflow (by omega))

end Binary64

namespace Json

variable {m n : Int}

/-- Two integers compare as the floats nearest to them, which for all six comparisons together is as
the integers themselves compare if these are the same or their floats are not.  They are so unless
both lie at or beyond `2 ^ 53` on one side.  A comparison that holds of different floats holds of the
integers, and one that holds of equal integers holds of the floats. -/
theorem compares_integers (mLeast : leastSigned ≤ m) (mGreatest : m ≤ greatestUnsigned)
    (nLeast : leastSigned ≤ n) (nGreatest : n ≤ greatestUnsigned) :
    ((Binary64.ofInt m).IsNearest m ∧ (Binary64.ofInt n).IsNearest n) ∧
      (∀ op, (number (.integer m)).Compares op (number (.integer n)) ↔
        op.Relates (Binary64.ofInt m).value (Binary64.ofInt n).value) ∧
      (∀ (child : Json) (left right : Operand), left.value? child = some (number (.integer m)) →
        right.value? child = some (number (.integer n)) →
        ∀ op, child.Satisfies left op right ↔
          op.Relates (Binary64.ofInt m).value (Binary64.ofInt n).value) ∧
      ((∀ op, (number (.integer m)).Compares op (number (.integer n)) ↔ op.Relates m n) ↔
        m = n ∨ (Binary64.ofInt m).value ≠ (Binary64.ofInt n).value) ∧
      (min m n < 2 ^ 53 → -2 ^ 53 < max m n →
        ∀ op, (number (.integer m)).Compares op (number (.integer n)) ↔ op.Relates m n) ∧
      (∀ op ∈ [Comparison.less, .different, .greater],
        (number (.integer m)).Compares op (number (.integer n)) → op.Relates m n) ∧
      ∀ op ∈ [Comparison.atMost, .equal, .atLeast],
        op.Relates m n → (number (.integer m)).Compares op (number (.integer n)) := by
  have compares : ∀ op, (number (.integer m)).Compares op (number (.integer n)) ↔
      op.Relates (Binary64.ofInt m).value (Binary64.ofInt n).value :=
    compares_numbers (Binary64.isNaN_ofRatio _ _ _) (Binary64.isNaN_ofRatio _ _ _)
  have exact_iff : (∀ op, (number (.integer m)).Compares op (number (.integer n)) ↔
      op.Relates m n) ↔ m = n ∨ (Binary64.ofInt m).value ≠ (Binary64.ofInt n).value := by
    simp only [compares]
    constructor
    · intro exact
      by_cases same : (Binary64.ofInt m).value = (Binary64.ofInt n).value
      · exact Or.inl ((exact .equal).mp same)
      · exact Or.inr same
    · intro distinct op
      exact Comparison.relates_iff_of_compare (Binary64.compare_ofInt_iff.mpr distinct) op
  refine ⟨⟨Binary64.isNearest_ofInt_of_word mLeast mGreatest,
    Binary64.isNearest_ofInt_of_word nLeast nGreatest⟩, compares, ?sides, exact_iff, ?near, ?strict,
    ?weak⟩
  case sides =>
    intro child left right leftIs rightIs op
    rw [satisfies_of_values leftIs rightIs, compares]
  case near =>
    intro below above
    rw [exact_iff]
    rcases lt_trichotomy m n with less | same | greater
    · exact Or.inr (Binary64.value_ofInt_lt less (by omega) (by omega)).ne
    · exact Or.inl same
    · exact Or.inr (Binary64.value_ofInt_lt greater (by omega) (by omega)).ne'
  case strict =>
    simp only [compares, List.forall_mem_cons, List.not_mem_nil, Comparison.Relates]
    exact ⟨lt_imp_lt_of_le_imp_le Binary64.value_ofInt_mono, fun different same => different
      (by rw [same]), lt_imp_lt_of_le_imp_le Binary64.value_ofInt_mono, by simp⟩
  case weak =>
    simp only [compares, List.forall_mem_cons, List.not_mem_nil, Comparison.Relates]
    exact ⟨Binary64.value_ofInt_mono, fun same => by rw [same], Binary64.value_ofInt_mono, by simp⟩

/-- An integer below `2 ^ 53` compares exactly with the first one that is no float. -/
theorem compares_integers_of_near :
    (leastSigned ≤ 9007199254740991 ∧ (9007199254740991 : Int) ≤ greatestUnsigned) ∧
      (leastSigned ≤ 9007199254740993 ∧ (9007199254740993 : Int) ≤ greatestUnsigned) ∧
      (Binary64.ofInt 9007199254740993).IsNearest (9007199254740993 : Int) ∧
      ∀ op, (number (.integer 9007199254740991)).Compares op (number (.integer 9007199254740993)) ↔
        op.Relates (9007199254740991 : Int) 9007199254740993 := by
  have mWord : leastSigned ≤ 9007199254740991 ∧ (9007199254740991 : Int) ≤ greatestUnsigned := by
    decide
  have nWord : leastSigned ≤ 9007199254740993 ∧ (9007199254740993 : Int) ≤ greatestUnsigned := by
    decide
  obtain ⟨⟨-, nearest⟩, -, -, -, near, -⟩ :=
    compares_integers mWord.1 mWord.2 nWord.1 nWord.2
  exact ⟨mWord, nWord, nearest, near (by decide) (by decide)⟩

/-- Two different integers of 64 bits that compare as equal, so that a filter keeps their item. -/
theorem compares_neighbours_as_equal :
    (leastSigned ≤ 9007199254740992 ∧ (9007199254740992 : Int) ≤ greatestUnsigned) ∧
      (leastSigned ≤ 9007199254740993 ∧ (9007199254740993 : Int) ≤ greatestUnsigned) ∧
      ((number (.integer 9007199254740992)).Compares .equal (number (.integer 9007199254740993)) ∧
        ¬Comparison.equal.Relates (9007199254740992 : Int) 9007199254740993) ∧
      ∃ item, item = object [("x", number (.integer 9007199254740992)),
          ("y", number (.integer 9007199254740993))] ∧
        Chain.find [.filter (.compare (.current [.field "x"]) .equal (.current [.field "y"]))]
          (array [item]) = [item] := by
  refine ⟨by decide, by decide, ⟨?_, ?_⟩, _, rfl, ?_⟩
  · decide +kernel
  · decide
  · rfl

end Json

/-! ### What a chain finds

Every value that a chain finds lies in the value that it is run on.  What holds of a value and of
all values inside it therefore holds of everything that is found.
-/

namespace Json

mutual

theorem numeric_subtree : ∀ value : Json, value.Numeric → ∀ found ∈ value.subtree, found.Numeric
  | array items, numeric => by
      rw [subtree, List.forall_mem_cons]
      exact ⟨numeric, numeric_subtreesOfItems items fun _ member => numeric.of_mem_children member⟩
  | object fields, numeric => by
      rw [subtree, List.forall_mem_cons]
      exact ⟨numeric, numeric_subtreesOfFields fields fun _ member =>
        numeric.of_mem_children (List.mem_map_of_mem member)⟩
  | null, numeric => by simpa [subtree] using numeric
  | boolean _, numeric => by simpa [subtree] using numeric
  | number _, numeric => by simpa [subtree] using numeric
  | string _, numeric => by simpa [subtree] using numeric

theorem numeric_subtreesOfItems : ∀ items : List Json, (∀ item ∈ items, item.Numeric) →
    ∀ found ∈ subtreesOfItems items, found.Numeric
  | [], _ => by simp [subtreesOfItems]
  | item :: rest, each => by
      rw [List.forall_mem_cons] at each
      rw [subtreesOfItems, List.forall_mem_append]
      exact ⟨numeric_subtree item each.1, numeric_subtreesOfItems rest each.2⟩

theorem numeric_subtreesOfFields : ∀ fields : List (String × Json),
    (∀ field ∈ fields, field.2.Numeric) → ∀ found ∈ subtreesOfFields fields, found.Numeric
  | [], _ => by simp [subtreesOfFields]
  | (_, value) :: rest, each => by
      rw [List.forall_mem_cons] at each
      rw [subtreesOfFields, List.forall_mem_append]
      exact ⟨numeric_subtree value each.1, numeric_subtreesOfFields rest each.2⟩

end

end Json

namespace Selector

/-- A selector other than a descent selects children. -/
theorem mem_children_of_select {selector : Selector} {value found : Json}
    (single : selector.isDescent = false) (member : found ∈ selector.select value) :
    found ∈ value.children := by
  have stepped {steps : List Step}
      (member : found ∈ (value.stepped steps).map Prod.snd) : found ∈ value.children := by
    rw [Json.map_snd_stepped, List.mem_filterMap] at member
    obtain ⟨step, -, isChild⟩ := member
    exact Json.mem_children_of_child? isChild
  rw [← map_snd_reached] at member
  cases selector with
  | field name => exact stepped member
  | union names => exact stepped member
  | index position => exact stepped member
  | slice start stop step => exact stepped member
  | wildcard => rwa [reached, Json.map_snd_entries] at member
  | filter test =>
      rw [map_snd_reached, select] at member
      exact (List.mem_filter.mp member).1
  | descent => cases single

theorem numeric_of_select {selector : Selector} {value found : Json} (numeric : value.Numeric)
    (member : found ∈ selector.select value) : found.Numeric := by
  cases descends : selector.isDescent with
  | false => exact numeric.of_mem_children (mem_children_of_select descends member)
  | true =>
      cases selector with
      | descent =>
          rw [select] at member
          exact Json.numeric_subtree value numeric found member
      | _ => cases descends

end Selector

/-- By induction on the chain: each selector hands down what it is run on. -/
theorem Chain.numeric_of_find {chain : Chain} {value found : Json} (numeric : value.Numeric)
    (member : found ∈ chain.find value) : found.Numeric := by
  induction chain generalizing value with
  | nil =>
      rw [find_nil, List.mem_singleton] at member
      rwa [member]
  | cons selector rest ih =>
      rw [find_cons, List.mem_flatMap] at member
      obtain ⟨between, selected, member⟩ := member
      exact ih (selector.numeric_of_select numeric selected) member

/-! ### Number literals -/

/-- A number literal stands for the float nearest to the decimal that is written. -/
theorem Reader.exists_decimal_of_number {k rest : Cursor} {literal : Literal}
    (reads : Reader.number k = .ok (literal, rest)) :
    ∃ d, Decimal.read? (k.rest.takeWhile Reader.isNumberChar) = some d ∧
      literal = .number d.toBinary64 := by
  rw [Reader.number] at reads
  split at reads
  · next d written =>
      cases reads
      exact ⟨d, written, rfl⟩
  · cases reads

namespace Json

variable {path : Chain} {child : Json} {n : JsonNumber} {d : Decimal}

/-- Below the limit a literal is compared as the float that it stands for. -/
theorem satisfies_decimal (numeric : child.Numeric)
    (first : path.first? child = some (number n)) (small : d.amount < Binary64.overflow)
    (op : Comparison) :
    child.Satisfies (.current path) op (.literal (.number d.toBinary64)) ↔
      op.Relates n.toBinary64.value d.toBinary64.value := by
  have nNumber : (number n).Numeric :=
    Chain.numeric_of_find numeric (List.mem_of_mem_head? first)
  have literalNumber : (JsonNumber.float d.toBinary64).toBinary64.isNaN = false :=
    d.isNaN_toBinary64
  have pathIs : (Operand.current path).value? child = some (number n) := by
    rwa [Operand.value?]
  have literalIs : (Operand.literal (.number d.toBinary64)).value? child =
      some (number (.float d.toBinary64)) := by
    rw [Operand.value?, Literal.value?, if_pos (d.isFinite_toBinary64_iff.mpr small)]
  rw [satisfies_of_values pathIs literalIs]
  exact compares_numbers nNumber.isNaN literalNumber op

/-- At the limit and above it a literal has no value to compare with. -/
theorem not_satisfies_decimal (large : Binary64.overflow ≤ d.amount) (child : Json)
    (left : Operand) (op : Comparison) : ¬child.Satisfies left op (.literal (.number d.toBinary64)) := by
  have absent : (Operand.literal (.number d.toBinary64)).value? child = none := by
    rw [Operand.value?, Literal.value?, if_neg (mt d.isFinite_toBinary64_iff.mp large.not_gt)]
  intro holds
  obtain ⟨order, ordered, -⟩ := satisfies_iff.mp holds
  rw [Operand.order?_eq_none_iff.mpr (Or.inr absent)] at ordered
  cases ordered

/-- The number to which a path leads is comparable with a literal that is read if and only if what is
written is below the limit from which on decimals round to infinity.  Below it one of less, equal and
greater holds, as the two floats are, and different holds if equal does not; from it on no comparison
holds, and different does not either.  The child is one of a document, so it holds numbers only. -/
theorem satisfies_literal {k rest : Cursor} {literal : Literal}
    (reads : Reader.number k = .ok (literal, rest)) (numeric : child.Numeric)
    (first : path.first? child = some (number n)) :
    ∃ d, Decimal.read? (k.rest.takeWhile Reader.isNumberChar) = some d ∧
      ((∃! op, op ∈ Comparison.exclusive ∧
          child.Satisfies (.current path) op (.literal literal)) ↔ d.amount < Binary64.overflow) ∧
      ((child.Satisfies (.current path) .different (.literal literal) ↔
          ¬child.Satisfies (.current path) .equal (.literal literal)) ↔
        d.amount < Binary64.overflow) ∧
      (d.amount < Binary64.overflow → ∀ op,
        child.Satisfies (.current path) op (.literal literal) ↔
          op.Relates n.toBinary64.value d.toBinary64.value) ∧
      (Binary64.overflow ≤ d.amount → ∀ op,
        ¬child.Satisfies (.current path) op (.literal literal)) := by
  obtain ⟨d, written, rfl⟩ := Reader.exists_decimal_of_number reads
  refine ⟨d, written, ?_⟩
  rcases lt_or_ge d.amount Binary64.overflow with small | large
  · have related := satisfies_decimal numeric first small
    refine ⟨iff_of_true ?_ small, iff_of_true ?_ small, fun _ => related, fun large =>
      absurd small large.not_gt⟩
    · simp only [related, ← Comparison.accepts_compare]
      exact Comparison.existsUnique_accepts _
    · rw [related, related]
      exact Iff.rfl
  · have never := not_satisfies_decimal large child (.current path)
    refine ⟨iff_of_false ?_ large.not_gt, iff_of_false ?_ large.not_gt, fun small =>
      absurd small large.not_gt, fun _ => never⟩
    · rintro ⟨op, ⟨-, holds⟩, -⟩
      exact never op holds
    · intro complementary
      exact never .different (complementary.mpr (never .equal))

/-- A path to `3` compares with `2.5e0` as `3` does with `2.5`. -/
theorem satisfies_literal_of_decimal :
    ∃ k rest child d,
      k = Cursor.start "2.5e0)".toList ∧ child = object [("n", number (.integer 3))] ∧
      d = Decimal.mk false 25 (-1) ∧
      Reader.number k = .ok (.number d.toBinary64, rest) ∧ child.Numeric ∧
      Chain.first? [.field "n"] child = some (number (.integer 3)) ∧
      d.amount < Binary64.overflow ∧
      (∃! op, op ∈ Comparison.exclusive ∧
        child.Satisfies (.current [.field "n"]) op (.literal (.number d.toBinary64))) ∧
      ∀ op, child.Satisfies (.current [.field "n"]) op (.literal (.number d.toBinary64)) ↔
        op.Relates (Binary64.ofInt 3).value d.toBinary64.value := by
  have reads : Reader.number (Cursor.start "2.5e0)".toList) =
      .ok (.number (Decimal.mk false 25 (-1)).toBinary64, ⟨5, [')']⟩) := rfl
  have three : (number (.integer 3)).Numeric :=
    composes_numeric.scalar (Binary64.isNaN_ofRatio _ _ _)
  have numeric : (object [("n", number (.integer 3))]).Numeric :=
    @Composes.object _ composes_numeric [("n", number (.integer 3))] (by simpa using three)
  have first : Chain.first? [.field "n"] (object [("n", number (.integer 3))]) =
      some (number (.integer 3)) := rfl
  have small : (Decimal.mk false 25 (-1)).amount < Binary64.overflow :=
    (Decimal.isFinite_toBinary64_iff _).mp (by decide +kernel)
  obtain ⟨d, written, one, -, related, -⟩ := satisfies_literal reads numeric first
  cases (show _ = some (Decimal.mk false 25 (-1)) from rfl).symm.trans written
  exact ⟨_, _, _, _, rfl, rfl, rfl, reads, numeric, first, small, one.mpr small, related small⟩

/-- A literal that is read and with which no comparison of a number holds. -/
theorem satisfies_nothing_beyond_overflow :
    ∃ k rest literal child,
      k = Cursor.start "1e999)".toList ∧ child = object [("n", number (.integer 1))] ∧
      Reader.number k = .ok (literal, rest) ∧
      Chain.first? [.field "n"] child = some (number (.integer 1)) ∧
      (∀ op, ¬child.Satisfies (.current [.field "n"]) op (.literal literal)) ∧
      Chain.read "\x7b.a[?(@.n < 1e999)].n\x7d" =
        .ok [.field "a", .filter (.compare (.current [.field "n"]) .less (.literal literal)),
          .field "n"] ∧
      Chain.find [.field "a",
        .filter (.compare (.current [.field "n"]) .less (.literal literal)), .field "n"]
          (object [("a", array [child])]) = [] := by
  refine ⟨_, ⟨5, [')']⟩, .number ⟨false, Binary64.infinite⟩, _, rfl, rfl, rfl, rfl, ?_, rfl, rfl⟩
  intro op holds
  cases op <;> cases holds

end Json

end WaitFor
