/-
Module: WaitFor.Proofs.Path.Progress
Purpose: The readers of a path never leave the text, every step and every path inside a filter leaves
  less of it to read, and the fuel is never short.
Main exports:
  Cursor.Within, Cursor.Within.ahead, Cursor.ahead_next, Cursor.slice, Reader.steps,
  Reader.AgreesBehind, Reader.step_congr, Reader.chain_eq_steps, Reader.steps_eq,
  Reader.moreNames_eq, Reader.Calls, Reader.Calls.advances, Reader.length_of_calls, Reader.Bounded,
  Reader.bounded
-/
import Mathlib
import WaitFor.Proofs.Path.Extension

namespace WaitFor

namespace Cursor

/-!
### Places of a text
-/

/-- A place of a given text. -/
structure Within (text : List Char) (k : Cursor) : Prop where
  position_le : k.position ≤ text.length
  rest_eq : k.rest = text.drop k.position

/-- The part of a text from one place up to another one. -/
def slice (text : List Char) (start stop : Nat) : List Char := (text.take stop).drop start

variable {text : List Char} {k next : Cursor}

theorem within_start (text : List Char) : Within text (start text) := ⟨Nat.zero_le _, rfl⟩

/-- The characters before a place and behind it are all there are. -/
theorem Within.total (within : Within text k) : k.position + k.rest.length = text.length := by
  rw [within.rest_eq, List.length_drop]
  exact Nat.add_sub_cancel' within.position_le

/-- Moving ahead does not leave the text. -/
theorem Within.ahead (within : Within text k) (ahead : Ahead k next) : Within text next := by
  have total := ahead.total.trans within.total
  have isSuffix : next.rest <:+ text :=
    ahead.suffix.trans (within.rest_eq ▸ List.drop_suffix _ _)
  refine ⟨by omega, ?_⟩
  rw [List.suffix_iff_eq_drop.mp isSuffix]
  congr 1
  omega

theorem Ahead.position_le (ahead : Ahead k next) : k.position ≤ next.position := by
  have total := ahead.total
  have shorter := ahead.length_le
  omega

theorem Ahead.position_lt (ahead : Ahead k next) (shorter : next.rest.length < k.rest.length) :
    k.position < next.position := by
  have total := ahead.total
  omega

/-- Passing over the character at the front moves ahead. -/
theorem ahead_next {c : Char} {rest : List Char} (front : k.rest = c :: rest) :
    Ahead k (k.advance 1) :=
  ahead_advance 1 (front ▸ Nat.succ_le_succ (Nat.zero_le _))

theorem shorter_next {c : Char} {rest : List Char} (front : k.rest = c :: rest) :
    (k.advance 1).rest.length < k.rest.length := by
  rw [rest_advance front, front]
  exact Nat.lt_succ_self _

/-- A run of characters is a part of the text, and it ends where the reader goes on. -/
theorem Within.exists_slice (within : Within text k) (p : Char → Bool) :
    ∃ stop, k.position ≤ stop ∧ stop ≤ text.length ∧
      k.rest.takeWhile p = slice text k.position stop ∧ k.skipWhile p = ⟨stop, text.drop stop⟩ := by
  have ends := within.ahead (ahead_skipWhile k p)
  have parts := congrArg List.length (List.takeWhile_append_dropWhile (p := p) (l := k.rest))
  have width : (k.skipWhile p).position - k.position = (k.rest.takeWhile p).length := by
    simp only [skipWhile, moveTo, List.length_append] at parts ⊢
    omega
  refine ⟨(k.skipWhile p).position, (ahead_skipWhile k p).position_le, ends.position_le, ?_, ?_⟩
  · rw [slice, List.drop_take, ← within.rest_eq, width]
    exact List.prefix_iff_eq_take.mp (List.takeWhile_prefix p)
  · rw [← ends.rest_eq]

end Cursor

namespace Reader

open Cursor

/-!
### Readers that move on

Everything that a reader passes over is described by the rules of `Grammar`; here it only counts how
much this is.
-/

/-- Each character of a name takes at least one of the text. -/
private theorem length_of_nameBody {text name rest : List Char}
    (reads : nameBody text = .ok (name, rest)) :
    name.length + rest.length ≤ text.length := by
  fun_induction nameBody text generalizing name rest with
  | case1 =>
      cases reads
      rfl
  | case2 => cases reads
  | case3 c text ih =>
      obtain ⟨⟨inner, after⟩, body, same⟩ := bind_eq_ok.mp reads
      cases same
      have fewer := ih body
      simp only [List.length_cons]
      omega
  | case4 c text _ _ isName ih =>
      obtain ⟨⟨inner, after⟩, body, same⟩ := bind_eq_ok.mp reads
      cases same
      have fewer := ih body
      simp only [List.length_cons]
      omega
  | case5 =>
      cases reads
      simp

variable {k next : Cursor}

/-- A name takes at least one character, since it is not empty. -/
theorem name_advances {value : String} (reads : name k = .ok (value, next)) :
    Ahead k next ∧ next.rest.length < k.rest.length := by
  refine ⟨(name_follows _ le_rfl reads).1, ?_⟩
  obtain ⟨⟨body, rest⟩, inside, named⟩ := bind_eq_ok.mp reads
  dsimp only at named
  split at named
  · cases named
  · next nonempty =>
      cases named
      have fewer := length_of_nameBody inside
      have positive : 0 < body.length := List.length_pos_iff.mpr (by simpa using nonempty)
      simp only [moveTo]
      omega

private theorem shorter_of_quoted {text rest : List Char} {value : String}
    (isQuoted : Grammar.Quoted text value rest) : rest.length < text.length := by
  cases isQuoted with
  | quoted isQuote inside =>
      rw [List.length_cons, Nat.lt_succ_iff]
      exact (suffix_of_quotedBody inside).length_le

/-- A text in quotes takes at least the quotes. -/
theorem quoted_advances {value : String} (reads : quoted k = .ok (value, next)) :
    Ahead k next ∧ next.rest.length < k.rest.length := by
  obtain ⟨ahead, isQuoted⟩ := quoted_follows _ le_rfl reads
  exact ⟨ahead, shorter_of_quoted isQuoted⟩

/-- A constant takes at least one character. -/
private theorem shorter_of_constant {text rest : List Char} {value : Literal}
    (constant : Grammar.Constant text value rest) : rest.length < text.length := by
  cases constant with
  | string isQuoted => exact shorter_of_quoted isQuoted
  | @number first text decimal starts parses =>
      have belongs : isNumberChar first = true := by
        rcases starts with rfl | digit
        · decide
        · exact isNumberChar_of_isDigit digit
      rw [List.dropWhile_cons_of_pos belongs, List.length_cons, Nat.lt_succ_iff]
      exact (List.dropWhile_suffix _).length_le
  | @word word value known =>
      have nonempty : word.toList ≠ [] := by
        fin_cases known <;> decide
      have positive := List.length_pos_of_ne_nil nonempty
      rw [List.length_append]
      omega

theorem expect_advances {wanted : Char} (reads : expect wanted k = .ok next) :
    Ahead k next ∧ next.rest.length < k.rest.length := by
  obtain ⟨ahead, front⟩ := expect_follows reads
  exact ⟨ahead, by simp [front]⟩

/-- Reads all steps of a path.  This is what the whole text is read with. -/
def steps : Reads Chain := fun k => chain k.rest.length k

theorem steps_follows (size : Nat) : Follows size steps Grammar.Steps :=
  fun _ reads => chain_follows _ le_rfl reads

/-- A side of a comparison takes at least the at sign or a character of the constant. -/
theorem operand_advances {side : Operand} (reads : operand steps k = .ok (side, next)) :
    Ahead k next ∧ next.rest.length < k.rest.length := by
  obtain ⟨ahead, isSide⟩ := operand_follows (steps_follows _) (Nat.le_succ _) reads
  refine ⟨ahead, ?_⟩
  generalize front : k.rest = text at isSide
  cases isSide with
  | literal constant => exact shorter_of_constant constant
  | current _ =>
      simp only [operand, front, if_true] at reads
      obtain ⟨⟨read, mid⟩, pathRead, same⟩ := bind_eq_ok.mp reads
      cases same
      have shorter := (steps_follows _ le_rfl pathRead).1.length_le
      rw [rest_advance front] at shorter
      exact Nat.lt_succ_of_le shorter

/-- A filter takes at least its parentheses. -/
theorem filter_advances {test : Test} (reads : filter steps k = .ok (test, next)) :
    Ahead k next ∧ next.rest.length < k.rest.length := by
  refine ⟨(filter_follows (steps_follows _) (Nat.le_succ _) reads).1, ?_⟩
  obtain ⟨inside, openRead, reads⟩ := bind_eq_ok.mp reads
  obtain ⟨⟨_, mid⟩, testRead, reads⟩ := bind_eq_ok.mp reads
  obtain ⟨last, closeRead, same⟩ := bind_eq_ok.mp reads
  cases same
  have opened := ((ahead_skipBlank k).length_le.trans_lt' (expect_advances openRead).2)
  have tested := ((ahead_skipBlank inside).trans
    (test_follows (steps_follows _) (Nat.le_succ _) testRead).1).length_le
  have closed := ((ahead_skipBlank mid).trans (expect_advances closeRead).1).length_le
  omega

/-- A bracket takes at least the closing one. -/
theorem bracket_advances {selector : Selector} (reads : bracket steps k = .ok (selector, next)) :
    Ahead k next ∧ next.rest.length < k.rest.length := by
  refine ⟨(bracket_follows (steps_follows _) (Nat.le_succ _) reads).1, ?_⟩
  obtain ⟨⟨_, mid⟩, bodyRead, reads⟩ := bind_eq_ok.mp reads
  have front := (ahead_skipBlank k).trans
    (bracketBody_follows (steps_follows _) (Nat.le_succ _) bodyRead).1
  have back := (front.trans (ahead_skipBlank mid)).length_le
  simp only at reads
  split at reads
  · cases reads
  · next rest closes =>
      cases reads
      rw [closes, List.length_cons] at back
      rw [rest_advance closes]
      omega
  · cases reads

/-- A step takes at least one character. -/
theorem step_advances {first : Chain} (reads : step steps k = .ok (some (first, next))) :
    Ahead k next ∧ next.rest.length < k.rest.length := by
  obtain ⟨ahead, shorter, -⟩ := step_follows (steps_follows _) (Nat.le_succ _) reads
  exact ⟨ahead, shorter⟩

/-!
### Paths inside a filter

The reader of a step takes the reader of the paths inside a filter as an argument, and asks it only at
places with less text behind them.  So what it gives is the same for every reader that agrees with
`steps` at these places.
-/

/-- A reader of paths does the same as `steps` at all later places. -/
def AgreesBehind (k : Cursor) (other : Reads Chain) : Prop :=
  ∀ j, Ahead k j → j.rest.length < k.rest.length → other j = steps j

/-- Readers that agree behind a place agree behind every later one. -/
theorem AgreesBehind.mono {other : Reads Chain} {mid : Cursor} (agrees : AgreesBehind k other)
    (ahead : Ahead k mid) : AgreesBehind mid other :=
  fun j behind shorter => agrees j (ahead.trans behind) (shorter.trans_le ahead.length_le)

section Congruence

variable {other : Reads Chain} (agrees : AgreesBehind k other)

include agrees

theorem operand_congr : operand other k = operand steps k := by
  cases front : k.rest with
  | nil => simp only [operand, front]
  | cons c text =>
      have inside := agrees (k.advance 1) (ahead_next front) (shorter_next front)
      simp only [operand, front, inside]

/-- Both sides of a comparison lie ahead, the second behind the sign. -/
theorem test_congr : test other k = test steps k := by
  have sameSide := operand_congr agrees
  cases leftRead : operand steps k with
  | error fault => rw [test, test, sameSide, leftRead]; rfl
  | ok read =>
      obtain ⟨side, mid⟩ := read
      have otherRead := sameSide.trans leftRead
      by_cases closes : ∃ more, mid.skipBlank.rest = ')' :: more
      · obtain ⟨more, closes⟩ := closes
        cases side with
        | current path => rw [test_of_closed otherRead closes, test_of_closed leftRead closes]
        | literal value => rw [test_of_literal otherRead closes, test_of_literal leftRead closes]
      · rw [not_exists] at closes
        rw [test_of_open otherRead closes, test_of_open leftRead closes]
        cases signRead : comparison mid.skipBlank with
        | error fault => rfl
        | ok sign =>
            obtain ⟨op, behind⟩ := sign
            have before := (operand_advances leftRead).1.trans ((ahead_skipBlank mid).trans
              ((comparison_follows signRead).1.trans (ahead_skipBlank behind)))
            simp only [Except.bind, operand_congr (agrees.mono before)]

theorem filter_congr : filter other k = filter steps k := by
  rw [filter, filter]
  cases openRead : expect '(' k.skipBlank with
  | error fault => rfl
  | ok inside =>
      have before := (ahead_skipBlank k).trans
        ((expect_advances openRead).1.trans (ahead_skipBlank inside))
      simp only [bind, Except.bind, test_congr (agrees.mono before)]

private theorem bracketBody_congr : bracketBody other k = bracketBody steps k := by
  cases front : k.rest with
  | nil => simp only [bracketBody, front]
  | cons c text =>
      have inside := filter_congr (agrees.mono (ahead_next front))
      simp only [bracketBody, front, inside]

theorem bracket_congr : bracket other k = bracket steps k := by
  rw [bracket, bracket, bracketBody_congr (agrees.mono (ahead_skipBlank k))]

/-- What comes of a step is the same for all readers that agree behind it. -/
theorem step_congr : step other k = step steps k := by
  rw [step, step]
  split
  · rfl
  · rfl
  · rfl
  · rfl
  · next text front =>
      rw [bracket_congr (agrees.mono (ahead_next front))]
  · rfl

end Congruence

/-!
### Fuel
-/

/-- What comes of a path is what comes of its first step and of the path behind it. -/
def afterStep (path : Reads Chain) (k : Cursor) :
    Option (Chain × Cursor) → Except Fault (Chain × Cursor)
  | none => .ok ([], k)
  | some (first, mid) => (path mid).map fun more => (first ++ more.1, more.2)

private theorem chain_succ (fuel : Nat) (k : Cursor) :
    chain (fuel + 1) k = (step (chain fuel) k).bind (afterStep (chain fuel) k) := by
  rw [chain]
  cases step (chain fuel) k with
  | error fault => rfl
  | ok stepped =>
      cases stepped with
      | none => rfl
      | some stepped =>
          obtain ⟨first, mid⟩ := stepped
          cases more : chain fuel mid <;> simp only [bind, Except.bind, afterStep, more, Except.map]

/-- One unit of fuel is spent on a step, and the rest of it is enough if it is enough behind. -/
theorem chain_succ_of_agrees {fuel : Nat} (agrees : AgreesBehind k (chain fuel)) :
    chain (fuel + 1) k = (step steps k).bind (afterStep steps k) := by
  rw [chain_succ, step_congr agrees]
  cases stepRead : step steps k with
  | error fault => rfl
  | ok stepped =>
      cases stepped with
      | none => rfl
      | some stepped =>
          obtain ⟨first, mid⟩ := stepped
          obtain ⟨ahead, shorter⟩ := step_advances stepRead
          simp only [Except.bind, afterStep, agrees mid ahead shorter]

/-- As many steps as there are characters left are enough, whatever more is allowed.  By induction on
the fuel: a step leaves less to read, both inside it and behind it. -/
theorem chain_eq_steps {fuel : Nat} (enough : k.rest.length ≤ fuel) : chain fuel k = steps k := by
  induction fuel using Nat.strong_induction_on generalizing k with
  | _ fuel ih =>
      cases left : k.rest.length with
      | zero =>
          have nothing : k.rest = [] := List.length_eq_zero_iff.mp left
          have noStep : ∀ path, step path k = .ok none := fun path => by simp only [step, nothing]
          rw [steps, chain_of_step_none noStep, chain_of_step_none noStep]
      | succ fewer =>
          obtain ⟨fuel, rfl⟩ : ∃ less, fuel = less + 1 := ⟨fuel - 1, by omega⟩
          have agrees : ∀ less, fewer ≤ less → less ≤ fuel → AgreesBehind k (chain less) :=
            fun less _ _ j _ shorter => ih less (by omega) (by omega)
          -- Each side spends one unit on the first step, and what it has left is enough behind it.
          rw [steps, left, chain_succ_of_agrees (agrees fuel (by omega) le_rfl),
            chain_succ_of_agrees (agrees fewer le_rfl (by omega))]

/-- Reading all steps needs no fuel: a path is its first step and the path behind it, for as long as
there is a step. -/
theorem steps_eq (k : Cursor) : steps k = (step steps k).bind (afterStep steps k) := by
  rw [← chain_eq_steps (Nat.le_succ _)]
  exact chain_succ_of_agrees fun j _ shorter => chain_eq_steps shorter.le

/-- As many further names as there are characters left are enough as well. -/
theorem moreNames_eq {fuel more : Nat} (enough : k.rest.length ≤ fuel) (larger : fuel ≤ more) :
    moreNames fuel k = moreNames more k := by
  induction fuel generalizing more k with
  | zero =>
      obtain ⟨position, text⟩ := k
      obtain rfl : text = [] := List.length_eq_zero_iff.mp (Nat.le_zero.mp enough)
      cases more with
      | zero => rfl
      | succ more =>
          have noComma : ∀ after, (⟨position, []⟩ : Cursor).skipBlank.rest ≠ ',' :: after := nofun
          exact (moreNames_of_no_comma noComma more).symm
  | succ fuel ih =>
      obtain ⟨more, rfl⟩ : ∃ less, more = less + 1 := ⟨more - 1, by omega⟩
      by_cases comma : ∃ after, k.skipBlank.rest = ',' :: after
      · obtain ⟨after, comma⟩ := comma
        rw [moreNames_of_comma comma, moreNames_of_comma comma]
        cases quotedRead : quoted (k.skipBlank.advance 1).skipBlank with
        | error fault => rfl
        | ok read =>
            obtain ⟨name, mid⟩ := read
            have passed := (ahead_next comma).trans (ahead_skipBlank _)
            have shorter := (quoted_advances quotedRead).2
            have before := ((ahead_skipBlank k).trans passed).length_le
            simp only [Except.bind, ih (by omega : mid.rest.length ≤ fuel) (by omega : fuel ≤ more)]
      · rw [not_exists] at comma
        rw [moreNames_of_no_comma comma, moreNames_of_no_comma comma]

/-!
### Loops and nesting
-/

/-- Reading the steps of a path at one place goes on to read steps at another place: behind the first
step, or inside it.  It goes on inside where a change of the reader of inner paths, at this one place,
can change what comes of the step. -/
inductive Calls : Cursor → Cursor → Prop where
  | behind {k mid : Cursor} {first : Chain} (reads : step steps k = .ok (some (first, mid))) :
      Calls k mid
  | inside {k j : Cursor} {other : Reads Chain} (same : ∀ i, i ≠ j → other i = steps i)
      (matters : step other k ≠ step steps k) : Calls k j

/-- Steps are read again only further on in the text. -/
theorem Calls.advances {j : Cursor} (calls : Calls k j) :
    Ahead k j ∧ j.rest.length < k.rest.length := by
  cases calls with
  | behind reads => exact step_advances reads
  | inside same matters =>
      by_contra notLater
      refine matters (step_congr fun i ahead shorter => same i ?_)
      rintro rfl
      exact notLater ⟨ahead, shorter⟩

/-- However steps follow on steps and nest in steps, there are at most as many of them, one inside or
behind the other, as there are characters left. -/
theorem length_of_calls {places : List Cursor} (calls : List.IsChain Calls (k :: places)) :
    places.length ≤ k.rest.length := by
  induction places generalizing k with
  | nil => exact Nat.zero_le _
  | cons j places ih =>
      obtain ⟨first, others⟩ := List.isChain_cons_cons.mp calls
      exact Nat.succ_le_of_lt ((ih others).trans_lt first.advances.2)

/-!
### All readers
-/

/-- A reader that starts in a text and succeeds ends in the text, and not before it started. -/
def StaysIn {α : Type} (text : List Char) (reader : Reads α) : Prop :=
  ∀ {k next : Cursor} {value : α}, Within text k → reader k = .ok (value, next) →
    Within text next ∧ k.position ≤ next.position

/-- A reader that starts in a text and succeeds ends in the text, behind where it started. -/
def AdvancesIn {α : Type} (text : List Char) (reader : Reads α) : Prop :=
  ∀ {k next : Cursor} {value : α}, Within text k → reader k = .ok (value, next) →
    Within text next ∧ k.position < next.position

/-- How a text bounds the readers of a path in it. -/
structure Bounded (text : List Char) : Prop where
  root_within : Within text (root (start text))
  blank_stays {k : Cursor} (within : Within text k) :
    Within text k.skipBlank ∧ k.position ≤ k.skipBlank.position
  expect_advances {wanted : Char} {k next : Cursor} (within : Within text k)
    (reads : expect wanted k = .ok next) : Within text next ∧ k.position < next.position
  steps_stay : StaysIn text steps
  positions_stay : StaysIn text indexOrSlice
  comparison_stays : StaysIn text comparison
  number_stays : StaysIn text number
  name_advances : AdvancesIn text name
  quoted_advances : AdvancesIn text quoted
  bracket_advances : AdvancesIn text (bracket steps)
  operand_advances : AdvancesIn text (operand steps)
  filter_advances : AdvancesIn text (filter steps)
  /-- Every further step, behind a step or inside it, has less to read. -/
  calls_shorten {k j : Cursor} (within : Within text k) (calls : Calls k j) :
    Within text j ∧ j.rest.length < k.rest.length
  /-- Steps nest and follow one another at most as often as there are characters. -/
  calls_bounded {k : Cursor} {places : List Cursor} (within : Within text k)
    (calls : List.IsChain Calls (k :: places)) : places.length ≤ text.length
  /-- The steps are read as they are without any fuel. -/
  steps_unfold (k : Cursor) : steps k = (step steps k).bind (afterStep steps k)
  /-- Fuel for each character that is left is not used up: more of it changes nothing. -/
  fuel_suffices {fuel : Nat} {k : Cursor} (enough : k.rest.length ≤ fuel) :
    chain fuel k = steps k ∧ moreNames fuel k = moreNames k.rest.length k
  /-- What is left of the fuel inside a step and behind it is not used up either. -/
  fuel_inside {fuel : Nat} {k : Cursor} (enough : k.rest.length ≤ fuel + 1) :
    step (chain fuel) k = step steps k
  /-- An index or a slice is cut out of the text, from where it starts to where the reader goes on. -/
  positions_slice {k : Cursor} (within : Within text k) :
    ∃ stop, k.position ≤ stop ∧ stop ≤ text.length ∧
      indexOrSlice k = (indexOrSliceOf (Text.trim (slice text k.position stop))).map
        fun selector => (selector, ⟨stop, text.drop stop⟩)
  /-- So is a number. -/
  number_slice {k : Cursor} (within : Within text k) :
    ∃ stop, k.position ≤ stop ∧ stop ≤ text.length ∧
      number k = (Decimal.read? (slice text k.position stop)).elim
        (.error (.badNumber (String.ofList (slice text k.position stop))))
        fun decimal => .ok (.number decimal.toBinary64, ⟨stop, text.drop stop⟩)

private theorem staysIn_of_ahead {α : Type} {reader : Reads α} {text : List Char}
    (moves : ∀ {k next : Cursor} {value : α}, reader k = .ok (value, next) → Ahead k next) :
    StaysIn text reader :=
  fun within reads => ⟨within.ahead (moves reads), (moves reads).position_le⟩

private theorem advancesIn_of_shorter {α : Type} {reader : Reads α} {text : List Char}
    (moves : ∀ {k next : Cursor} {value : α}, reader k = .ok (value, next) →
      Ahead k next ∧ next.rest.length < k.rest.length) :
    AdvancesIn text reader :=
  fun within reads => ⟨within.ahead (moves reads).1, (moves reads).1.position_lt (moves reads).2⟩

/-- Passing over what may stand before the first step moves ahead. -/
theorem ahead_root (k : Cursor) : Ahead k (root k) := by
  refine (ahead_skipBlank k).trans ?_
  rw [root]
  generalize k.skipBlank = k
  split
  · next text dot =>
      split at dot
      · next after dollar =>
          have passed := ahead_next dollar
          split
          · exact passed.trans (ahead_next dot)
          · exact passed
      · split
        · exact ahead_next dot
        · exact Ahead.refl _
  · split
    · next after dollar => exact ahead_next dollar
    · exact Ahead.refl _

private theorem number_ahead {value : Literal} (reads : number k = .ok (value, next)) :
    Ahead k next := by
  rw [number] at reads
  split at reads
  · cases reads
    exact ahead_skipWhile k _
  · cases reads

/-- Every text bounds the readers of a path in it: they stay in it, each step and each path inside a
filter has less to read than what it stands in or behind, and as much fuel as there are characters is
never used up. -/
theorem bounded (text : List Char) : Bounded text where
  root_within := (within_start text).ahead (ahead_root _)
  blank_stays within := ⟨within.ahead (ahead_skipBlank _), (ahead_skipBlank _).position_le⟩
  expect_advances within reads :=
    have moves := expect_advances reads
    ⟨within.ahead moves.1, moves.1.position_lt moves.2⟩
  steps_stay := staysIn_of_ahead fun reads => (steps_follows _ le_rfl reads).1
  positions_stay := staysIn_of_ahead fun reads => (indexOrSlice_follows _ le_rfl reads).1
  comparison_stays := staysIn_of_ahead fun reads => (comparison_follows reads).1
  number_stays := staysIn_of_ahead number_ahead
  name_advances := advancesIn_of_shorter name_advances
  quoted_advances := advancesIn_of_shorter quoted_advances
  bracket_advances := advancesIn_of_shorter bracket_advances
  operand_advances := advancesIn_of_shorter operand_advances
  filter_advances := advancesIn_of_shorter filter_advances
  calls_shorten within calls := ⟨within.ahead calls.advances.1, calls.advances.2⟩
  calls_bounded within calls := by
    have total := within.total
    have bound := length_of_calls calls
    omega
  steps_unfold := steps_eq
  fuel_suffices enough := ⟨chain_eq_steps enough, (moreNames_eq le_rfl enough).symm⟩
  fuel_inside enough := step_congr fun j _ shorter => chain_eq_steps (by omega)
  positions_slice within := by
    obtain ⟨stop, starts, ends, cut, goesOn⟩ := within.exists_slice (· != ']')
    refine ⟨stop, starts, ends, ?_⟩
    rw [indexOrSlice, cut, goesOn]
    rfl
  number_slice within := by
    obtain ⟨stop, starts, ends, cut, goesOn⟩ := within.exists_slice isNumberChar
    refine ⟨stop, starts, ends, ?_⟩
    rw [number, cut, goesOn]
    cases Decimal.read? (slice text _ stop) with
    | none => rfl
    | some decimal => rfl

/-- A filter asks for the path behind its at sign, which has four characters less to read. -/
theorem bounded_of_filter :
    let text := "[?(@.b)]".toList
    let inside : Cursor := ⟨4, ".b)]".toList⟩
    Calls (start text) inside ∧ Within text inside ∧ inside.rest.length < text.length ∧
      chain 20 (start text) = steps (start text) := by
  intro text inside
  let other : Reads Chain := fun k => if k = inside then .error .notAPath else steps k
  have same : ∀ k, k ≠ inside → other k = steps k := fun k different => if_neg different
  have refused : step other (start text) = .error .notAPath := rfl
  have accepted : step steps (start text) =
      .ok (some ([.filter (.present [.field "b"])], ⟨8, []⟩)) := rfl
  have calls : Calls (start text) inside := by
    refine .inside same ?_
    rw [refused, accepted]
    nofun
  obtain ⟨within, shorter⟩ := (bounded text).calls_shorten (within_start text) calls
  have enough : (start text).rest.length ≤ 20 := by decide
  exact ⟨calls, within, shorter, ((bounded text).fuel_suffices enough).1⟩

end Reader

end WaitFor
