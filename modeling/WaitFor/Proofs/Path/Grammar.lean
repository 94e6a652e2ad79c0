/-
Module: WaitFor.Proofs.Path.Grammar
Purpose: Everything that a successful reading of a path can have passed over.
Main exports:
  Grammar.Quoted, Grammar.MoreNames, Grammar.Constant, Grammar.AfterDot, Grammar.Inside,
  Grammar.Tested, Grammar.Side, Grammar.Steps, Cursor.Ahead, Reader.Follows,
  Reader.indexOrSliceOf_cases, Reader.chain_follows, Reader.steps_of_inner
-/
import Mathlib
import WaitFor.Path.Reader

namespace WaitFor

namespace Grammar

/-!
### What is passed over

Each relation holds between a text, what is read from its front, and the text that is left.  There is
one rule for each way in which a reader can succeed, so that what is true of all accepted paths is an
induction over rules and does not look into the readers again.  White space is passed over exactly
where the readers do so.
-/

/-- What follows the white space at the front of a text. -/
def behindBlank (text : List Char) : List Char := text.dropWhile Text.isBlank

/-- A text in quotes. -/
inductive Quoted : List Char → String → List Char → Prop where
  | quoted {quote : Char} {body content rest : List Char}
      (isQuote : Reader.isQuote quote = true)
      (inside : Reader.quotedBody quote body = some (content, rest)) :
      Quoted (quote :: body) (String.ofList content) rest

/-- Names in quotes, each behind a comma, and the white space behind the last one. -/
inductive MoreNames : List Char → List String → List Char → Prop where
  | done (text : List Char) : MoreNames text [] (behindBlank text)
  | more {text after mid rest : List Char} {name : String} {names : List String}
      (comma : behindBlank text = ',' :: after) (first : Quoted (behindBlank after) name mid)
      (next : MoreNames mid names rest) : MoreNames text (name :: names) rest

/-- A constant: a text in quotes, a number or a word. -/
inductive Constant : List Char → Literal → List Char → Prop where
  | string {text rest : List Char} {content : String} (quoted : Quoted text content rest) :
      Constant text (.string content) rest
  | number {first : Char} {text : List Char} {decimal : Decimal}
      (starts : first = '-' ∨ first.isDigit = true)
      (reads : Decimal.read? ((first :: text).takeWhile Reader.isNumberChar) = some decimal) :
      Constant (first :: text) (.number decimal.toBinary64)
        ((first :: text).dropWhile Reader.isNumberChar)
  | word {word : String} {value : Literal} (known : (word, value) ∈ Reader.keywords)
      (rest : List Char) : Constant (word.toList ++ rest) value rest

/-- What stands behind a dot: an asterisk or a name. -/
inductive AfterDot : List Char → Selector → List Char → Prop where
  | wildcard (rest : List Char) : AfterDot ('*' :: rest) .wildcard rest
  | field {text name rest : List Char} (reads : Reader.nameBody text = .ok (name, rest))
      (nonempty : name ≠ []) : AfterDot text (.field (String.ofList name)) rest

mutual

/-- What stands between brackets, without the white space at both ends. -/
inductive Inside : List Char → Selector → List Char → Prop where
  | wildcard (rest : List Char) : Inside ('*' :: rest) .wildcard rest
  | filter {text after mid rest : List Char} {test : Test}
      (opens : behindBlank text = '(' :: after) (body : Tested (behindBlank after) test mid)
      (closes : behindBlank mid = ')' :: rest) : Inside ('?' :: text) (.filter test) rest
  | names {text mid rest : List Char} {name : String} {names : List String}
      (first : Quoted text name mid) (others : MoreNames mid names rest) :
      Inside text (if names.isEmpty then .field name else .union (name :: names)) rest
  | positions {text : List Char} {selector : Selector}
      (reads : Reader.indexOrSliceOf (Text.trim (text.takeWhile (· != ']'))) = .ok selector) :
      Inside text selector (text.dropWhile (· != ']'))

/-- What stands between the parentheses of a filter.  A path alone is known by the parenthesis that
follows it. -/
inductive Tested : List Char → Test → List Char → Prop where
  | present {text mid more : List Char} {path : List Selector} (side : Side text (.current path) mid)
      (closes : behindBlank mid = ')' :: more) : Tested text (.present path) (')' :: more)
  | compare {text mid more rest : List Char} {left right : Operand} {op : Comparison}
      (first : Side text left mid) (sign : behindBlank mid = op.text.toList ++ more)
      (second : Side (behindBlank more) right rest) : Tested text (.compare left op right) rest

/-- One side of a comparison. -/
inductive Side : List Char → Operand → List Char → Prop where
  | current {text rest : List Char} {path : List Selector} (steps : Steps text path rest) :
      Side ('@' :: text) (.current path) rest
  | literal {text rest : List Char} {value : Literal} (constant : Constant text value rest) :
      Side text (.literal value) rest

/-- The steps of a chain, as many as there are.  Two dots are a step of their own where a bracket
follows and where the whole text ends. -/
inductive Steps : List Char → List Selector → List Char → Prop where
  | done {text : List Char} (ends : ∀ c ∈ text.head?, c ≠ '.' ∧ c ≠ '[') : Steps text [] text
  | dot {text mid rest : List Char} {selector : Selector} {more : List Selector}
      (first : AfterDot text selector mid) (next : Steps mid more rest) :
      Steps ('.' :: text) (selector :: more) rest
  | dots {text mid rest : List Char} {selector : Selector} {more : List Selector}
      (first : AfterDot text selector mid) (next : Steps mid more rest) :
      Steps ('.' :: '.' :: text) (.descent :: selector :: more) rest
  | bareDots {text rest : List Char} {more : List Selector}
      (alone : text = [] ∨ ∃ after, text = '[' :: after) (next : Steps text more rest) :
      Steps ('.' :: '.' :: text) (.descent :: more) rest
  | bracket {text mid after rest : List Char} {selector : Selector} {more : List Selector}
      (inside : Inside (behindBlank text) selector mid) (closes : behindBlank mid = ']' :: after)
      (next : Steps after more rest) : Steps ('[' :: text) (selector :: more) rest

end

end Grammar

/-!
### Cursors that move ahead
-/

namespace Cursor

/-- The second place lies behind the first one, or is the same, in one text. -/
structure Ahead (k next : Cursor) : Prop where
  total : next.position + next.rest.length = k.position + k.rest.length
  suffix : next.rest <:+ k.rest

theorem Ahead.refl (k : Cursor) : Ahead k k := ⟨rfl, List.suffix_rfl⟩

theorem Ahead.trans {k mid next : Cursor} (first : Ahead k mid) (second : Ahead mid next) :
    Ahead k next :=
  ⟨second.total.trans first.total, second.suffix.trans first.suffix⟩

theorem Ahead.length_le {k next : Cursor} (ahead : Ahead k next) :
    next.rest.length ≤ k.rest.length := ahead.suffix.length_le

/-- Passing over characters that are there moves ahead. -/
theorem ahead_advance {k : Cursor} (count : Nat) (enough : count ≤ k.rest.length) :
    Ahead k (k.advance count) := by
  refine ⟨?_, List.drop_suffix _ _⟩
  simp only [advance, List.length_drop]
  omega

/-- Moving to what follows moves ahead. -/
private theorem ahead_moveTo {k : Cursor} {rest : List Char} (suffix : rest <:+ k.rest) :
    Ahead k (k.moveTo rest) := by
  refine ⟨?_, suffix⟩
  have shorter := suffix.length_le
  simp only [moveTo]
  omega

/-- Passing over characters of a kind moves ahead. -/
theorem ahead_skipWhile (k : Cursor) (p : Char → Bool) : Ahead k (k.skipWhile p) :=
  ahead_moveTo (List.dropWhile_suffix p)

theorem ahead_skipBlank (k : Cursor) : Ahead k k.skipBlank := ahead_skipWhile k Text.isBlank

theorem rest_advance {k : Cursor} {c : Char} {text : List Char} (front : k.rest = c :: text) :
    (k.advance 1).rest = text := by
  simp [advance, front]

theorem rest_skipBlank (k : Cursor) : k.skipBlank.rest = Grammar.behindBlank k.rest := rfl

end Cursor

namespace Reader

open Grammar Cursor

/-- A reader that succeeds on at most a given number of characters has moved ahead over a text that a
relation describes. -/
def Follows {α : Type} (size : Nat) (reader : Reads α)
    (relation : List Char → α → List Char → Prop) : Prop :=
  ∀ {k next : Cursor} {value : α}, k.rest.length ≤ size → reader k = .ok (value, next) →
    Ahead k next ∧ relation k.rest value next.rest

/-- What is done after a result was done with a result. -/
theorem bind_eq_ok {α β : Type} {first : Except Fault α} {then_ : α → Except Fault β} {result : β} :
    first >>= then_ = .ok result ↔ ∃ value, first = .ok value ∧ then_ value = .ok result := by
  cases first with
  | error fault => simp [bind, Except.bind]
  | ok value => simp [bind, Except.bind]

/-- A reader that starts behind known characters moves ahead of where these start. -/
private theorem follows_behind {α : Type} {size : Nat} {reader : Reads α}
    {relation : List Char → α → List Char → Prop} (follows : Follows size reader relation)
    {k mid : Cursor} {value : α} (front : List Char) {text : List Char}
    (same : k.rest = front ++ text) (small : k.rest.length ≤ size)
    (reads : reader (k.advance front.length) = .ok (value, mid)) :
    Ahead k mid ∧ (front ≠ [] → mid.rest.length < text.length + front.length) ∧
      relation text value mid.rest := by
  have passed := ahead_advance (k := k) front.length (by simp [same])
  obtain ⟨ahead, holds⟩ := follows (passed.length_le.trans small) reads
  have left : (k.advance front.length).rest = text := by simp [advance, same]
  have shorter := ahead.length_le
  rw [left] at holds shorter
  refine ⟨passed.trans ahead, fun nonempty => ?_, holds⟩
  have positive := List.length_pos_of_ne_nil nonempty
  omega

/-!
### Names and texts in quotes
-/

/-- A name leaves an end of the text. -/
private theorem suffix_of_nameBody {text name rest : List Char}
    (reads : nameBody text = .ok (name, rest)) :
    rest <:+ text := by
  fun_induction nameBody text generalizing name rest with
  | case1 =>
      cases reads
      exact List.suffix_rfl
  | case2 => cases reads
  | case3 c text ih =>
      obtain ⟨⟨inner, after⟩, body, same⟩ := bind_eq_ok.mp reads
      cases same
      exact ((ih body).trans (List.suffix_cons _ _)).trans (List.suffix_cons _ _)
  | case4 c text _ _ isName ih =>
      obtain ⟨⟨inner, after⟩, body, same⟩ := bind_eq_ok.mp reads
      cases same
      exact (ih body).trans (List.suffix_cons _ _)
  | case5 =>
      cases reads
      exact List.suffix_rfl

/-- A text in quotes leaves an end of the text. -/
theorem suffix_of_quotedBody {quote : Char} {text content rest : List Char}
    (reads : quotedBody quote text = some (content, rest)) : rest <:+ text := by
  fun_induction quotedBody quote text generalizing content rest with
  | case1 => cases reads
  | case2 => cases reads
  | case3 c text ih =>
      obtain ⟨⟨inner, after⟩, body, same⟩ := Option.map_eq_some_iff.mp reads
      cases same
      exact ((ih body).trans (List.suffix_cons _ _)).trans (List.suffix_cons _ _)
  | case4 text =>
      cases reads
      exact List.suffix_cons _ _
  | case5 c text _ _ inside ih =>
      obtain ⟨⟨inner, after⟩, body, same⟩ := Option.map_eq_some_iff.mp reads
      cases same
      exact (ih body).trans (List.suffix_cons _ _)

/-- A text in quotes is read as the rules write it. -/
theorem quoted_follows (size : Nat) : Follows size quoted Quoted := by
  intro k next text _ reads
  rw [quoted.eq_def] at reads
  split at reads
  · cases reads
  · next quote body same =>
      split at reads
      · next isQuote =>
          split at reads
          · next content rest inside =>
              cases reads
              rw [same]
              refine ⟨ahead_moveTo ?_, .quoted isQuote inside⟩
              rw [same]
              exact (suffix_of_quotedBody inside).trans (List.suffix_cons _ _)
          · cases reads
      · cases reads

/-- A name is read as the rules write it behind a dot. -/
theorem name_follows (size : Nat) : Follows size name fun text value rest =>
    AfterDot text (.field value) rest := by
  intro k next value _ reads
  obtain ⟨⟨body, rest⟩, inside, named⟩ := bind_eq_ok.mp reads
  dsimp only at named
  split at named
  · cases named
  · next nonempty =>
      cases named
      exact ⟨ahead_moveTo (suffix_of_nameBody inside), .field inside (by simpa using nonempty)⟩

theorem afterDot_follows (size : Nat) : Follows size afterDot AfterDot := by
  intro k next selector small reads
  rw [afterDot] at reads
  split at reads
  · next rest same =>
      cases reads
      refine ⟨ahead_advance _ (by simp [same]), ?_⟩
      rw [rest_advance same, same]
      exact .wildcard rest
  · obtain ⟨⟨value, mid⟩, named, same⟩ := bind_eq_ok.mp reads
    cases same
    exact name_follows size small named

/-- The fuel never runs out, because each name takes more than one character. -/
theorem moreNames_follows (fuel : Nat) : Follows fuel (moreNames fuel) MoreNames := by
  induction fuel with
  | zero =>
      intro k next names small reads
      cases reads
      have nothing : k.rest = [] := List.length_eq_zero_iff.mp (by omega)
      rw [nothing]
      exact ⟨Ahead.refl k, .done []⟩
  | succ fuel ih =>
      intro k next names small reads
      have blank := ahead_skipBlank k
      rw [moreNames] at reads
      split at reads
      · next after comma =>
          obtain ⟨⟨first, mid⟩, quotedRead, reads⟩ := bind_eq_ok.mp reads
          obtain ⟨⟨others, last⟩, othersRead, same⟩ := bind_eq_ok.mp reads
          cases same
          have passed := ahead_advance (k := k.skipBlank) 1 (by simp [comma])
          have shorter : (k.skipBlank.advance 1).rest.length ≤ fuel := by
            have front := blank.length_le
            simp only [advance, List.length_drop]
            omega
          have unblank := ahead_skipBlank (k.skipBlank.advance 1)
          obtain ⟨quotedAhead, isQuoted⟩ := quoted_follows fuel
            (unblank.length_le.trans shorter) quotedRead
          have front := passed.trans (unblank.trans quotedAhead)
          obtain ⟨othersAhead, areNames⟩ := ih
            ((unblank.trans quotedAhead).length_le.trans shorter) othersRead
          rw [rest_skipBlank, rest_advance comma] at isQuoted
          exact ⟨blank.trans (front.trans othersAhead), .more comma isQuoted areNames⟩
      · cases reads
        exact ⟨blank, .done k.rest⟩

theorem names_follows (size : Nat) : Follows size names Inside := by
  intro k next selector small reads
  obtain ⟨⟨first, mid⟩, quotedRead, reads⟩ := bind_eq_ok.mp reads
  obtain ⟨⟨others, last⟩, othersRead, same⟩ := bind_eq_ok.mp reads
  cases same
  obtain ⟨quotedAhead, isQuoted⟩ := quoted_follows size small quotedRead
  obtain ⟨othersAhead, areNames⟩ := moreNames_follows _ le_rfl othersRead
  exact ⟨quotedAhead.trans othersAhead, .names isQuoted areNames⟩

/-- Everything up to the closing bracket is read as an index or a slice. -/
theorem indexOrSlice_follows (size : Nat) : Follows size indexOrSlice Inside := by
  intro k next selector _ reads
  obtain ⟨found, positions, same⟩ := bind_eq_ok.mp reads
  cases same
  exact ⟨ahead_skipWhile k _, .positions positions⟩

/-- If a function has a value at each item of a list, these are the values. -/
private theorem mem_of_mapM {α β : Type} {f : α → Option β} {list : List α} {values : List β}
    (all : list.mapM f = some values) :
    (∀ x ∈ list, ∃ y, f x = some y) ∧ ∀ y ∈ values, ∃ x, f x = some y := by
  induction list generalizing values with
  | nil =>
      cases all
      simp
  | cons x list ih =>
      simp only [List.mapM_cons, Option.bind_eq_bind, Option.bind_eq_some_iff] at all
      obtain ⟨y, first, ys, rest, same⟩ := all
      cases same
      rw [List.forall_mem_cons, List.forall_mem_cons]
      exact ⟨⟨⟨y, first⟩, (ih rest).1⟩, ⟨x, first⟩, (ih rest).2⟩

/-- An index is one integer, and a slice has a bound or nothing in each part between colons. -/
theorem indexOrSliceOf_cases {text : List Char} {selector : Selector}
    (reads : indexOrSliceOf text = .ok selector) :
    (∃ position, selector = .index position ∧ integer? text = some position) ∨
      ∃ start stop step, selector = .slice start stop step ∧
        (∀ part ∈ Text.splitAtEach ':' text, ∃ bound, bound? part = some bound) ∧
        ∀ bound ∈ [start, stop, step], bound = none ∨ ∃ part, bound? part = some bound := by
  rw [indexOrSliceOf] at reads
  split at reads
  · split at reads
    · next position isInteger =>
        cases reads
        exact Or.inl ⟨position, rfl, isInteger⟩
    · cases reads
  · dsimp only at reads
    split at reads
    · next start stop areBounds =>
        cases reads
        obtain ⟨parts, bounds⟩ := mem_of_mapM areBounds
        refine Or.inr ⟨start, stop, none, rfl, parts, ?_⟩
        rw [List.forall_mem_cons, List.forall_mem_cons, List.forall_mem_singleton]
        exact ⟨Or.inr (bounds start (by simp)), Or.inr (bounds stop (by simp)), Or.inl rfl⟩
    · next start stop step areBounds =>
        cases reads
        obtain ⟨parts, bounds⟩ := mem_of_mapM areBounds
        exact Or.inr ⟨start, stop, step, rfl, parts, fun bound member => Or.inr (bounds bound member)⟩
    · cases reads

/-!
### Filters

The reader of the paths inside a filter is an argument, and these lemmas suppose that it follows the
grammar on fewer characters than the filter has.
-/

/-- A number is a constant, as far as the characters of numbers go. -/
private theorem number_follows {k next : Cursor} {value : Literal}
    (reads : number k = .ok (value, next)) {first : Char} {text : List Char}
    (same : k.rest = first :: text) (starts : first = '-' ∨ first.isDigit = true) :
    Ahead k next ∧ Constant k.rest value next.rest := by
  rw [number] at reads
  split at reads
  · next decimal decimalRead =>
      cases reads
      refine ⟨ahead_skipWhile k _, ?_⟩
      rw [skipWhile, moveTo, same]
      rw [same] at decimalRead
      exact .number starts decimalRead
  · cases reads

private theorem keyword_follows {k next : Cursor} {value : Literal} {first : Char}
    (reads : keyword k first = .ok (value, next)) :
    Ahead k next ∧ Constant k.rest value next.rest := by
  rw [keyword] at reads
  split at reads
  · next word constant found =>
      cases reads
      have known := List.mem_of_find?_eq_some found
      have isFront : word.toList.isPrefixOf k.rest = true := by
        have holds := List.find?_some found
        exact holds
      obtain ⟨rest, spelled⟩ := List.isPrefixOf_iff_prefix.mp isFront
      rw [← String.length_toList]
      refine ⟨ahead_advance _ (by simp [← spelled]), ?_⟩
      have left : (k.advance word.toList.length).rest = rest := by simp [advance, ← spelled]
      rw [left, ← spelled]
      exact .word known rest
  · cases reads

variable {path : Reads Chain} {size : Nat}

/-- A side of a comparison is a constant or a path, which is read with the fuel for paths. -/
theorem operand_follows (paths : Follows size path Steps) :
    Follows (size + 1) (operand path) Side := by
  intro k next side small reads
  rw [operand] at reads
  split at reads
  · cases reads
  · next c text same =>
      have shorter : (k.advance 1).rest.length ≤ size := by
        simp only [advance, List.length_drop]
        omega
      split at reads
      · next isPath =>
          obtain ⟨⟨steps, mid⟩, pathRead, same'⟩ := bind_eq_ok.mp reads
          cases same'
          obtain ⟨pathAhead, areSteps⟩ := paths shorter pathRead
          refine ⟨(ahead_advance _ (by simp [same])).trans pathAhead, ?_⟩
          rw [rest_advance same] at areSteps
          rw [same, isPath]
          exact .current areSteps
      · split at reads
        · obtain ⟨⟨content, mid⟩, quotedRead, same'⟩ := bind_eq_ok.mp reads
          cases same'
          obtain ⟨quotedAhead, isQuoted⟩ := quoted_follows (size + 1) small quotedRead
          exact ⟨quotedAhead, .literal (.string isQuoted)⟩
        · split at reads
          · next numeric =>
              obtain ⟨⟨value, mid⟩, numberRead, same'⟩ := bind_eq_ok.mp reads
              cases same'
              obtain ⟨ahead, constant⟩ := number_follows numberRead same (by simpa using numeric)
              exact ⟨ahead, .literal constant⟩
          · obtain ⟨⟨value, mid⟩, wordRead, same'⟩ := bind_eq_ok.mp reads
            cases same'
            obtain ⟨ahead, constant⟩ := keyword_follows wordRead
            exact ⟨ahead, .literal constant⟩

/-- A comparison is read as its sign. -/
theorem comparison_follows {k next : Cursor} {op : Comparison}
    (reads : comparison k = .ok (op, next)) :
    Ahead k next ∧ k.rest = op.text.toList ++ next.rest := by
  rw [comparison] at reads
  split at reads
  · next found =>
      cases reads
      have isFront : op.text.toList.isPrefixOf k.rest = true :=
        List.find?_some (p := fun op : Comparison => op.text.toList.isPrefixOf k.rest) found
      obtain ⟨rest, spelled⟩ := List.isPrefixOf_iff_prefix.mp isFront
      rw [← String.length_toList]
      refine ⟨ahead_advance _ (by simp [← spelled]), ?_⟩
      simp [advance, ← spelled]
  · cases reads

/-- A test is a path, or two sides with a comparison between them. -/
theorem test_follows (paths : Follows size path Steps) :
    Follows (size + 1) (test path) Tested := by
  intro k next t small reads
  obtain ⟨⟨left, mid⟩, leftRead, reads⟩ := bind_eq_ok.mp reads
  obtain ⟨leftAhead, isLeft⟩ := operand_follows paths small leftRead
  have front := leftAhead.trans (ahead_skipBlank mid)
  simp only at reads
  split at reads
  · next closes =>
      cases reads
      rw [closes]
      exact ⟨front, .present isLeft closes⟩
  · cases reads
  · obtain ⟨⟨op, behind⟩, signRead, reads⟩ := bind_eq_ok.mp reads
    obtain ⟨⟨right, last⟩, rightRead, same⟩ := bind_eq_ok.mp reads
    cases same
    obtain ⟨signAhead, sign⟩ := comparison_follows signRead
    have before := front.trans (signAhead.trans (ahead_skipBlank behind))
    obtain ⟨rightAhead, isRight⟩ := operand_follows paths (before.length_le.trans small) rightRead
    exact ⟨before.trans rightAhead, .compare isLeft sign isRight⟩

theorem expect_follows {wanted : Char} {k next : Cursor} (reads : expect wanted k = .ok next) :
    Ahead k next ∧ k.rest = wanted :: next.rest := by
  rw [expect] at reads
  split at reads
  · cases reads
  · next found rest same =>
      split at reads
      · next isWanted =>
          cases reads
          refine ⟨ahead_advance _ (by simp [same]), ?_⟩
          rw [rest_advance same, same, isWanted]
      · cases reads

/-- A filter is a test in parentheses. -/
theorem filter_follows (paths : Follows size path Steps) :
    Follows (size + 1) (filter path) fun text t rest =>
      ∃ after mid, behindBlank text = '(' :: after ∧ Tested (behindBlank after) t mid ∧
        behindBlank mid = ')' :: rest := by
  intro k next t small reads
  obtain ⟨inside, openRead, reads⟩ := bind_eq_ok.mp reads
  obtain ⟨⟨_, mid⟩, testRead, reads⟩ := bind_eq_ok.mp reads
  obtain ⟨last, closeRead, same⟩ := bind_eq_ok.mp reads
  cases same
  obtain ⟨openAhead, opens⟩ := expect_follows openRead
  have front := (ahead_skipBlank k).trans (openAhead.trans (ahead_skipBlank inside))
  obtain ⟨testAhead, isTest⟩ := test_follows paths (front.length_le.trans small) testRead
  obtain ⟨closeAhead, closes⟩ := expect_follows closeRead
  have back := testAhead.trans ((ahead_skipBlank mid).trans closeAhead)
  exact ⟨front.trans back, inside.rest, mid.rest, opens, isTest, closes⟩

/-!
### Brackets, steps and chains
-/

/-- What stands between brackets is a wildcard, a filter, names or positions. -/
theorem bracketBody_follows (paths : Follows size path Steps) :
    Follows (size + 1) (bracketBody path) Inside := by
  intro k next selector small reads
  rw [bracketBody] at reads
  split at reads
  · cases reads
  · next c text same =>
      split at reads
      · next isAsterisk =>
          cases reads
          refine ⟨ahead_advance _ (by simp [same]), ?_⟩
          rw [rest_advance same, same, isAsterisk]
          exact .wildcard text
      · split at reads
        · next isQuestion =>
            obtain ⟨⟨t, mid⟩, filterRead, same'⟩ := bind_eq_ok.mp reads
            cases same'
            have passed := ahead_advance (k := k) 1 (by simp [same])
            obtain ⟨filterAhead, after, inner, opens, body, closes⟩ :=
              filter_follows paths (passed.length_le.trans small) filterRead
            refine ⟨passed.trans filterAhead, ?_⟩
            rw [rest_advance same] at opens
            rw [same, isQuestion]
            exact .filter opens body closes
        · split at reads
          · exact names_follows (size + 1) small reads
          · exact indexOrSlice_follows (size + 1) small reads

/-- A bracket is closed behind what it holds, up to white space. -/
theorem bracket_follows (paths : Follows size path Steps) :
    Follows (size + 1) (bracket path) fun text selector rest =>
      ∃ mid, Inside (behindBlank text) selector mid ∧ behindBlank mid = ']' :: rest := by
  intro k next selector small reads
  obtain ⟨⟨_, mid⟩, bodyRead, reads⟩ := bind_eq_ok.mp reads
  have front := ahead_skipBlank k
  obtain ⟨bodyAhead, inside⟩ := bracketBody_follows paths (front.length_le.trans small) bodyRead
  have back := bodyAhead.trans (ahead_skipBlank mid)
  simp only at reads
  split at reads
  · cases reads
  · next rest closes =>
      cases reads
      refine ⟨front.trans (back.trans (ahead_advance _ (by simp [closes]))), mid.rest, inside, ?_⟩
      rw [rest_advance closes]
      exact closes
  · cases reads

private theorem bareDots_follow {k : Cursor} {text : List Char} (same : k.rest = '.' :: '.' :: text)
    (alone : text = [] ∨ ∃ after, text = '[' :: after) :
    Ahead k (k.advance 2) ∧ (k.advance 2).rest.length < k.rest.length ∧
      ∀ {more : List Selector} {rest : List Char}, Steps (k.advance 2).rest more rest →
        Steps k.rest (Selector.descent :: more) rest := by
  have left : (k.advance 2).rest = text := by simp [advance, same]
  rw [left, same]
  exact ⟨ahead_advance 2 (by simp [same]), by simp, .bareDots alone⟩

/-- A step puts what it reads in front of the steps that follow, and takes at least one character. -/
theorem step_follows (paths : Follows size path Steps) {k mid : Cursor} {first : Chain}
    (small : k.rest.length ≤ size + 1) (reads : step path k = .ok (some (first, mid))) :
    Ahead k mid ∧ mid.rest.length < k.rest.length ∧
      ∀ {more : List Selector} {rest : List Char}, Steps mid.rest more rest →
        Steps k.rest (first ++ more) rest := by
  rw [step] at reads
  split at reads
  · next same =>
      cases reads
      exact bareDots_follow same (Or.inl rfl)
  · next after same =>
      cases reads
      exact bareDots_follow same (Or.inr ⟨after, rfl⟩)
  · next text _ _ same =>
      obtain ⟨⟨selector, last⟩, dotRead, same'⟩ := bind_eq_ok.mp reads
      cases same'
      obtain ⟨ahead, shorter, behind⟩ := follows_behind (afterDot_follows _) ['.', '.'] same small dotRead
      rw [same]
      exact ⟨ahead, shorter (by simp), .dots behind⟩
  · next text _ _ _ same =>
      obtain ⟨⟨selector, last⟩, dotRead, same'⟩ := bind_eq_ok.mp reads
      cases same'
      obtain ⟨ahead, shorter, behind⟩ := follows_behind (afterDot_follows _) ['.'] same small dotRead
      rw [same]
      exact ⟨ahead, shorter (by simp), .dot behind⟩
  · next text same =>
      obtain ⟨⟨selector, last⟩, bracketRead, same'⟩ := bind_eq_ok.mp reads
      cases same'
      obtain ⟨ahead, shorter, inner, inside, closes⟩ :=
        follows_behind (@bracket_follows path size paths) ['['] same small bracketRead
      rw [same]
      exact ⟨ahead, shorter (by simp), .bracket inside closes⟩
  · cases reads

/-- There is no step only where neither a dot nor a bracket follows. -/
theorem ends_of_step {k : Cursor} (reads : step path k = .ok none) :
    ∀ c ∈ k.rest.head?, c ≠ '.' ∧ c ≠ '[' := by
  rw [step] at reads
  split at reads
  · cases reads
  · cases reads
  · obtain ⟨_, _, impossible⟩ := bind_eq_ok.mp reads
    cases impossible
  · obtain ⟨_, _, impossible⟩ := bind_eq_ok.mp reads
    cases impossible
  · obtain ⟨_, _, impossible⟩ := bind_eq_ok.mp reads
    cases impossible
  · next noDot noBracket =>
      intro c front
      obtain ⟨text, same⟩ := List.head?_eq_some_iff.mp front
      refine ⟨?_, ?_⟩
      · rintro rfl
        exact noDot text same
      · rintro rfl
        exact noBracket text same

/-- A chain is read by the rules, and as far as they go.  By induction on the fuel: each step takes a
character, so what is left of the fuel is enough for the paths inside a step and for the steps behind
it. -/
theorem chain_follows (fuel : Nat) : Follows fuel (chain fuel) Steps := by
  induction fuel with
  | zero =>
      intro k next steps small reads
      cases reads
      have nothing : k.rest = [] := List.length_eq_zero_iff.mp (by omega)
      rw [nothing]
      exact ⟨Ahead.refl k, .done (by simp)⟩
  | succ fuel ih =>
      intro k next steps small reads
      obtain ⟨stepped, stepRead, reads⟩ := bind_eq_ok.mp reads
      cases stepped with
      | none =>
          cases reads
          exact ⟨Ahead.refl k, .done (ends_of_step stepRead)⟩
      | some stepped =>
          obtain ⟨first, mid⟩ := stepped
          obtain ⟨⟨more, last⟩, moreRead, same⟩ := bind_eq_ok.mp reads
          cases same
          obtain ⟨stepAhead, shorter, extend⟩ := step_follows ih small stepRead
          obtain ⟨moreAhead, areSteps⟩ := ih (by omega) moreRead
          exact ⟨stepAhead.trans moreAhead, extend areSteps⟩

/-- What an accepted text is: the front, the steps of a chain, and white space. -/
theorem steps_of_inner {text : List Char} {steps : Chain} (reads : inner text = .ok steps) :
    ∃ rest, Steps (root (Cursor.start text)).rest steps rest ∧ behindBlank rest = [] := by
  obtain ⟨⟨read, last⟩, chainRead, reads⟩ := bind_eq_ok.mp reads
  obtain ⟨-, areSteps⟩ := chain_follows _ le_rfl chainRead
  dsimp only at reads
  split at reads
  · next ends =>
      cases reads
      exact ⟨last.rest, areSteps, ends⟩
  · cases reads

end Reader

end WaitFor
