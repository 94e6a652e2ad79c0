/-
Module: WaitFor.Proofs.Path.FaultPositions
Purpose: The position that the message of a fault names is true of the text.
Main exports:
  Fault.TrueIn, Fault.Tells, Fault.tells_of_position, Fault.TrueIn.tells_nothing, Reader.TrueBehind,
  Reader.steps_fault, Reader.inner_fault, Chain.fault_positions
-/
import Mathlib
import WaitFor.Proofs.Path.Progress

namespace WaitFor

namespace Fault

/-!
### What a fault says of the text

A fault that names a position says that something stands there, or that something does not.  The
other faults say nothing of a position: they quote what they refuse, or they lie at the end of the
text, where nothing but a parenthesis is waited for.  Braces stand around the text, so no fault inside
is about them.
-/

/-- What a fault says of a text in braces is so. -/
def TrueIn (text : List Char) : Fault → Prop
  | .wrongChar _ position found => text[position]? = some found
  | .unexpectedChar found position => text[position]? = some found
  | .emptyName position =>
    position ≤ text.length ∧
      ∀ c, text[position]? = some c → Reader.isNameChar c = false ∧ c ≠ '\\'
  | .missingQuote position =>
    position ≤ text.length ∧ ∀ c, text[position]? = some c → Reader.isQuote c = false
  | .missingComparison position =>
    position ≤ text.length ∧ ∀ op : Comparison, ¬op.text.toList <+: text.drop position
  | .endedBefore wanted => wanted = '(' ∨ wanted = ')'
  | .notAPath | .missingOpenBrace _ | .missingCloseBrace _ => False
  | _ => True

/-- A position that is named lies in the text or at its end. -/
theorem TrueIn.position_le {text : List Char} {fault : Fault} {position : Nat}
    (isTrue : fault.TrueIn text) (names : fault.position? = some position) :
    position ≤ text.length := by
  cases fault with
  | wrongChar wanted place found =>
      obtain rfl := Option.some.inj names
      exact (List.getElem?_eq_some_iff.mp isTrue).1.le
  | unexpectedChar found place =>
      obtain rfl := Option.some.inj names
      exact (List.getElem?_eq_some_iff.mp isTrue).1.le
  | emptyName place =>
      obtain rfl := Option.some.inj names
      exact isTrue.1
  | missingQuote place =>
      obtain rfl := Option.some.inj names
      exact isTrue.1
  | missingComparison place =>
      obtain rfl := Option.some.inj names
      exact isTrue.1
  | _ => cases names

/-- A character that is shown stands at the position that is named. -/
theorem TrueIn.found_eq {text : List Char} {fault : Fault} {position : Nat} {found : Char}
    (isTrue : fault.TrueIn text) (names : fault.position? = some position)
    (shows : fault.found? = some found) : text[position]? = some found := by
  cases fault with
  | wrongChar wanted place other =>
      obtain rfl := Option.some.inj names
      obtain rfl := Option.some.inj shows
      exact isTrue
  | unexpectedChar other place =>
      obtain rfl := Option.some.inj names
      obtain rfl := Option.some.inj shows
      exact isTrue
  | _ => cases shows

private theorem invalid_front (what refused : String) :
    "invalid ".toList <+: ("invalid " ++ what ++ refused ++ "'").toList := by
  simp only [String.toList_append, List.append_assoc]
  exact List.prefix_append _ _

private theorem no_digit_of_all {words : String}
    (all : words.toList.all (fun c => !c.isDigit) = true) :
    ∀ c ∈ words.toList, c.isDigit = false :=
  fun c mem => by simpa using List.all_eq_true.mp all c mem

/-- A fault that names no position has no digit in its message, unless it quotes the text that it
refuses as invalid. -/
theorem TrueIn.tells_nothing {text : List Char} {fault : Fault} (isTrue : fault.TrueIn text)
    (nowhere : fault.position? = none) :
    "invalid ".toList <+: fault.message.toList ∨ ∀ c ∈ fault.message.toList, c.isDigit = false := by
  cases fault with
  | notAPath => exact isTrue.elim
  | missingOpenBrace template => exact isTrue.elim
  | missingCloseBrace template => exact isTrue.elim
  | endedBefore wanted =>
      rcases isTrue with rfl | rfl
      · exact Or.inr (no_digit_of_all rfl)
      · exact Or.inr (no_digit_of_all rfl)
  | badIndex refused => exact Or.inl (invalid_front "array index '" refused)
  | badSlice refused => exact Or.inl (invalid_front "array slice '" refused)
  | badNumber refused => exact Or.inl (invalid_front "number '" refused)
  | danglingEscape => exact Or.inr (no_digit_of_all rfl)
  | unclosedBracket => exact Or.inr (no_digit_of_all rfl)
  | unclosedQuote => exact Or.inr (no_digit_of_all rfl)
  | literalAlone => exact Or.inr (no_digit_of_all rfl)
  | unclosedFilter => exact Or.inr (no_digit_of_all rfl)
  | _ => cases nowhere

/-- The message of a fault has a position in words, and the character that it shows stands in front of
the position or behind it. -/
def Tells (fault : Fault) (position : Nat) : Prop :=
  ∃ front back, fault.message = front ++ " at position " ++ toString position ++ back ∧
    ∀ c, fault.found? = some c →
      front = "unexpected character '" ++ toString c ++ "'" ∨
        back = ", found '" ++ toString c ++ "'"

/-- A message that shows no character ends with the position. -/
private theorem tells_of_plain {fault : Fault} {position : Nat} {front : String}
    (words : fault.message = front ++ " at position " ++ toString position)
    (plain : fault.found? = none) : fault.Tells position := by
  refine ⟨front, "", by rw [words, String.append_empty], fun c shown => ?_⟩
  rw [plain] at shown
  cases shown

/-- The position of a fault is the one that its message tells. -/
theorem tells_of_position {fault : Fault} {position : Nat}
    (names : fault.position? = some position) : fault.Tells position := by
  have quoted (words : String) : words ++ "' at position " = words ++ "'" ++ " at position " := by
    rw [String.append_assoc]
    rfl
  cases fault with
  | wrongChar wanted place found =>
      obtain rfl := Option.some.inj names
      have words : (wrongChar wanted place found).message = "expected '" ++ toString wanted ++
          "' at position " ++ toString place ++ ", found '" ++ toString found ++ "'" := rfl
      refine ⟨"expected '" ++ toString wanted ++ "'", ", found '" ++ toString found ++ "'", ?_, ?_⟩
      · rw [words, quoted]
        simp only [String.append_assoc]
      · intro c shown
        exact Or.inr (by rw [Option.some.inj shown])
  | unexpectedChar found place =>
      obtain rfl := Option.some.inj names
      have words : (unexpectedChar found place).message = "unexpected character '" ++
          toString found ++ "' at position " ++ toString place := rfl
      refine ⟨"unexpected character '" ++ toString found ++ "'", "", ?_, ?_⟩
      · rw [words, quoted, String.append_empty]
      · intro c shown
        exact Or.inl (by rw [Option.some.inj shown])
  | emptyName place =>
      obtain rfl := Option.some.inj names
      have words : (emptyName place).message =
          "empty field name" ++ " at position " ++ toString place := rfl
      exact tells_of_plain words rfl
  | missingQuote place =>
      obtain rfl := Option.some.inj names
      have words : (missingQuote place).message =
          "expected a quoted string" ++ " at position " ++ toString place := rfl
      exact tells_of_plain words rfl
  | missingComparison place =>
      obtain rfl := Option.some.inj names
      have words : (missingComparison place).message =
          "expected a comparison operator" ++ " at position " ++ toString place := rfl
      exact tells_of_plain words rfl
  | _ => cases names

end Fault

namespace Reader

open Cursor

variable {text : List Char} {k : Cursor} {fault : Fault}

/-- If one reading behind another one fails, one of both has failed. -/
theorem bind_eq_error {α β : Type} {first : Except Fault α} {then_ : α → Except Fault β} :
    first >>= then_ = .error fault ↔
      first = .error fault ∨ ∃ value, first = .ok value ∧ then_ value = .error fault := by
  cases first with
  | error other => simp [bind, Except.bind]
  | ok value => simp [bind, Except.bind]

/-- If what follows a reading cannot fail, the reading has. -/
theorem error_of_bind {α β : Type} {first : Except Fault α} {then_ : α → Except Fault β}
    (failed : first >>= then_ = .error fault) (succeeds : ∀ value, (then_ value).isOk = true) :
    first = .error fault := by
  obtain failed | ⟨value, -, failed⟩ := bind_eq_error.mp failed
  · exact failed
  · have isOk := succeeds value
    rw [failed] at isOk
    cases isOk

/-!
### Names, texts in quotes and positions
-/

private theorem getElem?_position (within : Within text k) : text[k.position]? = k.rest.head? := by
  rw [within.rest_eq, List.head?_drop]

/-- At the position of a cursor stands the first character that is left. -/
private theorem getElem?_front {found : Char} {rest : List Char} (within : Within text k)
    (front : k.rest = found :: rest) : text[k.position]? = some found := by
  rw [getElem?_position within, front, List.head?_cons]

/-- The only fault of a name is an escape at the end of the text. -/
private theorem nameBody_fault {chars : List Char} (failed : nameBody chars = .error fault) :
    fault = .danglingEscape := by
  fun_induction nameBody chars with
  | case1 => cases failed
  | case2 =>
      cases failed
      rfl
  | case3 c chars ih =>
      exact ih (error_of_bind failed fun _ => rfl)
  | case4 c chars _ _ isName ih =>
      exact ih (error_of_bind failed fun _ => rfl)
  | case5 => cases failed

/-- Where a name is empty, no name begins. -/
private theorem front_of_nameBody_empty {chars rest : List Char}
    (reads : nameBody chars = .ok ([], rest)) :
    ∀ c, chars.head? = some c → isNameChar c = false ∧ c ≠ '\\' := by
  rw [nameBody.eq_def] at reads
  split at reads
  · nofun
  · cases reads
  · obtain ⟨_, _, impossible⟩ := bind_eq_ok.mp reads
    cases impossible
  · next c rest noEnd noEscape =>
      split at reads
      · obtain ⟨_, _, impossible⟩ := bind_eq_ok.mp reads
        cases impossible
      · next noName =>
          intro d front
          obtain rfl := Option.some.inj front
          exact ⟨by simpa using noName, plain_of_no_escape noEnd noEscape⟩

/-- A name that is missed does not begin where it is missed. -/
theorem name_fault (within : Within text k) (failed : name k = .error fault) : fault.TrueIn text := by
  obtain failed | ⟨⟨body, rest⟩, inside, failed⟩ := bind_eq_error.mp failed
  · rw [nameBody_fault failed]
    trivial
  · dsimp only at failed
    split at failed
    · next empty =>
        cases failed
        obtain rfl : body = [] := List.isEmpty_iff.mp empty
        refine ⟨within.position_le, fun c front => ?_⟩
        rw [getElem?_position within] at front
        exact front_of_nameBody_empty inside c front
    · cases failed

theorem afterDot_fault (within : Within text k) (failed : afterDot k = .error fault) :
    fault.TrueIn text := by
  rw [afterDot] at failed
  split at failed
  · cases failed
  · exact name_fault within (error_of_bind failed fun _ => rfl)

/-- A quote that is missed does not stand where it is missed. -/
theorem quoted_fault (within : Within text k) (failed : quoted k = .error fault) :
    fault.TrueIn text := by
  rw [quoted.eq_def] at failed
  split at failed
  · next nothing =>
      cases failed
      refine ⟨within.position_le, fun c front => ?_⟩
      rw [getElem?_position within, nothing] at front
      cases front
  · next quote body same =>
      split at failed
      · split at failed
        · cases failed
        · cases failed
          trivial
      · next noQuote =>
          cases failed
          refine ⟨within.position_le, fun c front => ?_⟩
          rw [getElem?_front within same] at front
          cases front
          simpa using noQuote

/-- By induction on the fuel, since each further name is read behind the one before. -/
theorem moreNames_fault {fuel : Nat} (within : Within text k)
    (failed : moreNames fuel k = .error fault) : fault.TrueIn text := by
  induction fuel generalizing k with
  | zero => cases failed
  | succ fuel ih =>
      by_cases comma : ∃ after, k.skipBlank.rest = ',' :: after
      · obtain ⟨after, comma⟩ := comma
        have passed := (ahead_skipBlank k).trans
          ((ahead_next comma).trans (ahead_skipBlank _))
        rw [moreNames_of_comma comma] at failed
        obtain failed | ⟨⟨first, mid⟩, quotedRead, failed⟩ := bind_eq_error.mp failed
        · exact quoted_fault (within.ahead passed) failed
        · have read := passed.trans (quoted_advances quotedRead).1
          exact ih (within.ahead read) (error_of_bind failed fun _ => rfl)
      · rw [not_exists] at comma
        rw [moreNames_of_no_comma comma] at failed
        cases failed

theorem names_fault (within : Within text k) (failed : names k = .error fault) :
    fault.TrueIn text := by
  obtain failed | ⟨⟨first, mid⟩, quotedRead, failed⟩ := bind_eq_error.mp failed
  · exact quoted_fault within failed
  · exact moreNames_fault (within.ahead (quoted_advances quotedRead).1) (error_of_bind failed fun _ => rfl)

/-- An index or a slice that is refused is quoted, and no position is named. -/
private theorem indexOrSlice_fault (failed : indexOrSlice k = .error fault) :
    fault.TrueIn text := by
  have refused := error_of_bind failed fun _ => rfl
  rw [indexOrSliceOf] at refused
  split at refused
  · split at refused
    · cases refused
    · cases refused
      trivial
  · dsimp only at refused
    split at refused
    · cases refused
    · cases refused
    · cases refused
      trivial

/-!
### Filters
-/

/-- A parenthesis that is missed is missed at the end, or what stands there is shown. -/
theorem expect_fault {wanted : Char} (parenthesis : wanted = '(' ∨ wanted = ')')
    (within : Within text k) (failed : expect wanted k = .error fault) : fault.TrueIn text := by
  rw [expect] at failed
  split at failed
  · cases failed
    exact parenthesis
  · next found rest same =>
      split at failed
      · cases failed
      · cases failed
        exact getElem?_front within same

/-- A comparison that is missed does not begin where it is missed. -/
theorem comparison_fault (within : Within text k) (failed : comparison k = .error fault) :
    fault.TrueIn text := by
  rw [comparison] at failed
  split at failed
  · cases failed
  · next nothing =>
      cases failed
      refine ⟨within.position_le, fun op front => ?_⟩
      have listed : op ∈ comparisons := by cases op <;> decide
      have missing := List.find?_eq_none.mp nothing op listed
      rw [← within.rest_eq] at front
      exact missing (List.isPrefixOf_iff_prefix.mpr front)

private theorem number_fault (failed : number k = .error fault) : fault.TrueIn text := by
  rw [number] at failed
  split at failed
  · cases failed
  · cases failed
    trivial

/-- A word that is no constant is shown by its first character. -/
private theorem keyword_fault {first : Char} {rest : List Char} (within : Within text k)
    (front : k.rest = first :: rest) (failed : keyword k first = .error fault) :
    fault.TrueIn text := by
  rw [keyword] at failed
  split at failed
  · cases failed
  · cases failed
    exact getElem?_front within front

/-- What is said of a fault is true wherever a path is read that stands later in the text. -/
def TrueBehind (text : List Char) (k : Cursor) : Prop :=
  ∀ j fault, Ahead k j → j.rest.length < k.rest.length → steps j = .error fault → fault.TrueIn text

/-- What holds at all later places holds at those behind any of them. -/
theorem TrueBehind.mono {mid : Cursor} (behind : TrueBehind text k) (ahead : Ahead k mid) :
    TrueBehind text mid :=
  fun j fault later shorter => behind j fault (ahead.trans later) (shorter.trans_le ahead.length_le)

theorem operand_fault (within : Within text k) (behind : TrueBehind text k)
    (failed : operand steps k = .error fault) : fault.TrueIn text := by
  rw [operand] at failed
  split at failed
  · cases failed
    trivial
  · next c rest front =>
      split at failed
      · exact behind _ _ (ahead_next front) (shorter_next front) (error_of_bind failed fun _ => rfl)
      · split at failed
        · exact quoted_fault within (error_of_bind failed fun _ => rfl)
        · split at failed
          · exact number_fault (error_of_bind failed fun _ => rfl)
          · exact keyword_fault within front (error_of_bind failed fun _ => rfl)

theorem test_fault (within : Within text k) (behind : TrueBehind text k)
    (failed : test steps k = .error fault) : fault.TrueIn text := by
  obtain failed | ⟨⟨side, mid⟩, leftRead, failed⟩ := bind_eq_error.mp failed
  · exact operand_fault within behind failed
  · have front := (operand_advances leftRead).1.trans (ahead_skipBlank mid)
    dsimp only at failed
    split at failed
    · cases failed
    · cases failed
      trivial
    · obtain failed | ⟨⟨op, next⟩, signRead, failed⟩ := bind_eq_error.mp failed
      · exact comparison_fault (within.ahead front) failed
      · have before := front.trans ((comparison_follows signRead).1.trans (ahead_skipBlank next))
        exact operand_fault (within.ahead before) (behind.mono before) (error_of_bind failed fun _ => rfl)

theorem filter_fault (within : Within text k) (behind : TrueBehind text k)
    (failed : filter steps k = .error fault) : fault.TrueIn text := by
  have blank := ahead_skipBlank k
  obtain failed | ⟨inside, openRead, failed⟩ := bind_eq_error.mp failed
  · exact expect_fault (Or.inl rfl) (within.ahead blank) failed
  · have opened := blank.trans ((expect_advances openRead).1.trans (ahead_skipBlank inside))
    obtain failed | ⟨⟨_, mid⟩, testRead, failed⟩ := bind_eq_error.mp failed
    · exact test_fault (within.ahead opened) (behind.mono opened) failed
    · have tested := opened.trans
        ((test_follows (steps_follows _) (Nat.le_succ _) testRead).1.trans (ahead_skipBlank mid))
      exact expect_fault (Or.inr rfl) (within.ahead tested) (error_of_bind failed fun _ => rfl)

/-!
### Brackets, steps and chains
-/

theorem bracketBody_fault (within : Within text k) (behind : TrueBehind text k)
    (failed : bracketBody steps k = .error fault) : fault.TrueIn text := by
  rw [bracketBody] at failed
  split at failed
  · cases failed
    trivial
  · next c rest front =>
      split at failed
      · cases failed
      · split at failed
        · have passed := ahead_next front
          exact filter_fault (within.ahead passed) (behind.mono passed) (error_of_bind failed fun _ => rfl)
        · split at failed
          · exact names_fault within failed
          · exact indexOrSlice_fault failed

/-- A bracket that is not closed shows what stands in place of the closing one. -/
theorem bracket_fault (within : Within text k) (behind : TrueBehind text k)
    (failed : bracket steps k = .error fault) : fault.TrueIn text := by
  have blank := ahead_skipBlank k
  obtain failed | ⟨⟨_, mid⟩, bodyRead, failed⟩ := bind_eq_error.mp failed
  · exact bracketBody_fault (within.ahead blank) (behind.mono blank) failed
  · have read := blank.trans
      ((bracketBody_follows (steps_follows _) (Nat.le_succ _) bodyRead).1.trans (ahead_skipBlank mid))
    dsimp only at failed
    split at failed
    · cases failed
      trivial
    · cases failed
    · next found rest _ front =>
        cases failed
        exact getElem?_front (within.ahead read) front

/-- A step fails where its name or its bracket does. -/
theorem step_fault (within : Within text k) (behind : TrueBehind text k)
    (failed : step steps k = .error fault) : fault.TrueIn text := by
  rw [step] at failed
  split at failed
  · cases failed
  · cases failed
  · next rest _ _ front =>
      have passed := ahead_advance (k := k) 2 (by simp [front])
      exact afterDot_fault (within.ahead passed) (error_of_bind failed fun _ => rfl)
  · next rest _ _ _ front =>
      have passed := ahead_next front
      exact afterDot_fault (within.ahead passed) (error_of_bind failed fun _ => rfl)
  · next rest front =>
      have passed := ahead_next front
      exact bracket_fault (within.ahead passed) (behind.mono passed) (error_of_bind failed fun _ => rfl)
  · cases failed

/-- By induction on what is left to read, which is less inside a step and behind it. -/
theorem steps_fault (within : Within text k) (failed : steps k = .error fault) :
    fault.TrueIn text := by
  induction left : k.rest.length using Nat.strong_induction_on generalizing k fault with
  | _ length ih =>
      -- The induction serves the paths inside the step as well as the steps behind it.
      have behind : TrueBehind text k := fun j other ahead shorter refused =>
        ih _ (left ▸ shorter) (within.ahead ahead) refused rfl
      rw [steps_eq] at failed
      obtain failed | ⟨stepped, stepRead, failed⟩ := bind_eq_error.mp failed
      · exact step_fault within behind failed
      · cases stepped with
        | none => cases failed
        | some stepped =>
            obtain ⟨first, mid⟩ := stepped
            obtain ⟨ahead, shorter⟩ := step_advances stepRead
            cases moreRead : steps mid with
            | error other =>
                rw [afterStep, moreRead] at failed
                cases failed
                exact behind mid fault ahead shorter moreRead
            | ok more =>
                rw [afterStep, moreRead] at failed
                cases failed

/-- What is left behind the last step is shown by its first character. -/
theorem inner_fault (failed : inner text = .error fault) : fault.TrueIn text := by
  have front := (within_start text).ahead (ahead_root _)
  obtain failed | ⟨⟨_, last⟩, chainRead, failed⟩ := bind_eq_error.mp failed
  · exact steps_fault front failed
  · have read := (steps_follows _ le_rfl chainRead).1.trans (ahead_skipBlank last)
    dsimp only at failed
    split at failed
    · cases failed
    · next found rest same =>
        cases failed
        exact getElem?_front (front.ahead read) same

end Reader

open Spelling

namespace Chain

/-- The position that is named where a template is refused is true of the text in its braces.  It lies
in the text or at its end; what is shown as found there stands there; and what is missed there (a name,
a quote or a comparison) does not begin there.  A message without such a position has no number in its
own words; only one that quotes an invalid part of the text may have it from there. -/
theorem fault_positions {text : List Char} {fault : Fault}
    (refused : Chain.read (template text) = .error fault) :
    (∀ position, fault.position? = some position →
      fault.Tells position ∧ position ≤ text.length ∧
        (∀ c, fault.found? = some c → text[position]? = some c) ∧
        (fault = .emptyName position →
          ∀ c, text[position]? = some c → Reader.isNameChar c = false ∧ c ≠ '\\') ∧
        (fault = .missingQuote position →
          ∀ c, text[position]? = some c → Reader.isQuote c = false) ∧
        (fault = .missingComparison position →
          ∀ op : Comparison, ¬op.text.toList <+: text.drop position)) ∧
      (fault.position? = none →
        "invalid ".toList <+: fault.message.toList ∨
          ∀ c ∈ fault.message.toList, c.isDigit = false) := by
  rw [read_template_eq] at refused
  have isTrue := Reader.inner_fault refused
  refine ⟨fun position names => ?_, isTrue.tells_nothing⟩
  refine ⟨Fault.tells_of_position names, isTrue.position_le names,
    fun c shows => isTrue.found_eq names shows, ?_, ?_, ?_⟩
  · rintro rfl
    exact isTrue.2
  · rintro rfl
    exact isTrue.2
  · rintro rfl
    exact isTrue.2

/-- A tilde in a filter inside a filter, behind a name with an escape and a character of two bytes. -/
theorem fault_positions_of_tilde :
    Chain.read (template ".é\\.x[?(@.a[?(@.b ~ 1)])]".toList) = .error (.missingComparison 18) ∧
      (Fault.missingComparison 18).Tells 18 ∧
      18 ≤ ".é\\.x[?(@.a[?(@.b ~ 1)])]".toList.length ∧
      ∀ op : Comparison,
        ¬op.text.toList <+: ".é\\.x[?(@.a[?(@.b ~ 1)])]".toList.drop 18 := by
  have refused : Chain.read (template ".é\\.x[?(@.a[?(@.b ~ 1)])]".toList) =
      .error (.missingComparison 18) := rfl
  obtain ⟨tells, inText, -, -, -, missed⟩ := (fault_positions refused).1 18 rfl
  exact ⟨refused, tells, inText, missed rfl⟩

end Chain

end WaitFor
