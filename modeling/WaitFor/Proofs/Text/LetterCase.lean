/-
Module: WaitFor.Proofs.Text.LetterCase
Purpose: Where lower-casing of all scripts and lower-casing of ASCII letters come to the same, and
  lower-casing of texts that are joined by a slash.
Main exports:
  Text.IsPlainLetter, Text.lowerChar_cases, Text.lowerChar_of_plain, Text.lowercase_eq_iff,
  Text.slash_mem_lowercase, Text.lowercase_append_slash
-/
import Mathlib
import WaitFor.Text.LetterCase

namespace WaitFor.Text

/-!
A letter of another script may have an ASCII letter as its lower-case form: the Kelvin sign becomes
a `k`, and the dotted capital I becomes an `i` with a further dot.  These are the only ones.  A word
of other ASCII letters is therefore the lower-case form of its ASCII spellings alone.
-/

/-- The lower-case ASCII letters but `k`. -/
def IsPlainLetter (c : Char) : Prop := 0x61 ≤ c.toNat ∧ c.toNat ≤ 0x7A ∧ c.toNat ≠ 0x6B

instance (c : Char) : Decidable (IsPlainLetter c) :=
  inferInstanceAs (Decidable (_ ∧ _ ∧ _))

/-- Beside the run of the ASCII letters and the Kelvin sign, no run leads to ASCII. -/
theorem lowerRuns_beyond {run : CaseRun} (member : run ∈ lowerRuns) :
    run = ⟨0x41, 0x5A, 1, 32⟩ ∨ (0x7A : Int) < run.first + run.offset ∨
      (run.first = 0x212A ∧ run.last = 0x212A ∧ run.offset = -8383) := by
  have checked : (lowerRuns.tail.all fun run =>
      decide ((0x7A : Int) < run.first + run.offset) ||
        (run.first == 0x212A && run.last == 0x212A && run.offset == -8383)) = true := by
    decide +kernel
  have split : lowerRuns = ⟨0x41, 0x5A, 1, 32⟩ :: lowerRuns.tail := rfl
  rw [split, List.mem_cons] at member
  rcases member with ascii | further
  · exact Or.inl ascii
  · have holds := List.all_eq_true.mp checked run further
    simp only [Bool.or_eq_true, Bool.and_eq_true, decide_eq_true_eq, beq_iff_eq] at holds
    exact Or.inr (holds.imp_right fun kelvin => ⟨kelvin.1.1, kelvin.1.2, kelvin.2⟩)

/-- No run holds a lower-case ASCII letter. -/
theorem lowerRuns_apart {run : CaseRun} (member : run ∈ lowerRuns) :
    run.last < 0x61 ∨ 0x7A < run.first := by
  have checked : (lowerRuns.all fun run =>
      decide (run.last < 0x61) || decide (0x7A < run.first)) = true := by
    decide +kernel
  simpa using List.all_eq_true.mp checked run member

theorem isUpper_iff {c : Char} : c.isUpper = true ↔ 0x41 ≤ c.toNat ∧ c.toNat ≤ 0x5A := by
  have first : 'A'.val.toNat = 0x41 := rfl
  have last : 'Z'.val.toNat = 0x5A := rfl
  have same : c.val.toNat = c.toNat := rfl
  simp only [Char.isUpper, decide_eq_true_eq, ge_iff_le, UInt32.le_iff_toNat_le, first, last, same]

/-- The lower-case form of a capital ASCII letter lies 32 places behind it. -/
theorem lowerChar_of_isUpper {c : Char} (upper : c.isUpper = true) :
    lowerChar c = [c.toLower] := by
  have range := isUpper_iff.mp upper
  have notDotted : c.toNat ≠ 0x130 := by omega
  have found : lowerRuns.find? (fun run =>
      run.first ≤ c.toNat && c.toNat ≤ run.last && (c.toNat - run.first) % run.step == 0) =
        some ⟨0x41, 0x5A, 1, 32⟩ := by
    have split : lowerRuns = ⟨0x41, 0x5A, 1, 32⟩ :: lowerRuns.tail := rfl
    rw [split, List.find?_cons_of_pos]
    simp [range, Nat.mod_one]
  rw [lowerChar, if_neg notDotted]
  simp only [found, Char.toLower_eq_of_isUpper upper]
  have moved : ((c.toNat : Int) + 32).toNat = c.toNat + 32 := by omega
  rw [moved]

/-- A lower-case ASCII letter is its own lower-case form. -/
theorem lowerChar_of_range {c : Char} (low : 0x61 ≤ c.toNat) (high : c.toNat ≤ 0x7A) :
    lowerChar c = [c] := by
  have notDotted : c.toNat ≠ 0x130 := by omega
  have missing : lowerRuns.find? (fun run =>
      run.first ≤ c.toNat && c.toNat ≤ run.last && (c.toNat - run.first) % run.step == 0) =
        none := by
    rw [List.find?_eq_none]
    intro run member holds
    simp only [Bool.and_eq_true, decide_eq_true_eq] at holds
    rcases lowerRuns_apart member with below | above <;> omega
  rw [lowerChar, if_neg notDotted]
  simp only [missing]

theorem toLower_of_not_isUpper {c : Char} (range : c.toNat < 0x41 ∨ 0x5A < c.toNat) :
    c.toLower = c := by
  apply Char.toLower_eq_of_not_isUpper
  intro upper
  have inside := isUpper_iff.mp upper
  omega

/-- A character whose ASCII lower-case form is a plain letter has no other lower-case form. -/
theorem lowerChar_of_toLower_plain {c : Char} (plain : IsPlainLetter c.toLower) :
    lowerChar c = [c.toLower] := by
  by_cases upper : c.isUpper = true
  · exact lowerChar_of_isUpper upper
  · rw [Char.toLower_eq_of_not_isUpper upper] at plain ⊢
    exact lowerChar_of_range plain.1 plain.2.1

/-- A character is its own lower-case form, or the dotted capital I, or a run leads from it to a form
behind the capital ASCII letters, which is a plain letter for those alone.  (The code of no
character would give the null character.) -/
theorem lowerChar_cases (c : Char) :
    lowerChar c = [c] ∨ lowerChar c = ['i', Char.ofNat 0x307] ∨
      ∃ d, lowerChar c = [d] ∧ (d.toNat = 0 ∨ 0x61 ≤ d.toNat) ∧
        (c.isUpper = true ∨ ¬IsPlainLetter d) := by
  by_cases dotted : c.toNat = 0x130
  · exact Or.inr (Or.inl (if_pos dotted))
  rw [lowerChar, if_neg dotted]
  cases found : lowerRuns.find? (fun run =>
      run.first ≤ c.toNat && c.toNat ≤ run.last && (c.toNat - run.first) % run.step == 0) with
  | none => exact Or.inl rfl
  | some run =>
      have covers := List.find?_some found
      simp only [Bool.and_eq_true, decide_eq_true_eq] at covers
      obtain ⟨⟨above, below⟩, -⟩ := covers
      refine Or.inr (Or.inr ⟨_, rfl, ?_⟩)
      rw [IsPlainLetter, isUpper_iff, Char.toNat_ofNat]
      split
      · rcases lowerRuns_beyond (List.mem_of_find?_eq_some found) with rfl | far | kelvin
        · dsimp only at above below ⊢
          omega
        · omega
        · omega
      · omega

/-- A character whose lower-case form is made of plain letters is an ASCII letter. -/
theorem lowerChar_of_plain {c : Char} (plain : ∀ d ∈ lowerChar c, IsPlainLetter d) :
    lowerChar c = [c.toLower] := by
  by_cases upper : c.isUpper = true
  · exact lowerChar_of_isUpper upper
  rcases lowerChar_cases c with itself | dotted | ⟨d, led, -, notPlain⟩
  · rw [itself, Char.toLower_eq_of_not_isUpper upper]
  · -- The dot above that the dotted capital I leaves behind is no letter.
    have dot := plain (Char.ofNat 0x307) (by simp [dotted])
    exact absurd dot.2.1 (by decide)
  · exact absurd (plain d (by simp [led])) (notPlain.resolve_left upper)

/-- A letter that is not plain stays so: no text around a capital sigma makes it ASCII. -/
theorem sigma_not_plain {c : Char} (isSigma : c.toNat = 0x3A3) : ¬IsPlainLetter c.toLower := by
  rw [toLower_of_not_isUpper (by omega)]
  rintro ⟨-, high, -⟩
  omega

/-- A text is lower-cased letter by letter as far as plain letters come out of it. -/
theorem lowerAfter_of_plain (before text : List Char)
    (plain : (∀ d ∈ lowerAfter before text, IsPlainLetter d) ∨
      ∀ d ∈ text.map Char.toLower, IsPlainLetter d) :
    lowerAfter before text = text.map Char.toLower := by
  induction text generalizing before with
  | nil => rfl
  | cons c rest ih =>
      rw [lowerAfter] at plain ⊢
      by_cases isSigma : c.toNat = 0x3A3
      · -- Neither form of a small sigma is a plain letter.
        exfalso
        simp only [isSigma, if_true, List.map_cons] at plain
        rcases plain with full | ascii
        · by_cases final : (startsCased before && !startsCased rest) = true
          · have sigma := full (Char.ofNat 0x3C2) (by simp [final])
            exact absurd sigma.2.1 (by decide)
          · have sigma := full (Char.ofNat 0x3C3) (by simp [final])
            exact absurd sigma.2.1 (by decide)
        · exact sigma_not_plain isSigma (ascii c.toLower (by simp))
      · simp only [isSigma, if_false, List.mem_append, List.map_cons, List.mem_cons] at plain ⊢
        rcases plain with full | ascii
        · rw [lowerChar_of_plain fun d member => full d (Or.inl member),
            ih (c :: before) (Or.inl fun d member => full d (Or.inr member))]
          rfl
        · rw [lowerChar_of_toLower_plain (ascii c.toLower (Or.inl rfl)),
            ih (c :: before) (Or.inr fun d member => ascii d (Or.inr member))]
          rfl

/-- A word of plain letters is the lower-case form of exactly its spellings in ASCII letters. -/
theorem lowercase_eq_iff {word : String} (plain : ∀ d ∈ word.toList, IsPlainLetter d)
    (text : String) : lowercase text = word ↔ equalsIgnoringCase word text = true := by
  rw [equalsIgnoringCase, beq_iff_eq, lowercase]
  constructor
  · intro same
    subst same
    rw [String.toList_ofList] at plain ⊢
    exact (lowerAfter_of_plain [] text.toList (Or.inl plain)).symm
  · intro same
    rw [← same] at plain
    rw [lowerAfter_of_plain [] text.toList (Or.inr plain), same, String.ofList_toList]

/-! ### Texts joined by a slash -/

theorem lowerChar_slash : lowerChar '/' = ['/'] := by
  decide +kernel

/-- No other character has a slash in its lower-case form. -/
theorem slash_mem_lowerChar {c : Char} : '/' ∈ lowerChar c ↔ c = '/' := by
  constructor
  · intro member
    rcases lowerChar_cases c with itself | dotted | ⟨d, led, behind, -⟩
    · rw [itself, List.mem_singleton] at member
      exact member.symm
    · rw [dotted] at member
      exact absurd member (by decide)
    · rw [led, List.mem_singleton] at member
      subst member
      exact absurd behind (by decide)
  · rintro rfl
    rw [lowerChar_slash]
    exact List.mem_singleton_self _

theorem slash_mem_lowerAfter (before text : List Char) :
    '/' ∈ lowerAfter before text ↔ '/' ∈ text := by
  induction text generalizing before with
  | nil => rfl
  | cons c rest ih =>
      rw [lowerAfter, List.mem_append, List.mem_cons, ih]
      refine or_congr_left ?_
      by_cases isSigma : c.toNat = 0x3A3
      · -- Neither form of a small sigma is a slash, and the capital is none.
        have notSlash : '/' ≠ c := by
          rintro rfl
          exact absurd isSigma (by decide)
        have finalForm : '/' ∉ [Char.ofNat 0x3C2] := by decide
        have innerForm : '/' ∉ [Char.ofNat 0x3C3] := by decide
        rw [if_pos isSigma]
        split
        · exact iff_of_false finalForm notSlash
        · exact iff_of_false innerForm notSlash
      · rw [if_neg isSigma, slash_mem_lowerChar]
        exact eq_comm

theorem slash_mem_lowercase (text : String) :
    '/' ∈ (lowercase text).toList ↔ '/' ∈ text.toList := by
  rw [lowercase, String.toList_ofList, slash_mem_lowerAfter]

/-- A slash is neither a cased character nor ignored in a search for one. -/
theorem startsCased_append_slash (text behind : List Char) :
    startsCased (text ++ '/' :: behind) = startsCased text := by
  have ignored : isCaseIgnorable '/' = false := by decide +kernel
  have cased : isCased '/' = false := by decide +kernel
  rw [startsCased, startsCased]
  induction text with
  | nil => simp [ignored, cased]
  | cons c rest ih =>
      by_cases skipped : isCaseIgnorable c = true
      · rw [List.cons_append, List.dropWhile_cons_of_pos skipped,
          List.dropWhile_cons_of_pos skipped, ih]
      · rw [List.cons_append, List.dropWhile_cons_of_neg skipped,
          List.dropWhile_cons_of_neg skipped]

/-- What stands before a slash has no part in the forms of what stands behind it. -/
theorem lowerAfter_behind_slash (before behind text : List Char) :
    lowerAfter (before ++ '/' :: behind) text = lowerAfter before text := by
  induction text generalizing before with
  | nil => rfl
  | cons c rest ih =>
      rw [lowerAfter, lowerAfter, startsCased_append_slash, ← List.cons_append, ih]

theorem lowerAfter_append_slash (before first second : List Char) :
    lowerAfter before (first ++ '/' :: second) =
      lowerAfter before first ++ '/' :: lowerAfter [] second := by
  induction first generalizing before with
  | nil =>
      have notSigma : '/'.toNat ≠ 0x3A3 := by decide
      have alone := lowerAfter_behind_slash [] before second
      rw [List.nil_append] at alone
      rw [List.nil_append, lowerAfter, lowerAfter, if_neg notSigma, lowerChar_slash, alone]
      rfl
  | cons c rest ih =>
      rw [List.cons_append, lowerAfter, lowerAfter, startsCased_append_slash, ih, List.append_assoc]

/-- Texts that are joined by a slash are lower-cased each by itself. -/
theorem lowercase_append_slash (first second : String) :
    lowercase (first ++ "/" ++ second) = lowercase first ++ "/" ++ lowercase second := by
  have slash : "/".toList = ['/'] := rfl
  rw [← String.toList_inj]
  simp only [lowercase, String.toList_append, String.toList_ofList, slash, List.append_assoc,
    List.singleton_append, lowerAfter_append_slash]

end WaitFor.Text
