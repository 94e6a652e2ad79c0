/-
Module: WaitFor.Proofs.Condition.Classification
Purpose: Which texts write which conditions, and which of several faults is reported.
Main exports:
  Condition.Unquoted, Condition.WritesNamed, Condition.PathAnswer, Condition.pathOf_answer,
  Condition.classify_deletion, Condition.classify_named_iff, Condition.classify_path,
  Condition.classify_grammars
-/
import Mathlib
import WaitFor.Proofs.Path.Shorthand
import WaitFor.Proofs.Text.LetterCase
import WaitFor.Proofs.Text.Parts

namespace WaitFor.Condition

/-! ### The value of a path condition -/

/-- The second text is the first without the quote character in front, if there is one. -/
inductive FrontUnquoted : List Char → List Char → Prop where
  | quoted {quote : Char} {rest : List Char} (isQuote : Reader.isQuote quote = true) :
      FrontUnquoted (quote :: rest) rest
  | bare {text : List Char} (noQuote : ∀ c ∈ text.head?, Reader.isQuote c = false) :
      FrontUnquoted text text

/-- The second text is the first without one quote character at each end that has one; the front
goes first, so that a lone quote character is not counted twice. -/
def Unquoted (value unquoted : String) : Prop :=
  ∃ middle, FrontUnquoted value.toList middle ∧
    FrontUnquoted middle.reverse unquoted.toList.reverse

/-- Every text has a form without the quote character in front. -/
theorem frontUnquoted_match (text : List Char) :
    FrontUnquoted text (match text with
      | first :: rest => if Reader.isQuote first then rest else first :: rest
      | [] => []) := by
  cases text with
  | nil => exact .bare (by simp)
  | cons first rest =>
      by_cases isQuote : Reader.isQuote first = true
      · simp only [isQuote, if_true]
        exact .quoted isQuote
      · simp only [isQuote, Bool.false_eq_true, if_false]
        exact .bare (by simpa using isQuote)

theorem frontUnquoted_reverse (text : List Char) :
    FrontUnquoted text.reverse (match text.getLast? with
      | some last => if Reader.isQuote last then text.dropLast else text
      | none => text).reverse := by
  rcases List.eq_nil_or_concat text with rfl | ⟨front, last, rfl⟩
  · exact .bare (by simp)
  · simp only [List.concat_eq_append, List.getLast?_concat, List.dropLast_concat,
      List.reverse_append, List.reverse_singleton, List.singleton_append]
    by_cases isQuote : Reader.isQuote last = true
    · simp only [isQuote, if_true]
      exact .quoted isQuote
    · simp only [isQuote, Bool.false_eq_true, if_false, List.reverse_append,
        List.reverse_singleton, List.singleton_append]
      exact .bare (by simpa using isQuote)

theorem FrontUnquoted.unique {text first second : List Char} (one : FrontUnquoted text first)
    (two : FrontUnquoted text second) : first = second := by
  cases one with
  | quoted isQuote =>
      cases two with
      | quoted _ => rfl
      | bare noQuote => simp [isQuote] at noQuote
  | bare noQuote =>
      cases two with
      | quoted isQuote => simp [isQuote] at noQuote
      | bare _ => rfl

theorem Unquoted.unique {value first second : String} (one : Unquoted value first)
    (two : Unquoted value second) : first = second := by
  obtain ⟨middle, front, back⟩ := one
  obtain ⟨middle', front', back'⟩ := two
  obtain rfl := front.unique front'
  have same := back.unique back'
  rwa [List.reverse_inj, String.toList_inj] at same

/-- What is left of a value once its quotes are trimmed is its unquoted form. -/
theorem unquoted_trimQuotes (value : String) :
    Unquoted value (String.ofList (trimQuotes value.toList)) := by
  refine ⟨_, frontUnquoted_match value.toList, ?_⟩
  rw [String.toList_ofList]
  exact frontUnquoted_reverse _

/-! ### The answer to a path condition -/

/-- What a path condition of a given path and value comes to.  A path that has no canonical form is
reported first, then an absent value, and then whatever compiling the path as given reports. -/
inductive PathAnswer (path value : String) : Except WaitError Condition → Prop where
  /-- The path has no canonical form. -/
  | notAPath {refusal : WaitError} (refused : Shorthand.relax path = .error refusal) :
      PathAnswer path value (.error (.badPath path .notAPath))
  /-- There is no value to compare with. -/
  | noValue {source : String} (relaxed : Shorthand.relax path = .ok source) (empty : value = "") :
      PathAnswer path value (.error .emptyCondition)
  /-- The path is not compiled, and the fault is the compiler's own. -/
  | refused {source : String} {error : WaitError} (relaxed : Shorthand.relax path = .ok source)
      (nonempty : value ≠ "") (failed : Path.compile path = .error error) :
      PathAnswer path value (.error error)
  /-- The path is compiled. -/
  | accepted {source unquoted : String} {compiled : Path}
      (relaxed : Shorthand.relax path = .ok source) (nonempty : value ≠ "")
      (succeeded : Path.compile path = .ok compiled) (trimmed : Unquoted value unquoted) :
      PathAnswer path value (.ok (.query compiled unquoted))

/-- A path and a value have one answer: the order of the checks decides between several faults. -/
theorem PathAnswer.unique {path value : String} {first second : Except WaitError Condition}
    (one : PathAnswer path value first) (two : PathAnswer path value second) : first = second := by
  cases one with
  | notAPath refused =>
      cases two with
      | notAPath _ => rfl
      | noValue relaxed _ => simp [refused] at relaxed
      | refused relaxed _ _ => simp [refused] at relaxed
      | accepted relaxed _ _ _ => simp [refused] at relaxed
  | noValue relaxed empty =>
      cases two with
      | notAPath refused => simp [refused] at relaxed
      | noValue _ _ => rfl
      | refused _ nonempty _ => exact absurd empty nonempty
      | accepted _ nonempty _ _ => exact absurd empty nonempty
  | refused relaxed nonempty failed =>
      cases two with
      | notAPath refused => simp [refused] at relaxed
      | noValue _ empty => exact absurd empty nonempty
      | refused _ _ failed' =>
          rw [failed, Except.error.injEq] at failed'
          rw [failed']
      | accepted _ _ succeeded _ => simp [failed] at succeeded
  | accepted relaxed nonempty succeeded trimmed =>
      cases two with
      | notAPath refused => simp [refused] at relaxed
      | noValue _ empty => exact absurd empty nonempty
      | refused _ _ failed => simp [failed] at succeeded
      | accepted _ _ succeeded' trimmed' =>
          rw [succeeded, Except.ok.injEq] at succeeded'
          rw [succeeded', trimmed.unique trimmed']

/-- The text behind `jsonpath=` is answered by its path and its value. -/
theorem pathOf_answer {path value : List Char} (pathFree : '=' ∉ path) (valueFree : '=' ∉ value) :
    PathAnswer (String.ofList path) (String.ofList value) (pathOf (path ++ '=' :: value)) := by
  have parts : Text.splitAtEach '=' (path ++ '=' :: value) = [path, value] := by
    rw [Text.splitAtEach_append pathFree, Text.splitAtEach_of_not_mem valueFree]
  rw [pathOf, parts]
  simp only [normalize]
  cases relaxed : Shorthand.relax (String.ofList path) with
  | error refusal =>
      rw [Shorthand.relax_eq_error relaxed]
      exact .notAPath relaxed
  | ok source =>
      by_cases empty : String.ofList value = ""
      · rw [empty]
        exact .noValue relaxed rfl
      · have someValue : (String.ofList value).isEmpty = false := by simpa using empty
        simp only [someValue, bind, Except.bind, Bool.false_eq_true, if_false]
        rw [Path.compilePath_of_relax relaxed]
        cases compiled : Path.compile (String.ofList path) with
        | error failure => exact .refused relaxed empty compiled
        | ok result => exact .accepted relaxed empty compiled (unquoted_trimQuotes _)

/-- The text behind `jsonpath=` must hold one equals sign. -/
theorem pathOf_of_count {text : List Char} (several : text.count '=' ≠ 1) :
    pathOf text = .error .malformedPathCondition := by
  have length := Text.length_splitAtEach '=' text
  rw [pathOf]
  split
  · next parts =>
      rw [parts] at length
      simp only [List.length_cons, List.length_nil] at length
      omega
  · rfl

/-- A path condition with one path and one value is refused for its path or for want of a value. -/
theorem PathAnswer.error_cases {path value : String} {error : WaitError}
    (answers : PathAnswer path value (.error error)) :
    error = .emptyCondition ∨ error = .emptyExpression ∨ ∃ fault, error = .badPath path fault := by
  cases answers with
  | notAPath _ => exact Or.inr (Or.inr ⟨_, rfl⟩)
  | noValue _ _ => exact Or.inl rfl
  | refused _ _ failed => exact Or.inr (Path.compile_error failed)

/-- The condition that a path condition comes to, if any, compares the values of a path. -/
theorem PathAnswer.ok_query {path value : String} {condition : Condition}
    (answers : PathAnswer path value (.ok condition)) :
    ∃ compiled unquoted, condition = .query compiled unquoted := by
  cases answers with
  | accepted _ _ _ _ => exact ⟨_, _, rfl⟩

/-- A text with one mark falls into the parts before and behind it. -/
theorem exists_parts {text : List Char} (single : text.count '=' = 1) :
    ∃ path value, text = path ++ '=' :: value ∧ '=' ∉ path ∧ '=' ∉ value := by
  have marked : '=' ∈ text := List.count_pos_iff.mp (by omega)
  obtain ⟨path, value, rfl, pathFree⟩ := List.eq_append_cons_of_mem marked
  refine ⟨path, value, rfl, pathFree, ?_⟩
  rw [List.count_append, List.count_eq_zero_of_not_mem pathFree, List.count_cons_self] at single
  exact List.count_eq_zero.mp (by omega)

/-- The text behind `jsonpath=` is one path and one value, or it is malformed. -/
theorem pathOf_outcome (text : List Char) :
    (text.count '=' ≠ 1 ∧ pathOf text = .error .malformedPathCondition) ∨
      (text.count '=' = 1 ∧ ∃ path value, String.ofList text = path ++ "=" ++ value ∧
        '=' ∉ path.toList ∧ '=' ∉ value.toList ∧ PathAnswer path value (pathOf text)) := by
  by_cases single : text.count '=' = 1
  · obtain ⟨path, value, rfl, pathFree, valueFree⟩ := exists_parts single
    refine Or.inr ⟨single, String.ofList path, String.ofList value, ?_, ?_, ?_,
      pathOf_answer pathFree valueFree⟩
    · rw [← String.toList_inj]
      simp
    · rwa [String.toList_ofList]
    · rwa [String.toList_ofList]
  · exact Or.inl ⟨single, pathOf_of_count single⟩

/-- A path condition is no deletion and no named condition, and it is never unrecognized. -/
theorem pathOf_own (text : List Char) :
    (∃ compiled value, pathOf text = .ok (.query compiled value)) ∨
      ∃ error, pathOf text = .error error ∧ ∀ raw, error ≠ .unrecognized raw := by
  rcases pathOf_outcome text with ⟨-, malformed⟩ | ⟨-, path, value, -, -, -, answers⟩
  · exact Or.inr ⟨_, malformed, by simp⟩
  · cases outcome : pathOf text with
    | ok condition =>
        rw [outcome] at answers
        obtain ⟨compiled, unquoted, rfl⟩ := answers.ok_query
        exact Or.inl ⟨compiled, unquoted, rfl⟩
    | error error =>
        rw [outcome] at answers
        refine Or.inr ⟨error, rfl, fun raw same => ?_⟩
        subst same
        rcases answers.error_cases with impossible | impossible | ⟨fault, impossible⟩ <;>
          cases impossible

/-! ### The three grammars -/

/-- The text writes the condition of a given name and status, of which `true` may be left out. -/
def WritesNamed (raw name value : String) : Prop :=
  '=' ∉ name.toList ∧
    (raw = "condition=" ++ name ++ "=" ++ value ∨
      (raw = "condition=" ++ name ∧ value = "true"))

/-- Text behind a mark is what is left once the mark is taken off. -/
theorem isPrefixOf?_toList {mark raw : String} {rest : List Char} :
    mark.toList.isPrefixOf? raw.toList = some rest ↔ raw = mark ++ String.ofList rest := by
  rw [List.isPrefixOf?_eq_some_iff_append_eq]
  constructor
  · intro parts
    rw [← String.toList_inj, String.toList_append, String.toList_ofList, parts]
  · rintro rfl
    rw [String.toList_append, String.toList_ofList]

/-- Of all texts the ASCII spellings of `delete` are those with this lower-case form. -/
theorem lowercase_eq_delete (raw : String) :
    Text.lowercase raw = "delete" ↔ Text.equalsIgnoringCase "delete" raw = true := by
  refine Text.lowercase_eq_iff ?_ raw
  have letters : "delete".toList = ['d', 'e', 'l', 'e', 't', 'e'] := rfl
  rw [letters]
  intro d member
  fin_cases member <;> decide

/-- A text that begins with a letter other than a `d` does not write a deletion. -/
theorem not_delete {first : Char} {rest : List Char} {raw : String}
    (spelled : raw.toList = first :: rest) (other : first.toLower ≠ 'd') :
    Text.lowercase raw ≠ "delete" := by
  rw [Ne, lowercase_eq_delete, Text.equalsIgnoringCase, spelled, beq_iff_eq]
  intro same
  exact other (List.cons.inj same).1

theorem classify_deletion {raw : String} (spelled : Text.lowercase raw = "delete") :
    classify raw = .ok .deletion := by
  rw [classify, if_pos spelled]

/-- Text behind `condition=` writes a named condition, whatever it is. -/
theorem classify_named (text : List Char) :
    classify ("condition=" ++ String.ofList text) = .ok (namedOf text) := by
  have other : Text.lowercase ("condition=" ++ String.ofList text) ≠ "delete" :=
    not_delete (by rw [String.toList_append]; rfl) (by decide)
  rw [classify, if_neg other, isPrefixOf?_toList.mpr rfl]

/-- Text behind `jsonpath=` is left to the grammar of path conditions. -/
theorem classify_path (text : List Char) :
    classify ("jsonpath=" ++ String.ofList text) = pathOf text := by
  have other : Text.lowercase ("jsonpath=" ++ String.ofList text) ≠ "delete" :=
    not_delete (by rw [String.toList_append]; rfl) (by decide)
  have unnamed : "condition=".toList.isPrefixOf? ("jsonpath=" ++ String.ofList text).toList =
      none := by
    rw [String.toList_append]
    rfl
  rw [classify, if_neg other, unnamed, isPrefixOf?_toList.mpr rfl]

/-- A text that is of none of the three kinds is not recognized. -/
theorem classify_unrecognized {raw : String} (notDeleted : Text.lowercase raw ≠ "delete")
    (unnamed : ∀ text, raw ≠ "condition=" ++ String.ofList text)
    (pathless : ∀ text, raw ≠ "jsonpath=" ++ String.ofList text) :
    classify raw = .error (.unrecognized raw) := by
  have noName : "condition=".toList.isPrefixOf? raw.toList = none := by
    apply Option.eq_none_iff_forall_ne_some.mpr
    intro text found
    exact unnamed text (isPrefixOf?_toList.mp found)
  have noPath : "jsonpath=".toList.isPrefixOf? raw.toList = none := by
    apply Option.eq_none_iff_forall_ne_some.mpr
    intro text found
    exact pathless text (isPrefixOf?_toList.mp found)
  rw [classify, if_neg notDeleted, noName, noPath]

/-- Every text is a deletion, a named condition, a path condition or none of these. -/
theorem classify_kinds (raw : String) :
    (Text.equalsIgnoringCase "delete" raw = true ∧ classify raw = .ok .deletion) ∨
      (∃ text, raw = "condition=" ++ String.ofList text ∧ classify raw = .ok (namedOf text)) ∨
      (∃ text, raw = "jsonpath=" ++ String.ofList text ∧ classify raw = pathOf text) ∨
      (Text.equalsIgnoringCase "delete" raw = false ∧
        classify raw = .error (.unrecognized raw)) := by
  by_cases deleted : Text.lowercase raw = "delete"
  · exact Or.inl ⟨(lowercase_eq_delete raw).mp deleted, classify_deletion deleted⟩
  by_cases named : ∃ text, raw = "condition=" ++ String.ofList text
  · obtain ⟨text, rfl⟩ := named
    exact Or.inr (Or.inl ⟨text, rfl, classify_named text⟩)
  by_cases path : ∃ text, raw = "jsonpath=" ++ String.ofList text
  · obtain ⟨text, rfl⟩ := path
    exact Or.inr (Or.inr (Or.inl ⟨text, rfl, classify_path text⟩))
  · have notDeleted : Text.equalsIgnoringCase "delete" raw = false := by
      rwa [lowercase_eq_delete, Bool.not_eq_true] at deleted
    exact Or.inr (Or.inr (Or.inr ⟨notDeleted, classify_unrecognized deleted
      (not_exists.mp named) (not_exists.mp path)⟩))

/-- The name of a named condition ends at the first equals sign. -/
theorem namedOf_eq_iff (text : List Char) (name value : String) :
    namedOf text = .named name value ↔
      WritesNamed ("condition=" ++ String.ofList text) name value := by
  have cancel (other : String) :
      "condition=" ++ String.ofList text = "condition=" ++ other ↔ text = other.toList := by
    rw [← String.toList_inj, String.toList_append, String.toList_append, List.append_cancel_left_eq,
      String.toList_ofList]
  rw [WritesNamed, String.append_assoc, String.append_assoc, cancel, cancel]
  have mark : "=".toList = ['='] := rfl
  simp only [String.toList_append, mark, List.singleton_append]
  by_cases marked : '=' ∈ text
  · obtain ⟨front, back, rfl, frontFree⟩ := List.eq_append_cons_of_mem marked
    rw [namedOf, Text.cutAt?_append frontFree]
    constructor
    · intro same
      obtain ⟨rfl, rfl⟩ := Condition.named.inj same
      simpa using frontFree
    · rintro ⟨nameFree, spelled | ⟨spelled, -⟩⟩
      · have cut := Text.cutAt?_append nameFree value.toList
        rw [← spelled, Text.cutAt?_append frontFree, Option.some.injEq, Prod.mk.injEq] at cut
        simp only [cut.1, cut.2, String.ofList_toList]
      · rw [spelled] at marked
        exact absurd marked nameFree
  · rw [namedOf, Text.cutAt?_of_not_mem marked]
    constructor
    · intro same
      obtain ⟨rfl, rfl⟩ := Condition.named.inj same
      simpa [defaultValue] using marked
    · rintro ⟨nameFree, spelled | ⟨spelled, rfl⟩⟩
      · rw [spelled] at marked
        simp at marked
      · rw [spelled, String.ofList_toList, defaultValue]

/-- Every text behind `condition=` writes some named condition. -/
theorem exists_writesNamed (text : List Char) :
    ∃ name value, namedOf text = .named name value ∧
      WritesNamed ("condition=" ++ String.ofList text) name value := by
  have some : ∃ name value, namedOf text = .named name value := by
    rw [namedOf]
    split
    · exact ⟨_, _, rfl⟩
    · exact ⟨_, _, rfl⟩
  obtain ⟨name, value, same⟩ := some
  exact ⟨name, value, same, (namedOf_eq_iff text name value).mp same⟩

theorem classify_deletion_iff (raw : String) :
    classify raw = .ok .deletion ↔ Text.equalsIgnoringCase "delete" raw = true := by
  rw [← lowercase_eq_delete]
  refine ⟨fun deleted => ?_, classify_deletion⟩
  rcases classify_kinds raw with ⟨spelled, -⟩ | ⟨text, -, named⟩ | ⟨text, -, path⟩ | ⟨-, unknown⟩
  · exact (lowercase_eq_delete raw).mpr spelled
  · obtain ⟨name, value, same, -⟩ := exists_writesNamed text
    rw [named, same] at deleted
    cases deleted
  · rw [path] at deleted
    rcases pathOf_own text with ⟨compiled, value, query⟩ | ⟨error, refused, -⟩
    · rw [query] at deleted
      cases deleted
    · rw [refused] at deleted
      cases deleted
  · rw [unknown] at deleted
    cases deleted

theorem classify_named_iff (raw name value : String) :
    classify raw = .ok (.named name value) ↔ WritesNamed raw name value := by
  constructor
  · intro accepted
    rcases classify_kinds raw with ⟨-, deleted⟩ | ⟨text, rfl, named⟩ | ⟨text, -, path⟩ |
      ⟨-, unknown⟩
    · rw [deleted] at accepted
      cases accepted
    · rw [named, Except.ok.injEq] at accepted
      exact (namedOf_eq_iff text name value).mp accepted
    · rw [path] at accepted
      rcases pathOf_own text with ⟨compiled, value, query⟩ | ⟨error, refused, -⟩
      · rw [query] at accepted
        cases accepted
      · rw [refused] at accepted
        cases accepted
    · rw [unknown] at accepted
      cases accepted
  · intro writes
    obtain ⟨text, rfl⟩ : ∃ text, raw = "condition=" ++ String.ofList text := by
      rcases writes.2 with rfl | ⟨rfl, -⟩
      · exact ⟨name.toList ++ '=' :: value.toList, by rw [← String.toList_inj]; simp⟩
      · exact ⟨name.toList, by rw [String.ofList_toList]⟩
    rw [classify_named, (namedOf_eq_iff text name value).mpr writes]

/-- A path condition is malformed unless the text has two equals signs, that behind `jsonpath`
among them; its answer is otherwise that of its path and its value. -/
theorem classify_path_answer (text : String) :
    (classify ("jsonpath=" ++ text) = .error .malformedPathCondition ↔
        ("jsonpath=" ++ text).toList.count '=' ≠ 2) ∧
      (("jsonpath=" ++ text).toList.count '=' = 2 →
        ∃ path value, text = path ++ "=" ++ value ∧ '=' ∉ path.toList ∧ '=' ∉ value.toList ∧
          PathAnswer path value (classify ("jsonpath=" ++ text))) := by
  have own : classify ("jsonpath=" ++ text) = pathOf text.toList := by
    rw [← classify_path, String.ofList_toList]
  have marks : ("jsonpath=" ++ text).toList.count '=' = text.toList.count '=' + 1 := by
    rw [String.toList_append, List.count_append, Nat.add_comm]
    rfl
  rw [own, marks]
  rcases pathOf_outcome text.toList with ⟨several, malformed⟩ |
    ⟨single, path, value, parts, pathFree, valueFree, answers⟩
  · refine ⟨⟨fun _ => by omega, fun _ => malformed⟩, fun two => by omega⟩
  · rw [String.ofList_toList] at parts
    refine ⟨⟨fun malformed => ?_, fun several => by omega⟩,
      fun _ => ⟨path, value, parts, pathFree, valueFree, answers⟩⟩
    rw [malformed] at answers
    rcases answers.error_cases with impossible | impossible | ⟨fault, impossible⟩ <;>
      cases impossible

theorem classify_unrecognized_iff (raw : String) :
    classify raw = .error (.unrecognized raw) ↔
      Text.equalsIgnoringCase "delete" raw = false ∧
        (∀ name value, ¬WritesNamed raw name value) ∧ ∀ text, raw ≠ "jsonpath=" ++ text := by
  constructor
  · intro unknown
    refine ⟨?_, fun name value writes => ?_, fun text path => ?_⟩
    · rw [← Bool.not_eq_true, ← classify_deletion_iff, unknown]
      simp
    · rw [← classify_named_iff, unknown] at writes
      cases writes
    · subst path
      have own := classify_path text.toList
      rw [String.ofList_toList] at own
      rw [own] at unknown
      rcases pathOf_own text.toList with ⟨compiled, value, query⟩ | ⟨error, refused, other⟩
      · rw [query] at unknown
        cases unknown
      · rw [refused] at unknown
        exact other _ (Except.error.inj unknown)
  · rintro ⟨notDeleted, unnamed, pathless⟩
    rcases classify_kinds raw with ⟨deleted, -⟩ | ⟨text, rfl, -⟩ | ⟨text, rfl, -⟩ | ⟨-, unknown⟩
    · rw [deleted] at notDeleted
      cases notDeleted
    · obtain ⟨name, value, -, writes⟩ := exists_writesNamed text
      exact absurd writes (unnamed name value)
    · exact absurd rfl (pathless _)
    · exact unknown

/-- Reading a condition accepts exactly three grammars.  A deletion is any ASCII spelling of its
word, a named condition ends its name at the first equals sign, and a path condition has the answer
of its path and its value if it has one of each.  Every other text is unrecognized. -/
theorem classify_grammars (raw : String) :
    (classify raw = .ok .deletion ↔ Text.equalsIgnoringCase "delete" raw = true) ∧
      (∀ name value, classify raw = .ok (.named name value) ↔ WritesNamed raw name value) ∧
      (∀ text, raw = "jsonpath=" ++ text →
        (classify raw = .error .malformedPathCondition ↔ raw.toList.count '=' ≠ 2) ∧
        (raw.toList.count '=' = 2 →
          ∃ path value, text = path ++ "=" ++ value ∧ '=' ∉ path.toList ∧ '=' ∉ value.toList ∧
            PathAnswer path value (classify raw))) ∧
      (classify raw = .error (.unrecognized raw) ↔
        Text.equalsIgnoringCase "delete" raw = false ∧
          (∀ name value, ¬WritesNamed raw name value) ∧ ∀ text, raw ≠ "jsonpath=" ++ text) := by
  refine ⟨classify_deletion_iff raw, classify_named_iff raw, ?_, classify_unrecognized_iff raw⟩
  rintro text rfl
  exact classify_path_answer text

end WaitFor.Condition
