/-
Module: WaitFor.Proofs.Waiter.Evaluation
Purpose: What a waiter decides for a deletion, for a named condition and for a path condition.
Main exports:
  Waiter.evaluate_of_failure, Waiter.evaluate_named, Waiter.evaluate_query,
  Waiter.evaluate_query_of_nothing, Waiter.evaluate_deletion_of_present,
  Waiter.evaluate_deletion_of_absent, Waiter.named_agrees_with_path, Waiter.AwaitsFirst,
  Waiter.awaitsFirst_of_query, Waiter.awaitsFirst_of_quoted
-/
import Mathlib
import WaitFor.Proofs.Condition.Rendering
import WaitFor.Proofs.Resource.StatusCondition
import WaitFor.Waiter.Basic

namespace WaitFor.Waiter

variable {waiter : Waiter} {resource : Resource} {getter : Getter} {object : Json}

/-! ### One evaluation -/

/-- A text that writes a condition makes the waiter for this condition. -/
theorem ofText_of_classify {raw : String} {condition : Condition}
    (classified : Condition.classify raw = .ok condition) (allowNoResources : Bool) :
    ofText raw allowNoResources = .ok (ofCondition condition allowNoResources) := by
  rw [ofText, classified]
  rfl

/-- Unless a deletion is waited for, a failed fetch is passed on without a note. -/
theorem evaluate_of_failure {error : FetchError} (kept : waiter.condition ≠ .deletion)
    (failed : getter resource = .error error) :
    waiter.evaluate resource getter = ⟨.error (.fetch error), none⟩ := by
  rw [evaluate, failed]
  cases kind : waiter.condition with
  | deletion => exact absurd kind kept
  | named name value => simp only [judgeFailure, kind]
  | query path value => simp only [judgeFailure, kind]

/-- A named condition holds if the reader of conditions lists it with the expected status. -/
theorem evaluate_named {name value : String} (waits : waiter.condition = .named name value)
    (fetched : getter resource = .ok object) :
    waiter.evaluate resource getter =
      verdict resource object ((waiter.conditionsOf object).any fun entry =>
        entry.name == name && entry.status == value) := by
  rw [evaluate, fetched]
  simp only [judge, waits]

/-- A path condition holds if the first value that the path selects has the expected text. -/
theorem evaluate_query {path : Path} {value : String} {first : Json} {rest : List Json}
    (waits : waiter.condition = .query path value) (fetched : getter resource = .ok object)
    (selected : path.find object = first :: rest) :
    waiter.evaluate resource getter = verdict resource object (first.plainText == value) := by
  have isFirst : path.first? object = some first := congrArg List.head? selected
  rw [evaluate, fetched]
  simp only [judge, waits, isFirst]

/-- Where the path selects nothing there is no verdict. -/
theorem evaluate_query_of_nothing {path : Path} {value : String}
    (waits : waiter.condition = .query path value) (fetched : getter resource = .ok object)
    (selected : path.find object = []) :
    waiter.evaluate resource getter =
      ⟨.error (.noMatch path.source),
        some (resource.label ++ " has no value at " ++ path.source)⟩ := by
  have nothing : path.first? object = none := congrArg List.head? selected
  rw [evaluate, fetched]
  simp only [judge, waits, nothing]

/-- A deletion that is waited for has not come as long as there is an object. -/
theorem evaluate_deletion_of_present (waits : waiter.condition = .deletion)
    (fetched : getter resource = .ok object) :
    waiter.evaluate resource getter = ⟨.ok ⟨some object, false⟩, none⟩ := by
  rw [evaluate, fetched]
  simp only [judge, waits]

/-- A deletion that is waited for has come where the resource is not found, and what was known of
the resource is all that is left. -/
theorem evaluate_deletion_of_absent {kind name : String} (waits : waiter.condition = .deletion)
    (absent : getter resource = .error (.notFound kind name)) :
    waiter.evaluate resource getter =
      ⟨.ok ⟨resource.object, true⟩, some (resource.label ++ " deleted")⟩ := by
  rw [evaluate, absent]
  simp only [judgeFailure, waits]

/-! ### Named conditions -/

/-- A named condition agrees with the path that filters the conditions of a resource by their type:
it holds if the path finds a status that shows the expected one.  The evaluation of a fetched object
never fails, whatever the object holds. -/
theorem named_agrees_with_path {name : String} (nameFree : '=' ∉ name.toList) (value : String)
    (allowNoResources : Bool) :
    ∃ waiter, ofText ("condition=" ++ name ++ "=" ++ value) allowNoResources = .ok waiter ∧
      ∀ (resource : Resource) (getter : Getter) (object : Json),
        getter resource = .ok object →
          ∃ done, (waiter.evaluate resource getter).outcome = .ok ⟨some object, done⟩ ∧
            (StatusCondition.Listed object →
              (done = true ↔
                ∃ found ∈ Chain.find (StatusCondition.path name) object,
                  StatusCondition.Shows found value)) := by
  have classified : Condition.classify ("condition=" ++ name ++ "=" ++ value) =
      .ok (.named name value) :=
    (Condition.classify_named_iff _ name value).mpr ⟨nameFree, Or.inl rfl⟩
  refine ⟨_, ofText_of_classify classified allowNoResources, ?_⟩
  intro resource getter object fetched
  rw [evaluate_named rfl fetched]
  refine ⟨_, rfl, fun listed => ?_⟩
  rw [← StatusCondition.mem_ofObject_iff_find listed]
  exact StatusCondition.any_ofObject_iff

/-- A status that is written as a boolean meets the condition, behind an entry of the same type
without a status and an entry that is no object. -/
theorem named_agrees_with_path_of_boolean :
    '=' ∉ "Synced".toList ∧
      ∃ waiter, ofText ("condition=" ++ "Synced" ++ "=" ++ "true") false = .ok waiter ∧
        (waiter.evaluate default fun _ => .ok (.object [("status", .object [("conditions", .array [
          .object [("type", .string "Synced")], .null,
          .object [("status", .boolean true), ("type", .string "Synced")]])])])).outcome =
        .ok ⟨some (.object [("status", .object [("conditions", .array [
          .object [("type", .string "Synced")], .null,
          .object [("status", .boolean true), ("type", .string "Synced")]])])]), true⟩ := by
  have nameFree : '=' ∉ "Synced".toList := by decide
  obtain ⟨waiter, made, decides⟩ := named_agrees_with_path nameFree "true" false
  refine ⟨nameFree, waiter, made, ?_⟩
  obtain ⟨done, outcome, agrees⟩ := decides default (fun _ => .ok (.object [("status",
    .object [("conditions", .array [.object [("type", .string "Synced")], .null,
      .object [("status", .boolean true), ("type", .string "Synced")]])])])) _ rfl
  have met : done = true := by
    apply (agrees fun conditions present => ⟨_, (Option.some.inj present).symm⟩).mpr
    refine ⟨.boolean true, StatusCondition.mem_find_path.mpr ?_, Or.inr ⟨true, rfl, rfl⟩⟩
    exact ⟨_, _, .object [("status", .boolean true), ("type", .string "Synced")], rfl, rfl,
      by simp [Json.children], rfl, rfl⟩
  rw [outcome, met]

/-! ### Path conditions -/

/-- What comes of waiting for the first value that a path selects to have a given text. -/
structure AwaitsFirst (waiter : Waiter) (path : Path) (value : String) : Prop where
  /-- A failed fetch is passed on. -/
  fetch_iff (resource : Resource) (getter : Getter) (error : FetchError) :
    (waiter.evaluate resource getter).outcome = .error (.fetch error) ↔
      getter resource = .error error
  /-- A path that selects nothing is reported. -/
  noMatch_iff (resource : Resource) (getter : Getter) :
    (waiter.evaluate resource getter).outcome = .error (.noMatch path.source) ↔
      ∃ object, getter resource = .ok object ∧ path.find object = []
  /-- Otherwise the first selected value decides. -/
  decided (resource : Resource) (getter : Getter) (object first : Json) (rest : List Json)
    (fetched : getter resource = .ok object) (selected : path.find object = first :: rest) :
    ∃ done, (waiter.evaluate resource getter).outcome = .ok ⟨some object, done⟩ ∧
      (done = true ↔ first.plainText = value)
  /-- Of the errors only the want of a value is worth waiting on. -/
  goesOn_iff (resource : Resource) (getter : Getter) (error : WaitError)
    (failed : (waiter.evaluate resource getter).outcome = .error error) :
    error.isTerminal = false ↔ error = .noMatch path.source

/-- The fetch fails, the path selects nothing, or its first value is compared. -/
theorem query_cases {path : Path} {value : String} (waits : waiter.condition = .query path value)
    (resource : Resource) (getter : Getter) :
    (∃ error, getter resource = .error error ∧
        (waiter.evaluate resource getter).outcome = .error (.fetch error)) ∨
      (∃ object, getter resource = .ok object ∧ path.find object = [] ∧
        (waiter.evaluate resource getter).outcome = .error (.noMatch path.source)) ∨
      ∃ object first rest, getter resource = .ok object ∧ path.find object = first :: rest ∧
        (waiter.evaluate resource getter).outcome =
          .ok ⟨some object, first.plainText == value⟩ := by
  cases fetched : getter resource with
  | error error =>
      rw [evaluate_of_failure (by simp [waits]) fetched]
      exact Or.inl ⟨error, rfl, rfl⟩
  | ok object =>
      cases selected : path.find object with
      | nil =>
          rw [evaluate_query_of_nothing waits fetched selected]
          exact Or.inr (Or.inl ⟨object, rfl, selected, rfl⟩)
      | cons first rest =>
          rw [evaluate_query waits fetched selected]
          exact Or.inr (Or.inr ⟨object, first, rest, rfl, selected, rfl⟩)

theorem awaitsFirst_of_query {path : Path} {value : String}
    (waits : waiter.condition = .query path value) : waiter.AwaitsFirst path value where
  fetch_iff resource getter error := by
    rcases query_cases waits resource getter with ⟨failure, fetched, outcome⟩ |
      ⟨object, fetched, -, outcome⟩ | ⟨object, first, rest, fetched, -, outcome⟩
    · simp [outcome, fetched]
    · simp [outcome, fetched]
    · simp [outcome, fetched]
  noMatch_iff resource getter := by
    rcases query_cases waits resource getter with ⟨failure, fetched, outcome⟩ |
      ⟨object, fetched, selected, outcome⟩ | ⟨object, first, rest, fetched, selected, outcome⟩
    · simp [outcome, fetched]
    · simp [outcome, fetched, selected]
    · simp [outcome, fetched, selected]
  decided resource getter object first rest fetched selected := by
    rw [evaluate_query waits fetched selected]
    exact ⟨_, rfl, beq_iff_eq⟩
  goesOn_iff resource getter error failed := by
    rcases query_cases waits resource getter with ⟨failure, -, outcome⟩ |
      ⟨object, -, -, outcome⟩ | ⟨object, first, rest, -, -, outcome⟩
    · obtain rfl := Except.error.inj (outcome.symm.trans failed)
      simp [WaitError.isTerminal]
    · obtain rfl := Except.error.inj (outcome.symm.trans failed)
      simp [WaitError.isTerminal]
    · rw [outcome] at failed
      cases failed

/-- Every value without an equals sign can be expected: in quotes it stands for itself, whether it
is empty or has quotes of its own.  The waiter that is made compares it with the first value that
the path selects. -/
theorem awaitsFirst_of_quoted {path text : String} {compiled : Path} {quote : Char}
    (pathFree : '=' ∉ path.toList) (compiles : Path.compile path = .ok compiled)
    (textFree : '=' ∉ text.toList) (isQuote : quote = '\'' ∨ quote = '"')
    (allowNoResources : Bool) :
    ∃ waiter,
      ofText ("jsonpath=" ++ path ++ "=" ++
        (String.singleton quote ++ text ++ String.singleton quote)) allowNoResources =
          .ok waiter ∧
      waiter.AwaitsFirst compiled text := by
  have quotes : Reader.isQuote quote = true := by
    rcases isQuote with rfl | rfl <;> rfl
  have notQuote : '=' ≠ quote := by
    rcases isQuote with rfl | rfl <;> decide
  have valueFree : '=' ∉ (String.singleton quote ++ text ++ String.singleton quote).toList := by
    simp [textFree, notQuote]
  have nonempty : String.singleton quote ++ text ++ String.singleton quote ≠ "" := by
    intro same
    have lists := congrArg String.toList same
    simp at lists
  have classified := (Condition.classify_query_iff _ compiled text).mpr
    ⟨path, _, rfl, pathFree, valueFree, nonempty, compiles,
      Condition.unquoted_in_quotes quotes text⟩
  exact ⟨_, ofText_of_classify classified allowNoResources, awaitsFirst_of_query rfl⟩

/-- A lone quote between other quotes is expected as it is. -/
theorem awaitsFirst_of_quoted_quote :
    ('=' ∉ "a".toList ∧ Path.compile "a" = .ok ⟨"\x7b.a\x7d", [.field "a"]⟩ ∧
      '=' ∉ "'".toList) ∧
      ∃ waiter,
        ofText ("jsonpath=" ++ "a" ++ "=" ++
          (String.singleton '"' ++ "'" ++ String.singleton '"')) false = .ok waiter ∧
        (waiter.evaluate default fun _ => .ok (.object [("a", .string "'")])).outcome =
          .ok ⟨some (.object [("a", .string "'")]), true⟩ ∧
        (waiter.evaluate default fun _ => .ok .null).outcome =
          .error (.noMatch "\x7b.a\x7d") := by
  have pathFree : '=' ∉ "a".toList := by decide
  have textFree : '=' ∉ "'".toList := by decide
  have compiles : Path.compile "a" = .ok ⟨"\x7b.a\x7d", [.field "a"]⟩ := rfl
  obtain ⟨waiter, made, awaits⟩ :=
    awaitsFirst_of_quoted pathFree compiles textFree (Or.inr rfl) false
  refine ⟨⟨pathFree, compiles, textFree⟩, waiter, made, ?_, ?_⟩
  · obtain ⟨done, outcome, met⟩ := awaits.decided default
      (fun _ => .ok (.object [("a", .string "'")])) _ (.string "'") [] rfl rfl
    rw [outcome, met.mpr rfl]
  · exact (awaits.noMatch_iff default fun _ => .ok .null).mpr ⟨.null, rfl, rfl⟩

end WaitFor.Waiter
