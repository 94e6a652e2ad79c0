/-
Module: WaitFor.Proofs.Waiter.Notes
Purpose: The notes that a waiter leaves in a buffer tell what came of its evaluations.
Main exports:
  Waiter.Call, Waiter.Answer, Waiter.call, Waiter.run, Waiter.noteDue, Waiter.Decides,
  Waiter.decides_evaluate, Waiter.call_eq, Waiter.run_eq, Waiter.notes_mirror_answers
-/
import Mathlib
import WaitFor.Proofs.Waiter.Evaluation

namespace WaitFor.Waiter

/-!
### Runs

The notes of a waiter go to a sink.  Here the sink is a buffer that keeps them in the order in which
they come, and a run is any number of calls of one waiter with that buffer.  What a getter or a search
gives may differ from call to call, so each call brings its own.
-/

/-- A call of a waiter, with what it is handed. -/
inductive Call where
  | evaluate (resource : Resource) (getter : Getter)
  | collect (results : List (Except FetchError Resource))

/-- What a call comes back with. -/
inductive Answer where
  | evaluated (outcome : Except WaitError Evaluation)
  | collected (outcome : Except WaitError (List Resource))

/-- Makes one call: its answer, and the buffer after it. -/
def call (waiter : Waiter) (buffer : List String) : Call → Answer × List String
  | .evaluate resource getter =>
    let verdict := waiter.evaluate resource getter
    (.evaluated verdict.outcome, buffer ++ verdict.note.toList)
  | .collect results => (.collected (waiter.collect results), buffer)

/-- Makes several calls, one after the other: their answers, and the buffer after the last one. -/
def run (waiter : Waiter) (buffer : List String) : List Call → List Answer × List String
  | [] => ([], buffer)
  | first :: rest =>
    let (answer, buffer) := waiter.call buffer first
    let (answers, buffer) := run waiter buffer rest
    (answer :: answers, buffer)

/-- What a call answers apart from any run. -/
def answer (waiter : Waiter) : Call → Answer
  | .evaluate resource getter => .evaluated (waiter.evaluate resource getter).outcome
  | .collect results => .collected (waiter.collect results)

/-- The note that is due for a call with a given answer: one for an evaluation that is done, in the
words of the condition, one for an evaluation that found no value, and none otherwise. -/
def noteDue (waiter : Waiter) : Call → Answer → Option String
  | .evaluate resource _, .evaluated (.ok ⟨_, true⟩) =>
    let words := match waiter.condition with
      | .deletion => " deleted"
      | _ => " condition met"
    some (Text.lowercase resource.kind ++ "/" ++ resource.name ++ words)
  | .evaluate resource _, .evaluated (.error (.noMatch source)) =>
    some (Text.lowercase resource.kind ++ "/" ++ resource.name ++ " has no value at " ++ source)
  | _, _ => none

/-! ### One evaluation -/

/-- All that can come of one evaluation. -/
inductive Decides (waiter : Waiter) (resource : Resource) (getter : Getter) : Verdict → Prop where
  /-- A deletion that is waited for has come. -/
  | deleted {kind name : String} (waits : waiter.condition = .deletion)
      (absent : getter resource = .error (.notFound kind name)) :
      Decides waiter resource getter
        ⟨.ok ⟨resource.object, true⟩, some (resource.label ++ " deleted")⟩
  /-- Another failure of the fetch is passed on. -/
  | failed {error : FetchError} (fetched : getter resource = .error error) :
      Decides waiter resource getter ⟨.error (.fetch error), none⟩
  /-- The condition does not hold yet. -/
  | pending {object : Json} (fetched : getter resource = .ok object) :
      Decides waiter resource getter ⟨.ok ⟨some object, false⟩, none⟩
  /-- The condition holds. -/
  | met {object : Json} (waits : waiter.condition ≠ .deletion)
      (fetched : getter resource = .ok object) :
      Decides waiter resource getter
        ⟨.ok ⟨some object, true⟩, some (resource.label ++ " condition met")⟩
  /-- The path of the condition selects nothing. -/
  | nothing {path : Path} {value : String} (waits : waiter.condition = .query path value) :
      Decides waiter resource getter
        ⟨.error (.noMatch path.source), some (resource.label ++ " has no value at " ++ path.source)⟩

variable {waiter : Waiter} {resource : Resource} {getter : Getter} {object : Json}

theorem decides_verdict (waits : waiter.condition ≠ .deletion)
    (fetched : getter resource = .ok object) (met : Bool) :
    waiter.Decides resource getter (verdict resource object met) := by
  cases met with
  | false => exact .pending fetched
  | true => exact .met waits fetched

theorem decides_evaluate (waiter : Waiter) (resource : Resource) (getter : Getter) :
    waiter.Decides resource getter (waiter.evaluate resource getter) := by
  cases fetched : getter resource with
  | error error =>
      cases waits : waiter.condition with
      | deletion =>
          cases error with
          | notFound kind name =>
              rw [evaluate_deletion_of_absent waits fetched]
              exact .deleted waits fetched
          | _ =>
              rw [evaluate, fetched]
              simp only [judgeFailure, waits]
              exact .failed fetched
      | _ =>
          rw [evaluate_of_failure (by simp [waits]) fetched]
          exact .failed fetched
  | ok object =>
      cases waits : waiter.condition with
      | deletion =>
          rw [evaluate_deletion_of_present waits fetched]
          exact .pending fetched
      | named name value =>
          rw [evaluate_named waits fetched]
          exact decides_verdict (by simp [waits]) fetched _
      | query path value =>
          cases selected : path.find object with
          | nil =>
              rw [evaluate_query_of_nothing waits fetched selected]
              exact .nothing waits
          | cons first rest =>
              rw [evaluate_query waits fetched selected]
              exact decides_verdict (by simp [waits]) fetched _

/-- A verdict has the note that is due for its outcome. -/
theorem Decides.note_eq {decided : Verdict} (decides : waiter.Decides resource getter decided) :
    decided.note = waiter.noteDue (.evaluate resource getter) (.evaluated decided.outcome) := by
  cases decides with
  | deleted waits absent => simp only [noteDue, waits, Resource.label]
  | failed fetched => rfl
  | pending fetched => rfl
  | met waits fetched =>
      cases kind : waiter.condition with
      | deletion => exact absurd kind waits
      | named name value => simp only [noteDue, kind, Resource.label]
      | query path value => simp only [noteDue, kind, Resource.label]
  | nothing waits => rfl

/-- A success gives the object that was fetched, or, for a deletion that has come, the object that was
last known. -/
theorem Decides.object_eq {decided : Verdict} (decides : waiter.Decides resource getter decided)
    {evaluation : Evaluation} (succeeded : decided.outcome = .ok evaluation) :
    (waiter.condition = .deletion ∧ evaluation.done = true ∧
        evaluation.object = resource.object) ∨
      ((waiter.condition = .deletion → evaluation.done = false) ∧
        ∃ object, getter resource = .ok object ∧ evaluation.object = some object) := by
  cases decides with
  | deleted waits absent =>
      cases succeeded
      exact Or.inl ⟨waits, rfl, rfl⟩
  | failed fetched => cases succeeded
  | pending fetched =>
      cases succeeded
      exact Or.inr ⟨fun _ => rfl, _, fetched, rfl⟩
  | met waits fetched =>
      cases succeeded
      exact Or.inr ⟨fun deletion => absurd deletion waits, _, fetched, rfl⟩
  | nothing waits => cases succeeded

/-- The path at which there is no value is that of the condition. -/
theorem Decides.source_eq {decided : Verdict} (decides : waiter.Decides resource getter decided)
    {source : String} (unmatched : decided.outcome = .error (.noMatch source)) :
    ∃ path value, waiter.condition = .query path value ∧ source = path.source := by
  cases decides with
  | deleted waits absent => cases unmatched
  | failed fetched => cases unmatched
  | pending fetched => cases unmatched
  | met waits fetched => cases unmatched
  | nothing waits =>
      cases unmatched
      exact ⟨_, _, waits, rfl⟩

/-! ### Any number of calls -/

/-- A call answers as it does apart from any run, and adds the note that is due to the buffer. -/
theorem call_eq (waiter : Waiter) (buffer : List String) (made : Call) :
    waiter.call buffer made =
      (waiter.answer made, buffer ++ (waiter.noteDue made (waiter.answer made)).toList) := by
  cases made with
  | evaluate resource getter =>
      rw [call, (decides_evaluate waiter resource getter).note_eq]
      rfl
  | collect results =>
      have silent : waiter.noteDue (.collect results) (.collected (waiter.collect results)) = none :=
        rfl
      rw [call, answer, silent, Option.toList_none, List.append_nil]

theorem run_eq (waiter : Waiter) (buffer : List String) (calls : List Call) :
    waiter.run buffer calls =
      (calls.map waiter.answer,
        buffer ++ calls.filterMap fun made => waiter.noteDue made (waiter.answer made)) := by
  induction calls generalizing buffer with
  | nil => rw [run, List.map_nil, List.filterMap_nil, List.append_nil]
  | cons first rest ih =>
      rw [run, call_eq]
      simp only [ih, List.map_cons, List.append_assoc, List.filterMap_cons]
      cases waiter.noteDue first (waiter.answer first) with
      | none => rfl
      | some note => rfl

/-- Over any run the notes tell what came of the calls: the buffer gets, in the order of the calls, one
note for each evaluation that is done or finds no value, and none for any other call.  No call depends
on those before it.  An evaluation that succeeds gives the object that was fetched, unless it found
the resource deleted, and then it gives the object that was last known; and where it finds no value,
this is at the path of the condition. -/
theorem notes_mirror_answers (waiter : Waiter) (buffer : List String) (calls : List Call) :
    (waiter.run buffer calls).2 = buffer ++
        (calls.zip (waiter.run buffer calls).1).filterMap (fun made => waiter.noteDue made.1 made.2) ∧
      (waiter.run buffer calls).1 = calls.map waiter.answer ∧
      (∀ resource getter evaluation,
        waiter.answer (.evaluate resource getter) = .evaluated (.ok evaluation) →
          (waiter.condition = .deletion ∧ evaluation.done = true ∧
              evaluation.object = resource.object) ∨
            ((waiter.condition = .deletion → evaluation.done = false) ∧
              ∃ object, getter resource = .ok object ∧ evaluation.object = some object)) ∧
      ∀ resource getter source,
        waiter.answer (.evaluate resource getter) = .evaluated (.error (.noMatch source)) →
          ∃ path value, waiter.condition = .query path value ∧ source = path.source := by
  refine ⟨?_, by rw [run_eq], ?_, ?_⟩
  · rw [run_eq]
    dsimp only
    rw [← List.map_prod_left_eq_zip, List.filterMap_map]
    rfl
  · intro resource getter evaluation answered
    exact (decides_evaluate waiter resource getter).object_eq (Answer.evaluated.inj answered)
  · intro resource getter source answered
    exact (decides_evaluate waiter resource getter).source_eq (Answer.evaluated.inj answered)

end WaitFor.Waiter
