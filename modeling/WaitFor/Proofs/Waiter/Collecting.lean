/-
Module: WaitFor.Proofs.Waiter.Collecting
Purpose: The resources to wait for are all that a search found, unless it met an error that counts;
  dropping more errors never spoils a search.
Main exports:
  Waiter.ignoringAll, Waiter.isIgnored_ignoringAll, Waiter.DropsAll, Waiter.FirstFailure,
  Waiter.found_append, Waiter.failure_or_dropped, Waiter.collect_eq_fetch_iff,
  Waiter.collect_eq_noMatchingResources_iff, Waiter.collect_eq_ok_iff, Waiter.collect_ignoring,
  Waiter.collect_outcomes
-/
import Mathlib
import WaitFor.Waiter.Basic

namespace WaitFor.Waiter

variable {waiter : Waiter} {results : List (Except FetchError Resource)}

/-! ### The errors that are dropped -/

/-- Also drops the errors that any of some predicates accepts. -/
def ignoringAll (waiter : Waiter) (predicates : List (FetchError → Bool)) : Waiter :=
  predicates.foldl ignoring waiter

/-- One more predicate adds what it accepts. -/
theorem isIgnored_ignoring (waiter : Waiter) (accepts : FetchError → Bool) (error : FetchError) :
    (waiter.ignoring accepts).isIgnored error = (waiter.isIgnored error || accepts error) := by
  simp [isIgnored, ignoring]

theorem isIgnored_ignoringAll {predicates : List (FetchError → Bool)} {error : FetchError} :
    (waiter.ignoringAll predicates).isIgnored error = true ↔
      waiter.isIgnored error = true ∨ ∃ accepts ∈ predicates, accepts error = true := by
  induction predicates generalizing waiter with
  | nil => simp [ignoringAll]
  | cons accepts rest ih =>
      rw [ignoringAll, List.foldl_cons, ← ignoringAll, ih, isIgnored_ignoring, Bool.or_eq_true,
        List.exists_mem_cons_iff, or_assoc]

theorem allowNoResources_ignoringAll (waiter : Waiter) (predicates : List (FetchError → Bool)) :
    (waiter.ignoringAll predicates).allowNoResources = waiter.allowNoResources := by
  induction predicates generalizing waiter with
  | nil => rfl
  | cons accepts rest ih => exact ih (waiter.ignoring accepts)

/-- The waiter for a condition drops only that a resource is absent, and only for a deletion. -/
theorem isIgnored_ofCondition {condition : Condition} {allowNoResources : Bool}
    {error : FetchError} :
    (ofCondition condition allowNoResources).isIgnored error = true ↔
      condition = .deletion ∧ error.isNotFound = true := by
  cases condition with
  | deletion => simp [ofCondition, isIgnored]
  | named name value => simp [ofCondition, isIgnored]
  | query path value => simp [ofCondition, isIgnored]

/-! ### A search through the results -/

/-- The waiter drops every error among the results of a search. -/
def DropsAll (waiter : Waiter) (results : List (Except FetchError Resource)) : Prop :=
  ∀ error, .error error ∈ results → waiter.isIgnored error = true

/-- The first error among the results of a search that a waiter does not drop. -/
def FirstFailure (waiter : Waiter) (results : List (Except FetchError Resource))
    (failure : FetchError) : Prop :=
  ∃ before after, results = before ++ .error failure :: after ∧ waiter.DropsAll before ∧
    waiter.isIgnored failure = false

@[simp] theorem dropsAll_nil : waiter.DropsAll [] := by
  simp [DropsAll]

@[simp] theorem dropsAll_cons_ok {resource : Resource} :
    waiter.DropsAll (.ok resource :: results) ↔ waiter.DropsAll results := by
  simp [DropsAll]

@[simp] theorem dropsAll_cons_error {error : FetchError} :
    waiter.DropsAll (.error error :: results) ↔
      waiter.isIgnored error = true ∧ waiter.DropsAll results := by
  simp [DropsAll]

/-- Results whose errors are all dropped only add their resources to what is found behind them. -/
theorem found_append {before : List (Except FetchError Resource)}
    (dropped : waiter.DropsAll before) (rest : List (Except FetchError Resource)) :
    waiter.found (before ++ rest) =
      (waiter.found rest).map (before.filterMap Except.toOption ++ ·) := by
  induction before with
  | nil =>
      rw [List.nil_append]
      cases waiter.found rest <;> rfl
  | cons result before ih =>
      cases result with
      | error error =>
          obtain ⟨ignored, dropped⟩ := dropsAll_cons_error.mp dropped
          rw [List.cons_append, found, if_pos ignored, ih dropped]
          rfl
      | ok resource =>
          rw [List.cons_append, found, ih (dropsAll_cons_ok.mp dropped)]
          cases waiter.found rest <;> rfl

/-- Where all errors are dropped, all resources are found. -/
theorem found_of_dropped (dropped : waiter.DropsAll results) :
    waiter.found results = .ok (results.filterMap Except.toOption) := by
  have all := found_append dropped []
  rwa [List.append_nil, found, Except.map, List.append_nil] at all

/-- A search ends at the first error that is not dropped. -/
theorem FirstFailure.found_eq {failure : FetchError}
    (first : FirstFailure waiter results failure) :
    waiter.found results = .error (.fetch failure) := by
  obtain ⟨before, after, rfl, dropped, counts⟩ := first
  rw [found_append dropped, found, if_neg (by simp [counts])]
  rfl

theorem FirstFailure.cons {result : Except FetchError Resource} {failure : FetchError}
    (dropped : ∀ error, result = .error error → waiter.isIgnored error = true)
    (first : FirstFailure waiter results failure) :
    FirstFailure waiter (result :: results) failure := by
  obtain ⟨before, after, rfl, others, counts⟩ := first
  refine ⟨result :: before, after, rfl, ?_, counts⟩
  cases result with
  | ok resource => exact dropsAll_cons_ok.mpr others
  | error error => exact dropsAll_cons_error.mpr ⟨dropped error rfl, others⟩

/-- A search meets an error that counts, or drops all that it meets. -/
theorem failure_or_dropped (waiter : Waiter) (results : List (Except FetchError Resource)) :
    (∃ failure, FirstFailure waiter results failure) ∨ waiter.DropsAll results := by
  induction results with
  | nil => exact Or.inr dropsAll_nil
  | cons result rest ih =>
      cases result with
      | ok resource =>
          rcases ih with ⟨failure, first⟩ | dropped
          · exact Or.inl ⟨failure, first.cons (by simp)⟩
          · exact Or.inr (dropsAll_cons_ok.mpr dropped)
      | error error =>
          by_cases ignored : waiter.isIgnored error = true
          · rcases ih with ⟨failure, first⟩ | dropped
            · refine Or.inl ⟨failure, first.cons ?_⟩
              rintro other ⟨⟩
              exact ignored
            · exact Or.inr (dropsAll_cons_error.mpr ⟨ignored, dropped⟩)
          · exact Or.inl ⟨error, [], rest, rfl, dropsAll_nil, by simpa using ignored⟩

/-- There is a first error that counts as soon as there is one that does. -/
theorem exists_firstFailure_iff :
    (∃ failure, FirstFailure waiter results failure) ↔
      ∃ error, .error error ∈ results ∧ waiter.isIgnored error = false := by
  constructor
  · rintro ⟨failure, before, after, rfl, -, counts⟩
    exact ⟨failure, by simp, counts⟩
  · rintro ⟨error, listed, counts⟩
    rcases failure_or_dropped waiter results with failing | dropped
    · exact failing
    · exact absurd (counts.symm.trans (dropped error listed)) Bool.false_ne_true

theorem FirstFailure.not_dropped {failure : FetchError}
    (first : FirstFailure waiter results failure) : ¬waiter.DropsAll results := by
  obtain ⟨error, listed, counts⟩ := exists_firstFailure_iff.mp ⟨failure, first⟩
  intro dropped
  exact Bool.false_ne_true (counts.symm.trans (dropped error listed))

/-! ### The resources to wait for -/

theorem FirstFailure.collect_eq {failure : FetchError}
    (first : FirstFailure waiter results failure) :
    waiter.collect results = .error (.fetch failure) := by
  rw [collect, first.found_eq]
  rfl

theorem collect_of_dropped (dropped : waiter.DropsAll results) :
    waiter.collect results =
      if (results.filterMap Except.toOption).isEmpty && !waiter.allowNoResources then
        .error .noMatchingResources
      else .ok (results.filterMap Except.toOption) := by
  rw [collect, found_of_dropped dropped]
  rfl

/-- What was loaded is found as it is, unless it is nothing and this is not allowed. -/
theorem collect_loaded (waiter : Waiter) (resources : List Resource) :
    waiter.collect (resources.map .ok) =
      if resources.isEmpty && !waiter.allowNoResources then .error .noMatchingResources
      else .ok resources := by
  have dropped : waiter.DropsAll (resources.map .ok) := by
    simp [DropsAll]
  have all : List.filterMap Except.toOption
      (resources.map (Except.ok : Resource → Except FetchError Resource)) = resources := by
    rw [List.filterMap_map]
    exact List.filterMap_some
  rw [collect_of_dropped dropped, all]

/-- What was dropped leaves no fetch error behind. -/
theorem collect_ne_fetch_of_dropped (dropped : waiter.DropsAll results) (error : FetchError) :
    waiter.collect results ≠ .error (.fetch error) := by
  rw [collect_of_dropped dropped]
  split
  · simp
  · simp

/-- The fetch error that is reported is the first that counts. -/
theorem collect_eq_fetch_iff {error : FetchError} :
    waiter.collect results = .error (.fetch error) ↔ FirstFailure waiter results error := by
  refine ⟨fun failed => ?_, FirstFailure.collect_eq⟩
  rcases failure_or_dropped waiter results with ⟨failure, first⟩ | dropped
  · have same := first.collect_eq.symm.trans failed
    cases same
    exact first
  · exact absurd failed (collect_ne_fetch_of_dropped dropped error)

/-- No fetch error is reported exactly if all are dropped. -/
theorem collect_ne_fetch_iff :
    (∀ error, waiter.collect results ≠ .error (.fetch error)) ↔ waiter.DropsAll results := by
  refine ⟨fun passed => ?_, collect_ne_fetch_of_dropped⟩
  rcases failure_or_dropped waiter results with ⟨failure, first⟩ | dropped
  · exact absurd first.collect_eq (passed failure)
  · exact dropped

/-- That there is nothing to wait for is reported for a search that found no resource, if that is
not allowed. -/
theorem collect_eq_noMatchingResources_iff :
    waiter.collect results = .error .noMatchingResources ↔
      waiter.DropsAll results ∧ results.filterMap Except.toOption = [] ∧
        waiter.allowNoResources = false := by
  rcases failure_or_dropped waiter results with ⟨failure, first⟩ | dropped
  · simp [first.collect_eq, first.not_dropped]
  · rw [collect_of_dropped dropped, and_iff_right dropped, ← List.isEmpty_iff]
    split
    · next nothing => simpa using nothing
    · next something => simpa using something

/-- What is collected is all that was found, and it is nothing only if that is allowed. -/
theorem collect_eq_ok_iff {resources : List Resource} :
    waiter.collect results = .ok resources ↔
      waiter.DropsAll results ∧ resources = results.filterMap Except.toOption ∧
        (resources = [] → waiter.allowNoResources = true) := by
  rcases failure_or_dropped waiter results with ⟨failure, first⟩ | dropped
  · simp [first.collect_eq, first.not_dropped]
  · rw [collect_of_dropped dropped, and_iff_right dropped]
    split
    · next nothing =>
        rw [Bool.and_eq_true, List.isEmpty_iff, Bool.not_eq_true'] at nothing
        simp [nothing]
    · next something =>
        rw [Bool.and_eq_true, List.isEmpty_iff, Bool.not_eq_true', not_and,
          Bool.not_eq_false] at something
        constructor
        · intro same
          cases same
          exact ⟨rfl, something⟩
        · rintro ⟨rfl, -⟩
          rfl

/-- A search that met no error that counts comes out the same if more errors are dropped. -/
theorem collect_ignoring (passed : ∀ error, waiter.collect results ≠ .error (.fetch error))
    (accepts : FetchError → Bool) :
    (waiter.ignoring accepts).collect results = waiter.collect results := by
  have dropped := collect_ne_fetch_iff.mp passed
  have more : (waiter.ignoring accepts).DropsAll results := by
    intro error listed
    rw [isIgnored_ignoring, dropped error listed, Bool.true_or]
  rw [collect_of_dropped dropped, collect_of_dropped more]
  rfl

/-- An error that is to be dropped is not reported. -/
theorem rejects_of_collect_ignoring {accepts : FetchError → Bool} {error : FetchError}
    (failed : (waiter.ignoring accepts).collect results = .error (.fetch error)) :
    accepts error = false := by
  obtain ⟨-, -, -, -, counts⟩ := collect_eq_fetch_iff.mp failed
  rw [isIgnored_ignoring, Bool.or_eq_false_iff] at counts
  exact counts.2

/-- Collecting is decided by the first error that counts: where there is one, it is reported, and
otherwise all resources are collected in their order, or it is reported that there are none.  The
errors that do not count are those that a resource is absent, for a deletion, and those that a
further predicate accepts.  One more predicate changes nothing unless a fetch error is reported, and
then it is not for an error that this predicate accepts. -/
theorem collect_outcomes (condition : Condition) (allowNoResources : Bool)
    (predicates : List (FetchError → Bool)) {waiter : Waiter}
    (built : (ofCondition condition allowNoResources).ignoringAll predicates = waiter)
    (results : List (Except FetchError Resource)) :
    (∀ error, waiter.isIgnored error = true ↔
        (condition = .deletion ∧ error.isNotFound = true) ∨
          ∃ accepts ∈ predicates, accepts error = true) ∧
      (∀ error, waiter.collect results = .error (.fetch error) ↔
        FirstFailure waiter results error) ∧
      ((∃ failure, FirstFailure waiter results failure) ↔
        ∃ error, .error error ∈ results ∧ waiter.isIgnored error = false) ∧
      (waiter.collect results = .error .noMatchingResources ↔
        waiter.DropsAll results ∧ results.filterMap Except.toOption = [] ∧
          allowNoResources = false) ∧
      (∀ resources, waiter.collect results = .ok resources ↔
        waiter.DropsAll results ∧ resources = results.filterMap Except.toOption ∧
          (resources = [] → allowNoResources = true)) ∧
      ∀ accepts : FetchError → Bool,
        ((∀ error, waiter.collect results ≠ .error (.fetch error)) →
          (waiter.ignoring accepts).collect results = waiter.collect results) ∧
        ∀ error failure, waiter.collect results = .error (.fetch error) →
          (waiter.ignoring accepts).collect results = .error (.fetch failure) →
          accepts failure = false := by
  have allows : waiter.allowNoResources = allowNoResources := by
    rw [← built, allowNoResources_ignoringAll]
    rfl
  refine ⟨fun error => ?_, fun error => collect_eq_fetch_iff, exists_firstFailure_iff, ?_,
    fun resources => ?_, fun accepts => ⟨fun passed => collect_ignoring passed accepts,
      fun _ failure _ failed => rejects_of_collect_ignoring failed⟩⟩
  · rw [← built, isIgnored_ignoringAll, isIgnored_ofCondition]
  · rw [collect_eq_noMatchingResources_iff, allows]
  · rw [collect_eq_ok_iff, allows]

/-- For a deletion, a search passes over what is absent and ends at what must not be read.  Once
that is dropped too nothing is left to wait for, and dropping everything else changes nothing. -/
theorem collect_outcomes_of_forbidden :
    let results : List (Except FetchError Resource) :=
      [.error (.notFound "Pod" "p"), .error (.forbidden "nodes"), .error (.forbidden "pods")]
    (ofCondition .deletion false).collect results = .error (.fetch (.forbidden "nodes")) ∧
      ((ofCondition .deletion false).ignoring FetchError.isForbidden).collect results =
        .error .noMatchingResources ∧
      (((ofCondition .deletion false).ignoring FetchError.isForbidden).ignoring
        fun _ => true).collect results = .error .noMatchingResources := by
  intro results
  obtain ⟨absent, reported, -⟩ := collect_outcomes .deletion false [] rfl results
  obtain ⟨skipped, -, -, nothing, -, further⟩ := collect_outcomes .deletion false
    [FetchError.isForbidden] rfl results
  have dropped : ((ofCondition .deletion false).ignoringAll
      [FetchError.isForbidden]).DropsAll results := by
    simp [results, skipped, FetchError.isNotFound, FetchError.isForbidden]
  have empty := nothing.mpr ⟨dropped, rfl, rfl⟩
  refine ⟨(reported _).mpr ⟨[.error (.notFound "Pod" "p")], [.error (.forbidden "pods")], rfl,
    ?_, rfl⟩, empty, ((further _).1 ?_).trans empty⟩
  · simp [absent, FetchError.isNotFound]
  · intro error failed
    rw [empty] at failed
    cases failed

end WaitFor.Waiter
