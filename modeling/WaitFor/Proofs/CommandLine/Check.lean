/-
Module: WaitFor.Proofs.CommandLine.Check
Purpose: A check of manifest files states all verdicts or none.
Main exports:
  CommandLine.loaderOf, CommandLine.loaderOf_documentsOf, CommandLine.Loads,
  CommandLine.Refused, CommandLine.Met, CommandLine.StatesVerdict,
  CommandLine.verdictLines_of_found, CommandLine.judgeAll_loaded, CommandLine.check_all_or_none
-/
import Mathlib
import WaitFor.CommandLine.Run
import WaitFor.Proofs.Resource.Leaves
import WaitFor.Proofs.Resource.Store
import WaitFor.Proofs.Waiter.Collecting

namespace WaitFor

namespace CommandLine

/-! ### What is loaded -/

/-- The loading of resources from files whose documents, or whose faults, are given. -/
def loaderOf (documents : String → Except LoadError Yaml.Documents) : Loader :=
  fun file => (documents file).bind Manifest.ofDocuments

/-- The documents in a file with the given content. -/
def documentsOf (content : Option ByteArray) : Except LoadError Yaml.Documents :=
  match content with
  | none => .error .absent
  | some bytes =>
    match String.fromUTF8? bytes with
    | none => .error .notText
    | some text => .ok (Yaml.read text)

/-- Files are loaded from the documents in them. -/
theorem loaderOf_documentsOf (contents : String → Option ByteArray) :
    (fun file => Manifest.ofFile (contents file)) =
      loaderOf fun file => documentsOf (contents file) := by
  funext file
  simp only [loaderOf, documentsOf, Manifest.ofFile]
  cases contents file with
  | none => rfl
  | some bytes =>
      dsimp only
      cases String.fromUTF8? bytes with
      | none => rfl
      | some text => simp only [Manifest.ofStream, Except.bind]

/-- The resources are those of the files, in the order of the files, and in each file those of its
leaves, in document order. -/
def Loads (documents : String → Except LoadError Yaml.Documents) (files : List String)
    (resources : List Resource) : Prop :=
  ∃ parts : List (List Resource), resources = parts.flatten ∧
    List.Forall₂ (fun file part => ∃ read, documents file = .ok read ∧ read.complete = true ∧
      List.Forall₂ (fun leaf resource => Resource.ofObject leaf = .ok resource)
        (Manifest.leavesOfAll read.values) part) files parts

/-- Files are loaded one after the other, up to one that cannot be loaded. -/
theorem loadAll_outcome (loader : Loader) (files : List String) :
    ((∃ file ∈ files, ∃ error, loader file = .error error) ∧
        ∃ name, loadAll loader files = .error name) ∨
      ∃ parts, List.Forall₂ (fun file part => loader file = .ok part) files parts ∧
        loadAll loader files = .ok parts.flatten := by
  induction files with
  | nil => exact Or.inr ⟨[], .nil, rfl⟩
  | cons file rest ih =>
      cases first : loader file with
      | error error =>
          refine Or.inl ⟨⟨file, List.mem_cons_self, error, first⟩, file, ?_⟩
          rw [loadAll, first]
      | ok part =>
          rcases ih with ⟨⟨other, member, error, refused⟩, name, failed⟩ | ⟨parts, each, loaded⟩
          · refine Or.inl ⟨⟨other, List.mem_cons_of_mem _ member, error, refused⟩, name, ?_⟩
            rw [loadAll, first, failed]
            rfl
          · refine Or.inr ⟨part :: parts, .cons first each, ?_⟩
            rw [loadAll, first, loaded]
            rfl

/-- What a loader of given documents loads is described by the leaves. -/
theorem loads_of_forall₂ {documents : String → Except LoadError Yaml.Documents}
    {files : List String} {parts : List (List Resource)}
    (each : List.Forall₂ (fun file part => loaderOf documents file = .ok part) files parts) :
    Loads documents files parts.flatten := by
  refine ⟨parts, rfl, ?_⟩
  apply each.imp
  intro file part loaded
  rw [loaderOf] at loaded
  cases read : documents file with
  | error error =>
      rw [read] at loaded
      cases loaded
  | ok read' =>
      rw [read] at loaded
      exact ⟨read', rfl, Manifest.ofDocuments_eq_ok_iff.mp loaded⟩

/-- Every loaded resource carries its object. -/
theorem Loads.carried {documents : String → Except LoadError Yaml.Documents}
    {files : List String} {resources : List Resource} (loads : Loads documents files resources)
    {resource : Resource} (member : resource ∈ resources) :
    ∃ object, resource.object = some object := by
  obtain ⟨parts, rfl, each⟩ := loads
  obtain ⟨part, inside, member⟩ := List.mem_flatten.mp member
  obtain ⟨file, -, read, -, -, leaves⟩ := Manifest.exists_left_of_mem each inside
  obtain ⟨leaf, -, made⟩ := Manifest.exists_left_of_mem leaves member
  exact ⟨leaf, Manifest.object_of_ofObject made⟩

/-! ### Verdicts -/

/-- Deciding the condition of a waiter for an object of a resource comes out as done. -/
def Met (waiter : Waiter) (resource : Resource) (object : Json) : Prop :=
  ∃ evaluation, (waiter.evaluate resource fun _ => .ok object).outcome = .ok evaluation ∧
    evaluation.done = true

/-- What is added to a verdict where the path of the condition selects nothing. -/
def remark (condition : Condition) (object : Json) : String :=
  match condition with
  | .deletion => ""
  | .named _ _ => ""
  | .query path _ =>
    match path.first? object with
    | none => ": " ++ (WaitError.noMatch path.source).message
    | some _ => ""

/-- The line states whether the condition of a waiter is met by an object of a resource. -/
def StatesVerdict (waiter : Waiter) (resource : Resource) (object : Json) (line : String) : Prop :=
  (Met waiter resource object ∧ line = resource.label ++ " condition met") ∨
    (¬Met waiter resource object ∧
      line = resource.label ++ " condition not met" ++ remark waiter.condition object)

theorem met_iff_of_ok {waiter : Waiter} {resource : Resource} {object : Json}
    {evaluation : Evaluation} (outcome : (waiter.judge resource object).outcome = .ok evaluation) :
    Met waiter resource object ↔ evaluation.done = true := by
  constructor
  · rintro ⟨other, same, done⟩
    have judged : (waiter.judge resource object).outcome = .ok other := same
    rw [outcome, Except.ok.injEq] at judged
    rwa [judged]
  · exact fun done => ⟨evaluation, outcome, done⟩

theorem not_met_of_error {waiter : Waiter} {resource : Resource} {object : Json}
    {error : WaitError} (outcome : (waiter.judge resource object).outcome = .error error) :
    ¬Met waiter resource object := by
  rintro ⟨evaluation, same, -⟩
  have judged : (waiter.judge resource object).outcome = .ok evaluation := same
  rw [outcome] at judged
  cases judged

/-- A judgment without a remark is stated by its own line. -/
theorem verdictLine_of_ok {waiter : Waiter} {resource : Resource} {object : Json}
    {evaluation : Evaluation} (outcome : (waiter.judge resource object).outcome = .ok evaluation)
    (unremarked : remark waiter.condition object = "") :
    ∃ line, verdictLine resource (waiter.judge resource object).outcome = .ok line ∧
      StatesVerdict waiter resource object line := by
  rw [outcome]
  refine ⟨_, rfl, ?_⟩
  rw [StatesVerdict, met_iff_of_ok outcome, unremarked]
  by_cases done : evaluation.done = true
  · exact Or.inl ⟨done, by rw [if_pos done]⟩
  · exact Or.inr ⟨done, by rw [if_neg done, String.append_empty]⟩

/-- The judgment of an object gives a line, whatever the condition: the only error that it can come
to, a path that selects nothing, does not end a run. -/
theorem verdictLine_judge (waiter : Waiter) (resource : Resource) (object : Json) :
    ∃ line, verdictLine resource (waiter.judge resource object).outcome = .ok line ∧
      StatesVerdict waiter resource object line := by
  cases kind : waiter.condition with
  | deletion =>
      exact @verdictLine_of_ok _ _ _ ⟨some object, false⟩ (by rw [Waiter.judge, kind])
        (by rw [kind, remark])
  | named name value =>
      exact @verdictLine_of_ok _ _ _ ⟨some object, _⟩ (by rw [Waiter.judge, kind]; rfl)
        (by rw [kind, remark])
  | query path value =>
      cases selected : path.first? object with
      | some first =>
          refine @verdictLine_of_ok _ _ _ ⟨some object, first.plainText == value⟩ ?_ ?_
          · simp only [Waiter.judge, kind, selected]
            rfl
          · simp only [kind, remark, selected]
      | none =>
          have outcome :
              (waiter.judge resource object).outcome = .error (.noMatch path.source) := by
            simp only [Waiter.judge, kind, selected]
          rw [outcome]
          refine ⟨_, rfl, Or.inr ⟨not_met_of_error outcome, ?_⟩⟩
          simp only [kind, remark, selected, String.append_assoc]
          rfl

/-- Where every fetch succeeds, every resource has its line and no error ends the run. -/
theorem verdictLines_of_found {waiter : Waiter} {getter : Getter} {resources : List Resource}
    (found : ∀ resource ∈ resources, ∃ object, getter resource = .ok object) :
    ∃ lines, verdictLines waiter getter resources = (lines, none) ∧
      List.Forall₂ (fun resource line => ∀ object, getter resource = .ok object →
        StatesVerdict waiter resource object line) resources lines := by
  induction resources with
  | nil => exact ⟨[], rfl, .nil⟩
  | cons resource resources ih =>
      obtain ⟨object, fetched⟩ := found resource List.mem_cons_self
      obtain ⟨line, stated, verdict⟩ := verdictLine_judge waiter resource object
      obtain ⟨lines, further, each⟩ := ih fun other member =>
        found other (List.mem_cons_of_mem _ member)
      refine ⟨line :: lines, ?_, .cons (fun other same => ?_) each⟩
      · rw [verdictLines, Waiter.evaluate, fetched]
        simp only [stated, further]
      · rw [fetched, Except.ok.injEq] at same
        rwa [← same]

/-- Where something is waited for to be deleted, a loaded object shows that it is not. -/
theorem StatesVerdict.of_deletion {waiter : Waiter} {resource : Resource} {object : Json}
    {line : String} (waits : waiter.condition = .deletion)
    (states : StatesVerdict waiter resource object line) :
    line = resource.label ++ " condition not met" := by
  have outcome : (waiter.judge resource object).outcome = .ok ⟨some object, false⟩ := by
    rw [Waiter.judge, waits]
  rcases states with ⟨met, -⟩ | ⟨-, rfl⟩
  · cases (met_iff_of_ok outcome).mp met
  · rw [waits, remark, String.append_empty]

/-! ### The check -/

/-- There is nothing to decide: the condition is none, a file cannot be loaded, or there is no
resource in any file although there has to be one. -/
def Refused (loader : Loader) (raw : String) (files : List String) (allowNoResources : Bool) :
    Prop :=
  (∃ error, Condition.classify raw = .error error) ∨
    (∃ file ∈ files, ∃ error, loader file = .error error) ∨
    (allowNoResources = false ∧ ∀ file ∈ files, loader file = .ok [])

/-- Files that are loaded as given parts hold nothing together exactly if each holds nothing. -/
theorem flatten_eq_nil_iff {loader : Loader} {files : List String} {parts : List (List Resource)}
    (each : List.Forall₂ (fun file part => loader file = .ok part) files parts) :
    parts.flatten = [] ↔ ∀ file ∈ files, loader file = .ok [] := by
  induction each with
  | nil => simp
  | cons loaded _ ih =>
      rw [List.flatten_cons, List.append_eq_nil_iff, ih, List.forall_mem_cons, loaded,
        Except.ok.injEq]

/-- Where every file is loaded, only a condition that is none or a want of resources stands in the
way. -/
theorem refused_iff {loader : Loader} {raw : String} {files : List String}
    {allowNoResources : Bool} {parts : List (List Resource)} {condition : Condition}
    (classified : Condition.classify raw = .ok condition)
    (each : List.Forall₂ (fun file part => loader file = .ok part) files parts) :
    Refused loader raw files allowNoResources ↔
      allowNoResources = false ∧ parts.flatten = [] := by
  rw [flatten_eq_nil_iff each]
  constructor
  · rintro (⟨error, unclassified⟩ | ⟨file, member, error, unloaded⟩ | nothing)
    · rw [classified] at unclassified
      cases unclassified
    · have flipped : List.Forall₂ (fun part file => loader file = .ok part) parts files := each.flip
      obtain ⟨part, -, loaded⟩ := Manifest.exists_left_of_mem flipped member
      rw [unloaded] at loaded
      cases loaded
    · exact nothing
  · exact fun nothing => Or.inr (Or.inr nothing)

theorem judgeAll_nothing {waiter : Waiter} (required : waiter.allowNoResources = false) :
    judgeAll waiter [] = .failure [] WaitError.noMatchingResources.message := by
  have nothing := waiter.collect_loaded []
  rw [required] at nothing
  rw [judgeAll, nothing]
  rfl

/-- For loaded resources there is a verdict on each, on the object of the last under its key. -/
theorem judgeAll_loaded {waiter : Waiter} {resources : List Resource}
    (carried : ∀ resource ∈ resources, ∃ object, resource.object = some object)
    (enough : ¬(waiter.allowNoResources = false ∧ resources = [])) :
    ∃ lines, judgeAll waiter resources = .success lines ∧
      List.Forall₂ (fun resource line => ∃ last object,
        Store.LastUnder resources resource.key last ∧ last.object = some object ∧
          StatesVerdict waiter resource object line) resources lines := by
  have kept : (resources.isEmpty && !waiter.allowNoResources) = false := by
    rw [← Bool.not_eq_true, Bool.and_eq_true, List.isEmpty_iff, Bool.not_eq_true']
    exact fun both => enough ⟨both.2, both.1⟩
  -- The getter is made of the same resources, so it has an object for each of them.
  have stored : ∀ resource ∈ resources, ∃ last object,
      Store.LastUnder resources resource.key last ∧ last.object = some object ∧
        (Store.ofResources resources).get resource = .ok object := by
    intro resource member
    obtain ⟨last, isLast⟩ := Store.exists_lastUnder member
    obtain ⟨object, carries⟩ := carried last isLast.mem
    exact ⟨last, object, isLast, carries, Store.get_ofResources isLast carries⟩
  have found : ∀ resource ∈ resources, ∃ object,
      (Store.ofResources resources).get resource = .ok object := by
    intro resource member
    obtain ⟨-, object, -, -, found⟩ := stored resource member
    exact ⟨object, found⟩
  obtain ⟨lines, stated, each⟩ := @verdictLines_of_found waiter _ resources found
  refine ⟨lines, ?_, ?_⟩
  · rw [judgeAll, Waiter.collect_loaded, kept]
    simp only [Bool.false_eq_true, if_false, stated]
  · have paired := (List.forall₂_and_left _ _).mpr ⟨stored, each⟩
    apply paired.imp
    intro resource line both
    obtain ⟨⟨last, object, isLast, carries, fetched⟩, states⟩ := both
    exact ⟨last, object, isLast, carries, states object fetched⟩

theorem check_of_unclassified {loader : Loader} {raw : String} {error : WaitError}
    (unclassified : Condition.classify raw = .error error) (files : List String)
    (allowNoResources : Bool) :
    check loader raw files allowNoResources = .failure [] error.message := by
  rw [check, Waiter.ofText, unclassified]
  rfl

theorem check_of_unloaded {loader : Loader} {raw : String} {condition : Condition}
    {files : List String} {name : String} (classified : Condition.classify raw = .ok condition)
    (unloaded : loadAll loader files = .error name) (allowNoResources : Bool) :
    check loader raw files allowNoResources = .failure [] ("failed to load " ++ name) := by
  rw [check, Waiter.ofText, classified, unloaded]
  rfl

theorem check_of_loaded {loader : Loader} {raw : String} {condition : Condition}
    {files : List String} {resources : List Resource}
    (classified : Condition.classify raw = .ok condition)
    (loaded : loadAll loader files = .ok resources) (allowNoResources : Bool) :
    check loader raw files allowNoResources =
      judgeAll (.ofCondition condition allowNoResources) resources := by
  rw [check, Waiter.ofText, classified, loaded]
  rfl

/-- Either a check is refused, without a line, or it decides the condition for what is loaded. -/
theorem check_cases (documents : String → Except LoadError Yaml.Documents) (raw : String)
    (files : List String) (allowNoResources : Bool) :
    (Refused (loaderOf documents) raw files allowNoResources ∧
        ∃ complaint, check (loaderOf documents) raw files allowNoResources =
          .failure [] complaint) ∨
      (¬Refused (loaderOf documents) raw files allowNoResources ∧
        ∃ condition resources, Condition.classify raw = .ok condition ∧
          Loads documents files resources ∧
          ∃ lines, check (loaderOf documents) raw files allowNoResources = .success lines ∧
            List.Forall₂ (fun resource line => ∃ last object,
              Store.LastUnder resources resource.key last ∧ last.object = some object ∧
                StatesVerdict (.ofCondition condition allowNoResources) resource object line)
              resources lines) := by
  cases classified : Condition.classify raw with
  | error error =>
      exact Or.inl ⟨Or.inl ⟨error, classified⟩, _, check_of_unclassified classified _ _⟩
  | ok condition =>
      rcases loadAll_outcome (loaderOf documents) files with
        ⟨unloaded, name, failed⟩ | ⟨parts, each, loaded⟩
      · exact Or.inl ⟨Or.inr (Or.inl unloaded), _, check_of_unloaded classified failed _⟩
      · have loads := loads_of_forall₂ each
        rw [check_of_loaded classified loaded, refused_iff classified each]
        by_cases nothing : allowNoResources = false ∧ parts.flatten = []
        · refine Or.inl ⟨nothing, WaitError.noMatchingResources.message, ?_⟩
          rw [nothing.2]
          exact judgeAll_nothing nothing.1
        · obtain ⟨lines, judged, each⟩ :=
            @judgeAll_loaded (.ofCondition condition allowNoResources) parts.flatten
              (fun resource member => loads.carried member) nothing
          exact Or.inr ⟨nothing, condition, parts.flatten, rfl, loads, lines, judged, each⟩

/-- A check of files whose documents are given ends without a line if there is nothing to decide,
and otherwise with one line for each loaded resource, in the order of loading.  The line is about
the object of the last resource that was loaded under the same key. -/
theorem check_all_or_none (documents : String → Except LoadError Yaml.Documents) (raw : String)
    (files : List String) (allowNoResources : Bool) :
    (Refused (loaderOf documents) raw files allowNoResources →
      (check (loaderOf documents) raw files allowNoResources).code = 1 ∧
        (check (loaderOf documents) raw files allowNoResources).lines = []) ∧
    (¬Refused (loaderOf documents) raw files allowNoResources →
      (check (loaderOf documents) raw files allowNoResources).code = 0 ∧
        ∃ condition resources,
          Condition.classify raw = .ok condition ∧ Loads documents files resources ∧
          List.Forall₂ (fun resource line => ∃ last object,
            Store.LastUnder resources resource.key last ∧ last.object = some object ∧
              StatesVerdict (.ofCondition condition allowNoResources) resource object line)
            resources (check (loaderOf documents) raw files allowNoResources).lines ∧
          ((resources.map Resource.key).Nodup →
            List.Forall₂ (fun resource line => ∃ object, resource.object = some object ∧
              StatesVerdict (.ofCondition condition allowNoResources) resource object line)
              resources (check (loaderOf documents) raw files allowNoResources).lines) ∧
          (condition = .deletion →
            (check (loaderOf documents) raw files allowNoResources).lines =
              resources.map fun resource => resource.label ++ " condition not met")) := by
  rcases check_cases documents raw files allowNoResources with
    ⟨refused, complaint, ended⟩ |
    ⟨accepted, condition, resources, classified, loads, lines, ended, each⟩
  · refine ⟨fun _ => ?_, fun accepted => absurd refused accepted⟩
    rw [ended]
    exact ⟨rfl, rfl⟩
  · refine ⟨fun refused => absurd refused accepted, fun _ => ?_⟩
    rw [ended]
    refine ⟨rfl, condition, resources, classified, loads, each, fun distinct => ?_, ?_⟩
    · have members : ∀ resource ∈ resources, resource ∈ resources := fun _ member => member
      have paired := (List.forall₂_and_left _ _).mpr ⟨members, each⟩
      apply paired.imp
      intro resource line both
      obtain ⟨member, last, object, isLast, carries, states⟩ := both
      obtain rfl := isLast.eq_of_nodup distinct member
      exact ⟨object, carries, states⟩
    · rintro rfl
      have stated : List.Forall₂ (· = ·)
          (resources.map fun resource => resource.label ++ " condition not met") lines := by
        apply List.forall₂_map_left_iff.mpr
        apply each.imp
        intro resource line verdict
        obtain ⟨-, object, -, -, states⟩ := verdict
        exact (states.of_deletion rfl).symm
      rw [List.forall₂_eq_eq_eq] at stated
      exact stated.symm

end CommandLine

end WaitFor
