/-
Module: WaitFor.Proofs.Resource.Flattening
Purpose: Loading takes the leaves of nested lists in order, and lists around documents do not show.
Main exports:
  Manifest.ListsItems, Manifest.HasLeaves, Manifest.HaveLeaves, Manifest.haveLeaves_iff,
  Manifest.listOf, Manifest.Wrapped, Manifest.Wrapped.leavesOfAll_eq, Manifest.load_leaves
-/
import Mathlib
import WaitFor.Proofs.Json.Location
import WaitFor.Proofs.Resource.Leaves
import WaitFor.Proofs.Resource.StatusCondition

namespace WaitFor.Manifest

/-! ### Leaves as a relation -/

/-- The fields are those of a list of the given documents: the kind is a text that ends in `List`,
and the items are an array. -/
def ListsItems (fields : List (String × Json)) (items : List Json) : Prop :=
  (∃ kind, fields.lookup "kind" = some (.string kind) ∧ "List".toList <:+ kind.toList) ∧
    fields.lookup "items" = some (.array items)

mutual

/-- The leaves of a document: nothing has none, a list has those of its items, and any other
document is its own leaf. -/
inductive HasLeaves : Json → List Json → Prop where
  | nothing : HasLeaves .null []
  | list {fields : List (String × Json)} {items leaves : List Json}
      (lists : ListsItems fields items) (inside : HaveLeaves items leaves) :
      HasLeaves (.object fields) leaves
  | leaf {document : Json} (something : document ≠ .null)
      (single : ∀ fields items, document = .object fields → ¬ListsItems fields items) :
      HasLeaves document [document]

/-- The leaves of several documents, one document after the other. -/
inductive HaveLeaves : List Json → List Json → Prop where
  | nil : HaveLeaves [] []
  | cons {document : Json} {rest first more : List Json} (head : HasLeaves document first)
      (tail : HaveLeaves rest more) : HaveLeaves (document :: rest) (first ++ more)

end

/-- The test for a list decides whether fields list items. -/
theorem isList_iff {fields : List (String × Json)} :
    isList fields = true ↔ ∃ items, ListsItems fields items := by
  have kinds : ((fields.lookup "kind").bind Json.text?).any
      (fun kind => "List".toList.isSuffixOf kind.toList) = true ↔
        ∃ kind, fields.lookup "kind" = some (.string kind) ∧ "List".toList <:+ kind.toList := by
    simp only [Option.any_eq_true, Option.bind_eq_some_iff, StatusCondition.text?_eq_some_iff,
      List.isSuffixOf_iff_suffix, exists_eq_right]
  have items : ((fields.lookup "items").bind Json.items?).isSome = true ↔
      ∃ items, fields.lookup "items" = some (.array items) := by
    simp only [Option.isSome_iff_exists, Option.bind_eq_some_iff,
      StatusCondition.items?_eq_some_iff, exists_eq_right]
  rw [isList, Bool.and_eq_true, kinds, items]
  simp only [ListsItems, exists_and_left]

/-- The leaves of a list are those of its items. -/
private theorem leavesOfItems_of_lookup {fields : List (String × Json)} {items : List Json}
    (found : fields.lookup "items" = some (.array items)) :
    leavesOfItems fields = leavesOfAll items := by
  induction fields with
  | nil => cases found
  | cons field rest ih =>
      obtain ⟨name, value⟩ := field
      rw [Json.lookup_cons_ite] at found
      rw [leavesOfItems]
      by_cases isItems : name = "items"
      · rw [if_pos isItems.symm, Option.some.injEq] at found
        rw [if_pos isItems, found, leavesOfArray]
      · rw [if_neg (Ne.symm isItems)] at found
        rw [if_neg isItems, ih found]

theorem ListsItems.leaves_eq {fields : List (String × Json)} {items : List Json}
    (lists : ListsItems fields items) : leaves (.object fields) = leavesOfAll items := by
  rw [leaves, if_pos (isList_iff.mpr ⟨items, lists⟩), leavesOfItems_of_lookup lists.2]

/-- A document that is neither nothing nor a list is its own leaf. -/
theorem leaves_of_single {document : Json} (something : document ≠ .null)
    (single : ∀ fields items, document = .object fields → ¬ListsItems fields items) :
    leaves document = [document] := by
  cases document with
  | null => exact absurd rfl something
  | object fields =>
      have notList : ¬isList fields = true := by
        rw [isList_iff]
        rintro ⟨items, lists⟩
        exact single fields items rfl lists
      rw [leaves, if_neg notList]
  | _ => rfl

mutual

/-- A document has no other leaves than those that are gathered. -/
theorem HasLeaves.eq {document : Json} {found : List Json} :
    HasLeaves document found → found = leaves document
  | .nothing => rfl
  | .list lists inside => by rw [lists.leaves_eq, inside.eq]
  | .leaf something single => (leaves_of_single something single).symm

theorem HaveLeaves.eq {documents found : List Json} :
    HaveLeaves documents found → found = leavesOfAll documents
  | .nil => rfl
  | .cons head tail => by rw [leavesOfAll, head.eq, tail.eq]

end

mutual

/-- By recursion on the document: a list is found to be one before its items are looked at. -/
theorem hasLeaves_leaves : ∀ document : Json, HasLeaves document (leaves document)
  | .null => .nothing
  | .boolean _ => .leaf (by simp) (by simp)
  | .number _ => .leaf (by simp) (by simp)
  | .string _ => .leaf (by simp) (by simp)
  | .array _ => .leaf (by simp) (by simp)
  | .object fields => by
      by_cases list : isList fields = true
      · obtain ⟨items, lists⟩ := isList_iff.mp list
        rw [leaves, if_pos list]
        exact .list lists (haveLeaves_leavesOfItems fields items lists.2)
      · rw [leaves, if_neg list]
        refine .leaf (by simp) ?_
        intro others items same lists
        obtain rfl := Json.object.inj same
        exact list (isList_iff.mpr ⟨items, lists⟩)

theorem haveLeaves_leavesOfItems : ∀ (fields : List (String × Json)) (items : List Json),
    fields.lookup "items" = some (.array items) → HaveLeaves items (leavesOfItems fields)
  | (name, value) :: rest, items, found => by
      rw [Json.lookup_cons_ite] at found
      rw [leavesOfItems]
      by_cases isItems : name = "items"
      · rw [if_pos isItems.symm, Option.some.injEq] at found
        rw [if_pos isItems]
        exact haveLeaves_leavesOfArray value items found
      · rw [if_neg (Ne.symm isItems)] at found
        rw [if_neg isItems]
        exact haveLeaves_leavesOfItems rest items found

theorem haveLeaves_leavesOfArray : ∀ (value : Json) (items : List Json),
    value = .array items → HaveLeaves items (leavesOfArray value)
  | .array items, _, rfl => haveLeaves_leavesOfAll items

/-- What is gathered from several documents is the leaves of each. -/
theorem haveLeaves_leavesOfAll : ∀ documents : List Json,
    HaveLeaves documents (leavesOfAll documents)
  | [] => .nil
  | document :: rest => .cons (hasLeaves_leaves document) (haveLeaves_leavesOfAll rest)

end

/-- Every sequence of documents has leaves, and no others than are gathered. -/
theorem haveLeaves_iff {documents found : List Json} :
    HaveLeaves documents found ↔ found = leavesOfAll documents :=
  ⟨HaveLeaves.eq, fun same => same ▸ haveLeaves_leavesOfAll documents⟩

/-! ### Lists around documents -/

/-- The list of some documents. -/
def listOf (documents : List Json) : Json :=
  .ofFields [("kind", .string "List"), ("items", .array documents)]

private theorem listOf_eq (documents : List Json) :
    listOf documents = .object [("items", .array documents), ("kind", .string "List")] :=
  rfl

/-- One list is put around a run of documents, or around a run of the items of a list. -/
inductive Wrapped : List Json → List Json → Prop where
  | run (before run after : List Json) :
      Wrapped (before ++ run ++ after) (before ++ listOf run :: after)
  | inside {fields : List (String × Json)} {items wrapped : List Json}
      (before after : List Json) (lists : ListsItems fields items)
      (step : Wrapped items wrapped) :
      Wrapped (before ++ .object fields :: after)
        (before ++ .object (Json.insert "items" (.array wrapped) fields) :: after)

/-- The leaves of two runs of documents are those of the first and then those of the second. -/
theorem leavesOfAll_append (first second : List Json) :
    leavesOfAll (first ++ second) = leavesOfAll first ++ leavesOfAll second := by
  induction first with
  | nil => rfl
  | cons document rest ih => rw [List.cons_append, leavesOfAll, leavesOfAll, ih, List.append_assoc]

theorem listsItems_listOf (documents : List Json) :
    ListsItems [("items", .array documents), ("kind", .string "List")] documents :=
  ⟨⟨"List", rfl, List.suffix_rfl⟩, rfl⟩

/-- A list stays a list when other items are put in the place of its own. -/
theorem ListsItems.insert {fields : List (String × Json)} {items : List Json}
    (lists : ListsItems fields items) (others : List Json) :
    ListsItems (Json.insert "items" (.array others) fields) others := by
  obtain ⟨⟨kind, found, ends⟩, -⟩ := lists
  refine ⟨⟨kind, ?_, ends⟩, ?_⟩
  · rw [Json.lookup_insert, if_neg (by decide), found]
  · rw [Json.lookup_insert, if_pos rfl]

/-- A list around documents has their leaves. -/
theorem Wrapped.leavesOfAll_eq {documents wrapped : List Json} (step : Wrapped documents wrapped) :
    leavesOfAll wrapped = leavesOfAll documents := by
  induction step with
  | run before run after =>
      rw [leavesOfAll_append, leavesOfAll, listOf_eq, (listsItems_listOf run).leaves_eq,
        leavesOfAll_append, leavesOfAll_append, List.append_assoc]
  | inside before after lists _ ih =>
      rw [leavesOfAll_append, leavesOfAll, (lists.insert _).leaves_eq, ih, ← lists.leaves_eq,
        leavesOfAll_append, leavesOfAll]

/-! ### The answer of the loader -/

/-- Loading makes the leaves of the documents into resources, one after the other.  It succeeds with
one resource for each leaf, in order, or fails as the first leaf that is no resource does.  A list
around a run of documents, or around a run of the items of a list, changes neither. -/
theorem load_leaves (documents : List Json) :
    ∃ leaves,
      (∀ others, HaveLeaves documents others ↔ others = leaves) ∧
      (∀ resources, ofDocuments ⟨documents, true⟩ = .ok resources ↔
        List.Forall₂ (fun leaf resource => Resource.ofObject leaf = .ok resource)
          leaves resources) ∧
      (∀ error, ofDocuments ⟨documents, true⟩ = .error error ↔
        ∃ before failing after cause, leaves = before ++ failing :: after ∧
          (∀ leaf ∈ before, ∃ resource, Resource.ofObject leaf = .ok resource) ∧
          Resource.ofObject failing = .error cause ∧ error = .resource cause) ∧
      ∀ wrapped, Wrapped documents wrapped → ∀ complete,
        ofDocuments ⟨wrapped, complete⟩ = ofDocuments ⟨documents, complete⟩ := by
  refine ⟨leavesOfAll documents, fun others => haveLeaves_iff, fun resources => ?_,
    fun error => ofDocuments_eq_error_iff, fun wrapped step complete => ?_⟩
  · rw [ofDocuments_eq_ok_iff]
    simp only [true_and]
  · rw [ofDocuments, ofDocuments, resourcesOfAll_eq, resourcesOfAll_eq, step.leavesOfAll_eq]

/-- A list around the items of a list of another kind, one of which is nothing, is not seen. -/
theorem load_leaves_of_nested :
    Wrapped
        [.null, .object [("items", .array [.null, Resource.document "Node" none "n"]),
          ("kind", .string "NodeList")]]
        [.null, .object (Json.insert "items"
          (.array [listOf [.null, Resource.document "Node" none "n"]])
          [("items", .array [.null, Resource.document "Node" none "n"]),
            ("kind", .string "NodeList")])] ∧
      ofDocuments ⟨[.null, .object (Json.insert "items"
          (.array [listOf [.null, Resource.document "Node" none "n"]])
          [("items", .array [.null, Resource.document "Node" none "n"]),
            ("kind", .string "NodeList")])], true⟩ =
        .ok [⟨"Node", "n", none, some (Resource.document "Node" none "n")⟩] := by
  have lists : ListsItems [("items", .array [.null, Resource.document "Node" none "n"]),
      ("kind", .string "NodeList")] [.null, Resource.document "Node" none "n"] :=
    ⟨⟨"NodeList", rfl, by decide⟩, rfl⟩
  have step := Wrapped.inside [.null] [] lists
    (.run [] [.null, Resource.document "Node" none "n"] [])
  obtain ⟨leaves, unique, loaded, -, unchanged⟩ := load_leaves
    [.null, .object [("items", .array [.null, Resource.document "Node" none "n"]),
      ("kind", .string "NodeList")]]
  have gathered : [Resource.document "Node" none "n"] = leaves :=
    (unique _).mp (haveLeaves_iff.mpr rfl)
  refine ⟨step, (unchanged _ step true).trans ((loaded _).mpr ?_)⟩
  rw [← gathered]
  exact .cons (Resource.ofObject_document ..) .nil

end WaitFor.Manifest
