/-
Module: WaitFor.Proofs.Resource.Key
Purpose: Which resources the key of a resource tells apart, and what a store makes of the others.
Main exports:
  Resource.SameHandle, Resource.Unslashed, Resource.key_eq_iff, Resource.exists_key_eq,
  Resource.key_unique_iff, Resource.key_of_two_scopes
-/
import Mathlib
import WaitFor.Proofs.Resource.Leaves
import WaitFor.Proofs.Resource.Store
import WaitFor.Proofs.Text.LetterCase
import WaitFor.Proofs.Text.Parts

namespace WaitFor.Resource

/-!
The key of a resource joins its kind, its namespace and its name by slashes, and nothing keeps a
slash out of the three.  Where there is one, the key can be cut at another place, into the parts of
another resource.
-/

/-- The two resources have the same kind up to letter case, the same namespace and the same name. -/
def SameHandle (one two : Resource) : Prop :=
  Text.lowercase one.kind = Text.lowercase two.kind ∧ one.scope.getD "" = two.scope.getD "" ∧
    one.name = two.name

/-- There is no slash in the kind, the namespace or the name. -/
def Unslashed (resource : Resource) : Prop :=
  '/' ∉ resource.kind.toList ∧ '/' ∉ (resource.scope.getD "").toList ∧
    '/' ∉ resource.name.toList

theorem toList_key (resource : Resource) :
    resource.key.toList = (Text.lowercase resource.kind).toList ++
      '/' :: ((resource.scope.getD "").toList ++ '/' :: resource.name.toList) := by
  have slash : "/".toList = ['/'] := rfl
  simp only [key, String.toList_append, slash, List.append_assoc, List.cons_append,
    List.nil_append]

/-- A text is cut in one way only at its first slash. -/
theorem cut_unique {front front' back back' : List Char} (free : '/' ∉ front) (free' : '/' ∉ front')
    (same : front ++ '/' :: back = front' ++ '/' :: back') : front = front' ∧ back = back' := by
  have cuts := congrArg (Text.cutAt? '/') same
  rw [Text.cutAt?_append free, Text.cutAt?_append free', Option.some.injEq] at cuts
  exact Prod.mk.inj cuts

/-- Kinds and namespaces without a slash, and the name behind them, are read back from the key. -/
theorem key_eq_iff {one two : Resource}
    (kind : '/' ∉ one.kind.toList) (scope : '/' ∉ (one.scope.getD "").toList)
    (kind' : '/' ∉ two.kind.toList) (scope' : '/' ∉ (two.scope.getD "").toList) :
    one.key = two.key ↔ SameHandle one two := by
  constructor
  · intro same
    have texts := congrArg String.toList same
    rw [← Text.slash_mem_lowercase] at kind kind'
    rw [toList_key, toList_key] at texts
    obtain ⟨kinds, texts⟩ := cut_unique kind kind' texts
    obtain ⟨scopes, names⟩ := cut_unique scope scope' texts
    exact ⟨String.toList_inj.mp kinds, String.toList_inj.mp scopes, String.toList_inj.mp names⟩
  · rintro ⟨kinds, scopes, names⟩
    rw [key, key, kinds, scopes, names]

theorem count_key (resource : Resource) :
    resource.key.toList.count '/' = (Text.lowercase resource.kind).toList.count '/' +
      (resource.scope.getD "").toList.count '/' + resource.name.toList.count '/' + 2 := by
  rw [toList_key]
  simp only [List.count_append, List.count_cons_self]
  omega

/-- Every slash of a key but two is one of a part. -/
theorem unslashed_iff_count (resource : Resource) :
    resource.Unslashed ↔ resource.key.toList.count '/' = 2 := by
  rw [count_key, Unslashed, ← Text.slash_mem_lowercase, ← List.count_eq_zero,
    ← List.count_eq_zero, ← List.count_eq_zero]
  omega

theorem exists_of_slash_mem {text : String} (slash : '/' ∈ text.toList) :
    ∃ front back : String, text = front ++ "/" ++ back := by
  obtain ⟨front, back, split⟩ := List.append_of_mem slash
  refine ⟨String.ofList front, String.ofList back, ?_⟩
  rw [← String.toList_inj, split]
  have slash : "/".toList = ['/'] := rfl
  simp only [String.toList_append, String.toList_ofList, slash, List.append_assoc,
    List.singleton_append]

/-- Two texts joined by a slash are longer than either of them. -/
theorem joined_ne (front back : String) :
    front ++ "/" ++ back ≠ front ∧ front ++ "/" ++ back ≠ back := by
  have longer : (front ++ "/" ++ back).length = front.length + 1 + back.length := by
    rw [String.length_append, String.length_append]
    rfl
  constructor
  · intro same
    rw [same] at longer
    omega
  · intro same
    rw [same] at longer
    omega

/-- A slash in a part can be read as one between two parts. -/
theorem exists_key_eq {resource : Resource} (slashed : ¬resource.Unslashed)
    (object : Option Json) :
    ∃ other : Resource, other.object = object ∧ other.key = resource.key ∧
      ¬SameHandle other resource := by
  -- The other resource has a longer namespace or a longer name, where the other part is cut.
  by_cases name : '/' ∈ resource.name.toList
  · obtain ⟨front, back, split⟩ := exists_of_slash_mem name
    refine ⟨⟨resource.kind, back, some (resource.scope.getD "" ++ "/" ++ front), object⟩, rfl, ?_,
      ?_⟩
    · simp only [key, split, Option.getD_some, String.append_assoc]
    · rintro ⟨-, scopes, -⟩
      exact (joined_ne (resource.scope.getD "") front).1 scopes
  by_cases scope : '/' ∈ (resource.scope.getD "").toList
  · obtain ⟨front, back, split⟩ := exists_of_slash_mem scope
    refine ⟨⟨resource.kind, back ++ "/" ++ resource.name, some front, object⟩, rfl, ?_, ?_⟩
    · simp only [key, split, Option.getD_some, String.append_assoc]
    · rintro ⟨-, -, names⟩
      exact (joined_ne back resource.name).2 names
  by_cases kind : '/' ∈ resource.kind.toList
  · obtain ⟨front, back, split⟩ := exists_of_slash_mem kind
    refine ⟨⟨front, resource.name,
      some (Text.lowercase back ++ "/" ++ resource.scope.getD ""), object⟩, rfl, ?_, ?_⟩
    · rw [key, key, split, Text.lowercase_append_slash]
      simp only [Option.getD_some, String.append_assoc]
    · rintro ⟨-, scopes, -⟩
      exact (joined_ne (Text.lowercase back) (resource.scope.getD "")).2 scopes
  exact absurd ⟨kind, scope, name⟩ slashed

/-- A resource without a slash shares its key with no other. -/
theorem Unslashed.sameHandle {one two : Resource} (unslashed : two.Unslashed)
    (same : one.key = two.key) : SameHandle one two := by
  have other : one.Unslashed := by
    rw [unslashed_iff_count] at unslashed ⊢
    rw [same, unslashed]
  exact (key_eq_iff other.1 other.2.1 unslashed.1 unslashed.2.1).mp same

/-! ### What a store tells apart -/

/-- The key tells a resource apart from every other exactly if there is no slash in its kind, its
namespace and its name.  Otherwise there are other resources of which an object answers for this
one, and with which it is forgotten.  Any texts can be loaded as these three. -/
theorem key_unique_iff (resource : Resource) :
    ((∀ other : Resource, other.key = resource.key → SameHandle other resource) ↔
      resource.Unslashed) ∧
    ((∀ (store : Store) (other : Resource), ¬SameHandle other resource →
      (store.insert other).get resource = store.get resource) ↔ resource.Unslashed) ∧
    ((∀ (store : Store) (other : Resource), ¬SameHandle other resource →
      (store.erase other).get resource = store.get resource) ↔ resource.Unslashed) ∧
    ∃ document : Json, Manifest.ofDocuments ⟨[document], true⟩ =
      .ok [⟨resource.kind, resource.name, resource.scope, some document⟩] := by
  refine ⟨⟨fun unique => ?_, fun unslashed other => unslashed.sameHandle⟩,
    ⟨fun kept => ?_, fun unslashed store other different => ?_⟩,
    ⟨fun kept => ?_, fun unslashed store other different => ?_⟩, ?_⟩
  · by_contra slashed
    obtain ⟨other, -, same, different⟩ := exists_key_eq slashed none
    exact different (unique other same)
  · by_contra slashed
    obtain ⟨other, carried, same, different⟩ := exists_key_eq slashed (some .null)
    have answers := kept .empty other different
    rw [Store.get_insert_of_key_eq carried same, Store.get_empty] at answers
    cases answers
  · exact Store.get_insert_of_ne fun same => different (unslashed.sameHandle same)
  · by_contra slashed
    obtain ⟨other, carried, same, different⟩ := exists_key_eq slashed (some .null)
    have answers := kept (Store.empty.insert other) other different
    rw [Store.get_erase_of_key_eq same, Store.get_insert_of_key_eq carried same] at answers
    cases answers
  · exact Store.get_erase_of_ne fun same => different (unslashed.sameHandle same)
  · refine ⟨document resource.kind resource.scope resource.name, ?_⟩
    rw [Manifest.ofDocuments_eq_ok_iff, Manifest.leavesOfAll, Manifest.leaves_document]
    exact ⟨rfl, .cons (ofObject_document ..) .nil⟩

/-- Two pods of one stream, in different namespaces and of different names, have the same key.  The
object of the first answers for the second, which was never stored, and is forgotten with it. -/
theorem key_of_two_scopes :
    ∃ one two : Resource,
      Manifest.ofDocuments
          ⟨[document "Pod" (some "a/b") "c", document "Pod" (some "a") "b/c"], true⟩ =
        .ok [one, two] ∧
      one.key = two.key ∧ one.scope = some "a/b" ∧ two.scope = some "a" ∧
      one.name = "c" ∧ two.name = "b/c" ∧ ¬SameHandle one two ∧
      Store.empty.get two = .error (.notFound "Pod" "b/c") ∧
      (Store.empty.insert one).get two = .ok (document "Pod" (some "a/b") "c") ∧
      ((Store.empty.insert one).erase two).get one = .error (.notFound "Pod" "c") := by
  have same : (⟨"Pod", "c", some "a/b", some (document "Pod" (some "a/b") "c")⟩ : Resource).key =
      (⟨"Pod", "b/c", some "a", some (document "Pod" (some "a") "b/c")⟩ : Resource).key := by
    decide +kernel
  refine ⟨_, _, ?_, same, rfl, rfl, rfl, rfl, ?_, rfl, Store.get_insert_of_key_eq rfl same _,
    Store.get_erase_of_key_eq same.symm _⟩
  · rw [Manifest.ofDocuments_eq_ok_iff, Manifest.leavesOfAll, Manifest.leavesOfAll,
      Manifest.leaves_document, Manifest.leaves_document]
    exact ⟨rfl, .cons (ofObject_document ..) (.cons (ofObject_document ..) .nil)⟩
  · rintro ⟨-, scopes, -⟩
    exact absurd scopes (by decide)

end WaitFor.Resource
