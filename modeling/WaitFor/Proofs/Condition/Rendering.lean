/-
Module: WaitFor.Proofs.Condition.Rendering
Purpose: Which conditions are read back from the text that they are written as.
Main exports:
  Condition.Bare, Condition.unquoted_self_iff, Condition.unquoted_in_quotes,
  Condition.WritesQuery, Condition.classify_query_iff, Condition.Rereadable,
  Condition.classify_text_iff
-/
import Mathlib
import WaitFor.Proofs.Condition.Classification

namespace WaitFor.Condition

/-! ### Values and their quotes -/

/-- A value with no quote character in front and none at the end. -/
def Bare (value : String) : Prop :=
  (∀ c ∈ value.toList.head?, Reader.isQuote c = false) ∧
    ∀ c ∈ value.toList.getLast?, Reader.isQuote c = false

/-- Taking off a quote character in front leaves the end of a text. -/
theorem FrontUnquoted.suffix {text rest : List Char} (unquoted : FrontUnquoted text rest) :
    rest <:+ text := by
  cases unquoted with
  | quoted _ => exact List.suffix_cons _ _
  | bare _ => exact List.suffix_rfl

theorem frontUnquoted_self_iff {text : List Char} :
    FrontUnquoted text text ↔ ∀ c ∈ text.head?, Reader.isQuote c = false := by
  constructor
  · intro unquoted
    cases unquoted with
    | bare noQuote => exact noQuote
  · exact .bare

/-- The characters of an unquoted value are characters of the value. -/
theorem Unquoted.mem {value unquoted : String} {c : Char} (trimmed : Unquoted value unquoted)
    (member : c ∈ unquoted.toList) : c ∈ value.toList := by
  obtain ⟨middle, front, back⟩ := trimmed
  have inMiddle : c ∈ middle.reverse := back.suffix.mem (List.mem_reverse.mpr member)
  exact front.suffix.mem (List.mem_reverse.mp inMiddle)

/-- A value is its own unquoted form exactly if it has no quote character at either end. -/
theorem unquoted_self_iff {value : String} : Unquoted value value ↔ Bare value := by
  rw [Bare, ← List.head?_reverse, ← frontUnquoted_self_iff, ← frontUnquoted_self_iff]
  constructor
  · rintro ⟨middle, front, back⟩
    have length := back.suffix.length_le
    rw [List.length_reverse, List.length_reverse] at length
    obtain rfl := front.suffix.eq_of_length_le length
    exact ⟨front, back⟩
  · exact fun ⟨front, back⟩ => ⟨_, front, back⟩

/-- Of a text in quotes the unquoted form is the text, whatever it is. -/
theorem unquoted_in_quotes {quote : Char} (isQuote : Reader.isQuote quote = true)
    (text : String) :
    Unquoted (String.singleton quote ++ text ++ String.singleton quote) text := by
  refine ⟨text.toList ++ [quote], ?_, ?_⟩
  · simpa using @FrontUnquoted.quoted quote (text.toList ++ [quote]) isQuote
  · simpa using @FrontUnquoted.quoted quote text.toList.reverse isQuote

/-! ### Path conditions -/

/-- The text writes the condition on a compiled path and a value: behind `jsonpath=` stand some
spelling of the path and the value, perhaps in quotes, and neither holds an equals sign. -/
def WritesQuery (raw : String) (path : Path) (value : String) : Prop :=
  ∃ given text, raw = "jsonpath=" ++ given ++ "=" ++ text ∧
    '=' ∉ given.toList ∧ '=' ∉ text.toList ∧ text ≠ "" ∧
    Path.compile given = .ok path ∧ Unquoted text value

/-- The text behind `jsonpath=` has the answer of its path and its value. -/
theorem classify_path_and_value {path value : String} (pathFree : '=' ∉ path.toList)
    (valueFree : '=' ∉ value.toList) :
    PathAnswer path value (classify ("jsonpath=" ++ path ++ "=" ++ value)) := by
  have answer := pathOf_answer pathFree valueFree
  have spelled : "jsonpath=" ++ path ++ "=" ++ value =
      "jsonpath=" ++ String.ofList (path.toList ++ '=' :: value.toList) := by
    rw [← String.toList_inj]
    simp
  rw [← classify_path, ← spelled] at answer
  rwa [String.ofList_toList, String.ofList_toList] at answer

theorem classify_query_iff (raw : String) (path : Path) (value : String) :
    classify raw = .ok (.query path value) ↔ WritesQuery raw path value := by
  constructor
  · intro accepted
    rcases classify_kinds raw with ⟨-, deleted⟩ | ⟨text, -, named⟩ | ⟨text, rfl, own⟩ |
      ⟨-, unknown⟩
    · rw [deleted] at accepted
      cases accepted
    · obtain ⟨name, status, same, -⟩ := exists_writesNamed text
      rw [named, same] at accepted
      cases accepted
    · rw [own] at accepted
      rcases pathOf_outcome text with ⟨-, malformed⟩ |
        ⟨-, given, value', parts, givenFree, valueFree, answers⟩
      · rw [malformed] at accepted
        cases accepted
      · rw [accepted] at answers
        cases answers with
        | accepted _ nonempty compiled trimmed =>
            refine ⟨given, value', ?_, givenFree, valueFree, nonempty, compiled, trimmed⟩
            rw [parts, String.append_assoc, String.append_assoc, String.append_assoc]
    · rw [unknown] at accepted
      cases accepted
  · rintro ⟨given, text, rfl, givenFree, textFree, nonempty, compiled, trimmed⟩
    have relaxed := (Path.compile_eq_ok_iff.mp compiled).1
    exact (classify_path_and_value givenFree textFree).unique
      (.accepted relaxed nonempty compiled trimmed)

/-! ### Reading a condition back -/

/-- The conditions that are read back as they were: all but those whose value is lost, or loses a
quote character, when it is read once more. -/
def Rereadable : Condition → Prop
  | deletion => True
  | named _ _ => True
  | query _ value => value ≠ "" ∧ Bare value

theorem text_named (name value : String) :
    (named name value).text = "condition=" ++ name ++ "=" ++ value := rfl

theorem text_query (path : Path) (value : String) :
    (query path value).text = "jsonpath=" ++ path.source ++ "=" ++ value := rfl

theorem classify_text_deletion : classify deletion.text = .ok deletion :=
  classify_deletion ((lowercase_eq_delete deletion.text).mpr (by decide))

/-- Only the name of a named condition may not hold an equals sign. -/
theorem classify_text_named {name : String} (nameFree : '=' ∉ name.toList) (value : String) :
    classify (named name value).text = .ok (named name value) := by
  rw [classify_named_iff, text_named]
  exact ⟨nameFree, Or.inl rfl⟩

/-- The text of a path condition has the answer of the canonical path and the value, because neither
holds an equals sign. -/
theorem classify_text_answer {raw : String} {path : Path} {value : String}
    (classified : classify raw = .ok (.query path value)) :
    Path.compile path.source = .ok path ∧
      PathAnswer path.source value (classify (query path value).text) := by
  obtain ⟨given, text, -, givenFree, textFree, -, compiled, trimmed⟩ :=
    (classify_query_iff raw path value).mp classified
  have relaxed := (Path.compile_eq_ok_iff.mp compiled).1
  have sourceFree : '=' ∉ path.source.toList :=
    Shorthand.not_mem_of_relax relaxed (by decide) givenFree
  have valueFree : '=' ∉ value.toList := fun member => textFree (trimmed.mem member)
  rw [text_query]
  exact ⟨Path.compile_source compiled, classify_path_and_value sourceFree valueFree⟩

/-- A path condition comes back with the same path, unless there is no value left. -/
theorem classify_text_query {raw : String} {path : Path} {value unquoted : String}
    (classified : classify raw = .ok (.query path value)) (trimmed : Unquoted value unquoted) :
    classify (query path value).text =
      if value = "" then .error .emptyCondition else .ok (.query path unquoted) := by
  obtain ⟨compiled, answer⟩ := classify_text_answer classified
  have relaxed := (Path.compile_eq_ok_iff.mp compiled).1
  by_cases empty : value = ""
  · rw [if_pos empty]
    exact answer.unique (.noValue relaxed empty)
  · rw [if_neg empty]
    exact answer.unique (.accepted relaxed empty compiled trimmed)

/-- A condition that was read is read back from its text exactly if it waits for a deletion or for a
named condition, or for a value that is not empty and has no quote character at either end. -/
theorem classify_text_iff {raw : String} {condition : Condition}
    (classified : classify raw = .ok condition) :
    classify condition.text = .ok condition ↔ condition.Rereadable := by
  cases condition with
  | deletion => exact ⟨fun _ => trivial, fun _ => classify_text_deletion⟩
  | named name value =>
      have nameFree := ((classify_named_iff raw name value).mp classified).1
      exact ⟨fun _ => trivial, fun _ => classify_text_named nameFree value⟩
  | query path value =>
      rw [classify_text_query classified (unquoted_trimQuotes value), Rereadable]
      by_cases empty : value = ""
      · rw [if_pos empty]
        exact ⟨fun impossible => (by cases impossible), fun kept => absurd empty kept.1⟩
      · rw [if_neg empty, ← unquoted_self_iff]
        constructor
        · intro same
          have trimmed := unquoted_trimQuotes value
          rw [(Condition.query.inj (Except.ok.inj same)).2] at trimmed
          exact ⟨empty, trimmed⟩
        · rintro ⟨-, bare⟩
          rw [(unquoted_trimQuotes value).unique bare]

/-- Of two layers of quotes one is left when a condition is read, and it is lost when the condition
is read back; a value with quotes inside comes back. -/
theorem classify_text_iff_of_quotes :
    (classify "jsonpath=.a=''x''" = .ok (.query ⟨"\x7b.a\x7d", [.field "a"]⟩ "'x'") ∧
      classify (query ⟨"\x7b.a\x7d", [.field "a"]⟩ "'x'").text ≠
        .ok (.query ⟨"\x7b.a\x7d", [.field "a"]⟩ "'x'")) ∧
    (classify "jsonpath=a=\"it's\"" = .ok (.query ⟨"\x7b.a\x7d", [.field "a"]⟩ "it's") ∧
      classify (query ⟨"\x7b.a\x7d", [.field "a"]⟩ "it's").text =
        .ok (.query ⟨"\x7b.a\x7d", [.field "a"]⟩ "it's")) := by
  have dotted : Path.compile ".a" = .ok ⟨"\x7b.a\x7d", [.field "a"]⟩ := rfl
  have plain : Path.compile "a" = .ok ⟨"\x7b.a\x7d", [.field "a"]⟩ := rfl
  have twice : classify "jsonpath=.a=''x''" =
      .ok (.query ⟨"\x7b.a\x7d", [.field "a"]⟩ "'x'") := by
    have trimmed := @unquoted_in_quotes '\'' (by decide) "'x'"
    have spelled : String.singleton '\'' ++ "'x'" ++ String.singleton '\'' = "''x''" := by decide
    rw [spelled] at trimmed
    rw [classify_query_iff]
    exact ⟨".a", "''x''", by decide, by decide, by decide, by decide, dotted, trimmed⟩
  have once : classify "jsonpath=a=\"it's\"" =
      .ok (.query ⟨"\x7b.a\x7d", [.field "a"]⟩ "it's") := by
    have trimmed := @unquoted_in_quotes '"' (by decide) "it's"
    have spelled : String.singleton '"' ++ "it's" ++ String.singleton '"' = "\"it's\"" := by
      decide
    rw [spelled] at trimmed
    rw [classify_query_iff]
    exact ⟨"a", "\"it's\"", by decide, by decide, by decide, by decide, plain, trimmed⟩
  refine ⟨⟨twice, fun kept => ?_⟩, once, (classify_text_iff once).mpr ?_⟩
  · obtain ⟨-, front, -⟩ := (classify_text_iff twice).mp kept
    exact absurd (front '\'' rfl) (by decide)
  · refine ⟨by decide, ?_, ?_⟩
    · intro c member
      obtain rfl : 'i' = c := by simpa using member
      decide
    · intro c member
      obtain rfl : 's' = c := by simpa using member
      decide

end WaitFor.Condition
