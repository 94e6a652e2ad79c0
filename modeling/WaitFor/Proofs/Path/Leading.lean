/-
Module: WaitFor.Proofs.Path.Leading
Purpose: What a path may begin with, and what becomes of it once it is relaxed.
Main exports:
  Reader.inner_of_blank, Reader.inner_dot_of_blank, Reader.head_of_inner, Reader.inner_dot_refused,
  Shorthand.relax_template, Path.compile_template, Path.compile_template_keeps
-/
import Mathlib
import WaitFor.Proofs.Path.RoundTrip
import WaitFor.Proofs.Path.Shorthand

namespace WaitFor

namespace Reader

open Spelling

/-!
### The front of a text

The reader of a whole text passes over white space, a dollar sign, and a dot with nothing but white
space behind it.  What is left has to begin with a dot or a bracket, or be white space.
-/

theorem skipBlank_of_blank {text : List Char} (blank : Padding text) (position : Nat) :
    (⟨position, text⟩ : Cursor).skipBlank = ⟨position + text.length, []⟩ := by
  have passed := skipBlank_append position blank (Stops.nil Text.isBlank)
  rwa [List.append_nil] at passed

/-- White space is no step. -/
theorem step_of_blank {path : Reads Chain} {text : List Char} (blank : Padding text)
    (position : Nat) : step path ⟨position, text⟩ = .ok none := by
  cases text with
  | nil => rfl
  | cons c rest =>
      have isBlank : Text.isBlank c = true := blank c List.mem_cons_self
      exact step_of_ne (ne_of_holds isBlank (by decide)) (ne_of_holds isBlank (by decide))
        position rest

/-- A text without a step at its front is an empty chain. -/
theorem chain_of_step_none {k : Cursor} (ends : ∀ path, step path k = .ok none) (fuel : Nat) :
    chain fuel k = .ok ([], k) := by
  cases fuel with
  | zero => rfl
  | succ fuel =>
      rw [chain, ends]
      rfl

/-- Reading is the chain behind the front, with nothing but white space behind the chain. -/
theorem inner_of_root {text : List Char} {k : Cursor} (front : root (Cursor.start text) = k) :
    inner text = (chain k.rest.length k).bind fun read =>
      match read.2.skipBlank.rest with
      | [] => .ok read.1
      | found :: _ => .error (.unexpectedChar found read.2.skipBlank.position) := by
  subst front
  rfl

theorem inner_of_root_blank {text rest : List Char} {position : Nat}
    (front : root (Cursor.start text) = ⟨position, rest⟩) (blank : Padding rest) :
    inner text = .ok [] := by
  rw [inner_of_root front, chain_of_step_none fun path => step_of_blank blank position]
  simp only [Except.bind, skipBlank_of_blank blank]

/-- White space is read as the empty chain. -/
theorem inner_of_blank {text : List Char} (blank : Padding text) : inner text = .ok [] := by
  have front : root (Cursor.start text) = ⟨text.length, []⟩ := by
    rw [root, Cursor.start, skipBlank_of_blank blank, Nat.zero_add]
  exact inner_of_root_blank front (by simp [Padding])

theorem start_skipBlank {c : Char} (solid : Text.isBlank c = false) (rest : List Char) :
    (Cursor.start (c :: rest)).skipBlank = Cursor.start (c :: rest) :=
  skipBlank_of_stops 0 (Stops.cons solid rest)

/-- A dot belongs to the front only if nothing but white space stands behind it. -/
theorem root_dot (text : List Char) :
    root (Cursor.start ('.' :: text)) =
      if text.all Text.isBlank then ⟨1, text⟩ else ⟨0, '.' :: text⟩ := by
  rw [root, start_skipBlank (by decide)]
  rfl

/-- A dot with nothing but white space behind it is read as the empty chain. -/
theorem inner_dot_of_blank {text : List Char} (blank : Padding text) :
    inner ('.' :: text) = .ok [] := by
  have front := root_dot text
  rw [if_pos (List.all_eq_true.mpr blank)] at front
  exact inner_of_root_blank front blank

/-- The first character of a text that is read is a dot, an opening bracket, a dollar sign or white
space. -/
theorem head_of_inner {c : Char} {rest : List Char} {selectors : Chain}
    (reads : inner (c :: rest) = .ok selectors) :
    c = '.' ∨ c = '[' ∨ c = '$' ∨ Text.isBlank c = true := by
  by_contra other
  simp only [not_or, Bool.not_eq_true] at other
  obtain ⟨noDot, noBracket, noDollar, solid⟩ := other
  have front : root (Cursor.start (c :: rest)) = ⟨0, c :: rest⟩ := by
    rw [root, start_skipBlank solid]
    simp [Cursor.start, noDollar, noDot]
  have stays : (⟨0, c :: rest⟩ : Cursor).skipBlank = ⟨0, c :: rest⟩ := start_skipBlank solid rest
  rw [inner_of_root front, chain_of_step_none fun path => step_of_ne noDot noBracket 0 rest] at reads
  simp only [Except.bind, stays, reduceCtorEq] at reads

/-- A dot must not stand in front of what is neither a further dot, nor an asterisk, nor a
name. -/
theorem inner_dot_refused {c : Char} {rest : List Char} (solid : ¬Padding (c :: rest))
    (noDot : c ≠ '.') (noAsterisk : c ≠ '*') (noName : isNameChar c = false) :
    inner ('.' :: c :: rest) = .error (.emptyName 1) := by
  have nothing : Reader.name ⟨1, c :: rest⟩ = .error (.emptyName 1) :=
    name_of_stops (Stops.cons noName rest) 1
  have refused (path : Reads Chain) :
      step path ⟨0, '.' :: c :: rest⟩ = .error (.emptyName 1) := by
    rw [step_dot noDot, afterDot_of_ne noAsterisk, nothing]
    rfl
  have chained : chain ('.' :: c :: rest).length ⟨0, '.' :: c :: rest⟩ = .error (.emptyName 1) := by
    rw [List.length_cons, chain, refused]
    rfl
  have front := root_dot (c :: rest)
  rw [if_neg fun all => solid (List.all_eq_true.mp all)] at front
  rw [inner_of_root front, chained]
  rfl

end Reader

/-!
### Templates in short form

Relaxing puts a dot in front of a path that has none, whatever the path begins with.
-/

namespace Shorthand

open Spelling

theorem toList_template (text : List Char) : (template text).toList = '{' :: (text ++ ['}']) := by
  rw [template, String.toList_ofList]

theorem template_ne_empty (text : List Char) : template text ≠ "" := by
  intro same
  have lists := congrArg String.toList same
  simp [toList_template] at lists

theorem canonical_eq_template (text : List Char) : canonical text = template ('.' :: text) := rfl

/-- The fields of a template are its text without a dot in front. -/
theorem fields_template (text : List Char) : fields (template text).toList = dropDot text := by
  rw [toList_template, fields, insideBraces?_braced]
  rfl

theorem dropDot_of_ne {c : Char} (noDot : c ≠ '.') (rest : List Char) :
    dropDot (c :: rest) = c :: rest := by
  simp [dropDot, noDot]

/-- Without a dot in front, a text with fields still has them. -/
theorem isFields_dropDot {text : List Char} (isFields : IsFields text) :
    IsFields (dropDot text) := by
  rw [dropDot.eq_def]
  split
  · next c rest =>
      refine ⟨List.cons_ne_nil _ _, ?_⟩
      simpa [hasBrace] using isFields.2
  · exact isFields

/-- A template is relaxed to the template with exactly one dot more, or none, in front. -/
theorem relax_template {text : List Char} (isFields : IsFields text) :
    relax (template text) = .ok (template ('.' :: dropDot text)) := by
  have fieldsOf := isFields_dropDot isFields
  rw [← fields_template] at fieldsOf
  rw [relax_of_fields (template_ne_empty text) fieldsOf, fields_template, canonical_eq_template]

end Shorthand

/-- A template is read inside its braces. -/
theorem Chain.read_template_eq (text : List Char) :
    Chain.read (Spelling.template text) = Reader.inner text := by
  have last : (text ++ ['}']).getLast? = some '}' := by simp
  have front : (text ++ ['}']).dropLast = text := by simp
  rw [Chain.read, Shorthand.toList_template]
  simp only [last, front, if_true]

namespace Path

open Spelling

/-- Compiling a template is reading its text with one dot in front. -/
theorem compile_template {text : List Char} (isFields : Shorthand.IsFields text) :
    compile (template text) =
      match Reader.inner ('.' :: Shorthand.dropDot text) with
      | .ok selectors => .ok ⟨template ('.' :: Shorthand.dropDot text), selectors⟩
      | .error fault => .error (.badPath (template text) fault) := by
  have filled : (template ('.' :: Shorthand.dropDot text)).isEmpty = false := by
    simpa using Shorthand.template_ne_empty ('.' :: Shorthand.dropDot text)
  rw [compile_of_relax (Shorthand.relax_template isFields), filled, Chain.read_template_eq]
  rfl

/-- A text that is read on its own keeps its meaning behind a further dot only as white space. -/
theorem inner_dot_outcome {c : Char} {rest : List Char} {selectors : Chain} (noDot : c ≠ '.')
    (reads : Reader.inner (c :: rest) = .ok selectors) :
    (Padding (c :: rest) ∧ Reader.inner ('.' :: c :: rest) = .ok selectors) ∨
      (¬Padding (c :: rest) ∧ Reader.inner ('.' :: c :: rest) = .error (.emptyName 1)) := by
  by_cases blank : Padding (c :: rest)
  · rw [Reader.inner_of_blank blank] at reads
    exact Or.inl ⟨blank, by rw [Reader.inner_dot_of_blank blank, reads]⟩
  · refine Or.inr ⟨blank, ?_⟩
    rcases Reader.head_of_inner reads with rfl | rfl | rfl | isBlank
    · exact absurd rfl noDot
    · exact Reader.inner_dot_refused blank (by decide) (by decide) (by decide)
    · exact Reader.inner_dot_refused blank (by decide) (by decide) (by decide)
    · have noName : Reader.isNameChar c = false := by
        rw [Reader.isNameChar, isBlank]
        rfl
      exact Reader.inner_dot_refused blank noDot (ne_of_holds isBlank (by decide)) noName

/-- A template that is read as given selectors is compiled to the same selectors exactly if its text
begins with a dot or is nothing but white space.  Any other text that is read begins with a dollar
sign, a bracket or white space, and the dot that relaxing puts in front has no name behind it. -/
theorem compile_template_keeps {text : List Char} {selectors : Chain}
    (isFields : Shorthand.IsFields text) (notLone : text ≠ ['.'])
    (reads : Chain.read (template text) = .ok selectors) :
    ((∃ path, compile (template text) = .ok path ∧ path.selectors = selectors) ↔
        text.head? = some '.' ∨ Padding text) ∧
      (¬(text.head? = some '.' ∨ Padding text) →
        compile (template text) = .error (.badPath (template text) (.emptyName 1))) := by
  rw [Chain.read_template_eq] at reads
  rw [compile_template isFields]
  cases text with
  | nil => exact absurd rfl isFields.1
  | cons c rest =>
      by_cases isDot : c = '.'
      · subst isDot
        cases rest with
        | nil => exact absurd rfl notLone
        | cons d rest =>
            rw [Shorthand.dropDot, reads]
            refine ⟨⟨fun _ => Or.inl rfl, fun _ => ⟨_, rfl, rfl⟩⟩, fun other => ?_⟩
            exact absurd (Or.inl rfl) other
      · have noDot : (c :: rest).head? ≠ some '.' := by simpa using isDot
        rw [Shorthand.dropDot_of_ne isDot]
        rcases inner_dot_outcome isDot reads with ⟨blank, same⟩ | ⟨solid, refused⟩
        · rw [same]
          refine ⟨⟨fun _ => Or.inr blank, fun _ => ⟨_, rfl, rfl⟩⟩, fun other => ?_⟩
          exact absurd (Or.inr blank) other
        · rw [refused]
          refine ⟨⟨?_, fun kept => ?_⟩, fun _ => rfl⟩
          · rintro ⟨path, impossible, -⟩
            cases impossible
          · exact absurd kept (not_or.mpr ⟨noDot, solid⟩)

/-- A descent in front is kept; a quoted name in brackets is read as a template, but is refused once
it is relaxed. -/
theorem compile_template_keeps_of_descent :
    (Shorthand.IsFields "..a".toList ∧ "..a".toList ≠ ['.'] ∧
      Chain.read (template "..a".toList) = .ok [.descent, .field "a"] ∧
      ∃ path, compile (template "..a".toList) = .ok path ∧
        path.selectors = [.descent, .field "a"]) ∧
    (Shorthand.IsFields "['k']".toList ∧ "['k']".toList ≠ ['.'] ∧
      Chain.read (template "['k']".toList) = .ok [.field "k"] ∧
      compile (template "['k']".toList) =
        .error (.badPath (template "['k']".toList) (.emptyName 1))) := by
  have descentRead : Chain.read (template "..a".toList) = .ok [.descent, .field "a"] := by
    rw [Chain.read_template_eq]
    rfl
  have bracketRead : Chain.read (template "['k']".toList) = .ok [.field "k"] := by
    rw [Chain.read_template_eq]
    rfl
  have descentFields : Shorthand.IsFields "..a".toList := ⟨by decide, rfl⟩
  have bracketFields : Shorthand.IsFields "['k']".toList := ⟨by decide, rfl⟩
  have solid : ¬Padding "['k']".toList := fun blank =>
    absurd (blank '[' (by decide)) (by decide)
  refine ⟨⟨descentFields, by decide, descentRead, ?_⟩,
    ⟨bracketFields, by decide, bracketRead, ?_⟩⟩
  · exact (compile_template_keeps descentFields (by decide) descentRead).1.mpr (Or.inl rfl)
  · apply (compile_template_keeps bracketFields (by decide) bracketRead).2
    exact not_or.mpr ⟨by decide, solid⟩

/-- A dollar sign in front is read as the root of a template, but there is no path that compiles
with it. -/
theorem compile_refuses_root :
    Shorthand.IsFields "$.a".toList ∧ "$.a".toList ≠ ['.'] ∧
      template "$.a".toList = "\x7b$.a\x7d" ∧
      Chain.read "\x7b$.a\x7d" = .ok [.field "a"] ∧
      compile "\x7b$.a\x7d" = .error (.badPath "\x7b$.a\x7d" (.emptyName 1)) :=
  ⟨⟨by decide, rfl⟩, by decide, by decide, rfl, rfl⟩

end Path

end WaitFor
