/-
Module: WaitFor.Proofs.Path.Accepted
Purpose: Every chain that is read is well-formed, and what a compiled path may begin with.
Main exports:
  Chain.literals, Literal.IsNumber, Selector.Opens, Grammar.Steps.readUpTo,
  Grammar.Steps.numbers, Chain.sound_of_read, Path.opens_of_compile, Path.compile_only_sound
-/
import Mathlib
import WaitFor.Proofs.Numeric.Rounding
import WaitFor.Proofs.Path.Grammar
import WaitFor.Proofs.Path.Leading

namespace WaitFor

/-! ### Constants of a chain -/

mutual

/-- The constants in the tests of a selector, at every depth. -/
def Selector.literals : Selector → List Literal
  | .filter test => test.literals
  | _ => []

def Test.literals : Test → List Literal
  | .present path => Chain.literals path
  | .compare left _ right => left.literals ++ right.literals

def Operand.literals : Operand → List Literal
  | .current path => Chain.literals path
  | .literal value => [value]

/-- The constants in the tests of a chain, at every depth. -/
def Chain.literals : List Selector → List Literal
  | [] => []
  | selector :: rest => selector.literals ++ Chain.literals rest

end

/-- A constant that is numeric is a number. -/
def Literal.IsNumber (value : Literal) : Prop := ∀ x, value = .number x → x.isNaN = false

namespace Reader

private theorem signedWord_of_integer {text : List Char} {position : Int}
    (reads : integer? text = some position) : SignedWord position := by
  simp only [integer?, readInteger?, Option.bind_eq_bind, Option.bind_eq_some_iff] at reads
  obtain ⟨n, -, bounded⟩ := reads
  obtain ⟨within, same⟩ := Option.ite_none_right_eq_some.mp bounded
  cases same
  exact within

/-- A bound that is read is a machine word, if it is not absent. -/
private theorem signedWord_of_bound {part : List Char} {bound : Option Int}
    (reads : bound? part = some bound) : ∀ position ∈ bound, SignedWord position := by
  intro position member
  rw [bound?] at reads
  split at reads
  · cases reads
    cases member
  · obtain ⟨other, isInteger, rfl⟩ := Option.map_eq_some_iff.mp reads
    cases member
    exact signedWord_of_integer isInteger

/-- Positions and bounds that are read are words. -/
private theorem wellFormed_of_indexOrSliceOf {text : List Char} {selector : Selector}
    (reads : indexOrSliceOf text = .ok selector) :
    selector.WellFormed ∧ selector.isDescent = false := by
  obtain ⟨position, rfl, isInteger⟩ | ⟨start, stop, step, rfl, -, bounds⟩ :=
    indexOrSliceOf_cases reads
  · exact ⟨signedWord_of_integer isInteger, rfl⟩
  · have words : ∀ bound ∈ [start, stop, step], ∀ position ∈ bound, SignedWord position := by
      intro bound member
      obtain rfl | ⟨part, isBound⟩ := bounds bound member
      · simp
      · exact signedWord_of_bound isBound
    exact ⟨⟨words start (by simp), words stop (by simp), words step (by simp)⟩, rfl⟩

end Reader

/-- A selector that is no descent is none at the end of a chain. -/
theorem Chain.endsInDescent_cons_of_single {selector : Selector}
    (single : selector.isDescent = false) (more : List Selector) :
    Chain.endsInDescent (selector :: more) = Chain.endsInDescent more := by
  cases more with
  | nil => exact single
  | cons next more => rfl

namespace Grammar

/-! ### Chains that the rules build -/

/-- Behind a dot stands an asterisk or a name of at least one character. -/
theorem AfterDot.first {text rest : List Char} {selector : Selector}
    (behind : AfterDot text selector rest) :
    selector = .wildcard ∨ ∃ name ≠ "", selector = .field name := by
  cases behind with
  | wildcard rest => exact Or.inl rfl
  | field reads nonempty => exact Or.inr ⟨_, by simpa using nonempty, rfl⟩

theorem AfterDot.isDescent {text rest : List Char} {selector : Selector}
    (behind : AfterDot text selector rest) : selector.isDescent = false := by
  obtain rfl | ⟨name, -, rfl⟩ := behind.first
  · rfl
  · rfl

/-- A selector behind a dot is well-formed. -/
theorem AfterDot.wellFormed {text rest : List Char} {selector : Selector}
    (behind : AfterDot text selector rest) : selector.WellFormed := by
  obtain rfl | ⟨name, -, rfl⟩ := behind.first
  · exact trivial
  · exact trivial

theorem Inside.isDescent {text rest : List Char} {selector : Selector}
    (inside : Inside text selector rest) : selector.isDescent = false := by
  cases inside with
  | wildcard => rfl
  | filter => rfl
  | @names _ _ _ _ names => cases names <;> rfl
  | positions reads => exact (Reader.wellFormed_of_indexOrSliceOf reads).2

/-- Nothing is read where nothing is left. -/
theorem Steps.of_nil {rest : List Char} {steps : List Selector} (read : Steps [] steps rest) :
    steps = [] ∧ rest = [] := by
  cases read with
  | done => exact ⟨rfl, rfl⟩

/-- An opening bracket begins a selector that is no descent. -/
theorem Steps.of_bracket {text rest : List Char} {steps : List Selector}
    (read : Steps ('[' :: text) steps rest) :
    ∃ selector more, steps = selector :: more ∧ selector.isDescent = false := by
  cases read with
  | done ends => exact absurd rfl (ends '[' rfl).2
  | bracket inside closes next => exact ⟨_, _, rfl, inside.isDescent⟩

/-- One name in brackets is a field, and a union has two names or more. -/
private theorem wellFormed_names (name : String) (names : List String) :
    Selector.WellFormed (if names.isEmpty then .field name else .union (name :: names)) := by
  cases names with
  | nil => trivial
  | cons other names => exact Nat.le_add_left 2 names.length

/-- A well-formed chain that ends in a descent only where nothing is left behind it. -/
structure ReadUpTo (steps : List Selector) (rest : List Char) : Prop where
  wellFormed : Chain.WellFormed steps
  ends : Chain.endsInDescent steps = true → rest = []

namespace ReadUpTo

theorem nil (rest : List Char) : ReadUpTo [] rest := ⟨trivial, fun ends => by cases ends⟩

theorem cons {selector : Selector} {more : List Selector} {rest : List Char}
    (formed : selector.WellFormed) (single : selector.isDescent = false)
    (behind : ReadUpTo more rest) : ReadUpTo (selector :: more) rest := by
  refine ⟨⟨formed, by simp [single], behind.wellFormed⟩, fun ends => behind.ends ?_⟩
  rwa [Chain.endsInDescent_cons_of_single single] at ends

theorem descent {selector : Selector} {more : List Selector} {rest : List Char}
    (single : selector.isDescent = false) (behind : ReadUpTo (selector :: more) rest) :
    ReadUpTo (.descent :: selector :: more) rest :=
  ⟨⟨trivial, fun _ => by simpa using single, behind.wellFormed⟩, behind.ends⟩

end ReadUpTo

mutual

theorem Inside.wellFormed : ∀ {text rest : List Char} {selector : Selector},
    Inside text selector rest → selector.WellFormed
  | _, _, _, .wildcard _ => trivial
  | _, _, _, .filter _ body closes => body.wellFormed (by rintro rfl; cases closes)
  | _, _, _, .names _ _ => wellFormed_names _ _
  | _, _, _, .positions reads => (Reader.wellFormed_of_indexOrSliceOf reads).1

/-- A test in front of something, as of a parenthesis, is well-formed. -/
theorem Tested.wellFormed : ∀ {text rest : List Char} {t : Test},
    Tested text t rest → rest ≠ [] → t.WellFormed
  | _, _, _, .present side closes, _ => side.wellFormed (by rintro rfl; cases closes)
  | _, _, _, @Tested.compare _ _ _ _ _ _ op first sign second, inside => by
      refine ⟨first.wellFormed ?_, second.wellFormed inside⟩
      rintro rfl
      cases op <;> cases sign

theorem Side.wellFormed : ∀ {text rest : List Char} {side : Operand},
    Side text side rest → rest ≠ [] → side.WellFormed
  | _, _, _, .current steps, inside => by
      have behind := steps.readUpTo
      exact ⟨behind.wellFormed, by simpa using fun descends => inside (behind.ends descends)⟩
  | _, _, _, .literal _, _ => trivial

/-- By recursion on the rules, of which only the one for two dots can put a descent at the end. -/
theorem Steps.readUpTo : ∀ {text rest : List Char} {steps : List Selector},
    Steps text steps rest → ReadUpTo steps rest
  | _, _, _, .done _ => .nil _
  | _, _, _, .dot first next => .cons first.wellFormed first.isDescent next.readUpTo
  | _, _, _, .dots first next =>
      .descent first.isDescent (.cons first.wellFormed first.isDescent next.readUpTo)
  | _, _, _, .bareDots alone next => by
      -- Two dots without a name are the end of the whole text or stand in front of a bracket.
      have behind := next.readUpTo
      obtain rfl | ⟨after, rfl⟩ := alone
      · obtain ⟨rfl, rfl⟩ := next.of_nil
        exact ⟨⟨trivial, by simp, trivial⟩, fun _ => rfl⟩
      · obtain ⟨selector, more, rfl, single⟩ := next.of_bracket
        exact .descent single behind
  | _, _, _, .bracket inside _ next =>
      .cons inside.wellFormed inside.isDescent next.readUpTo

end

/-! ### Numbers that are read -/

/-- A number among the constants comes from a decimal literal, so it stands for a number. -/
theorem Constant.isNumber {text rest : List Char} {value : Literal}
    (constant : Constant text value rest) : value.IsNumber := by
  rintro x rfl
  cases constant with
  | number => exact Decimal.isNaN_toBinary64 _
  | word known => simp [Reader.keywords] at known

/-- What stands behind a dot has no constants. -/
private theorem literals_behind {text mid : List Char} {selector : Selector} {more : List Selector}
    (first : AfterDot text selector mid) (numbers : ∀ value ∈ Chain.literals more, value.IsNumber) :
    ∀ value ∈ Chain.literals (selector :: more), value.IsNumber := by
  obtain rfl | ⟨name, -, rfl⟩ := first.first
  · exact numbers
  · exact numbers

mutual

theorem Inside.numbers : ∀ {text rest : List Char} {selector : Selector},
    Inside text selector rest → ∀ value ∈ selector.literals, value.IsNumber
  | _, _, _, .wildcard _ => by simp [Selector.literals]
  | _, _, _, .filter _ body _ => body.numbers
  | _, _, _, @Inside.names _ _ _ _ names _ _ => by cases names <;> simp [Selector.literals]
  | _, _, _, .positions reads => by
      obtain ⟨position, rfl, -⟩ | ⟨start, stop, step, rfl, -⟩ := Reader.indexOrSliceOf_cases reads
      · simp [Selector.literals]
      · simp [Selector.literals]

theorem Tested.numbers : ∀ {text rest : List Char} {t : Test},
    Tested text t rest → ∀ value ∈ t.literals, value.IsNumber
  | _, _, _, .present side _ => side.numbers
  | _, _, _, .compare first _ second =>
      List.forall_mem_append.mpr ⟨first.numbers, second.numbers⟩

theorem Side.numbers : ∀ {text rest : List Char} {side : Operand},
    Side text side rest → ∀ value ∈ side.literals, value.IsNumber
  | _, _, _, .current steps => steps.numbers
  | _, _, _, .literal constant => by simpa [Operand.literals] using constant.isNumber

/-- By recursion on the rules, through the filters at any depth. -/
theorem Steps.numbers : ∀ {text rest : List Char} {steps : List Selector},
    Steps text steps rest → ∀ value ∈ Chain.literals steps, value.IsNumber
  | _, _, _, .done _ => by simp [Chain.literals]
  | _, _, _, .dot first next => literals_behind first next.numbers
  | _, _, _, .dots first next => by
      have behind := literals_behind first next.numbers
      exact behind
  | _, _, _, .bareDots _ next => next.numbers
  | _, _, _, .bracket inside _ next => List.forall_mem_append.mpr ⟨inside.numbers, next.numbers⟩

end

end Grammar

/-! ### Accepted templates and compiled paths -/

/-- The selectors that may stand first in a compiled path. -/
def Selector.Opens : Selector → Prop
  | .field name => name ≠ ""
  | .wildcard => True
  | .descent => True
  | _ => False

/-- A dot begins a step, and with a selector that may stand first. -/
theorem Grammar.Steps.opens {text rest : List Char} {steps : List Selector}
    (read : Steps ('.' :: text) steps rest) :
    ∃ first more, steps = first :: more ∧ first.Opens := by
  cases read with
  | done ends => exact absurd rfl (ends '.' rfl).1
  | @dot _ _ _ selector more first =>
      refine ⟨selector, more, rfl, ?_⟩
      obtain rfl | ⟨name, nonempty, rfl⟩ := first.first
      · trivial
      · exact nonempty
  | dots => exact ⟨_, _, rfl, trivial⟩
  | bareDots => exact ⟨_, _, rfl, trivial⟩

/-- A template that is read is a text in braces. -/
theorem Chain.inner_of_read {template : String} {steps : Chain}
    (reads : Chain.read template = .ok steps) : ∃ text, Reader.inner text = .ok steps := by
  rw [Chain.read] at reads
  split at reads
  · next rest _ =>
      split at reads
      · exact ⟨rest.dropLast, reads⟩
      · cases reads
  · cases reads

/-- A template is read only as a well-formed chain, whose numbers are no NaN. -/
theorem Chain.sound_of_read {template : String} {steps : Chain}
    (reads : Chain.read template = .ok steps) :
    Chain.WellFormed steps ∧ ∀ value ∈ Chain.literals steps, value.IsNumber := by
  obtain ⟨text, inside⟩ := Chain.inner_of_read reads
  obtain ⟨rest, areSteps, -⟩ := Reader.steps_of_inner inside
  exact ⟨areSteps.readUpTo.wellFormed, areSteps.numbers⟩

namespace Path

open Spelling

/-- Behind the dot that relaxing puts in front, white space is no step and any other text begins with
one. -/
theorem opens_of_inner {text : List Char} {steps : Chain}
    (reads : Reader.inner ('.' :: text) = .ok steps) :
    (steps = [] ↔ Padding text) ∧ ∀ first ∈ steps.head?, first.Opens := by
  by_cases blank : Padding text
  · rw [Reader.inner_dot_of_blank blank] at reads
    obtain rfl := Except.ok.inj reads
    exact ⟨⟨fun _ => blank, fun _ => rfl⟩, by simp⟩
  · obtain ⟨rest, areSteps, -⟩ := Reader.steps_of_inner reads
    have front := Reader.root_dot text
    rw [if_neg fun all => blank (List.all_eq_true.mp all)] at front
    rw [front] at areSteps
    obtain ⟨first, more, rfl, opens⟩ := areSteps.opens
    refine ⟨⟨fun empty => ?_, fun padding => absurd padding blank⟩, by simpa using opens⟩
    cases empty

/-- A compiled path is empty exactly if its fields are white space, and begins with a descent, an
asterisk or a name otherwise. -/
theorem opens_of_compile {raw : String} {path : Path} (compiled : compile raw = .ok path) :
    (path.selectors = [] ↔
        Shorthand.fields raw.toList ≠ [] ∧ Padding (Shorthand.fields raw.toList)) ∧
      ∀ first ∈ path.selectors.head?, first.Opens := by
  obtain ⟨relaxed, nonempty, reads⟩ := compile_eq_ok_iff.mp compiled
  obtain ⟨-, empty⟩ | ⟨-, isFields, canonical⟩ := Shorthand.relax_eq_ok relaxed
  · exact absurd empty nonempty
  · rw [canonical, Shorthand.canonical_eq_template, Chain.read_template_eq] at reads
    obtain ⟨blank, opens⟩ := opens_of_inner reads
    exact ⟨blank.trans ⟨fun padding => ⟨isFields.1, padding⟩, fun both => both.2⟩, opens⟩

/-- Only well-formed chains are read.  In the chain of a template and in the chains of its tests, at
every depth, a union has two names or more, no descent follows a descent, and no number is NaN; a
descent is the last step at most of the whole chain.  A compiled path is empty exactly if nothing but
white space is left of it without its braces and one dot; if not, it begins with a named field, an
asterisk or a descent. -/
theorem compile_only_sound :
    (∀ (template : String) (steps : Chain), Chain.read template = .ok steps →
      Chain.WellFormed steps ∧ ∀ value ∈ Chain.literals steps, value.IsNumber) ∧
    ∀ (raw : String) (path : Path), compile raw = .ok path →
      (path.selectors = [] ↔ Shorthand.fields raw.toList ≠ [] ∧
          ∀ c ∈ Shorthand.fields raw.toList, Text.isBlank c = true) ∧
        ∀ first ∈ path.selectors.head?, first.Opens :=
  ⟨fun _ _ reads => Chain.sound_of_read reads, fun _ _ compiled => opens_of_compile compiled⟩

/-- A test with a number, a union and a descent at the end; a path of white space, one that is a lone
dot, and one that begins with a name. -/
theorem compile_only_sound_of_filter :
    (∃ steps, Chain.read "\x7b[?(@.a >= -1.5e3)]['x', 'y']..\x7d" = .ok steps ∧
      Chain.literals steps = [.number (Decimal.toBinary64 ⟨true, 15, 2⟩)] ∧
      Chain.WellFormed steps ∧ ∀ value ∈ Chain.literals steps, value.IsNumber) ∧
    (∃ path, compile "\x7b. \x7d" = .ok path ∧ path.selectors = []) ∧
    (∃ path, compile "." = .ok path ∧ path.selectors = [.descent] ∧
      ∀ first ∈ path.selectors.head?, first.Opens) ∧
    ∃ path, compile "a[0]" = .ok path ∧ path.selectors = [.field "a", .index 0] ∧
      ∀ first ∈ path.selectors.head?, first.Opens := by
  have read : Chain.read "\x7b[?(@.a >= -1.5e3)]['x', 'y']..\x7d" =
      .ok [.filter (.compare (.current [.field "a"]) .atLeast
            (.literal (.number (Decimal.toBinary64 ⟨true, 15, 2⟩)))),
          .union ["x", "y"], .descent] := rfl
  have spaces : compile "\x7b. \x7d" = .ok ⟨"\x7b. \x7d", []⟩ := rfl
  have space : Shorthand.fields "\x7b. \x7d".toList = [' '] := rfl
  have blank : Text.isBlank ' ' = true := rfl
  have lone : compile "." = .ok ⟨"\x7b..\x7d", [.descent]⟩ := rfl
  have named : compile "a[0]" = .ok ⟨"\x7b.a[0]\x7d", [.field "a", .index 0]⟩ := rfl
  exact ⟨⟨_, read, rfl, compile_only_sound.1 _ _ read⟩,
    ⟨_, spaces, (compile_only_sound.2 _ _ spaces).1.mpr (by rw [space]; simp [blank])⟩,
    ⟨_, lone, rfl, (compile_only_sound.2 _ _ lone).2⟩,
    ⟨_, named, rfl, (compile_only_sound.2 _ _ named).2⟩⟩

end Path

end WaitFor
