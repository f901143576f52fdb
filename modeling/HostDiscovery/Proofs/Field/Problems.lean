import HostDiscovery.Field.Reader
import Mathlib.Tactic.Lemma
import Mathlib.Tactic.SplitIfs

/-! What readers of untyped fields find wrong. Readers of single values find at most one thing wrong,
with the value as a whole; a list has as many problems as it has items that are refused. -/
namespace HostDiscovery

namespace Checked

variable {α β : Type}

def errors : Checked α → List FieldError
  | .ok _ => []
  | .error es => es

lemma errors_both (first : Checked α) (second : Checked β) :
    errors (both first second) = errors first ++ errors second := by
  cases first <;> cases second <;> simp [both, errors]

lemma errors_map (f : α → β) (checked : Checked α) : errors (checked.map f) = errors checked := by
  cases checked <;> rfl

lemma errors_under (step : FieldStep) (checked : Checked α) : errors (under step checked) =
    (errors checked).map fun e => { e with location := step :: e.location } := by
  cases checked <;> rfl

/-- There is a value, or one thing is wrong with the whole of it. -/
def Plain (checked : Checked α) : Prop :=
  (∃ a, checked = .ok a) ∨ ∃ p, p ≠ .conflictingPreferences ∧ checked = problem p

lemma plain_ok (a : α) : Plain (.ok a) := .inl ⟨a, rfl⟩

lemma plain_problem {p : FieldProblem} (h : p ≠ .conflictingPreferences) :
    Plain (problem p : Checked α) := .inr ⟨p, h, rfl⟩

lemma Plain.ne_conflictingPreferences {checked : Checked α} (h : checked.Plain) {p : FieldProblem}
    (hp : checked = problem p) : p ≠ .conflictingPreferences := by
  rcases h with ⟨a, ha⟩ | ⟨q, hq, ha⟩
  · cases ha.symm.trans hp
  · cases ha.symm.trans hp
    exact hq

lemma Plain.errors_cases {checked : Checked α} (h : checked.Plain) :
    (∃ a, checked = .ok a) ∧ checked.errors = [] ∨
      (¬ ∃ a, checked = .ok a) ∧
        ∃ p, p ≠ .conflictingPreferences ∧ checked.errors = [⟨[], p⟩] := by
  rcases h with ⟨a, rfl⟩ | ⟨p, hp, rfl⟩
  · exact .inl ⟨⟨a, rfl⟩, rfl⟩
  · exact .inr ⟨by simp [problem], p, hp, rfl⟩

end Checked

namespace Field

open Checked

lemma plain_wholeNumber (x : Float) : (wholeNumber x).Plain := by
  unfold wholeNumber
  cases Binary64.toInt? x with
  | none => exact plain_problem (by split_ifs <;> decide)
  | some i =>
    dsimp only
    split_ifs
    · exact plain_ok i
    · exact plain_problem (by decide)

lemma plain_boolOfInt (i : Int) : (boolOfInt i).Plain := by
  unfold boolOfInt
  split_ifs
  · exact plain_ok false
  · exact plain_ok true
  · exact plain_problem (by decide)
  · exact plain_problem (by decide)

lemma plain_bool (v : Value) : (bool v).Plain := by
  cases v with
  | bool b => exact plain_ok b
  | int i => exact plain_boolOfInt i
  | float x =>
    unfold bool
    dsimp only
    cases wholeNumber x with
    | ok i => exact plain_boolOfInt i
    | error es => exact plain_problem (by decide)
  | text s =>
    unfold bool
    dsimp only
    split_ifs
    · exact plain_ok false
    · exact plain_ok true
    · exact plain_problem (by decide)
  | null | list | object => exact plain_problem (by decide)

lemma plain_integer (v : Value) : (integer v).Plain := by
  cases v with
  | bool b => exact plain_ok _
  | int i => exact plain_ok i
  | float x => exact plain_wholeNumber x
  | text s =>
    unfold integer
    dsimp only
    rcases integerOfText s.toList with (_ | _) | i
    · exact plain_problem (by decide)
    · exact plain_problem (by decide)
    · exact plain_ok i
  | null | list | object => exact plain_problem (by decide)

lemma plain_number (v : Value) : (number v).Plain := by
  cases v with
  | bool b => exact plain_ok _
  | int i =>
    unfold number
    dsimp only
    split_ifs
    · exact plain_ok _
    · exact plain_problem (by decide)
  | float x => exact plain_ok x
  | text s =>
    unfold number
    dsimp only
    cases numberOfText? s.toList with
    | none => exact plain_problem (by decide)
    | some x => exact plain_ok x
  | null | list | object => exact plain_problem (by decide)

lemma text_eq_ok_iff {v : Value} {s : String} : text v = .ok s ↔ v = .text s := by
  cases v <;> simp [text, problem]

lemma plain_text (v : Value) : (text v).Plain := by
  cases v with
  | text s => exact plain_ok s
  | null | bool | int | float | list | object => exact plain_problem (by decide)

lemma exists_text_eq_problem_iff {v : Value} :
    (∃ p, text v = problem p) ↔ ∀ s, v ≠ .text s := by
  cases v <;> simp [text, problem]

lemma plain_portNumber (v : Value) : (portNumber v).Plain := by
  unfold portNumber
  rcases plain_integer v with ⟨i, hi⟩ | ⟨p, hp, hi⟩
  · rw [hi]
    dsimp only
    split_ifs
    · exact plain_problem (by decide)
    · exact plain_problem (by decide)
    · exact plain_ok i
  · rw [hi]
    exact plain_problem hp

lemma plain_positiveNumber (v : Value) : (positiveNumber v).Plain := by
  unfold positiveNumber
  rcases plain_number v with ⟨x, hx⟩ | ⟨p, hp, hx⟩
  · rw [hx]
    dsimp only
    split_ifs
    · exact plain_ok x
    · exact plain_problem (by decide)
  · rw [hx]
    exact plain_problem hp

lemma plain_nonemptyText (v : Value) : (nonemptyText v).Plain := by
  unfold nonemptyText
  rcases plain_text v with ⟨s, hs⟩ | ⟨p, hp, hs⟩
  · rw [hs]
    dsimp only
    split_ifs
    · exact plain_problem (by decide)
    · exact plain_ok s
  · rw [hs]
    exact plain_problem hp

lemma list_of_not_list {α : Type} {read : Value → Checked α} {v : Value}
    (h : ∀ items, v ≠ .list items) : list read v = problem .notList := by
  cases v with
  | list items => exact absurd rfl (h items)
  | null | bool | int | float | text | object => rfl

section Items

variable {α : Type} {read : Value → Checked α} {values : List Value} {i : Nat}

lemma errors_items_cons (read : Value → Checked α) (i : Nat) (v : Value) (values : List Value) :
    errors (items read i (v :: values)) =
      ((read v).errors.map fun e => { e with location := .index i :: e.location }) ++
        errors (items read (i + 1) values) := by
  rw [items, errors_map, errors_both, errors_under]

lemma mem_errors_items (hread : ∀ v, (read v).Plain) {e : FieldError} :
    e ∈ errors (items read i values) ↔
      ∃ j v p, values[j]? = some v ∧ read v = problem p ∧ e = ⟨[.index (i + j)], p⟩ := by
  induction values generalizing i with
  | nil => simp [items, errors]
  | cons v values ih =>
    have hhead : e ∈ ((read v).errors.map fun e => { e with location := .index i :: e.location }) ↔
        ∃ p, read v = problem p ∧ e = ⟨[.index i], p⟩ := by
      rcases hread v with ⟨a, ha⟩ | ⟨p, -, hp⟩
      · simp [ha, errors, problem]
      · simp [hp, errors, problem]
    have hindex (j : Nat) : i + 1 + j = i + (j + 1) := by rw [Nat.add_assoc, Nat.add_comm 1 j]
    rw [errors_items_cons, List.mem_append, hhead, ih]
    constructor
    · rintro (⟨p, hp, rfl⟩ | ⟨j, w, p, hw, hp, rfl⟩)
      · exact ⟨0, v, p, rfl, hp, rfl⟩
      · exact ⟨j + 1, w, p, hw, hp, by rw [hindex]⟩
    · rintro ⟨j, w, p, hw, hp, rfl⟩
      cases j with
      | zero =>
        obtain rfl := Option.some.inj hw
        exact .inl ⟨p, hp, rfl⟩
      | succ j => exact .inr ⟨j, w, p, hw, hp, by rw [hindex]⟩

lemma pairwise_errors_items (hread : ∀ v, (read v).Plain) (i : Nat) (values : List Value) :
    (errors (items read i values)).Pairwise fun e f =>
      ∃ j k, j < k ∧ e.location = [.index j] ∧ f.location = [.index k] := by
  induction values generalizing i with
  | nil => exact .nil
  | cons v values ih =>
    rw [errors_items_cons, List.pairwise_append]
    rcases hread v with ⟨a, ha⟩ | ⟨p, -, hp⟩
    · rw [ha]
      exact ⟨.nil, ih (i + 1), nofun⟩
    · rw [hp]
      refine ⟨List.pairwise_singleton _ _, ih (i + 1), ?_⟩
      intro e he f hf
      obtain rfl := List.mem_singleton.mp he
      obtain ⟨j, w, q, -, -, rfl⟩ := (mem_errors_items hread).mp hf
      exact ⟨i, i + 1 + j, by omega, rfl, rfl⟩

end Items

end Field

end HostDiscovery
