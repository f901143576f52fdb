import HostDiscovery.Address.Numeric
import Mathlib.Data.List.Induction
import Mathlib.Data.Nat.Digits.Defs
import Mathlib.Tactic.Lemma

/-! Numbers and their digits: all that there is room for, or those behind the zeros in front. -/
namespace HostDiscovery.NumericAddress

open Text

lemma ofDigits_eq (base : Nat) (digits : List Nat) :
    ofDigits base digits = Nat.ofDigits base digits.reverse := by
  rw [Nat.ofDigits_eq_foldr, ← List.foldl_eq_foldr_reverse, ofDigits]
  simp [Nat.add_comm]

lemma ofDigits_append_singleton (base : Nat) (digits : List Nat) (d : Nat) :
    ofDigits base (digits ++ [d]) = base * ofDigits base digits + d := by
  simp [ofDigits, List.foldl_append]

@[simp] lemma length_toDigits (base count n : Nat) : (toDigits base count n).length = count := by
  induction count generalizing n with
  | zero => rfl
  | succ count ih => simp [toDigits, ih]

lemma lt_of_mem_toDigits {base : Nat} (hb : 0 < base) {count n d : Nat}
    (h : d ∈ toDigits base count n) : d < base := by
  induction count generalizing n with
  | zero => simp [toDigits] at h
  | succ count ih =>
    rcases List.mem_append.mp h with h | h
    · exact ih h
    · rw [List.mem_singleton] at h
      exact h ▸ Nat.mod_lt n hb

lemma ofDigits_toDigits (base count n : Nat) :
    ofDigits base (toDigits base count n) = n % base ^ count := by
  induction count generalizing n with
  | zero => simp [toDigits, ofDigits, Nat.mod_one]
  | succ count ih =>
    rw [toDigits, ofDigits_append_singleton, ih, Nat.pow_succ', Nat.mod_mul]
    omega

lemma ofDigits_zero_cons (base : Nat) (digits : List Nat) :
    ofDigits base (0 :: digits) = ofDigits base digits := by
  simp [ofDigits]

lemma ofDigits_dropLeadingZeros (base : Nat) (digits : List Nat) :
    ofDigits base (dropLeadingZeros digits) = ofDigits base digits := by
  fun_induction dropLeadingZeros digits with
  | case1 d rest ih => rw [ih, ofDigits_zero_cons]
  | case2 => rfl

lemma dropLeadingZeros_suffix (digits : List Nat) : dropLeadingZeros digits <:+ digits := by
  fun_induction dropLeadingZeros digits with
  | case1 d rest ih => exact ih.trans (List.suffix_cons 0 (d :: rest))
  | case2 => exact List.suffix_rfl

lemma dropLeadingZeros_ne_nil {digits : List Nat} (h : digits ≠ []) :
    dropLeadingZeros digits ≠ [] := by
  fun_induction dropLeadingZeros digits with
  | case1 d rest ih => exact ih (by simp)
  | case2 => exact h

lemma head?_dropLeadingZeros {digits : List Nat} (h : 1 < (dropLeadingZeros digits).length) :
    (dropLeadingZeros digits).head? ≠ some 0 := by
  fun_induction dropLeadingZeros digits with
  | case1 d rest ih => exact ih h
  | case2 ds hds =>
    intro hz
    rcases ds with _ | ⟨a, _ | ⟨b, rest⟩⟩
    · simp at h
    · simp at h
    · exact hds b rest (by simpa using hz)

lemma dropLeadingZeros_toDigits {base count n : Nat} (hb : 0 < base) (hc : 0 < count)
    (hn : n < base ^ count) :
    dropLeadingZeros (toDigits base count n) ≠ [] ∧
      (dropLeadingZeros (toDigits base count n)).length ≤ count ∧
      (∀ d ∈ dropLeadingZeros (toDigits base count n), d < base) ∧
      ofDigits base (dropLeadingZeros (toDigits base count n)) = n := by
  have hsuffix := dropLeadingZeros_suffix (toDigits base count n)
  refine ⟨dropLeadingZeros_ne_nil ?_, ?_, ?_, ?_⟩
  · apply List.ne_nil_of_length_pos
    rw [length_toDigits]
    exact hc
  · simpa using hsuffix.length_le
  · exact fun d hd => lt_of_mem_toDigits hb (hsuffix.subset hd)
  · rw [ofDigits_dropLeadingZeros, ofDigits_toDigits, Nat.mod_eq_of_lt hn]

end HostDiscovery.NumericAddress
