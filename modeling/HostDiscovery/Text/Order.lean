import HostDiscovery.Text.Blank

/-!
# The order of texts

Texts are ordered by the code points of their characters, a beginning of a text
before the text. The order is strict and total: of two different texts one
precedes the other.
-/
namespace HostDiscovery.Text

/-- The order of texts by the code points of their characters. -/
def precedes : Text → Text → Bool
  | [], [] => false
  | [], _ :: _ => true
  | _ :: _, [] => false
  | a :: s, b :: t => Nat.blt a.toNat b.toNat || (a == b && precedes s t)

theorem precedes_trans {r s t : Text} (h : precedes r s = true) (h' : precedes s t = true) :
    precedes r t = true := by
  induction r generalizing s t with
  | nil => cases s <;> cases t <;> simp_all [precedes]
  | cons a r ih =>
    cases s with
    | nil => simp [precedes] at h
    | cons b s =>
      cases t with
      | nil => simp [precedes] at h'
      | cons c t =>
        simp only [precedes, Bool.or_eq_true, Nat.blt_eq, Bool.and_eq_true, beq_iff_eq] at h h' ⊢
        rcases h with h | ⟨rfl, h⟩ <;> rcases h' with h' | ⟨rfl, h'⟩
        · exact .inl (Nat.lt_trans h h')
        · exact .inl h
        · exact .inl h'
        · exact .inr ⟨rfl, ih h h'⟩

theorem precedes_of_ne {s t : Text} (hne : s ≠ t) (h : precedes s t = false) :
    precedes t s = true := by
  induction s generalizing t with
  | nil => cases t <;> simp_all [precedes]
  | cons a s ih =>
    cases t with
    | nil => rfl
    | cons b t =>
      simp only [precedes, Bool.or_eq_false_iff, Bool.and_eq_false_iff] at h
      simp only [precedes, Bool.or_eq_true, Nat.blt_eq, Bool.and_eq_true, beq_iff_eq]
      have hle : ¬ a.toNat < b.toNat := by
        intro hlt
        rw [← Nat.blt_eq] at hlt
        simp [hlt] at h
      by_cases hab : a = b
      · subst hab
        exact .inr ⟨rfl, ih (fun e => hne (e ▸ rfl)) (by simpa using h.2)⟩
      · refine .inl (Nat.lt_of_le_of_ne (Nat.le_of_not_lt hle) fun e => hab ?_)
        exact (Char.toNat_inj.mp e).symm

end HostDiscovery.Text
