import HostDiscovery.Proofs.Text.Split
import HostDiscovery.Address.Numeric

/-! Where the groups of an address are cut: at its colons, and before that at a double colon. -/
namespace HostDiscovery.NumericAddress

open Text

lemma joinWith_pieces (s : Text) : joinWith [':'] (pieces s) = s := by
  cases s with
  | nil => rfl
  | cons c s => exact joinWith_splitOn ':' (c :: s)

lemma pieces_joinWith {pieces : List Text} (h : ∀ piece ∈ pieces, piece ≠ [] ∧ ':' ∉ piece) :
    NumericAddress.pieces (joinWith [':'] pieces) = pieces := by
  cases pieces with
  | nil => rfl
  | cons first more =>
    have hne : (joinWith [':'] (first :: more)).isEmpty = false := by
      rw [List.isEmpty_eq_false_iff]
      cases more <;> simp [joinWith, (h first (by simp)).1]
    rw [NumericAddress.pieces, hne]
    exact splitOn_joinWith fun piece hp => (h piece hp).2

lemma eq_of_cutAtGap {s left right : Text} (h : cutAtGap s = some (left, right)) :
    s = left ++ ':' :: ':' :: right := by
  fun_induction cutAtGap s generalizing left with
  | case1 => simp at h
  | case2 rest =>
    obtain ⟨rfl, rfl⟩ : [] = left ∧ rest = right := by simpa using h
    rfl
  | case3 c rest _ ih =>
    obtain ⟨⟨l, r⟩, hcut, hsides⟩ := Option.map_eq_some_iff.mp h
    obtain ⟨rfl, rfl⟩ : c :: l = left ∧ r = right := by simpa using hsides
    rw [ih hcut]
    rfl

lemma cutAtGap_cons {c : Char} {s : Text} (h : ¬ (c = ':' ∧ s.head? = some ':')) :
    cutAtGap (c :: s) = (cutAtGap s).map fun sides => (c :: sides.1, sides.2) := by
  rw [cutAtGap]
  rintro rest rfl rfl
  exact h ⟨rfl, rfl⟩

lemma cutAtGap_cons_eq_none_iff {c : Char} {s : Text} :
    cutAtGap (c :: s) = none ↔ ¬ (c = ':' ∧ s.head? = some ':') ∧ cutAtGap s = none := by
  by_cases h : c = ':' ∧ s.head? = some ':'
  · obtain ⟨rfl, hs⟩ := h
    obtain ⟨rest, rfl⟩ : ∃ rest, s = ':' :: rest := by
      cases s with
      | nil => simp at hs
      | cons d rest => exact ⟨rest, by simpa using hs⟩
    simp [cutAtGap]
  · simp [cutAtGap_cons h, h]

/-- Without a double colon in a text or across its end, the first one is the one behind it. -/
lemma cutAtGap_append_gap {left : Text} (h : cutAtGap (left ++ [':']) = none) (right : Text) :
    cutAtGap (left ++ ':' :: ':' :: right) = some (left, right) := by
  induction left with
  | nil => simp [cutAtGap]
  | cons c left ih =>
    obtain ⟨hc, hl⟩ := cutAtGap_cons_eq_none_iff.mp h
    have hhead : (left ++ ':' :: ':' :: right).head? = (left ++ [':']).head? := by
      cases left <;> rfl
    rw [List.cons_append, cutAtGap_cons (hhead ▸ hc), ih hl]
    rfl

lemma cutAtGap_of_append {a b : Text} (h : cutAtGap (a ++ b) = none) : cutAtGap a = none := by
  induction a with
  | nil => rfl
  | cons c a ih =>
    obtain ⟨hc, ha⟩ := cutAtGap_cons_eq_none_iff.mp h
    refine cutAtGap_cons_eq_none_iff.mpr ⟨fun ⟨he, hd⟩ => hc ⟨he, ?_⟩, ih ha⟩
    cases a with
    | nil => simp at hd
    | cons d a => exact hd

lemma cutAtGap_piece {piece : Text} (hp : ':' ∉ piece) {s : Text} (hs : cutAtGap s = none)
    (hh : s.head? ≠ some ':') : cutAtGap (piece ++ ':' :: s) = none := by
  induction piece with
  | nil => exact cutAtGap_cons_eq_none_iff.mpr ⟨fun h => hh h.2, hs⟩
  | cons c piece ih =>
    obtain ⟨hc, hm⟩ := not_or.mp (mt List.mem_cons.mpr hp)
    exact cutAtGap_cons_eq_none_iff.mpr ⟨fun h => hc h.1.symm, ih hm⟩

lemma cutAtGap_joinWith {pieces : List Text} (h : ∀ piece ∈ pieces, piece ≠ [] ∧ ':' ∉ piece) :
    cutAtGap (joinWith [':'] pieces ++ [':']) = none := by
  fun_induction joinWith [':'] pieces with
  | case1 => rfl
  | case2 piece => exact cutAtGap_piece (h piece (by simp)).2 rfl (by simp)
  | case3 piece next more ih =>
    have hn := h next (by simp)
    obtain ⟨d, rest, rfl⟩ := List.exists_cons_of_ne_nil hn.1
    have hd : d ≠ ':' := by
      rintro rfl
      exact hn.2 (by simp)
    have hhead : (joinWith [':'] ((d :: rest) :: more) ++ [':']).head? ≠ some ':' := by
      cases more <;> simpa [joinWith] using hd
    have hi := ih fun p hp => h p (List.mem_cons_of_mem piece hp)
    rw [List.append_assoc, List.append_assoc, List.singleton_append]
    exact cutAtGap_piece (h piece (by simp)).2 hi hhead

end HostDiscovery.NumericAddress
