import HostDiscovery.Text.Split
import Mathlib.Tactic.Lemma

/-! Splitting undoes joining where no piece holds the separator. -/
namespace HostDiscovery.Text

lemma splitOn_cons_self (separator : Char) (s : Text) :
    splitOn separator (separator :: s) = [] :: splitOn separator s := by
  rw [splitOn, if_pos rfl]

lemma splitOn_cons_of_ne {separator c : Char} (hc : c ≠ separator) {s piece : Text}
    {more : List Text} (h : splitOn separator s = piece :: more) :
    splitOn separator (c :: s) = (c :: piece) :: more := by
  rw [splitOn, if_neg hc, h]

lemma splitOn_of_not_mem {separator : Char} {s : Text} (h : separator ∉ s) :
    splitOn separator s = [s] := by
  induction s with
  | nil => rfl
  | cons c s ih =>
    obtain ⟨hc, hs⟩ := not_or.mp (mt List.mem_cons.mpr h)
    exact splitOn_cons_of_ne (Ne.symm hc) (ih hs)

lemma not_mem_of_mem_splitOn {separator : Char} {s piece : Text}
    (h : piece ∈ splitOn separator s) : separator ∉ piece := by
  induction s generalizing piece with
  | nil => simp_all [splitOn]
  | cons c s ih =>
    by_cases hc : c = separator
    · rw [hc, splitOn_cons_self] at h
      rcases List.mem_cons.mp h with rfl | h
      · simp
      · exact ih h
    · obtain ⟨first, more, hs⟩ := List.exists_cons_of_ne_nil (splitOn_ne_nil separator s)
      rw [splitOn_cons_of_ne hc hs] at h
      rw [hs] at ih
      rcases List.mem_cons.mp h with rfl | h
      · have hfirst := ih List.mem_cons_self
        simpa [Ne.symm hc] using hfirst
      · exact ih (List.mem_cons_of_mem first h)

lemma splitOn_append_separator {separator : Char} {piece : Text} (h : separator ∉ piece)
    (s : Text) : splitOn separator (piece ++ separator :: s) = piece :: splitOn separator s := by
  induction piece with
  | nil => exact splitOn_cons_self separator s
  | cons c piece ih =>
    obtain ⟨hc, hp⟩ := not_or.mp (mt List.mem_cons.mpr h)
    exact splitOn_cons_of_ne (Ne.symm hc) (ih hp)

lemma splitOn_joinWith {separator : Char} {first : Text} {more : List Text}
    (h : ∀ piece ∈ first :: more, separator ∉ piece) :
    splitOn separator (joinWith [separator] (first :: more)) = first :: more := by
  induction more generalizing first with
  | nil => exact splitOn_of_not_mem (h first (by simp))
  | cons next more ih =>
    have hi := ih fun piece hp => h piece (List.mem_cons_of_mem first hp)
    rw [joinWith, List.append_assoc, List.singleton_append,
      splitOn_append_separator (h first (by simp)), hi]

lemma joinWith_cons {separator piece : Text} {pieces : List Text} (h : pieces ≠ []) :
    joinWith separator (piece :: pieces) = piece ++ separator ++ joinWith separator pieces := by
  obtain ⟨next, more, rfl⟩ := List.exists_cons_of_ne_nil h
  rfl

lemma joinWith_splitOn (separator : Char) (s : Text) :
    joinWith [separator] (splitOn separator s) = s := by
  induction s with
  | nil => rfl
  | cons c s ih =>
    by_cases hc : c = separator
    · subst hc
      rw [splitOn_cons_self, joinWith_cons (splitOn_ne_nil c s), ih]
      rfl
    · obtain ⟨piece, more, hs⟩ := List.exists_cons_of_ne_nil (splitOn_ne_nil separator s)
      rw [splitOn_cons_of_ne hc hs]
      rw [hs] at ih
      cases more with
      | nil => simpa [joinWith] using ih
      | cons next more => simpa [joinWith] using ih

lemma cutAt_of_not_mem {separator : Char} {s : Text} (h : separator ∉ s) :
    cutAt separator s = (s, none) := by
  induction s with
  | nil => rfl
  | cons c s ih =>
    obtain ⟨hc, hs⟩ := not_or.mp (mt List.mem_cons.mpr h)
    rw [cutAt, if_neg (Ne.symm hc), ih hs]

lemma joinWith_prefix (separator : Text) (pieces more : List Text) :
    joinWith separator pieces <+: joinWith separator (pieces ++ more) := by
  fun_induction joinWith separator pieces with
  | case1 => exact List.nil_prefix
  | case2 piece =>
    cases more with
    | nil => exact List.prefix_rfl
    | cons next more =>
      rw [List.singleton_append, joinWith, List.append_assoc]
      exact List.prefix_append _ _
  | case3 piece next pieces ih =>
    exact (List.prefix_append_right_inj _).mpr ih

lemma mem_joinWith {separator : Text} {pieces : List Text} {c : Char}
    (h : c ∈ joinWith separator pieces) : c ∈ separator ∨ ∃ piece ∈ pieces, c ∈ piece := by
  fun_induction joinWith separator pieces with
  | case1 => simp at h
  | case2 piece => exact .inr ⟨piece, by simp, h⟩
  | case3 piece next more ih =>
    rcases List.mem_append.mp h with h | h
    · rcases List.mem_append.mp h with h | h
      · exact .inr ⟨piece, by simp, h⟩
      · exact .inl h
    · rcases ih h with h | ⟨p, hp, hc⟩
      · exact .inl h
      · exact .inr ⟨p, List.mem_cons_of_mem _ hp, hc⟩

lemma mem_joinWith_separator {separator : Char} {pieces : List Text} (h : 1 < pieces.length) :
    separator ∈ joinWith [separator] pieces := by
  match pieces, h with
  | piece :: next :: more, _ => simp [joinWith]

end HostDiscovery.Text
