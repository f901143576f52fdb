import HostDiscovery.Text.Blank
import Mathlib.Data.List.DropRight
import Mathlib.Tactic.Lemma

/-! What trimming takes away, and where the kept part begins and ends. -/
namespace HostDiscovery.Text

lemma trimEnd_eq_rdropWhile (s : Text) : trimEnd s = s.rdropWhile isBlank := rfl

lemma trimEnd_append_cons (a s : Text) {c : Char} (hc : isBlank c = false) :
    trimEnd (a ++ c :: s) = a ++ c :: trimEnd s := by
  induction s using List.reverseRecOn with
  | nil =>
    rw [trimEnd_eq_rdropWhile, List.rdropWhile_concat_neg isBlank a c (by simp [hc])]
    rfl
  | append_singleton s d ih =>
    rw [← List.cons_append, ← List.append_assoc, trimEnd_eq_rdropWhile, List.rdropWhile_concat,
      trimEnd_eq_rdropWhile, List.rdropWhile_concat]
    split_ifs
    · exact ih
    · simp

lemma trimEnd_length_le (s : Text) : (trimEnd s).length ≤ s.length :=
  (List.rdropWhile_prefix isBlank s).length_le

lemma trimEnd_eq_self_iff {s : Text} :
    trimEnd s = s ↔ ∀ c ∈ s.getLast?, isBlank c = false := by
  rw [trimEnd_eq_rdropWhile, List.rdropWhile_eq_self_iff]
  constructor
  · intro h c hc
    obtain ⟨hne, rfl⟩ := List.mem_getLast?_eq_getLast hc
    simpa using h hne
  · intro h hne
    have hl := h (s.getLast hne) (List.getLast?_eq_some_getLast hne)
    simp [hl]

lemma trimStart_eq_self {s : Text} (h : ∀ c ∈ s.head?, isBlank c = false) : trimStart s = s := by
  cases s with
  | nil => rfl
  | cons c s => exact trimStart_cons_of_not_blank (h c rfl)

lemma head?_trimStart (s : Text) {c : Char} (h : c ∈ (trimStart s).head?) :
    isBlank c = false := by
  have hd := List.head?_dropWhile_not isBlank s
  rw [show (List.dropWhile isBlank s).head? = some c from h] at hd
  simpa using hd

lemma exists_append_trimStart (s : Text) :
    ∃ blanks, s = blanks ++ trimStart s ∧ ∀ c ∈ blanks, isBlank c = true :=
  ⟨s.takeWhile isBlank, (List.takeWhile_append_dropWhile).symm, fun _ => List.mem_takeWhile_imp⟩

lemma head?_trim (s : Text) {c : Char} (h : c ∈ (trim s).head?) : isBlank c = false := by
  have hp : trim s <+: trimStart s := List.rdropWhile_prefix isBlank (trimStart s)
  obtain ⟨rest, hr⟩ := hp
  refine head?_trimStart s ?_
  rw [← hr, List.head?_append]
  simp [Option.mem_def.mp h]

lemma getLast?_trim (s : Text) {c : Char} (h : c ∈ (trim s).getLast?) : isBlank c = false := by
  have htwice : trimEnd (trim s) = trim s := List.rdropWhile_idempotent isBlank (trimStart s)
  exact trimEnd_eq_self_iff.mp htwice c h

lemma exists_trim_padded (s : Text) : ∃ before after, s = before ++ trim s ++ after ∧
    (∀ c ∈ before, isBlank c = true) ∧ ∀ c ∈ after, isBlank c = true := by
  obtain ⟨before, hs, hbefore⟩ := exists_append_trimStart s
  refine ⟨before, (trimStart s).rtakeWhile isBlank, ?_, hbefore, fun _ => List.mem_rtakeWhile_imp⟩
  have hend : trim s ++ (trimStart s).rtakeWhile isBlank = trimStart s :=
    List.rdropWhile_append_rtakeWhile
  rw [List.append_assoc, hend, ← hs]

lemma mem_of_mem_trim {s : Text} {c : Char} (h : c ∈ trim s) : c ∈ s := by
  have hp : trim s <+: trimStart s := List.rdropWhile_prefix isBlank (trimStart s)
  exact (List.dropWhile_suffix isBlank).subset (hp.subset h)

lemma mem_trim_of_not_blank {s : Text} {c : Char} (h : c ∈ s) (hc : isBlank c = false) :
    c ∈ trim s := by
  obtain ⟨blanks, hs, hblank⟩ := exists_append_trimStart s
  rw [hs, List.mem_append] at h
  have hmem : c ∈ trimStart s := h.resolve_left fun hb => by simp [hblank c hb] at hc
  obtain ⟨a, t, ht⟩ := List.append_of_mem hmem
  rw [trim, ht, trimEnd_append_cons a t hc]
  simp

lemma trimStart_append_of_blank {blanks : Text} (h : ∀ c ∈ blanks, isBlank c = true) (s : Text) :
    trimStart (blanks ++ s) = trimStart s := List.dropWhile_append_of_pos h

lemma trimEnd_append_of_blank {blanks : Text} (h : ∀ c ∈ blanks, isBlank c = true) (s : Text) :
    trimEnd (s ++ blanks) = trimEnd s := by
  have hreverse : ∀ c ∈ blanks.reverse, isBlank c = true := by simpa using h
  rw [trimEnd, List.reverse_append, List.dropWhile_append_of_pos hreverse, trimEnd]

lemma trim_padded {before after s : Text} (hbefore : ∀ c ∈ before, isBlank c = true)
    (hafter : ∀ c ∈ after, isBlank c = true) (hstart : ∀ c ∈ s.head?, isBlank c = false)
    (hend : ∀ c ∈ s.getLast?, isBlank c = false) : trim (before ++ s ++ after) = s := by
  rw [trim, List.append_assoc, trimStart_append_of_blank hbefore]
  cases s with
  | nil =>
    have hnil : trimStart after = [] := by
      have happend := trimStart_append_of_blank hafter []
      simpa [trimStart_nil] using happend
    simp [hnil, trimEnd]
  | cons c s =>
    have hc : isBlank c = false := hstart c rfl
    rw [List.cons_append, trimStart_cons_of_not_blank hc, ← List.cons_append,
      trimEnd_append_of_blank hafter, trimEnd_eq_self_iff.mpr hend]

lemma trim_of_blank {s : Text} (h : ∀ c ∈ s, isBlank c = true) : trim s = [] := by
  have hpadded : trim (s ++ [] ++ []) = [] := trim_padded h (by simp) (by simp) (by simp)
  simpa using hpadded

lemma trim_length_le (s : Text) : (trim s).length ≤ s.length :=
  (trimEnd_length_le _).trans (List.dropWhile_suffix isBlank).length_le

end HostDiscovery.Text
