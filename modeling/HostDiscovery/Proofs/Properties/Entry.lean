import HostDiscovery.Properties.Parser
import HostDiscovery.Properties.Writer
import HostDiscovery.Proofs.Text.Lines
import HostDiscovery.Proofs.Text.Trim

/-! How one line is taken apart: the backslashes at its end, then key, separator and value. The
relation `Splits` says the second without the reader. -/
namespace HostDiscovery.Properties

open Text

def EndsOddly (s : Text) : Prop :=
  ∃ body n, s = body ++ List.replicate (2 * n + 1) '\\' ∧ body.getLast? ≠ some '\\'

lemma isContinued_nil : isContinued [] = false := rfl

lemma isContinued_concat (s : Text) (c : Char) :
    isContinued (s ++ [c]) = (c == '\\' && !isContinued s) := by
  unfold isContinued
  rw [List.reverse_append, List.reverse_singleton, List.singleton_append, List.takeWhile_cons]
  by_cases hc : c = '\\'
  · subst hc
    simp only [beq_self_eq_true, if_true, List.length_cons, Bool.true_and]
    rcases Nat.mod_two_eq_zero_or_one (s.reverse.takeWhile (· == '\\')).length with h | h
    · simp [Nat.add_mod, h]
    · simp [Nat.add_mod, h]
  · simp [hc]

lemma isContinued_append {a : Text} (ha : isContinued a = false) (b : Text) :
    isContinued (a ++ b) = isContinued b := by
  induction b using List.reverseRecOn with
  | nil => simpa [isContinued_nil] using ha
  | append_singleton b c ih =>
    rw [← List.append_assoc, isContinued_concat, isContinued_concat, ih]

lemma isContinued_append_cons (a : Text) {c : Char} (hc : c ≠ '\\') (b : Text) :
    isContinued (a ++ c :: b) = isContinued b := by
  have ha : isContinued (a ++ [c]) = false := by simp [isContinued_concat, hc]
  rw [← isContinued_append ha b, List.append_assoc, List.singleton_append]

lemma exists_concat_of_isContinued {s : Text} (h : isContinued s = true) :
    ∃ body, s = body ++ ['\\'] ∧ isContinued body = false := by
  induction s using List.reverseRecOn with
  | nil => simp [isContinued_nil] at h
  | append_singleton body c ih =>
    rw [isContinued_concat, Bool.and_eq_true, beq_iff_eq] at h
    obtain ⟨rfl, hb⟩ := h
    exact ⟨body, rfl, by simpa using hb⟩

lemma isContinued_replicate (n : Nat) : isContinued (List.replicate (2 * n + 1) '\\') = true := by
  induction n with
  | zero => rfl
  | succ n ih =>
    rw [show 2 * (n + 1) + 1 = 2 * n + 1 + 1 + 1 by omega, List.replicate_succ',
      List.replicate_succ', isContinued_concat, isContinued_concat, ih]
    rfl

lemma isContinued_iff {s : Text} : isContinued s = true ↔ EndsOddly s := by
  constructor
  · intro h
    have hodd : (s.rtakeWhile (· == '\\')).length % 2 = 1 := by
      simpa [isContinued, List.rtakeWhile] using h
    refine ⟨s.rdropWhile (· == '\\'), (s.rtakeWhile (· == '\\')).length / 2, ?_, ?_⟩
    · have hall : s.rtakeWhile (· == '\\')
          = List.replicate (2 * ((s.rtakeWhile (· == '\\')).length / 2) + 1) '\\' :=
        List.eq_replicate_iff.mpr
          ⟨by omega, fun c hc => by simpa using List.mem_rtakeWhile_imp hc⟩
      rw [← hall, List.rdropWhile_append_rtakeWhile]
    · intro hl
      obtain ⟨hne, he⟩ := List.mem_getLast?_eq_getLast hl
      have hnot := List.rdropWhile_last_not (· == '\\') s hne
      simp [← he] at hnot
  · rintro ⟨body, n, rfl, hbody⟩
    have hb : isContinued body = false := by
      induction body using List.reverseRecOn with
      | nil => rfl
      | append_singleton body c _ =>
        have hc : c ≠ '\\' := by simpa using hbody
        simp [isContinued_concat, hc]
    rw [isContinued_append hb, isContinued_replicate]

lemma not_endsOddly_iff {s : Text} : ¬ EndsOddly s ↔ isContinued s = false := by
  rw [← isContinued_iff, Bool.not_eq_true]

lemma endsKey_eq_false_iff {c : Char} :
    endsKey c = false ↔ isBlank c = false ∧ c ≠ '=' ∧ c ≠ ':' := by
  simp [endsKey, isSeparator]

lemma ne_backslash_of_endsKey {c : Char} (h : endsKey c = true) : c ≠ '\\' := by
  rintro rfl
  exact absurd h (by decide)

lemma head?_afterSeparator (s : Text) {c : Char} (h : c ∈ (afterSeparator s).head?) :
    isBlank c = false := by
  unfold afterSeparator at h
  cases hs : trimStart s with
  | nil => simp [hs] at h
  | cons d rest =>
    simp only [hs] at h
    split_ifs at h
    · exact head?_trimStart rest h
    · exact head?_trimStart s (hs ▸ h)

lemma endsKey_of_mem_key {s : Text} {c : Char} (h : c ∈ (splitEntry s).1) :
    endsKey c = false := by
  simpa using List.mem_takeWhile_imp h

/-- A line is its key, one separator and its value. The key ends before the first blank, equals sign
or colon. The separator is one of the two signs with all blanks around it, or blanks alone. -/
inductive Splits : Text → Text → Text → Prop
  | bare {key : Text} (plain : ∀ c ∈ key, isBlank c = false ∧ c ≠ '=' ∧ c ≠ ':') :
      Splits key key []
  | blanks {key gap value : Text} (plain : ∀ c ∈ key, isBlank c = false ∧ c ≠ '=' ∧ c ≠ ':')
      (gap_ne : gap ≠ []) (gap_blank : ∀ c ∈ gap, isBlank c = true)
      (start : ∀ c ∈ value.head?, isBlank c = false ∧ c ≠ '=' ∧ c ≠ ':') :
      Splits (key ++ (gap ++ value)) key value
  | sign {key before after value : Text} {c : Char}
      (plain : ∀ c ∈ key, isBlank c = false ∧ c ≠ '=' ∧ c ≠ ':') (mark : c = '=' ∨ c = ':')
      (before_blank : ∀ c ∈ before, isBlank c = true)
      (after_blank : ∀ c ∈ after, isBlank c = true)
      (start : ∀ c ∈ value.head?, isBlank c = false) :
      Splits (key ++ (before ++ c :: (after ++ value))) key value

lemma isSeparator_iff {c : Char} : isSeparator c = true ↔ c = '=' ∨ c = ':' := by
  simp [isSeparator]

lemma splitEntry_append {key rest : Text} (hkey : ∀ c ∈ key, endsKey c = false)
    (hrest : ∀ c ∈ rest.head?, endsKey c = true) :
    splitEntry (key ++ rest) = (key, afterSeparator rest) := by
  have hp : ∀ c ∈ key, (!endsKey c) = true := fun c hc => by simp [hkey c hc]
  rw [splitEntry, List.takeWhile_append_of_pos hp, List.dropWhile_append_of_pos hp]
  cases rest with
  | nil => simp
  | cons c rest =>
    have hc : (!endsKey c) = false := by simp [hrest c rfl]
    simp [hc]

lemma afterSeparator_append_of_blank {blanks : Text} (h : ∀ c ∈ blanks, isBlank c = true)
    (s : Text) : afterSeparator (blanks ++ s) = afterSeparator s := by
  rw [afterSeparator, afterSeparator, trimStart_append_of_blank h]

lemma afterSeparator_of_not_endsKey {s : Text} (h : ∀ c ∈ s.head?, endsKey c = false) :
    afterSeparator s = s := by
  cases s with
  | nil => rfl
  | cons c s =>
    obtain ⟨hblank, hsign⟩ := endsKey_eq_false_iff.mp (h c rfl)
    have hseparator : isSeparator c = false := by simpa [isSeparator] using hsign
    rw [afterSeparator, trimStart_cons_of_not_blank hblank]
    simp [hseparator]

lemma afterSeparator_cons_sign {c : Char} (hc : isSeparator c = true) (s : Text) :
    afterSeparator (c :: s) = trimStart s := by
  have hblank : isBlank c = false := by
    rcases isSeparator_iff.mp hc with rfl | rfl <;> decide
  rw [afterSeparator, trimStart_cons_of_not_blank hblank]
  simp [hc]

lemma Splits.splitEntry_eq {line key value : Text} (h : Splits line key value) :
    splitEntry line = (key, value) := by
  cases h with
  | bare plain =>
    have hkey := fun c hc => endsKey_eq_false_iff.mpr (plain c hc)
    have hnone : ∀ c ∈ ([] : Text).head?, endsKey c = true := by simp
    have happend := splitEntry_append hkey hnone
    simpa [afterSeparator, trimStart_nil] using happend
  | @blanks _ gap _ plain gap_ne gap_blank start =>
    have hhead : ∀ c ∈ (gap ++ value).head?, endsKey c = true := by
      obtain ⟨d, gap, rfl⟩ := List.exists_cons_of_ne_nil gap_ne
      intro c hc
      obtain rfl : d = c := by simpa using hc
      simp [endsKey, gap_blank d (by simp)]
    have hkey := fun c hc => endsKey_eq_false_iff.mpr (plain c hc)
    have hstart := fun c hc => endsKey_eq_false_iff.mpr (start c hc)
    rw [splitEntry_append hkey hhead, afterSeparator_append_of_blank gap_blank,
      afterSeparator_of_not_endsKey hstart]
  | @sign _ before after _ c plain mark before_blank after_blank start =>
    have hsign : isSeparator c = true := isSeparator_iff.mpr mark
    have hhead : ∀ d ∈ (before ++ c :: (after ++ value)).head?, endsKey d = true := by
      intro d hd
      cases before with
      | nil =>
        obtain rfl : c = d := by simpa using hd
        simp [endsKey, hsign]
      | cons e before =>
        obtain rfl : e = d := by simpa using hd
        simp [endsKey, before_blank e (by simp)]
    have hkey := fun c hc => endsKey_eq_false_iff.mpr (plain c hc)
    rw [splitEntry_append hkey hhead, afterSeparator_append_of_blank before_blank,
      afterSeparator_cons_sign hsign, trimStart_append_of_blank after_blank,
      trimStart_eq_self start]

lemma splits_append {key rest : Text} (hkey : ∀ c ∈ key, isBlank c = false ∧ c ≠ '=' ∧ c ≠ ':')
    (hrest : ∀ c ∈ rest.head?, endsKey c = true) :
    Splits (key ++ rest) key (afterSeparator rest) := by
  obtain ⟨blanks, hs, hblanks⟩ := exists_append_trimStart rest
  have hafter : afterSeparator rest = afterSeparator (trimStart rest) := by
    conv_lhs => rw [hs, afterSeparator_append_of_blank hblanks]
  have hhead : ∀ c ∈ (trimStart rest).head?, isBlank c = false :=
    fun c hc => head?_trimStart rest hc
  rw [hafter]
  cases ht : trimStart rest with
  | nil =>
    have hnil : afterSeparator [] = [] := rfl
    rw [ht, List.append_nil] at hs
    subst hs
    rw [hnil]
    by_cases hne : rest = []
    · simpa [hne] using Splits.bare hkey
    · have hnone : ∀ c ∈ ([] : Text).head?, isBlank c = false ∧ c ≠ '=' ∧ c ≠ ':' := by simp
      have hsplits := Splits.blanks hkey hne hblanks hnone
      simpa using hsplits
  | cons c more =>
    rw [ht] at hs hhead
    by_cases hc : isSeparator c = true
    · obtain ⟨after, hmore, hafter⟩ := exists_append_trimStart more
      rw [afterSeparator_cons_sign hc, hs]
      conv => arg 1; rw [hmore]
      exact .sign hkey (isSeparator_iff.mp hc) hblanks hafter fun d hd => head?_trimStart more hd
    · have hplain : ∀ d ∈ (c :: more).head?, endsKey d = false := by
        intro d hd
        obtain rfl : c = d := by simpa using hd
        simp [endsKey, hhead c rfl, hc]
      have hne : blanks ≠ [] := by
        rintro rfl
        have htrue := hrest c (by simp [hs])
        simp [hplain c rfl] at htrue
      rw [afterSeparator_of_not_endsKey hplain, hs]
      exact .blanks hkey hne hblanks fun d hd => endsKey_eq_false_iff.mp (hplain d hd)

lemma splits_splitEntry (line : Text) : Splits line (splitEntry line).1 (splitEntry line).2 := by
  have hkey : ∀ c ∈ (splitEntry line).1, isBlank c = false ∧ c ≠ '=' ∧ c ≠ ':' :=
    fun c hc => endsKey_eq_false_iff.mp (endsKey_of_mem_key hc)
  have hrest : ∀ c ∈ (line.dropWhile fun c => !endsKey c).head?, endsKey c = true := by
    intro c hc
    have hnot := List.head?_dropWhile_not (fun c => !endsKey c) line
    rw [Option.mem_def.mp hc] at hnot
    simpa using hnot
  have hsplits := splits_append hkey hrest
  rwa [splitEntry, List.takeWhile_append_dropWhile] at hsplits

lemma splits_iff {line key value : Text} :
    Splits line key value ↔ splitEntry line = (key, value) := by
  constructor
  · exact Splits.splitEntry_eq
  · intro h
    have hsplits := splits_splitEntry line
    rwa [h] at hsplits

lemma Splits.exists_gap {line key value : Text} (h : Splits line key value) :
    ∃ gap, line = key ++ (gap ++ value) ∧ (∀ c ∈ gap, endsKey c = true) ∧
      (gap = [] → value = []) := by
  cases h with
  | bare plain => exact ⟨[], by simp, by simp, fun _ => rfl⟩
  | @blanks _ gap _ plain gap_ne gap_blank start =>
    exact ⟨gap, rfl, fun c hc => by simp [endsKey, gap_blank c hc], fun hnil => absurd hnil gap_ne⟩
  | @sign _ before after _ c plain mark before_blank after_blank start =>
    refine ⟨before ++ c :: after, by simp, fun d hd => ?_, by simp⟩
    obtain hd | rfl | hd : d ∈ before ∨ d = c ∨ d ∈ after := by simpa using hd
    · simp [endsKey, before_blank d hd]
    · simp [endsKey, isSeparator_iff.mpr mark]
    · simp [endsKey, after_blank d hd]

lemma exists_eq_splitEntry (s : Text) :
    ∃ gap, s = (splitEntry s).1 ++ (gap ++ (splitEntry s).2) ∧
      (∀ c ∈ gap, endsKey c = true) ∧ (gap = [] → (splitEntry s).2 = []) :=
  (splits_splitEntry s).exists_gap

lemma splitEntry_entryLine {e : Text × Text} (hk : ∀ c ∈ e.1, endsKey c = false) :
    splitEntry (entryLine e) = (e.1, trimStart e.2) := by
  have hhead : ∀ c ∈ ('=' :: e.2).head?, endsKey c = true := by
    intro c hc
    obtain rfl : '=' = c := by simpa using hc
    decide
  rw [entryLine, splitEntry_append hk hhead, afterSeparator_cons_sign (by decide)]

lemma entryLine_splitEntry_length_le {s : Text} {c : Char} (hc : c ∈ s)
    (hk : endsKey c = true) : (entryLine (splitEntry s)).length ≤ s.length := by
  obtain ⟨gap, hs, -, hgap⟩ := exists_eq_splitEntry s
  have hne : 0 < gap.length := by
    rcases gap with _ | ⟨d, gap⟩
    · rw [hgap rfl, List.append_nil, List.append_nil] at hs
      have hkey := endsKey_of_mem_key (hs ▸ hc)
      simp [hkey] at hk
    · simp
  have hl := congrArg List.length hs
  simp only [List.length_append] at hl
  simp only [entryLine, List.length_append, List.length_cons]
  omega

end HostDiscovery.Properties
