import HostDiscovery.Text.Lines
import HostDiscovery.Proofs.Text.Split
import Mathlib.Tactic.SplitIfs

/-! Lines of a text that is put together from lines, and what a line cannot hold. -/
namespace HostDiscovery.Text

instance (s : Text) (p : Char → Prop) [DecidablePred p] : Decidable (∀ c ∈ s, p c) :=
  List.decidableBAll p s

instance (o : Option Char) (p : Char → Prop) [DecidablePred p] : Decidable (∀ c ∈ o, p c) :=
  Option.decidableForallMem o

def OneLine (s : Text) : Prop := ∀ c ∈ s, isLineBreak c = false

instance (s : Text) : Decidable (OneLine s) :=
  inferInstanceAs (Decidable (∀ c ∈ s, isLineBreak c = false))

lemma oneLine_cons {c : Char} {s : Text} :
    OneLine (c :: s) ↔ isLineBreak c = false ∧ OneLine s := List.forall_mem_cons

lemma oneLine_append {s t : Text} : OneLine (s ++ t) ↔ OneLine s ∧ OneLine t :=
  List.forall_mem_append

lemma lines_nil : lines [] = [] := rfl

lemma lines_return_newline (rest : Text) : lines ('\r' :: '\n' :: rest) = [] :: lines rest := rfl

lemma lines_cons_break {c : Char} (hc : isLineBreak c = true) {rest : Text}
    (hpair : ∀ more, c = '\r' → rest ≠ '\n' :: more) : lines (c :: rest) = [] :: lines rest := by
  rw [lines]
  · rw [if_pos hc]
  · exact hpair

lemma lines_cons_newline (rest : Text) : lines ('\n' :: rest) = [] :: lines rest :=
  lines_cons_break (by decide) (by simp)

lemma lines_cons_of_not_break {c : Char} (hc : isLineBreak c = false) {rest line : Text}
    {more : List Text} (hr : lines rest = line :: more) :
    lines (c :: rest) = (c :: line) :: more := by
  have hne : c ≠ '\r' := by
    rintro rfl
    exact absurd hc (by decide)
  rw [lines]
  · simp [hc, hr]
  · simp [hne]

lemma lines_singleton {c : Char} (hc : isLineBreak c = false) : lines [c] = [[c]] := by
  rw [lines]
  · simp [hc, lines_nil]
  · simp

lemma lines_append_newline {line : Text} (h : OneLine line) (rest : Text) :
    lines (line ++ '\n' :: rest) = line :: lines rest := by
  induction line with
  | nil => exact lines_cons_newline rest
  | cons c line ih =>
    obtain ⟨hc, hl⟩ := oneLine_cons.mp h
    exact lines_cons_of_not_break hc (ih hl)

/-- Behind a character that is no carriage return, only the lines of the rest count. -/
lemma lines_cons_congr {c : Char} (hc : c ≠ '\r') {s t : Text} (h : lines s = lines t) :
    lines (c :: s) = lines (c :: t) := by
  rw [lines, lines, h]
  · exact fun _ hreturn => absurd hreturn hc
  · exact fun _ hreturn => absurd hreturn hc

lemma lines_ne_nil {s : Text} (h : s ≠ []) : lines s ≠ [] := by
  unfold lines
  split
  · exact absurd rfl h
  · simp
  · split_ifs
    · simp
    · split <;> simp

lemma exists_lines_append_newline (s rest : Text) :
    ∃ gap, (gap = [] ∨ gap = [[]]) ∧
      lines (s ++ '\n' :: rest) = lines s ++ (gap ++ lines rest) := by
  fun_induction lines s with
  | case1 => exact ⟨[[]], .inr rfl, lines_cons_newline rest⟩
  | case2 s ih =>
    obtain ⟨gap, hgap, hs⟩ := ih
    exact ⟨gap, hgap, congrArg ([] :: ·) hs⟩
  | case3 c s hpair hc ih =>
    obtain ⟨gap, hgap, hs⟩ := ih
    by_cases hreturn : c = '\r' ∧ s = []
    · obtain ⟨rfl, rfl⟩ := hreturn
      exact ⟨[], .inl rfl, lines_return_newline rest⟩
    · refine ⟨gap, hgap, ?_⟩
      rw [List.cons_append, lines_cons_break hc, hs, List.cons_append]
      · rintro more rfl hmore
        cases s with
        | nil => exact hreturn ⟨rfl, rfl⟩
        | cons d s =>
          obtain ⟨rfl, -⟩ := List.cons.inj hmore
          exact hpair s rfl rfl
  | case4 c s hpair hc hr ih =>
    have hc' : isLineBreak c = false := by simpa using hc
    cases s with
    | nil => exact ⟨[], .inl rfl, lines_cons_of_not_break hc' (lines_cons_newline rest)⟩
    | cons d s => exact absurd hr (lines_ne_nil (List.cons_ne_nil d s))
  | case5 c s hpair hc first more hr ih =>
    obtain ⟨gap, hgap, hs⟩ := ih
    refine ⟨gap, hgap, ?_⟩
    have hc' : isLineBreak c = false := by simpa using hc
    rw [hr, List.cons_append] at hs
    exact lines_cons_of_not_break hc' hs

lemma lines_joinWith_append {between : List Text} (h : ∀ line ∈ between, OneLine line) (t : Text) :
    lines (joinWith ['\n'] (between ++ [t])) = between ++ lines t := by
  induction between with
  | nil => rfl
  | cons line rest ih =>
    obtain ⟨hline, hrest⟩ := List.forall_mem_cons.mp h
    rw [List.cons_append, joinWith_cons (by simp), List.append_assoc, List.singleton_append,
      lines_append_newline hline, ih hrest, List.cons_append]

lemma lines_of_oneLine {s : Text} (hne : s ≠ []) (h : OneLine s) : lines s = [s] := by
  induction s with
  | nil => exact absurd rfl hne
  | cons c s ih =>
    obtain ⟨hc, hs⟩ := oneLine_cons.mp h
    cases s with
    | nil => exact lines_singleton hc
    | cons d s => exact lines_cons_of_not_break hc (ih (List.cons_ne_nil d s) hs)

lemma lines_joinWith_cases {ls : List Text} (hne : ls ≠ []) (h : ∀ line ∈ ls, OneLine line) :
    lines (joinWith ['\n'] ls) = ls ∨ lines (joinWith ['\n'] ls) ++ [[]] = ls := by
  have hparts := List.dropLast_concat_getLast hne
  obtain ⟨between, last, rfl⟩ : ∃ between last, ls = between ++ [last] := ⟨_, _, hparts.symm⟩
  obtain ⟨hbetween, hlast⟩ := List.forall_mem_append.mp h
  rw [lines_joinWith_append hbetween]
  by_cases hempty : last = []
  · simp [hempty, lines_nil]
  · left
    rw [lines_of_oneLine hempty (hlast last (by simp))]

lemma lines_joinWith {first : Text} {more : List Text}
    (h : ∀ line ∈ first :: more, OneLine line) :
    lines (joinWith ['\n'] (first :: more) ++ ['\n']) = first :: more := by
  induction more generalizing first with
  | nil =>
    have hline := lines_append_newline (h first (by simp)) []
    simpa [joinWith, lines_nil] using hline
  | cons next more ih =>
    have hi := ih fun line hl => h line (List.mem_cons_of_mem first hl)
    simp only [joinWith, List.append_assoc, List.cons_append, List.nil_append]
    rw [lines_append_newline (h first (by simp)), hi]

lemma oneLine_of_mem_lines {s line : Text} (h : line ∈ lines s) : OneLine line := by
  fun_induction lines s generalizing line with
  | case1 => simp at h
  | case2 rest ih =>
    rcases List.mem_cons.mp h with rfl | h
    · simp [OneLine]
    · exact ih h
  | case3 c rest _ _ ih =>
    rcases List.mem_cons.mp h with rfl | h
    · simp [OneLine]
    · exact ih h
  | case4 c rest _ hc hr ih =>
    rw [List.mem_singleton] at h
    simp_all [OneLine]
  | case5 c rest _ hc first more hr ih =>
    rw [hr] at ih
    rcases List.mem_cons.mp h with rfl | h
    · have hc' : isLineBreak c = false := by simpa using hc
      have hfirst : OneLine first := ih (by simp)
      exact oneLine_cons.mpr ⟨hc', hfirst⟩
    · exact ih (by simp [h])

lemma unifyBreaks_eq_self {s : Text} (h : '\r' ∉ s) : unifyBreaks s = s := by
  fun_induction unifyBreaks s with
  | case1 => rfl
  | case2 rest ih => simp at h
  | case3 c rest _ ih =>
    obtain ⟨hc, hr⟩ := not_or.mp (mt List.mem_cons.mpr h)
    rw [ih hr, if_neg (Ne.symm hc)]

/-- The unified breaks stand where the breaks stood. -/
lemma lines_unifyBreaks (s : Text) : lines (unifyBreaks s) = lines s := by
  fun_induction unifyBreaks s with
  | case1 => rfl
  | case2 rest ih => rw [lines_cons_newline, ih, lines_return_newline]
  | case3 c rest hpair ih =>
    by_cases hc : c = '\r'
    · subst hc
      have hbreak : lines ('\r' :: rest) = [] :: lines rest :=
        lines_cons_break (by decide) fun more _ hrest => hpair more rfl hrest
      rw [if_pos rfl, lines_cons_newline, ih, hbreak]
    · rw [if_neg hc]
      exact lines_cons_congr hc ih

lemma return_not_mem_unifyBreaks (s : Text) : '\r' ∉ unifyBreaks s := by
  fun_induction unifyBreaks s with
  | case1 => simp
  | case2 rest ih => simpa using ih
  | case3 c rest hpair ih =>
    refine List.not_mem_cons_of_ne_of_not_mem ?_ ih
    split_ifs with hc
    · decide
    · exact Ne.symm hc

lemma OneLine.return_not_mem {s : Text} (h : OneLine s) : '\r' ∉ s :=
  fun hm => absurd (h _ hm) (by decide)

end HostDiscovery.Text
