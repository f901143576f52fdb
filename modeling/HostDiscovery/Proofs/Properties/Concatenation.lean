import HostDiscovery.Proofs.Properties.Image

/-! Texts one below the other. Nothing is pending behind a line that does not go on, so what follows
it is read as if it stood alone, and the entries that come later win. Comments and blank lines in
between do not count, whatever they end in. -/
namespace HostDiscovery.Properties

open Text

/-- A blank line or a comment: the first character that is no blank, if any, is a comment mark. -/
structure Remark (line : Text) : Prop where
  oneLine : OneLine line
  mark : ∀ c ∈ (trimStart line).head?, c = '#' ∨ c = '!'

instance (line : Text) : Decidable (Remark line) :=
  decidable_of_iff (OneLine line ∧ ∀ c ∈ (trimStart line).head?, c = '#' ∨ c = '!')
    ⟨fun ⟨ho, hm⟩ => ⟨ho, hm⟩, fun h => ⟨h.oneLine, h.mark⟩⟩

lemma Remark.isSkipped_trim {line : Text} (h : Remark line) : isSkipped (trim line) = true := by
  cases hs : trimStart line with
  | nil => simp [trim, hs, trimEnd, isSkipped]
  | cons c rest =>
    have hmark : c = '#' ∨ c = '!' := h.mark c (by simp [hs])
    have hblank : isBlank c = false := head?_trimStart line (by simp [hs])
    have htrim : trim line = c :: trimEnd rest := by
      rw [trim, hs]
      exact trimEnd_append_cons [] rest hblank
    simpa [htrim, isSkipped] using hmark

lemma entriesAfter_remarks {remarks : List Text} (h : ∀ line ∈ remarks, Remark line)
    (ls : List Text) : entriesAfter [] (remarks ++ ls) = entriesAfter [] ls := by
  induction remarks with
  | nil => rfl
  | cons line rest ih =>
    obtain ⟨hline, hrest⟩ := List.forall_mem_cons.mp h
    simp [entriesAfter, hline.isSkipped_trim, ih hrest]

lemma entriesAfter_append {pending : Text} {ls : List Text} (hpending : ls = [] → pending = [])
    (hlast : ∀ line ∈ ls.getLast?, isContinued (trim line) = false) (more : List Text) :
    entriesAfter pending (ls ++ more) = entriesAfter pending ls ++ entriesAfter [] more := by
  induction ls generalizing pending with
  | nil => simp [hpending rfl, entriesAfter]
  | cons raw rest ih =>
    have hrest : ∀ line ∈ rest.getLast?, isContinued (trim line) = false := by
      intro line hline
      refine hlast line ?_
      cases rest with
      | nil => cases hline
      | cons next rest => simpa using hline
    simp only [List.cons_append, entriesAfter]
    split_ifs with hskip hcont
    · have hnil : pending = [] := by
        have := (Bool.and_eq_true_iff.mp hskip).1
        simpa using this
      exact ih (fun _ => hnil) hrest
    · refine ih (fun hnil => ?_) hrest
      have hfalse := hlast raw (by simp [hnil])
      simp [hfalse] at hcont
    · rw [ih (fun _ => rfl) hrest, List.cons_append]

lemma entriesAfter_concatenated {s : Text} {remarks : List Text}
    (hs : ∀ line ∈ (lines s).getLast?, isContinued (trim line) = false)
    (hremarks : ∀ line ∈ remarks, Remark line) (t : Text) :
    entriesAfter [] (lines (joinWith ['\n'] (s :: (remarks ++ [t])))) =
      entriesAfter [] (lines s) ++ entriesAfter [] (lines t) := by
  have hjoin : joinWith ['\n'] (s :: (remarks ++ [t])) =
      s ++ '\n' :: joinWith ['\n'] (remarks ++ [t]) := by
    rw [joinWith_cons (by simp), List.append_assoc, List.singleton_append]
  obtain ⟨gap, hgap, hlines⟩ :=
    exists_lines_append_newline s (joinWith ['\n'] (remarks ++ [t]))
  have hblank : ∀ line ∈ gap, Remark line := by
    rcases hgap with rfl | rfl <;> decide
  have hbetween := lines_joinWith_append (fun line hl => (hremarks line hl).oneLine) t
  rw [hjoin, hlines, hbetween, entriesAfter_append (fun _ => rfl) hs,
    entriesAfter_remarks hblank, entriesAfter_remarks hremarks]

/-- Two texts with remarks between them spell the map of the first one, updated with that of the
second one, if the last line of the first one does not go on. -/
theorem parse_concatenated {s : Text} {remarks : List Text}
    (hs : ∀ line ∈ (lines s).getLast?, ¬ EndsOddly (trim line))
    (hremarks : ∀ line ∈ remarks, Remark line) (t : Text) :
    let joined := joinWith ['\n'] (s :: (remarks ++ [t]))
    parse joined = (parse s).update (parse t) ∧
      ∀ key, (parse joined).get? key = ((parse t).get? key).or ((parse s).get? key) := by
  intro joined
  have hlast : ∀ line ∈ (lines s).getLast?, isContinued (trim line) = false :=
    fun line hl => not_endsOddly_iff.mp (hs line hl)
  have hparse : parse joined = (parse s).update (parse t) := by
    rw [parse, entriesAfter_concatenated hlast hremarks, ofEntries_append]
    rfl
  exact ⟨hparse, fun key => by rw [hparse, get?_update]⟩

/-- The first text ends in two backslashes and a carriage return, and a comment in a single
backslash. -/
theorem parse_concatenated_comments :
    let s := ['a', '=', '1', '\n', 'b', '=', '\\', '\\', '\r']
    let remarks := [['#', 'a', '\\'], [], ['\t', '!', '\\']]
    (∀ line ∈ (lines s).getLast?, ¬ EndsOddly (trim line)) ∧ (∀ line ∈ remarks, Remark line) ∧
      (parse (joinWith ['\n'] (s :: (remarks ++ [['a', ' ', '3']])))).entries =
        [(['a'], ['3']), (['b'], ['\\', '\\'])] := by
  intro s remarks
  have hlast : ∀ line ∈ (lines s).getLast?, isContinued (trim line) = false := by decide
  have hs : ∀ line ∈ (lines s).getLast?, ¬ EndsOddly (trim line) :=
    fun line hline => not_endsOddly_iff.mpr (hlast line hline)
  have hremarks : ∀ line ∈ remarks, Remark line := by decide
  refine ⟨hs, hremarks, ?_⟩
  rw [(parse_concatenated hs hremarks ['a', ' ', '3']).1]
  decide

end HostDiscovery.Properties
