import HostDiscovery.Text.ControlSequence
import HostDiscovery.Proofs.Text.Lines

/-! What a text keeps when its control sequences are left out: some of its characters, in their
order, and a line feed at its end. -/
namespace HostDiscovery.Text

variable {s : Text}

lemma dropWhile_append_singleton {p : Char → Bool} {c : Char} (hc : p c = false) (s : Text) :
    (s ++ [c]).dropWhile p = s.dropWhile p ++ [c] := by
  rw [List.dropWhile_append]
  split
  case isTrue hs =>
    rw [List.isEmpty_iff.mp hs, List.dropWhile_cons_of_neg (by simp [hc])]
    rfl
  case isFalse => rfl

lemma afterControlSequence?_eq_none (hs : ∀ rest, s ≠ '\x1b' :: '[' :: rest) :
    afterControlSequence? s = none := by
  rw [afterControlSequence?.eq_def]
  split
  · exact absurd rfl (hs _)
  · rfl

lemma afterControlSequence?_append_newline (s : Text) :
    afterControlSequence? (s ++ ['\n']) = (afterControlSequence? s).map (· ++ ['\n']) := by
  have hparameters := dropWhile_append_singleton (p := isParameter) (c := '\n') (by decide)
  have hintermediates := dropWhile_append_singleton (p := isIntermediate) (c := '\n') (by decide)
  fun_cases afterControlSequence? s with
  | case1 rest hrest =>
    rw [List.cons_append, List.cons_append, afterControlSequence?, hparameters, hintermediates,
      hrest]
    rfl
  | case2 rest c after hrest hc =>
    rw [List.cons_append, List.cons_append, afterControlSequence?, hparameters, hintermediates,
      hrest]
    exact if_pos hc
  | case3 rest c after hrest hc =>
    rw [List.cons_append, List.cons_append, afterControlSequence?, hparameters, hintermediates,
      hrest]
    exact if_neg hc
  | case4 s hs =>
    refine afterControlSequence?_eq_none fun rest heq => ?_
    match s with
    | [] | [_] => simp at heq
    | _ :: _ :: s =>
      obtain ⟨rfl, rfl, -⟩ : _ = '\x1b' ∧ _ = '[' ∧ s ++ ['\n'] = rest := by simpa using heq
      exact hs s rfl

lemma keptAfter_append_newline {skipped : Nat} (hs : skipped ≤ s.length) :
    keptAfter skipped (s ++ ['\n']) = keptAfter skipped s ++ ['\n'] := by
  induction s generalizing skipped with
  | nil =>
    obtain rfl : skipped = 0 := Nat.le_zero.mp hs
    rfl
  | cons c rest ih =>
    cases skipped with
    | succ skipped => exact ih (Nat.le_of_succ_le_succ hs)
    | zero =>
      have hafter := afterControlSequence?_append_newline (c :: rest)
      rw [List.cons_append, keptAfter, keptAfter]
      rw [List.cons_append] at hafter
      cases hsequence : afterControlSequence? (c :: rest) with
      | none =>
        rw [hsequence] at hafter
        rw [hafter, ih (Nat.zero_le _)]
        rfl
      | some after =>
        rw [hsequence] at hafter
        rw [hafter]
        dsimp only [Option.map_some]
        rw [List.length_append, List.length_append, Nat.add_sub_add_right]
        exact ih (Nat.sub_le _ _)

lemma withoutControlSequences_append_newline (s : Text) :
    withoutControlSequences (s ++ ['\n']) = withoutControlSequences s ++ ['\n'] :=
  keptAfter_append_newline (Nat.zero_le _)

lemma withoutControlSequences_eq_self (hs : '\x1b' ∉ s) : withoutControlSequences s = s := by
  rw [withoutControlSequences]
  induction s with
  | nil => rfl
  | cons c rest ih =>
    obtain ⟨hc, hrest⟩ := not_or.mp (mt List.mem_cons.mpr hs)
    rw [keptAfter, afterControlSequence?_eq_none fun _ heq => hc (List.cons.inj heq).1.symm]
    exact congrArg (c :: ·) (ih hrest)

lemma keptAfter_sublist (skipped : Nat) (s : Text) : (keptAfter skipped s).Sublist s := by
  induction s generalizing skipped with
  | nil => exact List.Sublist.refl _
  | cons c rest ih =>
    cases skipped with
    | succ skipped => exact (ih skipped).cons c
    | zero =>
      rw [keptAfter]
      split
      · exact (ih _).cons c
      · exact (ih 0).cons_cons c

lemma OneLine.withoutControlSequences (hs : OneLine s) : OneLine (withoutControlSequences s) :=
  fun c hc => hs c ((keptAfter_sublist 0 s).subset hc)

end HostDiscovery.Text
