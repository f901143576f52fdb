import HostDiscovery.Proofs.Properties.Entry
import HostDiscovery.Proofs.Properties.Map

/-! The entries that a text can spell. Lines that go on are put together to one logical line, and
what is known of such a line at every step bounds what its key and its value can be. -/
namespace HostDiscovery.Properties

open Text

/-- What a text can spell: a key without blanks and separators that is no comment, and a value on
one line that starts with no blank and does not go on in the next line. -/
structure Loadable (e : Text × Text) : Prop where
  key_plain : ∀ c ∈ e.1, isBlank c = false ∧ c ≠ '=' ∧ c ≠ ':'
  key_start : ∀ c ∈ e.1.head?, c ≠ '#' ∧ c ≠ '!'
  value_oneLine : OneLine e.2
  value_start : ∀ c ∈ e.2.head?, isBlank c = false
  value_complete : ¬ EndsOddly e.2

instance (e : Text × Text) : Decidable (Loadable e) :=
  decidable_of_iff
    ((∀ c ∈ e.1, isBlank c = false ∧ c ≠ '=' ∧ c ≠ ':') ∧
      (∀ c ∈ e.1.head?, c ≠ '#' ∧ c ≠ '!') ∧ OneLine e.2 ∧
      (∀ c ∈ e.2.head?, isBlank c = false) ∧ isContinued e.2 = false)
    ⟨fun ⟨hp, hs, ho, hv, hc⟩ => ⟨hp, hs, ho, hv, not_endsOddly_iff.mpr hc⟩,
      fun h => ⟨h.key_plain, h.key_start, h.value_oneLine, h.value_start,
        not_endsOddly_iff.mp h.value_complete⟩⟩

/-- Lines that were put together: no break, no comment, and nothing that goes on. -/
structure LogicalLine (s : Text) : Prop where
  oneLine : OneLine s
  start : ∀ c ∈ s.head?, isBlank c = false ∧ c ≠ '#' ∧ c ≠ '!'
  complete : isContinued s = false

lemma logicalLine_nil : LogicalLine [] := ⟨by simp [OneLine], by simp, rfl⟩

lemma LogicalLine.append {pending piece : Text} (hp : LogicalLine pending)
    (ho : OneLine piece) (hc : isContinued piece = false)
    (hs : pending = [] → ∀ c ∈ piece.head?, isBlank c = false ∧ c ≠ '#' ∧ c ≠ '!') :
    LogicalLine (pending ++ piece) where
  oneLine := oneLine_append.mpr ⟨hp.oneLine, ho⟩
  start := by
    cases pending with
    | nil => exact hs rfl
    | cons d pending => exact hp.start
  complete := (isContinued_append hp.complete piece).trans hc

lemma start_of_not_skipped {line : Text} (hb : ∀ c ∈ line.head?, isBlank c = false)
    (h : isSkipped line = false) :
    ∀ c ∈ line.head?, isBlank c = false ∧ c ≠ '#' ∧ c ≠ '!' := by
  cases line with
  | nil => simp
  | cons d line =>
    intro c hc
    obtain rfl : d = c := by simpa using hc
    exact ⟨hb d rfl, by simpa [isSkipped] using h⟩

lemma LogicalLine.loadable {s : Text} (h : LogicalLine s) : Loadable (splitEntry s) := by
  obtain ⟨gap, hs, hgap, hnone⟩ := exists_eq_splitEntry s
  have ho := hs ▸ h.oneLine
  constructor
  · exact fun c hc => endsKey_eq_false_iff.mp (endsKey_of_mem_key hc)
  · intro c hc
    refine (h.start c ?_).2
    rw [hs, List.head?_append]
    simp [Option.mem_def.mp hc]
  · exact (oneLine_append.mp (oneLine_append.mp ho).2).2
  · exact fun c hc => head?_afterSeparator _ hc
  · rw [not_endsOddly_iff]
    rcases List.eq_nil_or_concat gap with rfl | ⟨more, c, rfl⟩
    · rw [hnone rfl, isContinued_nil]
    · have hc : c ≠ '\\' := ne_backslash_of_endsKey (hgap c (by simp))
      have hcut : s = ((splitEntry s).1 ++ more) ++ c :: (splitEntry s).2 := by
        simpa [List.append_assoc] using hs
      have hcomplete := h.complete
      rwa [hcut, isContinued_append_cons _ hc] at hcomplete

lemma loadable_of_mem_entriesAfter {pending : Text} (hp : LogicalLine pending)
    {ls : List Text} (hl : ∀ line ∈ ls, OneLine line) {e : Text × Text}
    (he : e ∈ entriesAfter pending ls) : Loadable e := by
  -- What is pending is a logical line at every step, so each entry is made of one.
  induction ls generalizing pending with
  | nil =>
    rw [entriesAfter] at he
    split_ifs at he
    · simp at he
    · rw [List.mem_singleton] at he
      exact he ▸ hp.loadable
  | cons raw rest ih =>
    have hrest : ∀ line ∈ rest, OneLine line := fun line h => hl line (List.mem_cons_of_mem raw h)
    have ho : OneLine (trim raw) := fun c hc => hl raw (by simp) c (mem_of_mem_trim hc)
    have hb : ∀ c ∈ (trim raw).head?, isBlank c = false := fun c hc => head?_trim raw hc
    simp only [entriesAfter] at he
    split_ifs at he with hskip hcont
    · exact ih hp hrest he
    · obtain ⟨body, hbody, hc⟩ := exists_concat_of_isContinued hcont
      rw [hbody, oneLine_append] at ho
      rw [hbody, List.dropLast_concat] at he
      refine ih (hp.append ho.1 hc fun hnil => ?_) hrest he
      have hs := start_of_not_skipped hb (by simpa [hnil] using hskip)
      intro c hm
      refine hs c ?_
      rw [hbody, List.head?_append]
      simp [Option.mem_def.mp hm]
    · rcases List.mem_cons.mp he with rfl | he
      · have hstart (hnil : pending = []) := start_of_not_skipped hb (by simpa [hnil] using hskip)
        have hlogical := hp.append ho (by simpa using hcont) hstart
        exact hlogical.loadable
      · exact ih logicalLine_nil hrest he

theorem loadable_of_mem_parse {s : Text} {e : Text × Text} (h : e ∈ (parse s).entries) :
    Loadable e :=
  loadable_of_mem_entriesAfter logicalLine_nil (fun _ => oneLine_of_mem_lines)
    (mem_of_mem_ofEntries h)

end HostDiscovery.Properties
