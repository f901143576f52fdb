import HostDiscovery.Proofs.Properties.RoundTrip

/-! Every map that a text could spell is spelled by one. A line for each entry that goes on in an
empty line keeps what a line alone would lose: the blanks at the end of its value. -/
namespace HostDiscovery.Properties

open Text

def continuedLines (e : Text × Text) : List Text := [entryLine (e.1, e.2 ++ ['\\']), []]

def spelling (m : Properties) : Text :=
  joinWith ['\n'] (['#'] :: m.entries.flatMap continuedLines) ++ ['\n']

lemma Loadable.oneLine_of_mem_continuedLines {e : Text × Text} (h : Loadable e) {line : Text}
    (hl : line ∈ continuedLines e) : OneLine line := by
  rcases List.mem_cons.mp hl with rfl | hl
  · have hline : OneLine (entryLine e ++ ['\\']) :=
      oneLine_append.mpr ⟨h.oneLine_entryLine, by decide⟩
    simpa [entryLine] using hline
  · rw [List.mem_singleton] at hl
    simp [hl, OneLine]

lemma Loadable.isContinued_continuedLine {e : Text × Text} (h : Loadable e) :
    isContinued (entryLine (e.1, e.2 ++ ['\\'])) = true := by
  have hv : isContinued e.2 = false := not_endsOddly_iff.mp h.value_complete
  rw [entryLine, isContinued_append_cons e.1 (by decide), isContinued_concat, hv]
  rfl

lemma entriesAfter_continuedLines_append {e : Text × Text} (h : Loadable e) (ls : List Text) :
    entriesAfter [] (continuedLines e ++ ls) = e :: entriesAfter [] ls := by
  have hend : trimEnd (e.2 ++ ['\\']) = e.2 ++ ['\\'] := trimEnd_append_cons e.2 [] (by decide)
  have htrim : trim (entryLine (e.1, e.2 ++ ['\\'])) = entryLine (e.1, e.2 ++ ['\\']) := by
    rw [h.trim_entryLine, hend]
  have hlast : (entryLine (e.1, e.2 ++ ['\\'])).dropLast = entryLine e := by
    have hline : entryLine (e.1, e.2 ++ ['\\']) = entryLine e ++ ['\\'] := by simp [entryLine]
    rw [hline, List.dropLast_concat]
  have hpending : (entryLine e).isEmpty = false := by simp [entryLine]
  have hentry : splitEntry (entryLine e) = e := by
    rw [splitEntry_entryLine h.not_endsKey, trimStart_eq_self h.value_start]
  simp only [continuedLines, List.cons_append, List.nil_append, entriesAfter, htrim,
    h.not_skipped, h.isContinued_continuedLine, Bool.and_false, Bool.false_eq_true, if_false,
    if_true, hlast, trim_nil, isContinued_nil, hpending, Bool.false_and, List.append_nil, hentry]

lemma entriesAfter_flatMap_continuedLines {entries : List (Text × Text)}
    (h : ∀ e ∈ entries, Loadable e) :
    entriesAfter [] (entries.flatMap continuedLines) = entries := by
  induction entries with
  | nil => rfl
  | cons e rest ih =>
    rw [List.flatMap_cons, entriesAfter_continuedLines_append (h e (by simp)),
      ih fun f hf => h f (List.mem_cons_of_mem e hf)]

lemma parse_spelling {m : Properties} (h : ∀ e ∈ m.entries, Loadable e) :
    parse (spelling m) = m := by
  have hl : ∀ line ∈ ['#'] :: m.entries.flatMap continuedLines, OneLine line := by
    intro line hline
    rcases List.mem_cons.mp hline with rfl | hline
    · decide
    · obtain ⟨e, he, hm⟩ := List.mem_flatMap.mp hline
      exact (h e he).oneLine_of_mem_continuedLines hm
  rw [parse, spelling, lines_joinWith hl, entriesAfter_comment,
    entriesAfter_flatMap_continuedLines h, ofEntries_entries]

/-- The maps that texts spell are exactly those whose entries have the form of `Loadable`. -/
theorem exists_parse_eq_iff (m : Properties) :
    (∃ s, parse s = m) ↔ ∀ e ∈ m.entries, Loadable e := by
  constructor
  · rintro ⟨s, rfl⟩ e he
    exact loadable_of_mem_parse he
  · intro h
    exact ⟨spelling m, parse_spelling h⟩

/-- The blank before a line that goes on in an empty one belongs to the value. -/
example : (parse ['k', '=', 'v', ' ', '\\', '\n', '\n']).entries = [(['k'], ['v', ' '])] := by
  decide

end HostDiscovery.Properties
