import HostDiscovery.Proofs.Properties.Image
import HostDiscovery.Proofs.Text.Utf8
import Mathlib.Algebra.Order.BigOperators.Group.List

/-! Writing a map and reading it again. The map comes back exactly if its entries have the form
that a text can spell and no value ends in a blank. That nothing else comes back is seen by
counting: the entries that are read take no more room than the trimmed lines they come from. -/
namespace HostDiscovery.Properties

open Text

/-- What the writer can represent: an entry that a text can spell and whose value does not end in
a blank. -/
structure Storable (e : Text × Text) : Prop extends Loadable e where
  value_end : ∀ c ∈ e.2.getLast?, isBlank c = false

instance (e : Text × Text) : Decidable (Storable e) :=
  decidable_of_iff (Loadable e ∧ ∀ c ∈ e.2.getLast?, isBlank c = false)
    ⟨fun ⟨h, hend⟩ => ⟨h, hend⟩, fun h => ⟨h.toLoadable, h.value_end⟩⟩

lemma Loadable.not_endsKey {e : Text × Text} (h : Loadable e) :
    ∀ c ∈ e.1, endsKey c = false :=
  fun c hc => endsKey_eq_false_iff.mpr (h.key_plain c hc)

lemma Loadable.oneLine_entryLine {e : Text × Text} (h : Loadable e) : OneLine (entryLine e) := by
  refine oneLine_append.mpr ⟨fun c hc => ?_, oneLine_cons.mpr ⟨by decide, h.value_oneLine⟩⟩
  by_contra hbreak
  have hb := isBlank_of_isLineBreak (Bool.not_eq_false _ ▸ hbreak)
  simp [(h.key_plain c hc).1] at hb

lemma Loadable.trim_entryLine {e : Text × Text} (h : Loadable e) (value : Text) :
    trim (entryLine (e.1, value)) = entryLine (e.1, trimEnd value) := by
  have hs : trimStart (entryLine (e.1, value)) = entryLine (e.1, value) := by
    apply trimStart_eq_self
    intro c hc
    cases hk : e.1 with
    | nil =>
      obtain rfl : '=' = c := by simpa [entryLine, hk] using hc
      decide
    | cons d key =>
      obtain rfl : d = c := by simpa [entryLine, hk] using hc
      exact (h.key_plain d (by simp [hk])).1
  rw [trim, hs]
  exact trimEnd_append_cons e.1 value (by decide)

lemma Loadable.not_skipped {e : Text × Text} (h : Loadable e) (value : Text) :
    isSkipped (entryLine (e.1, value)) = false := by
  cases hk : e.1 with
  | nil => rfl
  | cons d key =>
    have hd := h.key_start d (by simp [hk])
    simpa [entryLine, isSkipped] using hd

lemma entriesAfter_entryLines {entries : List (Text × Text)} (h : ∀ e ∈ entries, Storable e) :
    entriesAfter [] (entries.map entryLine) = entries := by
  induction entries with
  | nil => rfl
  | cons e rest ih =>
    have he := h e (by simp)
    have htrim : trim (entryLine e) = entryLine e := by
      rw [he.trim_entryLine e.2, trimEnd_eq_self_iff.mpr he.value_end]
    have hcont : isContinued (entryLine e) = false :=
      (isContinued_append_cons e.1 (by decide) e.2).trans (not_endsOddly_iff.mp he.value_complete)
    simp only [List.map_cons, entriesAfter, htrim, he.not_skipped e.2, hcont, List.nil_append,
      Bool.and_false, Bool.false_eq_true, if_false, splitEntry_entryLine he.not_endsKey,
      trimStart_eq_self he.value_start, ih fun f hf => h f (List.mem_cons_of_mem e hf)]

lemma entriesAfter_comment (time : Text) (ls : List Text) :
    entriesAfter [] (('#' :: time) :: ls) = entriesAfter [] ls := by
  have hs : trim ('#' :: time) = '#' :: trimEnd time := by
    rw [trim, trimStart_cons_of_not_blank (by decide)]
    exact trimEnd_append_cons [] time (by decide)
  simp [entriesAfter, hs, isSkipped]

lemma parse_write {time : Text} (ht : OneLine time) {m : Properties}
    (h : ∀ e ∈ m.entries, Loadable e) :
    parse (unifyBreaks (write time m)) = ofEntries (entriesAfter [] (m.entries.map entryLine)) := by
  have hl : ∀ line ∈ writtenLines time m, OneLine line := by
    intro line hline
    rcases List.mem_cons.mp hline with rfl | hline
    · exact oneLine_cons.mpr ⟨by decide, ht⟩
    · obtain ⟨e, he, rfl⟩ := List.mem_map.mp hline
      exact (h e he).oneLine_entryLine
  have hr : '\r' ∉ write time m := by
    intro hm
    rcases List.mem_append.mp hm with hm | hm
    · rcases mem_joinWith hm with hm | ⟨line, hline, hm⟩
      · exact absurd hm (by decide)
      · exact (hl line hline).return_not_mem hm
    · exact absurd hm (by decide)
  rw [unifyBreaks_eq_self hr, parse, write, writtenLines, lines_joinWith hl, entriesAfter_comment]

/-- The entries that are read take no more room than the trimmed lines, as long as each of these
has an equals sign: the sign is what a written entry needs beside its key and its value. -/
lemma writtenSize_entriesAfter_le {pending : Text} (hp : pending = [] ∨ '=' ∈ pending)
    {ls : List Text} (hl : ∀ line ∈ ls, '=' ∈ trim line) :
    writtenSize (entriesAfter pending ls)
      ≤ pending.length + (ls.map fun line => (trim line).length).sum := by
  have hkey : endsKey '=' = true := by decide
  induction ls generalizing pending with
  | nil =>
    rw [entriesAfter]
    rcases hp with rfl | hp
    · simp [writtenSize_nil]
    · have hne : pending.isEmpty = false := by
        rw [List.isEmpty_eq_false_iff]
        exact List.ne_nil_of_mem hp
      have hone := entryLine_splitEntry_length_le hp hkey
      simpa [hne, writtenSize_nil] using hone
  | cons raw rest ih =>
    have hraw := hl raw (by simp)
    have hrest : ∀ line ∈ rest, '=' ∈ trim line :=
      fun line h => hl line (List.mem_cons_of_mem raw h)
    simp only [entriesAfter, List.map_cons, List.sum_cons]
    split_ifs with hskip hcont
    · have := ih hp hrest
      omega
    · obtain ⟨body, hbody, -⟩ := exists_concat_of_isContinued hcont
      have hmem : '=' ∈ pending ++ body := by
        rw [hbody, List.mem_append] at hraw
        rcases hraw with hraw | hraw
        · exact List.mem_append_right _ hraw
        · exact absurd hraw (by decide)
      have hi := ih (.inr hmem) hrest
      rw [hbody, List.dropLast_concat]
      simp only [List.length_append, List.length_singleton] at hi ⊢
      omega
    · have he := entryLine_splitEntry_length_le (List.mem_append_right pending hraw) hkey
      have hi := ih (.inl rfl) hrest
      rw [writtenSize_cons]
      simp only [List.length_append, List.length_nil] at he hi
      omega

lemma length_trim_entryLine_lt {e : Text × Text} (h : Loadable e) {c : Char}
    (hc : c ∈ e.2.getLast?) (hb : isBlank c = true) :
    (trim (entryLine e)).length < (entryLine e).length := by
  have hne : trimEnd e.2 ≠ e.2 := by
    intro heq
    have := trimEnd_eq_self_iff.mp heq c hc
    simp [hb] at this
  have hlt : (trimEnd e.2).length < e.2.length := by
    refine Nat.lt_of_le_of_ne (trimEnd_length_le e.2) fun hl => hne ?_
    exact (List.rdropWhile_prefix isBlank e.2).eq_of_length hl
  rw [h.trim_entryLine e.2]
  simpa [entryLine] using hlt

/-- A blank at the end of a value is room that the trimmed lines do not have. -/
lemma sum_length_trim_lt {entries : List (Text × Text)} (h : ∀ e ∈ entries, Loadable e)
    {e : Text × Text} (he : e ∈ entries) {c : Char} (hc : c ∈ e.2.getLast?)
    (hb : isBlank c = true) :
    ((entries.map entryLine).map fun line => (trim line).length).sum < writtenSize entries := by
  rw [writtenSize, List.map_map]
  apply List.sum_lt_sum
  · exact fun f _ => trim_length_le (entryLine f)
  · exact ⟨e, he, length_trim_entryLine_lt (h e he) hc hb⟩

lemma parse_write_iff_of_loadable {time : Text} (ht : OneLine time) {m : Properties}
    (h : ∀ e ∈ m.entries, Loadable e) :
    parse (unifyBreaks (write time m)) = m ↔
      ∀ e ∈ m.entries, ∀ c ∈ e.2.getLast?, isBlank c = false := by
  rw [parse_write ht h]
  constructor
  -- The map would need more room than the lines have that it is read from.
  · intro hm e he c hc
    by_contra hb
    have hlt := sum_length_trim_lt h he hc (by simpa using hb)
    have hsign : ∀ line ∈ m.entries.map entryLine, '=' ∈ trim line := by
      intro line hline
      obtain ⟨f, hf, rfl⟩ := List.mem_map.mp hline
      rw [(h f hf).trim_entryLine f.2]
      simp [entryLine]
    have hread := writtenSize_entriesAfter_le (.inl rfl) hsign
    have hmap := writtenSize_ofEntries_le (entriesAfter [] (m.entries.map entryLine))
    rw [hm] at hmap
    simp only [List.length_nil] at hread
    omega
  · intro hend
    rw [entriesAfter_entryLines fun e he => ⟨h e he, hend e he⟩, ofEntries_entries]

lemma ofBytes_encode_write {time : Text} (ht : OneLine time) {m : Properties}
    (h : ∀ e ∈ m.entries, Storable e) : ofBytes (Utf8.encode (write time m)) = .ok m := by
  have hparse : parse (unifyBreaks (write time m)) = m :=
    (parse_write_iff_of_loadable ht fun e he => (h e he).toLoadable).mpr
      fun e he => (h e he).value_end
  rw [ofBytes, Utf8.decode_encode, Except.map, hparse]

/-- A map is read back from its text exactly if the writer can represent every entry of it. -/
theorem parse_write_eq_self_iff {time : Text} (ht : OneLine time) (m : Properties) :
    parse (unifyBreaks (write time m)) = m ↔ ∀ e ∈ m.entries, Storable e := by
  constructor
  · intro hm e he
    have hload : ∀ f ∈ m.entries, Loadable f := by
      intro f hf
      rw [← hm] at hf
      exact loadable_of_mem_parse hf
    exact ⟨hload e he, (parse_write_iff_of_loadable ht hload).mp hm e he⟩
  · intro h
    have hload : ∀ e ∈ m.entries, Loadable e := fun e he => (h e he).toLoadable
    exact (parse_write_iff_of_loadable ht hload).mpr fun e he => (h e he).value_end

/-- An empty key, an empty value and backslashes in pairs are no obstacle. -/
theorem parse_write_plain_entries :
    OneLine "Mon Jan 01 00:00:00 2024".toList ∧
      let m := ofEntries [([], ['=']), (['k'], []), (['p'], ['C', ':', '\\', '\\'])]
      parse (unifyBreaks (write "Mon Jan 01 00:00:00 2024".toList m)) = m := by
  have ht : OneLine "Mon Jan 01 00:00:00 2024".toList := by simp [OneLine, isLineBreak]
  exact ⟨ht, (parse_write_eq_self_iff ht _).mpr (by decide)⟩

/-- What was read from a text is read again after writing exactly if no value ends in a blank. -/
theorem parse_write_parse_iff {time : Text} (ht : OneLine time) (s : Text) :
    parse (unifyBreaks (write time (parse s))) = parse s ↔
      ∀ e ∈ (parse s).entries, ∀ c ∈ e.2.getLast?, isBlank c = false :=
  parse_write_iff_of_loadable ht fun _ he => loadable_of_mem_parse he

/-- A line that goes on with nothing keeps the blank before its backslash, and the blank is lost
when it is written: it ends the line then. -/
theorem parse_write_dangling_line :
    ¬ ∀ time s : Text, OneLine time →
      parse (unifyBreaks (write time (parse s))) = parse s := by
  intro h
  have hs := congrArg entries (h [] ['a', '=', 'b', ' ', '\\'] (by simp [OneLine]))
  exact absurd hs (by decide)

/-- A blank before a line that goes on with something stays inside the value. -/
theorem parse_write_continued_line :
    OneLine "Mon Jan 01 00:00:00 2024".toList ∧
      let m := parse ['a', '=', 'b', ' ', '\\', '\n', 'c']
      parse (unifyBreaks (write "Mon Jan 01 00:00:00 2024".toList m)) = m := by
  have ht : OneLine "Mon Jan 01 00:00:00 2024".toList := by simp [OneLine, isLineBreak]
  exact ⟨ht, (parse_write_parse_iff ht _).mpr (by decide)⟩

end HostDiscovery.Properties
