import HostDiscovery.Proofs.Properties.Image

/-! A logical line that is cut into pieces, one on each line of the text. Wherever the cuts fall and
whatever blanks stand around the pieces, it is read as the entry of the whole line. What entry that
is, `Splits` says without the reader. -/
namespace HostDiscovery.Properties

open Text

/-- A part of a logical line, with the blanks that stand around it on its line of the text. -/
structure Piece where
  before : Text
  text : Text
  after : Text

namespace Piece

def line (p : Piece) (mark : Text) : Text := p.before ++ (p.text ++ mark) ++ p.after

/-- The line of a piece is one line, and its blanks and backslashes are told apart from those of the
piece: this one starts with no blank and ends in backslashes in pairs. -/
structure WellCut (p : Piece) : Prop where
  padding : ∀ c ∈ p.before ++ p.after, isBlank c = true ∧ isLineBreak c = false
  oneLine : OneLine p.text
  start : ∀ c ∈ p.text.head?, isBlank c = false
  complete : ¬ EndsOddly p.text

instance (p : Piece) : Decidable p.WellCut :=
  decidable_of_iff
    ((∀ c ∈ p.before ++ p.after, isBlank c = true ∧ isLineBreak c = false) ∧ OneLine p.text ∧
      (∀ c ∈ p.text.head?, isBlank c = false) ∧ isContinued p.text = false)
    ⟨fun ⟨hp, ho, hs, hc⟩ => ⟨hp, ho, hs, not_endsOddly_iff.mpr hc⟩,
      fun h => ⟨h.padding, h.oneLine, h.start, not_endsOddly_iff.mp h.complete⟩⟩

end Piece

def pieceLines : List Piece → List Text
  | [] => []
  | [p] => [p.line []]
  | p :: next :: more => p.line ['\\'] :: pieceLines (next :: more)

/-- Pieces of a line that is neither blank nor a comment, and that does not end in a blank. -/
structure Cut (pieces : List Piece) : Prop where
  piece : ∀ p ∈ pieces, p.WellCut
  first : ∃ p ∈ pieces.head?, ∃ c ∈ p.text.head?, c ≠ '#' ∧ c ≠ '!'
  last : ∀ p ∈ pieces.getLast?, ∀ c ∈ p.text.getLast?, isBlank c = false

lemma Piece.WellCut.trim_line {p : Piece} (h : p.WellCut) {mark : Text}
    (hstart : ∀ c ∈ (p.text ++ mark).head?, isBlank c = false)
    (hend : ∀ c ∈ (p.text ++ mark).getLast?, isBlank c = false) :
    trim (p.line mark) = p.text ++ mark := by
  obtain ⟨hbefore, hafter⟩ := List.forall_mem_append.mp h.padding
  have hblankBefore := fun c hc => (hbefore c hc).1
  have hblankAfter := fun c hc => (hafter c hc).1
  exact trim_padded hblankBefore hblankAfter hstart hend

lemma Piece.WellCut.oneLine_line {p : Piece} (h : p.WellCut) {mark : Text} (hm : OneLine mark) :
    OneLine (p.line mark) := by
  obtain ⟨hbefore, hafter⟩ := List.forall_mem_append.mp h.padding
  refine oneLine_append.mpr ⟨oneLine_append.mpr ⟨fun c hc => (hbefore c hc).2, ?_⟩,
    fun c hc => (hafter c hc).2⟩
  exact oneLine_append.mpr ⟨h.oneLine, hm⟩

lemma Piece.WellCut.trim_continued {p : Piece} (h : p.WellCut) :
    trim (p.line ['\\']) = p.text ++ ['\\'] := by
  have hbackslash : isBlank '\\' = false := by decide
  refine h.trim_line (fun c hc => ?_) (by simp [hbackslash])
  rw [List.head?_append, Option.mem_def, Option.or_eq_some_iff] at hc
  rcases hc with hc | ⟨-, hc⟩
  · exact h.start c hc
  · obtain rfl : '\\' = c := by simpa using hc
    exact hbackslash

lemma Piece.not_skipped {p : Piece} {pending : Text}
    (hfirst : pending = [] → ∃ c ∈ p.text.head?, c ≠ '#' ∧ c ≠ '!') (mark : Text) :
    (pending.isEmpty && isSkipped (p.text ++ mark)) = false := by
  cases pending with
  | cons d pending => rfl
  | nil =>
    obtain ⟨c, hc, hmark⟩ := hfirst rfl
    cases htext : p.text with
    | nil => simp [htext] at hc
    | cons d text =>
      obtain rfl : d = c := by simpa [htext] using hc
      simpa [isSkipped] using hmark

lemma entriesAfter_continued {p : Piece} (h : p.WellCut) {pending : Text}
    (hfirst : pending = [] → ∃ c ∈ p.text.head?, c ≠ '#' ∧ c ≠ '!') (ls : List Text) :
    entriesAfter pending (p.line ['\\'] :: ls) = entriesAfter (pending ++ p.text) ls := by
  have hcontinued : isContinued (p.text ++ ['\\']) = true := by
    rw [isContinued_concat, not_endsOddly_iff.mp h.complete]
    rfl
  simp only [entriesAfter, h.trim_continued, Piece.not_skipped hfirst, hcontinued,
    List.dropLast_concat, Bool.false_eq_true, if_false, if_true]

lemma entriesAfter_last {p : Piece} (h : p.WellCut)
    (hend : ∀ c ∈ p.text.getLast?, isBlank c = false) {pending : Text}
    (hfirst : pending = [] → ∃ c ∈ p.text.head?, c ≠ '#' ∧ c ≠ '!') :
    entriesAfter pending [p.line []] = [splitEntry (pending ++ p.text)] := by
  have htrim : trim (p.line []) = p.text := by
    have hline : trim (p.line []) = p.text ++ [] :=
      h.trim_line (by simpa using h.start) (by simpa using hend)
    simpa using hline
  have hskip : (pending.isEmpty && isSkipped p.text) = false := by
    have hpiece := Piece.not_skipped hfirst []
    simpa using hpiece
  simp [entriesAfter, htrim, hskip, not_endsOddly_iff.mp h.complete]

/-- The lines of pieces are read as one entry, together with what is pending in front of them. -/
lemma entriesAfter_pieceLines {pieces : List Piece} (hne : pieces ≠ [])
    (hpieces : ∀ p ∈ pieces, p.WellCut)
    (hlast : ∀ p ∈ pieces.getLast?, ∀ c ∈ p.text.getLast?, isBlank c = false) {pending : Text}
    (hfirst : pending = [] → ∃ p ∈ pieces.head?, ∃ c ∈ p.text.head?, c ≠ '#' ∧ c ≠ '!') :
    entriesAfter pending (pieceLines pieces) =
      [splitEntry (pending ++ pieces.flatMap Piece.text)] := by
  induction pieces generalizing pending with
  | nil => exact absurd rfl hne
  | cons p rest ih =>
    obtain ⟨hp, hrest⟩ := List.forall_mem_cons.mp hpieces
    have hhead : pending = [] → ∃ c ∈ p.text.head?, c ≠ '#' ∧ c ≠ '!' := by
      simpa using hfirst
    cases rest with
    | nil =>
      have hentry := entriesAfter_last hp (hlast p rfl) hhead
      simpa [pieceLines] using hentry
    | cons next more =>
      have hlast' : ∀ q ∈ (next :: more).getLast?, ∀ c ∈ q.text.getLast?, isBlank c = false := by
        simpa using hlast
      have hpending : pending ++ p.text ≠ [] := by
        intro hnil
        obtain ⟨hnone, htext⟩ := List.append_eq_nil_iff.mp hnil
        obtain ⟨c, hc, -⟩ := hhead hnone
        simp [htext] at hc
      rw [pieceLines, entriesAfter_continued hp hhead,
        ih (List.cons_ne_nil next more) hrest hlast' fun hnil => absurd hnil hpending,
        List.append_assoc]
      rfl

lemma entriesAfter_append_nil (pending : Text) (ls : List Text) :
    entriesAfter pending (ls ++ [[]]) = entriesAfter pending ls := by
  induction ls generalizing pending with
  | nil => cases pending <;> simp [entriesAfter, trim_nil, isSkipped, isContinued_nil]
  | cons raw rest ih => simp only [List.cons_append, entriesAfter, ih]

lemma oneLine_of_mem_pieceLines {pieces : List Piece} (h : ∀ p ∈ pieces, p.WellCut) {line : Text}
    (hl : line ∈ pieceLines pieces) : OneLine line := by
  fun_induction pieceLines pieces with
  | case1 => cases hl
  | case2 p =>
    rw [List.mem_singleton] at hl
    rw [hl]
    exact (h p (by simp)).oneLine_line (by simp [OneLine])
  | case3 p next more ih =>
    obtain ⟨hp, hrest⟩ := List.forall_mem_cons.mp h
    rcases List.mem_cons.mp hl with rfl | hl
    · exact hp.oneLine_line (by decide)
    · exact ih hrest hl

lemma entriesAfter_lines_of_cut {pieces : List Piece} (h : Cut pieces) {s : Text}
    (hs : lines s = pieceLines pieces ∨ s = joinWith ['\n'] (pieceLines pieces)) :
    entriesAfter [] (lines s) = [splitEntry (pieces.flatMap Piece.text)] := by
  have hne : pieces ≠ [] := by
    rintro rfl
    obtain ⟨p, hp, -⟩ := h.first
    cases hp
  have hentry : entriesAfter [] (pieceLines pieces) = [splitEntry (pieces.flatMap Piece.text)] :=
    entriesAfter_pieceLines hne h.piece h.last fun _ => h.first
  rw [← hentry]
  rcases hs with hs | rfl
  · rw [hs]
  · have hlines : pieceLines pieces ≠ [] := by
      intro hnil
      simp [hnil, entriesAfter] at hentry
    rcases lines_joinWith_cases hlines fun line => oneLine_of_mem_pieceLines h.piece with hj | hj
    · rw [hj]
    · conv_rhs => rw [← hj, entriesAfter_append_nil]

/-- A text of the lines of a cut line spells one entry, whose key and value are those that the whole
line is split into. -/
theorem parse_of_cut {pieces : List Piece} (h : Cut pieces) {s : Text}
    (hs : lines s = pieceLines pieces ∨ s = joinWith ['\n'] (pieceLines pieces)) :
    ∃ key value, (parse s).entries = [(key, value)] ∧
      ∀ k v, Splits (pieces.flatMap Piece.text) k v ↔ k = key ∧ v = value := by
  rcases hsplit : splitEntry (pieces.flatMap Piece.text) with ⟨key, value⟩
  refine ⟨key, value, ?_, fun k v => ?_⟩
  · rw [parse, entriesAfter_lines_of_cut h hs, hsplit]
    rfl
  · simp [splits_iff, hsplit, eq_comm]

/-- The cuts fall into the key, into the separator and behind two backslashes; one piece is empty
and one starts as a comment does. -/
theorem parse_of_cut_six_pieces :
    let pieces : List Piece := [⟨[' '], ['k'], ['\t']⟩, ⟨[], ['e', 'y', ' '], []⟩,
      ⟨[' '], [':'], []⟩, ⟨[], [], [' ']⟩, ⟨[], ['v', '\\', '\\'], []⟩, ⟨['\t'], ['#', 'w'], [' ']⟩]
    Cut pieces ∧ (parse (joinWith ['\n'] (pieceLines pieces))).entries =
      [(['k', 'e', 'y'], ['v', '\\', '\\', '#', 'w'])] := by
  intro pieces
  have hcut : Cut pieces := by
    refine ⟨by decide, ⟨_, rfl, 'k', rfl, by decide⟩, fun p hp => ?_⟩
    obtain rfl := Option.some.inj hp
    decide
  obtain ⟨key, value, hentries, hunique⟩ := parse_of_cut hcut (.inr rfl)
  have hplain : ∀ c ∈ ['k', 'e', 'y'], isBlank c = false ∧ c ≠ '=' ∧ c ≠ ':' := by decide
  have hsplits : Splits (pieces.flatMap Piece.text) ['k', 'e', 'y'] ['v', '\\', '\\', '#', 'w'] :=
    @Splits.sign _ [' '] [] _ _ hplain (.inr rfl) (by decide) (by decide) (by decide)
  obtain ⟨rfl, rfl⟩ := (hunique _ _).mp hsplits
  exact ⟨hcut, hentries⟩

end HostDiscovery.Properties
