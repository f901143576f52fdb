import HostDiscovery.Proofs.Settings.Environment
import HostDiscovery.Proofs.Text.Split
import HostDiscovery.Proofs.Text.Trim

/-! Variables that are read as lists, with commas between the items. Reading undoes writing exactly
for the items that it leaves as they are, whatever blanks are put around them and whatever blank
pieces among them. -/
namespace HostDiscovery.Environment

open Text

/-- What reading leaves as it is: something without blanks at its ends and without commas. -/
structure IsItem (s : Text) : Prop where
  ne_nil : s ≠ []
  head : ∀ c ∈ s.head?, isBlank c = false
  last : ∀ c ∈ s.getLast?, isBlank c = false
  one : ',' ∉ s

lemma isItem_iff {s : Text} : IsItem s ↔ s ≠ [] ∧ s.head?.all (fun c => !isBlank c) = true ∧
    s.getLast?.all (fun c => !isBlank c) = true ∧ ',' ∉ s := by
  simp only [Option.all_eq_true, Bool.not_eq_true']
  exact ⟨fun h => ⟨h.ne_nil, h.head, h.last, h.one⟩,
    fun ⟨ne_nil, head, last, one⟩ => ⟨ne_nil, head, last, one⟩⟩

instance (s : Text) : Decidable (IsItem s) := decidable_of_iff _ isItem_iff.symm

/-- The pieces are the items in their order, each with blanks around it, and blank pieces. -/
inductive Spreads : List Text → List Text → Prop
  | nil : Spreads [] []
  | blank {piece : Text} {pieces xs : List Text} (blank : ∀ c ∈ piece, isBlank c = true)
      (more : Spreads pieces xs) : Spreads (piece :: pieces) xs
  | item (before x after : Text) {pieces xs : List Text}
      (blank_before : ∀ c ∈ before, isBlank c = true)
      (blank_after : ∀ c ∈ after, isBlank c = true) (more : Spreads pieces xs) :
      Spreads ((before ++ x ++ after) :: pieces) (x :: xs)

/-- A variable with this text is read as a list of these items, whatever else is set and whatever
the default is. -/
structure ReadAs (text : Text) (xs : List Text) : Prop where
  value : ∀ env name default s, get? env name = some (String.ofList text) →
    (read env (some .list) name default s).1 = .ok (Value.ofTexts (xs.map String.ofList))
  texts : ∀ env name default s, get? env name = some (String.ofList text) →
    (readItems env name default s).1 = .ok (xs.map String.ofList)

variable {text : Text} {xs pieces : List Text}

lemma readBy_eq_ok {α : Type} {convert : Text → Option α} {env : Environment} {name : String}
    {a : α} (kind : Kind) (default : α) (s : Session)
    (h : get? env name = some (String.ofList text)) (ha : convert text = some a) :
    (readBy convert kind env name default s).1 = .ok a := by
  have hconvert : convert (String.ofList text).toList = some a := by rw [String.toList_ofList, ha]
  have hconverts : Converts convert env name := by
    intro v hv
    obtain rfl := Option.some.inj (h.symm.trans hv)
    exact ⟨a, hconvert⟩
  rw [readBy_logs kind default hconverts s, valueOr, h, Option.bind_some, hconvert,
    Option.getD_some]

lemma readAs_iff : ReadAs text xs ↔ items text = xs := by
  constructor
  · intro h
    have hget : get? [("", String.ofList text)] "" = some (String.ofList text) := rfl
    have hread := (h.texts _ _ [] {} hget).symm.trans (readBy_eq_ok .list [] {} hget rfl)
    have hlists := congrArg (List.map String.toList) (Except.ok.inj hread).symm
    simpa [Function.comp_def] using hlists
  · rintro rfl
    exact ⟨fun _ _ default s h => readBy_eq_ok .list default s h rfl,
      fun _ _ default s h => readBy_eq_ok .list default s h rfl⟩

lemma items_joinWith (h : ∀ piece ∈ pieces, ',' ∉ piece) :
    items (joinWith [','] pieces) = (pieces.map trim).filter fun item => !item.isEmpty := by
  cases pieces with
  | nil => rfl
  | cons first more => rw [items, splitOn_joinWith h]

lemma isItem_of_mem_items {x : Text} (h : x ∈ items text) : IsItem x := by
  obtain ⟨hmap, hne⟩ := List.mem_filter.mp h
  obtain ⟨piece, hpiece, rfl⟩ := List.mem_map.mp hmap
  exact ⟨by simpa using hne, fun _ => head?_trim piece, fun _ => getLast?_trim piece,
    fun hcomma => not_mem_of_mem_splitOn hpiece (mem_of_mem_trim hcomma)⟩

lemma spreads_filter_trim (pieces : List Text) :
    Spreads pieces ((pieces.map trim).filter fun item => !item.isEmpty) := by
  induction pieces with
  | nil => exact .nil
  | cons piece pieces ih =>
    obtain ⟨before, after, hpiece, hbefore, hafter⟩ := exists_trim_padded piece
    rw [List.map_cons, List.filter_cons]
    cases htrim : trim piece with
    | nil =>
      refine .blank ?_ ih
      rw [hpiece, htrim, List.append_nil]
      exact fun c hc => (List.mem_append.mp hc).elim (hbefore c) (hafter c)
    | cons c rest =>
      rw [hpiece, htrim]
      exact .item before (c :: rest) after hbefore hafter ih

lemma Spreads.refl (xs : List Text) : Spreads xs xs := by
  induction xs with
  | nil => exact .nil
  | cons x xs ih =>
    simpa using Spreads.item [] x [] (by simp) (by simp) ih

lemma Spreads.filter_trim (h : Spreads pieces xs) (hxs : ∀ x ∈ xs, IsItem x) :
    (pieces.map trim).filter (fun item => !item.isEmpty) = xs := by
  induction h with
  | nil => rfl
  | blank blank more ih =>
    rw [List.map_cons, List.filter_cons, trim_of_blank blank]
    exact ih hxs
  | item before x after hbefore hafter more ih =>
    obtain ⟨hx, hmore⟩ := List.forall_mem_cons.mp hxs
    rw [List.map_cons, List.filter_cons, trim_padded hbefore hafter hx.head hx.last, ih hmore,
      if_pos (by simp [hx.ne_nil])]

lemma Spreads.comma_not_mem (h : Spreads pieces xs) (hxs : ∀ x ∈ xs, IsItem x) :
    ∀ piece ∈ pieces, ',' ∉ piece := by
  have hblank {s : Text} (hs : ∀ c ∈ s, isBlank c = true) : ',' ∉ s := fun hcomma =>
    absurd (hs ',' hcomma) (by decide)
  induction h with
  | nil => simp
  | blank blank more ih => exact List.forall_mem_cons.mpr ⟨hblank blank, ih hxs⟩
  | item before x after hbefore hafter more ih =>
    obtain ⟨hx, hmore⟩ := List.forall_mem_cons.mp hxs
    refine List.forall_mem_cons.mpr ⟨?_, ih hmore⟩
    simp [hblank hbefore, hblank hafter, hx.one]

lemma Spreads.readAs_iff_isItem (h : Spreads pieces xs) :
    ReadAs (joinWith [','] pieces) xs ↔ ∀ x ∈ xs, IsItem x := by
  rw [readAs_iff]
  constructor
  · rintro hitems x hx
    rw [← hitems] at hx
    exact isItem_of_mem_items hx
  · intro hxs
    rw [items_joinWith (h.comma_not_mem hxs), h.filter_trim hxs]

/-- Every text is read as a list. What is read are items, in their order in the text and with only
blanks around and between them, and they are read again from their own list. A list is read from its
text exactly if it has only items; blanks around the items and blank pieces make no difference. -/
theorem readAs_joinWith_iff :
    (∀ text, ∃ xs, ReadAs text xs ∧ (∀ x ∈ xs, IsItem x) ∧
        (∃ pieces, joinWith [','] pieces = text ∧ (∀ piece ∈ pieces, ',' ∉ piece) ∧
          Spreads pieces xs) ∧
        ReadAs (joinWith [','] xs) xs) ∧
      ∀ xs, (ReadAs (joinWith [','] xs) xs ↔ ∀ x ∈ xs, IsItem x) ∧
        ∀ pieces, Spreads pieces xs →
          (ReadAs (joinWith [','] pieces) xs ↔ ∀ x ∈ xs, IsItem x) := by
  refine ⟨fun text => ?_, fun xs => ⟨(Spreads.refl xs).readAs_iff_isItem,
    fun pieces h => h.readAs_iff_isItem⟩⟩
  have hitem : ∀ x ∈ items text, IsItem x := fun _ => isItem_of_mem_items
  refine ⟨items text, readAs_iff.mpr rfl, hitem, ⟨splitOn ',' text, joinWith_splitOn ',' text,
    fun _ => not_mem_of_mem_splitOn, spreads_filter_trim _⟩, ?_⟩
  exact (Spreads.refl _).readAs_iff_isItem.mpr hitem

/-- Blanks inside an item stay, a piece of other blanks than spaces goes. -/
theorem readAs_joinWith_blank_pieces :
    let pieces := [" a b".toList, "\u3000\t".toList, [], "c\u00a0".toList]
    Spreads pieces ["a b".toList, ['c']] ∧
      ReadAs " a b,\u3000\t,,c\u00a0".toList ["a b".toList, ['c']] := by
  intro pieces
  have hspreads : Spreads pieces ["a b".toList, ['c']] :=
    .item [' '] "a b".toList [] (by decide) (by decide) <| .blank (by decide) <|
      .blank (by decide) <| .item [] ['c'] ['\u00a0'] (by decide) (by decide) .nil
  have hitems : ∀ x ∈ ["a b".toList, ['c']], IsItem x := by decide
  obtain ⟨-, hjoined⟩ := readAs_joinWith_iff.2 ["a b".toList, ['c']]
  exact ⟨hspreads, (hjoined pieces hspreads).mpr hitems⟩

end HostDiscovery.Environment
