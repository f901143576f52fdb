import HostDiscovery.Address.Basic
import HostDiscovery.Proofs.Address.Recognition
import Mathlib.Data.List.TakeWhile

/-! The written text of an address spells that address. So it is read as that address, and what is
known of the number is known of the text that stands for it. -/
namespace HostDiscovery

open Text

namespace NumericAddress

lemma toLower_hexDigit {d : Nat} (h : d < 16) : (hexDigit d).toLower = Nat.digitChar d := by
  interval_cases d <;> rfl

lemma spellsDigits_map {base : Nat} (hb : base ≤ 16) {ds : List Nat} (h : ∀ d ∈ ds, d < base) :
    SpellsDigits base (ds.map hexDigit) ds := by
  rw [SpellsDigits, List.forall₂_map_left_iff, List.forall₂_same]
  intro d hd
  exact ⟨h d hd, toLower_hexDigit ((h d hd).trans_le hb)⟩

lemma spellsOctet_octetText {n : Nat} (h : n ≤ 255) : SpellsOctet (octetText n) n := by
  obtain ⟨some_digit, short, hlt, hvalue⟩ :=
    dropLeadingZeros_toDigits (by decide : 0 < 10) (by decide : 0 < 3) (by omega : n < 10 ^ 3)
  rw [ofDigits_eq] at hvalue
  have hoctet := SpellsOctet.intro (spellsDigits_map (by decide) hlt) some_digit short
    head?_dropLeadingZeros (hvalue.trans_le h)
  rwa [hvalue] at hoctet

lemma spellsGroup_groupText {n : Nat} (h : n < 65536) : SpellsGroup (groupText n) n := by
  obtain ⟨some_digit, short, hlt, hvalue⟩ :=
    dropLeadingZeros_toDigits (by decide : 0 < 16) (by decide : 0 < 4) h
  rw [ofDigits_eq] at hvalue
  have hgroup := SpellsGroup.intro (spellsDigits_map (by decide) hlt) some_digit short
  rwa [hvalue] at hgroup

lemma forall₂_spellsGroup {groups : List Nat} (h : ∀ g ∈ groups, g < 65536) :
    List.Forall₂ SpellsGroup (groups.map groupText) groups := by
  rw [List.forall₂_map_left_iff, List.forall₂_same]
  intro g hg
  exact spellsGroup_groupText (h g hg)

lemma longestZeros_spec (groups : List Nat) :
    ∃ left right, groups = left ++ (List.replicate (longestZeros groups).2 0 ++ right) ∧
      left.length = (longestZeros groups).1 := by
  induction groups with
  | nil => exact ⟨[], [], rfl, rfl⟩
  | cons g rest ih =>
    simp only [longestZeros]
    split_ifs with h
    · have hzeros : (g :: rest).takeWhile (· == 0) = List.replicate (zerosAhead (g :: rest)) 0 :=
        List.eq_replicate_iff.mpr ⟨rfl, fun x hx => by simpa using List.mem_takeWhile_imp hx⟩
      refine ⟨[], (g :: rest).dropWhile (· == 0), ?_, rfl⟩
      rw [← hzeros, List.takeWhile_append_dropWhile, List.nil_append]
    · obtain ⟨left, right, hrest, hlen⟩ := ih
      exact ⟨g :: left, right, congrArg (g :: ·) hrest, congrArg (· + 1) hlen⟩

lemma spellsEight_groupsText {groups : List Nat} (eight : groups.length = 8)
    (h : ∀ g ∈ groups, g < 65536) : SpellsEight (groupsText groups) groups := by
  obtain ⟨left, right, hsplit, hleft⟩ := longestZeros_spec groups
  rcases hrun : longestZeros groups with ⟨start, run⟩
  simp only [hrun] at hsplit hleft
  simp only [groupsText, hrun]
  split_ifs with hshort
  · exact .full (.of_groups (forall₂_spellsGroup h)) eight
  · have htake : groups.take start = left := by
      rw [hsplit, ← hleft, List.take_left]
    have hdrop : groups.drop (start + run) = right := by
      rw [hsplit, ← hleft]
      simp
    have hsum : left.length + run + right.length = 8 := by
      have := congrArg List.length hsplit
      simp only [List.length_append, List.length_replicate] at this
      omega
    have hl : ∀ g ∈ left, g < 65536 := fun g hg => h g (by rw [hsplit]; simp [hg])
    have hr : ∀ g ∈ right, g < 65536 := fun g hg => h g (by rw [hsplit]; simp [hg])
    have hgap := SpellsEight.gap (forall₂_spellsGroup hl) (.of_groups (forall₂_spellsGroup hr))
      (by omega) hsum
    rwa [List.append_assoc left, ← hsplit, ← htake, ← hdrop] at hgap

lemma ofDigits_octets (value : BitVec 32) : ofDigits 256 (octets value) = value.toNat :=
  (ofDigits_toDigits 256 4 value.toNat).trans (Nat.mod_eq_of_lt value.isLt)

lemma ofDigits_groups (value : BitVec 128) : ofDigits 65536 (groups value) = value.toNat :=
  (ofDigits_toDigits 65536 8 value.toNat).trans (Nat.mod_eq_of_lt value.isLt)

lemma spells_toText (ip : NumericAddress) : Spells ip.toText ip := by
  cases ip with
  | v4 value =>
    have hoctets : List.Forall₂ SpellsOctet ((octets value).map octetText) (octets value) := by
      rw [List.forall₂_map_left_iff, List.forall₂_same]
      intro o ho
      have hlt : o < 256 := lt_of_mem_toDigits (by decide) ho
      exact spellsOctet_octetText (Nat.le_of_lt_succ hlt)
    have hfour : (octets value).length = 4 := length_toDigits 256 4 value.toNat
    refine .v4 (.intro hoctets hfour) ?_
    rw [← ofDigits_eq, ofDigits_octets]
  | v6 value =>
    have height : (groups value).length = 8 := length_toDigits 65536 8 value.toNat
    have hlt : ∀ g ∈ groups value, g < 65536 := fun g hg => lt_of_mem_toDigits (by decide) hg
    rw [toText]
    refine .v6 (spellsEight_groupsText height hlt) ?_
    rw [← ofDigits_eq, ofDigits_groups]

lemma parse?_toText (ip : NumericAddress) : parse? ip.toText = some ip :=
  parse?_eq_some_iff.mpr (spells_toText ip)

lemma parseZoned?_toText (ip : NumericAddress) : parseZoned? ip.toText = some ip := by
  have hmask : '/' ∉ ip.toText := (spells_toText ip).not_mem (by simp)
  have hzone : '%' ∉ ip.toText := (spells_toText ip).not_mem (by simp)
  rw [parseZoned?, if_neg (by simpa using hmask), cutAt_of_not_mem hzone]
  exact parse?_toText ip

def writtenCharacters : Text := "0123456789abcdef.:".toList

lemma hexDigit_mem_writtenCharacters {d : Nat} (h : d < 16) : hexDigit d ∈ writtenCharacters := by
  interval_cases d <;> decide

lemma mem_writtenCharacters_of_digits {base count n : Nat} (hpos : 0 < base) (hb : base ≤ 16)
    {c : Char} (hc : c ∈ (dropLeadingZeros (toDigits base count n)).map hexDigit) :
    c ∈ writtenCharacters := by
  obtain ⟨d, hd, rfl⟩ := List.mem_map.mp hc
  have hlt := lt_of_mem_toDigits hpos ((dropLeadingZeros_suffix _).subset hd)
  exact hexDigit_mem_writtenCharacters (hlt.trans_le hb)

lemma mem_writtenCharacters_of_joinGroups {gs : List Nat} {c : Char} (hc : c ∈ joinGroups gs) :
    c ∈ writtenCharacters := by
  rcases mem_joinWith hc with hc | ⟨piece, hpiece, hc⟩
  · exact List.mem_singleton.mp hc ▸ by decide
  · obtain ⟨g, -, rfl⟩ := List.mem_map.mp hpiece
    exact mem_writtenCharacters_of_digits (by decide) (by decide) hc

lemma mem_writtenCharacters_of_toText {ip : NumericAddress} {c : Char} (hc : c ∈ ip.toText) :
    c ∈ writtenCharacters := by
  cases ip with
  | v4 value =>
    rcases mem_joinWith hc with hc | ⟨piece, hpiece, hc⟩
    · exact List.mem_singleton.mp hc ▸ by decide
    · obtain ⟨o, -, rfl⟩ := List.mem_map.mp hpiece
      exact mem_writtenCharacters_of_digits (by decide) (by decide) hc
  | v6 value =>
    rcases hrun : longestZeros (groups value) with ⟨start, run⟩
    simp only [toText, groupsText, hrun] at hc
    split at hc
    · exact mem_writtenCharacters_of_joinGroups hc
    · rcases List.mem_append.mp hc with hc | hc
      · rcases List.mem_append.mp hc with hc | hc
        · exact mem_writtenCharacters_of_joinGroups hc
        · exact List.eq_of_mem_replicate (n := 2) hc ▸ by decide
      · exact mem_writtenCharacters_of_joinGroups hc

end NumericAddress

namespace NetworkAddress

/-- A text is read as the address in front of its first percent sign, with what follows as zone. -/
lemma exists_of_parse {s : String} {a : NetworkAddress} (h : parse s = .ok a) :
    ∃ ip, NumericAddress.parse? (cutAt '%' s.toList).1 = some ip ∧
      a = ofNumeric ip (cutAt '%' s.toList).2 := by
  unfold parse at h
  cases hip : NumericAddress.parse? (cutAt '%' s.toList).1 with
  | none => simp [hip] at h
  | some ip => exact ⟨ip, rfl, by simpa [hip] using h.symm⟩

lemma isLoopback_ofNumeric (ip : NumericAddress) (zone : Option Text) :
    (ofNumeric ip zone).isLoopback = .ok ip.isLoopback := by
  simp [isLoopback, ofNumeric, NumericAddress.parseZoned?_toText]

lemma mem_writtenCharacters_of_parse {s : String} {a : NetworkAddress} (h : parse s = .ok a)
    {c : Char} (hc : c ∈ a.address.toList) : c ∈ NumericAddress.writtenCharacters := by
  obtain ⟨ip, -, rfl⟩ := exists_of_parse h
  have htext : (ofNumeric ip (cutAt '%' s.toList).2).address.toList = ip.toText :=
    String.toList_ofList
  rw [htext] at hc
  exact NumericAddress.mem_writtenCharacters_of_toText hc

end NetworkAddress

end HostDiscovery
