import HostDiscovery.Proofs.Address.Digits
import HostDiscovery.Proofs.Address.Gap
import HostDiscovery.Proofs.Address.Notation

/-! The reader of addresses takes exactly the notations of an address, each for the address that it
spells. The readers of the parts are settled in the order in which they are built on each other. -/
namespace HostDiscovery.NumericAddress

open Text

lemma mapM_eq_some_iff {α β : Type} {read : α → Option β} {xs : List α} {ys : List β} :
    xs.mapM read = some ys ↔ List.Forall₂ (fun x y => read x = some y) xs ys := by
  induction xs generalizing ys with
  | nil => cases ys <;> simp
  | cons x xs ih =>
    cases hx : read x with
    | none => cases ys <;> simp [hx]
    | some y =>
      cases hxs : xs.mapM read with
      | none => cases ys <;> simp [hx, hxs, ← ih]
      | some rest => cases ys <;> simp [hx, hxs, ← ih]

section Digits

lemma toNat_toLower (c : Char) :
    c.toLower.toNat = if 65 ≤ c.toNat ∧ c.toNat ≤ 90 then c.toNat + 32 else c.toNat := by
  have hupper : (c.val ≥ 'A'.val ∧ c.val ≤ 'Z'.val) ↔ 65 ≤ c.toNat ∧ c.toNat ≤ 90 := by
    simp only [ge_iff_le, UInt32.le_iff_toNat_le]
    rfl
  unfold Char.toLower
  split_ifs with h h' h'
  · have hval : (c.val + ('a'.val - 'A'.val)).toNat = c.toNat + 32 := by
      have hstep : ('a'.val - 'A'.val).toNat = 32 := rfl
      have hc : c.val.toNat = c.toNat := rfl
      rw [UInt32.toNat_add, hstep]
      omega
    exact hval
  · exact absurd (hupper.mp h) h'
  · exact absurd (hupper.mpr h') h
  · rfl

lemma toNat_digitChar {d : Nat} (h : d < 16) :
    (Nat.digitChar d).toNat = if d < 10 then 48 + d else 87 + d := by
  interval_cases d <;> rfl

lemma toLower_eq_digitChar_iff {c : Char} {d : Nat} (h : d < 16) :
    c.toLower = Nat.digitChar d ↔ c.toLower.toNat = if d < 10 then 48 + d else 87 + d := by
  rw [← Char.toNat_inj, toNat_digitChar h]

lemma asciiDigit?_eq_some_iff {c : Char} {d : Nat} :
    asciiDigit? c = some d ↔ d < 10 ∧ c.toLower = Nat.digitChar d := by
  have hlower : d < 10 → (c.toLower = Nat.digitChar d ↔ _) :=
    fun h => toLower_eq_digitChar_iff (by omega)
  rw [and_congr_right hlower, toNat_toLower, asciiDigit?]
  grind

lemma hexDigit?_eq_some_iff {c : Char} {d : Nat} :
    hexDigit? c = some d ↔ d < 16 ∧ c.toLower = Nat.digitChar d := by
  rw [and_congr_right toLower_eq_digitChar_iff, toNat_toLower, hexDigit?]
  grind

lemma mapM_asciiDigit?_eq_some_iff {s : Text} {ds : List Nat} :
    s.mapM asciiDigit? = some ds ↔ SpellsDigits 10 s ds := by
  simp only [mapM_eq_some_iff, asciiDigit?_eq_some_iff, SpellsDigits]

lemma mapM_hexDigit?_eq_some_iff {s : Text} {ds : List Nat} :
    s.mapM hexDigit? = some ds ↔ SpellsDigits 16 s ds := by
  simp only [mapM_eq_some_iff, hexDigit?_eq_some_iff, SpellsDigits]

end Digits

lemma octet?_eq_some_iff {s : Text} {o : Nat} : octet? s = some o ↔ SpellsOctet s o := by
  constructor
  · intro h
    cases hds : s.mapM asciiDigit? with
    | none => simp [octet?, hds] at h
    | some ds =>
      simp only [octet?, hds] at h
      split_ifs at h with hcount hzero hle
      obtain rfl := Option.some.inj h
      rw [ofDigits_eq] at hle ⊢
      simp only [Bool.or_eq_true, List.isEmpty_iff, decide_eq_true_eq, not_or, Nat.not_lt] at hcount
      refine .intro (mapM_asciiDigit?_eq_some_iff.mp hds) hcount.1 hcount.2 ?_ hle
      simpa using hzero
  · rintro ⟨digits, some_digit, short, no_leading_zero, le⟩
    rw [← ofDigits_eq] at le ⊢
    simp only [octet?, mapM_asciiDigit?_eq_some_iff.mpr digits]
    rw [if_neg (by simp [some_digit, short]), if_neg (by simpa using no_leading_zero), if_pos le]

lemma group?_eq_some_iff {s : Text} {g : Nat} : group? s = some g ↔ SpellsGroup s g := by
  constructor
  · intro h
    cases hds : s.mapM hexDigit? with
    | none => simp [group?, hds] at h
    | some ds =>
      simp only [group?, hds] at h
      split_ifs at h with hcount
      obtain rfl := Option.some.inj h
      rw [ofDigits_eq]
      simp only [Bool.or_eq_true, List.isEmpty_iff, decide_eq_true_eq, not_or, Nat.not_lt] at hcount
      exact .intro (mapM_hexDigit?_eq_some_iff.mp hds) hcount.1 hcount.2
  · rintro ⟨digits, some_digit, short⟩
    rw [← ofDigits_eq]
    simp only [group?, mapM_hexDigit?_eq_some_iff.mpr digits]
    rw [if_neg (by simp [some_digit, short])]

lemma octets?_eq_some_iff {s : Text} {os : List Nat} : octets? s = some os ↔ SpellsQuad s os := by
  constructor
  · intro h
    cases hos : (splitOn '.' s).mapM octet? with
    | none => simp [octets?, hos] at h
    | some os' =>
      simp only [octets?, hos] at h
      split_ifs at h with hfour
      obtain rfl := Option.some.inj h
      have hoctets : List.Forall₂ SpellsOctet (splitOn '.' s) os' := by
        simpa only [octet?_eq_some_iff] using mapM_eq_some_iff.mp hos
      simpa only [joinWith_splitOn] using SpellsQuad.intro hoctets hfour
  · intro h
    cases h with
    | @intro pieces _ octets four =>
      have hne : pieces ≠ [] := by
        rintro rfl
        simp [List.forall₂_nil_left_iff.mp octets] at four
      obtain ⟨first, more, rfl⟩ := List.exists_cons_of_ne_nil hne
      have hsplit : splitOn '.' (joinWith ['.'] (first :: more)) = first :: more := by
        refine splitOn_joinWith fun piece hp => ?_
        obtain ⟨o, -, ho⟩ := exists_of_mem_of_forall₂ octets hp
        exact ho.not_mem (by simp)
      have hread : (first :: more).mapM octet? = some os := by
        simpa only [mapM_eq_some_iff, octet?_eq_some_iff] using octets
      simp only [octets?, hsplit, hread, four, if_true]

lemma groups?_eq_some_iff {pieces : List Text} {gs : List Nat} :
    groups? pieces = some gs ↔ List.Forall₂ SpellsGroup pieces gs := by
  simp only [groups?, mapM_eq_some_iff, group?_eq_some_iff]

/-- The last piece is an IPv4 text exactly if there is a point in it. -/
lemma groupsWithQuad?_eq_some_iff {pieces : List Text} {gs : List Nat} :
    groupsWithQuad? pieces = some gs ↔ SpellsTail pieces gs := by
  constructor
  · intro h
    fun_induction groupsWithQuad? pieces generalizing gs with
    | case1 =>
      obtain rfl := Option.some.inj h
      exact .nil
    | case2 piece hpoint =>
      obtain ⟨os, hos, rfl⟩ := Option.map_eq_some_iff.mp h
      have hquad := octets?_eq_some_iff.mp hos
      obtain ⟨a, b, c, d, rfl⟩ : ∃ a b c d, os = [a, b, c, d] := by
        cases hquad with
        | intro _ four => exact List.length_eq_four.mp four
      simpa [ofDigits] using SpellsTail.quad hquad
    | case3 piece hpoint =>
      obtain ⟨g, hg, rfl⟩ := Option.map_eq_some_iff.mp h
      exact .cons (group?_eq_some_iff.mp hg) .nil
    | case4 piece next more g rest hrest hg ih =>
      obtain rfl := Option.some.inj h
      exact .cons (group?_eq_some_iff.mp hg) (ih hrest)
    | case5 => simp at h
  · intro h
    induction h with
    | nil => rfl
    | @quad s a b c d quad =>
      simp [groupsWithQuad?, quad.point_mem, octets?_eq_some_iff.mpr quad, ofDigits]
    | @cons s g pieces gs group tail ih =>
      have hg := group?_eq_some_iff.mpr group
      cases pieces with
      | nil =>
        obtain rfl : [] = gs := by simpa [groupsWithQuad?] using ih
        have hpoint : '.' ∉ s := group.not_mem (by simp)
        simp [groupsWithQuad?, hpoint, hg]
      | cons next more => rw [groupsWithQuad?, hg, ih]

lemma SpellsTail.plain {pieces : List Text} {gs : List Nat} (h : SpellsTail pieces gs) :
    ∀ piece ∈ pieces, piece ≠ [] ∧ ':' ∉ piece :=
  fun _ hp => ⟨h.ne_nil_of_mem hp, h.not_mem hp (by simp)⟩

lemma eightGroups?_eq_some_iff {s : Text} {gs : List Nat} :
    eightGroups? s = some gs ↔ SpellsEight s gs := by
  constructor
  · intro h
    cases hcut : cutAtGap s with
    | none =>
      cases hgs : groupsWithQuad? (pieces s) with
      | none => simp [eightGroups?, hcut, hgs] at h
      | some gs' =>
        simp only [eightGroups?, hcut, hgs] at h
        split_ifs at h with height
        obtain rfl := Option.some.inj h
        simpa only [joinWith_pieces] using
          SpellsEight.full (groupsWithQuad?_eq_some_iff.mp hgs) height
    | some sides =>
      obtain ⟨left, right⟩ := sides
      cases hl : groups? (pieces left) with
      | none => simp [eightGroups?, hcut, hl] at h
      | some ls =>
        cases hr : groupsWithQuad? (pieces right) with
        | none => simp [eightGroups?, hcut, hl, hr] at h
        | some rs =>
          simp only [eightGroups?, hcut, hl, hr] at h
          split_ifs at h with hseven
          obtain rfl := Option.some.inj h
          have hgap : SpellsEight (joinWith [':'] (pieces left) ++ [':', ':'] ++
              joinWith [':'] (pieces right))
              (ls ++ List.replicate (8 - ls.length - rs.length) 0 ++ rs) :=
            .gap (groups?_eq_some_iff.mp hl) (groupsWithQuad?_eq_some_iff.mp hr) (by omega)
              (by omega)
          rw [eq_of_cutAtGap hcut]
          simpa only [joinWith_pieces, List.append_assoc, List.cons_append, List.nil_append]
            using hgap
  · intro h
    cases h with
    | full groups eight =>
      have hcut := cutAtGap_of_append (cutAtGap_joinWith groups.plain)
      simp only [eightGroups?, hcut, pieces_joinWith groups.plain,
        groupsWithQuad?_eq_some_iff.mpr groups, eight, if_true]
    | @gap pieces more left right zeros groups tail some_zero eight =>
      have hplain := (SpellsTail.of_groups groups).plain
      have hcut : cutAtGap (joinWith [':'] pieces ++ [':', ':'] ++ joinWith [':'] more)
          = some (joinWith [':'] pieces, joinWith [':'] more) := by
        rw [List.append_assoc]
        exact cutAtGap_append_gap (cutAtGap_joinWith hplain) _
      have hzeros : 8 - left.length - right.length = zeros := by omega
      simp only [eightGroups?, hcut, pieces_joinWith hplain, pieces_joinWith tail.plain,
        groups?_eq_some_iff.mpr groups, groupsWithQuad?_eq_some_iff.mpr tail, hzeros]
      rw [if_pos (by omega)]

theorem parse?_eq_some_iff {s : Text} {ip : NumericAddress} :
    parse? s = some ip ↔ Spells s ip := by
  constructor
  · intro h
    cases hos : octets? s with
    | some os =>
      have hquad := octets?_eq_some_iff.mp hos
      obtain rfl : NumericAddress.v4 (BitVec.ofNat 32 (ofDigits 256 os)) = ip := by
        simpa [parse?, hos] using h
      refine .v4 hquad ?_
      rw [ofDigits_eq, BitVec.toNat_ofNat, Nat.mod_eq_of_lt hquad.ofDigits_lt]
    | none =>
      obtain ⟨gs, hgs, rfl⟩ : ∃ gs, eightGroups? s = some gs ∧
          NumericAddress.v6 (BitVec.ofNat 128 (ofDigits 65536 gs)) = ip := by
        simpa [parse?, hos] using h
      have height := eightGroups?_eq_some_iff.mp hgs
      refine .v6 height ?_
      rw [ofDigits_eq, BitVec.toNat_ofNat, Nat.mod_eq_of_lt height.ofDigits_lt]
  · intro h
    cases h with
    | v4 quad value_eq =>
      rw [parse?, octets?_eq_some_iff.mpr quad]
      simp only [ofDigits_eq, ← value_eq, BitVec.ofNat_toNat, BitVec.setWidth_eq]
    | v6 eight value_eq =>
      have hos : octets? s = none := by
        rw [Option.eq_none_iff_forall_ne_some]
        intro os hos
        exact (octets?_eq_some_iff.mp hos).not_mem (by simp) eight.colon_mem
      rw [parse?, hos, eightGroups?_eq_some_iff.mpr eight]
      simp only [Option.map_some, ofDigits_eq, ← value_eq, BitVec.ofNat_toNat, BitVec.setWidth_eq]

lemma Spells.unique {s : Text} {x y : NumericAddress} (hx : Spells s x) (hy : Spells s y) :
    x = y :=
  Option.some.inj ((parse?_eq_some_iff.mpr hx).symm.trans (parse?_eq_some_iff.mpr hy))

end HostDiscovery.NumericAddress
