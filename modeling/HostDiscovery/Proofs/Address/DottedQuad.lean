import HostDiscovery.Address.DottedQuad
import HostDiscovery.Proofs.Address.RoundTrip

/-! The pattern of dotted quads and the reader of addresses are two readers of IPv4 texts. What the
pattern matches is said without it, and then compared with the notation of an IPv4 address: they
differ in the zeros that an octet may have in front. Without these an address has one notation only,
so what is read is written again as it was. -/
namespace HostDiscovery

open Text NumericAddress

namespace Pattern

variable {pattern : Pattern} {s t : Text}

lemma mem_one {accepts : Char → Bool} :
    t ∈ one accepts s ↔ ∃ c, accepts c = true ∧ s = c :: t := by
  constructor
  · intro h
    cases s with
    | nil => simp [one] at h
    | cons c rest =>
      by_cases hc : accepts c = true
      · obtain rfl : t = rest := by simpa [one, hc] using h
        exact ⟨c, hc, rfl⟩
      · simp [one, hc] at h
  · rintro ⟨c, hc, rfl⟩
    simp [one, hc]

lemma mem_char {c : Char} : t ∈ char c s ↔ s = c :: t := by
  simp [char, mem_one]

lemma mem_optional : t ∈ optional pattern s ↔ t ∈ pattern s ∨ t = s := by
  simp [optional]

lemma mem_digit : t ∈ digit s ↔ ∃ c d, asciiDigit? c = some d ∧ s = c :: t := by
  simp [digit, mem_one, Option.isSome_iff_exists]

end Pattern

section Digits

variable {c c' : Char} {d : Nat}

lemma asciiDigit?_eq_some_iff_toNat : asciiDigit? c = some d ↔ d < 10 ∧ c.toNat = 48 + d := by
  unfold asciiDigit?
  split_ifs with h
  · rw [Option.some.injEq]
    omega
  · refine iff_of_false nofun ?_
    omega

lemma eq_of_asciiDigit? (h : asciiDigit? c = some d) (h' : asciiDigit? c' = some d) : c = c' := by
  obtain ⟨-, hc⟩ := asciiDigit?_eq_some_iff_toNat.mp h
  obtain ⟨-, hc'⟩ := asciiDigit?_eq_some_iff_toNat.mp h'
  exact Char.toNat_inj.mp (hc.trans hc'.symm)

end Digits

namespace DottedQuad

open Pattern

variable {s t : Text} {a b c : Char} {d e f : Nat}

lemma mem_digitIn {high : Char} (hhigh : asciiDigit? high = some d) :
    t ∈ digitIn '0' high s ↔ ∃ c e, asciiDigit? c = some e ∧ e ≤ d ∧ s = c :: t := by
  obtain ⟨hd, hhigh⟩ := asciiDigit?_eq_some_iff_toNat.mp hhigh
  have hzero : '0'.toNat = 48 := rfl
  rw [digitIn, mem_one]
  constructor
  · rintro ⟨c, hc, rfl⟩
    simp only [Bool.and_eq_true, decide_eq_true_eq] at hc
    exact ⟨c, c.toNat - 48, asciiDigit?_eq_some_iff_toNat.mpr (by omega), by omega, rfl⟩
  · rintro ⟨c, e, he, hle, rfl⟩
    obtain ⟨-, hc⟩ := asciiDigit?_eq_some_iff_toNat.mp he
    refine ⟨c, ?_, rfl⟩
    simp only [Bool.and_eq_true, decide_eq_true_eq]
    omega

/-- One to three decimal digits that come to 255 at most; there may be zeros in front. -/
inductive Octet : Text → Prop
  | intro {s : Text} {ds : List Nat} (digits : SpellsDigits 10 s ds) (some_digit : ds ≠ [])
      (short : ds.length ≤ 3) (le : Nat.ofDigits 10 ds.reverse ≤ 255) : Octet s

lemma Octet.one (ha : asciiDigit? a = some d) : Octet [a] := by
  have hd := asciiDigit?_eq_some_iff.mp ha
  have hle : d ≤ 255 := by omega
  refine .intro (.cons hd .nil) (by simp) (by simp) ?_
  simpa [Nat.ofDigits_cons] using hle

lemma Octet.two (ha : asciiDigit? a = some d) (hb : asciiDigit? b = some e) : Octet [a, b] := by
  have hd := asciiDigit?_eq_some_iff.mp ha
  have he := asciiDigit?_eq_some_iff.mp hb
  have hle : e + 10 * d ≤ 255 := by omega
  refine .intro (.cons hd (.cons he .nil)) (by simp) (by simp) ?_
  simpa [Nat.ofDigits_cons] using hle

lemma Octet.three (ha : asciiDigit? a = some d) (hb : asciiDigit? b = some e)
    (hc : asciiDigit? c = some f) (le : 100 * d + 10 * e + f ≤ 255) : Octet [a, b, c] := by
  have hd := asciiDigit?_eq_some_iff.mp ha
  have he := asciiDigit?_eq_some_iff.mp hb
  have hf := asciiDigit?_eq_some_iff.mp hc
  have hle : f + 10 * (e + 10 * d) ≤ 255 := by omega
  refine .intro (.cons hd (.cons he (.cons hf .nil))) (by simp) (by simp) ?_
  simpa [Nat.ofDigits_cons] using hle

lemma Octet.cases (h : Octet s) :
    (∃ a d, asciiDigit? a = some d ∧ s = [a]) ∨
      (∃ a b d e, asciiDigit? a = some d ∧ asciiDigit? b = some e ∧ s = [a, b]) ∨
      ∃ a b c d e f, asciiDigit? a = some d ∧ asciiDigit? b = some e ∧ asciiDigit? c = some f ∧
        100 * d + 10 * e + f ≤ 255 ∧ s = [a, b, c] := by
  obtain ⟨digits, some_digit, short, le⟩ := h
  simp only [SpellsDigits, ← asciiDigit?_eq_some_iff] at digits
  cases digits with
  | nil => exact absurd rfl some_digit
  | cons ha digits =>
    cases digits with
    | nil => exact .inl ⟨_, _, ha, rfl⟩
    | cons hb digits =>
      cases digits with
      | nil => exact .inr (.inl ⟨_, _, _, _, ha, hb, rfl⟩)
      | cons hc digits =>
        cases digits with
        | nil =>
          simp only [List.reverse_cons, List.reverse_nil, List.nil_append, List.cons_append,
            Nat.ofDigits_cons, Nat.ofDigits_nil] at le
          exact .inr (.inr ⟨_, _, _, _, _, _, ha, hb, hc, by omega, rfl⟩)
        | cons =>
          simp only [List.length_cons] at short
          omega

/-- However the alternatives overlap, what is read by the pattern is an octet. -/
lemma mem_octet_iff : t ∈ octet s ↔ ∃ piece, Octet piece ∧ s = piece ++ t := by
  have hone : asciiDigit? '1' = some 1 := rfl
  have htwo : asciiDigit? '2' = some 2 := rfl
  have hfour : asciiDigit? '4' = some 4 := rfl
  have hfive : asciiDigit? '5' = some 5 := rfl
  simp only [octet, mem_orElse, mem_andThen, mem_optional, mem_digit, mem_char, mem_digitIn hone,
    mem_digitIn hfour, mem_digitIn hfive]
  constructor
  · rintro (⟨_, ⟨a, d, ha, hd, rfl⟩ | rfl, _, ⟨b, e, hb, rfl⟩, ⟨c, f, hc, rfl⟩ | rfl⟩ |
      ⟨_, rfl, _, ⟨b, e, hb, he, rfl⟩, c, f, hc, rfl⟩ | ⟨_, rfl, _, rfl, c, f, hc, hf, rfl⟩)
    · have he := (asciiDigit?_eq_some_iff.mp hb).1
      have hf := (asciiDigit?_eq_some_iff.mp hc).1
      exact ⟨_, .three ha hb hc (by omega), rfl⟩
    · exact ⟨_, .two ha hb, rfl⟩
    · exact ⟨_, .two hb hc, rfl⟩
    · exact ⟨_, .one hb, rfl⟩
    · have hf := (asciiDigit?_eq_some_iff.mp hc).1
      exact ⟨_, .three htwo hb hc (by omega), rfl⟩
    · exact ⟨_, .three htwo hfive hc (by omega), rfl⟩
  · rintro ⟨piece, hpiece, rfl⟩
    obtain ⟨a, d, ha, rfl⟩ | ⟨a, b, d, e, ha, hb, rfl⟩ | ⟨a, b, c, d, e, f, ha, hb, hc, le, rfl⟩ :=
      hpiece.cases
    · exact .inl ⟨_, .inr rfl, _, ⟨a, d, ha, rfl⟩, .inr rfl⟩
    · exact .inl ⟨_, .inr rfl, _, ⟨a, d, ha, rfl⟩, .inl ⟨b, e, hb, rfl⟩⟩
    · by_cases hd : d ≤ 1
      · exact .inl ⟨_, .inl ⟨a, d, ha, hd, rfl⟩, _, ⟨b, e, hb, rfl⟩, .inl ⟨c, f, hc, rfl⟩⟩
      · obtain rfl : d = 2 := by omega
        obtain rfl := eq_of_asciiDigit? ha htwo
        by_cases he : e ≤ 4
        · exact .inr (.inl ⟨_, rfl, _, ⟨b, e, hb, he, rfl⟩, c, f, hc, rfl⟩)
        · obtain rfl : e = 5 := by omega
          obtain rfl := eq_of_asciiDigit? hb hfive
          exact .inr (.inr ⟨_, rfl, _, rfl, c, f, hc, by omega, rfl⟩)

lemma Octet.point_not_mem (h : Octet s) : '.' ∉ s := by
  obtain ⟨digits, -, -, -⟩ := h
  exact digits.not_mem (by decide) (by simp)

lemma mem_quad_iff : t ∈ quad s ↔ ∃ p q r u, Octet p ∧ Octet q ∧ Octet r ∧ Octet u ∧
    s = p ++ '.' :: (q ++ '.' :: (r ++ '.' :: (u ++ t))) := by
  simp only [quad, mem_andThen, mem_char, mem_octet_iff]
  constructor
  · rintro ⟨_, ⟨p, hp, rfl⟩, _, rfl, _, ⟨q, hq, rfl⟩, _, rfl, _, ⟨r, hr, rfl⟩, _, rfl, u, hu, rfl⟩
    exact ⟨p, q, r, u, hp, hq, hr, hu, rfl⟩
  · rintro ⟨p, q, r, u, hp, hq, hr, hu, rfl⟩
    exact ⟨_, ⟨p, hp, rfl⟩, _, rfl, _, ⟨q, hq, rfl⟩, _, rfl, _, ⟨r, hr, rfl⟩, _, rfl, u, hu, rfl⟩

lemma isWellFormed_iff_splitOn : isWellFormed s = true ↔
    (splitOn '.' s).length = 4 ∧ ∀ piece ∈ splitOn '.' s, Octet piece := by
  rw [isWellFormed, matchesFully_iff, mem_quad_iff]
  constructor
  · rintro ⟨p, q, r, u, hp, hq, hr, hu, rfl⟩
    have hoctets : ∀ piece ∈ [p, q, r, u], Octet piece := by simp [hp, hq, hr, hu]
    have hjoin : p ++ '.' :: (q ++ '.' :: (r ++ '.' :: (u ++ []))) =
        joinWith ['.'] [p, q, r, u] := by simp [joinWith]
    rw [hjoin, splitOn_joinWith fun piece hpiece => (hoctets piece hpiece).point_not_mem]
    exact ⟨rfl, hoctets⟩
  · rintro ⟨hfour, hoctets⟩
    obtain ⟨p, q, r, u, hsplit⟩ := List.length_eq_four.mp hfour
    have hs := joinWith_splitOn '.' s
    rw [hsplit] at hoctets hs
    refine ⟨p, q, r, u, hoctets p (by simp), hoctets q (by simp), hoctets r (by simp),
      hoctets u (by simp), ?_⟩
    simpa [joinWith] using hs.symm

end DottedQuad

namespace NumericAddress

open DottedQuad

variable {s t : Text} {o : Nat} {ds es os : List Nat}

lemma SpellsDigits.head?_eq_zero_iff (h : SpellsDigits 10 s ds) :
    ds.head? = some 0 ↔ s.head? = some '0' := by
  cases h with
  | nil => simp
  | @cons c d rest digits hc =>
    have hd := asciiDigit?_eq_some_iff.mpr hc
    have hzero : asciiDigit? '0' = some 0 := rfl
    simp only [List.head?_cons, Option.some.injEq]
    constructor
    · rintro rfl
      exact eq_of_asciiDigit? hd hzero
    · rintro rfl
      exact Option.some.inj (hd.symm.trans hzero)

lemma exists_spellsOctet_iff :
    (∃ o, SpellsOctet s o) ↔ Octet s ∧ (2 ≤ s.length → s.head? ≠ some '0') := by
  constructor
  · rintro ⟨o, digits, some_digit, short, no_leading_zero, le⟩
    refine ⟨.intro digits some_digit short le, fun hlength hhead => ?_⟩
    exact no_leading_zero (digits.length_eq ▸ hlength) (digits.head?_eq_zero_iff.mpr hhead)
  · rintro ⟨⟨digits, some_digit, short, le⟩, hzero⟩
    refine ⟨_, .intro digits some_digit short (fun hlength hhead => ?_) le⟩
    exact hzero (digits.length_eq ▸ hlength) (digits.head?_eq_zero_iff.mp hhead)

lemma spellsQuad_iff_splitOn :
    SpellsQuad s os ↔ List.Forall₂ SpellsOctet (splitOn '.' s) os ∧ os.length = 4 := by
  have hread : (splitOn '.' s).mapM octet? = some os ↔
      List.Forall₂ SpellsOctet (splitOn '.' s) os := by
    simp only [mapM_eq_some_iff, octet?_eq_some_iff]
  rw [← octets?_eq_some_iff, ← hread, octets?]
  cases (splitOn '.' s).mapM octet? <;> grind

/-- The two readers of IPv4 texts differ in the zeros in front. -/
lemma exists_spellsQuad_iff :
    (∃ os, SpellsQuad s os) ↔ isWellFormed s = true ∧
      ∀ piece ∈ splitOn '.' s, 2 ≤ piece.length → piece.head? ≠ some '0' := by
  rw [isWellFormed_iff_splitOn, and_assoc, ← forall₂_and]
  simp only [spellsQuad_iff_splitOn, ← exists_spellsOctet_iff]
  constructor
  · rintro ⟨os, octets, four⟩
    refine ⟨octets.length_eq.trans four, fun piece hpiece => ?_⟩
    obtain ⟨o, -, ho⟩ := exists_of_mem_of_forall₂ octets hpiece
    exact ⟨o, ho⟩
  · rintro ⟨four, hoctet⟩
    choose! value hvalue using hoctet
    refine ⟨(splitOn '.' s).map value, ?_, by rwa [List.length_map]⟩
    rw [List.forall₂_map_right_iff, List.forall₂_same]
    exact hvalue

/-! A number has one notation without zeros in front. -/

lemma eq_reverse_digits (lt : ∀ d ∈ ds, d < 10) (some_digit : ds ≠ [])
    (no_leading_zero : 1 < ds.length → ds.head? ≠ some 0) :
    ds = if Nat.ofDigits 10 ds.reverse = 0 then [0]
      else (Nat.digits 10 (Nat.ofDigits 10 ds.reverse)).reverse := by
  by_cases hzero : ds.head? = some 0
  · have hone : ds.length = 1 := by
      have hpos := List.length_pos_of_ne_nil some_digit
      have hle : ¬ 1 < ds.length := fun h => no_leading_zero h hzero
      omega
    obtain ⟨d, rfl⟩ := List.length_eq_one_iff.mp hone
    obtain rfl : d = 0 := by simpa using hzero
    rfl
  · have hdigits : Nat.digits 10 (Nat.ofDigits 10 ds.reverse) = ds.reverse := by
      refine Nat.digits_ofDigits 10 (by decide) _ (by simpa using lt) fun hne hlast => hzero ?_
      rw [List.getLast_reverse] at hlast
      rw [List.head?_eq_some_head some_digit, hlast]
    have hvalue : Nat.ofDigits 10 ds.reverse ≠ 0 := by
      intro hvalue
      rw [hvalue, Nat.digits_zero] at hdigits
      simp [some_digit] at hdigits
    rw [if_neg hvalue, hdigits, List.reverse_reverse]

lemma leftUnique_spellsDigits : Relator.LeftUnique (SpellsDigits 10) := by
  refine Relator.LeftUnique.forall₂ fun c c' d hc hc' => ?_
  exact eq_of_asciiDigit? (asciiDigit?_eq_some_iff.mpr hc) (asciiDigit?_eq_some_iff.mpr hc')

lemma SpellsOctet.spellsDigits (h : SpellsOctet s o) :
    SpellsDigits 10 s (if o = 0 then [0] else (Nat.digits 10 o).reverse) := by
  obtain ⟨digits, some_digit, -, no_leading_zero, -⟩ := h
  rwa [← eq_reverse_digits (fun _ => digits.lt_of_mem) some_digit no_leading_zero]

lemma leftUnique_spellsOctet : Relator.LeftUnique SpellsOctet :=
  fun _ _ _ h h' => leftUnique_spellsDigits h.spellsDigits h'.spellsDigits

lemma SpellsQuad.eq_of_ofDigits_eq (hs : SpellsQuad s os) (ht : SpellsQuad t es)
    (h : Nat.ofDigits 256 os.reverse = Nat.ofDigits 256 es.reverse) : s = t := by
  obtain ⟨hos, os_four⟩ := spellsQuad_iff_splitOn.mp hs
  obtain ⟨hes, es_four⟩ := spellsQuad_iff_splitOn.mp ht
  have hreverse : os.reverse = es.reverse := by
    refine Nat.ofDigits_inj_of_len_eq (by decide) (by simp [os_four, es_four]) ?_ ?_ h
    · exact fun o ho => hs.lt_of_mem (List.mem_reverse.mp ho)
    · exact fun o ho => ht.lt_of_mem (List.mem_reverse.mp ho)
  rw [List.reverse_inj.mp hreverse] at hos
  have hpieces := leftUnique_spellsOctet.forall₂ hos hes
  rw [← joinWith_splitOn '.' s, hpieces, joinWith_splitOn]

lemma Spells.eq_of_v4 {value : BitVec 32} (hs : Spells s (.v4 value)) (ht : Spells t (.v4 value)) :
    s = t := by
  cases hs with
  | v4 hs hvalue =>
    cases ht with
    | v4 ht hvalue' => exact hs.eq_of_ofDigits_eq ht (hvalue.symm.trans hvalue')

lemma exists_spells_v4_iff : (∃ value, Spells s (.v4 value)) ↔ ∃ os, SpellsQuad s os := by
  constructor
  · rintro ⟨value, quad, -⟩
    exact ⟨_, quad⟩
  · rintro ⟨os, quad⟩
    refine ⟨BitVec.ofNat 32 (Nat.ofDigits 256 os.reverse), .v4 quad ?_⟩
    rw [BitVec.toNat_ofNat, Nat.mod_eq_of_lt quad.ofDigits_lt]

end NumericAddress

namespace NetworkAddress

variable {s : String} {a : NetworkAddress}

lemma addressPart_of_not_mem (h : '%' ∉ s.toList) : addressPart s = s.toList := by
  refine List.takeWhile_eq_self_iff.mpr fun c hc => decide_eq_true ?_
  rintro rfl
  exact h hc

lemma exists_parse_v4_iff :
    (∃ a, parse s = .ok a ∧ a.version = .v4) ↔ ∃ value, Spells (addressPart s) (.v4 value) := by
  constructor
  · rintro ⟨a, ha, hversion⟩
    obtain ⟨ip, hip, rfl⟩ := parse_eq_ok_iff.mp ha
    cases ip with
    | v4 value => exact ⟨value, hip⟩
    | v6 value => cases hversion
  · rintro ⟨value, hvalue⟩
    exact ⟨_, parse_eq_ok_iff.mpr ⟨_, hvalue, rfl⟩, rfl⟩

lemma toList_address_of_v4 (h : parse s = .ok a) (hversion : a.version = .v4) :
    a.address.toList = addressPart s := by
  obtain ⟨ip, hip, rfl⟩ := parse_eq_ok_iff.mp h
  cases ip with
  | v4 value =>
    rw [toList_address]
    exact (spells_toText _).eq_of_v4 hip
  | v6 value => cases hversion

/-- Without a percent sign, a text is read as an IPv4 address exactly if the pattern matches it and
no octet has a zero in front of another digit. The record then has this text. -/
theorem parse_v4_iff_isWellFormed (h : '%' ∉ s.toList) :
    ((∃ a, parse s = .ok a ∧ a.version = .v4) ↔ DottedQuad.isWellFormed s.toList = true ∧
        ∀ octet ∈ splitOn '.' s.toList, 2 ≤ octet.length → octet.head? ≠ some '0') ∧
      ∀ a, parse s = .ok a → a.version = .v4 → a.address = s := by
  rw [exists_parse_v4_iff, addressPart_of_not_mem h, exists_spells_v4_iff, exists_spellsQuad_iff]
  refine ⟨Iff.rfl, fun a ha hversion => String.toList_inj.mp ?_⟩
  rw [toList_address_of_v4 ha hversion, addressPart_of_not_mem h]

/-- The octet 0 alone has no zero in front; the pattern also takes the octet 00. -/
theorem parse_v4_iff_isWellFormed_zeros :
    (∃ a, parse "10.200.0.255" = .ok a ∧ a.version = .v4 ∧ a.address = "10.200.0.255") ∧
      DottedQuad.isWellFormed "10.200.00.255".toList = true ∧
      ¬ ∃ a, parse "10.200.00.255" = .ok a ∧ a.version = .v4 := by
  obtain ⟨hread, htext⟩ := parse_v4_iff_isWellFormed (s := "10.200.0.255") (by decide)
  obtain ⟨hzeros, -⟩ := parse_v4_iff_isWellFormed (s := "10.200.00.255") (by decide)
  refine ⟨?_, by decide +kernel, fun h => ?_⟩
  · obtain ⟨a, ha, hversion⟩ := hread.mpr (by decide +kernel)
    exact ⟨a, ha, hversion, htext a ha hversion⟩
  · exact absurd (hzeros.mp h).2 (by decide +kernel)

end NetworkAddress

end HostDiscovery
