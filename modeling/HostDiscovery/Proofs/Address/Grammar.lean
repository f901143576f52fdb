import HostDiscovery.Proofs.Address.DottedQuad

/-! The grammar of dotted quads in terms of plain characters: four groups of ASCII digits with one
point between each two. The pattern and its overlapping alternatives come to exactly this grammar, on
values of every kind. -/
namespace HostDiscovery.DottedQuad

open Text NumericAddress

/-- One to three ASCII digits with a decimal value of at most 255; there may be zeros in front. -/
structure IsGroup (s : Text) : Prop where
  digits : ∀ c ∈ s, c.isDigit = true
  some_digit : s ≠ []
  short : s.length ≤ 3
  le : Nat.ofDigitChars 10 s 0 ≤ 255

variable {s : Text} {c : Char} {d : Nat} {ds : List Nat}

lemma isDigit_iff : c.isDigit = true ↔ ∃ d, asciiDigit? c = some d := by
  rw [Char.isDigit_iff_toNat, asciiDigit?]
  split_ifs with h
  · exact iff_of_true h ⟨_, rfl⟩
  · exact iff_of_false h (by simp)

lemma exists_spellsDigits_iff : (∃ ds, SpellsDigits 10 s ds) ↔ ∀ c ∈ s, c.isDigit = true := by
  constructor
  · rintro ⟨ds, hds⟩ c hc
    obtain ⟨d, -, hd⟩ := exists_of_mem_of_forall₂ hds hc
    exact isDigit_iff.mpr ⟨d, asciiDigit?_eq_some_iff.mpr hd⟩
  · intro h
    induction s with
    | nil => exact ⟨[], .nil⟩
    | cons c s ih =>
      obtain ⟨hc, hs⟩ := List.forall_mem_cons.mp h
      obtain ⟨d, hd⟩ := isDigit_iff.mp hc
      obtain ⟨ds, hds⟩ := ih hs
      exact ⟨d :: ds, .cons (asciiDigit?_eq_some_iff.mp hd) hds⟩

lemma ofDigitChars_eq_ofDigits (h : SpellsDigits 10 s ds) :
    Nat.ofDigitChars 10 s 0 = Nat.ofDigits 10 ds.reverse := by
  rw [← ofDigits_eq, ofDigits]
  generalize 0 = n
  induction h generalizing n with
  | nil => rfl
  | cons hd _ ih =>
    obtain ⟨-, hc⟩ := asciiDigit?_eq_some_iff_toNat.mp (asciiDigit?_eq_some_iff.mpr hd)
    have hzero : '0'.toNat = 48 := rfl
    rw [Nat.ofDigitChars_cons, List.foldl_cons, ih, hc, hzero, Nat.add_sub_cancel_left]

lemma octet_iff_isGroup : Octet s ↔ IsGroup s := by
  constructor
  · rintro ⟨digits, some_digit, short, le⟩
    refine ⟨exists_spellsDigits_iff.mp ⟨_, digits⟩, digits.ne_nil some_digit, ?_, ?_⟩
    · rwa [digits.length_eq]
    · rwa [ofDigitChars_eq_ofDigits digits]
  · rintro ⟨hdigits, some_digit, short, le⟩
    obtain ⟨ds, digits⟩ := exists_spellsDigits_iff.mpr hdigits
    refine .intro digits ?_ ?_ ?_
    · rintro rfl
      exact some_digit (List.forall₂_nil_right_iff.mp digits)
    · rwa [← digits.length_eq]
    · rwa [← ofDigitChars_eq_ofDigits digits]

/-- A value is well formed exactly if it is a text of four groups, with one point between each two
and nothing before, between or after them. -/
theorem valueIsWellFormed_iff (v : Value) : valueIsWellFormed v = true ↔
    ∃ s p q r t, v = .text s ∧ IsGroup p ∧ IsGroup q ∧ IsGroup r ∧ IsGroup t ∧
      s.toList = p ++ '.' :: (q ++ '.' :: (r ++ '.' :: t)) := by
  simp only [← octet_iff_isGroup]
  cases v with
  | text s =>
    rw [valueIsWellFormed, isWellFormed, Pattern.matchesFully_iff, mem_quad_iff]
    simp only [List.append_nil, Value.text.injEq]
    constructor
    · rintro ⟨p, q, r, t, h⟩
      exact ⟨s, p, q, r, t, rfl, h⟩
    · rintro ⟨s, p, q, r, t, rfl, h⟩
      exact ⟨p, q, r, t, h⟩
  | null | bool | int | float | list | object => simp [valueIsWellFormed]

/-- Zeros in front are no more than two. -/
example : valueIsWellFormed (.text "010.001.0.00") = true ∧
    valueIsWellFormed (.text "10.0001.0.0") = false := by decide +kernel

end HostDiscovery.DottedQuad
