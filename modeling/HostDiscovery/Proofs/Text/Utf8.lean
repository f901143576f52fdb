import HostDiscovery.Text.Utf8
import Mathlib.Tactic.Lemma
import Mathlib.Tactic.SplitIfs

/-! A text is read back from its bytes, and no other bytes are read as that text. Each size of a
character has two lemmas, one on how far its bytes take the decoder and one on the bytes that are
written for it; a text goes character by character. A longer text has more bytes. -/
namespace HostDiscovery.Utf8

variable {a b c d : UInt8} {position : Nat} {rest : List UInt8} {s : Text}

lemma encode_cons (ch : Char) (s : Text) : encode (ch :: s) = encodeChar ch ++ encode s :=
  List.flatMap_cons

lemma decodeFrom_one (ha : a.toNat < 0x80) : decodeFrom position (a :: rest) =
    (decodeFrom (position + 1) rest).map (Char.ofNat a.toNat :: ·) := by
  rw [decodeFrom.eq_def]
  dsimp only
  rw [if_pos ha]

lemma decodeFrom_two (ha : 0xC2 ≤ a.toNat ∧ a.toNat < 0xE0) (hb : isContinuation b = true) :
    decodeFrom position (a :: b :: rest) = (decodeFrom (position + 2) rest).map
      (Char.ofNat (a.toNat % 32 * 64 + b.toNat % 64) :: ·) := by
  rw [decodeFrom.eq_def]
  dsimp only
  rw [if_neg (by omega), if_neg (by omega), if_pos ha.2, if_pos hb]

lemma decodeFrom_three (ha : 0xE0 ≤ a.toNat ∧ a.toNat < 0xF0) (hb : isSecondOfThree a b = true)
    (hc : isContinuation c = true) :
    decodeFrom position (a :: b :: c :: rest) = (decodeFrom (position + 3) rest).map
      (Char.ofNat (a.toNat % 16 * 4096 + b.toNat % 64 * 64 + c.toNat % 64) :: ·) := by
  rw [decodeFrom.eq_def]
  dsimp only
  rw [if_neg (by omega), if_neg (by omega), if_neg (by omega), if_pos ha.2, if_pos hb,
    if_pos hc]

lemma decodeFrom_four (ha : 0xF0 ≤ a.toNat ∧ a.toNat < 0xF5) (hb : isSecondOfFour a b = true)
    (hc : isContinuation c = true) (hd : isContinuation d = true) :
    decodeFrom position (a :: b :: c :: d :: rest) = (decodeFrom (position + 4) rest).map
      (Char.ofNat (a.toNat % 8 * 262144 + b.toNat % 64 * 4096 + c.toNat % 64 * 64
        + d.toNat % 64) :: ·) := by
  rw [decodeFrom.eq_def]
  dsimp only
  rw [if_neg (by omega), if_neg (by omega), if_neg (by omega), if_neg (by omega),
    if_pos ha.2, if_pos hb, if_pos hc, if_pos hd]

lemma toNat_tail (n : Nat) : (UInt8.ofNat (0x80 + n % 64)).toNat = 0x80 + n % 64 :=
  UInt8.toNat_ofNat_of_lt' (by rw [UInt8.size]; omega)

lemma isContinuation_tail (n : Nat) : isContinuation (UInt8.ofNat (0x80 + n % 64)) = true := by
  simp only [isContinuation, toNat_tail, Bool.and_eq_true, decide_eq_true_eq]
  omega

lemma decodeFrom_encodeChar_append (ch : Char) (position : Nat) (rest : List UInt8) :
    decodeFrom position (encodeChar ch ++ rest) =
      (decodeFrom (position + (encodeChar ch).length) rest).map (ch :: ·) := by
  have hvalid : ch.toNat < 0xD800 ∨ 0xDFFF < ch.toNat ∧ ch.toNat < 0x110000 := ch.valid
  have hchar {n : Nat} (h : n = ch.toNat) : Char.ofNat n = ch := by rw [h, ch.ofNat_toNat]
  unfold encodeChar
  dsimp only
  split_ifs with hone htwo hthree
  · have ha : (UInt8.ofNat ch.toNat).toNat = ch.toNat :=
      UInt8.toNat_ofNat_of_lt' (by rw [UInt8.size]; omega)
    refine (decodeFrom_one (by omega)).trans ?_
    rw [hchar ha]
    rfl
  · have ha : (UInt8.ofNat (0xC0 + ch.toNat / 64)).toNat = 0xC0 + ch.toNat / 64 :=
      UInt8.toNat_ofNat_of_lt' (by rw [UInt8.size]; omega)
    refine (decodeFrom_two (by omega) (isContinuation_tail _)).trans ?_
    rw [hchar (by rw [ha, toNat_tail]; omega)]
    rfl
  · have ha : (UInt8.ofNat (0xE0 + ch.toNat / 4096)).toNat = 0xE0 + ch.toNat / 4096 :=
      UInt8.toNat_ofNat_of_lt' (by rw [UInt8.size]; omega)
    have hb : isSecondOfThree (UInt8.ofNat (0xE0 + ch.toNat / 4096))
        (UInt8.ofNat (0x80 + ch.toNat / 64 % 64)) = true := by
      rw [isSecondOfThree, isContinuation_tail, Bool.true_and, ha, toNat_tail]
      split_ifs <;> simp <;> omega
    refine (decodeFrom_three (by omega) hb (isContinuation_tail _)).trans ?_
    rw [hchar (by rw [ha, toNat_tail, toNat_tail]; omega)]
    rfl
  · have ha : (UInt8.ofNat (0xF0 + ch.toNat / 262144)).toNat = 0xF0 + ch.toNat / 262144 :=
      UInt8.toNat_ofNat_of_lt' (by rw [UInt8.size]; omega)
    have hb : isSecondOfFour (UInt8.ofNat (0xF0 + ch.toNat / 262144))
        (UInt8.ofNat (0x80 + ch.toNat / 4096 % 64)) = true := by
      rw [isSecondOfFour, isContinuation_tail, Bool.true_and, ha, toNat_tail]
      split_ifs <;> simp <;> omega
    refine (decodeFrom_four (by omega) hb (isContinuation_tail _) (isContinuation_tail _)).trans ?_
    rw [hchar (by rw [ha, toNat_tail, toNat_tail, toNat_tail]; omega)]
    rfl

lemma decodeFrom_encode (position : Nat) (s : Text) : decodeFrom position (encode s) = .ok s := by
  induction s generalizing position with
  | nil => rfl
  | cons ch s ih =>
    rw [encode_cons, decodeFrom_encodeChar_append, ih]
    rfl

lemma decode_encode (s : Text) : decode (encode s) = .ok s := decodeFrom_encode 0 s

lemma size_append (s t : Text) : size (s ++ t) = size s + size t := by
  simp [size, encode]

lemma size_le_of_prefix {s t : Text} (h : s <+: t) : size s ≤ size t := by
  obtain ⟨rest, rfl⟩ := h
  rw [size_append]
  omega

lemma size_pos {s : Text} (h : s ≠ []) : 0 < size s := by
  obtain ⟨c, rest, rfl⟩ := List.exists_cons_of_ne_nil h
  have hc : encodeChar c ≠ [] := by
    dsimp only [encodeChar]
    split_ifs <;> simp
  have hpos := List.length_pos_iff.mpr hc
  simp only [size, encode_cons, List.length_append]
  omega

end HostDiscovery.Utf8
