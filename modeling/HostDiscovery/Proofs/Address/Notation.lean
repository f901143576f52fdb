import HostDiscovery.Proofs.Text.Split
import HostDiscovery.Address.Numeric
import Mathlib.Data.List.Forall2
import Mathlib.Data.Nat.Digits.Defs
import Mathlib.Tactic.IntervalCases

/-! What the texts of addresses mean, said without reading them: a text spells a number when its
digits have that value, and it spells an address when it is made of such texts in the one way that
IPv4 has or in one of the ways of IPv6. -/
namespace HostDiscovery.NumericAddress

open Text

def SpellsDigits (base : Nat) : Text → List Nat → Prop :=
  List.Forall₂ fun c d => d < base ∧ c.toLower = Nat.digitChar d

/-- Up to three decimal digits, of which the first is a zero only if it is alone. -/
inductive SpellsOctet : Text → Nat → Prop
  | intro {s : Text} {ds : List Nat} (digits : SpellsDigits 10 s ds) (some_digit : ds ≠ [])
      (short : ds.length ≤ 3) (no_leading_zero : 1 < ds.length → ds.head? ≠ some 0)
      (le : Nat.ofDigits 10 ds.reverse ≤ 255) : SpellsOctet s (Nat.ofDigits 10 ds.reverse)

/-- Up to four hexadecimal digits, zeros in front included. -/
inductive SpellsGroup : Text → Nat → Prop
  | intro {s : Text} {ds : List Nat} (digits : SpellsDigits 16 s ds) (some_digit : ds ≠ [])
      (short : ds.length ≤ 4) : SpellsGroup s (Nat.ofDigits 16 ds.reverse)

inductive SpellsQuad : Text → List Nat → Prop
  | intro {pieces : List Text} {os : List Nat} (octets : List.Forall₂ SpellsOctet pieces os)
      (four : os.length = 4) : SpellsQuad (joinWith ['.'] pieces) os

/-- Groups one by one; a dotted quad may stand for the last two. -/
inductive SpellsTail : List Text → List Nat → Prop
  | nil : SpellsTail [] []
  | quad {s : Text} {a b c d : Nat} (quad : SpellsQuad s [a, b, c, d]) :
      SpellsTail [s] [256 * a + b, 256 * c + d]
  | cons {s : Text} {g : Nat} {pieces : List Text} {gs : List Nat} (group : SpellsGroup s g)
      (tail : SpellsTail pieces gs) : SpellsTail (s :: pieces) (g :: gs)

/-- Eight groups with colons between them; two colons in a row may stand for zeros. -/
inductive SpellsEight : Text → List Nat → Prop
  | full {pieces : List Text} {gs : List Nat} (groups : SpellsTail pieces gs)
      (eight : gs.length = 8) : SpellsEight (joinWith [':'] pieces) gs
  | gap {pieces more : List Text} {left right : List Nat} {zeros : Nat}
      (groups : List.Forall₂ SpellsGroup pieces left) (tail : SpellsTail more right)
      (some_zero : 0 < zeros) (eight : left.length + zeros + right.length = 8) :
      SpellsEight (joinWith [':'] pieces ++ [':', ':'] ++ joinWith [':'] more)
        (left ++ List.replicate zeros 0 ++ right)

inductive Spells : Text → NumericAddress → Prop
  | v4 {s : Text} {os : List Nat} {value : BitVec 32} (quad : SpellsQuad s os)
      (value_eq : value.toNat = Nat.ofDigits 256 os.reverse) : Spells s (.v4 value)
  | v6 {s : Text} {gs : List Nat} {value : BitVec 128} (eight : SpellsEight s gs)
      (value_eq : value.toNat = Nat.ofDigits 65536 gs.reverse) : Spells s (.v6 value)

lemma exists_of_mem_of_forall₂ {α β : Type} {R : α → β → Prop} {xs : List α} {ys : List β}
    (h : List.Forall₂ R xs ys) {x : α} (hx : x ∈ xs) : ∃ y ∈ ys, R x y := by
  induction h with
  | nil => simp at hx
  | @cons a b as bs hab _ ih =>
    rcases List.mem_cons.mp hx with rfl | hx
    · exact ⟨b, by simp, hab⟩
    · obtain ⟨y, hy, hxy⟩ := ih hx
      exact ⟨y, List.mem_cons_of_mem b hy, hxy⟩

/-! What cannot stand in a notation: the marks that larger ones, and what is around them, are cut
at. -/

lemma digitChar_not_mem {d : Nat} (h : d < 16) : Nat.digitChar d ∉ ['.', ':', '%', '/'] := by
  interval_cases d <;> decide

lemma toLower_of_mem_marks {c : Char} (h : c ∈ ['.', ':', '%', '/']) : c.toLower = c := by
  simp only [List.mem_cons, List.not_mem_nil, or_false] at h
  rcases h with rfl | rfl | rfl | rfl <;> rfl

lemma SpellsDigits.not_mem {base : Nat} (hb : base ≤ 16) {s : Text} {ds : List Nat}
    (h : SpellsDigits base s ds) {c : Char} (hc : c ∈ ['.', ':', '%', '/']) : c ∉ s := by
  intro hm
  obtain ⟨d, -, hlt, hlower⟩ := exists_of_mem_of_forall₂ h hm
  rw [toLower_of_mem_marks hc] at hlower
  exact digitChar_not_mem (lt_of_lt_of_le hlt hb) (hlower ▸ hc)

lemma SpellsDigits.ne_nil {base : Nat} {s : Text} {ds : List Nat} (h : SpellsDigits base s ds)
    (hds : ds ≠ []) : s ≠ [] := by
  rintro rfl
  exact hds (List.forall₂_nil_left_iff.mp h)

lemma SpellsOctet.not_mem {s : Text} {o : Nat} (h : SpellsOctet s o) {c : Char}
    (hc : c ∈ ['.', ':', '%', '/']) : c ∉ s := by
  obtain ⟨digits, -, -, -, -⟩ := h
  exact digits.not_mem (by decide) hc

lemma SpellsGroup.not_mem {s : Text} {g : Nat} (h : SpellsGroup s g) {c : Char}
    (hc : c ∈ ['.', ':', '%', '/']) : c ∉ s := by
  obtain ⟨digits, -, -⟩ := h
  exact digits.not_mem (by decide) hc

lemma SpellsGroup.ne_nil {s : Text} {g : Nat} (h : SpellsGroup s g) : s ≠ [] := by
  obtain ⟨digits, some_digit, -⟩ := h
  exact digits.ne_nil some_digit

lemma SpellsQuad.point_mem {s : Text} {os : List Nat} (h : SpellsQuad s os) : '.' ∈ s := by
  cases h with
  | @intro pieces _ octets four =>
    have hlen := octets.length_eq.trans four
    exact mem_joinWith_separator (by omega)

lemma SpellsQuad.not_mem {s : Text} {os : List Nat} (h : SpellsQuad s os) {c : Char}
    (hc : c ∈ [':', '%', '/']) : c ∉ s := by
  intro hm
  cases h with
  | intro octets _ =>
    rcases mem_joinWith hm with hm | ⟨piece, hp, hm⟩
    · rw [List.mem_singleton] at hm
      simp [hm] at hc
    · obtain ⟨o, -, ho⟩ := exists_of_mem_of_forall₂ octets hp
      exact ho.not_mem (List.mem_cons_of_mem '.' hc) hm

lemma SpellsTail.ne_nil_of_mem {pieces : List Text} {gs : List Nat} (h : SpellsTail pieces gs)
    {piece : Text} (hp : piece ∈ pieces) : piece ≠ [] := by
  induction h with
  | nil => simp at hp
  | quad quad =>
    rw [List.mem_singleton] at hp
    exact hp ▸ List.ne_nil_of_mem quad.point_mem
  | cons group _ ih =>
    rcases List.mem_cons.mp hp with rfl | hp
    · exact group.ne_nil
    · exact ih hp

lemma SpellsTail.not_mem {pieces : List Text} {gs : List Nat} (h : SpellsTail pieces gs)
    {piece : Text} (hp : piece ∈ pieces) {c : Char} (hc : c ∈ [':', '%', '/']) : c ∉ piece := by
  induction h with
  | nil => simp at hp
  | quad quad =>
    rw [List.mem_singleton] at hp
    exact hp ▸ quad.not_mem hc
  | cons group _ ih =>
    rcases List.mem_cons.mp hp with rfl | hp
    · exact group.not_mem (List.mem_cons_of_mem '.' hc)
    · exact ih hp

lemma SpellsTail.of_groups {pieces : List Text} {gs : List Nat}
    (h : List.Forall₂ SpellsGroup pieces gs) : SpellsTail pieces gs := by
  induction h with
  | nil => exact .nil
  | cons group _ ih => exact .cons group ih

lemma SpellsTail.length_le {pieces : List Text} {gs : List Nat} (h : SpellsTail pieces gs) :
    gs.length ≤ pieces.length + 1 := by
  induction h with
  | nil => simp
  | quad => simp
  | cons _ _ ih => simpa using ih

/-- Every notation of IPv6 has a colon, and none of IPv4 has. -/
lemma SpellsEight.colon_mem {s : Text} {gs : List Nat} (h : SpellsEight s gs) : ':' ∈ s := by
  cases h with
  | full groups eight =>
    have hlen := groups.length_le
    exact mem_joinWith_separator (by omega)
  | gap => simp

lemma SpellsTail.not_mem_joinWith {pieces : List Text} {gs : List Nat} (h : SpellsTail pieces gs)
    {c : Char} (hc : c ∈ ['%', '/']) : c ∉ joinWith [':'] pieces := by
  intro hm
  rcases mem_joinWith hm with hm | ⟨piece, hp, hm⟩
  · rw [List.mem_singleton] at hm
    simp [hm] at hc
  · exact h.not_mem hp (List.mem_cons_of_mem ':' hc) hm

lemma SpellsEight.not_mem {s : Text} {gs : List Nat} (h : SpellsEight s gs) {c : Char}
    (hc : c ∈ ['%', '/']) : c ∉ s := by
  intro hm
  cases h with
  | full groups _ => exact groups.not_mem_joinWith hc hm
  | gap groups tail _ _ =>
    rcases List.mem_append.mp hm with hm | hm
    · rcases List.mem_append.mp hm with hm | hm
      · exact (SpellsTail.of_groups groups).not_mem_joinWith hc hm
      · have hcolon : c = ':' := by simpa using hm
        simp [hcolon] at hc
    · exact tail.not_mem_joinWith hc hm

lemma Spells.not_mem {s : Text} {ip : NumericAddress} (h : Spells s ip) {c : Char}
    (hc : c ∈ ['%', '/']) : c ∉ s := by
  cases h with
  | v4 quad _ => exact quad.not_mem (List.mem_cons_of_mem ':' hc)
  | v6 eight _ => exact eight.not_mem hc

/-! How large the numbers are that the parts of a notation spell. -/

lemma SpellsDigits.lt_of_mem {base : Nat} {s : Text} {ds : List Nat} (h : SpellsDigits base s ds)
    {d : Nat} (hd : d ∈ ds) : d < base := by
  obtain ⟨c, -, hlt, -⟩ := exists_of_mem_of_forall₂ (R := flip _) h.flip hd
  exact hlt

lemma SpellsOctet.lt {s : Text} {o : Nat} (h : SpellsOctet s o) : o < 256 := by
  obtain ⟨-, -, -, -, le⟩ := h
  omega

lemma SpellsGroup.lt {s : Text} {g : Nat} (h : SpellsGroup s g) : g < 65536 := by
  cases h with
  | @intro ds digits some_digit short =>
    have hmem : ∀ d ∈ ds.reverse, d < 16 := fun d hd => digits.lt_of_mem (List.mem_reverse.mp hd)
    have hlt : Nat.ofDigits 16 ds.reverse < 16 ^ ds.reverse.length :=
      Nat.ofDigits_lt_base_pow_length (by decide) hmem
    have hpow : 16 ^ ds.reverse.length ≤ 16 ^ 4 :=
      Nat.pow_le_pow_right (by decide) (by simpa using short)
    omega

lemma SpellsQuad.lt_of_mem {s : Text} {os : List Nat} (h : SpellsQuad s os) {o : Nat}
    (ho : o ∈ os) : o < 256 := by
  cases h with
  | intro octets _ =>
    obtain ⟨piece, -, hp⟩ := exists_of_mem_of_forall₂ (R := flip _) octets.flip ho
    exact SpellsOctet.lt hp

lemma SpellsTail.lt_of_mem {pieces : List Text} {gs : List Nat} (h : SpellsTail pieces gs)
    {g : Nat} (hg : g ∈ gs) : g < 65536 := by
  induction h with
  | nil => simp at hg
  | @quad s a b c d quad =>
    have ha := quad.lt_of_mem (o := a) (by simp)
    have hb := quad.lt_of_mem (o := b) (by simp)
    have hc := quad.lt_of_mem (o := c) (by simp)
    have hd := quad.lt_of_mem (o := d) (by simp)
    simp only [List.mem_cons, List.not_mem_nil, or_false] at hg
    omega
  | cons group _ ih =>
    rcases List.mem_cons.mp hg with rfl | hg
    · exact group.lt
    · exact ih hg

lemma SpellsQuad.ofDigits_lt {s : Text} {os : List Nat} (h : SpellsQuad s os) :
    Nat.ofDigits 256 os.reverse < 2 ^ 32 := by
  have hlen : os.reverse.length = 4 := by
    cases h with
    | intro _ four => simpa using four
  have hlt := Nat.ofDigits_lt_base_pow_length (b := 256) (l := os.reverse) (by decide)
    fun o ho => h.lt_of_mem (List.mem_reverse.mp ho)
  rw [hlen] at hlt
  omega

lemma SpellsEight.ofDigits_lt {s : Text} {gs : List Nat} (h : SpellsEight s gs) :
    Nat.ofDigits 65536 gs.reverse < 2 ^ 128 := by
  have hlen : gs.reverse.length = 8 := by
    rw [List.length_reverse]
    cases h with
    | full _ eight => exact eight
    | gap _ _ _ eight => simpa [Nat.add_assoc] using eight
  have hmem : ∀ g ∈ gs, g < 65536 := by
    cases h with
    | full groups _ => exact fun g hg => groups.lt_of_mem hg
    | gap groups tail _ _ =>
      intro g hg
      rcases List.mem_append.mp hg with hg | hg
      · rcases List.mem_append.mp hg with hg | hg
        · exact (SpellsTail.of_groups groups).lt_of_mem hg
        · rw [(List.mem_replicate.mp hg).2]
          decide
      · exact tail.lt_of_mem hg
  have hlt := Nat.ofDigits_lt_base_pow_length (b := 65536) (l := gs.reverse) (by decide)
    fun g hg => hmem g (List.mem_reverse.mp hg)
  rw [hlen] at hlt
  omega

end HostDiscovery.NumericAddress
