import HostDiscovery.Proofs.Properties.RoundTrip

/-! Properties made of untyped values. What is displayed of a number, a truth value or of none has
no blank and no backslash, doubles in their shortest form included. So a file gives it back under
the name it was stored with, and of two values with one name the later one. -/
namespace HostDiscovery

def Text.Plain (s : Text) : Prop := ∀ c ∈ s, isBlank c = false ∧ c ≠ '\\'

instance (s : Text) : Decidable s.Plain :=
  inferInstanceAs (Decidable (∀ c ∈ s, Text.isBlank c = false ∧ c ≠ '\\'))

/-- A value without parts that is no text. -/
def Value.IsScalar : Value → Prop
  | .null | .bool _ | .int _ | .float _ => True
  | .text _ | .list _ | .object _ => False

namespace Text

variable {s t : Text} {c : Char}

@[simp] lemma plain_nil : Plain [] := by simp [Plain]

@[simp] lemma plain_cons : Plain (c :: s) ↔ (isBlank c = false ∧ c ≠ '\\') ∧ s.Plain :=
  List.forall_mem_cons

@[simp] lemma plain_append : Plain (s ++ t) ↔ s.Plain ∧ t.Plain := List.forall_mem_append

lemma Plain.subset (ht : t.Plain) (h : s ⊆ t) : s.Plain := fun c hc => ht c (h hc)

lemma plain_replicate (hc : isBlank c = false ∧ c ≠ '\\') (count : Nat) :
    Plain (List.replicate count c) := by
  intro d hd
  rwa [List.eq_of_mem_replicate hd]

lemma plain_of_isDigit (h : ∀ c ∈ s, c.isDigit = true) : s.Plain := by
  intro c hc
  have hdigit : 48 ≤ c.toNat ∧ c.toNat ≤ 57 := Char.isDigit_iff_toNat.mp (h c hc)
  constructor
  · simp only [isBlank, isSpace, isInformationSeparator, Bool.or_eq_false_iff,
      Bool.and_eq_false_iff, beq_eq_false_iff_ne, decide_eq_false_iff_not]
    omega
  · rintro rfl
    simp at hdigit

lemma plain_ofNat (n : Nat) : Plain (ofNat n) :=
  plain_of_isDigit fun _ => Nat.isDigit_of_mem_toDigits (by decide) (by decide)

lemma Plain.oneLine (h : s.Plain) : OneLine s := by
  intro c hc
  by_contra hbreak
  have hb := isBlank_of_isLineBreak (Bool.not_eq_false _ ▸ hbreak)
  simp [(h c hc).1] at hb

end Text

namespace Binary64

open Text

lemma plain_significantDigits (m : Nat) : (significantDigits m).Plain := by
  refine (plain_ofNat m).subset fun c hc => ?_
  have hdropped := List.mem_reverse.mp hc
  exact List.mem_reverse.mp ((List.dropWhile_suffix _).subset hdropped)

variable {digits : Text}

lemma plain_positional (h : digits.Plain) (point : Int) : (positional digits point).Plain := by
  have hzeros := plain_replicate (c := '0') (by decide)
  have hwhole := h.subset (List.take_subset point.toNat digits)
  have hrest := h.subset (List.drop_subset point.toNat digits)
  simp only [positional]
  split_ifs
  · exact plain_append.mpr ⟨plain_append.mpr ⟨by decide, hzeros _⟩, h⟩
  · exact plain_append.mpr ⟨plain_append.mpr ⟨hwhole, hzeros _⟩, by decide⟩
  · exact plain_append.mpr ⟨plain_append.mpr ⟨hwhole, hzeros _⟩, plain_cons.mpr ⟨by decide, hrest⟩⟩

lemma plain_withExponent (h : digits.Plain) (point : Int) : (withExponent digits point).Plain := by
  have hzeros := plain_replicate (c := '0') (by decide)
  have hfirst := h.subset (List.take_subset 1 digits)
  have hrest := h.subset (List.drop_subset 1 digits)
  have hmark : Plain ['e', if point - 1 < 0 then '-' else '+'] := by
    split_ifs <;> decide
  have hsize := plain_ofNat (point - 1).natAbs
  simp only [withExponent, plain_append]
  refine ⟨⟨⟨⟨hfirst, ?_⟩, hmark⟩, hzeros _⟩, hsize⟩
  split
  · exact plain_nil
  · exact plain_cons.mpr ⟨by decide, hrest⟩

lemma plain_magnitudeText (bits : Nat) : (magnitudeText bits).Plain := by
  have hdigits := plain_significantDigits (shortest bits).1
  simp only [magnitudeText]
  split_ifs
  · decide
  · decide
  · decide
  · exact plain_positional hdigits _
  · exact plain_withExponent hdigits _

lemma plain_text (x : Float) : (text x).Plain := by
  have hmagnitude := plain_magnitudeText (x.toBits.toNat % twoTo 63)
  simp only [text]
  split_ifs
  · exact plain_cons.mpr ⟨by decide, hmagnitude⟩
  · exact hmagnitude

end Binary64

lemma Value.toList_display_int (i : Int) :
    (Value.int i).display.toList =
      if i < 0 then '-' :: Text.ofNat i.natAbs else Text.ofNat i.natAbs := by
  cases i with
  | ofNat n =>
    have hdisplay : (Value.int (.ofNat n)).display = n.repr := rfl
    have hsign : ¬ Int.ofNat n < 0 := Int.not_lt.mpr (Int.natCast_nonneg n)
    rw [hdisplay, if_neg hsign]
    simp [Text.ofNat, Nat.repr]
  | negSucc n =>
    have hdisplay : (Value.int (.negSucc n)).display = "-" ++ (n + 1).repr := rfl
    rw [hdisplay, if_pos (Int.negSucc_lt_zero n)]
    simp [Text.ofNat, Nat.repr]

lemma Value.IsScalar.plain_display {value : Value} (h : value.IsScalar) :
    Text.Plain value.display.toList := by
  cases value with
  | null => decide
  | bool b => cases b <;> decide
  | int i =>
    have hdigits := Text.plain_ofNat i.natAbs
    rw [toList_display_int]
    split_ifs
    · exact Text.plain_cons.mpr ⟨by decide, hdigits⟩
    · exact hdigits
  | float x =>
    have hdisplay : (Value.float x).display.toList = Binary64.text x := String.toList_ofList
    rw [hdisplay]
    exact Binary64.plain_text x
  | text | list | object => exact h.elim

namespace Properties

open Text

lemma Loadable.storable_of_plain {key value : Text} (hkey : Loadable (key, []))
    (hvalue : value.Plain) : Storable (key, value) where
  key_plain := hkey.key_plain
  key_start := hkey.key_start
  value_oneLine := hvalue.oneLine
  value_start c hc := (hvalue c (List.mem_of_mem_head? hc)).1
  value_complete := by
    rw [not_endsOddly_iff]
    rcases List.eq_nil_or_concat value with rfl | ⟨body, c, rfl⟩
    · exact isContinued_nil
    · have hc : c ≠ '\\' := (hvalue c (by simp)).2
      rw [List.concat_eq_append, isContinued_append_cons body hc, isContinued_nil]
  value_end c hc := (hvalue c (List.mem_of_mem_getLast? hc)).1

lemma get?_ofEntries (entries : List (Text × Text)) (key : Text) :
    (ofEntries entries).get? key = (entries.reverse.find? (·.1 == key)).map (·.2) := by
  induction entries using List.reverseRecOn with
  | nil => rfl
  | append_singleton entries e ih =>
    rw [ofEntries_append_singleton, get?_insert, List.reverse_concat, List.find?_cons, ih]
    split_ifs with hkey
    · simp [hkey]
    · have hother : (e.1 == key) = false := by simpa using hkey
      simp [hother]

lemma get?_ofFields (fields : Fields) (name : String) :
    (ofFields fields).get? name.toList =
      (Fields.get? fields.reverse name).map (·.display.toList) := by
  have hname : (fun f : String × Value => f.1.toList == name.toList) = (·.1 == name) := by
    funext f
    rw [Bool.eq_iff_iff]
    simp [String.toList_inj]
  rw [ofFields, get?_ofEntries, ← List.map_reverse, List.find?_map]
  simp only [Fields.get?, Function.comp_def, hname, Option.map_map]

theorem ofBytes_encode_write_ofFields {time : Text} (ht : OneLine time) {fields : Fields}
    (h : ∀ f ∈ fields, Loadable (f.1.toList, []) ∧ f.2.IsScalar) :
    ∃ m, ofBytes (Utf8.encode (write time (ofFields fields))) = .ok m ∧
      ∀ name : String,
        m.get? name.toList = (Fields.get? fields.reverse name).map (·.display.toList) := by
  have hstorable : ∀ e ∈ (ofFields fields).entries, Storable e := by
    intro e he
    obtain ⟨f, hf, rfl⟩ := List.mem_map.mp (mem_of_mem_ofEntries he)
    obtain ⟨hname, hscalar⟩ := h f hf
    exact hname.storable_of_plain hscalar.plain_display
  exact ⟨ofFields fields, ofBytes_encode_write ht hstorable, get?_ofFields fields⟩

end Properties

end HostDiscovery
