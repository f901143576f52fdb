import HostDiscovery.Settings.Basic
import Mathlib.Tactic.Lemma
import Mathlib.Tactic.SplitIfs

/-! Settings are built from fields exactly when every field by itself is read, and then no more than
one of the two preferences is on. So the bounds of the fields are bounds of all settings. -/
namespace HostDiscovery

section Fields

variable {α : Type} {a : α}

lemma Checked.under_eq_ok_iff {step : FieldStep} {checked : Checked α} :
    Checked.under step checked = .ok a ↔ checked = .ok a := by
  cases checked <;> simp [Checked.under, Except.mapError]

namespace Field

lemma optional_of_get? {fields : Fields} {name : String} {v : Value}
    (h : fields.get? name = some v) {read : Value → Checked α} {default : α} :
    optional fields name read default = .ok a ↔ read v = .ok a := by
  rw [optional, h]
  exact Checked.under_eq_ok_iff

lemma optional_of_get?_none {fields : Fields} {name : String} (h : fields.get? name = none)
    {read : Value → Checked α} {default : α} :
    optional fields name read default = .ok a ↔ default = a := by
  rw [optional, h, Except.ok.injEq]

lemma of_optional_eq_ok (P : α → Prop) {fields : Fields} {name : String}
    {read : Value → Checked α} {default : α} (hread : ∀ {v a}, read v = .ok a → P a)
    (hdefault : P default) (h : optional fields name read default = .ok a) : P a := by
  cases hv : fields.get? name with
  | none =>
    have ha : default = a := (optional_of_get?_none hv).mp h
    rwa [← ha]
  | some v =>
    have ha : read v = .ok a := (optional_of_get? hv).mp h
    exact hread ha

lemma portNumber_eq_ok_iff {v : Value} {p : Int} :
    portNumber v = .ok p ↔ integer v = .ok p ∧ 1 ≤ p ∧ p ≤ 65535 := by
  unfold portNumber
  cases integer v with
  | error es => simp
  | ok i =>
    simp only [Except.ok.injEq]
    split_ifs with hlow hhigh
    · exact iff_of_false (by simp [Checked.problem]) (by omega)
    · exact iff_of_false (by simp [Checked.problem]) (by omega)
    · rw [Except.ok.injEq]
      omega

lemma positiveNumber_eq_ok_iff {v : Value} {x : Float} :
    positiveNumber v = .ok x ↔ number v = .ok x ∧ 0 < x := by
  unfold positiveNumber
  cases number v with
  | error es => simp
  | ok y =>
    simp only [Except.ok.injEq]
    split_ifs with hpos
    · rw [Except.ok.injEq]
      constructor
      · rintro rfl
        exact ⟨rfl, hpos⟩
      · exact And.left
    · refine iff_of_false (by simp [Checked.problem]) ?_
      rintro ⟨rfl, hx⟩
      exact hpos hx

lemma nonemptyText_eq_ok_iff {v : Value} {s : String} :
    nonemptyText v = .ok s ↔ text v = .ok s ∧ s ≠ "" := by
  unfold nonemptyText
  cases text v with
  | error es => simp
  | ok t =>
    simp only [Except.ok.injEq]
    split_ifs with hempty
    · have ht : t = "" := by simpa using hempty
      refine iff_of_false (by simp [Checked.problem]) ?_
      rintro ⟨rfl, hs⟩
      exact hs ht
    · have ht : t ≠ "" := by simpa using hempty
      rw [Except.ok.injEq]
      constructor
      · rintro rfl
        exact ⟨rfl, ht⟩
      · exact And.left

lemma items_map_text (texts : List String) (i : Nat) :
    Checked.items text i (texts.map .text) = .ok texts := by
  induction texts generalizing i with
  | nil => rfl
  | cons s texts ih =>
    have hs : Checked.under (.index i) (text (.text s)) = .ok s := Checked.under_eq_ok_iff.mpr rfl
    rw [List.map_cons, Checked.items, hs, ih]
    rfl

lemma list_text_ofTexts (texts : List String) : list text (Value.ofTexts texts) = .ok texts :=
  items_map_text texts 0

end Field

end Fields

namespace Settings

structure WellFormed (s : Settings) : Prop where
  one_preference : ¬ (s.preferIpv4 = true ∧ s.preferIpv6 = true)
  probePort_bounds : 1 ≤ s.probePort ∧ s.probePort ≤ 65535
  probeTimeout_pos : 0 < s.probeTimeout
  defaultPort_bounds : 1 ≤ s.defaultPort ∧ s.defaultPort ≤ 65535
  marker_ne_empty : s.hostOnlyMarker ≠ ""

variable {fields : Fields} {s : Settings}

/-- Every field is read as the one of the settings. -/
structure ReadsFields (fields : Fields) (s : Settings) : Prop where
  preferIpv4 : Field.optional fields "prefer_ipv4" Field.bool true = .ok s.preferIpv4
  preferIpv6 : Field.optional fields "prefer_ipv6" Field.bool false = .ok s.preferIpv6
  probeHosts : Field.optional fields "probe_hosts" (Field.list Field.text) Defaults.probeHosts
    = .ok s.probeHosts
  probePort : Field.optional fields "probe_port" Field.portNumber Defaults.probePort
    = .ok s.probePort
  probeTimeout : Field.optional fields "probe_timeout" Field.positiveNumber Defaults.probeTimeout
    = .ok s.probeTimeout
  defaultPort : Field.optional fields "default_port" Field.portNumber Defaults.port
    = .ok s.defaultPort
  hostOnlyMarker : Field.optional fields "host_only_marker" Field.nonemptyText
    Defaults.hostOnlyMarker = .ok s.hostOnlyMarker

lemma ofFields_eq_ok_iff :
    ofFields fields = .ok s ↔
      ReadsFields fields s ∧ ¬ (s.preferIpv4 = true ∧ s.preferIpv6 = true) := by
  constructor
  · intro h
    simp only [ofFields] at h
    split at h
    · cases h
    · rename_i hchecked
      split_ifs at h with hboth
      · cases h
      · obtain rfl := Except.ok.inj h
        simp only [Checked.both_eq_ok_iff] at hchecked
        obtain ⟨h4, h6, hhosts, hport, htimeout, hdefault, hmarker⟩ := hchecked
        have hone := hboth
        rw [Bool.and_eq_true] at hone
        exact ⟨⟨h4, h6, hhosts, hport, htimeout, hdefault, hmarker⟩, hone⟩
  · rintro ⟨reads, hboth⟩
    have hone : ¬ (s.preferIpv4 && s.preferIpv6) = true := by rwa [Bool.and_eq_true]
    simp only [ofFields, reads.preferIpv4, reads.preferIpv6, reads.probeHosts, reads.probePort,
      reads.probeTimeout, reads.defaultPort, reads.hostOnlyMarker, Checked.both]
    rw [if_neg hone]

theorem wellFormed_of_ofFields (h : ofFields fields = .ok s) : s.WellFormed := by
  obtain ⟨reads, hone⟩ := ofFields_eq_ok_iff.mp h
  have hport : ∀ {v p}, Field.portNumber v = .ok p → 1 ≤ p ∧ p ≤ 65535 :=
    fun hv => (Field.portNumber_eq_ok_iff.mp hv).2
  have htimeout : ∀ {v x}, Field.positiveNumber v = .ok x → 0 < x :=
    fun hv => (Field.positiveNumber_eq_ok_iff.mp hv).2
  have hmarker : ∀ {v marker}, Field.nonemptyText v = .ok marker → marker ≠ "" :=
    fun hv => (Field.nonemptyText_eq_ok_iff.mp hv).2
  constructor
  · exact hone
  · exact Field.of_optional_eq_ok (fun p => 1 ≤ p ∧ p ≤ 65535) hport (by decide) reads.probePort
  · exact Field.of_optional_eq_ok (fun x => 0 < x) htimeout (by decide) reads.probeTimeout
  · exact Field.of_optional_eq_ok (fun p => 1 ≤ p ∧ p ≤ 65535) hport (by decide) reads.defaultPort
  · exact Field.of_optional_eq_ok (fun marker => marker ≠ "") hmarker (by decide)
      reads.hostOnlyMarker

lemma ofFields_nil : ofFields [] = .ok {} := rfl

end Settings

end HostDiscovery
