import HostDiscovery.Proofs.Field.Problems
import HostDiscovery.Proofs.Settings.Fields
import Mathlib.Data.Set.List
import Mathlib.Tactic.ByContra

/-! When untyped fields make settings, and what is said where they do not. A value is taken by its
key or offends at some places; the errors are at exactly these places, in the order of the keys, and
the conflict of the two preferences comes up only where there are no other errors. -/
namespace HostDiscovery.Settings

inductive Key
  | preferIpv4
  | preferIpv6
  | probeHosts
  | probePort
  | probeTimeout
  | defaultPort
  | hostOnlyMarker
  deriving DecidableEq, Repr

namespace Key

def name : Key → String
  | preferIpv4 => "prefer_ipv4"
  | preferIpv6 => "prefer_ipv6"
  | probeHosts => "probe_hosts"
  | probePort => "probe_port"
  | probeTimeout => "probe_timeout"
  | defaultPort => "default_port"
  | hostOnlyMarker => "host_only_marker"

def declared : List Key :=
  [preferIpv4, preferIpv6, probeHosts, probePort, probeTimeout, defaultPort, hostOnlyMarker]

def position (key : Key) : Nat := declared.idxOf key

/-- A value converts to the type of a key and meets its bound. -/
def Takes : Key → Value → Prop
  | preferIpv4, v | preferIpv6, v => ∃ b, Field.bool v = .ok b
  | probeHosts, v => ∃ hosts, v = Value.ofTexts hosts
  | probePort, v | defaultPort, v => ∃ p, Field.integer v = .ok p ∧ 1 ≤ p ∧ p ≤ 65535
  | probeTimeout, v => ∃ x, Field.number v = .ok x ∧ 0 < x
  | hostOnlyMarker, v => ∃ s, v = .text s ∧ s ≠ ""

/-- Where a value is not what a key takes, from the key on: at items that are no texts in a list of
hosts, else as a whole. -/
inductive Offends : Key → Value → List FieldStep → Prop
  | whole {key : Key} {v : Value} (untaken : ¬ key.Takes v)
      (noHosts : key = probeHosts → ∀ items, v ≠ .list items) : Offends key v []
  | item {items : List Value} {i : Nat} {v : Value} (found : items[i]? = some v)
      (untaken : ∀ s, v ≠ .text s) : Offends probeHosts (.list items) [.index i]

end Key

/-- Every key that is given takes its value. -/
def Fits (fields : Fields) : Prop :=
  ∀ (key : Key) v, fields.get? key.name = some v → key.Takes v

/-- With the defaults filled in, both families are preferred. -/
def PrefersBoth (fields : Fields) : Prop :=
  Field.optional fields Key.preferIpv4.name Field.bool true = .ok true ∧
    Field.optional fields Key.preferIpv6.name Field.bool false = .ok true

/-- A location at which a value that is given offends. -/
def OffendsAt (fields : Fields) (location : List FieldStep) : Prop :=
  ∃ (key : Key) (v : Value) (steps : List FieldStep), fields.get? key.name = some v ∧
    key.Offends v steps ∧ location = .name key.name :: steps

/-- One step comes before another: its key is declared first, or it is the earlier item. -/
inductive StepPrecedes : FieldStep → FieldStep → Prop
  | key {key other : Key} (earlier : key.position < other.position) :
      StepPrecedes (.name key.name) (.name other.name)
  | item {i j : Nat} (earlier : i < j) : StepPrecedes (.index i) (.index j)

/-- Errors are at exactly the locations of a set, in strict order, and none of them is the conflict of
the preferences. -/
structure Names (errors : List FieldError) (locations : List FieldStep → Prop) : Prop where
  mem_iff : ∀ location, location ∈ errors.map FieldError.location ↔ locations location
  ordered : (errors.map FieldError.location).Pairwise (List.Lex StepPrecedes)
  noConflict : ∀ e ∈ errors, e.problem ≠ .conflictingPreferences

variable {α : Type} {fields : Fields} {s : Settings} {key : Key} {v : Value}

namespace Key

def faults : Key → Value → List FieldError
  | preferIpv4, v | preferIpv6, v => (Field.bool v).errors
  | probeHosts, v => (Field.list Field.text v).errors
  | probePort, v | defaultPort, v => (Field.portNumber v).errors
  | probeTimeout, v => (Field.positiveNumber v).errors
  | hostOnlyMarker, v => (Field.nonemptyText v).errors

lemma takes_probePort_iff : probePort.Takes v ↔ ∃ p, Field.portNumber v = .ok p :=
  exists_congr fun _ => Field.portNumber_eq_ok_iff.symm

lemma takes_probeTimeout_iff : probeTimeout.Takes v ↔ ∃ x, Field.positiveNumber v = .ok x :=
  exists_congr fun _ => Field.positiveNumber_eq_ok_iff.symm

lemma takes_hostOnlyMarker_iff : hostOnlyMarker.Takes v ↔ ∃ s, Field.nonemptyText v = .ok s := by
  refine exists_congr fun s => ?_
  rw [Field.nonemptyText_eq_ok_iff, Field.text_eq_ok_iff]

lemma exists_list_of_takes (h : probeHosts.Takes v) :
    ∃ hosts, Field.list Field.text v = .ok hosts := by
  obtain ⟨hosts, rfl⟩ := h
  exact ⟨hosts, Field.list_text_ofTexts hosts⟩

lemma names_of_plain {checked : Checked α} (hplain : checked.Plain)
    (htakes : key.Takes v ↔ ∃ a, checked = .ok a)
    (hhosts : key = probeHosts → ∀ items, v ≠ .list items) :
    Names checked.errors (key.Offends v) := by
  obtain ⟨hok, hnone⟩ | ⟨hrefused, p, hp, hone⟩ := hplain.errors_cases
  · rw [hnone]
    refine ⟨fun location => iff_of_false List.not_mem_nil ?_, .nil, nofun⟩
    intro h
    cases h with
    | whole untaken => exact untaken (htakes.mpr hok)
    | item => exact hhosts rfl _ rfl
  · rw [hone]
    refine ⟨fun location => ?_, List.pairwise_singleton _ _, by simpa using hp⟩
    rw [List.map_singleton, List.mem_singleton]
    constructor
    · rintro rfl
      exact .whole (mt htakes.mp hrefused) hhosts
    · intro h
      cases h with
      | whole => rfl
      | item => exact absurd rfl (hhosts rfl _)

lemma names_faults_list (items : List Value) :
    Names (probeHosts.faults (.list items)) (probeHosts.Offends (.list items)) where
  mem_iff location := by
    change location ∈ (Checked.items Field.text 0 items).errors.map _ ↔ _
    rw [List.mem_map]
    constructor
    · rintro ⟨e, he, rfl⟩
      obtain ⟨i, v, p, hfound, hp, rfl⟩ := (Field.mem_errors_items Field.plain_text).mp he
      have huntaken := Field.exists_text_eq_problem_iff.mp ⟨p, hp⟩
      rw [Nat.zero_add]
      exact .item hfound huntaken
    · intro h
      cases h with
      | whole untaken noHosts => exact absurd rfl (noHosts rfl items)
      | @item _ i v found untaken =>
        obtain ⟨p, hp⟩ := Field.exists_text_eq_problem_iff.mpr untaken
        have he : (⟨[.index i], p⟩ : FieldError) ∈ (Checked.items Field.text 0 items).errors :=
          (Field.mem_errors_items Field.plain_text).mpr ⟨i, v, p, found, hp, by rw [Nat.zero_add]⟩
        exact ⟨_, he, rfl⟩
  ordered := by
    rw [List.pairwise_map]
    refine (Field.pairwise_errors_items Field.plain_text 0 items).imp ?_
    rintro e f ⟨i, j, hlt, he, hf⟩
    rw [he, hf]
    exact .rel (.item hlt)
  noConflict e he := by
    obtain ⟨i, v, p, -, hp, rfl⟩ := (Field.mem_errors_items Field.plain_text).mp he
    exact (Field.plain_text v).ne_conflictingPreferences hp

lemma names_faults (key : Key) (v : Value) : Names (key.faults v) (key.Offends v) := by
  cases key with
  | preferIpv4 | preferIpv6 => exact names_of_plain (Field.plain_bool v) Iff.rfl nofun
  | probePort | defaultPort =>
    exact names_of_plain (Field.plain_portNumber v) takes_probePort_iff nofun
  | probeTimeout =>
    exact names_of_plain (Field.plain_positiveNumber v) takes_probeTimeout_iff nofun
  | hostOnlyMarker =>
    exact names_of_plain (Field.plain_nonemptyText v) takes_hostOnlyMarker_iff nofun
  | probeHosts =>
    by_cases hlist : ∃ items, v = .list items
    · obtain ⟨items, rfl⟩ := hlist
      exact names_faults_list items
    · have hitems : ∀ items, v ≠ .list items := fun items h => hlist ⟨items, h⟩
      have hrefused : Field.list Field.text v = Checked.problem .notList :=
        Field.list_of_not_list hitems
      have hplain : (Field.list Field.text v).Plain := by
        rw [hrefused]
        exact Checked.plain_problem (by decide)
      have htakes : probeHosts.Takes v ↔ ∃ hosts, Field.list Field.text v = .ok hosts := by
        rw [hrefused]
        exact iff_of_false (fun ⟨_, h⟩ => hitems _ h) (by simp [Checked.problem])
      exact names_of_plain hplain htakes fun _ => hitems

lemma takes_iff : key.Takes v ↔ ∀ steps, ¬ key.Offends v steps := by
  constructor
  · intro htakes steps hoffends
    cases hoffends with
    | whole untaken => exact untaken htakes
    | @item items i v found untaken =>
      obtain ⟨hosts, hhosts⟩ := htakes
      obtain rfl := Value.list.inj hhosts
      rw [List.getElem?_map, Option.map_eq_some_iff] at found
      obtain ⟨host, -, rfl⟩ := found
      exact untaken host rfl
  · intro hnowhere
    by_contra htakes
    by_cases hhosts : key = probeHosts ∧ ∃ items, v = .list items
    · obtain ⟨rfl, items, rfl⟩ := hhosts
      refine htakes ?_
      have htexts : ∀ item ∈ items, item ∈ Set.range Value.text := by
        intro item hmem
        obtain ⟨i, hi⟩ := List.mem_iff_getElem?.mp hmem
        by_contra htext
        have huntaken : ∀ s, item ≠ .text s := fun s hs => htext ⟨s, hs.symm⟩
        exact hnowhere _ (.item hi huntaken)
      obtain ⟨hosts, rfl⟩ := (Set.range_list_map Value.text).ge htexts
      exact ⟨hosts, rfl⟩
    · have hnoHosts : key = probeHosts → ∀ items, v ≠ .list items :=
        fun hkey items hv => hhosts ⟨hkey, items, hv⟩
      exact hnowhere [] (.whole htakes hnoHosts)

lemma faults_eq_nil_iff : key.faults v = [] ↔ key.Takes v := by
  rw [takes_iff, ← List.map_eq_nil_iff, List.eq_nil_iff_forall_not_mem]
  exact forall_congr' fun location => not_congr ((names_faults key v).mem_iff location)

lemma mem_declared (key : Key) : key ∈ declared := by
  cases key <;> decide

def errorsIn (fields : Fields) (key : Key) : List FieldError :=
  match fields.get? key.name with
  | some v => (key.faults v).map fun e => { e with location := .name key.name :: e.location }
  | none => []

lemma errorsIn_of_get? (h : fields.get? key.name = some v) : key.errorsIn fields =
    (key.faults v).map fun e => { e with location := .name key.name :: e.location } := by
  rw [errorsIn, h]

lemma errorsIn_of_get?_none (h : fields.get? key.name = none) : key.errorsIn fields = [] := by
  rw [errorsIn, h]

lemma names_errorsIn (fields : Fields) (key : Key) : Names (key.errorsIn fields) fun location =>
    ∃ v steps, fields.get? key.name = some v ∧ key.Offends v steps ∧
      location = .name key.name :: steps := by
  cases hget : fields.get? key.name with
  | none =>
    rw [errorsIn_of_get?_none hget]
    exact ⟨by simp, .nil, nofun⟩
  | some v =>
    have hnames := names_faults key v
    have hlocations : (key.errorsIn fields).map FieldError.location =
        ((key.faults v).map FieldError.location).map (.name key.name :: ·) := by
      simp [errorsIn_of_get? hget]
    have hproblems : ∀ e ∈ key.errorsIn fields, e.problem ≠ .conflictingPreferences := by
      simpa [errorsIn_of_get? hget] using hnames.noConflict
    refine ⟨fun location => ?_, ?_, hproblems⟩
    · rw [hlocations, List.mem_map]
      constructor
      · rintro ⟨steps, hsteps, rfl⟩
        exact ⟨v, steps, rfl, (hnames.mem_iff steps).mp hsteps, rfl⟩
      · rintro ⟨w, steps, hw, hoffends, rfl⟩
        obtain rfl := Option.some.inj hw
        exact ⟨steps, (hnames.mem_iff steps).mpr hoffends, rfl⟩
    · rw [hlocations, List.pairwise_map]
      exact hnames.ordered.imp .cons

end Key

/-- Everything that is wrong with single fields, in the order of the keys. -/
def fieldErrors (fields : Fields) : List FieldError := Key.declared.flatMap (Key.errorsIn fields)

lemma names_fieldErrors (fields : Fields) : Names (fieldErrors fields) (OffendsAt fields) where
  mem_iff location := by
    have hmem (key : Key) := (key.names_errorsIn fields).mem_iff location
    rw [fieldErrors, List.map_flatMap, List.mem_flatMap]
    constructor
    · rintro ⟨key, -, hkey⟩
      exact ⟨key, (hmem key).mp hkey⟩
    · rintro ⟨key, hkey⟩
      exact ⟨key, key.mem_declared, (hmem key).mpr hkey⟩
  ordered := by
    have hdeclared : Key.declared.Pairwise fun key other => key.position < other.position := by
      decide
    rw [fieldErrors, List.map_flatMap, List.pairwise_flatMap]
    refine ⟨fun key _ => (key.names_errorsIn fields).ordered, hdeclared.imp ?_⟩
    intro key other hearlier location hlocation later hlater
    have hkey := (key.names_errorsIn fields).mem_iff location
    have hother := (other.names_errorsIn fields).mem_iff later
    obtain ⟨-, -, -, -, rfl⟩ := hkey.mp hlocation
    obtain ⟨-, -, -, -, rfl⟩ := hother.mp hlater
    exact .rel (.key hearlier)
  noConflict e he := by
    obtain ⟨key, -, hkey⟩ := List.mem_flatMap.mp he
    exact (key.names_errorsIn fields).noConflict e hkey

lemma fieldErrors_eq_nil_iff : fieldErrors fields = [] ↔ Fits fields := by
  have hkey (key : Key) : key.errorsIn fields = [] ↔
      ∀ v, fields.get? key.name = some v → key.Takes v := by
    cases hget : fields.get? key.name with
    | none => simp [Key.errorsIn_of_get?_none hget]
    | some v => simp [Key.errorsIn_of_get? hget, Key.faults_eq_nil_iff]
  rw [fieldErrors, List.flatMap_eq_nil_iff]
  constructor
  · intro h key
    exact (hkey key).mp (h key key.mem_declared)
  · intro h key _
    exact (hkey key).mpr (h key)

lemma exists_optional {name : String} {read : Value → Checked α}
    (h : ∀ v, fields.get? name = some v → ∃ a, read v = .ok a) (default : α) :
    ∃ a, Field.optional fields name read default = .ok a := by
  cases hget : fields.get? name with
  | none => exact ⟨default, (Field.optional_of_get?_none hget).mpr rfl⟩
  | some v =>
    obtain ⟨a, ha⟩ := h v hget
    exact ⟨a, (Field.optional_of_get? hget).mpr ha⟩

lemma Fits.exists_reads (h : Fits fields) : ∃ s, ReadsFields fields s := by
  have hhostsTaken := fun v hv => Key.exists_list_of_takes (h .probeHosts v hv)
  have hportTaken := fun v hv => Key.takes_probePort_iff.mp (h .probePort v hv)
  have htimeoutTaken := fun v hv => Key.takes_probeTimeout_iff.mp (h .probeTimeout v hv)
  have hdefaultTaken := fun v hv => Key.takes_probePort_iff.mp (h .defaultPort v hv)
  have hmarkerTaken := fun v hv => Key.takes_hostOnlyMarker_iff.mp (h .hostOnlyMarker v hv)
  obtain ⟨preferIpv4, h4⟩ := exists_optional (h .preferIpv4) true
  obtain ⟨preferIpv6, h6⟩ := exists_optional (h .preferIpv6) false
  obtain ⟨probeHosts, hhosts⟩ := exists_optional hhostsTaken Defaults.probeHosts
  obtain ⟨probePort, hport⟩ := exists_optional hportTaken Defaults.probePort
  obtain ⟨probeTimeout, htimeout⟩ := exists_optional htimeoutTaken Defaults.probeTimeout
  obtain ⟨defaultPort, hdefault⟩ := exists_optional hdefaultTaken Defaults.port
  obtain ⟨hostOnlyMarker, hmarker⟩ := exists_optional hmarkerTaken Defaults.hostOnlyMarker
  exact ⟨⟨preferIpv4, preferIpv6, probeHosts, probePort, probeTimeout, defaultPort,
    hostOnlyMarker⟩, h4, h6, hhosts, hport, htimeout, hdefault, hmarker⟩

lemma errors_optional (key : Key) (read : Value → Checked α) (default : α)
    (hfaults : ∀ v, key.faults v = (read v).errors) :
    (Field.optional fields key.name read default).errors = key.errorsIn fields := by
  unfold Field.optional
  cases hget : fields.get? key.name with
  | none => exact (Key.errorsIn_of_get?_none hget).symm
  | some v =>
    rw [Key.errorsIn_of_get? hget, hfaults]
    exact Checked.errors_under _ _

def readAll (fields : Fields) :
    Checked (Bool × Bool × List String × Int × Float × Int × String) :=
  Checked.both (Field.optional fields Key.preferIpv4.name Field.bool true) <|
  Checked.both (Field.optional fields Key.preferIpv6.name Field.bool false) <|
  Checked.both
    (Field.optional fields Key.probeHosts.name (Field.list Field.text) Defaults.probeHosts) <|
  Checked.both (Field.optional fields Key.probePort.name Field.portNumber Defaults.probePort) <|
  Checked.both
    (Field.optional fields Key.probeTimeout.name Field.positiveNumber Defaults.probeTimeout) <|
  Checked.both (Field.optional fields Key.defaultPort.name Field.portNumber Defaults.port) <|
  Field.optional fields Key.hostOnlyMarker.name Field.nonemptyText Defaults.hostOnlyMarker

lemma errors_readAll (fields : Fields) : (readAll fields).errors = fieldErrors fields := by
  simp only [readAll, Checked.errors_both]
  rw [errors_optional .preferIpv4 Field.bool true fun _ => rfl,
    errors_optional .preferIpv6 Field.bool false fun _ => rfl,
    errors_optional .probeHosts (Field.list Field.text) Defaults.probeHosts fun _ => rfl,
    errors_optional .probePort Field.portNumber Defaults.probePort fun _ => rfl,
    errors_optional .probeTimeout Field.positiveNumber Defaults.probeTimeout fun _ => rfl,
    errors_optional .defaultPort Field.portNumber Defaults.port fun _ => rfl,
    errors_optional .hostOnlyMarker Field.nonemptyText Defaults.hostOnlyMarker fun _ => rfl]
  simp [fieldErrors, Key.declared]

lemma ofFields_of_unfit (h : ¬ Fits fields) : ofFields fields = .error (fieldErrors fields) := by
  have herrors := errors_readAll fields
  simp only [ofFields]
  split
  · next es heq =>
    have hread : readAll fields = .error es := heq
    rw [← herrors, hread]
    rfl
  · next heq =>
    have hread : readAll fields = .ok _ := heq
    rw [hread] at herrors
    exact absurd (fieldErrors_eq_nil_iff.mp herrors.symm) h

lemma ofFields_of_conflict (reads : ReadsFields fields s)
    (hboth : s.preferIpv4 = true ∧ s.preferIpv6 = true) :
    ofFields fields = .error [⟨[], .conflictingPreferences⟩] := by
  simp only [ofFields, reads.preferIpv4, reads.preferIpv6, reads.probeHosts, reads.probePort,
    reads.probeTimeout, reads.defaultPort, reads.hostOnlyMarker, Checked.both]
  rw [if_pos (by simpa using hboth)]
  rfl

lemma ReadsFields.prefersBoth_iff (reads : ReadsFields fields s) :
    PrefersBoth fields ↔ s.preferIpv4 = true ∧ s.preferIpv6 = true := by
  have h4 : Field.optional fields Key.preferIpv4.name Field.bool true = .ok s.preferIpv4 :=
    reads.preferIpv4
  have h6 : Field.optional fields Key.preferIpv6.name Field.bool false = .ok s.preferIpv6 :=
    reads.preferIpv6
  rw [PrefersBoth, h4, h6, Except.ok.injEq, Except.ok.injEq]

lemma readsFields_toFields (h : s.WellFormed) : ReadsFields s.toFields s := by
  have hhosts := Field.list_text_ofTexts s.probeHosts
  have hport : Field.portNumber (.int s.probePort) = .ok s.probePort :=
    Field.portNumber_eq_ok_iff.mpr ⟨rfl, h.probePort_bounds⟩
  have htimeout : Field.positiveNumber (.float s.probeTimeout) = .ok s.probeTimeout :=
    Field.positiveNumber_eq_ok_iff.mpr ⟨rfl, h.probeTimeout_pos⟩
  have hdefault : Field.portNumber (.int s.defaultPort) = .ok s.defaultPort :=
    Field.portNumber_eq_ok_iff.mpr ⟨rfl, h.defaultPort_bounds⟩
  have hmarker : Field.nonemptyText (.text s.hostOnlyMarker) = .ok s.hostOnlyMarker :=
    Field.nonemptyText_eq_ok_iff.mpr ⟨rfl, h.marker_ne_empty⟩
  constructor
  · exact (Field.optional_of_get? rfl).mpr rfl
  · exact (Field.optional_of_get? rfl).mpr rfl
  · exact (Field.optional_of_get? rfl).mpr hhosts
  · exact (Field.optional_of_get? rfl).mpr hport
  · exact (Field.optional_of_get? rfl).mpr htimeout
  · exact (Field.optional_of_get? rfl).mpr hdefault
  · exact (Field.optional_of_get? rfl).mpr hmarker

/-- Settings are built from fields exactly if every field that is given takes its value and, with the
defaults filled in, no more than one family is preferred. Fields that do not take their values are
named by the errors, exactly and in their order, and nothing else is; if there are none, the conflict
is the one error. Settings that are built are built again from their own fields. -/
theorem ofFields_validates (fields : Fields) :
    ((∃ s, ofFields fields = .ok s) ↔ Fits fields ∧ ¬ PrefersBoth fields) ∧
      (∀ errors, ofFields fields = .error errors →
        ¬ Fits fields ∧ errors ≠ [] ∧ Names errors (OffendsAt fields) ∨
          Fits fields ∧ PrefersBoth fields ∧ errors = [⟨[], .conflictingPreferences⟩]) ∧
      ∀ s, ofFields fields = .ok s → ReadsFields fields s ∧ ofFields s.toFields = .ok s := by
  have hstable : ∀ s, ofFields fields = .ok s →
      ReadsFields fields s ∧ ofFields s.toFields = .ok s := by
    intro s hs
    have hformed := wellFormed_of_ofFields hs
    have hreads := readsFields_toFields hformed
    have hagain : ofFields s.toFields = .ok s :=
      ofFields_eq_ok_iff.mpr ⟨hreads, hformed.one_preference⟩
    exact ⟨(ofFields_eq_ok_iff.mp hs).1, hagain⟩
  by_cases hfits : Fits fields
  · obtain ⟨s, reads⟩ := hfits.exists_reads
    by_cases hboth : PrefersBoth fields
    · have hconflict := ofFields_of_conflict reads (reads.prefersBoth_iff.mp hboth)
      have hunbuilt : ¬ ∃ s, ofFields fields = .ok s := by simp [hconflict]
      refine ⟨iff_of_false hunbuilt fun h => h.2 hboth, fun errors herrors => ?_, hstable⟩
      have herror := Except.error.inj (herrors.symm.trans hconflict)
      exact .inr ⟨hfits, hboth, herror⟩
    · have hs := ofFields_eq_ok_iff.mpr ⟨reads, mt reads.prefersBoth_iff.mpr hboth⟩
      exact ⟨iff_of_true ⟨s, hs⟩ ⟨hfits, hboth⟩, by simp [hs], hstable⟩
  · have hunfit := ofFields_of_unfit hfits
    have hunbuilt : ¬ ∃ s, ofFields fields = .ok s := by simp [hunfit]
    have hsome : fieldErrors fields ≠ [] := mt fieldErrors_eq_nil_iff.mp hfits
    refine ⟨iff_of_false hunbuilt fun h => hfits h.1, fun errors herrors => ?_, hstable⟩
    obtain rfl := Except.error.inj (hunfit.symm.trans herrors)
    exact .inl ⟨hfits, hsome, names_fieldErrors fields⟩

/-- Fields that are refused before the preferences are looked at, fields that are in conflict with a
default, and fields of other types that make settings. -/
theorem ofFields_validates_each_way :
    let unfit : Fields := [("default_port", .int 0),
      ("probe_hosts", .list [.text "a", .null, .int 3]), ("prefer_ipv6", .bool true)]
    let conflicting : Fields := [("prefer_ipv6", .text "Yes")]
    let fit : Fields := [("prefer_ipv4", .int 0), ("prefer_ipv6", .text "on"),
      ("probe_port", .text "+080.0")]
    (∃ errors, ofFields unfit = .error errors ∧
        errors.map FieldError.location = [[.name "probe_hosts", .index 1],
          [.name "probe_hosts", .index 2], [.name "default_port"]] ∧
        Names errors (OffendsAt unfit)) ∧
      (∃ errors, ofFields conflicting = .error errors ∧ Fits conflicting ∧
        errors = [⟨[], .conflictingPreferences⟩]) ∧
      ∃ s, ofFields fit = .ok s ∧ s.probePort = 80 ∧ ofFields s.toFields = .ok s := by
  intro unfit conflicting fit
  refine ⟨⟨_, rfl, rfl, ?_⟩, ⟨_, rfl, ?_, rfl⟩, ⟨_, rfl, rfl, ?_⟩⟩
  · obtain ⟨-, -, hnames⟩ | ⟨-, -, hconflict⟩ := (ofFields_validates unfit).2.1 _ rfl
    · exact hnames
    · cases hconflict
  · obtain ⟨-, -, hnames⟩ | ⟨hfits, -, -⟩ := (ofFields_validates conflicting).2.1 _ rfl
    · have hproblem := hnames.noConflict _ (List.mem_singleton_self _)
      exact absurd rfl hproblem
    · exact hfits
  · obtain ⟨-, -, hstable⟩ := ofFields_validates fit
    exact (hstable _ rfl).2

end HostDiscovery.Settings
