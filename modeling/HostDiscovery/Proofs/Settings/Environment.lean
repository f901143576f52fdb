import HostDiscovery.Proofs.Session
import HostDiscovery.Proofs.Settings.Fields
import HostDiscovery.Settings.Environment

/-! Settings from any environment. Two of the four variables can be unusable, each at two places:
the text does not convert, or its value is out of bounds. In either case all four count as unset,
and one warning says so. -/
namespace HostDiscovery

namespace Environment

section

variable {α : Type} (convert : Text → Option α) (env : Environment) (name : String) (default : α)

/-- A variable is not set, or its text converts. -/
def Converts : Prop := ∀ v, env.get? name = some v → ∃ a, convert v.toList = some a

/-- The value of a variable that is set and converts, else the default. -/
def valueOr : α := ((env.get? name).bind fun v => convert v.toList).getD default

def lookRecord : LogRecord where
  level := .debug
  logger := Environment.logger
  message := "ENV GET " ++ name ++ "=" ++ (env.get? name).getD "None"

end

variable {α ε : Type} {convert : Text → Option α} {env : Environment} {name : String} {default : α}

lemma forall_convert_iff (convert : Text → Option α) (env : Environment) (name : String)
    {P : α → Prop} (hdefault : P default) :
    (∀ v, env.get? name = some v → ∃ a, convert v.toList = some a ∧ P a) ↔
      Converts convert env name ∧ P (valueOr convert env name default) := by
  unfold Converts valueOr
  cases env.get? name with
  | none => simpa using hdefault
  | some v =>
    cases hv : convert v.toList with
    | none => simp [hv]
    | some a => simp [hv]

lemma look_logs : (env.look name : Act ε (Option String)).Logs (.ok (env.get? name))
    [lookRecord env name] :=
  (Act.logs_log _ _ _).bind (Act.logs_pure _)

lemma readBy_logs (kind : Kind) (default : α) (h : Converts convert env name) :
    (readBy convert kind env name default).Logs (.ok (valueOr convert env name default))
      [lookRecord env name] := by
  refine look_logs.bind ?_
  unfold valueOr
  cases hv : env.get? name with
  | none => exact Act.logs_pure _
  | some v =>
    obtain ⟨a, ha⟩ := h v hv
    have hpure := Act.logs_pure (ε := Fault) a
    simpa [ha] using hpure

lemma exists_readBy_logs_error (kind : Kind) (default : α) (h : ¬ Converts convert env name) :
    ∃ fault, (readBy convert kind env name default).Logs (.error fault) [lookRecord env name] := by
  obtain ⟨v, hv, hnone⟩ : ∃ v, env.get? name = some v ∧ convert v.toList = none := by
    simpa [Converts, Option.eq_none_iff_forall_ne_some] using h
  let fault : Fault := { name, value := v, expected := kind }
  have hfail := Act.logs_fail (α := α) fault
  refine ⟨fault, look_logs.bind ?_⟩
  simpa [hv, hnone] using hfail

end Environment

namespace Settings

open Environment

/-- The variables that can be unusable are not. -/
structure Usable (env : Environment) : Prop where
  timeout : ∀ v, env.get? "RECORDER_PROBE_TIMEOUT" = some v →
    ∃ x, number? v.toList = some x ∧ 0 < x
  port : ∀ v, env.get? "RECORDER_DEFAULT_PORT" = some v →
    ∃ p, integer? v.toList = some p ∧ 1 ≤ p ∧ p ≤ 65535

/-- The defaults with the value of each variable in place of its setting. -/
def overlaid (env : Environment) : Settings :=
  let unset : Settings := {}
  let preferIpv6 := valueOr (some ∘ flag) env "RECORDER_PREFER_IPV6" unset.preferIpv6
  { unset with
    preferIpv4 := !preferIpv6
    preferIpv6
    probeHosts := valueOr (fun s => some ((items s).map String.ofList)) env "RECORDER_PROBE_HOSTS"
      unset.probeHosts
    probeTimeout := valueOr number? env "RECORDER_PROBE_TIMEOUT" unset.probeTimeout
    defaultPort := valueOr integer? env "RECORDER_DEFAULT_PORT" unset.defaultPort }

variable {env : Environment}

lemma usable_iff :
    Usable env ↔
      (Converts number? env "RECORDER_PROBE_TIMEOUT" ∧ 0 < (overlaid env).probeTimeout) ∧
      Converts integer? env "RECORDER_DEFAULT_PORT" ∧
        1 ≤ (overlaid env).defaultPort ∧ (overlaid env).defaultPort ≤ 65535 := by
  have htimeout : (0 : Float) < Defaults.probeTimeout := by decide
  have hport : 1 ≤ Defaults.port ∧ Defaults.port ≤ 65535 := by decide
  have htimeouts := forall_convert_iff number? env "RECORDER_PROBE_TIMEOUT"
    (P := fun x => 0 < x) htimeout
  have hports := forall_convert_iff integer? env "RECORDER_DEFAULT_PORT"
    (P := fun p => 1 ≤ p ∧ p ≤ 65535) hport
  constructor
  · rintro ⟨timeout, port⟩
    exact ⟨htimeouts.mp timeout, hports.mp port⟩
  · rintro ⟨timeout, port⟩
    exact ⟨htimeouts.mpr timeout, hports.mpr port⟩

def environmentFields (preferIpv6 : Bool) (probeHosts : List String) (probeTimeout : Float)
    (defaultPort : Int) : Fields :=
  [("prefer_ipv4", .bool !preferIpv6), ("prefer_ipv6", .bool preferIpv6),
    ("probe_hosts", Value.ofTexts probeHosts), ("probe_timeout", .float probeTimeout),
    ("default_port", .int defaultPort)]

lemma ofFields_environmentFields_iff {preferIpv6 : Bool} {probeHosts : List String}
    {probeTimeout : Float} {defaultPort : Int} {s : Settings} :
    ofFields (environmentFields preferIpv6 probeHosts probeTimeout defaultPort) = .ok s ↔
      (0 < probeTimeout ∧ 1 ≤ defaultPort ∧ defaultPort ≤ 65535) ∧
        s = { preferIpv4 := !preferIpv6, preferIpv6, probeHosts, probeTimeout, defaultPort } := by
  rw [ofFields_eq_ok_iff]
  constructor
  · rintro ⟨reads, -⟩
    have h4 := (Field.optional_of_get? rfl).mp reads.preferIpv4
    have h6 := (Field.optional_of_get? rfl).mp reads.preferIpv6
    have hhosts := (Field.optional_of_get? rfl).mp reads.probeHosts
    have hport := (Field.optional_of_get?_none rfl).mp reads.probePort
    have htimeout := (Field.optional_of_get? rfl).mp reads.probeTimeout
    have hdefault := (Field.optional_of_get? rfl).mp reads.defaultPort
    have hmarker := (Field.optional_of_get?_none rfl).mp reads.hostOnlyMarker
    rw [Field.positiveNumber_eq_ok_iff] at htimeout
    rw [Field.portNumber_eq_ok_iff] at hdefault
    rw [Field.list_text_ofTexts] at hhosts
    obtain ⟨htimeout, hpos⟩ := htimeout
    obtain ⟨hdefault, hbounds⟩ := hdefault
    rcases s with ⟨ipv4, ipv6, hosts, port, timeout, default, marker⟩
    obtain rfl : (!preferIpv6) = ipv4 := Except.ok.inj h4
    obtain rfl : preferIpv6 = ipv6 := Except.ok.inj h6
    obtain rfl : probeHosts = hosts := Except.ok.inj hhosts
    obtain rfl : Defaults.probePort = port := hport
    obtain rfl : probeTimeout = timeout := Except.ok.inj htimeout
    obtain rfl : defaultPort = default := Except.ok.inj hdefault
    obtain rfl : Defaults.hostOnlyMarker = marker := hmarker
    exact ⟨⟨hpos, hbounds⟩, rfl⟩
  · rintro ⟨⟨hpos, hbounds⟩, rfl⟩
    have hone : ¬ ((!preferIpv6) = true ∧ preferIpv6 = true) := by cases preferIpv6 <;> simp
    have hhosts := Field.list_text_ofTexts probeHosts
    have htimeout : Field.positiveNumber (.float probeTimeout) = .ok probeTimeout :=
      Field.positiveNumber_eq_ok_iff.mpr ⟨rfl, hpos⟩
    have hport : Field.portNumber (.int defaultPort) = .ok defaultPort :=
      Field.portNumber_eq_ok_iff.mpr ⟨rfl, hbounds⟩
    refine ⟨?_, hone⟩
    constructor
    · exact (Field.optional_of_get? rfl).mpr rfl
    · exact (Field.optional_of_get? rfl).mpr rfl
    · exact (Field.optional_of_get? rfl).mpr hhosts
    · exact (Field.optional_of_get?_none rfl).mpr rfl
    · exact (Field.optional_of_get? rfl).mpr htimeout
    · exact (Field.optional_of_get? rfl).mpr hport
    · exact (Field.optional_of_get?_none rfl).mpr rfl

def fieldsOf (env : Environment) : Fields :=
  environmentFields (overlaid env).preferIpv6 (overlaid env).probeHosts
    (overlaid env).probeTimeout (overlaid env).defaultPort

lemma ofFields_fieldsOf (h : Usable env) : ofFields (fieldsOf env) = .ok (overlaid env) := by
  obtain ⟨⟨-, hpos⟩, -, hbounds⟩ := usable_iff.mp h
  exact ofFields_environmentFields_iff.mpr ⟨⟨hpos, hbounds⟩, rfl⟩

lemma exists_ofFields_fieldsOf_error (htimeout : Converts number? env "RECORDER_PROBE_TIMEOUT")
    (hport : Converts integer? env "RECORDER_DEFAULT_PORT") (h : ¬ Usable env) :
    ∃ errors, ofFields (fieldsOf env) = .error errors := by
  cases hset : ofFields (fieldsOf env) with
  | error errors => exact ⟨errors, rfl⟩
  | ok s =>
    obtain ⟨⟨hpos, hbounds⟩, -⟩ := ofFields_environmentFields_iff.mp hset
    have husable : Usable env := usable_iff.mpr ⟨⟨htimeout, hpos⟩, hport, hbounds⟩
    exact absurd husable h

lemma exists_read_logs (env : Environment) :
    ∃ r looks, (read env).Logs r looks ∧ (∀ record ∈ looks, record.level = .debug) ∧
      ((Usable env ∧ r = .ok (overlaid env)) ∨ (¬ Usable env ∧ ∃ fault, r = .error fault)) := by
  have hflag : Converts (fun s => some (flag s)) env "RECORDER_PREFER_IPV6" :=
    fun v _ => ⟨flag v.toList, rfl⟩
  have hhosts : Converts (fun s => some ((items s).map String.ofList)) env
      "RECORDER_PROBE_HOSTS" := fun v _ => ⟨(items v.toList).map String.ofList, rfl⟩
  have hflagRun := (readBy_logs .flag false hflag).mapError Fault.unreadable
  have hhostsRun := (readBy_logs .list Defaults.probeHosts hhosts).mapError Fault.unreadable
  by_cases htimeout : Converts number? env "RECORDER_PROBE_TIMEOUT"
  · have htimeoutRun := (readBy_logs .number Defaults.probeTimeout htimeout).mapError
      Fault.unreadable
    by_cases hport : Converts integer? env "RECORDER_DEFAULT_PORT"
    · have hportRun := (readBy_logs .integer Defaults.port hport).mapError Fault.unreadable
      have hbuilt := Act.logs_ofExcept ((ofFields (fieldsOf env)).mapError Fault.invalid)
      refine ⟨_, _, hflagRun.bind <| hhostsRun.bind <| htimeoutRun.bind <| hportRun.bind hbuilt,
        ?_, ?_⟩
      · simp [lookRecord]
      · by_cases hu : Usable env
        · rw [ofFields_fieldsOf hu]
          exact .inl ⟨hu, rfl⟩
        · obtain ⟨errors, he⟩ := exists_ofFields_fieldsOf_error htimeout hport hu
          rw [he]
          exact .inr ⟨hu, .invalid errors, rfl⟩
    · obtain ⟨fault, hfault⟩ := exists_readBy_logs_error .integer Defaults.port hport
      have hportRun := hfault.mapError Fault.unreadable
      have hunusable : ¬ Usable env := fun h => hport (usable_iff.mp h).2.1
      refine ⟨_, _, hflagRun.bind <| hhostsRun.bind <| htimeoutRun.bind hportRun.bind_error,
        ?_, .inr ⟨hunusable, .unreadable fault, rfl⟩⟩
      simp [lookRecord]
  · obtain ⟨fault, hfault⟩ :=
      exists_readBy_logs_error .number Defaults.probeTimeout htimeout
    have htimeoutRun := hfault.mapError Fault.unreadable
    have hunusable : ¬ Usable env := fun h => htimeout (usable_iff.mp h).1.1
    refine ⟨_, _, hflagRun.bind <| hhostsRun.bind htimeoutRun.bind_error, ?_,
      .inr ⟨hunusable, .unreadable fault, rfl⟩⟩
    simp [lookRecord]

lemma wellFormed_default : ({} : Settings).WellFormed := wellFormed_of_ofFields ofFields_nil

/-- Settings are read from every environment, without a failure. They have the value of every
variable if all are usable, and then nothing but look-ups is logged; else they are the defaults,
and one warning is logged beside the look-ups. -/
theorem readOrDefault_total {ε : Type} (env : Environment) (s : Session) :
    ∃ settings new, (readOrDefault env : Act ε Settings) s =
        (.ok settings, { s with records := s.records ++ new }) ∧
      ((Usable env ∧ settings = overlaid env ∧ new.filter (·.level ≠ .debug) = []) ∨
        (¬ Usable env ∧ settings = {} ∧ ∃ fault : Fault, new.filter (·.level ≠ .debug) =
          [{ level := .warning, logger := Settings.logger, message := fault.warning }])) ∧
      settings.WellFormed := by
  obtain ⟨r, looks, hread, hlooks, hcases⟩ := exists_read_logs env
  have hquiet : looks.filter (·.level ≠ .debug) = [] := by
    simpa [List.filter_eq_nil_iff] using hlooks
  rcases hcases with ⟨hu, rfl⟩ | ⟨hu, fault, rfl⟩
  · have hrun : (readOrDefault env : Act ε Settings).Logs (.ok (overlaid env)) (looks ++ []) :=
      hread.attempt.bind (Act.logs_pure _)
    have hwell : (overlaid env).WellFormed := wellFormed_of_ofFields (ofFields_fieldsOf hu)
    refine ⟨_, _, hrun s, .inl ⟨hu, rfl, ?_⟩, hwell⟩
    rw [List.append_nil, hquiet]
  · have hrun : (readOrDefault env : Act ε Settings).Logs (.ok {}) (looks ++ ([_] ++ [])) :=
      hread.attempt.bind ((Act.logs_log .warning Settings.logger fault.warning).bind
        (Act.logs_pure _))
    refine ⟨_, _, hrun s, .inr ⟨hu, rfl, fault, ?_⟩, wellFormed_default⟩
    rw [List.filter_append, hquiet]
    rfl

end Settings

end HostDiscovery
