import HostDiscovery.Proofs.Log.Runs

/-! What a failed configuration leaves. A level that is not known is found before anything is done;
an output or a format that cannot be used is found after the old handlers were closed. -/
namespace HostDiscovery.Logging

/-- Level, installed handlers and the mark of a configuration are the same, and the handlers are
open. -/
structure Unchanged (s s' : Logging) : Prop where
  level_eq : s'.level = s.level
  handlers_eq : s'.handlers = s.handlers
  opened : ∀ h ∈ s.handlers, h.id ∉ s'.closed
  configured_eq : s'.configured = s.configured

variable {s s' : Logging} {c : LogConfiguration} {files : FileSystem} {e : Fault}

lemma Sound.unchanged_self (hs : Sound s) : Unchanged s s := ⟨rfl, rfl, hs.opened, rfl⟩

lemma unchanged_cleared_iff (s : Logging) (level : LogLevel) :
    Unchanged s (s.cleared level) ↔ s.handlers = [] ∧ s.level = some level := by
  constructor
  · intro h
    exact ⟨h.handlers_eq.symm, h.level_eq.symm⟩
  · rintro ⟨hhandlers, hlevel⟩
    refine ⟨hlevel.symm, hhandlers.symm, ?_, rfl⟩
    simp [hhandlers]

lemma Configuration.error_cases (h : Configuration s c files (.error e) s') :
    (s' = s ∧ ∀ level, resolveLevel c.level ≠ .ok level) ∨
      ∃ level, resolveLevel c.level = .ok level ∧ s' = s.cleared level := by
  cases h with
  | rejected unknown => exact .inl ⟨rfl, fun level hlevel => by simp [unknown] at hlevel⟩
  | unopened known | unformatted known => exact .inr ⟨_, known, rfl⟩

lemma Configuration.unchanged_iff (hs : Sound s) (h : Configuration s c files (.error e) s') :
    Unchanged s s' ↔
      ∀ level, resolveLevel c.level = .ok level → s.handlers = [] ∧ s.level = some level := by
  rcases h.error_cases with ⟨rfl, hunknown⟩ | ⟨level, hlevel, rfl⟩
  · exact iff_of_true hs.unchanged_self fun level hlevel => absurd hlevel (hunknown level)
  · rw [unchanged_cleared_iff]
    constructor
    · intro hcleared other hother
      rwa [← Except.ok.inj (hlevel.symm.trans hother)]
    · exact fun h => h level hlevel

/-- After any calls, a configuration that fails leaves level, handlers and mark as they were exactly
if its level is not known, or if there was no handler and the level was set already. -/
theorem configure_unchanged_iff (operations : List Operation) (c : LogConfiguration)
    (files : FileSystem) {e : Fault} (h : ((after operations).configure c files).1 = .error e) :
    Unchanged (after operations) ((after operations).configure c files).2.1 ↔
      ∀ level, resolveLevel c.level = .ok level →
        (after operations).handlers = [] ∧ (after operations).level = some level := by
  have hc := configure_configuration (after operations) c files
  rw [h] at hc
  exact hc.unchanged_iff (sound_after operations)

/-- A level that is not known keeps the handler that is installed. -/
theorem configure_unchanged_unknown_level :
    let operations := [.configure { target := .stream "first" } {}]
    let c : LogConfiguration := { level := .name "LOUD", target := .stream "second" }
    ((after operations).configure c {}).1 = .error (.unknownLevel "LOUD") ∧
      Unchanged (after operations) ((after operations).configure c {}).2.1 := by
  intro operations c
  have hunknown : resolveLevel c.level = .error (.unknownLevel "LOUD") := rfl
  have hfails : ((after operations).configure c {}).1 = .error (.unknownLevel "LOUD") := rfl
  refine ⟨hfails, (configure_unchanged_iff operations c {} hfails).mpr fun level hlevel => ?_⟩
  rw [hunknown] at hlevel
  nomatch hlevel

/-- An output of a type that nothing can be written to is refused when the handler that was
installed is gone. -/
theorem configure_unsupported_not_unchanged :
    ¬ ∀ operations c files e, ((after operations).configure c files).1 = .error e →
      Unchanged (after operations) ((after operations).configure c files).2.1 := by
  intro hunchanged
  have h := hunchanged [.configure { target := .stream "first" } {}]
    { level := .level .error, target := .unsupported "int" } {} (.unsupportedTarget "int") rfl
  exact List.cons_ne_nil _ _ h.handlers_eq.symm

end HostDiscovery.Logging
