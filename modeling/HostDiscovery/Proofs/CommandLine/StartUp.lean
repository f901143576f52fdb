import HostDiscovery.CommandLine.Program
import HostDiscovery.Proofs.Log.Runs

/-! The set-up of logging at the start of a run, over any environment. A level that is not known
costs a warning, and everything that is logged goes to the error output. -/
namespace HostDiscovery

def LogLevel.named? (s : String) : Option LogLevel := ofName? (String.ofList (Text.upper s.toList))

namespace Logging

variable {logging : Logging} {level : LogLevel} {s : String}

/-- Records of the given level and above have one way to go, to the error output. -/
structure ErrorsAt (logging : Logging) (wanted : LogLevel) : Prop where
  configured : logging.configured = true
  level : logging.level = some wanted
  handler : ∃ h, logging.handlers = [h] ∧ h.level = wanted ∧ h.sink = .errors

lemma resolveLevel_of_named (hs : LogLevel.named? s = some level) :
    resolveLevel (.name s) = .ok level := by
  rw [LogLevel.named?] at hs
  rw [resolveLevel, hs]

lemma resolveLevel_of_not_named (hs : LogLevel.named? s = none) :
    ∃ e, resolveLevel (.name s) = .error e := by
  rw [LogLevel.named?] at hs
  rw [resolveLevel, hs]
  exact ⟨_, rfl⟩

lemma deliverBare_errors (threshold : LogLevel) (stamp : Stamp) (record : LogRecord) :
    ∀ line ∈ deliverBare threshold stamp record, line.1 = .errors := by
  intro line hline
  rw [deliverBare] at hline
  split at hline
  · cases hline
  · obtain ⟨text, -, rfl⟩ := Option.map_eq_some_iff.mp (Option.mem_toList.mp hline)
    rfl

lemma ErrorsAt.deliver (hl : logging.ErrorsAt level) (stamp : Stamp) (record : LogRecord) :
    ∀ line ∈ logging.deliver stamp record, line.1 = .errors := by
  intro line hline
  rw [Logging.deliver] at hline
  split at hline
  · exact deliverBare_errors _ _ _ line hline
  split at hline
  · exact deliverBare_errors _ _ _ line hline
  obtain ⟨h, htaken, hshown⟩ := List.mem_filterMap.mp hline
  obtain ⟨text, -, rfl⟩ := Option.map_eq_some_iff.mp hshown
  obtain ⟨only, honly, -, hsink⟩ := hl.handler
  have hmem : h ∈ logging.handlers := by
    rw [takers] at htaken
    split at htaken
    · cases htaken
    · exact (List.mem_filter.mp htaken).1
  rw [honly, List.mem_singleton] at hmem
  exact hmem ▸ hsink

lemma ErrorsAt.setLevel (hl : logging.ErrorsAt level) (wanted : LogLevel) :
    (logging.setLevel (.level wanted)).2.ErrorsAt wanted := by
  obtain ⟨h, hhandlers, -, hsink⟩ := hl.handler
  rw [setLevel_of_configured hl.configured]
  refine ⟨hl.configured, rfl, { h with level := wanted }, ?_, rfl, hsink⟩
  simp [resolveLevel, relevelled, hhandlers]

end Logging

namespace CommandLine.Program

open Logging (ErrorsAt)

variable {env : Environment} {logging : Logging} {level : LogLevel} {s : String}

/-- The level that is wanted of the log: everything for debugging, or what the environment names. -/
def wantedLevel (env : Environment) (debug : Bool) : LogLevel :=
  if debug then .debug
  else ((env.get? "RECORDER_LOG_LEVEL").bind LogLevel.named?).getD .warning

def levelWarning (env : Environment) : String :=
  match env.get? "RECORDER_LOG_LEVEL" with
  | none => ""
  | some s =>
    if (LogLevel.named? s).isSome then ""
    else "Warning: unknown RECORDER_LOG_LEVEL '" ++ s ++ "', using " ++ defaultLevel ++ "\n"

lemma configure_of_named (logging : Logging) (files : FileSystem)
    (hs : LogLevel.named? s = some level) :
    ∃ logging', Logging.configure (stderrLogging s) logging files = (.ok (), logging', files) ∧
      logging'.ErrorsAt level := by
  have hlevel : Logging.resolveLevel (stderrLogging s).level = .ok level :=
    Logging.resolveLevel_of_named hs
  rw [Logging.configure, hlevel]
  exact ⟨_, rfl, rfl, rfl, _, rfl, rfl, rfl⟩

lemma configure_of_not_named (logging : Logging) (files : FileSystem)
    (hs : LogLevel.named? s = none) :
    ∃ e, Logging.configure (stderrLogging s) logging files = (.error e, logging, files) := by
  obtain ⟨e, he⟩ := Logging.resolveLevel_of_not_named hs
  have hlevel : Logging.resolveLevel (stderrLogging s).level = .error e := he
  rw [Logging.configure, hlevel]
  exact ⟨e, rfl⟩

lemma named_defaultLevel : LogLevel.named? defaultLevel = some .warning := by decide +kernel

lemma exists_setUpLevel (env : Environment) (logging : Logging) (files : FileSystem) :
    ∃ logging', setUpLevel env logging files = (levelWarning env, logging') ∧
      logging'.ErrorsAt (wantedLevel env false) := by
  obtain ⟨fallback, hfallback, hdefault⟩ := configure_of_named logging files named_defaultLevel
  rw [setUpLevel, levelWarning, wantedLevel]
  cases hs : env.get? "RECORDER_LOG_LEVEL" with
  | none =>
    refine ⟨fallback, ?_, hdefault⟩
    dsimp only [Option.getD_none]
    rw [hfallback]
  | some s =>
    cases hnamed : LogLevel.named? s with
    | some level =>
      obtain ⟨logging', hconfigure, herrors⟩ := configure_of_named logging files hnamed
      refine ⟨logging', ?_, by simpa [hnamed] using herrors⟩
      dsimp only [Option.getD_some]
      rw [hconfigure, hnamed]
      rfl
    | none =>
      obtain ⟨e, hconfigure⟩ := configure_of_not_named logging files hnamed
      refine ⟨fallback, ?_, by simpa [hnamed] using hdefault⟩
      dsimp only [Option.getD_some]
      rw [hconfigure, hnamed]
      dsimp only
      rw [hfallback]
      rfl

lemma exists_setUpLogging (env : Environment) (debug : Bool) (files : FileSystem)
    (hl : logging.configured = false) :
    ∃ logging', setUpLogging env debug logging files = (levelWarning env, logging') ∧
      logging'.ErrorsAt (wantedLevel env debug) := by
  obtain ⟨ready, hready, herrors⟩ := exists_setUpLevel env logging files
  rw [setUpLogging, if_neg (by simp [hl]), hready]
  cases debug with
  | false => exact ⟨ready, rfl, herrors⟩
  | true => exact ⟨_, rfl, herrors.setLevel .debug⟩

end CommandLine.Program

end HostDiscovery
