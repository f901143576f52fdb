import HostDiscovery.Log.Logging
import HostDiscovery.Proofs.Log.Tree
import Mathlib.Data.List.Induction

/-! Logging over any sequence of calls, those that fail among them. A call leaves the state as it
is, clears the handlers, installs one, or sets all levels to a new one; what each of these keeps
holds after every sequence of calls. -/
namespace HostDiscovery.Logging

inductive Operation
  | configure (c : LogConfiguration) (files : FileSystem)
  | setLevel (choice : LevelChoice)
  | get (name : Option String)
  | child (name : Option String)
  | isConfigured

def Operation.run (s : Logging) : Operation → Except Fault Unit × Logging
  | configure c files => ((s.configure c files).1, (s.configure c files).2.1)
  | setLevel choice => s.setLevel choice
  | get name =>
    match s.get name with
    | .ok (_, s) => (.ok (), s)
    | .error e => (.error e, s)
  | child name => (.ok (), (s.child name).2)
  | isConfigured => (.ok (), s)

def Operation.next (s : Logging) (operation : Operation) : Logging := (operation.run s).2

def after (operations : List Operation) : Logging := operations.foldl Operation.next {}

def HasConfigured (operations : List Operation) : Prop :=
  ∃ earlier c files later, operations = earlier ++ .configure c files :: later ∧
    ((after earlier).configure c files).1 = .ok ()

def relevelled (s : Logging) (level : LogLevel) : Logging :=
  { s with
    level := some level
    handlers := s.handlers.map fun h => { h with level } }

inductive Configuration (s : Logging) (c : LogConfiguration) (files : FileSystem) :
    Except Fault Unit → Logging → Prop
  | rejected {e : Fault} (unknown : resolveLevel c.level = .error e) :
      Configuration s c files (.error e) s
  | unopened {level : LogLevel} {e : Fault} (known : resolveLevel c.level = .ok level)
      (opening : (openSink c.target files).1 = .error e) :
      Configuration s c files (.error e) (s.cleared level)
  | unformatted {level : LogLevel} {sink : Sink} {e : Fault}
      (known : resolveLevel c.level = .ok level) (opening : (openSink c.target files).1 = .ok sink)
      (chosen : chosenFormat c = .error e) :
      Configuration s c files (.error e) (s.cleared level)
  | installed {level : LogLevel} {sink : Sink} {format : LogFormat}
      (known : resolveLevel c.level = .ok level) (opening : (openSink c.target files).1 = .ok sink)
      (chosen : chosenFormat c = .ok format) :
      Configuration s c files (.ok ()) ((s.cleared level).install sink level format)

inductive Step (s : Logging) : Logging → Prop
  | idle : Step s s
  | named (name : Option String) : Step s (s.child name).2
  | cleared (level : LogLevel) : Step s (s.cleared level)
  | installed (level : LogLevel) (sink : Sink) (format : LogFormat) :
      Step s ((s.cleared level).install sink level format)
  | relevelled (level : LogLevel) : Step s (s.relevelled level)

variable {s s' : Logging} {operations : List Operation} {c : LogConfiguration}
  {files : FileSystem} {r : Except Fault Unit}

lemma configure_configuration (s : Logging) (c : LogConfiguration) (files : FileSystem) :
    Configuration s c files (s.configure c files).1 (s.configure c files).2.1 := by
  unfold configure
  cases hlevel : resolveLevel c.level with
  | error e => exact .rejected hlevel
  | ok level =>
    rcases hopen : openSink c.target files with ⟨e | sink, fs⟩
    · exact .unopened hlevel (by rw [hopen])
    · have hsink : (openSink c.target files).1 = .ok sink := by rw [hopen]
      cases hformat : chosenFormat c with
      | error e => exact .unformatted hlevel hsink hformat
      | ok format => exact .installed hlevel hsink hformat

lemma resolveLevel_ne_notConfigured (choice : LevelChoice) :
    resolveLevel choice ≠ .error .notConfigured := by
  cases choice with
  | level level => simp [resolveLevel]
  | name s =>
    unfold resolveLevel
    dsimp only
    split <;> simp

lemma setLevel_of_configured (hs : s.configured = true) (choice : LevelChoice) :
    s.setLevel choice =
      match resolveLevel choice with
      | .error e => (.error e, s)
      | .ok level => (.ok (), s.relevelled level) := by
  rw [setLevel, if_neg (by simp [hs])]
  rfl

lemma setLevel_of_not_configured (hs : s.configured = false) (choice : LevelChoice) :
    s.setLevel choice = (.error .notConfigured, s) := by
  rw [setLevel, hs]
  rfl

lemma get_eq_notConfigured_iff (name : Option String) :
    s.get name = .error .notConfigured ↔ s.configured = false := by
  cases hs : s.configured <;> simp [get, hs]

lemma setLevel_notConfigured_iff (choice : LevelChoice) :
    (s.setLevel choice).1 = .error .notConfigured ↔ s.configured = false := by
  cases hs : s.configured with
  | false => simp [setLevel_of_not_configured hs]
  | true =>
    have hne := resolveLevel_ne_notConfigured choice
    rw [setLevel_of_configured hs]
    cases hlevel : resolveLevel choice with
    | error e => simpa [hlevel] using hne
    | ok level => simp

lemma Configuration.step (h : Configuration s c files r s') : Step s s' := by
  cases h with
  | rejected => exact .idle
  | unopened | unformatted => exact .cleared _
  | installed => exact .installed _ _ _

lemma step_next (s : Logging) (operation : Operation) : Step s (operation.next s) := by
  cases operation with
  | configure c files => exact (configure_configuration s c files).step
  | setLevel choice =>
    rw [Operation.next, Operation.run]
    cases hs : s.configured with
    | false =>
      rw [setLevel_of_not_configured hs]
      exact .idle
    | true =>
      rw [setLevel_of_configured hs]
      cases resolveLevel choice with
      | error e => exact .idle
      | ok level => exact .relevelled level
  | get name =>
    rw [Operation.next, Operation.run, get]
    cases s.configured with
    | false => exact .idle
    | true => exact .named name
  | child name => exact .named name
  | isConfigured => exact .idle

def Accounted (s : Logging) (id : Nat) : Prop := (∃ h ∈ s.handlers, h.id = id) ∨ id ∈ s.closed

/-- What every call keeps. -/
structure Sound (s : Logging) : Prop where
  single : s.handlers.length ≤ 1
  level_eq : ∀ h ∈ s.handlers, s.level = some h.level
  id_lt : ∀ h ∈ s.handlers, h.id < s.nextId
  closed_lt : ∀ id ∈ s.closed, id < s.nextId
  opened : ∀ h ∈ s.handlers, h.id ∉ s.closed
  root_known : rootLogger ∈ s.loggers

lemma sound_initial : Sound {} := by
  constructor <;> simp

lemma Sound.closed_cleared_lt (hs : Sound s) (level : LogLevel) :
    ∀ id ∈ (s.cleared level).closed, id < s.nextId := by
  intro id hid
  rcases List.mem_append.mp hid with hid | hid
  · exact hs.closed_lt id hid
  · obtain ⟨h, hh, rfl⟩ := List.mem_map.mp hid
    exact hs.id_lt h hh

lemma Step.sound (h : Step s s') (hs : Sound s) : Sound s' := by
  cases h with
  | idle => exact hs
  | named name =>
    have hroot : rootLogger ∈ childLogger name :: s.loggers :=
      List.mem_cons_of_mem _ hs.root_known
    exact ⟨hs.single, hs.level_eq, hs.id_lt, hs.closed_lt, hs.opened, hroot⟩
  | cleared level =>
    refine ⟨?_, ?_, ?_, hs.closed_cleared_lt level, ?_, hs.root_known⟩ <;> simp [Logging.cleared]
  | installed level sink format =>
    have hclosed := hs.closed_cleared_lt level
    refine ⟨?_, ?_, ?_, ?_, ?_, hs.root_known⟩
    · simp [install, Logging.cleared]
    · simp [install, Logging.cleared]
    · simp [install, Logging.cleared]
    · exact fun id hid => Nat.lt_succ_of_lt (hclosed id hid)
    · intro h hh hid
      obtain rfl : h = { id := s.nextId, sink, level, format } := by
        simpa [install, Logging.cleared] using hh
      exact Nat.lt_irrefl _ (hclosed _ hid)
  | relevelled level =>
    refine ⟨?_, ?_, ?_, hs.closed_lt, ?_, hs.root_known⟩
    · simpa [Logging.relevelled] using hs.single
    · simp [Logging.relevelled]
    · simpa [Logging.relevelled] using hs.id_lt
    · simpa [Logging.relevelled] using hs.opened

lemma accounted_cleared {id : Nat} (hid : Accounted s id) (level : LogLevel) :
    id ∈ (s.cleared level).closed := by
  rcases hid with ⟨h, hh, rfl⟩ | hid
  · exact List.mem_append_right _ (List.mem_map_of_mem hh)
  · exact List.mem_append_left _ hid

lemma Step.accounted (h : Step s s') {id : Nat} (hid : Accounted s id) : Accounted s' id := by
  cases h with
  | idle | named => exact hid
  | cleared level => exact .inr (accounted_cleared hid level)
  | installed level sink format => exact .inr (accounted_cleared hid level)
  | relevelled level =>
    refine hid.imp_left ?_
    rintro ⟨h, hh, rfl⟩
    exact ⟨{ h with level }, List.mem_map_of_mem hh, rfl⟩

lemma after_snoc (operations : List Operation) (operation : Operation) :
    after (operations ++ [operation]) = operation.next (after operations) := by
  simp [after]

lemma after_induction {P : Logging → Prop} (start : P {}) (step : ∀ {s s'}, Step s s' → P s → P s')
    (operations : List Operation) : P (after operations) := by
  induction operations using List.reverseRecOn with
  | nil => exact start
  | append_singleton operations operation ih =>
    rw [after_snoc]
    exact step (step_next _ operation) ih

lemma sound_after (operations : List Operation) : Sound (after operations) :=
  after_induction sound_initial Step.sound operations

lemma accounted_after {earlier : List Operation} {h : Handler}
    (hh : h ∈ (after earlier).handlers) (later : List Operation) :
    Accounted (after (earlier ++ later)) h.id := by
  induction later using List.reverseRecOn with
  | nil =>
    rw [List.append_nil]
    exact .inl ⟨h, hh, rfl⟩
  | append_singleton later operation ih =>
    rw [← List.append_assoc, after_snoc]
    exact (step_next _ operation).accounted ih

lemma Configuration.configured_iff (h : Configuration s c files r s') :
    s'.configured = true ↔ s.configured = true ∨ r = .ok () := by
  cases h with
  | rejected => simp
  | unopened | unformatted => simp [cleared]
  | installed => simp [install]

lemma next_configured_iff (s : Logging) (operation : Operation) :
    (operation.next s).configured = true ↔ s.configured = true ∨
      ∃ c files, operation = .configure c files ∧ (s.configure c files).1 = .ok () := by
  cases operation with
  | configure c files =>
    refine (configure_configuration s c files).configured_iff.trans (or_congr_right ?_)
    constructor
    · exact fun hok => ⟨c, files, rfl, hok⟩
    · rintro ⟨_, _, ⟨⟩, hok⟩
      exact hok
  | setLevel choice =>
    cases hs : s.configured with
    | false => simp [Operation.next, Operation.run, setLevel_of_not_configured hs, hs]
    | true =>
      cases hlevel : resolveLevel choice with
      | error e => simp [Operation.next, Operation.run, setLevel_of_configured hs, hlevel, hs]
      | ok level =>
        simp [Operation.next, Operation.run, setLevel_of_configured hs, hlevel, relevelled, hs]
  | get name => cases hs : s.configured <;> simp [Operation.next, Operation.run, get, child, hs]
  | child name => simp [Operation.next, Operation.run, child]
  | isConfigured => simp [Operation.next, Operation.run]

lemma hasConfigured_snoc (operations : List Operation) (operation : Operation) :
    HasConfigured (operations ++ [operation]) ↔ HasConfigured operations ∨
      ∃ c files, operation = .configure c files ∧
        ((after operations).configure c files).1 = .ok () := by
  constructor
  · rintro ⟨earlier, c, files, later, heq, hok⟩
    rcases later.eq_nil_or_concat with rfl | ⟨later, last, rfl⟩
    · obtain ⟨rfl, hlast⟩ := List.append_inj' heq rfl
      exact .inr ⟨c, files, List.singleton_inj.mp hlast, hok⟩
    · rw [List.concat_eq_append, ← List.cons_append, ← List.append_assoc] at heq
      have hoperations := (List.append_inj' heq rfl).1
      exact .inl ⟨earlier, c, files, later, hoperations, hok⟩
  · rintro (⟨earlier, c, files, later, rfl, hok⟩ | ⟨c, files, rfl, hok⟩)
    · exact ⟨earlier, c, files, later ++ [operation], by simp, hok⟩
    · exact ⟨operations, c, files, [], rfl, hok⟩

lemma configured_after_iff (operations : List Operation) :
    (after operations).configured = true ↔ HasConfigured operations := by
  induction operations using List.reverseRecOn with
  | nil => simp [after, HasConfigured]
  | append_singleton operations operation ih =>
    rw [after_snoc, next_configured_iff, hasConfigured_snoc, ih]

lemma Sound.handlers_eq (hs : Sound s) {h : Handler} (hh : h ∈ s.handlers) : s.handlers = [h] := by
  have hone : s.handlers.length = 1 := Nat.le_antisymm hs.single (List.length_pos_of_mem hh)
  obtain ⟨h', hh'⟩ := List.length_eq_one_iff.mp hone
  rw [hh'] at hh ⊢
  rw [List.mem_singleton.mp hh]

lemma Sound.takers_eq (hs : Sound s) {h : Handler} (hh : h ∈ s.handlers) (record : LogRecord) :
    s.takers record = if h.level.number ≤ record.level.number then [h] else [] := by
  have hthreshold : s.threshold = h.level := by rw [threshold, hs.level_eq h hh, Option.getD_some]
  rw [takers, hthreshold, hs.handlers_eq hh]
  by_cases hlevel : h.level.number ≤ record.level.number
  · rw [if_neg (Nat.not_lt.mpr hlevel), if_pos hlevel]
    simp [hlevel]
  · rw [if_pos (Nat.lt_of_not_le hlevel), if_neg hlevel]

lemma Sound.deliver_eq (hs : Sound s) {h : Handler} (hh : h ∈ s.handlers) (stamp : Stamp)
    {record : LogRecord} (hlogger : LoggerName.descends s.loggers record.logger = true) :
    s.deliver stamp record =
      if h.level.number ≤ record.level.number then
        ((line? stamp record h.format.text).map fun text => (h.sink, text)).toList
      else [] := by
  rw [deliver, if_neg (by simp [hlogger]), if_neg (by simp [hs.handlers_eq hh]), hs.takers_eq hh]
  by_cases hlevel : h.level.number ≤ record.level.number
  · rw [if_pos hlevel, if_pos hlevel]
    cases hline : line? stamp record h.format.text <;> simp [hline]
  · rw [if_neg hlevel, if_neg hlevel, List.filterMap_nil]

/-- After any calls there is one handler at most. It has the level of the root logger, so that it
takes every record from that level on exactly once and no other record, whichever logger below the
root the record comes from. A handler that was installed at some time is open as long as it is
installed, and closed from then on. Logging counts as not configured until a configuration
succeeds. -/
theorem after_operations (operations : List Operation) :
    let s := after operations
    s.handlers.length ≤ 1 ∧
      (∀ h ∈ s.handlers, s.level = some h.level ∧ h.id ∉ s.closed ∧
        ∀ stamp record, LoggerName.descends s.loggers record.logger = true →
          s.takers record = (if h.level.number ≤ record.level.number then [h] else []) ∧
          s.deliver stamp record = if h.level.number ≤ record.level.number then
            ((line? stamp record h.format.text).map fun text => (h.sink, text)).toList else []) ∧
      (∀ name, (∀ n, name = some n → n.toList.head? ≠ some '.') →
        LoggerName.descends s.loggers (childLogger name) = true) ∧
      (∀ earlier later, operations = earlier ++ later → ∀ h ∈ (after earlier).handlers,
        (∃ h' ∈ s.handlers, h'.id = h.id) ∨ h.id ∈ s.closed) ∧
      (∀ name, s.get name = .error .notConfigured ↔ ¬ HasConfigured operations) ∧
      ∀ choice, (s.setLevel choice).1 = .error .notConfigured ↔ ¬ HasConfigured operations := by
  intro s
  have hs : Sound s := sound_after operations
  have hconfigured : s.configured = false ↔ ¬ HasConfigured operations := by
    rw [← configured_after_iff, Bool.not_eq_true]
  refine ⟨hs.single, fun h hh => ⟨hs.level_eq h hh, hs.opened h hh, ?_⟩, ?_, ?_, ?_, ?_⟩
  · intro stamp record hlogger
    exact ⟨hs.takers_eq hh record, hs.deliver_eq hh stamp hlogger⟩
  · intro name
    exact LoggerName.descends_childLogger hs.root_known
  · rintro earlier later rfl h hh
    exact accounted_after hh later
  · intro name
    exact (get_eq_notConfigured_iff name).trans hconfigured
  · intro choice
    exact (setLevel_notConfigured_iff choice).trans hconfigured

/-- A logger is asked for first, and two configurations and a change of the level come after. -/
def reconfiguration : List Operation :=
  [.child (some "early"), .configure { target := .stream "first" } {},
    .configure { level := .level .debug, target := .stream "second" } {}, .setLevel (.level .error)]

/-- Records of the logger that was asked for first go to the second handler alone. -/
theorem after_operations_reconfiguration :
    let record (level : LogLevel) : LogRecord :=
      { level, logger := childLogger (some "early"), message := "ready" }
    ∃ h ∈ (after reconfiguration).handlers, h.sink = .stream "second" ∧
      LoggerName.descends (after reconfiguration).loggers (childLogger (some "early")) = true ∧
      (after reconfiguration).takers (record .error) = [h] ∧
      (after reconfiguration).takers (record .warning) = [] ∧
      0 ∈ (after reconfiguration).closed := by
  intro record
  obtain ⟨-, htaken, hbelow, hretired, -⟩ := after_operations reconfiguration
  obtain ⟨h, hh, hsink⟩ : ∃ h ∈ (after reconfiguration).handlers, h.sink = .stream "second" :=
    ⟨_, List.mem_singleton_self _, rfl⟩
  obtain ⟨hlevel, -, htakes⟩ := htaken h hh
  have herror : h.level = .error := (Option.some.inj hlevel).symm
  have hknown := hbelow (some "early") (by rintro _ ⟨⟩; decide)
  have htakes (level : LogLevel) := (htakes ⟨"", "", 0, ""⟩ (record level) hknown).1
  rw [herror] at htakes
  refine ⟨h, hh, hsink, hknown, htakes .error, htakes .warning, ?_⟩
  let first : Handler := ⟨0, .stream "first", .info, LogFormat.standard true false,
    LogFormat.hasField_standard true false⟩
  have hfirst : first ∈ (after (reconfiguration.take 2)).handlers := List.mem_singleton_self _
  have hretired := hretired (reconfiguration.take 2) (reconfiguration.drop 2) rfl first hfirst
  refine hretired.resolve_left ?_
  rintro ⟨h', hh', hid⟩
  rw [List.mem_singleton.mp hh'] at hid
  exact absurd hid (by decide)

end HostDiscovery.Logging
