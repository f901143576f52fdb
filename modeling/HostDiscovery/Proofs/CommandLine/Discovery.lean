import HostDiscovery.Main
import HostDiscovery.Proofs.Address.Written
import HostDiscovery.Proofs.CommandLine.StartUp
import HostDiscovery.Proofs.Resolver.Answering
import HostDiscovery.Proofs.Resolver.HostName
import HostDiscovery.Proofs.Text.ControlSequence
import Mathlib.Data.List.Basic

/-! The commands that look for the address and the name of the machine, over any environment and any
backend, from start-up to the report. -/
namespace HostDiscovery.CommandLine

open Text

inductive Discovery
  | address
  | hostname
  deriving DecidableEq

namespace Discovery

def name : Discovery → CommandName
  | address => .address
  | hostname => .hostname

def command : Discovery → Command
  | address => .address
  | hostname => .hostname

def arguments (d : Discovery) (debug : Bool) : List String :=
  (if debug then ["--debug"] else []) ++ [d.name.text]

def search (p : Platform) (d : Discovery) : Act Failure String := do
  let resolver ← Resolver.ofEnvironment p.environment p.network
  match d with
  | address => return (← resolver.localAddress).address
  | hostname => resolver.localHostName

end Discovery

open Discovery Program

variable {p : Platform} {d : Discovery} {s found : Session} {text : String}

/-- A search always comes to a text, of what the backend answers or of last resort. -/
lemma search_yields {Q : String → Prop} (ha : p.network.AddressesSatisfy fun a => Q a.address)
    (hn : d = .hostname → p.network.NamesSatisfy Q) (haddress : Q Defaults.loopbackAddress)
    (hname : Q Defaults.localHostName) : (search p d).Yields Q := by
  refine (Resolver.ofEnvironment_yields p.environment p.network).bind fun r hr => ?_
  rw [← hr] at ha hn
  cases d with
  | address =>
    exact (Resolver.localAddress_yields ha haddress).bind fun a ha => Act.yields_pure ha
  | hostname => exact Resolver.localHostName_yields ha (hn rfl) hname

lemma ofAct_of_ok {ε ε' : Type} {escape : ε → Escape} {act : Act ε Answer} {answer : Answer}
    (h : act s = (.ok answer, found)) :
    (Answer.ofAct escape act : Act ε' Answer) s = (.ok answer, found) := by
  have hattempt : (act.attempt : Act ε' (Except ε Answer)) s = (.ok (.ok answer), found) := by
    rw [Act.attempt, h]
  rw [Answer.ofAct, Act.bind_of_ok hattempt]
  rfl

lemma answer_of_search (h : search p d s = (.ok text, found)) :
    (d.command.answer p : Act Empty Answer) s = (.ok { lines := [text] }, found) := by
  obtain ⟨resolver, ready, hready, hsearch⟩ := Act.exists_of_bind_eq_ok h
  cases d with
  | address =>
    obtain ⟨a, s', ha, hpure⟩ := Act.exists_of_bind_eq_ok hsearch
    obtain ⟨htext, rfl⟩ := Prod.mk.inj hpure
    obtain rfl := Except.ok.inj htext
    refine ofAct_of_ok ?_
    rw [Act.bind_of_ok hready, Act.bind_of_ok ha]
    rfl
  | hostname =>
    refine ofAct_of_ok ?_
    rw [Act.bind_of_ok hready, Act.bind_of_ok hsearch]
    rfl

lemma runCommand_of_search (logging : Logging)
    (h : search p d { s with records := [] } = (.ok text, found)) :
    runCommand p d.name [] logging s =
      ({ output := text ++ "\n", logged := loggedText logging p.stamp found.records },
        { found with records := s.records ++ found.records }) := by
  have hread : Command.read s.files d.name [] = .ok d.command := by cases d <;> rfl
  rw [runCommand, hread]
  dsimp only
  rw [answer_of_search h]
  simp [answered, Answer.text, String.join]

def shown (text : String) : String := String.ofList (withoutControlSequences text.toList)

lemma shown_line (text : String) : String.ofList (withoutControlSequences (text ++ "\n").toList) =
    shown text ++ "\n" := by
  have hline := withoutControlSequences_append_newline text.toList
  rw [String.toList_append, shown]
  exact (congrArg String.ofList hline).trans String.ofList_append

lemma run_of_search {debug : Bool} {logging logging' : Logging} {warning : String}
    (hset : setUpLogging p.environment debug logging s.files = (warning, logging'))
    (h : search p d { s with records := [] } = (.ok text, found)) :
    run p (d.arguments debug) logging s =
      ({ output := shown text ++ "\n", errors := shown warning,
         logged := loggedText logging' p.stamp found.records },
        logging', { found with records := s.records ++ found.records }) := by
  have hread : ProgramArguments.read (d.arguments debug) =
      .ok { debug, words := [d.name.text] } := by
    cases d <;> cases debug <;> rfl
  have hcommand : ProgramArguments.command { debug, words := [d.name.text] } =
      .ok (d.name, []) := by
    cases d <;> rfl
  have hsome : (d.arguments debug).isEmpty = false := by cases debug <;> rfl
  rw [run, reportOn, hsome, hread]
  dsimp only
  rw [hcommand]
  dsimp only
  rw [hset]
  dsimp only
  rw [runCommand_of_search logging' h]
  simp only [Bool.false_eq_true, if_false, printed, shown_line, String.append_empty]
  rfl

/-- The run ends well and prints one line: the text without control sequences, of which the text of
an address has none. -/
structure Answers (p : Platform) (d : Discovery) (text : String) (report : Report) : Prop where
  exit : report.exit = 0
  escape : report.escape = none
  output : report.output = shown text ++ "\n"
  oneLine : p.network.AddressesSatisfy (fun a => OneLine a.address.toList) →
    p.network.NamesSatisfy (fun name => OneLine name.toList) →
      lines report.output.toList = [(shown text).toList]
  address : d = .address → p.network.AnswersParsed → report.output = text ++ "\n"

/-- Logging is set up as it is wanted, and the warning and all lines of the log are on the error
output. -/
structure LogsToErrors (p : Platform) (debug : Bool) (records : List LogRecord) (report : Report)
    (logging : Logging) : Prop where
  ready : logging.ErrorsAt (wantedLevel p.environment debug)
  warning : report.errors = shown (levelWarning p.environment)
  delivered {record : LogRecord} {line : Sink × Text} :
    line ∈ logging.deliver p.stamp record → line.1 = .errors
  logged : report.logged = String.ofList
    (records.flatMap fun record => (logging.deliver p.stamp record).flatMap (·.2))

lemma answers_of_search {report : Report} {s₀ : Session}
    (h : search p d s₀ = (.ok text, found)) (hexit : report.exit = 0)
    (hescape : report.escape = none) (houtput : report.output = shown text ++ "\n") :
    Answers p d text report where
  exit := hexit
  escape := hescape
  output := houtput
  oneLine ha hn := by
    have hsearch : (search p d).Yields fun text => OneLine text.toList :=
      search_yields ha (fun _ => hn) (by decide) (by decide)
    have hline : OneLine text.toList := hsearch.ensures s₀ text found h
    have hshown : OneLine (shown text).toList := by
      rw [shown, String.toList_ofList]
      exact hline.withoutControlSequences
    rw [houtput, String.toList_append]
    exact lines_append_newline hshown []
  address hd hp := by
    have haddresses : p.network.AddressesSatisfy fun a => '\x1b' ∉ a.address.toList := by
      refine hp.addressesSatisfy.imp fun a ⟨s, hs⟩ hescape => ?_
      have hwritten := NetworkAddress.mem_writtenCharacters_of_parse hs hescape
      exact absurd hwritten (by decide)
    have hnames : d = .hostname → p.network.NamesSatisfy fun name => '\x1b' ∉ name.toList := by
      rintro rfl
      cases hd
    have hsearch : (search p d).Yields fun text => '\x1b' ∉ text.toList :=
      search_yields haddresses hnames (by decide) (by decide)
    have hplain : '\x1b' ∉ text.toList := hsearch.ensures s₀ text found h
    rw [houtput, shown, withoutControlSequences_eq_self hplain, String.ofList_toList]

lemma loggedText_of_errorsAt {logging : Logging} {level : LogLevel} (hl : logging.ErrorsAt level)
    (stamp : Stamp) (records : List LogRecord) :
    loggedText logging stamp records = String.ofList
      (records.flatMap fun record => (logging.deliver stamp record).flatMap (·.2)) := by
  rw [loggedText]
  congr 1
  refine List.flatMap_congr fun record _ => ?_
  rw [loggedLine]
  exact List.flatMap_congr fun line hline => if_pos (hl.deliver stamp record line hline)

/-- A run of a discovery command with logging not set up comes to an answer in any environment and
over any backend. It ends with exit code zero, its answer is all that it prints, and everything else
is on the error output, of which the level is the wanted one. -/
theorem run_discovery (p : Platform) (d : Discovery) (debug : Bool) (logging : Logging)
    (s : Session) (hl : logging.configured = false) :
    ∃ text found report logging',
      search p d { s with records := [] } = (.ok text, found) ∧
      run p (d.arguments debug) logging s =
        (report, logging', { found with records := s.records ++ found.records }) ∧
      Answers p d text report ∧ LogsToErrors p debug found.records report logging' := by
  have hyields : (search p d).Yields fun _ => True :=
    search_yields ⟨by simp, by simp, by simp⟩ (fun _ => ⟨by simp, by simp⟩) trivial trivial
  obtain ⟨text, found, hsearch, -⟩ := hyields { s with records := [] }
  obtain ⟨logging', hset, hready⟩ := exists_setUpLogging p.environment debug s.files hl
  have hrun := run_of_search hset hsearch
  have hlogged := loggedText_of_errorsAt hready p.stamp found.records
  exact ⟨text, found, _, logging', hsearch, hrun, answers_of_search hsearch rfl rfl rfl,
    hready, rfl, fun hline => hready.deliver p.stamp _ _ hline, hlogged⟩

def named (name : String) (environment : Environment) : Platform :=
  { platformOf environment with
    network :=
      { noNetwork with localHostName := Query.ask .localHostName fun _ => .ok (some name) } }

lemma search_named (name : String) (hname : Strategy.Telling name) (env : Environment)
    (s : Session) : ∃ found, search (named name env) .hostname s = (.ok name, found) := by
  obtain ⟨r, ready, hready, hnetwork⟩ :=
    Resolver.ofEnvironment_yields env (named name env).network s
  have hreported : (r.network.localHostName ready.events).1 = .ok (some name) := by
    rw [hnetwork]
    rfl
  have hstrategy := Resolver.reportedHostName_runsTo_of_telling hreported hname
  have hrun := Resolver.localHostName_runsTo_of_reported hstrategy
  obtain ⟨found, hfound, -⟩ := hrun ready rfl
  exact ⟨found, (Act.bind_of_ok hready).trans hfound⟩

lemma named_oneLine {name : String} (hname : OneLine name.toList) (env : Environment) :
    (named name env).network.AddressesSatisfy (fun a => OneLine a.address.toList) ∧
      (named name env).network.NamesSatisfy (fun name => OneLine name.toList) := by
  refine ⟨⟨nofun, nofun, nofun⟩, ?_, nofun⟩
  rintro h _ ⟨⟩
  exact hname

/-- An environment of which no variable can be used. -/
theorem run_discovery_unknown_level :
    let p := named "build-7" [("RECORDER_LOG_LEVEL", "loud"), ("RECORDER_PROBE_TIMEOUT", "soon")]
    ({} : Logging).configured = false ∧
      ∃ report logging s', run p ["hostname"] {} {} = (report, logging, s') ∧ report.exit = 0 ∧
        report.output = "build-7\n" ∧ lines report.output.toList = ["build-7".toList] ∧
        report.errors = "Warning: unknown RECORDER_LOG_LEVEL 'loud', using WARNING\n" ∧
        logging.ErrorsAt .warning := by
  intro p
  refine ⟨rfl, ?_⟩
  obtain ⟨text, found, report, logging, hsearch, hrun, hanswers, hlogs⟩ :=
    run_discovery p .hostname false {} {} rfl
  obtain ⟨found', hsearch'⟩ := search_named "build-7" (by decide) p.environment {}
  obtain rfl : text = "build-7" :=
    Except.ok.inj (Prod.mk.inj (hsearch.symm.trans hsearch')).1
  have hname : OneLine "build-7".toList := by decide
  obtain ⟨haddresses, hnames⟩ := named_oneLine hname p.environment
  refine ⟨report, logging, _, hrun, hanswers.exit, ?_, hanswers.oneLine haddresses hnames, ?_, ?_⟩
  · rw [hanswers.output]
    decide +kernel
  · rw [hlogs.warning]
    decide +kernel
  · exact hlogs.ready

/-- A host name that steers a terminal is not printed as it is. -/
theorem run_discovery_control_sequence :
    ¬ ∀ (p : Platform) (d : Discovery) (debug : Bool) (logging : Logging) (s : Session),
      logging.configured = false → p.network.NamesSatisfy (fun name => OneLine name.toList) →
        ∃ text found, search p d { s with records := [] } = (.ok text, found) ∧
          (run p (d.arguments debug) logging s).1.output = text ++ "\n" := by
  intro h
  let p := named "a\x1b[1mb" []
  obtain ⟨found, hsearch⟩ := search_named "a\x1b[1mb" (by decide) [] {}
  obtain ⟨text, found', hsearch', houtput⟩ :=
    h p .hostname false {} {} rfl (named_oneLine (by decide) []).2
  obtain rfl : text = "a\x1b[1mb" :=
    Except.ok.inj (Prod.mk.inj (hsearch'.symm.trans hsearch)).1
  have hl : ({} : Logging).configured = false := rfl
  obtain ⟨logging, hset, -⟩ := exists_setUpLogging p.environment false {} hl
  rw [run_of_search (s := {}) hset hsearch'] at houtput
  have hprinted : shown "a\x1b[1mb" ++ "\n" = "a\x1b[1mb" ++ "\n" := houtput
  exact absurd hprinted (by decide +kernel)

end HostDiscovery.CommandLine
