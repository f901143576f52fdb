import HostDiscovery.Proofs.Text.Trim
import HostDiscovery.Proofs.Transfer.Accounting

/-! Which failures of a download are reported to its caller. Whatever stops the download, wherever
it does so, decides by its kind alone: a failure of the system or of the request is logged and
reported, any other one is passed on as it is. -/
namespace HostDiscovery.Transfer

/-- What stops a download, if anything does: the request, the status, the destination or the body,
whichever comes first. -/
def obstacle? (http : HttpLayer) (url : String) (destination : FilePath) (timeout : Value)
    (s : Session) : Option Failure :=
  match http.get url timeout s.events with
  | .error f => some f
  | .ok response =>
    match response.refusal url with
    | some f => some f
    | none =>
      match s.files.writable destination with
      | .error f => some f
      | .ok _ => response.broken

/-- A failure is reported with the URL and with words about it, and is logged once, as an error. -/
structure Reported (url : String) (f : Failure) (s : Session)
    (run : Except Fault Nat × Session) : Prop where
  error : ∃ reason, reason ≠ "" ∧ run.1 = .error (.reported { url, reason, cause := f })
  record : ∃ record, record.level = .error ∧ run.2.records = s.records ++ [record]

lemma label_ne_empty (kind : FailureKind) : kind.label ≠ "" := by
  cases kind <;> decide

lemma describe_ne_empty (f : Failure) : describe f ≠ "" := by
  unfold describe
  split
  · next status phrase _ =>
    intro hempty
    have hmark : 'H' ∈ (s!"HTTP {status} " ++ phrase.getD "").toList := by
      simp only [String.toList_append, List.mem_append]
      exact .inl (.inl (.inl (by decide)))
    have htrim := Text.mem_trim_of_not_blank hmark (by decide)
    rw [String.ofList_eq_empty_iff.mp hempty] at htrim
    cases htrim
  · split_ifs with htimeout hconnection hmessage
    · decide
    · decide
    · exact label_ne_empty f.kind
    · simpa using hmessage

variable {http : HttpLayer} {url : String} {destination : FilePath} {timeout : Value} {s : Session}
  {f : Failure}

lemma Ending.obstacle?_cases {r : Except Fault Nat} {calls : List Event} {records : List LogRecord}
    {after : FileSystem} (h : Ending http url destination timeout s r calls records after) :
    (obstacle? http url destination timeout s = none ∧ ∃ written, r = .ok written) ∨
      ∃ f written, obstacle? http url destination timeout s = some f ∧
        r = .error (faultOf url f) ∧ records = failureRecords url written f := by
  cases h with
  | unanswered answer =>
    refine .inr ⟨_, 0, ?_, rfl, rfl⟩
    simp only [obstacle?, answer]
  | refused answer status =>
    refine .inr ⟨_, 0, ?_, rfl, rfl⟩
    simp only [obstacle?, answer, status]
  | unopened answer accepted opening =>
    refine .inr ⟨_, 0, ?_, rfl, rfl⟩
    simp only [obstacle?, answer, accepted, opening]
  | cutOff answer accepted cut stored =>
    obtain ⟨location, old, opening, -⟩ := stored.elsewhere
    refine .inr ⟨_, _, ?_, rfl, rfl⟩
    simp only [obstacle?, answer, accepted, opening, cut]
  | complete answer accepted whole stored =>
    obtain ⟨location, old, opening, -⟩ := stored.elsewhere
    refine .inl ⟨?_, _, rfl⟩
    simp only [obstacle?, answer, accepted, opening, whole]

lemma reported_iff {run : Except Fault Nat × Session} {written : Nat}
    (hfault : run.1 = .error (faultOf url f))
    (hrecords : run.2.records = s.records ++ failureRecords url written f) :
    Reported url f s run ↔ f.kind.isSystem = true := by
  constructor
  · rintro ⟨⟨reason, -, herror⟩, -⟩
    by_contra hsystem
    rw [hfault, faultOf, if_neg hsystem] at herror
    cases herror
  · intro hsystem
    rw [faultOf, if_pos hsystem] at hfault
    rw [failureRecords, if_pos hsystem] at hrecords
    exact ⟨⟨describe f, describe_ne_empty f, hfault⟩, _, rfl, hrecords⟩

/-- A download that nothing stops succeeds. One that is stopped reports what stopped it exactly if
that is a failure of the system or of the request; any other failure is passed on without a word in
the log. -/
theorem download_reported_iff (http : HttpLayer) (url : String) (destination : FilePath)
    (timeout : Value) (s : Session) :
    (obstacle? http url destination timeout s = none →
        ∃ written, (download http url destination timeout s).1 = .ok written) ∧
      ∀ f, obstacle? http url destination timeout s = some f →
        (Reported url f s (download http url destination timeout s) ↔ f.kind.isSystem = true) ∧
          (f.kind.isSystem = false →
            (download http url destination timeout s).1 = .error (.failed f) ∧
              (download http url destination timeout s).2.records = s.records) := by
  obtain ⟨r, calls, records, after, hending, hrun⟩ :=
    exists_download_ending http url destination timeout s
  rw [hrun]
  rcases hending.obstacle?_cases with ⟨hnone, hok⟩ | ⟨f, written, hsome, hfault, hrecords⟩
  · exact ⟨fun _ => hok, fun f hf => by simp [hnone] at hf⟩
  · refine ⟨fun hnone => by simp [hsome] at hnone, fun g hg => ?_⟩
    obtain rfl : f = g := Option.some.inj (hsome.symm.trans hg)
    have hreported := congrArg (s.records ++ ·) hrecords
    refine ⟨reported_iff hfault hreported, fun hsystem => ?_⟩
    rw [hfault, hrecords, faultOf, failureRecords, hsystem]
    simp

def servedText : HttpLayer where
  get _ _ _ := .ok { chunks := [[104], [105]] }

/-- There is a directory where the file should go. -/
theorem download_reported_directory :
    let s : Session := { files := { entries := [([['d']], .directory)] } }
    let destination := FilePath.ofString "d"
    obstacle? servedText "http://h/" destination .null s =
        some (PathFault.isDirectory.failure destination) ∧
      Reported "http://h/" (PathFault.isDirectory.failure destination) s
        (download servedText "http://h/" destination .null s) := by
  intro s destination
  have hobstacle : obstacle? servedText "http://h/" destination .null s =
      some (PathFault.isDirectory.failure destination) := by decide
  obtain ⟨-, hstopped⟩ := download_reported_iff servedText "http://h/" destination .null s
  obtain ⟨hreported, -⟩ := hstopped _ hobstacle
  exact ⟨hobstacle, hreported.mpr rfl⟩

/-- A request that fails with a failure about a value, such as one for a URL that cannot be taken
apart, ends the download without a report. -/
theorem download_unreported_value :
    ¬ ∀ http url destination timeout s f, obstacle? http url destination timeout s = some f →
      Reported url f s (download http url destination timeout s) := by
  intro h
  obtain ⟨⟨reason, -, herror⟩, -⟩ := h ⟨fun _ _ _ => .error { kind := .value, message := "bad" }⟩
    "http://example.test/f" (FilePath.ofString "f") .null {} _ rfl
  have hfails : (download ⟨fun _ _ _ => .error { kind := .value, message := "bad" }⟩
      "http://example.test/f" (FilePath.ofString "f") .null {}).1 =
        .error (.failed { kind := .value, message := "bad" }) := rfl
  rw [hfails] at herror
  cases herror

end HostDiscovery.Transfer
