import HostDiscovery.Session
import Mathlib.Tactic.Lemma

/-! Outcome and history of an action, step by step. Only the calls made before decide what the
platform answers, so an action is followed from one history to the next. -/
namespace HostDiscovery.Act

variable {ε ε' α β : Type}

lemma files_apply (s : Session) : (files : Act ε FileSystem) s = (.ok s.files, s) := rfl

/-- From any session with history `h` the action ends with outcome `r` and history `h'`. -/
def RunsTo (act : Act ε α) (h : List Event) (r : Except ε α) (h' : List Event) : Prop :=
  ∀ s : Session, s.events = h → ∃ s', act s = (r, s') ∧ s'.events = h'

lemma runsTo_pure (a : α) (h : List Event) : (pure a : Act ε α).RunsTo h (.ok a) h :=
  fun s hs => ⟨s, rfl, hs⟩

lemma runsTo_fail (e : ε) (h : List Event) : (fail e : Act ε α).RunsTo h (.error e) h :=
  fun s hs => ⟨s, rfl, hs⟩

lemma runsTo_ofExcept (r : Except ε α) (h : List Event) : (ofExcept r).RunsTo h r h :=
  fun s hs => ⟨s, rfl, hs⟩

lemma runsTo_log (level : LogLevel) (logger message : String) (h : List Event) :
    (log level logger message : Act ε Unit).RunsTo h (.ok ()) h :=
  fun _ hs => ⟨_, rfl, hs⟩

lemma runsTo_logDetails (level : LogLevel) (logger message : String) (h : List Event) :
    (logDetails level logger message : Act ε Unit).RunsTo h (.ok ()) h :=
  fun _ hs => ⟨_, rfl, hs⟩

lemma runsTo_query (q : Query α) (h : List Event) :
    (query q).RunsTo h (q h).1 (h ++ (q h).2) := by
  rintro s rfl
  exact ⟨_, rfl, rfl⟩

lemma RunsTo.attempt {act : Act ε α} {h h' : List Event} {r : Except ε α}
    (ha : act.RunsTo h r h') : (act.attempt : Act ε' (Except ε α)).RunsTo h (.ok r) h' := by
  intro s hs
  obtain ⟨s', hrun, hs'⟩ := ha s hs
  exact ⟨s', by simp [Act.attempt, hrun], hs'⟩

lemma RunsTo.bind {first : Act ε α} {next : α → Act ε β} {h h' h'' : List Event} {a : α}
    {r : Except ε β} (hf : first.RunsTo h (.ok a) h') (hn : (next a).RunsTo h' r h'') :
    (first >>= next).RunsTo h r h'' := by
  intro s hs
  obtain ⟨s', hrun, hs'⟩ := hf s hs
  rw [bind_of_ok hrun]
  exact hn s' hs'

lemma RunsTo.bind_error {first : Act ε α} {next : α → Act ε β} {h h' : List Event} {e : ε}
    (hf : first.RunsTo h (.error e) h') : (first >>= next).RunsTo h (.error e) h' := by
  intro s hs
  obtain ⟨s', hrun, hs'⟩ := hf s hs
  exact ⟨s', bind_of_error hrun, hs'⟩

lemma RunsTo.closing {act : Act ε α} {h h' : List Event} {r : Except ε α}
    (ha : act.RunsTo h r h') (e : Event) : (act.closing e).RunsTo h r (h' ++ [e]) := by
  rintro s hs
  obtain ⟨s', hrun, rfl⟩ := ha s hs
  exact ⟨_, by rw [Act.closing, hrun], rfl⟩

/-- From any session the action ends with outcome `r`, and all it leaves behind is new records. -/
def Logs (act : Act ε α) (r : Except ε α) (new : List LogRecord) : Prop :=
  ∀ s : Session, act s = (r, { s with records := s.records ++ new })

lemma logs_pure (a : α) : (pure a : Act ε α).Logs (.ok a) [] :=
  fun s => by rw [pure_apply, List.append_nil]

lemma logs_fail (e : ε) : (fail e : Act ε α).Logs (.error e) [] :=
  fun s => by rw [fail, List.append_nil]

lemma logs_ofExcept (r : Except ε α) : (ofExcept r).Logs r [] :=
  fun s => by rw [ofExcept, List.append_nil]

lemma logs_log (level : LogLevel) (logger message : String) :
    (log level logger message : Act ε Unit).Logs (.ok ()) [{ level, logger, message }] :=
  fun _ => rfl

lemma logs_logDetails (level : LogLevel) (logger message : String) :
    (logDetails level logger message : Act ε Unit).Logs (.ok ())
      [{ level, logger, message, details := true }] :=
  fun _ => rfl

variable {r : Except ε α} {new more : List LogRecord}

lemma Logs.attempt {act : Act ε α} (ha : act.Logs r new) :
    (act.attempt : Act ε' (Except ε α)).Logs (.ok r) new :=
  fun s => by rw [Act.attempt, ha s]

lemma Logs.mapError {act : Act ε α} (ha : act.Logs r new) (f : ε → ε') :
    (act.mapError f).Logs (r.mapError f) new :=
  fun s => by rw [Act.mapError, ha s]

lemma Logs.bind {first : Act ε α} {next : α → Act ε β} {a : α} {r : Except ε β}
    (hf : first.Logs (.ok a) new) (hn : (next a).Logs r more) :
    (first >>= next).Logs r (new ++ more) := by
  intro s
  rw [bind_of_ok (hf s), hn, List.append_assoc]

lemma Logs.bind_error {first : Act ε α} {next : α → Act ε β} {e : ε}
    (hf : first.Logs (.error e) new) : (first >>= next).Logs (.error e) new :=
  fun s => bind_of_error (hf s)

/-- The action adds no record and changes no file. -/
def Silent (act : Act ε α) : Prop :=
  ∀ (s s' : Session) (r : Except ε α), act s = (r, s') →
    s'.records = s.records ∧ s'.files = s.files

lemma silent_query (q : Query α) : (query q).Silent := by
  rintro s s' r h
  obtain rfl := (Prod.mk.inj h).2
  exact ⟨rfl, rfl⟩

lemma Silent.bind {first : Act ε α} {next : α → Act ε β} (hf : first.Silent)
    (hn : ∀ a, (next a).Silent) : (first >>= next).Silent := by
  intro s s'' r h
  rcases hrun : first s with ⟨e | a, s'⟩
  · rw [bind_of_error hrun] at h
    obtain rfl := (Prod.mk.inj h).2
    exact hf s _ _ hrun
  · rw [bind_of_ok hrun] at h
    obtain ⟨hrecords, hfiles⟩ := hn a s' s'' r h
    exact (hf s s' _ hrun).imp hrecords.trans hfiles.trans

lemma Silent.closing {act : Act ε α} (ha : act.Silent) (e : Event) : (act.closing e).Silent := by
  intro s s'' r h
  rcases hrun : act s with ⟨r', s'⟩
  rw [Act.closing, hrun] at h
  obtain rfl := (Prod.mk.inj h).2
  exact ha s s' r' hrun

/-- From any session with history `h` the action ends with outcome `r`, and all it leaves behind is
calls and records. -/
def Leaves (act : Act ε α) (h : List Event) (r : Except ε α) (calls : List Event)
    (new : List LogRecord) : Prop :=
  ∀ s : Session, s.events = h →
    act s = (r, { s with events := h ++ calls, records := s.records ++ new })

variable {h calls later : List Event}

lemma RunsTo.leaves {act : Act ε α} (ha : act.RunsTo h r (h ++ calls)) (hs : act.Silent) :
    act.Leaves h r calls [] := by
  intro s hh
  obtain ⟨⟨events, records, files⟩, hrun, rfl⟩ := ha s hh
  obtain ⟨rfl, rfl⟩ := hs s _ r hrun
  rw [hrun, List.append_nil]

lemma Leaves.runsTo {act : Act ε α} (ha : act.Leaves h r calls new) :
    act.RunsTo h r (h ++ calls) :=
  fun s hs => ⟨_, ha s hs, rfl⟩

lemma Logs.leaves {act : Act ε α} (ha : act.Logs r new) (h : List Event) :
    act.Leaves h r [] new := by
  rintro s rfl
  rw [ha s, List.append_nil]

lemma Leaves.attempt {act : Act ε α} (ha : act.Leaves h r calls new) :
    (act.attempt : Act ε' (Except ε α)).Leaves h (.ok r) calls new :=
  fun s hs => by rw [Act.attempt, ha s hs]

lemma Leaves.bind {first : Act ε α} {next : α → Act ε β} {a : α} {r : Except ε β}
    (hf : first.Leaves h (.ok a) calls new) (hn : (next a).Leaves (h ++ calls) r later more) :
    (first >>= next).Leaves h r (calls ++ later) (new ++ more) := by
  intro s hs
  rw [bind_of_ok (hf s hs), hn _ rfl, List.append_assoc, List.append_assoc]

lemma Leaves.bind_error {first : Act ε α} {next : α → Act ε β} {e : ε}
    (hf : first.Leaves h (.error e) calls new) : (first >>= next).Leaves h (.error e) calls new :=
  fun s hs => bind_of_error (hf s hs)

lemma Leaves.bind_logs {first : Act ε α} {next : α → Act ε β} {a : α} {r : Except ε β}
    (hf : first.Leaves h (.ok a) calls new) (hn : (next a).Logs r more) :
    (first >>= next).Leaves h r calls (new ++ more) := by
  simpa only [List.append_nil] using hf.bind (hn.leaves (h ++ calls))

lemma Logs.bind_leaves {first : Act ε α} {next : α → Act ε β} {a : α} {r : Except ε β}
    (hf : first.Logs (.ok a) new) (hn : (next a).Leaves h r calls more) :
    (first >>= next).Leaves h r calls (new ++ more) := by
  rw [← List.append_nil h] at hn
  exact (hf.leaves h).bind hn

/-- What the action gives, if it gives anything, satisfies `P`. -/
def Ensures (act : Act ε α) (P : α → Prop) : Prop :=
  ∀ (s : Session) (a : α) (s' : Session), act s = (.ok a, s') → P a

/-- From any session the action gives something, and that satisfies `P`. -/
def Yields (act : Act ε α) (P : α → Prop) : Prop :=
  ∀ s : Session, ∃ a s', act s = (.ok a, s') ∧ P a

variable {P : α → Prop} {Q : β → Prop}

lemma exists_of_bind_eq_ok {first : Act ε α} {next : α → Act ε β} {s s'' : Session} {b : β}
    (h : (first >>= next) s = (.ok b, s'')) :
    ∃ a s', first s = (.ok a, s') ∧ next a s' = (.ok b, s'') := by
  rcases hf : first s with ⟨e | a, s'⟩
  · rw [bind_of_error hf] at h
    cases h
  · rw [bind_of_ok hf] at h
    exact ⟨a, s', rfl, h⟩

lemma ensures_trivial (act : Act ε α) : act.Ensures fun _ => True := fun _ _ _ _ => trivial

lemma ensures_pure {a : α} (ha : P a) : (pure a : Act ε α).Ensures P := by
  rintro s a' s' h
  obtain rfl := Except.ok.inj (Prod.mk.inj h).1
  exact ha

lemma ensures_fail (e : ε) : (fail e : Act ε α).Ensures P :=
  fun _ _ _ h => nomatch (Prod.mk.inj h).1

lemma ensures_ofExcept {r : Except ε α} (hr : ∀ a, r = .ok a → P a) : (ofExcept r).Ensures P :=
  fun _ a _ h => hr a (Prod.mk.inj h).1

lemma ensures_query {q : Query α} (hq : ∀ h a, (q h).1 = .ok a → P a) : (query q).Ensures P :=
  fun s a _ h => hq s.events a (Prod.mk.inj h).1

lemma Ensures.bind {first : Act ε α} {next : α → Act ε β} (hf : first.Ensures P)
    (hn : ∀ a, P a → (next a).Ensures Q) : (first >>= next).Ensures Q := by
  intro s b s'' h
  obtain ⟨a, s', ha, hb⟩ := exists_of_bind_eq_ok h
  exact hn a (hf s a s' ha) s' b s'' hb

/-- An action never fails that takes the outcome of another one as it is. -/
lemma Ensures.attempt_yields {act : Act ε α} (ha : act.Ensures P) :
    (act.attempt : Act ε' (Except ε α)).Yields fun r => ∀ a, r = .ok a → P a := by
  intro s
  refine ⟨(act s).1, (act s).2, rfl, fun a h => ha s a (act s).2 ?_⟩
  rw [← h]

lemma Yields.ensures {act : Act ε α} (ha : act.Yields P) : act.Ensures P := by
  intro s a s' h
  obtain ⟨a', s'', h', hP⟩ := ha s
  obtain rfl := Except.ok.inj (Prod.mk.inj (h.symm.trans h')).1
  exact hP

lemma yields_pure {a : α} (ha : P a) : (pure a : Act ε α).Yields P := fun s => ⟨a, s, rfl, ha⟩

lemma yields_log (level : LogLevel) (logger message : String) :
    (log level logger message : Act ε Unit).Yields fun _ => True :=
  fun _ => ⟨(), _, rfl, trivial⟩

lemma yields_logDetails (level : LogLevel) (logger message : String) :
    (logDetails level logger message : Act ε Unit).Yields fun _ => True :=
  fun _ => ⟨(), _, rfl, trivial⟩

lemma Yields.bind {first : Act ε α} {next : α → Act ε β} (hf : first.Yields P)
    (hn : ∀ a, P a → (next a).Yields Q) : (first >>= next).Yields Q := by
  intro s
  obtain ⟨a, s', ha, hP⟩ := hf s
  obtain ⟨b, s'', hb, hQ⟩ := hn a hP s'
  exact ⟨b, s'', by rw [bind_of_ok ha, hb], hQ⟩

end HostDiscovery.Act
