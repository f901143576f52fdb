import HostDiscovery.Proofs.Home.Copying

/-! Which failures the callers of a home have to expect beside its own refusals: those of a tilde
that stands for nobody, and those of a path that the system does not even look at. -/
namespace HostDiscovery.Home

/-- An operation of a home succeeds or is refused; no other failure comes out of it. -/
def Settled {α : Type} (r : Except Fault α) : Prop :=
  (∃ a, r = .ok a) ∨ ∃ e, r = .error (.refused e)

lemma settled_ok {α : Type} (a : α) : Settled (.ok a) := .inl ⟨a, rfl⟩

lemma settled_refused {α : Type} (e : HomeError) : Settled (.error (.refused e) : Except Fault α) :=
  .inr ⟨e, rfl⟩

lemma not_settled_failed {α : Type} (f : Failure) :
    ¬ Settled (.error (.failed f) : Except Fault α) := by
  rintro (⟨a, ⟨⟩⟩ | ⟨e, ⟨⟩⟩)

lemma settled_refusal_iff {α : Type} {f : Failure} (e : HomeError) :
    Settled (.error (if f.kind.isSystem then .refused e else .failed f) : Except Fault α) ↔
      f.kind.isSystem = true := by
  split_ifs with hsystem
  · exact iff_of_true (settled_refused e) hsystem
  · exact iff_of_false (not_settled_failed f) hsystem

variable {machine : Machine} {directory : String} {fs after : FileSystem} {path : FilePath}

lemma Provided.passable (h : Provided fs path after) : fs.Passable path := by
  cases h with
  | present lookup => exact FileSystem.passable_of_entryAt_some lookup
  | created lookup creation =>
    refine (FileSystem.passable_iff_of_entryAt lookup).mpr ?_
    cases hnul : path.hasNul with
    | false => rfl
    | true =>
      rw [FileSystem.makeDirectories_of_hasNul hnul] at creation
      cases creation

/-- The path of a home is known, and it is refused for a space or taken up by the system. -/
def Examined (machine : Machine) (directory : String) (fs : FileSystem) : Prop :=
  ∃ path, absolutePath machine fs directory = .ok path ∧
    (' ' ∈ Text.trim path.toText ∨ fs.Passable path)

lemma examined_iff (expansion : absolutePath machine fs directory = .ok path)
    (noSpace : ' ' ∉ Text.trim path.toText) :
    Examined machine directory fs ↔ fs.Passable path := by
  constructor
  · rintro ⟨other, hother, hcase⟩
    obtain rfl := Except.ok.inj (expansion.symm.trans hother)
    exact hcase.resolve_left noSpace
  · exact fun hpassable => ⟨path, expansion, .inr hpassable⟩

lemma Opening.settled_iff {r : Except Fault Home} {records : List LogRecord}
    (h : Opening machine directory fs r records after) :
    Settled r ↔ Examined machine directory fs := by
  cases h with
  | unexpanded expansion =>
    refine iff_of_false (not_settled_failed _) ?_
    rintro ⟨path, hpath, -⟩
    simp [expansion] at hpath
  | spaced expansion space =>
    exact iff_of_true (settled_refused _) ⟨_, expansion, .inl space⟩
  | unseen expansion noSpace lookup =>
    rw [examined_iff expansion noSpace]
    exact iff_of_false (not_settled_failed _) (FileSystem.not_passable_of_entryAt_error lookup)
  | uncreated expansion noSpace lookup creation =>
    rw [examined_iff expansion noSpace, creationFault, settled_refusal_iff,
      FileSystem.isSystem_iff_of_makeDirectories creation,
      FileSystem.passable_iff_of_entryAt lookup]
  | occupied expansion noSpace lookup =>
    rw [examined_iff expansion noSpace]
    exact iff_of_true (settled_refused _) (FileSystem.passable_of_entryAt_some lookup)
  | locked expansion noSpace provided =>
    rw [examined_iff expansion noSpace]
    exact iff_of_true (settled_refused _) provided.passable
  | opened expansion noSpace provided =>
    rw [examined_iff expansion noSpace]
    exact iff_of_true (settled_ok _) provided.passable

lemma Copying.settled_iff {home : Home} {content : Bytes} {target : String} {overwrite : Bool}
    {r : Except Fault FilePath} (h : Copying home { content } target overwrite fs r after) :
    Settled r ↔ fs.Passable (home.copyDestination target) := by
  cases h with
  | unseen lookup =>
    exact iff_of_false (not_settled_failed _) (FileSystem.not_passable_of_entryAt_error lookup)
  | kept lookup => exact iff_of_true (settled_ok _) (FileSystem.passable_of_entryAt_some lookup)
  | unopened lookup replace opening =>
    rw [copyFault, settled_refusal_iff, FileSystem.isSystem_iff_of_writable opening,
      FileSystem.passable_iff_of_entryAt lookup]
  | cutOff lookup replace opening broken => cases broken
  | copied lookup replace opening =>
    rw [FileSystem.passable_iff_of_entryAt lookup]
    exact iff_of_true (settled_ok _) (FileSystem.writable_eq_ok_iff.mp opening).1

/-- Opening a home succeeds or is refused exactly if its path is known, and has a space in it or is
taken up by the system. A copy succeeds or is refused exactly if the system takes up the path of its
destination. All other failures come out of them as they are. -/
theorem openAt_copy_settled_iff (machine : Machine) (directory : String) (home : Home)
    (content : Bytes) (target : String) (overwrite : Bool) (s : Session) :
    (Settled (openAt machine (some directory) s).1 ↔ Examined machine directory s.files) ∧
      (Settled (home.copy { content } target overwrite s).1 ↔
        s.files.Passable (home.copyDestination target)) := by
  constructor
  · obtain ⟨r, records, after, hopening, hrun⟩ := exists_opening machine directory s
    rw [hrun]
    exact hopening.settled_iff
  · obtain ⟨r, after, hcopying, hrun⟩ := exists_copying home { content } target overwrite s
    rw [hrun]
    exact hcopying.settled_iff

def longName : Text := List.replicate 256 'a'

/-- A name that is too long for its directory is a failure of the system that is not refused. -/
theorem openAt_long_name_not_settled :
    ¬ ((∀ machine directory s, Settled (openAt machine (some directory) s).1) ∧
      ∀ (home : Home) content target overwrite s,
        Settled (home.copy { content } target overwrite s).1) := by
  rintro ⟨hopen, -⟩
  have hexpansion : absolutePath soleUser {} (String.ofList longName) = .ok ⟨1, [longName]⟩ := by
    rw [absolutePath, FilePath.ofString, String.toList_ofList]
    decide +kernel
  have hspace : ' ' ∉ Text.trim (FilePath.toText ⟨1, [longName]⟩) := by decide +kernel
  have hlong : FileSystem.TooLong {} ⟨1, [longName]⟩ :=
    .inr ⟨[], longName, [], [], rfl, by decide +kernel, by decide +kernel, rfl⟩
  obtain ⟨r, records, after, hopening, hrun⟩ :=
    exists_opening soleUser (String.ofList longName) {}
  have hsettled := hopen soleUser (String.ofList longName) {}
  rw [hrun, hopening.settled_iff] at hsettled
  obtain ⟨path, hpath, hcase⟩ := hsettled
  obtain rfl := Except.ok.inj (hexpansion.symm.trans hpath)
  exact hcase.elim hspace fun hpassable => hpassable.2 hlong

end HostDiscovery.Home
