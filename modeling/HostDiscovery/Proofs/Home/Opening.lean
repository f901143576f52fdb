import HostDiscovery.Home.Basic
import HostDiscovery.Proofs.Files.Directories
import HostDiscovery.Proofs.Text.Trim

/-! How the opening of a home ends. Every way is named once, with what it leaves; whether the home
has a space in its path, and what its caller has to expect, is read off from the ways. -/
namespace HostDiscovery.Home

inductive Provided (fs : FileSystem) (path : FilePath) : FileSystem → Prop
  | present (lookup : fs.entryAt path = .ok (some .directory)) : Provided fs path fs
  | created {after : FileSystem} (lookup : fs.entryAt path = .ok none)
      (creation : fs.makeDirectories false path = (.ok (), after)) : Provided fs path after

def creationFault (path : FilePath) (f : Failure) : Fault :=
  if f.kind.isSystem then .refused (.notCreated path) else .failed f

def openingRecord (path : FilePath) : LogRecord where
  level := .debug
  logger := logger
  message := "Using recorder home " ++ path.toString

section

variable (machine : Machine) (directory : String) (fs : FileSystem)

inductive Opening : Except Fault Home → List LogRecord → FileSystem → Prop
  | unexpanded {f : Failure} (expansion : absolutePath machine fs directory = .error f) :
      Opening (.error (.failed f)) [] fs
  | spaced {path : FilePath} (expansion : absolutePath machine fs directory = .ok path)
      (space : ' ' ∈ Text.trim path.toText) : Opening (.error (.refused (.hasSpace path))) [] fs
  | unseen {path : FilePath} {f : Failure}
      (expansion : absolutePath machine fs directory = .ok path)
      (noSpace : ' ' ∉ Text.trim path.toText) (lookup : fs.entryAt path = .error f) :
      Opening (.error (.failed f)) [] fs
  | uncreated {path : FilePath} {f : Failure} {after : FileSystem}
      (expansion : absolutePath machine fs directory = .ok path)
      (noSpace : ' ' ∉ Text.trim path.toText) (lookup : fs.entryAt path = .ok none)
      (creation : fs.makeDirectories false path = (.error f, after)) :
      Opening (.error (creationFault path f)) [] after
  | occupied {path : FilePath} {content : Bytes}
      (expansion : absolutePath machine fs directory = .ok path)
      (noSpace : ' ' ∉ Text.trim path.toText)
      (lookup : fs.entryAt path = .ok (some (.file content))) :
      Opening (.error (.refused (.notDirectory path))) [] fs
  | locked {path : FilePath} {after : FileSystem}
      (expansion : absolutePath machine fs directory = .ok path)
      (noSpace : ' ' ∉ Text.trim path.toText) (provided : Provided fs path after)
      (readOnly : machine.mayWrite path = false) :
      Opening (.error (.refused (.notWritable path))) [] after
  | opened {path : FilePath} {after : FileSystem}
      (expansion : absolutePath machine fs directory = .ok path)
      (noSpace : ' ' ∉ Text.trim path.toText) (provided : Provided fs path after)
      (writable : machine.mayWrite path = true) : Opening (.ok ⟨path⟩) [openingRecord path] after

end

variable {machine : Machine} {directory : String} {s s' : Session} {path : FilePath} {f : Failure}
  {fs after : FileSystem}

lemma orFail_ok {α : Type} (a : α) (s : Session) :
    orFail (.ok a : Except Failure α) s = (.ok a, s) := rfl

lemma orFail_error {α : Type} (f : Failure) (s : Session) :
    (orFail (.error f : Except Failure α)) s = (.error (.failed f), s) := rfl

lemma orFail_pathExists_ok {entry : Option Entry} (lookup : fs.entryAt path = .ok entry)
    (s : Session) : orFail (fs.pathExists path) s = (.ok entry.isSome, s) := by
  rw [FileSystem.pathExists, lookup]
  rfl

lemma orFail_pathExists_error (lookup : fs.entryAt path = .error f) (s : Session) :
    orFail (fs.pathExists path) s = (.error (.failed f), s) := by
  rw [FileSystem.pathExists, lookup]
  rfl

lemma create_of_unseen (lookup : s.files.entryAt path = .error f) :
    create path s = (.error (.failed f), s) := by
  refine (Act.bind_of_ok rfl).trans ?_
  exact Act.bind_of_error (orFail_pathExists_error lookup s)

lemma create_of_present {entry : Entry} (lookup : s.files.entryAt path = .ok (some entry)) :
    create path s = (.ok (), s) := by
  refine (Act.bind_of_ok rfl).trans ?_
  exact Act.bind_of_ok (orFail_pathExists_ok lookup s)

lemma create_of_missing {result : Except Failure Unit} (lookup : s.files.entryAt path = .ok none)
    (creation : s.files.makeDirectories false path = (result, after)) :
    create path s = (result.mapError (creationFault path), { s with files := after }) := by
  refine (Act.bind_of_ok rfl).trans ?_
  refine (Act.bind_of_ok (orFail_pathExists_ok lookup s)).trans ?_
  rw [Option.isSome_none, if_neg Bool.false_ne_true, creation]
  refine (Act.bind_of_ok rfl).trans ?_
  cases result with
  | ok => rfl
  | error f =>
    cases hsystem : f.kind.isSystem <;>
      simp [creationFault, Except.mapError, Act.fail, hsystem]

lemma openAt_of_unexpanded (expansion : absolutePath machine s.files directory = .error f) :
    openAt machine (some directory) s = (.error (.failed f), s) := by
  refine (Act.bind_of_ok rfl).trans ?_
  rw [expansion]
  exact Act.bind_of_error (orFail_error f s)

lemma openAt_of_spaced (expansion : absolutePath machine s.files directory = .ok path)
    (space : ' ' ∈ Text.trim path.toText) :
    openAt machine (some directory) s = (.error (.refused (.hasSpace path)), s) := by
  refine (Act.bind_of_ok rfl).trans ?_
  rw [expansion]
  refine (Act.bind_of_ok (orFail_ok path s)).trans ?_
  rw [if_pos (List.contains_iff_mem.mpr space)]
  exact Act.bind_of_error rfl

lemma openAt_of_create_error {e : Fault}
    (expansion : absolutePath machine s.files directory = .ok path)
    (noSpace : ' ' ∉ Text.trim path.toText) (creation : create path s = (.error e, s')) :
    openAt machine (some directory) s = (.error e, s') := by
  refine (Act.bind_of_ok rfl).trans ?_
  rw [expansion]
  refine (Act.bind_of_ok (orFail_ok path s)).trans ?_
  rw [if_neg (by simpa using noSpace)]
  exact Act.bind_of_error creation

lemma openAt_of_create_ok {isDirectory : Bool}
    (expansion : absolutePath machine s.files directory = .ok path)
    (noSpace : ' ' ∉ Text.trim path.toText) (creation : create path s = (.ok (), s'))
    (lookup : s'.files.isDirectory path = .ok isDirectory) :
    openAt machine (some directory) s =
      if isDirectory = false then (.error (.refused (.notDirectory path)), s')
      else if machine.mayWrite path = false then (.error (.refused (.notWritable path)), s')
      else (.ok ⟨path⟩, { s' with records := s'.records ++ [openingRecord path] }) := by
  refine (Act.bind_of_ok rfl).trans ?_
  rw [expansion]
  refine (Act.bind_of_ok (orFail_ok path s)).trans ?_
  rw [if_neg (by simpa using noSpace)]
  refine (Act.bind_of_ok creation).trans ?_
  refine (Act.bind_of_ok rfl).trans ?_
  rw [lookup]
  refine (Act.bind_of_ok (orFail_ok isDirectory s')).trans ?_
  cases isDirectory with
  | false => rfl
  | true => cases machine.mayWrite path <;> rfl

lemma isDirectory_of_entryAt {entry : Option Entry} (lookup : fs.entryAt path = .ok entry) :
    fs.isDirectory path = .ok (entry == some .directory) := by
  rw [FileSystem.isDirectory, lookup]
  rfl

lemma Provided.isDirectory (h : Provided fs path after) : after.isDirectory path = .ok true := by
  cases h with
  | present lookup => exact isDirectory_of_entryAt lookup
  | created lookup creation =>
    have hmaking := fs.making_makeDirectories false path
    rw [creation] at hmaking
    exact hmaking.isDirectory rfl

lemma Provided.create_eq (h : Provided s.files path after) :
    create path s = (.ok (), { s with files := after }) := by
  cases h with
  | present lookup => exact create_of_present lookup
  | created lookup creation => exact create_of_missing lookup creation

/-- With a directory at its path it depends on the permission alone whether a home opens. -/
lemma exists_opening_of_provided (expansion : absolutePath machine s.files directory = .ok path)
    (noSpace : ' ' ∉ Text.trim path.toText) (provided : Provided s.files path after) :
    ∃ r records, Opening machine directory s.files r records after ∧
      openAt machine (some directory) s =
        (r, { s with records := s.records ++ records, files := after }) := by
  have hopen := openAt_of_create_ok expansion noSpace provided.create_eq provided.isDirectory
  cases hwrite : machine.mayWrite path with
  | false =>
    refine ⟨_, _, .locked expansion noSpace provided hwrite, ?_⟩
    simpa [hwrite] using hopen
  | true =>
    refine ⟨_, _, .opened expansion noSpace provided hwrite, ?_⟩
    simpa [hwrite] using hopen

lemma exists_opening (machine : Machine) (directory : String) (s : Session) :
    ∃ r records after, Opening machine directory s.files r records after ∧
      openAt machine (some directory) s =
        (r, { s with records := s.records ++ records, files := after }) := by
  cases expansion : absolutePath machine s.files directory with
  | error f =>
    refine ⟨_, _, _, .unexpanded expansion, ?_⟩
    simpa using openAt_of_unexpanded expansion
  | ok path =>
    by_cases space : ' ' ∈ Text.trim path.toText
    · refine ⟨_, _, _, .spaced expansion space, ?_⟩
      simpa using openAt_of_spaced expansion space
    · cases lookup : s.files.entryAt path with
      | error f =>
        refine ⟨_, _, _, .unseen expansion space lookup, ?_⟩
        simpa using openAt_of_create_error expansion space (create_of_unseen lookup)
      | ok entry =>
        rcases entry with _ | content | _
        · cases creation : s.files.makeDirectories false path with
          | mk result after =>
            cases result with
            | error f =>
              have hcreate := create_of_missing lookup creation
              refine ⟨_, _, _, .uncreated expansion space lookup creation, ?_⟩
              simpa using openAt_of_create_error expansion space hcreate
            | ok =>
              obtain ⟨r, records, h⟩ :=
                exists_opening_of_provided expansion space (.created lookup creation)
              exact ⟨r, records, after, h⟩
        · have hfound := isDirectory_of_entryAt lookup
          have hopen := openAt_of_create_ok expansion space (create_of_present lookup) hfound
          refine ⟨_, _, _, .occupied expansion space lookup, ?_⟩
          simpa using hopen
        · obtain ⟨r, records, h⟩ := exists_opening_of_provided expansion space (.present lookup)
          exact ⟨r, records, _, h⟩

lemma openAt_eq_ok {home : Home}
    (h : openAt machine (some directory) s = (.ok home, s')) :
    absolutePath machine s.files directory = .ok home.directory ∧
      ' ' ∉ Text.trim home.directory.toText ∧
      Provided s.files home.directory s'.files := by
  obtain ⟨r, records, after, hopening, hrun⟩ := exists_opening machine directory s
  obtain ⟨hr, hs'⟩ := Prod.mk.inj (hrun.symm.trans h)
  subst hs'
  cases hopening with
  | opened expansion noSpace provided =>
    obtain rfl := Except.ok.inj hr
    exact ⟨expansion, noSpace, provided⟩
  | unexpanded | spaced | unseen | uncreated | occupied | locked => cases hr

lemma isAbsolute_join {base p : FilePath} (h : base.isAbsolute = true) :
    (base.join p).isAbsolute = true := by
  unfold FilePath.join
  split_ifs with habsolute
  · exact habsolute
  · exact h

lemma isAbsolute_of_absolutePath (h : absolutePath machine fs directory = .ok path) :
    path.isAbsolute = true := by
  unfold absolutePath at h
  cases hexpand : machine.users.expand (FilePath.ofString directory) with
  | error f =>
    rw [hexpand] at h
    cases h
  | ok expanded =>
    rw [hexpand] at h
    rw [← Except.ok.inj h]
    exact isAbsolute_join rfl

lemma head?_toText (h : path.isAbsolute = true) : path.toText.head? = some '/' := by
  obtain ⟨slashes, parts⟩ := path
  cases slashes with
  | zero => simp [FilePath.isAbsolute] at h
  | succ slashes => simp [FilePath.toText, List.replicate_succ]

/-- Before the blanks at the end of an absolute path there is what is looked at for spaces. -/
lemma toText_eq_trim_append (h : path.isAbsolute = true) :
    path.toText = Text.trim path.toText ++ path.toText.rtakeWhile Text.isBlank := by
  have hstart : Text.trimStart path.toText = path.toText := by
    refine Text.trimStart_eq_self fun c hc => ?_
    obtain rfl := Option.some.inj ((head?_toText h).symm.trans hc)
    decide
  rw [Text.trim, hstart, Text.trimEnd_eq_rdropWhile, List.rdropWhile_append_rtakeWhile]

/-- A home is a directory at an absolute path. The path has no space in it exactly if there is none
among the blanks that it ends with. -/
theorem openAt_space_iff (machine : Machine) (directory : String) (s : Session) {home : Home}
    {s' : Session} (h : openAt machine (some directory) s = (.ok home, s')) :
    home.directory.isAbsolute = true ∧ s'.files.isDirectory home.directory = .ok true ∧
      (' ' ∉ home.directory.toText ↔ ' ' ∉ home.directory.toText.rtakeWhile Text.isBlank) := by
  obtain ⟨expansion, noSpace, provided⟩ := openAt_eq_ok h
  have habsolute := isAbsolute_of_absolutePath expansion
  refine ⟨habsolute, provided.isDirectory, ?_⟩
  conv_lhs => rw [toText_eq_trim_append habsolute, List.mem_append, not_or]
  exact and_iff_right noSpace

def soleUser : Machine where
  users := { ownHome := ['/', 'u'] }
  time := []

/-- Below the directory of the user, with another blank than the space in its name. -/
theorem openAt_space_free_tilde :
    let directory : FilePath := ⟨1, [['u'], ['r', '\u00a0', 'd']]⟩
    ∃ s', openAt soleUser (some "~/r\u00a0d") {} = (.ok ⟨directory⟩, s') ∧
      directory.isAbsolute = true ∧ s'.files.isDirectory directory = .ok true ∧
      ' ' ∉ directory.toText := by
  intro directory
  have hdirectory : (openAt soleUser (some "~/r\u00a0d") {}).1.toOption = some ⟨directory⟩ := by
    decide +kernel
  rcases hopen : openAt soleUser (some "~/r\u00a0d") {} with ⟨e | home, s'⟩
  · rw [hopen] at hdirectory
    cases hdirectory
  · rw [hopen] at hdirectory
    obtain rfl := Option.some.inj hdirectory
    obtain ⟨habsolute, hfound, hspace⟩ := openAt_space_iff soleUser "~/r\u00a0d" {} hopen
    exact ⟨s', rfl, habsolute, hfound, hspace.mpr (by decide)⟩

/-- A space at the very end of the path is not noticed. -/
theorem openAt_last_space :
    ¬ ∀ machine directory s home s', openAt machine (some directory) s = (.ok home, s') →
      home.directory.isAbsolute = true ∧ ' ' ∉ home.directory.toText ∧
        s'.files.isDirectory home.directory = .ok true := by
  intro h
  have hopen : openAt soleUser (some "/h ") {} =
      (.ok ⟨⟨1, [['h', ' ']]⟩⟩, (openAt soleUser (some "/h ") {}).2) := rfl
  obtain ⟨-, hspace, -⟩ := h soleUser "/h " {} _ _ hopen
  exact hspace (by decide)

end HostDiscovery.Home
