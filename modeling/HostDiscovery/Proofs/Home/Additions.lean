import HostDiscovery.Proofs.Files.Trees
import HostDiscovery.Proofs.Home.Opening

/-! What the opening of a home leaves behind, however it ends. Nothing is lost, and new are only
directories that the path of the home passes. -/
namespace HostDiscovery.Home

open FileSystem

/-- Everything is kept. What is new is a directory that the path of the home passes, and there is
nothing in it but new directories. -/
structure Additions (machine : Machine) (directory : String) (before after : FileSystem) :
    Prop where
  kept : ∀ location entry, before.get? location = some entry → after.get? location = some entry
  isDirectory : ∀ location entry, before.get? location = none →
    after.get? location = some entry → entry = .directory
  onWay : ∀ location entry, before.get? location = none → after.get? location = some entry →
    ∃ path, absolutePath machine before directory = .ok path ∧ after.Passes path location
  inside : ∀ location entry, before.get? location = none → after.get? location = some entry →
    ∀ below inner, after.get? (location ++ below) = some inner →
      before.get? (location ++ below) = none ∧ inner = .directory

variable {machine : Machine} {directory : String} {fs after : FileSystem} {path : FilePath}
  {r : Except Fault Home} {records : List LogRecord}

lemma additions_refl (machine : Machine) (directory : String) (fs : FileSystem) :
    Additions machine directory fs fs where
  kept _ _ h := h
  isDirectory _ _ hnone hsome := by simp [hnone] at hsome
  onWay _ _ hnone hsome := by simp [hnone] at hsome
  inside _ _ hnone hsome := by simp [hnone] at hsome

lemma Additions.of_growsAlong (htree : fs.IsTree)
    (expansion : absolutePath machine fs directory = .ok path) (h : GrowsAlong path fs after) :
    Additions machine directory fs after := by
  have hnew : ∀ location entry, fs.get? location = none → after.get? location = some entry →
      entry = .directory := by
    intro location entry hnone hsome
    obtain heq | ⟨-, hdirectory⟩ := h.grows.get?_eq_or location
    · simp [heq, hnone] at hsome
    · exact (Option.some.inj (hdirectory.symm.trans hsome)).symm
  refine ⟨fun _ _ => h.grows.get?_eq_some, hnew, ?_, ?_⟩
  · intro location entry hnone hsome
    exact ⟨path, expansion, h.passes location hnone (by simp [hsome])⟩
  · intro location entry hnone hsome below inner hinner
    have hbelow : fs.get? (location ++ below) = none := by
      cases hold : fs.get? (location ++ below) with
      | none => rfl
      | some old =>
        by_cases hnil : below = []
        · simp [hnil, hnone] at hold
        · simp [htree.get?_of_append hnil hold] at hnone
    exact ⟨hbelow, hnew _ _ hbelow hinner⟩

lemma Provided.growsAlong (h : Provided fs path after) (habsolute : path.isAbsolute = true) :
    after = fs ∨ fs.entryAt path = .ok none ∧ GrowsAlong path fs after := by
  cases h with
  | present lookup => exact .inl rfl
  | created lookup creation =>
    have hgrows := growsAlong_makeDirectories habsolute false fs
    rw [creation] at hgrows
    exact .inr ⟨lookup, hgrows⟩

lemma Opening.growsAlong (h : Opening machine directory fs r records after) :
    after = fs ∨ ∃ path, absolutePath machine fs directory = .ok path ∧
      fs.entryAt path = .ok none ∧ GrowsAlong path fs after := by
  cases h with
  | unexpanded | spaced | unseen | occupied => exact .inl rfl
  | @uncreated path f after expansion noSpace lookup creation =>
    have hgrows := growsAlong_makeDirectories (isAbsolute_of_absolutePath expansion) false fs
    rw [creation] at hgrows
    exact .inr ⟨path, expansion, lookup, hgrows⟩
  | locked expansion noSpace provided | opened expansion noSpace provided =>
    have habsolute := isAbsolute_of_absolutePath expansion
    exact (provided.growsAlong habsolute).imp id fun hcreated => ⟨_, expansion, hcreated⟩

lemma Opening.eq_of_hasSpace
    (h : Opening machine directory fs (.error (.refused (.hasSpace path))) records after) :
    after = fs := by
  generalize hr : (.error (.refused (.hasSpace path)) : Except Fault Home) = result at h
  cases h with
  | unexpanded | spaced | unseen | occupied => rfl
  | uncreated =>
    rw [creationFault] at hr
    split_ifs at hr <;> cases hr
  | locked | opened => cases hr

/-- However the opening of a home ends, everything that was there is still there, and all that is
new are directories on the way of its path, with nothing but new directories in them. Nothing is new
at all where the path was there before or was refused for a space. -/
theorem openAt_adds_directories (machine : Machine) (directory : String) (s : Session)
    (htree : s.files.IsTree) :
    ∃ r s', openAt machine (some directory) s = (r, s') ∧
      Additions machine directory s.files s'.files ∧ s'.files.IsTree ∧
      (∀ path, absolutePath machine s.files directory = .ok path →
        s.files.pathExists path = .ok true → s'.files = s.files) ∧
      ∀ path, r = .error (.refused (.hasSpace path)) → s'.files = s.files := by
  obtain ⟨r, records, after, hopening, hrun⟩ := exists_opening machine directory s
  refine ⟨r, _, hrun, ?_⟩
  have hspace : ∀ path, r = .error (.refused (.hasSpace path)) → after = s.files := by
    rintro path rfl
    exact hopening.eq_of_hasSpace
  obtain rfl | ⟨path, expansion, lookup, hgrows⟩ := hopening.growsAlong
  · exact ⟨additions_refl _ _ _, htree, fun _ _ _ => rfl, hspace⟩
  · refine ⟨.of_growsAlong htree expansion hgrows, hgrows.isTree htree, ?_, hspace⟩
    intro other hother hexists
    obtain rfl := Except.ok.inj (expansion.symm.trans hother)
    rw [pathExists, lookup] at hexists
    cases hexists

def fileInDirectory : FileSystem where
  entries := [([['d']], .directory), ([['d'], ['f']], .file [7])]

/-- The creation breaks off at the file; what was created before that stays, on the way of the path
although the path leaves it again. -/
theorem openAt_adds_directories_half_way :
    let path : FilePath := ⟨1, [['d'], ['n'], ['.', '.'], ['f'], ['x']]⟩
    fileInDirectory.IsTree ∧
      ∃ s', openAt soleUser (some "/d/n/../f/x") { files := fileInDirectory } =
          (.error (.refused (.notCreated path)), s') ∧
        s'.files.get? [['d'], ['f']] = some (.file [7]) ∧
        s'.files.get? [['d'], ['n']] = some .directory ∧
        s'.files.Passes path [['d'], ['n']] ∧ s'.files.IsTree := by
  intro path
  let start : Session := { files := fileInDirectory }
  have htree : fileInDirectory.IsTree := by decide
  have hresult : (openAt soleUser (some "/d/n/../f/x") start).1 =
      .error (.refused (.notCreated path)) := by decide +kernel
  have hmade : (openAt soleUser (some "/d/n/../f/x") start).2.files.get? [['d'], ['n']] =
      some .directory := by decide +kernel
  have hexpansion : absolutePath soleUser fileInDirectory "/d/n/../f/x" = .ok path := by
    decide +kernel
  obtain ⟨r, s', hrun, hadditions, htree', -⟩ :=
    openAt_adds_directories soleUser "/d/n/../f/x" start htree
  rw [hrun] at hresult hmade
  obtain rfl : r = .error (.refused (.notCreated path)) := hresult
  obtain ⟨other, hother, hpasses⟩ := hadditions.onWay [['d'], ['n']] _ rfl hmade
  obtain rfl := Except.ok.inj (hexpansion.symm.trans hother)
  exact ⟨htree, s', hrun, hadditions.kept _ _ rfl, hmade, hpasses, htree'⟩

end HostDiscovery.Home
