import HostDiscovery.Proofs.Files.Storage

/-! What creating directories does. A file system grows by it and loses nothing, however far the
creation comes; one that succeeds leaves a directory at its path, and one that fails does so for
the system's reasons unless the path has a NUL character. -/
namespace HostDiscovery

namespace FileSystem

/-- Nothing has changed but for new directories. -/
structure Grows (before after : FileSystem) : Prop where
  get?_eq_or : ∀ location, after.get? location = before.get? location ∨
    before.get? location = none ∧ after.get? location = some .directory
  workingDirectory_eq : after.workingDirectory = before.workingDirectory

variable {fs after : FileSystem} {location : Location} {path : FilePath} {f : Failure}
  {mayExist : Bool} {result : Except Failure Unit} {content : Bytes}

namespace Grows

lemma refl (fs : FileSystem) : Grows fs fs := ⟨fun _ => .inl rfl, rfl⟩

lemma get?_eq_some (h : Grows fs after) {entry : Entry} (hentry : fs.get? location = some entry) :
    after.get? location = some entry := by
  obtain heq | ⟨hnone, -⟩ := h.get?_eq_or location
  · rw [heq, hentry]
  · simp [hnone] at hentry

lemma trans {middle : FileSystem} (h : Grows fs middle) (h' : Grows middle after) :
    Grows fs after where
  get?_eq_or location := by
    obtain heq' | ⟨hnone', hnew'⟩ := h'.get?_eq_or location
    · rw [heq']
      exact h.get?_eq_or location
    · obtain heq | ⟨-, hnew⟩ := h.get?_eq_or location
      · exact .inr ⟨heq ▸ hnone', hnew'⟩
      · simp [hnew] at hnone'
  workingDirectory_eq := h'.workingDirectory_eq.trans h.workingDirectory_eq

lemma put (h : fs.get? location = none) : Grows fs (fs.put location .directory) where
  get?_eq_or other := by
    by_cases hother : other = location
    · subst hother
      have hne : other ≠ [] := by
        rintro rfl
        cases h
      exact .inr ⟨h, get?_put_self hne _⟩
    · exact .inl (get?_put_of_ne hother _)
  workingDirectory_eq := rfl

lemma read_eq (h : Grows fs after) (hread : fs.read path = .ok content) :
    after.read path = .ok content := by
  obtain ⟨hnul, there, hlocate⟩ := read_eq_ok_iff.mp hread
  have hfound : after.get? there = some (.file content) :=
    h.get?_eq_some (get?_of_locate_file hlocate)
  exact read_eq_ok_iff.mpr ⟨hnul, there, locate_of_directories hlocate rfl
    (fun _ => h.get?_eq_some) h.workingDirectory_eq hfound⟩

end Grows

lemma makeDirectory_eq_ok_iff : fs.makeDirectory path = .ok after ↔
    path.hasNul = false ∧ ∃ location, fs.locate path = .ok (.free location) ∧
      after = fs.put location .directory := by
  unfold makeDirectory
  cases path.hasNul with
  | true => simp
  | false => rcases fs.locate path with fault | (⟨l, e⟩ | l) <;> simp [eq_comm]

lemma grows_of_makeDirectory (h : fs.makeDirectory path = .ok after) : Grows fs after := by
  obtain ⟨-, location, hlocate, rfl⟩ := makeDirectory_eq_ok_iff.mp h
  exact .put (locate_eq_ok_iff.mp hlocate).2.get?_eq_none

lemma isDirectory_eq_true_iff_entryAt :
    fs.isDirectory path = .ok true ↔ fs.entryAt path = .ok (some .directory) := by
  unfold isDirectory
  cases fs.entryAt path with
  | error f => simp [Except.map]
  | ok entry => simp [Except.map]

lemma isDirectory_eq_true_iff : fs.isDirectory path = .ok true ↔
    path.hasNul = false ∧ ∃ location, fs.locate path = .ok (.taken location .directory) := by
  rw [isDirectory_eq_true_iff_entryAt, entryAt_eq_some_iff]

lemma isDirectory_of_makeDirectory (h : fs.makeDirectory path = .ok after) :
    after.isDirectory path = .ok true := by
  obtain ⟨hnul, location, hlocate, rfl⟩ := makeDirectory_eq_ok_iff.mp h
  exact isDirectory_eq_true_iff.mpr ⟨hnul, location, locate_put hlocate rfl .directory⟩

lemma isSystem_of_makeDirectory (hnul : path.hasNul = false)
    (h : fs.makeDirectory path = .error f) : f.kind.isSystem = true := by
  rw [makeDirectory, if_neg (by simp [hnul])] at h
  split at h
  · cases h
  · rw [← Except.error.inj h, PathFault.isSystem_failure]
  · rw [← Except.error.inj h, PathFault.isSystem_failure]

structure Making (fs : FileSystem) (path : FilePath) (result : Except Failure Unit)
    (after : FileSystem) : Prop where
  grows : Grows fs after
  isDirectory : result = .ok () → after.isDirectory path = .ok true
  isSystem : ∀ f, result = .error f → path.hasNul = false → f.kind.isSystem = true

lemma making_settle (mayExist : Bool) (fs : FileSystem) (path : FilePath) :
    Making fs path (settle mayExist fs path (fs.makeDirectory path)).1
      (settle mayExist fs path (fs.makeDirectory path)).2 := by
  cases hmake : fs.makeDirectory path with
  | ok made =>
    exact ⟨grows_of_makeDirectory hmake, fun _ => isDirectory_of_makeDirectory hmake, nofun⟩
  | error f =>
    have hfails : Making fs path (.error f) fs :=
      ⟨.refl fs, nofun, fun g hg hnul => Except.error.inj hg ▸ isSystem_of_makeDirectory hnul hmake⟩
    unfold settle
    cases hdirectory : fs.isDirectory path with
    | error g => exact hfails
    | ok present =>
      cases present with
      | false => exact hfails
      | true =>
        dsimp only
        split_ifs
        · exact ⟨.refl fs, fun _ => hdirectory, nofun⟩
        · exact hfails

lemma Making.trans {middle : FileSystem} {above : FilePath} {first : Except Failure Unit}
    (h : Making fs above first middle) (h' : Making middle path result after) :
    Making fs path result after :=
  ⟨h.grows.trans h'.grows, h'.isDirectory, h'.isSystem⟩

lemma making_makeDirectoriesFrom (mayExist : Bool) (slashes : Nat) (parts : List Text)
    (fs : FileSystem) :
    Making fs ⟨slashes, parts.reverse⟩ (makeDirectoriesFrom mayExist slashes parts fs).1
      (makeDirectoriesFrom mayExist slashes parts fs).2 := by
  induction parts generalizing mayExist fs with
  | nil => exact making_settle mayExist fs ⟨slashes, []⟩
  | cons part above ih =>
    unfold makeDirectoriesFrom
    dsimp only
    split
    · have hancestors := ih true fs
      split
      · next f middle hfails =>
        rw [hfails] at hancestors
        refine ⟨hancestors.grows, nofun, fun g hg hnul => hancestors.isSystem g hg ?_⟩
        simp only [FilePath.hasNul, List.reverse_cons, List.any_append,
          Bool.or_eq_false_iff] at hnul
        exact hnul.1
      · next middle hmade =>
        rw [hmade] at hancestors
        exact hancestors.trans (making_settle mayExist middle _)
    · exact making_settle mayExist fs _

lemma making_makeDirectories (fs : FileSystem) (mayExist : Bool) (path : FilePath) :
    Making fs path (fs.makeDirectories mayExist path).1 (fs.makeDirectories mayExist path).2 := by
  have h := making_makeDirectoriesFrom mayExist path.slashes path.parts.reverse fs
  rwa [List.reverse_reverse] at h

lemma makeDirectories_of_hasNul (h : path.hasNul = true) :
    fs.makeDirectories mayExist path = (.error nulFailure, fs) := by
  have hmake : fs.makeDirectory path = .error nulFailure := if_pos h
  have hsettle : settle mayExist fs path (.error nulFailure) = (.error nulFailure, fs) := by
    simp [settle, isDirectory, entryAt, h, Except.map]
  cases hparts : path.parts.reverse with
  | nil =>
    have hnil : path.parts = [] := List.reverse_eq_nil_iff.mp hparts
    simp [FilePath.hasNul, hnil] at h
  | cons part above =>
    have hpath : (⟨path.slashes, (part :: above).reverse⟩ : FilePath) = path := by
      rw [← hparts, List.reverse_reverse]
    rw [makeDirectories, hparts, makeDirectoriesFrom, hpath, hmake]
    exact hsettle

lemma isSystem_iff_of_makeDirectories
    (h : fs.makeDirectories mayExist path = (.error f, after)) :
    f.kind.isSystem = true ↔ path.hasNul = false := by
  cases hnul : path.hasNul with
  | true =>
    obtain ⟨rfl, -⟩ : nulFailure = f ∧ fs = after := by
      simpa [makeDirectories_of_hasNul hnul] using h
    decide
  | false =>
    have hmaking := fs.making_makeDirectories mayExist path
    rw [h] at hmaking
    exact iff_of_true (hmaking.isSystem f rfl hnul) rfl

end FileSystem

end HostDiscovery
