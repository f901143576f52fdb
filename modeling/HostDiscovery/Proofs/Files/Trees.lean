import HostDiscovery.Proofs.Files.Directories

/-! File systems are trees: whatever there is stands in a directory. Creating a directory with its
ancestors keeps that, and the directories that are new by it are those that its path passes. -/
namespace HostDiscovery

namespace FileSystem

/-- Whatever there is stands in a directory. -/
def IsTree (fs : FileSystem) : Prop :=
  ∀ location name entry, fs.get? (location ++ [name]) = some entry →
    fs.get? location = some .directory

variable {fs after middle : FileSystem} {location parent here there : Location} {name : Text}
  {entry : Entry} {parts above : List Text} {path : FilePath}

lemma get?_of_ne_nil (h : location ≠ []) :
    fs.get? location = (fs.entries.find? (·.1 == location)).map (·.2) := by
  cases location with
  | nil => exact absurd rfl h
  | cons name rest => rfl

lemma isTree_iff : fs.IsTree ↔ ∀ e ∈ fs.entries, fs.get? e.1.dropLast = some .directory := by
  constructor
  · rintro h ⟨location, entry⟩ he
    rcases List.eq_nil_or_concat location with rfl | ⟨parent, name, rfl⟩
    · rfl
    · rw [List.concat_eq_append] at he ⊢
      have hfound : (fs.entries.find? (·.1 == parent ++ [name])).isSome = true :=
        List.find?_isSome.mpr ⟨_, he, beq_self_eq_true _⟩
      obtain ⟨e, hfind⟩ := Option.isSome_iff_exists.mp hfound
      have hget : fs.get? (parent ++ [name]) = some e.2 := by
        rw [get?_of_ne_nil (by simp), hfind, Option.map_some]
      rw [List.dropLast_concat]
      exact h parent name e.2 hget
  · intro h parent name entry hget
    rw [get?_of_ne_nil (by simp), Option.map_eq_some_iff] at hget
    obtain ⟨e, hfind, -⟩ := hget
    have hmatch := List.find?_some hfind
    have heq : e.1 = parent ++ [name] := by simpa using hmatch
    have hparent := h e (List.mem_of_find?_eq_some hfind)
    rwa [heq, List.dropLast_concat] at hparent

instance (fs : FileSystem) : Decidable fs.IsTree := decidable_of_iff _ isTree_iff.symm

namespace IsTree

lemma get?_of_append (h : fs.IsTree) {below : Location} (hbelow : below ≠ [])
    (hget : fs.get? (location ++ below) = some entry) : fs.get? location = some .directory := by
  induction below generalizing location with
  | nil => exact absurd rfl hbelow
  | cons name rest ih =>
    by_cases hrest : rest = []
    · subst hrest
      exact h location name entry hget
    · rw [List.append_cons] at hget
      exact h location name _ (ih hrest hget)

lemma get?_dropLast (h : fs.IsTree) (hget : fs.get? location = some .directory) :
    fs.get? location.dropLast = some .directory := by
  rcases List.eq_nil_or_concat location with rfl | ⟨parent, name, rfl⟩
  · exact hget
  · rw [List.concat_eq_append] at hget ⊢
    rw [List.dropLast_concat]
    exact h parent name _ hget

lemma put (h : fs.IsTree) (hparent : fs.get? parent = some .directory)
    (hplace : fs.get? (parent ++ [name]) ≠ some .directory) (entry : Entry) :
    (fs.put (parent ++ [name]) entry).IsTree := by
  intro location last found hget
  have hdirectory : fs.get? location = some .directory := by
    by_cases heq : location ++ [last] = parent ++ [name]
    · obtain ⟨rfl, -⟩ := List.append_inj' heq rfl
      exact hparent
    · rw [get?_put_of_ne heq] at hget
      exact h _ _ _ hget
  have hne : location ≠ parent ++ [name] := by
    rintro rfl
    exact hplace hdirectory
  rw [get?_put_of_ne hne, hdirectory]

end IsTree

lemma Follows.exists_parent (h : Follows fs here parts (.ok (.free there))) (htree : fs.IsTree)
    (hhere : fs.get? here = some .directory) :
    ∃ parent name, there = parent ++ [name] ∧ fs.get? parent = some .directory := by
  generalize hr : (.ok (.free there) : Except PathFault Place) = result at h
  induction h with
  | up next ih => exact ih (htree.get?_dropLast hhere) hr
  | down name short found next ih => exact ih found hr
  | free name short found =>
    obtain rfl := Place.free.inj (Except.ok.inj hr)
    exact ⟨_, _, rfl, hhere⟩
  | arrived | file => cases Except.ok.inj hr
  | tooLong | missing | blocked => cases hr

lemma Follows.mono (h : Follows fs here parts (.ok (.taken there .directory)))
    (hdirectories : ∀ l, fs.get? l = some .directory → after.get? l = some .directory) :
    Follows after here parts (.ok (.taken there .directory)) := by
  generalize hr : (.ok (.taken there .directory) : Except PathFault Place) = result at h
  induction h with
  | arrived =>
    obtain ⟨rfl, -⟩ := Place.taken.inj (Except.ok.inj hr)
    exact .arrived
  | up next ih => exact .up (ih hr)
  | down name short found next ih => exact .down name short (hdirectories _ found) (ih hr)
  | free | file => cases Except.ok.inj hr
  | tooLong | missing | blocked => cases hr

lemma locate_mono (h : fs.locate path = .ok (.taken location .directory))
    (hdirectories : ∀ l, fs.get? l = some .directory → after.get? l = some .directory)
    (hstart : after.workingDirectory = fs.workingDirectory) :
    after.locate path = .ok (.taken location .directory) := by
  obtain ⟨hlimit, hfollows⟩ := locate_eq_ok_iff.mp h
  have hbegin : after.start path = fs.start path := by rw [start, start, hstart]
  refine locate_eq_ok_iff.mpr ⟨hlimit, ?_⟩
  rw [hbegin]
  exact hfollows.mono hdirectories

lemma isDirectory_mono (h : fs.isDirectory path = .ok true)
    (hdirectories : ∀ l, fs.get? l = some .directory → after.get? l = some .directory)
    (hstart : after.workingDirectory = fs.workingDirectory) :
    after.isDirectory path = .ok true := by
  obtain ⟨hnul, location, hlocate⟩ := isDirectory_eq_true_iff.mp h
  have hlocate' := locate_mono hlocate hdirectories hstart
  exact isDirectory_eq_true_iff.mpr ⟨hnul, location, hlocate'⟩

/-- The first components of a path, or all of them, lead to the directory at a location. -/
def Passes (fs : FileSystem) (path : FilePath) (location : Location) : Prop :=
  ∃ above, above <+: path.parts ∧
    fs.locate { path with parts := above } = .ok (.taken location .directory)

lemma Passes.mono (h : fs.Passes path location) (hgrows : Grows fs after) :
    after.Passes path location := by
  obtain ⟨above, habove, hlocate⟩ := h
  have hlocate' := locate_mono hlocate (fun _ => hgrows.get?_eq_some) hgrows.workingDirectory_eq
  exact ⟨above, habove, hlocate'⟩

/-- Nothing has changed but for new directories that a path passes. -/
structure GrowsAlong (path : FilePath) (before after : FileSystem) : Prop where
  grows : Grows before after
  passes : ∀ location, before.get? location = none → after.get? location ≠ none →
    after.Passes path location
  isTree : before.IsTree → after.IsTree

lemma GrowsAlong.refl (path : FilePath) (fs : FileSystem) : GrowsAlong path fs fs :=
  ⟨.refl fs, fun _ hnone hsome => absurd hnone hsome, id⟩

lemma GrowsAlong.trans (h : GrowsAlong path fs middle) (h' : GrowsAlong path middle after) :
    GrowsAlong path fs after where
  grows := h.grows.trans h'.grows
  passes location hnone hsome := by
    by_cases hmiddle : middle.get? location = none
    · exact h'.passes location hmiddle hsome
    · exact (h.passes location hnone hmiddle).mono h'.grows
  isTree := h'.isTree ∘ h.isTree

lemma growsAlong_of_makeDirectory (habsolute : path.isAbsolute = true)
    (habove : above <+: path.parts)
    (h : fs.makeDirectory { path with parts := above } = .ok after) :
    GrowsAlong path fs after := by
  obtain ⟨-, made, hlocate, hafter⟩ := makeDirectory_eq_ok_iff.mp h
  have hfollows := (locate_eq_ok_iff.mp hlocate).2
  refine ⟨grows_of_makeDirectory h, fun location hnone hsome => ?_, fun htree => ?_⟩
  · by_cases hmade : location = made
    · rw [hmade, hafter]
      exact ⟨above, habove, locate_put hlocate rfl .directory⟩
    · rw [hafter, get?_put_of_ne hmade] at hsome
      exact absurd hnone hsome
  · have hstart : fs.start { path with parts := above } = [] := if_pos habsolute
    rw [hstart] at hfollows
    obtain ⟨parent, name, rfl, hparent⟩ := hfollows.exists_parent htree rfl
    have hplace : fs.get? (parent ++ [name]) ≠ some .directory := by simp [hfollows.get?_eq_none]
    rw [hafter]
    exact htree.put hparent hplace _

lemma settle_error (mayExist : Bool) (fs : FileSystem) (path : FilePath) (f : Failure) :
    (settle mayExist fs path (.error f)).2 = fs := by
  rw [settle]
  split
  · split_ifs <;> rfl
  · rfl

lemma growsAlong_settle (habsolute : path.isAbsolute = true) (habove : above <+: path.parts)
    (mayExist : Bool) (fs : FileSystem) :
    GrowsAlong path fs (settle mayExist fs { path with parts := above }
      (fs.makeDirectory { path with parts := above })).2 := by
  cases hmake : fs.makeDirectory { path with parts := above } with
  | error f =>
    rw [settle_error]
    exact .refl path fs
  | ok made => exact growsAlong_of_makeDirectory habsolute habove hmake

/-- The components are those of a first part of the path, the last one first. -/
lemma growsAlong_makeDirectoriesFrom (habsolute : path.isAbsolute = true)
    (hparts : parts.reverse <+: path.parts) (mayExist : Bool) (fs : FileSystem) :
    GrowsAlong path fs (makeDirectoriesFrom mayExist path.slashes parts fs).2 := by
  induction parts generalizing mayExist fs with
  | nil => exact growsAlong_settle habsolute hparts mayExist fs
  | cons part above ih =>
    have hself := growsAlong_settle habsolute hparts mayExist
    rw [List.reverse_cons] at hparts
    have hancestors := ih ((List.prefix_append _ _).trans hparts) true fs
    unfold makeDirectoriesFrom
    dsimp only
    split
    · split
      · next f middle hfails =>
        rw [hfails] at hancestors
        exact hancestors
      · next middle hmade =>
        rw [hmade] at hancestors
        exact hancestors.trans (hself middle)
    · exact hself fs

lemma growsAlong_makeDirectories (habsolute : path.isAbsolute = true) (mayExist : Bool)
    (fs : FileSystem) : GrowsAlong path fs (fs.makeDirectories mayExist path).2 := by
  have hparts : path.parts.reverse.reverse <+: path.parts := by simp
  exact growsAlong_makeDirectoriesFrom habsolute hparts mayExist fs

end FileSystem

end HostDiscovery
