import HostDiscovery.Proofs.Home.Copying
import HostDiscovery.Proofs.Text.Split

/-! Where a copy into a home goes and what is found there. The destination is right below the home
as long as the target has a last name that an entry can have; a copy that works out leaves a file
there unless there was a directory before. -/
namespace HostDiscovery

namespace FilePath

open Text

structure IsEntryName (name : Text) : Prop where
  ne_nil : name ≠ []
  ne_point : name ≠ ['.']
  ne_parentMark : name ≠ parentMark
  one : '/' ∉ name

lemma of_mem_partsOf {s part : Text} (h : part ∈ partsOf s) :
    part ≠ [] ∧ part ≠ ['.'] ∧ '/' ∉ part := by
  obtain ⟨hsplit, hpart⟩ := List.mem_filter.mp h
  obtain ⟨hne, hpoint⟩ : part ≠ [] ∧ part ≠ ['.'] := by simpa using hpart
  exact ⟨hne, hpoint, not_mem_of_mem_splitOn hsplit⟩

lemma parse_part {part : Text} (hne : part ≠ []) (hpoint : part ≠ ['.']) (hslash : '/' ∉ part) :
    parse part = ⟨0, [part]⟩ := by
  have hleading : leadingSlashes part = 0 := by
    cases part with
    | nil => rfl
    | cons c part =>
      have hc : c ≠ '/' := fun h => hslash (by simp [h])
      simp [leadingSlashes, hc]
  have hparts : partsOf part = [part] := by
    rw [partsOf, splitOn_of_not_mem hslash]
    simp [hne, hpoint]
  simp [parse, hleading, hparts]

lemma name_cases (s : String) : (ofString s).name = [] ∨ (ofString s).name = parentMark ∨
    IsEntryName (ofString s).name := by
  cases hlast : (ofString s).parts.getLast? with
  | none => simp [name, hlast]
  | some part =>
    obtain ⟨hne, hpoint, hslash⟩ := of_mem_partsOf (List.mem_of_getLast? hlast)
    have hname : (ofString s).name = part := by simp [name, hlast]
    rw [hname]
    by_cases hup : part = parentMark
    · exact .inr (.inl hup)
    · exact .inr (.inr ⟨hne, hpoint, hup, hslash⟩)

end FilePath

namespace Home

def IsChild (home : Home) (path : FilePath) : Prop :=
  ∃ name, FilePath.IsEntryName name ∧
    path = { home.directory with parts := home.directory.parts ++ [name] }

variable {home : Home} {stream : Home.Stream} {target : String} {overwrite : Bool}
  {path : FilePath} {before after : FileSystem}

lemma isChild_copyDestination_iff : home.IsChild (home.copyDestination target) ↔
    (FilePath.ofString target).name ≠ [] ∧
      (FilePath.ofString target).name ≠ FilePath.parentMark := by
  have hdestination : home.copyDestination target =
      home.directory.join (FilePath.parse (FilePath.ofString target).name) := rfl
  rw [hdestination]
  obtain hnil | hup | hname := FilePath.name_cases target
  · refine iff_of_false ?_ fun h => h.1 hnil
    rintro ⟨name, -, hpath⟩
    rw [hnil] at hpath
    have hlength := congrArg (fun p => p.parts.length) hpath
    simp [FilePath.join, FilePath.parse, FilePath.isAbsolute, FilePath.leadingSlashes,
      FilePath.partsOf, Text.splitOn] at hlength
  · refine iff_of_false ?_ fun h => h.2 hup
    rintro ⟨name, hname, hpath⟩
    have hparse : FilePath.parse FilePath.parentMark = ⟨0, [FilePath.parentMark]⟩ := rfl
    rw [hup, hparse] at hpath
    have hparts := congrArg FilePath.parts hpath
    have hlast : [FilePath.parentMark] = [name] := List.append_cancel_left hparts
    exact hname.ne_parentMark (List.singleton_inj.mp hlast).symm
  · refine iff_of_true ⟨_, hname, ?_⟩ ⟨hname.ne_nil, hname.ne_parentMark⟩
    rw [FilePath.parse_part hname.ne_nil hname.ne_point hname.one]
    rfl

/-- There is a file right below the home. It holds what it held before if it was there and may not
be replaced, and otherwise what the stream gave. -/
structure Delivered (home : Home) (stream : Home.Stream) (overwrite : Bool) (path : FilePath)
    (before after : FileSystem) : Prop where
  child : home.IsChild path
  kept : ∀ old, before.read path = .ok old → overwrite = false → after.read path = .ok old
  stored : (∀ old, before.read path = .ok old → overwrite = true) →
    after.read path = .ok stream.content

lemma not_delivered_of_directory (lookup : before.entryAt path = .ok (some .directory)) :
    ¬ home.Delivered stream overwrite path before before := by
  intro hdelivered
  have hunread : ∀ content, before.read path ≠ .ok content := by
    intro content hread
    have hfile := FileSystem.entryAt_eq_file_iff.mpr hread
    simp [lookup] at hfile
  have hread := hdelivered.stored fun old hold => absurd hold (hunread old)
  exact hunread _ hread

lemma delivered_of_kept {old : Bytes} (lookup : before.entryAt path = .ok (some (.file old)))
    (keep : overwrite = false) (child : home.IsChild path) :
    home.Delivered stream overwrite path before before := by
  have hread : before.read path = .ok old := FileSystem.entryAt_eq_file_iff.mp lookup
  refine ⟨child, fun _ hold _ => hold, fun hreplace => ?_⟩
  rw [keep] at hreplace
  exact absurd (hreplace old hread) Bool.false_ne_true

lemma delivered_of_copied {entry : Option Entry} {location : Location} {old : Bytes}
    (lookup : before.entryAt path = .ok entry) (replace : (entry.isSome && !overwrite) = false)
    (opening : before.writable path = .ok (location, old)) (child : home.IsChild path) :
    home.Delivered stream overwrite path before
      (before.put location (.file stream.content)) := by
  refine ⟨child, fun content hread keep => ?_, fun _ => FileSystem.read_put_file opening _⟩
  have hentry : entry = some (.file content) :=
    Except.ok.inj (lookup.symm.trans (FileSystem.entryAt_eq_file_iff.mpr hread))
  simp [hentry, keep] at replace

lemma Copying.delivered_iff {r : Except Fault FilePath}
    (h : Copying home stream target overwrite before r after) (hr : r = .ok path) :
    home.Delivered stream overwrite path before after ↔
      home.IsChild path ∧ before.isDirectory path ≠ .ok true := by
  cases h with
  | unseen lookup => cases hr
  | unopened lookup replace opening => cases hr
  | cutOff lookup replace opening broken => cases hr
  | @kept entry lookup keep =>
    obtain rfl := Except.ok.inj hr
    rw [ne_eq, FileSystem.isDirectory_eq_true_iff_entryAt]
    cases entry with
    | directory =>
      exact iff_of_false (not_delivered_of_directory lookup) fun h => h.2 lookup
    | file old =>
      refine ⟨fun h => ⟨h.child, ?_⟩, fun h => delivered_of_kept lookup keep h.1⟩
      simp [lookup]
  | @copied entry location old lookup replace opening whole =>
    obtain rfl := Except.ok.inj hr
    have hfile : before.isDirectory (home.copyDestination target) ≠ .ok true := by
      intro hdirectory
      obtain ⟨-, there, hlocate⟩ := FileSystem.isDirectory_eq_true_iff.mp hdirectory
      exact FileSystem.writable_ne_ok_of_directory hlocate _ opening
    exact ⟨fun h => ⟨h.child, hfile⟩, fun h => delivered_of_copied lookup replace opening h.1⟩

/-- A copy that works out leaves a file right below the home exactly if the target has a last name,
which is no double dot, and no directory was at the destination. -/
theorem copy_delivered_iff (home : Home) (stream : Home.Stream) (target : String)
    (overwrite : Bool) (s s' : Session) (path : FilePath)
    (h : home.copy stream target overwrite s = (.ok path, s')) :
    home.Delivered stream overwrite path s.files s'.files ↔
      ((FilePath.ofString target).name ≠ [] ∧
        (FilePath.ofString target).name ≠ FilePath.parentMark) ∧
        s.files.isDirectory path ≠ .ok true := by
  obtain ⟨r, after, hcopying, hcopy⟩ := exists_copying home stream target overwrite s
  obtain ⟨hr, rfl⟩ := Prod.mk.inj (hcopy.symm.trans h)
  have hpath : path = home.copyDestination target := by
    subst hr
    cases hcopying <;> rfl
  rw [hcopying.delivered_iff hr, ← isChild_copyDestination_iff, hpath]

def homeWith (name : Text) (entry : Entry) : Session :=
  { files := { entries := [([['h']], .directory), ([['h'], name], entry)] } }

/-- Only the last name of the target counts, and the file that was there is replaced. -/
theorem copy_delivered_in_place_of_file :
    ∃ s', (⟨⟨1, [['h']]⟩⟩ : Home).copy { content := [2, 3] } "../b//a/" true
        (homeWith ['a'] (.file [1])) = (.ok ⟨1, [['h'], ['a']]⟩, s') ∧
      (⟨⟨1, [['h']]⟩⟩ : Home).Delivered { content := [2, 3] } true ⟨1, [['h'], ['a']]⟩
        (homeWith ['a'] (.file [1])).files s'.files := by
  have hpath : ((⟨⟨1, [['h']]⟩⟩ : Home).copy { content := [2, 3] } "../b//a/" true
      (homeWith ['a'] (.file [1]))).1 = .ok ⟨1, [['h'], ['a']]⟩ := by
    decide +kernel
  rcases hcopy : (⟨⟨1, [['h']]⟩⟩ : Home).copy { content := [2, 3] } "../b//a/" true
    (homeWith ['a'] (.file [1])) with ⟨r, s'⟩
  rw [hcopy] at hpath
  obtain rfl : r = .ok ⟨1, [['h'], ['a']]⟩ := hpath
  refine ⟨s', rfl, (copy_delivered_iff _ _ _ _ _ _ _ hcopy).mpr ⟨?_, ?_⟩⟩
  · decide
  · decide +kernel

/-- A directory is kept where a file is to be stored, and its path comes back as if it were one. -/
theorem copy_not_delivered_at_directory :
    ¬ ∀ (home : Home) stream target overwrite s s' path,
      home.copy stream target overwrite s = (.ok path, s') →
        home.Delivered stream overwrite path s.files s'.files := by
  intro h
  have hcopy : (⟨⟨1, [['h']]⟩⟩ : Home).copy { content := [1] } "log" false
      (homeWith ['l', 'o', 'g'] .directory) =
        (.ok ⟨1, [['h'], ['l', 'o', 'g']]⟩, homeWith ['l', 'o', 'g'] .directory) := rfl
  have hdirectory : (homeWith ['l', 'o', 'g'] .directory).files.entryAt
      ⟨1, [['h'], ['l', 'o', 'g']]⟩ = .ok (some .directory) := by decide +kernel
  exact not_delivered_of_directory hdirectory (h _ _ _ _ _ _ _ hcopy)

end Home

end HostDiscovery
