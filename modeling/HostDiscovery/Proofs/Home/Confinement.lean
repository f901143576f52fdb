import HostDiscovery.Proofs.Files.Trees
import HostDiscovery.Proofs.Home.Destination
import HostDiscovery.Proofs.Home.Saving
import Mathlib.Logic.Relation

/-! What a copy into a home leaves alone. Whatever target it is given and however it ends, it
changes one file right below the home, and nothing else. A target without a last name stands for the
home itself, where nothing can be written as long as the home is there; no call on a home removes
it. -/
namespace HostDiscovery

namespace FilePath

lemma size_toText_le (path : FilePath) {name : Text} (h : name ≠ []) :
    Utf8.size path.toText ≤ Utf8.size { path with parts := path.parts ++ [name] }.toText := by
  obtain ⟨slashes, parts⟩ := path
  have hbelow : ({ slashes, parts := parts ++ [name] } : FilePath).toText =
      List.replicate slashes '/' ++ Text.joinWith ['/'] (parts ++ [name]) := by
    simp [toText]
  rw [hbelow, toText]
  split_ifs with hempty
  · obtain ⟨rfl, rfl⟩ : slashes = 0 ∧ parts = [] := by simpa using hempty
    exact Utf8.size_pos h
  · exact Utf8.size_le_of_prefix
      ((List.prefix_append_right_inj _).mpr (Text.joinWith_prefix ['/'] parts [name]))

end FilePath

namespace FileSystem

variable {fs : FileSystem} {path : FilePath} {name : Text} {location : Location} {place : Place}

lemma exists_directory_of_locate (hname : FilePath.IsEntryName name)
    (h : fs.locate { path with parts := path.parts ++ [name] } = .ok place) :
    ∃ there, fs.locate path = .ok (.taken there .directory) ∧ place.location = there ++ [name] := by
  obtain ⟨hlimit, hfollows⟩ := locate_eq_ok_iff.mp h
  obtain ⟨there, habove, hbelow⟩ := hfollows.exists_directory (List.cons_ne_nil name [])
  have hsize := path.size_toText_le hname.ne_nil
  refine ⟨there, locate_eq_ok_iff.mpr ⟨by omega, habove⟩, ?_⟩
  rw [hbelow.location_eq, Location.walk, List.foldl_cons, if_neg hname.ne_parentMark]
  rfl

lemma fileLocation?_eq_none_of_parentMark
    (h : fs.locate { path with parts := path.parts ++ [FilePath.parentMark] } = .ok place) :
    place.fileLocation? = none := by
  obtain ⟨-, hfollows⟩ := locate_eq_ok_iff.mp h
  obtain ⟨there, -, hbelow⟩ := hfollows.exists_directory (List.cons_ne_nil _ [])
  cases hbelow with
  | up next =>
    cases next
    rfl
  | down name | free name | file name => exact absurd rfl name

end FileSystem

namespace Home

def IsChildLocation (home : Home) (fs : FileSystem) (location : Location) : Prop :=
  ∃ there name, fs.locate home.directory = .ok (.taken there .directory) ∧
    FilePath.IsEntryName name ∧ location = there ++ [name]

/-- At most one location is not as it was. It is right below the home, and a regular file is there
now. -/
structure Confined (home : Home) (before after : FileSystem) : Prop where
  single : ∀ l l', after.get? l ≠ before.get? l → after.get? l' ≠ before.get? l' → l = l'
  child : ∀ l, after.get? l ≠ before.get? l → home.IsChildLocation before l
  file : ∀ l, after.get? l ≠ before.get? l → ∃ content, after.get? l = some (.file content)
  directories : ∀ l, after.get? l = some .directory ↔ before.get? l = some .directory
  workingDirectory : after.workingDirectory = before.workingDirectory

variable {home : Home} {stream : Home.Stream} {target : String} {overwrite : Bool}
  {before after : FileSystem} {location : Location} {old : Bytes} {s s' : Session}

lemma confined_of_unchanged (hfiles : ∀ l, after.get? l = before.get? l)
    (hworking : after.workingDirectory = before.workingDirectory) :
    home.Confined before after where
  single l _ h := absurd (hfiles l) h
  child l h := absurd (hfiles l) h
  file l h := absurd (hfiles l) h
  directories l := by rw [hfiles l]
  workingDirectory := hworking

lemma confined_put {path : FilePath} (h : before.writable path = .ok (location, old))
    (hchild : home.IsChildLocation before location) (content : Bytes) :
    home.Confined before (before.put location (.file content)) := by
  have hself : (before.put location (.file content)).get? location = some (.file content) :=
    FileSystem.get?_put_self (FileSystem.ne_nil_of_writable h) _
  have hchanged : ∀ l, (before.put location (.file content)).get? l ≠ before.get? l →
      l = location := by
    intro l hl
    by_contra hne
    exact hl (FileSystem.get?_put_of_ne hne _)
  refine ⟨fun l l' hl hl' => ?_, fun l hl => ?_, fun l hl => ?_, fun l => ?_, rfl⟩
  · rw [hchanged l hl, hchanged l' hl']
  · rwa [hchanged l hl]
  · exact ⟨content, by rw [hchanged l hl, hself]⟩
  · obtain ⟨-, place, hlocate, hplace⟩ := FileSystem.exists_place_of_writable h
    by_cases hl : l = location
    · rw [hl, hself]
      exact iff_of_false nofun (FileSystem.get?_ne_directory_of_locate hlocate hplace)
    · rw [FileSystem.get?_put_of_ne hl]

lemma copyDestination_of_nameless (h : (FilePath.ofString target).name = []) :
    home.copyDestination target = home.directory := by
  rw [copyDestination, h]
  exact congrArg (FilePath.mk _) (List.append_nil _)

lemma isChildLocation_of_writable (hname : (FilePath.ofString target).name ≠ [])
    (h : before.writable (home.copyDestination target) = .ok (location, old)) :
    home.IsChildLocation before location := by
  obtain ⟨-, place, hlocate, hplace⟩ := FileSystem.exists_place_of_writable h
  obtain hnil | hup | hentry := FilePath.name_cases target
  · exact absurd hnil hname
  · rw [copyDestination, hup] at hlocate
    have hnone := FileSystem.fileLocation?_eq_none_of_parentMark hlocate
    rw [hplace] at hnone
    cases hnone
  · have hparse := FilePath.parse_part hentry.ne_nil hentry.ne_point hentry.one
    rw [copyDestination, hparse] at hlocate
    obtain ⟨there, hthere, hlocation⟩ := FileSystem.exists_directory_of_locate hentry hlocate
    rw [Place.location_eq_of_fileLocation? hplace] at hlocation
    exact ⟨there, _, hthere, hentry, hlocation⟩

lemma Copying.confined {r : Except Fault FilePath}
    (h : Copying home stream target overwrite before r after)
    (hname : (FilePath.ofString target).name ≠ []) : home.Confined before after := by
  cases h with
  | unseen | kept | unopened => exact confined_of_unchanged (fun _ => rfl) rfl
  | cutOff _ _ opening | copied _ _ opening =>
    have hchild := isChildLocation_of_writable hname opening
    exact confined_put opening hchild stream.content

/-- A target without a last name stands for the home itself, and a directory is not written. -/
lemma Copying.eq_of_nameless {r : Except Fault FilePath} {there : Location}
    (h : Copying home stream target overwrite before r after)
    (hname : (FilePath.ofString target).name = [])
    (hthere : before.locate home.directory = .ok (.taken there .directory)) : after = before := by
  have hdestination : home.copyDestination target = home.directory :=
    copyDestination_of_nameless hname
  cases h with
  | unseen | kept | unopened => rfl
  | cutOff _ _ opening | copied _ _ opening =>
    rw [hdestination] at opening
    exact absurd opening (FileSystem.writable_ne_ok_of_directory hthere _)

lemma Copying.workingDirectory_eq {r : Except Fault FilePath}
    (h : Copying home stream target overwrite before r after) :
    after.workingDirectory = before.workingDirectory := by
  cases h <;> rfl

lemma copy_confined_iff (home : Home) (stream : Home.Stream) (target : String) (overwrite : Bool)
    (s : Session) :
    home.Confined s.files (home.copy stream target overwrite s).2.files ↔
      (FilePath.ofString target).name ≠ [] ∨
        ∀ l, (home.copy stream target overwrite s).2.files.get? l = s.files.get? l := by
  obtain ⟨r, after, hcopying, hcopy⟩ := exists_copying home stream target overwrite s
  rw [hcopy]
  constructor
  · intro hconfined
    by_contra hneither
    obtain ⟨hname, hchanges⟩ := not_or.mp hneither
    obtain ⟨l, hchanged⟩ := not_forall.mp hchanges
    obtain ⟨there, -, hthere, -⟩ := hconfined.child l hchanged
    have hafter := hcopying.eq_of_nameless (not_not.mp hname) hthere
    exact hchanged (by rw [hafter])
  · rintro (hname | hsame)
    · exact hcopying.confined hname
    · exact confined_of_unchanged hsame hcopying.workingDirectory_eq

/-- Where the home has been removed, a target without a last name puts a file in its place. -/
example : ((⟨⟨1, [['h']]⟩⟩ : Home).copy { content := [1] } "" false {}).2.files.get? [['h']] =
    some (.file [1]) := rfl

/-- What may happen while a home is in use: calls on the home, and anything that others do as long
as they leave it a directory. -/
inductive Use (home : Home) : Session → Session → Prop
  | copy (stream : Home.Stream) (target : String) (overwrite : Bool) (s : Session) :
      Use home s (home.copy stream target overwrite s).2
  | save (machine : Machine) (path : String) (m : Properties) (s : Session) :
      Use home s (home.saveProperties machine path m s).2
  | load (path : String) (s : Session) : Use home s (home.loadProperties path s).2
  | others {s s' : Session} (stays : s.files.isDirectory home.directory = .ok true →
      s'.files.isDirectory home.directory = .ok true) : Use home s s'

/-- A home was opened and has been in use since. -/
def InUse (home : Home) (s : Session) : Prop :=
  ∃ machine directory earlier opened,
    openAt machine (some directory) earlier = (.ok home, opened) ∧
      Relation.ReflTransGen home.Use opened s

lemma Writing.isDirectory {r : Except Failure Unit} {path dir : FilePath} {content : Bytes}
    (h : Writing before path content r after) (hdir : before.isDirectory dir = .ok true) :
    after.isDirectory dir = .ok true := by
  cases h with
  | refused grows =>
    exact FileSystem.isDirectory_mono hdir (fun _ => grows.get?_eq_some) grows.workingDirectory_eq
  | @written middle location old grows opening =>
    have hmiddle : middle.isDirectory dir = .ok true :=
      FileSystem.isDirectory_mono hdir (fun _ => grows.get?_eq_some) grows.workingDirectory_eq
    obtain ⟨-, place, hlocate, hplace⟩ := FileSystem.exists_place_of_writable opening
    have hkept := fun l => FileSystem.get?_put_directory hlocate hplace (.file content) (l := l)
    exact FileSystem.isDirectory_mono hmiddle hkept rfl

lemma confined_copy (stream : Home.Stream) (target : String) (overwrite : Bool)
    (hdir : s.files.isDirectory home.directory = .ok true) :
    home.Confined s.files (home.copy stream target overwrite s).2.files := by
  obtain ⟨-, there, hthere⟩ := FileSystem.isDirectory_eq_true_iff.mp hdir
  obtain ⟨r, after, hcopying, hcopy⟩ := exists_copying home stream target overwrite s
  rw [copy_confined_iff, hcopy]
  by_cases hname : (FilePath.ofString target).name = []
  · exact .inr fun l => by rw [hcopying.eq_of_nameless hname hthere]
  · exact .inl hname

lemma Use.isDirectory (h : home.Use s s') (hdir : s.files.isDirectory home.directory = .ok true) :
    s'.files.isDirectory home.directory = .ok true := by
  cases h with
  | copy stream target overwrite =>
    have hconfined := confined_copy stream target overwrite hdir
    have hkept := fun l => (hconfined.directories l).mpr
    exact FileSystem.isDirectory_mono hdir hkept hconfined.workingDirectory
  | save machine path m =>
    obtain ⟨r, hwriting, -⟩ := exists_writing home machine path m s
    exact hwriting.isDirectory hdir
  | load path => rwa [files_loadProperties]
  | others stays => exact stays hdir

lemma InUse.isDirectory (h : home.InUse s) : s.files.isDirectory home.directory = .ok true := by
  obtain ⟨machine, directory, earlier, opened, hopen, huse⟩ := h
  obtain ⟨-, -, provided⟩ := openAt_eq_ok hopen
  induction huse with
  | refl => exact provided.isDirectory
  | tail _ hstep ih => exact hstep.isDirectory ih

end Home

end HostDiscovery
