import HostDiscovery.Proofs.Home.Opening
import HostDiscovery.Proofs.Properties.RoundTrip
import HostDiscovery.Proofs.Session
import Mathlib.Logic.Function.Basic

/-! Properties files over any sequence of saves and loads. What a save can do to the files is said
once: directories may be new, and at the end there may be one file. A file that another path leads
to is not lost by that, and so a load finds what was last saved. -/
namespace HostDiscovery.Home

open Properties

inductive Writing (fs : FileSystem) (path : FilePath) (content : Bytes) :
    Except Failure Unit → FileSystem → Prop
  | refused {f : Failure} {after : FileSystem} (grows : FileSystem.Grows fs after) :
      Writing fs path content (.error f) after
  | written {middle : FileSystem} {location : Location} {old : Bytes}
      (grows : FileSystem.Grows fs middle) (opening : middle.writable path = .ok (location, old)) :
      Writing fs path content (.ok ()) (middle.put location (.file content))

variable {home : Home} {machine : Machine} {fs after : FileSystem} {target other : FilePath}
  {path : String} {content text : Bytes} {r : Except Failure Unit} {s : Session} {m : Properties}

lemma writing_writeBelow (fs : FileSystem) (target : FilePath) (content : Bytes) :
    Writing fs target content (writeBelow fs target content).1
      (writeBelow fs target content).2 := by
  have hgrows := (fs.making_makeDirectories true target.parent).grows
  unfold writeBelow
  rcases hmake : fs.makeDirectories true target.parent with ⟨f | _, middle⟩
  · rw [hmake] at hgrows
    exact .refused hgrows
  · rw [hmake] at hgrows
    dsimp only
    rw [FileSystem.write]
    cases hopen : middle.writable target with
    | error f => exact .refused hgrows
    | ok opened => exact .written hgrows hopen

lemma Writing.read_eq (h : Writing fs target content r after) (hread : fs.read other = .ok text)
    (hne : r = .ok () →
      (fs.start other).walk other.parts ≠ (fs.start target).walk target.parts) :
    after.read other = .ok text := by
  cases h with
  | refused grows => exact grows.read_eq hread
  | written grows opening =>
    refine FileSystem.read_put_of_ne (grows.read_eq hread) opening ?_ _
    rw [FileSystem.start, FileSystem.start, grows.workingDirectory_eq]
    exact hne rfl

lemma Writing.read_target (h : Writing fs target content (.ok ()) after) :
    after.read target = .ok content := by
  cases h with
  | written grows opening => exact FileSystem.read_put_file opening content

/-- A save works out: it neither fails nor logs anything. -/
def saves (home : Home) (machine : Machine) (path : String) (m : Properties) (s : Session) : Bool :=
  match home.saveProperties machine path m s with
  | (.ok (), after) => after.records = s.records
  | (.error _, _) => false

lemma saveProperties_of_written (hwrite : writeBelow s.files (home.file path)
    (Utf8.encode (write machine.time m)) = (.ok (), after)) :
    home.saveProperties machine path m s = (.ok (), { s with files := after }) := by
  rw [saveProperties, Act.bind_of_ok (Act.files_apply s), hwrite]
  rfl

lemma saveProperties_of_refused {f : Failure} (hwrite : writeBelow s.files (home.file path)
    (Utf8.encode (write machine.time m)) = (.error f, after)) :
    home.saveProperties machine path m s =
      if f.kind.isSystem then
        Act.log .error logger ("Could not save property file on " ++ (home.file path).toString
          ++ ": " ++ f.message) { s with files := after }
      else (.error f, { s with files := after }) := by
  rw [saveProperties, Act.bind_of_ok (Act.files_apply s), hwrite]
  refine (Act.bind_of_ok rfl).trans ?_
  split_ifs <;> rfl

/-- How a save ends: the files are left as the writing leaves them, and the save has worked out
exactly if the writing has. -/
lemma exists_writing (home : Home) (machine : Machine) (path : String) (m : Properties)
    (s : Session) :
    ∃ r, Writing s.files (home.file path) (Utf8.encode (write machine.time m)) r
        (home.saveProperties machine path m s).2.files ∧
      (home.saves machine path m s = true ↔ r = .ok ()) := by
  have hwriting := writing_writeBelow s.files (home.file path) (Utf8.encode (write machine.time m))
  rcases hwrite : writeBelow s.files (home.file path) (Utf8.encode (write machine.time m)) with
    ⟨f | _, after⟩
  · rw [hwrite] at hwriting
    refine ⟨.error f, ?_⟩
    rw [saves, saveProperties_of_refused hwrite]
    cases hsystem : f.kind.isSystem with
    | false => exact ⟨hwriting, by simp⟩
    | true => exact ⟨hwriting, by simp [Act.log]⟩
  · rw [hwrite] at hwriting
    refine ⟨.ok (), ?_⟩
    rw [saves, saveProperties_of_written hwrite]
    exact ⟨hwriting, by simp⟩

lemma files_loadProperties (home : Home) (path : String) (s : Session) :
    (home.loadProperties path s).2.files = s.files := by
  rw [loadProperties, Act.bind_of_ok (Act.files_apply s)]
  cases readProperties s.files (home.file path) with
  | ok m => rfl
  | error f =>
    dsimp only
    split_ifs <;> rfl

lemma readProperties_eq_ok_iff : readProperties fs target = .ok m ↔
    ∃ content, fs.read target = .ok content ∧ Properties.ofBytes content = .ok m := by
  unfold readProperties
  cases fs.read target with
  | error f => simp
  | ok content => cases hread : Properties.ofBytes content <;> simp [Except.mapError, hread]

lemma loadProperties_of_read (hread : readProperties s.files (home.file path) = .ok m) :
    home.loadProperties path s = (.ok m, s) := by
  rw [loadProperties, Act.bind_of_ok (Act.files_apply s), hread]
  rfl

/-- A path that leads down from the home: a relative one without double dots. -/
structure LeadsDown (path : String) : Prop where
  relative : (FilePath.ofString path).isAbsolute = false
  descends : FilePath.parentMark ∉ FilePath.partsOf path.toList

instance (path : String) : Decidable (LeadsDown path) :=
  decidable_of_iff ((FilePath.ofString path).isAbsolute = false ∧
    FilePath.parentMark ∉ FilePath.partsOf path.toList)
    ⟨fun ⟨hrelative, hdescends⟩ => ⟨hrelative, hdescends⟩, fun h => ⟨h.relative, h.descends⟩⟩

lemma LeadsDown.file_eq (h : LeadsDown path) (home : Home) : home.file path =
    ⟨home.directory.slashes, home.directory.parts ++ FilePath.partsOf path.toList⟩ := by
  rw [file, FilePath.join, h.relative]
  rfl

lemma LeadsDown.walk_file (h : LeadsDown path) (home : Home) (fs : FileSystem) :
    (fs.start (home.file path)).walk (home.file path).parts =
      (fs.start home.directory).walk home.directory.parts ++ FilePath.partsOf path.toList := by
  have hstart : fs.start (home.file path) = fs.start home.directory := by
    rw [h.file_eq]
    rfl
  rw [hstart, h.file_eq, Location.walk_append, Location.walk_of_parentMark_not_mem h.descends]

inductive PropertiesCall
  | save (machine : Machine) (path : String) (m : Properties)
  | load (path : String)

/-- A save leads down from the home and has a map that can be written, at a time on one line. -/
def PropertiesCall.Admissible : PropertiesCall → Prop
  | save machine path m => LeadsDown path ∧ Text.OneLine machine.time ∧ ∀ e ∈ m.entries, Storable e
  | load _ => True

instance (call : PropertiesCall) : Decidable call.Admissible :=
  match call with
  | .save machine path m => inferInstanceAs (Decidable
      (LeadsDown path ∧ Text.OneLine machine.time ∧ ∀ e ∈ m.entries, Storable e))
  | .load _ => .isTrue trivial

/-- What calls have led to: the session, and for the components of a path the map that was last
saved under them. -/
structure History where
  session : Session
  saved : List Text → Option Properties

def History.next (home : Home) (h : History) : PropertiesCall → History
  | .save machine path m =>
    { session := (home.saveProperties machine path m h.session).2
      saved :=
        if home.saves machine path m h.session then
          Function.update h.saved (FilePath.partsOf path.toList) (some m)
        else h.saved }
  | .load path => { h with session := (home.loadProperties path h.session).2 }

lemma History.session_next_save (h : History) :
    (h.next home (.save machine path m)).session =
      (home.saveProperties machine path m h.session).2 := by
  rw [next]

def historyOf (home : Home) (s : Session) (calls : List PropertiesCall) : History :=
  calls.foldl (History.next home) { session := s, saved := fun _ => none }

/-- What was last saved is what its file holds. -/
def History.Kept (home : Home) (h : History) : Prop :=
  ∀ path, LeadsDown path → ∀ m, h.saved (FilePath.partsOf path.toList) = some m →
    readProperties h.session.files (home.file path) = .ok m

lemma History.Kept.save {h : History} (hkept : h.Kept home) (hpath : LeadsDown path)
    (htime : Text.OneLine machine.time) (hm : ∀ e ∈ m.entries, Storable e) :
    (h.next home (.save machine path m)).Kept home := by
  intro other hother m' hm'
  obtain ⟨r, hwriting, hsaves⟩ := exists_writing home machine path m h.session
  rw [← History.session_next_save] at hwriting
  by_cases hwritten : r = .ok () ∧ FilePath.partsOf other.toList = FilePath.partsOf path.toList
  · obtain ⟨rfl, hparts⟩ := hwritten
    have hfile : home.file other = home.file path := by
      rw [hother.file_eq, hpath.file_eq, hparts]
    obtain rfl : m = m' := by simpa [next, hsaves, hparts] using hm'
    have hread := ofBytes_encode_write htime hm
    rw [hfile]
    exact readProperties_eq_ok_iff.mpr ⟨_, hwriting.read_target, hread⟩
  · have hearlier : h.saved (FilePath.partsOf other.toList) = some m' := by
      rw [← hm', next]
      dsimp only
      split_ifs with hsave
      · have hother : FilePath.partsOf other.toList ≠ FilePath.partsOf path.toList :=
          fun hparts => hwritten ⟨hsaves.mp hsave, hparts⟩
        exact (Function.update_of_ne hother _ _).symm
      · rfl
    obtain ⟨content, hread, hcontent⟩ :=
      readProperties_eq_ok_iff.mp (hkept other hother m' hearlier)
    have hread' := hwriting.read_eq hread fun hr hwalk => by
      rw [hother.walk_file, hpath.walk_file] at hwalk
      exact hwritten ⟨hr, List.append_cancel_left hwalk⟩
    exact readProperties_eq_ok_iff.mpr ⟨content, hread', hcontent⟩

lemma History.Kept.load {h : History} (hkept : h.Kept home) (path : String) :
    (h.next home (.load path)).Kept home := by
  intro other hother m' hm'
  rw [next, files_loadProperties]
  exact hkept other hother m' hm'

lemma History.Kept.next {h : History} (hkept : h.Kept home) {call : PropertiesCall}
    (hcall : call.Admissible) : (h.next home call).Kept home := by
  cases call with
  | save machine path m =>
    obtain ⟨hpath, htime, hm⟩ := hcall
    exact hkept.save hpath htime hm
  | load path => exact hkept.load path

lemma kept_historyOf (home : Home) (s : Session) {calls : List PropertiesCall}
    (hcalls : ∀ call ∈ calls, call.Admissible) : (historyOf home s calls).Kept home := by
  induction calls using List.reverseRecOn with
  | nil =>
    rintro path - m ⟨⟩
  | append_singleton earlier call ih =>
    have hearlier := ih fun c hc => hcalls c (List.mem_append_left _ hc)
    rw [historyOf, List.foldl_append]
    exact hearlier.next (hcalls call (by simp))

/-- After any saves and loads, failed saves among them, a load finds the map of the last save to its
file that worked out. Two paths lead to the same file exactly if they have the same components. -/
theorem loadProperties_last_saved (home : Home) (s : Session) {calls : List PropertiesCall}
    (hcalls : ∀ call ∈ calls, call.Admissible) {path : String} (hpath : LeadsDown path) :
    (∀ m, (historyOf home s calls).saved (FilePath.partsOf path.toList) = some m →
      home.loadProperties path (historyOf home s calls).session =
        (.ok m, (historyOf home s calls).session)) ∧
      ∀ other, LeadsDown other → ∀ fs place otherPlace,
        FileSystem.locate fs (home.file path) = .ok place →
        FileSystem.locate fs (home.file other) = .ok otherPlace →
        (place.location = otherPlace.location ↔
          FilePath.partsOf path.toList = FilePath.partsOf other.toList) := by
  constructor
  · intro m hm
    exact loadProperties_of_read (kept_historyOf home s hcalls path hpath m hm)
  · intro other hother fs place otherPlace hplace hotherPlace
    rw [FileSystem.location_of_locate hplace, FileSystem.location_of_locate hotherPlace,
      hpath.walk_file, hother.walk_file]
    exact List.append_right_inj _

/-- A file below a new directory, then saves onto the directory and below the file, which fail. -/
def attempts (m : Properties) : List PropertiesCall :=
  [.save soleUser "a//b" m, .save soleUser "a" .empty, .save soleUser "a/b/c" .empty]

/-- The failed saves are logged, and the file is loaded under another spelling of its path. -/
theorem loadProperties_after_failed_saves :
    let home : Home := ⟨⟨1, [['h']]⟩⟩
    let m := Properties.ofEntries [(['k'], ['v'])]
    let after := (historyOf home {} (attempts m)).session
    after.records.length = 2 ∧ home.loadProperties "./a/b/" after = (.ok m, after) := by
  intro home m after
  have hcalls : ∀ call ∈ attempts m, call.Admissible := by decide +kernel
  have hpath : LeadsDown "./a/b/" := by decide +kernel
  have hentries : ((historyOf home {} (attempts m)).saved (FilePath.partsOf "./a/b/".toList)).map
      Properties.entries = some m.entries := by decide +kernel
  have hrecords : after.records.length = 2 := by decide +kernel
  obtain ⟨m', hsaved, hm'⟩ := Option.map_eq_some_iff.mp hentries
  rw [← Properties.eq_of_entries_eq hm']
  exact ⟨hrecords, (loadProperties_last_saved home {} hcalls hpath).1 m' hsaved⟩

end HostDiscovery.Home
