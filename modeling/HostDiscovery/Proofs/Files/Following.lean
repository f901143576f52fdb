import HostDiscovery.Files.System
import Mathlib.Tactic.Lemma
import Mathlib.Tactic.SplitIfs

/-! How a path is followed, component by component. What a component can do is said once; where a
path leads to, and when it is too long, is read off from that. -/
namespace HostDiscovery

/-- Where components lead to from a directory, whether anything is there or not. -/
def Location.walk (here : Location) (parts : List Text) : Location :=
  parts.foldl (fun here part =>
    if part = FilePath.parentMark then here.dropLast else here ++ [part]) here

lemma Location.walk_append (here : Location) (above below : List Text) :
    here.walk (above ++ below) = (here.walk above).walk below := List.foldl_append

lemma Location.walk_of_parentMark_not_mem {parts : List Text} (h : FilePath.parentMark ∉ parts)
    (here : Location) : here.walk parts = here ++ parts := by
  induction parts generalizing here with
  | nil => simp [walk]
  | cons part rest ih =>
    obtain ⟨hpart, hrest⟩ := not_or.mp (mt List.mem_cons.mpr h)
    have hi := ih hrest (here ++ [part])
    rw [walk] at hi ⊢
    rw [List.foldl_cons, if_neg (Ne.symm hpart), hi, List.append_assoc, List.singleton_append]

def Place.location : Place → Location
  | .taken location _ | .free location => location

def Place.fileLocation? : Place → Option Location
  | .free location | .taken location (.file _) => some location
  | .taken _ .directory => none

lemma Place.location_eq_of_fileLocation? {place : Place} {location : Location}
    (h : place.fileLocation? = some location) : place.location = location := by
  rcases place with ⟨l, _ | _⟩ | l
  · exact Option.some.inj h
  · cases h
  · exact Option.some.inj h

lemma PathFault.isSystem_failure (fault : PathFault) (path : FilePath) :
    (fault.failure path).kind.isSystem = true := by
  cases fault <;> rfl

namespace FileSystem

inductive Follows (fs : FileSystem) : Location → List Text → Except PathFault Place → Prop
  | arrived {here : Location} : Follows fs here [] (.ok (.taken here .directory))
  | up {here : Location} {rest : List Text} {r : Except PathFault Place}
      (next : Follows fs here.dropLast rest r) : Follows fs here (FilePath.parentMark :: rest) r
  | tooLong {here : Location} {part : Text} {rest : List Text} (name : part ≠ FilePath.parentMark)
      (long : nameLimit < Utf8.size part) : Follows fs here (part :: rest) (.error .nameTooLong)
  | down {here : Location} {part : Text} {rest : List Text} {r : Except PathFault Place}
      (name : part ≠ FilePath.parentMark) (short : ¬ nameLimit < Utf8.size part)
      (found : fs.get? (here ++ [part]) = some .directory)
      (next : Follows fs (here ++ [part]) rest r) : Follows fs here (part :: rest) r
  | free {here : Location} {part : Text} (name : part ≠ FilePath.parentMark)
      (short : ¬ nameLimit < Utf8.size part) (found : fs.get? (here ++ [part]) = none) :
      Follows fs here [part] (.ok (.free (here ++ [part])))
  | file {here : Location} {part : Text} {content : Bytes} (name : part ≠ FilePath.parentMark)
      (short : ¬ nameLimit < Utf8.size part)
      (found : fs.get? (here ++ [part]) = some (.file content)) :
      Follows fs here [part] (.ok (.taken (here ++ [part]) (.file content)))
  | missing {here : Location} {part next : Text} {rest : List Text}
      (name : part ≠ FilePath.parentMark) (short : ¬ nameLimit < Utf8.size part)
      (found : fs.get? (here ++ [part]) = none) :
      Follows fs here (part :: next :: rest) (.error .missing)
  | blocked {here : Location} {part next : Text} {rest : List Text} {content : Bytes}
      (name : part ≠ FilePath.parentMark) (short : ¬ nameLimit < Utf8.size part)
      (found : fs.get? (here ++ [part]) = some (.file content)) :
      Follows fs here (part :: next :: rest) (.error .notDirectory)

variable {fs : FileSystem} {here there : Location} {parts : List Text} {place : Place}
  {r : Except PathFault Place} {path : FilePath}

lemma follows_follow (fs : FileSystem) (here : Location) (parts : List Text) :
    Follows fs here parts (fs.follow here parts) := by
  induction parts generalizing here with
  | nil => exact .arrived
  | cons part rest ih =>
    unfold follow
    split_ifs with hpart hlong
    · subst hpart
      exact .up (ih _)
    · exact .tooLong hpart hlong
    · split
      · next found => exact .free hpart hlong found
      · next found => exact .missing hpart hlong found
      · next found => exact .down hpart hlong found (ih _)
      · next found => exact .file hpart hlong found
      · next found => exact .blocked hpart hlong found

lemma Follows.follow_eq (h : Follows fs here parts r) : fs.follow here parts = r := by
  induction h with
  | arrived => rfl
  | up next ih =>
    unfold follow
    rw [if_pos rfl, ih]
  | tooLong name long =>
    unfold follow
    rw [if_neg name, if_pos long]
  | down name short found next ih =>
    unfold follow
    rw [if_neg name, if_neg short, found]
    exact ih
  | free name short found | file name short found | missing name short found
  | blocked name short found =>
    unfold follow
    rw [if_neg name, if_neg short, found]

lemma follow_eq_iff : fs.follow here parts = r ↔ Follows fs here parts r := by
  constructor
  · rintro rfl
    exact follows_follow fs here parts
  · exact Follows.follow_eq

lemma Follows.append {above below : List Text}
    (h : Follows fs here above (.ok (.taken there .directory)))
    (hbelow : Follows fs there below r) : Follows fs here (above ++ below) r := by
  generalize hplace : (.ok (.taken there .directory) : Except PathFault Place) = result at h
  induction h with
  | arrived =>
    obtain ⟨rfl, -⟩ := Place.taken.inj (Except.ok.inj hplace)
    exact hbelow
  | up next ih => exact .up (ih hplace)
  | down name short found next ih => exact .down name short found (ih hplace)
  | tooLong | free | file | missing | blocked => cases hplace

lemma Follows.exists_directory {above below : List Text}
    (h : Follows fs here (above ++ below) (.ok place)) (hbelow : below ≠ []) :
    ∃ there, Follows fs here above (.ok (.taken there .directory)) ∧
      Follows fs there below (.ok place) := by
  induction above generalizing here with
  | nil => exact ⟨here, .arrived, h⟩
  | cons part rest ih =>
    have hrest : rest ++ below ≠ [] := by simp [hbelow]
    rw [List.cons_append] at h
    generalize rest ++ below = parts at h hrest ih
    cases h with
    | up next =>
      obtain ⟨there, habove, hthere⟩ := ih next
      exact ⟨there, .up habove, hthere⟩
    | down name short found next =>
      obtain ⟨there, habove, hthere⟩ := ih next
      exact ⟨there, .down name short found habove, hthere⟩
    | free | file => exact absurd rfl hrest

lemma Follows.location_eq (h : Follows fs here parts (.ok place)) :
    place.location = here.walk parts := by
  generalize hr : (.ok place : Except PathFault Place) = result at h
  induction h with
  | arrived =>
    obtain rfl := Except.ok.inj hr
    rfl
  | up next ih => exact ih hr
  | @down here part rest _ name short found next ih =>
    have hstep : here.walk (part :: rest) = (here ++ [part]).walk rest := by
      rw [Location.walk, List.foldl_cons, if_neg name]
      rfl
    rw [hstep]
    exact ih hr
  | free name | file name =>
    obtain rfl := Except.ok.inj hr
    rw [Location.walk, List.foldl_cons, if_neg name]
    rfl
  | tooLong | missing | blocked => cases hr

lemma Follows.get?_eq {entry : Entry} (h : Follows fs here parts (.ok (.taken there entry))) :
    fs.get? there = some entry ∨ entry = .directory := by
  generalize hr : (.ok (.taken there entry) : Except PathFault Place) = result at h
  induction h with
  | arrived => exact .inr (Place.taken.inj (Except.ok.inj hr)).2
  | up next ih => exact ih hr
  | down name short found next ih => exact ih hr
  | file name short found =>
    obtain ⟨rfl, rfl⟩ := Place.taken.inj (Except.ok.inj hr)
    exact .inl found
  | free => cases Except.ok.inj hr
  | tooLong | missing | blocked => cases hr

lemma Follows.get?_eq_none (h : Follows fs here parts (.ok (.free there))) :
    fs.get? there = none := by
  generalize hr : (.ok (.free there) : Except PathFault Place) = result at h
  induction h with
  | up next ih => exact ih hr
  | down name short found next ih => exact ih hr
  | free name short found =>
    obtain rfl := Place.free.inj (Except.ok.inj hr)
    exact found
  | arrived | file => cases Except.ok.inj hr
  | tooLong | missing | blocked => cases hr

/-- As long as all directories stay, a path leads where it led, and finds what is there then. -/
lemma Follows.of_directories {after : FileSystem} {entry : Entry}
    (h : Follows fs here parts (.ok place))
    (hdirectories : ∀ l, fs.get? l = some .directory → after.get? l = some .directory)
    (hentry : after.get? place.location = some entry)
    (hdirectory : ∀ l, place = .taken l .directory → entry = .directory) :
    Follows after here parts (.ok (.taken place.location entry)) := by
  generalize hr : (.ok place : Except PathFault Place) = result at h
  induction h with
  | arrived =>
    obtain rfl := Except.ok.inj hr
    obtain rfl := hdirectory _ rfl
    exact .arrived
  | up next ih => exact .up (ih hr)
  | down name short found next ih => exact .down name short (hdirectories _ found) (ih hr)
  | free name short | file name short =>
    obtain rfl := Except.ok.inj hr
    cases entry with
    | file content => exact .file name short hentry
    | directory => exact .down name short hentry .arrived
  | tooLong | missing | blocked => cases hr

lemma Follows.fault_cases {fault : PathFault} (h : Follows fs here parts (.error fault)) :
    fault = .missing ∨ fault = .notDirectory ∨ fault = .nameTooLong := by
  generalize hr : (.error fault : Except PathFault Place) = result at h
  induction h with
  | up next ih => exact ih hr
  | down name short found next ih => exact ih hr
  | tooLong => exact .inr (.inr (Except.error.inj hr))
  | missing => exact .inl (Except.error.inj hr)
  | blocked => exact .inr (.inl (Except.error.inj hr))
  | arrived | free | file => cases hr

def ComesToLongName (fs : FileSystem) (here : Location) (parts : List Text) : Prop :=
  ∃ above name below there, parts = above ++ name :: below ∧ name ≠ FilePath.parentMark ∧
    nameLimit < Utf8.size name ∧ fs.follow here above = .ok (.taken there .directory)

lemma Follows.comesToLongName (h : Follows fs here parts (.error .nameTooLong)) :
    ComesToLongName fs here parts := by
  generalize hr : (.error .nameTooLong : Except PathFault Place) = result at h
  induction h with
  | @tooLong here part rest name long => exact ⟨[], part, rest, here, rfl, name, long, rfl⟩
  | up next ih =>
    obtain ⟨above, name, below, there, rfl, hname, hlong, habove⟩ := ih hr
    have hfollows := Follows.up (follow_eq_iff.mp habove)
    exact ⟨_ :: above, name, below, there, rfl, hname, hlong, hfollows.follow_eq⟩
  | down hpart short found next ih =>
    obtain ⟨above, name, below, there, rfl, hname, hlong, habove⟩ := ih hr
    have hfollows := Follows.down hpart short found (follow_eq_iff.mp habove)
    exact ⟨_ :: above, name, below, there, rfl, hname, hlong, hfollows.follow_eq⟩
  | arrived | free | file | missing | blocked => cases hr

lemma follow_eq_nameTooLong_iff :
    fs.follow here parts = .error .nameTooLong ↔ ComesToLongName fs here parts := by
  constructor
  · intro h
    exact (follow_eq_iff.mp h).comesToLongName
  · rintro ⟨above, name, below, there, rfl, hname, hlong, habove⟩
    have hbelow : Follows fs there (name :: below) (.error .nameTooLong) := .tooLong hname hlong
    exact ((follow_eq_iff.mp habove).append hbelow).follow_eq

def start (fs : FileSystem) (path : FilePath) : Location :=
  if path.isAbsolute then [] else fs.workingDirectory

def TooLong (fs : FileSystem) (path : FilePath) : Prop :=
  pathLimit ≤ Utf8.size path.toText ∨ ComesToLongName fs (fs.start path) path.parts

lemma locate_eq_follow (h : ¬ pathLimit ≤ Utf8.size path.toText) :
    fs.locate path = fs.follow (fs.start path) path.parts := if_neg h

lemma locate_eq_nameTooLong_iff : fs.locate path = .error .nameTooLong ↔ fs.TooLong path := by
  by_cases hlimit : pathLimit ≤ Utf8.size path.toText
  · simp [locate, TooLong, hlimit]
  · rw [locate_eq_follow hlimit, follow_eq_nameTooLong_iff, TooLong, or_iff_right hlimit]

lemma locate_fault_cases {fault : PathFault} (h : fs.locate path = .error fault) :
    fault = .missing ∨ fault = .notDirectory ∨ fault = .nameTooLong := by
  by_cases hlimit : pathLimit ≤ Utf8.size path.toText
  · rw [locate, if_pos hlimit] at h
    exact .inr (.inr (Except.error.inj h).symm)
  · rw [locate_eq_follow hlimit] at h
    exact (follow_eq_iff.mp h).fault_cases

lemma locate_eq_ok_iff : fs.locate path = .ok place ↔
    ¬ pathLimit ≤ Utf8.size path.toText ∧ Follows fs (fs.start path) path.parts (.ok place) := by
  by_cases hlimit : pathLimit ≤ Utf8.size path.toText
  · simp [locate, hlimit]
  · rw [locate_eq_follow hlimit, follow_eq_iff, and_iff_right hlimit]

lemma location_of_locate (h : fs.locate path = .ok place) :
    place.location = (fs.start path).walk path.parts :=
  (locate_eq_ok_iff.mp h).2.location_eq

lemma entryAt_eq_error_iff {f : Failure} :
    fs.entryAt path = .error f ↔
      path.hasNul = false ∧ fs.TooLong path ∧ f = PathFault.nameTooLong.failure path := by
  rw [← locate_eq_nameTooLong_iff, entryAt]
  cases path.hasNul with
  | true => simp
  | false =>
    cases hlocate : fs.locate path with
    | ok place => cases place <;> simp
    | error fault => obtain rfl | rfl | rfl := locate_fault_cases hlocate <;> simp [eq_comm]

lemma entryAt_eq_some_iff {entry : Entry} : fs.entryAt path = .ok (some entry) ↔
    path.hasNul = false ∧ ∃ location, fs.locate path = .ok (.taken location entry) := by
  unfold entryAt
  cases path.hasNul with
  | true => simp
  | false =>
    rcases hlocate : fs.locate path with fault | (⟨location, found⟩ | location)
    · obtain rfl | rfl | rfl := locate_fault_cases hlocate <;> simp
    · simp
    · simp

/-- The system takes a path up: no NUL character stands in it, and nothing of it is too long. -/
def Passable (fs : FileSystem) (path : FilePath) : Prop :=
  path.hasNul = false ∧ ¬ fs.TooLong path

lemma passable_iff_of_entryAt {entry : Option Entry} (lookup : fs.entryAt path = .ok entry) :
    fs.Passable path ↔ path.hasNul = false := by
  refine and_iff_left_iff_imp.mpr fun hnul hlong => ?_
  have herror := entryAt_eq_error_iff.mpr ⟨hnul, hlong, rfl⟩
  rw [lookup] at herror
  cases herror

lemma passable_of_entryAt_some {entry : Entry} (lookup : fs.entryAt path = .ok (some entry)) :
    fs.Passable path := by
  obtain ⟨hnul, -⟩ := entryAt_eq_some_iff.mp lookup
  exact (passable_iff_of_entryAt lookup).mpr hnul

lemma not_passable_of_entryAt_error {f : Failure} (lookup : fs.entryAt path = .error f) :
    ¬ fs.Passable path := by
  obtain ⟨-, hlong, -⟩ := entryAt_eq_error_iff.mp lookup
  exact fun h => h.2 hlong

end FileSystem

end HostDiscovery
