import HostDiscovery.Proofs.Files.Following

/-! What a file system holds after a file was stored: the path leads to the file, whatever else it
passes on its way there, and every other location is as before. -/
namespace HostDiscovery

namespace FileSystem

variable {fs : FileSystem} {location here : Location} {parts : List Text} {path : FilePath}
  {place : Place}

lemma put_put (fs : FileSystem) (location : Location) (first second : Entry) :
    (fs.put location first).put location second = fs.put location second := by
  simp [put]

lemma extend_put (hne : location ≠ []) (content bytes : Bytes) :
    (fs.put location (.file content)).extend location bytes =
      fs.put location (.file (content ++ bytes)) := by
  rw [extend, get?_put_self hne]
  exact put_put fs location _ _

lemma get?_ne_directory_of_locate (h : fs.locate path = .ok place)
    (hplace : place.fileLocation? = some location) : fs.get? location ≠ some .directory := by
  obtain ⟨-, hfollows⟩ := locate_eq_ok_iff.mp h
  rcases place with ⟨l, content | _⟩ | l
  · obtain rfl := Option.some.inj hplace
    obtain hget | hentry := hfollows.get?_eq
    · simp [hget]
    · cases hentry
  · cases hplace
  · obtain rfl := Option.some.inj hplace
    simp [hfollows.get?_eq_none]

lemma locate_of_directories {after : FileSystem} {entry : Entry} (h : fs.locate path = .ok place)
    (hplace : place.fileLocation? = some location)
    (hdirectories : ∀ l, fs.get? l = some .directory → after.get? l = some .directory)
    (hstart : after.workingDirectory = fs.workingDirectory)
    (hentry : after.get? location = some entry) :
    after.locate path = .ok (.taken location entry) := by
  obtain rfl := Place.location_eq_of_fileLocation? hplace
  obtain ⟨hlimit, hfollows⟩ := locate_eq_ok_iff.mp h
  rw [locate_eq_ok_iff, start, hstart]
  refine ⟨hlimit, hfollows.of_directories hdirectories hentry ?_⟩
  rintro l rfl
  cases hplace

lemma ne_nil_of_locate (h : fs.locate path = .ok place)
    (hplace : place.fileLocation? = some location) : location ≠ [] := by
  rintro rfl
  exact get?_ne_directory_of_locate h hplace rfl

lemma get?_put_directory (h : fs.locate path = .ok place)
    (hplace : place.fileLocation? = some location) (entry : Entry) {l : Location}
    (hl : fs.get? l = some .directory) : (fs.put location entry).get? l = some .directory := by
  have hother : l ≠ location := by
    rintro rfl
    exact get?_ne_directory_of_locate h hplace hl
  rw [get?_put_of_ne hother, hl]

lemma locate_put (h : fs.locate path = .ok place) (hplace : place.fileLocation? = some location)
    (entry : Entry) : (fs.put location entry).locate path = .ok (.taken location entry) := by
  have hput : (fs.put location entry).get? location = some entry :=
    get?_put_self (ne_nil_of_locate h hplace) entry
  exact locate_of_directories h hplace (fun _ => get?_put_directory h hplace entry) rfl hput

lemma get?_of_locate_file {content : Bytes}
    (h : fs.locate path = .ok (.taken location (.file content))) :
    fs.get? location = some (.file content) := by
  obtain hget | hentry := (locate_eq_ok_iff.mp h).2.get?_eq
  · exact hget
  · cases hentry

lemma writable_eq_ok_iff {content : Bytes} :
    fs.writable path = .ok (location, content) ↔
      path.hasNul = false ∧
        (fs.locate path = .ok (.free location) ∧ content = [] ∨
          fs.locate path = .ok (.taken location (.file content))) := by
  unfold writable
  cases path.hasNul with
  | true => simp
  | false =>
    rcases fs.locate path with fault | (⟨l, c | -⟩ | l)
    · simp
    · simp
    · simp
    · simp [eq_comm]

lemma exists_place_of_writable {content : Bytes} (h : fs.writable path = .ok (location, content)) :
    path.hasNul = false ∧ ∃ place, fs.locate path = .ok place ∧
      place.fileLocation? = some location := by
  obtain ⟨hnul, ⟨hfree, -⟩ | htaken⟩ := writable_eq_ok_iff.mp h
  · exact ⟨hnul, _, hfree, rfl⟩
  · exact ⟨hnul, _, htaken, rfl⟩

lemma writable_ne_ok_of_directory {there : Location}
    (h : fs.locate path = .ok (.taken there .directory)) (opened : Location × Bytes) :
    fs.writable path ≠ .ok opened := by
  intro hopen
  obtain ⟨-, place, hlocate, hplace⟩ := exists_place_of_writable hopen
  obtain rfl := Except.ok.inj (h.symm.trans hlocate)
  cases hplace

lemma isSystem_iff_of_writable {f : Failure} (h : fs.writable path = .error f) :
    f.kind.isSystem = true ↔ path.hasNul = false := by
  cases hnul : path.hasNul with
  | true =>
    rw [writable, if_pos hnul] at h
    obtain rfl := Except.error.inj h
    decide
  | false =>
    rw [writable, if_neg (by simp [hnul])] at h
    refine iff_of_true ?_ rfl
    split at h
    · cases h
    · cases h
    · rw [← Except.error.inj h, PathFault.isSystem_failure]
    · rw [← Except.error.inj h, PathFault.isSystem_failure]

lemma ne_nil_of_writable {content : Bytes} (h : fs.writable path = .ok (location, content)) :
    location ≠ [] := by
  obtain ⟨-, place, hlocate, hplace⟩ := exists_place_of_writable h
  exact ne_nil_of_locate hlocate hplace

lemma read_eq_ok_iff {content : Bytes} : fs.read path = .ok content ↔
    path.hasNul = false ∧ ∃ location, fs.locate path = .ok (.taken location (.file content)) := by
  unfold read
  cases path.hasNul with
  | true => simp
  | false => rcases fs.locate path with fault | (⟨l, c | _⟩ | l) <;> simp

lemma entryAt_eq_file_iff {content : Bytes} :
    fs.entryAt path = .ok (some (.file content)) ↔ fs.read path = .ok content := by
  rw [entryAt_eq_some_iff, read_eq_ok_iff]

lemma read_put_file {old : Bytes} (h : fs.writable path = .ok (location, old)) (content : Bytes) :
    (fs.put location (.file content)).read path = .ok content := by
  obtain ⟨hnul, place, hlocate, hplace⟩ := exists_place_of_writable h
  have hafter := locate_put hlocate hplace (.file content)
  exact read_eq_ok_iff.mpr ⟨hnul, location, hafter⟩

lemma read_put_of_ne {other : FilePath} {content old : Bytes} (hread : fs.read path = .ok content)
    (hopen : fs.writable other = .ok (location, old))
    (hne : (fs.start path).walk path.parts ≠ (fs.start other).walk other.parts) (entry : Entry) :
    (fs.put location entry).read path = .ok content := by
  obtain ⟨hnul, there, hlocate⟩ := read_eq_ok_iff.mp hread
  obtain ⟨-, place, hother, hplace⟩ := exists_place_of_writable hopen
  have hthere : there ≠ location := by
    rw [← Place.location_eq_of_fileLocation? hplace, location_of_locate hother]
    rwa [← location_of_locate hlocate] at hne
  have hfound : (fs.put location entry).get? there = some (.file content) := by
    rw [get?_put_of_ne hthere, get?_of_locate_file hlocate]
  have hafter : (fs.put location entry).locate path = .ok (.taken there (.file content)) :=
    locate_of_directories hlocate rfl (fun _ => get?_put_directory hother hplace entry) rfl hfound
  exact read_eq_ok_iff.mpr ⟨hnul, there, hafter⟩

/-- The path leads to a file with the content, and at all other locations there is what was there
before. -/
structure Stored (before : FileSystem) (path : FilePath) (content : Bytes) (after : FileSystem) :
    Prop where
  read : after.read path = .ok content
  elsewhere : ∃ location old, before.writable path = .ok (location, old) ∧
    after.get? location = some (.file content) ∧
    ∀ other, other ≠ location → after.get? other = before.get? other
  workingDirectory : after.workingDirectory = before.workingDirectory

lemma stored_put {old : Bytes} (h : fs.writable path = .ok (location, old)) (content : Bytes) :
    Stored fs path content (fs.put location (.file content)) where
  read := read_put_file h content
  elsewhere := ⟨location, old, h, get?_put_self (ne_nil_of_writable h) _,
    fun _ hother => get?_put_of_ne hother _⟩
  workingDirectory := rfl

end FileSystem

end HostDiscovery
