import HostDiscovery.Proofs.Files.Directories
import HostDiscovery.Proofs.Files.Storage
import HostDiscovery.Proofs.Log.Runs

/-! What a log file holds. A configuration with a file leaves a file that is there to be written to,
and every record that the handler takes adds its line at the end of it; no other file changes. -/
namespace HostDiscovery

lemma Utf8.encode_append (s t : Text) : encode (s ++ t) = encode s ++ encode t :=
  List.flatMap_append

namespace FileSystem

variable {fs middle after : FileSystem} {path : FilePath} {content next : Bytes}

lemma writable_of_read (hread : fs.read path = .ok content) :
    ∃ location, fs.writable path = .ok (location, content) ∧
      fs.get? location = some (.file content) := by
  obtain ⟨hnul, location, hlocate⟩ := read_eq_ok_iff.mp hread
  have hwritable : fs.writable path = .ok (location, content) :=
    writable_eq_ok_iff.mpr ⟨hnul, .inr hlocate⟩
  exact ⟨location, hwritable, get?_of_locate_file hlocate⟩

lemma stored_self (hread : fs.read path = .ok content) : fs.Stored path content fs := by
  obtain ⟨location, hwritable, hfile⟩ := writable_of_read hread
  exact ⟨hread, ⟨location, content, hwritable, hfile, fun _ _ => rfl⟩, rfl⟩

lemma stored_append (hread : fs.read path = .ok content) (text : Text) :
    fs.Stored path (content ++ Utf8.encode text) (fs.append path text) := by
  obtain ⟨location, hwritable, -⟩ := writable_of_read hread
  have hstored := stored_put hwritable (content ++ Utf8.encode text)
  rwa [append, hwritable]

lemma Stored.trans (h : fs.Stored path content middle) (h' : middle.Stored path next after) :
    fs.Stored path next after := by
  obtain ⟨location, old, hopen, hfile, hothers⟩ := h.elsewhere
  obtain ⟨location', old', hopen', hfile', hothers'⟩ := h'.elsewhere
  obtain ⟨-, place, hlocate, hplace⟩ := exists_place_of_writable hopen
  obtain ⟨-, place', hlocate', hplace'⟩ := exists_place_of_writable hopen'
  have hsame : location' = location := by
    rw [← Place.location_eq_of_fileLocation? hplace, ← Place.location_eq_of_fileLocation? hplace',
      location_of_locate hlocate, location_of_locate hlocate', start, start, h.workingDirectory]
  subst hsame
  refine ⟨h'.read, ⟨location', old, hopen, hfile', ?_⟩, ?_⟩
  · intro other hother
    rw [hothers' other hother, hothers other hother]
  · rw [h'.workingDirectory, h.workingDirectory]

end FileSystem

namespace Logging

variable {s : Logging} {h : Handler} {path : FilePath} {fs : FileSystem} {content : Bytes}

lemma writeFiles_cons (line : Text) (delivered : List (Sink × Text)) (fs : FileSystem) :
    writeFiles ((.file path, line) :: delivered) fs =
      writeFiles delivered (fs.append path line) := rfl

/-- Lines that all go to one file are put behind what it holds, in their order. -/
lemma stored_writeFiles (delivered : List (Sink × Text))
    (hsink : ∀ line ∈ delivered, line.1 = .file path) (hread : fs.read path = .ok content) :
    fs.Stored path (content ++ Utf8.encode (delivered.flatMap (·.2)))
      (writeFiles delivered fs) := by
  induction delivered generalizing fs content with
  | nil =>
    have hnone : content ++ Utf8.encode ([] : Text) = content := List.append_nil _
    rw [List.flatMap_nil, hnone]
    exact FileSystem.stored_self hread
  | cons line delivered ih =>
    obtain ⟨sink, text⟩ := line
    obtain rfl : sink = .file path := hsink _ List.mem_cons_self
    have hfirst := FileSystem.stored_append hread text
    have hrest := ih (fun line hline => hsink line (List.mem_cons_of_mem _ hline)) hfirst.read
    rw [List.flatMap_cons, Utf8.encode_append, ← List.append_assoc, writeFiles_cons]
    exact hfirst.trans hrest

/-- The lines of records as a handler writes them, those below its level left out. -/
def linesOf (h : Handler) (records : List (Stamp × LogRecord)) : Text :=
  records.flatMap fun (stamp, record) =>
    if h.level.number ≤ record.level.number then (line? stamp record h.format.text).getD [] else []

def deliverAll (s : Logging) (records : List (Stamp × LogRecord)) : List (Sink × Text) :=
  records.flatMap fun (stamp, record) => s.deliver stamp record

lemma Sound.deliver_file (hs : Sound s) (hh : h ∈ s.handlers) (hsink : h.sink = .file path)
    (stamp : Stamp) {record : LogRecord}
    (hlogger : LoggerName.descends s.loggers record.logger = true) :
    (∀ line ∈ s.deliver stamp record, line.1 = .file path) ∧
      (s.deliver stamp record).flatMap (·.2) = linesOf h [(stamp, record)] := by
  have hdeliver := hs.deliver_eq hh stamp hlogger
  have hlines : linesOf h [(stamp, record)] =
      if h.level.number ≤ record.level.number then (line? stamp record h.format.text).getD []
      else [] := List.flatMap_singleton _ _
  rw [hdeliver, hlines]
  by_cases hlevel : h.level.number ≤ record.level.number
  · rw [if_pos hlevel, if_pos hlevel, hsink]
    cases line? stamp record h.format.text with
    | none => exact ⟨nofun, rfl⟩
    | some text => exact ⟨fun line hline => by rw [List.mem_singleton.mp hline], by simp⟩
  · rw [if_neg hlevel, if_neg hlevel]
    exact ⟨nofun, rfl⟩

lemma Sound.deliverAll_file (hs : Sound s) (hh : h ∈ s.handlers) (hsink : h.sink = .file path)
    (records : List (Stamp × LogRecord))
    (hloggers : ∀ r ∈ records, LoggerName.descends s.loggers r.2.logger = true) :
    (∀ line ∈ s.deliverAll records, line.1 = .file path) ∧
      (s.deliverAll records).flatMap (·.2) = linesOf h records := by
  induction records with
  | nil => exact ⟨nofun, rfl⟩
  | cons r records ih =>
    obtain ⟨stamp, record⟩ := r
    obtain ⟨hsinks, hlines⟩ := ih fun r hr => hloggers r (List.mem_cons_of_mem _ hr)
    have hlogger := hloggers (stamp, record) List.mem_cons_self
    obtain ⟨hsink, hline⟩ := hs.deliver_file hh hsink stamp hlogger
    have hall : s.deliverAll ((stamp, record) :: records) =
        s.deliver stamp record ++ s.deliverAll records := List.flatMap_cons
    rw [hall]
    constructor
    · intro line hline
      exact (List.mem_append.mp hline).elim (hsink line) (hsinks line)
    · rw [List.flatMap_append, hline, hlines]
      simp [linesOf]

/-- Whatever calls were made before, records of the loggers below the root one go to the file of the
handler that is installed, one line behind the other, and no other file changes. -/
theorem stored_deliverAll (operations : List Operation) (hh : h ∈ (after operations).handlers)
    (hsink : h.sink = .file path) (records : List (Stamp × LogRecord))
    (hloggers : ∀ r ∈ records,
      LoggerName.descends (after operations).loggers r.2.logger = true)
    (hread : fs.read path = .ok content) :
    fs.Stored path (content ++ Utf8.encode (linesOf h records))
      (writeFiles ((after operations).deliverAll records) fs) := by
  have hs : Sound (after operations) := sound_after operations
  obtain ⟨hsinks, hlines⟩ := hs.deliverAll_file hh hsink records hloggers
  rw [← hlines]
  exact stored_writeFiles _ hsinks hread

lemma openFile_eq_ok {sink : Sink} {opened : FileSystem}
    (hopen : openFile path fs = (.ok sink, opened)) :
    ∃ file content, sink = .file file ∧ opened.read file = .ok content ∧
      ∀ old, fs.read file = .ok old → old = content := by
  have hgrows := (fs.making_makeDirectories true path.parent).grows
  unfold openFile at hopen
  rcases hmake : fs.makeDirectories true path.parent with ⟨f | _, middle⟩
  · rw [hmake] at hopen
    cases hopen
  · rw [hmake] at hopen hgrows
    dsimp only at hopen
    cases hwritable : middle.writable (absolute middle path) with
    | error f =>
      rw [hwritable] at hopen
      cases hopen
    | ok found =>
      obtain ⟨location, content⟩ := found
      rw [hwritable] at hopen
      obtain ⟨hsink, rfl⟩ := Prod.mk.inj hopen
      refine ⟨_, content, (Except.ok.inj hsink).symm,
        FileSystem.read_put_file hwritable content, ?_⟩
      intro old hold
      obtain ⟨location', hwritable', -⟩ := FileSystem.writable_of_read (hgrows.read_eq hold)
      have hsame := Except.ok.inj (hwritable'.symm.trans hwritable)
      exact (Prod.mk.inj hsame).2

/-- After a configuration for a file, the only handler writes to a file that is there, and that
holds what it held before. -/
theorem configure_file {c : LogConfiguration} {name : String} (hc : c.target = .path name)
    (hdone : (s.configure c fs).1 = .ok ()) :
    ∃ h file content, (s.configure c fs).2.1.handlers = [h] ∧ h.sink = .file file ∧
      (s.configure c fs).2.2.read file = .ok content ∧
      ∀ old, fs.read file = .ok old → old = content := by
  unfold configure at hdone ⊢
  rw [hc] at hdone ⊢
  cases hlevel : resolveLevel c.level with
  | error e =>
    rw [hlevel] at hdone
    cases hdone
  | ok level =>
    rw [hlevel] at hdone
    dsimp only [openSink] at hdone ⊢
    rcases hopen : openFile (FilePath.ofString name) fs with ⟨f | sink, opened⟩
    · rw [hopen] at hdone
      cases hdone
    · rw [hopen] at hdone
      dsimp only [Except.mapError] at hdone ⊢
      cases hformat : chosenFormat c with
      | error e =>
        rw [hformat] at hdone
        cases hdone
      | ok format =>
        obtain ⟨file, content, hsink, hread, hkept⟩ := openFile_eq_ok hopen
        exact ⟨_, file, content, rfl, hsink, hread, hkept⟩

end Logging

end HostDiscovery
