import HostDiscovery.Proofs.Home.Saving

/-! Properties files with any line endings. A file is read with unified breaks, and the map in it is
the one that its text spells as it stands. -/
namespace HostDiscovery

namespace Properties

variable {bytes : Bytes} {text : Text}

lemma parse_unifyBreaks (text : Text) : parse (Text.unifyBreaks text) = parse text := by
  rw [parse, Text.lines_unifyBreaks, parse]

lemma ofBytes_of_decode (h : Utf8.decode bytes = .ok text) : ofBytes bytes = .ok (parse text) := by
  rw [ofBytes, h, Except.map, parse_unifyBreaks]

end Properties

namespace Home

open Properties

/-- Unified breaks are line feeds alone, and the map that a text spells does not depend on them. So
a file that holds the text, in whatever line endings, is loaded as what the text spells. -/
theorem loadProperties_line_endings (text : Text) :
    ('\r' ∉ Text.unifyBreaks text ∧ parse (Text.unifyBreaks text) = parse text) ∧
      ∀ (home : Home) (path : String) (s : Session) (bytes : Bytes),
        s.files.read (home.file path) = .ok bytes → Utf8.decode bytes = .ok text →
        home.loadProperties path s = (.ok (parse text), s) := by
  refine ⟨⟨Text.return_not_mem_unifyBreaks text, parse_unifyBreaks text⟩, ?_⟩
  intro home path s bytes hread hdecode
  have hmap : readProperties s.files (home.file path) = .ok (parse text) :=
    readProperties_eq_ok_iff.mpr ⟨bytes, hread, ofBytes_of_decode hdecode⟩
  exact loadProperties_of_read hmap

/-- All endings in one file, also between the pieces of a continued line and behind the last one. -/
theorem loadProperties_mixed_endings :
    let text := "a=1\r\nb=2\r\r\nc=3\\\r4\n\r#d\r\r".toList
    let home : Home := ⟨⟨1, [['h']]⟩⟩
    let s : Session :=
      { files.entries := [([['h']], .directory), ([['h'], ['p']], .file (Utf8.encode text))] }
    home.loadProperties "p" s = (.ok (parse text), s) ∧
      (parse text).entries = [(['a'], ['1']), (['b'], ['2']), (['c'], ['3', '4'])] := by
  intro text home s
  have hread : s.files.read (home.file "p") = .ok (Utf8.encode text) := by decide +kernel
  have hdecode : Utf8.decode (Utf8.encode text) = .ok text := Utf8.decode_encode text
  exact ⟨(loadProperties_line_endings text).2 home "p" s _ hread hdecode, by decide +kernel⟩

end Home

end HostDiscovery
