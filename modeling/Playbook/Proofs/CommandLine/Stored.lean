import Playbook.CommandLine.Program
import Playbook.Proofs.Document.Readings
import Playbook.Proofs.Text.LineEnds
import Playbook.Proofs.Text.Utf8
/-!
# Playbooks in files

A playbook may be given as a text or as a file that holds the text. Both give the same document as long as carriage
returns stand at the ends of lines only. Any other return is one character of its line in the text, but ends a line in
the file, so that the document of the file has more lines; what was one block may then be several, of another kind.
-/

namespace Playbook

open Text

/-! ### Documents of as many lines -/

namespace Document

/-- The lines that a document claims are as many as there are, if no fence is open at the end. -/
theorem Covers.unique {d : Document} {m n : Nat} (hm : d.Covers m) (hn : d.Covers n)
    (hfences : ∀ p ∈ d.problems, p.code ≠ Problem.openFenceCode) : m = n := by
  have hproblems : d.problems.map (Problem.interval m) = d.problems.map (Problem.interval n) := by
    apply List.map_congr_left
    intro p hp
    rw [Problem.interval, Problem.interval, if_neg (hfences p hp), if_neg (hfences p hp)]
  have hintervals : d.intervals m = d.intervals n := by
    rw [intervals, intervals, hproblems]
  have hsize := hm.tiles.sum_size
  have hsize' := hn.tiles.sum_size
  rw [hintervals] at hsize
  omega

end Document

/-! ### The text of a file -/

namespace CommandLine

/-- There is a file of that name, and it holds the text. -/
structure Holds (h : Host) (file text : String) : Prop where
  named : (Path.ofString file).fault? = none
  bytes : h.disk.readBytes h.cwd (.ofString file) = .ok (encodeUtf8 text.toList)

variable {h : Host} {file text : String}

/-- What can be read is somewhere on the disk. -/
theorem exists_of_readBytes {d : Disk} {cwd : Location} {path : Path} {bytes : Bytes}
    (h : d.readBytes cwd path = .ok bytes) : ∃ loc, d.locatePath cwd path = .ok loc ∧ (d.find? loc).isSome = true := by
  unfold Disk.readBytes at h
  cases hloc : d.locatePath cwd path with
  | error e =>
      rw [hloc] at h
      cases h
  | ok loc =>
      rw [hloc] at h
      refine ⟨loc, rfl, ?_⟩
      cases hfind : d.find? loc with
      | none =>
          simp only [hfind, bind, Except.bind] at h
          cases h
      | some entry => rfl

theorem Holds.isThere (hfile : Holds h file text) : TextFile.isThere h.disk h.cwd (.ofString file) = .ok true := by
  obtain ⟨loc, hloc, hfind⟩ := exists_of_readBytes hfile.bytes
  rw [TextFile.isThere, hfile.named, Option.isSome_none, if_neg Bool.false_ne_true, hloc]
  exact congrArg Except.ok hfind

/-- What is read is the text with its line ends made equal. -/
theorem Holds.readFile? (hfile : Holds h file text) :
    readFile? h file = .ok (some (String.ofList (unifyLineEnds text.toList))) := by
  have hread : TextFile.read h.disk h.cwd (.ofString file) = .ok (unifyLineEnds text.toList) := by
    rw [TextFile.read, hfile.bytes]
    change TextFile.decode (encodeUtf8 text.toList) = _
    rw [TextFile.decode, decodeUtf8_encodeUtf8]
    rfl
  simp only [CommandLine.readFile?, hfile.isThere, hread]
  rfl

theorem parse_eq_parseText {asJson : Bool} (hread : CommandLine.readFile? h file = .ok (some text)) :
    parse h file asJson = parseText h asJson text := by
  rw [parse, hread]

/-- The document of a file is the document of the text that it holds, if the text keeps its lines; if it does not, the
two differ, but for what may be lost behind an open fence. -/
theorem parse_stored (h : Host) (file text : String) (hfile : Holds h file text) :
    ∃ stored, CommandLine.readFile? h file = .ok (some stored) ∧
      (∀ asJson, parse h file asJson = parseText h asJson stored) ∧
      lines stored.toList = (lines text.toList).flatMap (List.splitOn '\r') ∧
      (blank text = true ∨ KeepsLines text.toList → Document.parse stored = Document.parse text) ∧
      (Document.parse stored = Document.parse text →
        (∀ p ∈ (Document.parse text).problems, p.code ≠ Problem.openFenceCode) →
          blank text = true ∨ KeepsLines text.toList) := by
  have hread := hfile.readFile?
  have htext : (String.ofList (unifyLineEnds text.toList)).toList = unifyLineEnds text.toList := String.toList_ofList
  have hblank : blank (String.ofList (unifyLineEnds text.toList)) = blank text := by
    rw [blank, htext, isBlank_unifyLineEnds, blank]
  refine ⟨_, hread, fun asJson => parse_eq_parseText hread, ?_, ?_, ?_⟩
  · rw [htext, lines_unifyLineEnds]
  · rintro (hempty | hkeeps)
    · rw [Document.parse, hblank, hempty, if_pos rfl, Document.parse, hempty, if_pos rfl]
    · apply Document.parse_congr hblank
      rw [htext, lines_unifyLineEnds_of_keepsLines hkeeps]
  · intro hsame hfences
    cases hvisible : blank text with
    | true => exact .inl rfl
    | false =>
        have hcovers := Document.ofLines_covers (lines text.toList)
        have hstored := Document.ofLines_covers (lines (unifyLineEnds text.toList))
        rw [← htext, ← Document.parse_of_visible (hblank.trans hvisible), hsame, htext] at hstored
        rw [← Document.parse_of_visible hvisible] at hcovers
        exact .inr (keepsLines_of_length_eq (hstored.unique hcovers hfences))

/-- A desk with one file on it. -/
def desk (name text : String) : Host := .bare ⟨[(.ofNames [name], .file (encodeUtf8 text.toList))]⟩

/-- A file with returns at the ends of its lines, between fences as well. -/
theorem parse_stored_notes :
    let text := "@task\r\n\x60\x60\x60\r\nhi\r\n\x60\x60\x60\r\n"
    Holds (desk "notes.md" text) "notes.md" text ∧ KeepsLines text.toList ∧
      ∃ stored, CommandLine.readFile? (desk "notes.md" text) "notes.md" = .ok (some stored) ∧
        Document.parse stored = Document.parse text := by
  intro text
  have hfile : Holds (desk "notes.md" text) "notes.md" text := ⟨by decide +kernel, by decide +kernel⟩
  have hkeeps : KeepsLines text.toList := by decide +kernel
  obtain ⟨stored, hread, -, -, hsame, -⟩ := parse_stored (desk "notes.md" text) "notes.md" text hfile
  exact ⟨hfile, hkeeps, stored, hread, hsame (.inr hkeeps)⟩

/-- A return inside a line: the text has one line, and the file two, of which the second is a directive. -/
theorem not_parse_stored_of_return :
    ¬ ∀ h file text, Holds h file text →
      ∃ stored, CommandLine.readFile? h file = .ok (some stored) ∧ Document.parse stored = Document.parse text := by
  intro hall
  let text := "note\r@task --prompt hi\n"
  have hfile : Holds (desk "notes.md" text) "notes.md" text := ⟨by decide +kernel, by decide +kernel⟩
  obtain ⟨stored, hread, hsame⟩ := hall (desk "notes.md" text) "notes.md" text hfile
  have hstored : stored = String.ofList (unifyLineEnds text.toList) := by
    have hread' := hfile.readFile?
    rw [hread] at hread'
    cases hread'
    rfl
  have hone : (Document.parse text).blocks.length = 1 := by decide +kernel
  have htwo : (Document.parse (String.ofList (unifyLineEnds text.toList))).blocks.length = 2 := by decide +kernel
  rw [← hstored, hsame, hone] at htwo
  cases htwo

end CommandLine

end Playbook
