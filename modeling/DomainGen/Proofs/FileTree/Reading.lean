import DomainGen.Proofs.FileTree.Confinement
import DomainGen.Proofs.FileTree.Writing
import DomainGen.Proofs.Text.Utf8

/-!
# Reading what is in a file tree

A text without carriage returns that is stored with one to four bytes for a character is read as it
is.

A path that leads to a place that is no folder can be written. It still leads there afterwards, since
no file stands on the way; so it can be written again, and what was written last is read.

* `unifyLineEnds_of_not_mem` : unifying line ends leaves such a text alone;
* `readText_of_read` : **a file with the bytes of such a text has the text**;
* `read_of_node`, `isFile_of_read`, `read_of_isFile` : what can be read is in a file;
* `readText_eq_error` : **why a file is no text**;
* `read_of_exists?`, `readText_utf8` : what reading something that is there gives;
* `FileTree.Writable` : the path can be written; `write_ok_iff` : it can be with any content or none;
* `resolve_of_write` : **a path that was written leads to its place**;
* `writeText_utf8` : a text is written like its bytes;
* `readText_writeText` : **a text is read back**.
-/

/-! ## 1. Reading -/

namespace DomainGen

open Text

namespace Text

/-- A text without carriage returns has line feeds only. -/
theorem unifyLineEnds_of_not_mem : ∀ {s : List Char}, '\r' ∉ s → unifyLineEnds s = s
  | [], _ => rfl
  | c :: rest, h => by
      rw [List.mem_cons, not_or] at h
      have ih := unifyLineEnds_of_not_mem h.2
      unfold unifyLineEnds
      split
      · rename_i heq
        cases heq
      · rename_i heq
        exact absurd (List.cons.inj heq).1.symm h.1
      · rename_i heq
        exact absurd (List.cons.inj heq).1.symm h.1
      · rename_i heq
        obtain ⟨rfl, rfl⟩ := List.cons.inj heq
        rw [ih]

end Text

namespace FileTree

variable {t : FileTree} {p : Path}

theorem ofName_utf8 : Encoding.ofName "utf-8" = .ok .utf8 := by decide +kernel

/-- **A file with the bytes of a text has the text.** -/
theorem readText_of_read {s : String} (h : t.read p = .ok (Utf8.encode s.toList))
    (hs : '\r' ∉ s.toList) : t.readText p "utf-8" = .ok s := by
  unfold readText
  rw [ofName_utf8]
  dsimp only [bind, Except.bind]
  rw [h]
  dsimp only
  unfold Encoding.decode
  rw [Utf8.decode_encode]
  dsimp only [Encoding.orUndecodable]
  rw [unifyLineEnds_of_not_mem hs, String.ofList_toList]
  rfl

/-- A path that can be followed to a file leads to what is in the file. -/
theorem read_of_node {place : Place} {content : List UInt8} (h : t.resolve p = .ok place)
    (hfile : t.node? place = some (.file content)) : t.read p = .ok content := by
  unfold read
  rw [h]
  dsimp only [bind, Except.bind]
  rw [hfile]

/-- What can be read is a file. -/
theorem isFile_of_read {content : List UInt8} (h : t.read p = .ok content) : t.isFile p = true := by
  unfold read at h
  obtain ⟨place, hplace, h⟩ := except_bind_eq_ok.mp h
  unfold isFile at?
  rw [hplace]
  dsimp only
  cases hnode : t.node? place with
  | none =>
      rw [hnode] at h
      cases h
  | some n =>
      rw [hnode] at h
      cases n with
      | folder => cases h
      | file content => rfl

/-- A file can be read. -/
theorem read_of_isFile (h : t.isFile p = true) : ∃ content, t.read p = .ok content := by
  unfold isFile at? at h
  cases hplace : t.resolve p with
  | error f =>
      rw [hplace] at h
      cases h
  | ok place =>
      rw [hplace] at h
      dsimp only at h
      cases hnode : t.node? place with
      | none =>
          rw [hnode] at h
          cases h
      | some n =>
          rw [hnode] at h
          cases n with
          | folder => cases h
          | file content => exact ⟨content, read_of_node hplace hnode⟩

/-- A file that can be read is there. -/
theorem exists?_of_read {content : List UInt8} (h : t.read p = .ok content) :
    t.exists? p = .ok true := by
  obtain ⟨place, hplace, h⟩ := except_bind_eq_ok.mp h
  unfold exists?
  rw [hplace]
  dsimp only
  cases hnode : t.node? place with
  | none =>
      rw [hnode] at h
      cases h
  | some n => rfl

/-- Something that is there can be read, or it is a folder. -/
theorem read_of_exists? (h : t.exists? p = .ok true) :
    (∃ content, t.read p = .ok content) ∨ t.read p = .error (.system .isFolder) := by
  unfold exists? at h
  split at h
  · rename_i place hplace
    unfold read
    rw [hplace]
    dsimp only [bind, Except.bind]
    cases hnode : t.node? place with
    | none =>
        rw [hnode] at h
        cases h
    | some n =>
        cases n with
        | folder => exact .inr rfl
        | file content => exact .inl ⟨content, rfl⟩
  · cases h
  · cases h

/-- A file is read as a text if its bytes are one. -/
theorem readText_utf8 (t : FileTree) (p : Path) : t.readText p "utf-8" =
    (t.read p).bind fun content => (Encoding.orUndecodable (Utf8.decode content)).map
      fun s => String.ofList (unifyLineEnds s) := by
  unfold readText
  rw [ofName_utf8]
  dsimp only [bind, Except.bind]
  cases t.read p with
  | error f => rfl
  | ok content =>
      dsimp only [Encoding.decode]
      cases Utf8.decode content <;> rfl

theorem read_of_readText {text : String} (h : t.readText p "utf-8" = .ok text) :
    ∃ content, t.read p = .ok content := by
  rw [readText_utf8] at h
  obtain ⟨content, hread, _⟩ := except_bind_eq_ok.mp h
  exact ⟨content, hread⟩

/-- Something that is there is no text if its bytes are none or it is a folder. -/
theorem readText_utf8_eq_error {f : Fault} (hthere : t.exists? p = .ok true)
    (h : t.readText p "utf-8" = .error f) :
    (f = .undecodable ∧ ∃ content, t.read p = .ok content ∧ Utf8.decode content = none) ∨
      f = .system .isFolder := by
  rw [readText_utf8] at h
  rcases read_of_exists? hthere with ⟨content, hread⟩ | hfolder
  · rw [hread] at h
    dsimp only [Except.bind] at h
    cases hdecode : Utf8.decode content with
    | none =>
        rw [hdecode] at h
        cases h
        exact .inl ⟨rfl, content, hread, hdecode⟩
    | some s =>
        rw [hdecode] at h
        cases h
  · rw [hfolder] at h
    cases h
    exact .inr rfl

/-- **A file is no text because of the encoding or because of its bytes.** -/
theorem readText_eq_error {content : List UInt8} {encoding : String} {f : Fault}
    (h : t.read p = .ok content) : t.readText p encoding = .error f ↔
      Encoding.ofName encoding = .error f ∨
        ∃ form, Encoding.ofName encoding = .ok form ∧ form.decode content = .error f := by
  have hread : t.readText p encoding = Encoding.ofName encoding >>= fun form =>
      (form.decode content).map fun s => String.ofList (unifyLineEnds s) := by
    unfold readText
    rw [h]
    dsimp only [bind, Except.bind]
    cases Encoding.ofName encoding with
    | ok form => cases form.decode content <;> rfl
    | error f' =>
        -- a name that no encoding can have is refused before the file is read, any other one after
        split
        · rename_i hbad
          cases hbad
          rfl
        · rfl
  rw [hread, except_bind_eq_error]
  simp only [except_map_eq_error]

theorem isFile_of_readText {encoding s : String} (h : t.readText p encoding = .ok s) :
    t.isFile p = true := by
  unfold readText at h
  dsimp only at h
  split at h
  · cases h
  · obtain ⟨content, hread, _⟩ := except_bind_eq_ok.mp h
    exact isFile_of_read hread

end FileTree

namespace FileTree

variable {t t' : FileTree} {p : Path} {content : List UInt8}

/-! ## 2. Writing bytes -/

/-- The path can be followed, and there is no folder at its place. -/
def Writable (t : FileTree) (p : Path) : Prop :=
  ∃ place, t.resolve p = .ok place ∧ t.node? place ≠ some .folder

/-- A path can be written, whatever the content, exactly if there is no folder. -/
theorem write_ok_iff (content : List UInt8) :
    (∃ t', t.write p content = .ok t') ↔ t.Writable p := by
  constructor
  · rintro ⟨t', h⟩
    obtain ⟨place, hplace, h⟩ := except_bind_eq_ok.mp h
    refine ⟨place, hplace, fun hfolder => ?_⟩
    rw [hfolder] at h
    cases h
  · rintro ⟨place, hplace, hnot⟩
    refine ⟨t.put place (.file content), except_bind_eq_ok.mpr ⟨place, hplace, ?_⟩⟩
    split
    · rename_i hfolder
      exact absurd hfolder hnot
    · rfl

/-- **A path that was written leads to its place.** No file is on the way to it, so nothing on the way
    has changed. -/
theorem resolve_of_write (h : t.write p content = .ok t') : t'.resolve p = .ok (t.target p) := by
  obtain ⟨place, hplace, hnot⟩ := (write_ok_iff content).mp ⟨t', h⟩
  have hwrote := write_eq_ok h
  have hfolders : ∀ {q}, t.node? q = some .folder → t'.node? q = some .folder := by
    intro q hq
    rw [hwrote.kept fun hsame => hnot ?_, hq]
    rw [resolve_eq_ok hplace, ← hsame, hq]
  obtain ⟨hname, hsize, hwalk⟩ := resolve_eq_ok_iff.mp hplace
  rw [← resolve_eq_ok hplace]
  refine resolve_eq_ok_iff.mpr ⟨hname, hsize, ?_⟩
  rw [origin_congr hwrote.start_eq]
  exact walk_kept hfolders hwalk

/-- What was written can be written again. -/
theorem writable_of_write (h : t.write p content = .ok t') : t'.Writable p := by
  refine ⟨t.target p, resolve_of_write h, ?_⟩
  rw [(write_eq_ok h).written]
  exact fun hfolder => by cases hfolder

theorem read_of_write (h : t.write p content = .ok t') : t'.read p = .ok content :=
  read_of_node (resolve_of_write h) (write_eq_ok h).written

/-- What was written is there. -/
theorem exists?_of_write (h : t.write p content = .ok t') : t'.exists? p = .ok true := by
  unfold exists?
  rw [resolve_of_write h]
  dsimp only
  rw [(write_eq_ok h).written]
  rfl

/-! ## 3. Writing texts -/

/-- A text is written like its bytes. -/
theorem writeText_utf8 {s : String} (h : t.write p (Utf8.encode s.toList) = .ok t') :
    t.writeText p "utf-8" s = (t', none) := by
  unfold writeText
  rw [ofName_utf8]
  dsimp only [Encoding.encode]
  rw [show (Except.toOption (Except.ok (Utf8.encode s.toList) : Except Fault _)).getD [] =
    Utf8.encode s.toList from rfl, h]

/-- **A text without carriage returns is read back**, where it can be written. -/
theorem readText_writeText (h : t.Writable p) {s : String} (hs : '\r' ∉ s.toList) :
    ∃ t', t.writeText p "utf-8" s = (t', none) ∧ t'.exists? p = .ok true ∧ t'.Writable p ∧
      t'.readText p "utf-8" = .ok s := by
  obtain ⟨t', hwrite⟩ := (write_ok_iff (Utf8.encode s.toList)).mpr h
  exact ⟨t', writeText_utf8 hwrite, exists?_of_write hwrite, writable_of_write hwrite,
    readText_of_read (read_of_write hwrite) hs⟩

end FileTree

end DomainGen
