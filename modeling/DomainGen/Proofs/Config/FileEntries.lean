import DomainGen.Config.File
import DomainGen.Proofs.Data.Texts
import DomainGen.Proofs.Except
import DomainGen.Proofs.FileTree.Reading

/-!
# What a configuration file gives

A configuration file gives entries, or a configuration error that says what is wrong with it. Besides,
a name can be too long for the file system, the bytes can be no text, and a text in the format can
hold a number or a date that denotes no value.

* `textsOnce_read` (JSON), `textsOnce_read` (YAML) : **in a mapping that was read each text is a key
  once**;
* `Holds` : what a file that gives entries holds; `holds_of_readConfigFile` : **it holds a mapping, or
  a YAML value that counts as false**;
* `FileFault` : what else can go wrong; `readConfigFile_fault` : exactly then a file gives neither
  entries nor a configuration error.
-/

namespace DomainGen

open Data Entries

/-! ## 1. Values that are read -/

namespace Json

theorem readWord?_ne_mapping {s rest : List Char} {es : Entries} :
    readWord? s ≠ some (.mapping es, rest) := by
  intro h
  obtain ⟨w, hw, hfound⟩ := List.exists_of_findSome?_eq_some h
  have hvalues : ∀ w ∈ words, w.2.entries? = none := by
    simp only [words, List.forall_mem_cons]
    exact ⟨rfl, rfl, rfl, rfl, rfl, rfl, fun _ h => absurd h List.not_mem_nil⟩
  have hnone := hvalues w hw
  dsimp only at hfound
  split at hfound
  · rw [(Prod.mk.inj (Option.some.inj hfound)).1] at hnone
    cases hnone
  · cases hfound

theorem readNumber_ne_mapping {negative : Bool} {s rest : List Char} {es : Entries} :
    readNumber negative s ≠ .ok (.mapping es, rest) := by
  intro h
  unfold readNumber at h
  dsimp only at h
  split at h
  all_goals
    split at h
    · cases h
    · split at h
      · split at h <;> cases h
      · cases h

theorem textsOnce_readMembers : ∀ {fuel : Nat} {acc members : Entries} {s rest : List Char},
    acc.TextsOnce → readMembers fuel acc s = .ok (members, rest) → members.TextsOnce
  | 0, acc, members, s, rest, _, h => by
      rw [readMembers.eq_def] at h
      cases h
  | fuel + 1, acc, members, s, rest, hacc, h => by
      rw [readMembers.eq_def] at h
      dsimp only at h
      split at h
      · split at h
        · cases h
        · split at h
          · split at h
            · cases h
            · split at h
              · exact textsOnce_readMembers (textsOnce_put hacc _ _) h
              · cases h
                exact textsOnce_put hacc _ _
              · cases h
          · cases h
      · cases h

/-- **In an object that was read each name occurs once.** -/
theorem textsOnce_readValue {fuel : Nat} {es : Entries} {s rest : List Char}
    (h : readValue fuel s = .ok (.mapping es, rest)) : es.TextsOnce := by
  cases fuel with
  | zero =>
      rw [readValue.eq_def] at h
      cases h
  | succ fuel =>
      rw [readValue.eq_def] at h
      dsimp only at h
      split at h
      · rename_i found hfound
        cases h
        exact absurd hfound readWord?_ne_mapping
      · split at h
        · split at h <;> cases h
        · split at h
          · cases h
          · split at h <;> cases h
        · split at h
          · cases h
            exact List.nodup_nil
          · split at h
            · rename_i hmembers
              cases h
              exact textsOnce_readMembers (show Entries.TextsOnce [] from List.nodup_nil) hmembers
            · cases h
        · exact absurd h readNumber_ne_mapping
        · exact absurd h readNumber_ne_mapping

theorem textsOnce_read {text : String} {es : Entries} (h : read text = .ok (.mapping es)) :
    es.TextsOnce := by
  unfold read at h
  dsimp only at h
  split at h
  · cases h
  · rename_i hvalue
    split at h
    · cases h
      exact textsOnce_readValue hvalue
    · cases h

end Json

namespace Yaml

theorem entries?_readInt {s : List Char} {x : Data} (h : readInt s = .ok x) :
    x.entries? = none := by
  unfold readInt at h
  dsimp only at h
  split at h
  case h_6 =>
    split at h
    all_goals
      obtain ⟨_, _, h⟩ := except_bind_eq_ok.mp h
      cases h
      rfl
  all_goals
    obtain ⟨_, _, h⟩ := except_bind_eq_ok.mp h
    cases h
    rfl

theorem entries?_readFloat {s : List Char} {x : Data} (h : readFloat s = .ok x) :
    x.entries? = none := by
  unfold readFloat at h
  dsimp only at h
  split at h
  · cases h
  · dsimp only [bind, Except.bind, pure, Except.pure] at h
    split at h
    · cases h
      rfl
    · split at h
      · cases h
        rfl
      · split at h
        · split at h
          · cases h
          · split at h
            · cases h
            · cases h
              rfl
        · split at h
          · cases h
          · cases h
            rfl

theorem entries?_readMoment {s : List Char} {x : Data} (h : readMoment s = .ok x) :
    x.entries? = none := by
  unfold readMoment at h
  split at h
  · cases h
  · dsimp only at h
    split at h
    all_goals
      split at h
      · cases h
        rfl
      · cases h

/-- No scalar denotes a mapping. -/
theorem entries?_readScalar {tag : Tag} {text : String} {x : Data}
    (h : readScalar tag text = .ok x) : x.entries? = none := by
  unfold readScalar at h
  split at h
  · cases h
    rfl
  · unfold readBool at h
    dsimp only at h
    split at h
    · cases h
      rfl
    · split at h
      · cases h
        rfl
      · cases h
  · exact entries?_readInt h
  · exact entries?_readFloat h
  · unfold readBinary at h
    split at h
    · split at h
      · cases h
        rfl
      · cases h
    · cases h
  · exact entries?_readMoment h
  · cases h
    rfl
  · cases h

theorem entries?_scalarValue (n : Node) : n.scalarValue.entries? = none := by
  unfold Node.scalarValue
  split
  · rename_i x hx
    unfold Node.readAsScalar at hx
    split at hx
    · split at hx <;> cases hx
    · split at hx
      · exact entries?_readScalar hx
      · cases hx
  · rfl

/-- **In a mapping of a document each text occurs once**, whatever the other keys are. -/
theorem textsOnce_value {n : Node} {es : Entries} (h : n.value = .mapping es) : es.TextsOnce := by
  have hscalar : ∀ {n : Node}, n.scalarValue ≠ .mapping es := by
    intro n hn
    have hnone := entries?_scalarValue n
    rw [hn] at hnone
    cases hnone
  cases n with
  | scalar tag s =>
      rw [Node.value.eq_def] at h
      exact absurd h hscalar
  | sequence tag items =>
      rw [Node.value.eq_def] at h
      dsimp only at h
      split at h <;> cases h
  | mapping tag entries =>
      rw [Node.value.eq_def] at h
      dsimp only at h
      split at h
      · cases h
        exact textsOnce_ofList _
      · cases h
      · exact absurd h hscalar

theorem textsOnce_read {text : String} {es : Entries} (h : read text = .ok (.mapping es)) :
    es.TextsOnce := by
  unfold read at h
  obtain ⟨found, _, h⟩ := except_bind_eq_ok.mp h
  split at h
  · cases h
  · split at h
    · cases h
    · exact textsOnce_value (Except.ok.inj h)

end Yaml

/-! ## 2. What a file holds -/

/-- A file with a text holds entries: a mapping, or a YAML value that counts as false. -/
inductive Holds (text : String) : ConfigFormat → Entries → Prop where
  /-- An object. -/
  | json {es} (h : Json.read text = .ok (.mapping es)) : Holds text .json es
  /-- A mapping. -/
  | yaml {es} (h : Yaml.read text = .ok (.mapping es)) : Holds text .yaml es
  /-- A YAML value that counts as false stands for no entries. -/
  | nothing {x} (h : Yaml.read text = .ok x) (hx : x.isTrue = false) : Holds text .yaml []

theorem Holds.textsOnce {text : String} {format : ConfigFormat} {es : Entries}
    (h : Holds text format es) : es.TextsOnce := by
  cases h with
  | json h => exact Json.textsOnce_read h
  | yaml h => exact Yaml.textsOnce_read h
  | nothing => exact List.nodup_nil

variable {tree : FileTree} {file : String}

theorem holds_of_readConfigText {format : ConfigFormat} {path text : String} {es : Entries}
    (h : readConfigText format path text = .ok (.mapping es)) : Holds text format es := by
  unfold readConfigText at h
  split at h
  · split at h
    · rename_i hread
      cases h
      exact .json hread
    · cases h
    · cases h
  · split at h
    · rename_i x hread
      cases htrue : x.isTrue with
      | true =>
          rw [htrue, if_pos rfl] at h
          cases h
          exact .yaml hread
      | false =>
          rw [htrue, if_neg Bool.false_ne_true] at h
          cases h
          exact .nothing hread htrue
    · cases h
    · cases h

/-- The entries of a value of a text. -/
def entriesOfValue (path : String) : Data → Except Failure Entries
  | .mapping es => .ok es
  | _ => .error (.config (.fileNotMapping path))

theorem readConfigFile_of_unseen {f : Fault} (h : tree.exists? (Path.ofString file) = .error f) :
    readConfigFile tree file = .error (.fault f) := by
  unfold readConfigFile
  dsimp only
  rw [h]
  rfl

theorem readConfigFile_of_absent (h : tree.exists? (Path.ofString file) = .ok false) :
    readConfigFile tree file = .error (.config (.fileNotFound (Path.ofString file).text)) := by
  unfold readConfigFile
  dsimp only
  rw [h]
  rfl

theorem readConfigFile_of_unknown (hthere : tree.exists? (Path.ofString file) = .ok true)
    (hformat : ConfigFormat.ofPath? (Path.ofString file) = none) :
    readConfigFile tree file = .error (.config (.fileFormat (Path.ofString file).text)) := by
  unfold readConfigFile
  dsimp only
  rw [hthere]
  dsimp only [Except.mapError, bind, Except.bind]
  rw [hformat]
  rfl

/-- A file of a known format that is there gives entries as its text does. -/
theorem readConfigFile_of_exists {format : ConfigFormat}
    (hthere : tree.exists? (Path.ofString file) = .ok true)
    (hformat : ConfigFormat.ofPath? (Path.ofString file) = some format) :
    readConfigFile tree file = ((tree.readText (Path.ofString file) "utf-8").mapError
        (Fault.orUnreadable (.fileUnreadable (Path.ofString file).text))).bind fun text =>
      (readConfigText format (Path.ofString file).text text).bind
        (entriesOfValue (Path.ofString file).text) := by
  unfold readConfigFile
  dsimp only
  rw [hthere]
  dsimp only [Except.mapError, bind, Except.bind]
  rw [hformat]
  rfl

/-- **A file that gives entries holds them.** -/
theorem holds_of_readConfigFile {es : Entries} (h : readConfigFile tree file = .ok es) :
    ∃ format text, ConfigFormat.ofPath? (Path.ofString file) = some format ∧
      tree.readText (Path.ofString file) "utf-8" = .ok text ∧ Holds text format es := by
  unfold readConfigFile at h
  dsimp only at h
  obtain ⟨there, hthere, h⟩ := except_bind_eq_ok.mp h
  split at h
  · cases h
  · split at h
    · cases h
    · rename_i format hformat
      obtain ⟨text, htext, h⟩ := except_bind_eq_ok.mp h
      obtain ⟨x, hx, h⟩ := except_bind_eq_ok.mp h
      split at h
      · cases h
        exact ⟨format, text, hformat, except_mapError_eq_ok.mp htext, holds_of_readConfigText hx⟩
      · cases h

/-! ## 3. What else can go wrong -/

/-- What keeps a text in a format from having a value, apart from not being in the format. -/
inductive TextFault (text : String) : ConfigFormat → Fault → Prop where
  /-- An integer has too many digits. -/
  | digits (h : Json.read text = .error .tooManyDigits) : TextFault text .json .badValue
  /-- A scalar has the form of a kind but no value of it. -/
  | scalar {f} (h : Yaml.read text = .error (.fault f)) : TextFault text .yaml f

/-- What keeps a file from giving entries, apart from what is a configuration error. -/
inductive FileFault (tree : FileTree) (file : String) : Fault → Prop where
  /-- The path has a name that is too long. -/
  | path {f} (h : tree.exists? (Path.ofString file) = .error f) : FileFault tree file f
  /-- The bytes are no text. -/
  | bytes {format content} (hformat : ConfigFormat.ofPath? (Path.ofString file) = some format)
      (hread : tree.read (Path.ofString file) = .ok content)
      (h : Utf8.decode content = none) : FileFault tree file .undecodable
  /-- The text has no value. -/
  | text {format text f} (hformat : ConfigFormat.ofPath? (Path.ofString file) = some format)
      (hread : tree.readText (Path.ofString file) "utf-8" = .ok text)
      (h : TextFault text format f) : FileFault tree file f

theorem readConfigText_fault {format : ConfigFormat} {path text : String} {f : Fault} :
    readConfigText format path text = .error (.fault f) ↔ TextFault text format f := by
  constructor
  · intro h
    unfold readConfigText at h
    split at h
    · split at h
      · cases h
      · cases h
      · rename_i hread
        cases h
        exact .digits hread
    · split at h
      · cases h
      · cases h
      · rename_i hread
        cases h
        exact .scalar hread
  · intro h
    unfold readConfigText
    cases h with
    | digits h => rw [h]
    | scalar h => rw [h]

theorem bind_entriesOfValue_fault {x : Except Failure Data} {path : String} {f : Fault} :
    x.bind (entriesOfValue path) = .error (.fault f) ↔ x = .error (.fault f) := by
  constructor
  · intro h
    cases x with
    | error problem =>
        cases h
        rfl
    | ok v => cases v <;> cases h
  · rintro rfl
    rfl

/-- **What else can go wrong with a file.** -/
theorem readConfigFile_fault {f : Fault} :
    readConfigFile tree file = .error (.fault f) ↔ FileFault tree file f := by
  have hstages : ∀ {format text}, ConfigFormat.ofPath? (Path.ofString file) = some format →
      tree.readText (Path.ofString file) "utf-8" = .ok text →
      (readConfigFile tree file = .error (.fault f) ↔ TextFault text format f) := by
    intro format text hformat htext
    obtain ⟨content, hread⟩ := FileTree.read_of_readText htext
    rw [readConfigFile_of_exists (FileTree.exists?_of_read hread) hformat, htext,
      ← readConfigText_fault]
    exact bind_entriesOfValue_fault
  constructor
  · intro h
    cases hthere : tree.exists? (Path.ofString file) with
    | error g =>
        rw [readConfigFile_of_unseen hthere] at h
        cases h
        exact .path hthere
    | ok there =>
        cases there with
        | false =>
            rw [readConfigFile_of_absent hthere] at h
            cases h
        | true =>
            cases hformat : ConfigFormat.ofPath? (Path.ofString file) with
            | none =>
                rw [readConfigFile_of_unknown hthere hformat] at h
                cases h
            | some format =>
                cases htext : tree.readText (Path.ofString file) "utf-8" with
                | ok text => exact .text hformat htext ((hstages hformat htext).mp h)
                | error g =>
                    rw [readConfigFile_of_exists hthere hformat, htext] at h
                    rcases FileTree.readText_utf8_eq_error hthere htext with
                      ⟨rfl, content, hread, hdecode⟩ | rfl
                    · cases h
                      exact .bytes hformat hread hdecode
                    · cases h
  · intro h
    cases h with
    | path hthere => exact readConfigFile_of_unseen hthere
    | bytes hformat hread hdecode =>
        rw [readConfigFile_of_exists (FileTree.exists?_of_read hread) hformat,
          FileTree.readText_utf8, hread]
        dsimp only [Except.bind]
        rw [hdecode]
        rfl
    | text hformat htext hfault => exact (hstages hformat htext).mpr hfault

/-- What can be wrong with settings: a configuration error or a fault. -/
def Failure.IsOfSettings (problem : Failure) : Prop :=
  (∃ e, problem = .config e) ∨ ∃ f, problem = .fault f

theorem isOfSettings_config (e : ConfigError) : (Failure.config e).IsOfSettings := .inl ⟨e, rfl⟩

theorem isOfSettings_fault (f : Fault) : (Failure.fault f).IsOfSettings := .inr ⟨f, rfl⟩

theorem isOfSettings_orUnreadable (e : SystemError → ConfigError) (f : Fault) :
    (f.orUnreadable e).IsOfSettings := by
  cases f with
  | system cause => exact isOfSettings_config (e cause)
  | _ => exact isOfSettings_fault _

/-- A file fails with a configuration error or a fault. -/
theorem failsAs_readConfigFile (tree : FileTree) (file : String) :
    FailsAs Failure.IsOfSettings (readConfigFile tree file) := by
  have htext : ∀ format path text, FailsAs Failure.IsOfSettings (readConfigText format path text) := by
    intro format path text
    unfold readConfigText
    split
    all_goals
      split
      · exact .ok _
      · exact .error (isOfSettings_config _)
      · exact .error (isOfSettings_fault _)
  unfold readConfigFile
  refine .bind (.mapError isOfSettings_fault) fun there => ?_
  cases there with
  | false => split <;> exact .error (isOfSettings_config _)
  | true =>
      split
      · exact .error (isOfSettings_config _)
      · refine .bind (.mapError (isOfSettings_orUnreadable _)) fun text =>
          .bind (htext _ _ _) fun x => ?_
        split
        · exact .ok _
        · exact .error (isOfSettings_config _)

end DomainGen
