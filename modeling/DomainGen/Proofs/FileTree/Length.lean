import DomainGen.Proofs.FileTree.Confinement
import DomainGen.Proofs.FileTree.Writing

/-!
# Paths that are too long

Asking whether something is there has an answer for nearly every path: where a path breaks off there is
nothing. The one exception is a path that the file system cannot look at, because its text is too long or
a name in it is, and the folder that would hold the name is there.

* `walk_eq_error` : a way breaks off at some component;
* `Overruns` : the path cannot be looked at; `exists?_eq_error`, `holdsFolder_eq_error` : **only then has
  the question no answer**;
* `Overruns.isLong` : such a path is long, whatever is in the tree.
-/

namespace DomainGen

/-- The text of the path is too long, or a name in it is. -/
def Path.IsLong (p : Path) : Prop :=
  FileTree.maxPathBytes < p.text.utf8ByteSize ∨
    ∃ c ∈ p.components, FileTree.maxNameBytes < c.utf8ByteSize

namespace FileTree

variable {t : FileTree} {p : Path}

/-- **A way breaks off at the first component that cannot be followed.** -/
theorem walk_eq_error {e : SystemError} : ∀ {cs : List String} {place : Place},
    t.walk place cs = .error e ↔ ∃ before c after mid, cs = before ++ c :: after ∧
      t.walk place before = .ok mid ∧ t.step mid c = .error e
  | [], place => by
      constructor
      · intro h
        cases h
      · rintro ⟨before, c, after, mid, h, _⟩
        cases before <;> cases h
  | c :: rest, place => by
      unfold walk
      cases hstep : t.step place c with
      | error e' =>
          dsimp only
          constructor
          · intro h
            cases h
            exact ⟨[], c, rest, place, rfl, rfl, hstep⟩
          · rintro ⟨before, d, after, mid, heq, hbefore, hd⟩
            cases before with
            | nil =>
                cases heq
                cases hbefore
                exact hstep.symm.trans hd
            | cons b before =>
                cases heq
                obtain ⟨next, hnext, _⟩ := walk_cons_eq_ok.mp hbefore
                cases hstep.symm.trans hnext
      | ok next =>
          dsimp only
          rw [walk_eq_error]
          constructor
          · rintro ⟨before, d, after, mid, rfl, hbefore, hd⟩
            exact ⟨c :: before, d, after, mid, rfl, walk_cons_eq_ok.mpr ⟨next, hstep, hbefore⟩, hd⟩
          · rintro ⟨before, d, after, mid, heq, hbefore, hd⟩
            cases before with
            | nil =>
                cases heq
                cases hbefore
                cases hstep.symm.trans hd
            | cons b before =>
                cases heq
                obtain ⟨next', hnext, hbefore⟩ := walk_cons_eq_ok.mp hbefore
                cases hstep.symm.trans hnext
                exact ⟨before, d, after, mid, rfl, hbefore, hd⟩

theorem step_nameTooLong {place : Place} {c : String} :
    t.step place c = .error .nameTooLong ↔
      t.node? place = some .folder ∧ maxNameBytes < c.utf8ByteSize := by
  unfold step
  cases t.node? place with
  | none =>
      constructor
      · intro h
        cases h
      · rintro ⟨h, _⟩
        cases h
  | some n =>
      cases n with
      | file content =>
          constructor
          · intro h
            cases h
          · rintro ⟨h, _⟩
            cases h
      | folder =>
          dsimp only
          by_cases hsize : maxNameBytes < c.utf8ByteSize
          · rw [if_pos hsize]
            exact ⟨fun _ => ⟨rfl, hsize⟩, fun _ => rfl⟩
          · rw [if_neg hsize]
            constructor
            · intro h
              split at h <;> cases h
            · exact fun h => absurd h.2 hsize

/-- The file system cannot look at the path: its text is too long, or a folder on the way is asked for a
    name that is. -/
structure Overruns (t : FileTree) (p : Path) : Prop where
  plain : (p.components.any fun c => c.toList.contains '\x00') = false
  long : maxPathBytes < p.text.utf8ByteSize ∨ ∃ before c after mid,
    p.components = before ++ c :: after ∧ t.walk (t.origin p) before = .ok mid ∧
      t.node? mid = some .folder ∧ maxNameBytes < c.utf8ByteSize

/-- A path that cannot be looked at is long. -/
theorem Overruns.isLong (h : t.Overruns p) : p.IsLong := by
  rcases h.long with hsize | ⟨before, c, after, _, heq, _, _, hc⟩
  · exact .inl hsize
  · exact .inr ⟨c, heq ▸ List.mem_append_right before List.mem_cons_self, hc⟩

theorem resolve_nameTooLong : t.resolve p = .error (.system .nameTooLong) ↔ t.Overruns p := by
  unfold resolve
  cases hplain : p.components.any fun c => c.toList.contains '\x00' with
  | true =>
      constructor
      · intro h
        cases h
      · intro h
        cases hplain.symm.trans h.plain
  | false =>
      rw [if_neg Bool.false_ne_true]
      by_cases hsize : maxPathBytes < p.text.utf8ByteSize
      · rw [if_pos hsize]
        exact ⟨fun _ => ⟨hplain, .inl hsize⟩, fun _ => rfl⟩
      · rw [if_neg hsize, except_mapError_eq_error]
        constructor
        · rintro ⟨e, hwalk, heq⟩
          cases heq
          obtain ⟨before, c, after, mid, heq, hbefore, hc⟩ := walk_eq_error.mp hwalk
          exact ⟨hplain, .inr ⟨before, c, after, mid, heq, hbefore, step_nameTooLong.mp hc⟩⟩
        · rintro ⟨_, hlong | ⟨before, c, after, mid, heq, hbefore, hc⟩⟩
          · exact absurd hlong hsize
          · exact ⟨_, walk_eq_error.mpr ⟨before, c, after, mid, heq, hbefore,
              step_nameTooLong.mpr hc⟩, rfl⟩

/-- **Whether something is there cannot be told exactly of a path that cannot be looked at.** -/
theorem exists?_eq_error {f : Fault} : t.exists? p = .error f ↔
    f = .system .nameTooLong ∧ t.Overruns p := by
  rw [← resolve_nameTooLong]
  unfold exists?
  split
  · rename_i place hplace
    constructor
    · intro h
      cases h
    · rintro ⟨_, h⟩
      cases hplace.symm.trans h
  · rename_i h
    exact ⟨fun heq => ⟨(Except.error.inj heq).symm, h⟩, fun heq => by rw [heq.1]⟩
  · rename_i hother h
    constructor
    · intro heq
      cases heq
    · exact fun heq => absurd (Except.error.inj (h.symm.trans heq.2)) hother

theorem holdsFolder_eq_error {f : Fault} : t.holdsFolder p = .error f ↔
    f = .system .nameTooLong ∧ t.Overruns p := by
  rw [← exists?_eq_error]
  unfold holdsFolder
  cases t.exists? p with
  | error f' => exact Iff.rfl
  | ok b =>
      constructor
      · intro h
        cases h
      · intro h
        cases h

/-- Of any other path it can be told whether it is a folder. -/
theorem holdsFolder_of_not_overruns (h : ¬ t.Overruns p) : t.holdsFolder p = .ok (t.isFolder p) := by
  cases hheld : t.holdsFolder p with
  | error f => exact absurd (holdsFolder_eq_error.mp hheld).2 h
  | ok b =>
      obtain ⟨_, _, heq⟩ := except_map_eq_ok.mp hheld
      rw [heq]

end FileTree

end DomainGen
