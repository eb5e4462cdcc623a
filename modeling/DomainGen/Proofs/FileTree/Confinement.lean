import DomainGen.Proofs.FileTree.Writing
import DomainGen.Proofs.Path.Descent

/-!
# Changes below a folder

What is made and written at paths that lead down from a folder changes nothing outside of it. Only
where the folder itself is missing, it is made with the folders on the way to it.

* `FileTree.ChangesAt` : everything is as it was, apart from files at some places and folders that
  were added at others; `FileTree.ChangesBelow` : the files and folders are below a place;
* `FileTree.Leads` : a path can be followed to a folder, and then making it changes nothing;
* `makeFolder_changesBelow`, `writeText_changesBelow` : **folders and files at descending paths.**
-/

namespace DomainGen

namespace FileTree

/-! ## 1. Trees that differ below a place -/

/-- Everything is as it was, apart from the places where `written` holds and from folders that were
    added where `made` does. No folder has gone, and paths start from the same one. -/
structure ChangesAt (written made : Place → Prop) (t t' : FileTree) : Prop where
  start_eq : t'.workingFolder = t.workingFolder
  folders : ∀ {q}, t.node? q = some .folder → t'.node? q = some .folder
  outside : ∀ {q}, ¬ written q → t'.node? q = t.node? q ∨
    made q ∧ t.node? q = none ∧ t'.node? q = some .folder

namespace ChangesAt

variable {written made : Place → Prop} {t u v : FileTree}

protected theorem refl (t : FileTree) : ChangesAt written made t t := ⟨rfl, id, fun _ => .inl rfl⟩

theorem mono {written' made' : Place → Prop} (h : ChangesAt written made t u)
    (hwritten : ∀ {q}, written q → written' q) (hmade : ∀ {q}, made q → made' q) :
    ChangesAt written' made' t u where
  start_eq := h.start_eq
  folders := h.folders
  outside hq := (h.outside fun hw => hq (hwritten hw)).imp_right (And.imp_left hmade)

theorem trans (h : ChangesAt written made t u) (h' : ChangesAt written made u v) :
    ChangesAt written made t v where
  start_eq := h'.start_eq.trans h.start_eq
  folders hq := h'.folders (h.folders hq)
  outside {q} hq := by
    rcases h.outside hq with heq | ⟨hmakes, hnone, hfolder⟩
    · have hlater := h'.outside hq
      rw [heq] at hlater
      exact hlater
    · exact Or.inr ⟨hmakes, hnone, h'.folders hfolder⟩

end ChangesAt

/-- Outside the place everything is as it was, apart from folders that were added if `makes`
    holds. -/
abbrev ChangesBelow (place : Place) (makes : Prop) : FileTree → FileTree → Prop :=
  ChangesAt (place <+: ·) fun _ => makes

/-! ## 2. Paths that lead to a folder -/

/-- The path can be followed, and there is a folder at its place. -/
def Leads (t : FileTree) (p : Path) : Prop :=
  ∃ place, t.walk (t.origin p) p.components = .ok place ∧ t.node? place = some .folder

theorem walk_cons_eq_ok {t : FileTree} {c : String} {rest : List String} {place last : Place} :
    t.walk place (c :: rest) = .ok last ↔
      ∃ next, t.step place c = .ok next ∧ t.walk next rest = .ok last := by
  rw [walk]
  cases t.step place c with
  | error e =>
      constructor
      · intro h
        cases h
      · rintro ⟨_, h, _⟩
        cases h
  | ok next =>
      constructor
      · exact fun h => ⟨next, rfl, h⟩
      · rintro ⟨_, h, hrest⟩
        cases h
        exact hrest

theorem walk_append {t : FileTree} : ∀ {cs ds : List String} {place last : Place},
    t.walk place (cs ++ ds) = .ok last →
      ∃ mid, t.walk place cs = .ok mid ∧ t.walk mid ds = .ok last
  | [], _, place, _, h => ⟨place, rfl, h⟩
  | c :: cs, ds, place, last, h => by
      obtain ⟨next, hstep, hrest⟩ := walk_cons_eq_ok.mp h
      obtain ⟨mid, hmid, hlast⟩ := walk_append hrest
      exact ⟨mid, walk_cons_eq_ok.mpr ⟨next, hstep, hmid⟩, hlast⟩

theorem folder_of_step {t : FileTree} {place next : Place} {c : String}
    (h : t.step place c = .ok next) : t.node? place = some .folder := by
  unfold step at h
  split at h
  · cases h
  · cases h
  · assumption

section Kept

variable {t t' : FileTree}
  (hfolders : ∀ {q}, t.node? q = some .folder → t'.node? q = some .folder)
include hfolders

theorem step_kept {place next : Place} {c : String} (h : t.step place c = .ok next) :
    t'.step place c = .ok next := by
  have hfolder := folder_of_step h
  unfold step at h ⊢
  rw [hfolder] at h
  rw [hfolders hfolder]
  exact h

/-- A way through folders stays while they do. -/
theorem walk_kept : ∀ {cs : List String} {place last : Place},
    t.walk place cs = .ok last → t'.walk place cs = .ok last
  | [], _, _, h => h
  | c :: rest, place, last, h => by
      obtain ⟨next, hstep, hrest⟩ := walk_cons_eq_ok.mp h
      exact walk_cons_eq_ok.mpr ⟨next, step_kept hfolders hstep, walk_kept hrest⟩

theorem leads_kept (hstart : t'.workingFolder = t.workingFolder) {p : Path} (h : t.Leads p) :
    t'.Leads p := by
  obtain ⟨place, hwalk, hfolder⟩ := h
  refine ⟨place, ?_, hfolders hfolder⟩
  rw [origin_congr hstart]
  exact walk_kept hfolders hwalk

end Kept

theorem isFolder_iff {t : FileTree} {p : Path} :
    t.isFolder p = true ↔ ∃ place, t.resolve p = .ok place ∧ t.node? place = some .folder := by
  unfold isFolder at?
  cases t.resolve p with
  | error e =>
      constructor
      · intro h
        cases h
      · rintro ⟨_, h, _⟩
        cases h
  | ok place =>
      constructor
      · intro h
        refine ⟨place, rfl, ?_⟩
        dsimp only at h
        split at h
        · assumption
        · cases h
      · rintro ⟨_, h, hfolder⟩
        cases h
        dsimp only
        rw [hfolder]

theorem leads_of_isFolder {t : FileTree} {p : Path} (h : t.isFolder p = true) : t.Leads p := by
  obtain ⟨place, hplace, hfolder⟩ := isFolder_iff.mp h
  exact ⟨place, (resolve_eq_ok_iff.mp hplace).2.2, hfolder⟩

/-- A folder that can be reached stays one. -/
theorem isFolder_kept {t t' : FileTree} {p : Path}
    (hfolders : ∀ {q}, t.node? q = some .folder → t'.node? q = some .folder)
    (hstart : t'.workingFolder = t.workingFolder) (h : t.isFolder p = true) :
    t'.isFolder p = true := by
  obtain ⟨place, hplace, hfolder⟩ := isFolder_iff.mp h
  obtain ⟨hname, hsize, hwalk⟩ := resolve_eq_ok_iff.mp hplace
  refine isFolder_iff.mpr ⟨place, resolve_eq_ok_iff.mpr ⟨hname, hsize, ?_⟩, hfolders hfolder⟩
  rw [origin_congr hstart]
  exact walk_kept hfolders hwalk

/-- A path that leads to a folder does so one component earlier. -/
theorem Leads.parent {t : FileTree} {p : Path} (h : t.Leads p) : t.Leads p.parent := by
  obtain ⟨place, hwalk, hfolder⟩ := h
  rcases List.eq_nil_or_concat p.components with hnil | ⟨cs, c, hcs⟩
  · refine ⟨place, ?_, hfolder⟩
    show t.walk (t.origin p) p.components.dropLast = .ok place
    rw [hnil] at hwalk ⊢
    exact hwalk
  · rw [hcs, List.concat_eq_append] at hwalk
    obtain ⟨mid, hmid, hlast⟩ := walk_append hwalk
    refine ⟨mid, ?_, ?_⟩
    · show t.walk (t.origin p) p.components.dropLast = .ok mid
      rw [hcs, List.concat_eq_append, List.dropLast_concat]
      exact hmid
    · obtain ⟨next, hstep, _⟩ := walk_cons_eq_ok.mp hlast
      exact folder_of_step hstep

/-! ## 3. Making folders -/

/-- The path goes down from the root. -/
def Under (root p : Path) : Prop :=
  ∃ cs, ".." ∉ cs ∧ p = ⟨root.root, root.components ++ cs⟩

/-- One component earlier a path still goes down from the root, or it was the root. -/
theorem Under.parent {t : FileTree} {root p : Path} (h : Under root p) (hroot : t.Leads root) :
    Under root p.parent ∨ t.Leads p.parent := by
  obtain ⟨cs, hcs, rfl⟩ := h
  rcases List.eq_nil_or_concat cs with rfl | ⟨ds, d, rfl⟩
  · rw [List.append_nil]
    exact Or.inr hroot.parent
  · rw [List.concat_eq_append] at hcs ⊢
    refine Or.inl ⟨ds, fun hm => hcs (List.mem_append_left _ hm), ?_⟩
    unfold Path.parent
    rw [← List.append_assoc, List.dropLast_concat]

/-- A path that goes down from the root leads to a place below the place of the root. -/
theorem target_under {t : FileTree} {root p : Path} (h : Under root p) :
    t.target root <+: t.target p := by
  obtain ⟨cs, hcs, rfl⟩ := h
  refine ⟨cs, ?_⟩
  show _ = (root.components ++ cs).foldl enter (t.origin root)
  rw [List.foldl_append, foldl_enter_names _ hcs]
  rfl

/-- A folder is not made where a path leads to one. -/
theorem Leads.makeOne_ne {t t' : FileTree} {p : Path} (h : t.Leads p) : t.makeOne p ≠ .ok t' := by
  intro hmade
  obtain ⟨place, hwalk, hfolder⟩ := h
  have hplace : place = t.target p := walk_eq_ok hwalk
  rw [hplace, (makeOne_eq_ok hmade).1] at hfolder
  cases hfolder

/-- A folder that is made changes its place only. -/
theorem makeOne_changesAt {t t' : FileTree} {p : Path} {written made : Place → Prop}
    (h : t.makeOne p = .ok t') (hplace : made (t.target p) ∨ written (t.target p)) :
    ChangesAt written made t t' where
  start_eq := (makeOne_grows h).start_eq
  folders hq := (makeOne_grows h).kept hq
  outside {q} hq := by
    obtain ⟨hnone, rfl⟩ := makeOne_eq_ok h
    have hne : t.target p ≠ [] := by
      intro e
      rw [e, t.node?_root] at hnone
      cases hnone
    rw [t.node?_put hne]
    by_cases heq : q = t.target p
    · subst heq
      rw [if_pos rfl]
      exact Or.inr ⟨hplace.resolve_right hq, hnone, rfl⟩
    · rw [if_neg heq]
      exact Or.inl rfl

/-- The paths that are tried while a folder is made: if the root was a folder at the beginning, it
    still is, and they go down from it or lead to a folder themselves. -/
def Tries (root : Path) (t u : FileTree) (p : Path) : Prop :=
  u.workingFolder = t.workingFolder ∧
    (t.isFolder root = true → u.Leads root ∧ (Under root p ∨ u.Leads p))

/-- **Making a folder at a path that goes down from a folder changes nothing outside of it.** Where
    there is no folder yet, those on the way are added. -/
theorem makeFolder_changesBelow (t : FileTree) {root p : Path}
    (h : t.isFolder root = true → Under root p ∨ t.Leads p) :
    ChangesBelow (t.target root) (¬ t.isFolder root = true) t (t.makeFolder p).1 := by
  refine makeFolderWithin_induct (P := Tries root t)
    (I := ChangesBelow (t.target root) (¬ t.isFolder root = true)) (fun _ => .refl _)
    ChangesAt.trans ?_ ?_ ?_ _ t p ⟨rfl, fun hroot => ⟨leads_of_isFolder hroot, h hroot⟩⟩
  · intro u u' q hP hchange
    refine ⟨hchange.start_eq.trans hP.1, fun hroot => ?_⟩
    obtain ⟨hleads, hq⟩ := hP.2 hroot
    exact ⟨leads_kept hchange.folders hchange.start_eq hleads,
      hq.imp_right (leads_kept hchange.folders hchange.start_eq)⟩
  · intro u q hP
    refine ⟨hP.1, fun hroot => ?_⟩
    obtain ⟨hleads, hunder | hq⟩ := hP.2 hroot
    · exact ⟨hleads, hunder.parent hleads⟩
    · exact ⟨hleads, Or.inr hq.parent⟩
  · intro u q u' hP hmade
    refine makeOne_changesAt hmade ?_
    by_cases hroot : t.isFolder root = true
    · rcases (hP.2 hroot).2 with hunder | hq
      · rw [← target_congr hP.1 root]
        exact Or.inr (target_under hunder)
      · exact absurd hmade hq.makeOne_ne
    · exact Or.inl hroot

/-! ## 4. Writing files -/

/-- A file does not replace a folder. -/
theorem write_not_folder {t t' : FileTree} {p : Path} {content : List UInt8}
    (h : t.write p content = .ok t') : t.node? (t.target p) ≠ some .folder := by
  obtain ⟨place, hplace, h⟩ := except_bind_eq_ok.mp h
  rw [resolve_eq_ok hplace] at h
  split at h
  · cases h
  · rename_i hfolder
    exact fun hnode => hfolder hnode

theorem write_changesAt {t t' : FileTree} {p : Path} {content : List UInt8}
    {written made : Place → Prop} (h : t.write p content = .ok t') (hplace : written (t.target p)) :
    ChangesAt written made t t' where
  start_eq := (write_eq_ok h).start_eq
  folders {q} hq := by
    have hother : q ≠ t.target p := fun e => write_not_folder h (e ▸ hq)
    rw [(write_eq_ok h).kept hother]
    exact hq
  outside {q} hq := by
    have hother : q ≠ t.target p := fun e => hq (e ▸ hplace)
    exact Or.inl ((write_eq_ok h).kept hother)

/-- Writing a text leaves the tree alone or writes one file, whatever comes of it. -/
theorem writeText_fst (t : FileTree) (p : Path) (encoding text : String) :
    (t.writeText p encoding text).1 = t ∨
      ∃ content, t.write p content = .ok (t.writeText p encoding text).1 := by
  unfold writeText
  dsimp only
  split
  · exact Or.inl rfl
  · exact Or.inl rfl
  · rename_i hwrite
    exact Or.inr ⟨_, hwrite⟩
  · rename_i hwrite
    exact Or.inr ⟨_, hwrite⟩

/-- Writing changes the place of its path only. -/
theorem writeText_changesAt (t : FileTree) {p : Path} {written made : Place → Prop}
    (h : written (t.target p)) (encoding text : String) :
    ChangesAt written made t (t.writeText p encoding text).1 := by
  rcases t.writeText_fst p encoding text with heq | ⟨content, hwrite⟩
  · rw [heq]
    exact .refl t
  · exact write_changesAt hwrite h

/-- **Writing at a path that goes down from a root changes nothing outside of it.** -/
theorem writeText_changesBelow (t : FileTree) {root p : Path} {makes : Prop} (h : Under root p)
    (encoding text : String) :
    ChangesBelow (t.target root) makes t (t.writeText p encoding text).1 :=
  t.writeText_changesAt (target_under h) encoding text

end FileTree

end DomainGen
