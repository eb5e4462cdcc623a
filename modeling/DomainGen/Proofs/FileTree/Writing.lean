import DomainGen.FileTree
import DomainGen.Proofs.Except

/-!
# Writing into a file tree

A path that can be followed leads to a place that its components alone determine. Making folders
changes nothing that is there, and writing changes nothing but the place that is written to.

* `FileTree.target` : **the place of a path, found from its components**; `resolve_eq_ok` :
  following a path ends there or fails;
* `makeFolderWithin_induct` : what making one folder establishes, making the folders on the way to it
  does too;
* `FileTree.Grows` : everything that was there still is; `makeFolder_grows` : making folders;
* `write_eq_ok` : writing a file.
-/

namespace DomainGen

namespace FileTree

/-! ## 1. Places -/

/-- One component further, without looking at the tree. -/
def enter (place : Place) (component : String) : Place :=
  if component = ".." then place.dropLast else place ++ [component]

/-- Without double dots a way goes down. -/
theorem foldl_enter_names (place : Place) : ∀ {cs : List String}, ".." ∉ cs →
    cs.foldl enter place = place ++ cs
  | [], _ => (List.append_nil place).symm
  | c :: rest, h => by
      have hc : c ≠ ".." := fun e => h (e ▸ List.mem_cons_self)
      have hrest : ".." ∉ rest := fun hm => h (List.mem_cons_of_mem c hm)
      have hdown : enter place c = place ++ [c] := if_neg hc
      rw [List.foldl_cons, hdown, foldl_enter_names _ hrest, List.append_assoc,
        List.singleton_append]

/-- The place a path starts from. -/
def origin (t : FileTree) (p : Path) : Place :=
  if p.isAbsolute then [] else t.workingFolder

/-- The place a path leads to if it can be followed. -/
def target (t : FileTree) (p : Path) : Place :=
  p.components.foldl enter (t.origin p)

theorem origin_congr {t t' : FileTree} (h : t'.workingFolder = t.workingFolder) (p : Path) :
    t'.origin p = t.origin p := by
  unfold origin
  rw [h]

/-- The place of a path depends on the tree only through the folder paths start from. -/
theorem target_congr {t t' : FileTree} (h : t'.workingFolder = t.workingFolder) (p : Path) :
    t'.target p = t.target p := by
  unfold target
  rw [origin_congr h]

theorem step_eq_ok {t : FileTree} {place next : Place} {c : String}
    (h : t.step place c = .ok next) : next = enter place c := by
  unfold step at h
  split at h
  · cases h
  · cases h
  · split at h
    · cases h
    · unfold enter
      split at h
      · rename_i hc
        rw [if_pos (beq_iff_eq.mp hc)]
        exact (Except.ok.inj h).symm
      · rename_i hc
        rw [if_neg fun e => hc (beq_iff_eq.mpr e)]
        exact (Except.ok.inj h).symm

theorem walk_eq_ok {t : FileTree} : ∀ {cs : List String} {place last : Place},
    t.walk place cs = .ok last → last = cs.foldl enter place
  | [], _, _, h => (Except.ok.inj h).symm
  | c :: rest, place, last, h => by
      unfold walk at h
      split at h
      · rename_i next hnext
        rw [List.foldl_cons, ← step_eq_ok hnext]
        exact walk_eq_ok h
      · cases h

/-- A path is followed if it can be written down and all that is on the way is a folder. -/
theorem resolve_eq_ok_iff {t : FileTree} {p : Path} {place : Place} :
    t.resolve p = .ok place ↔ (p.components.any fun c => c.toList.contains '\x00') = false ∧
      ¬ maxPathBytes < p.text.utf8ByteSize ∧ t.walk (t.origin p) p.components = .ok place := by
  unfold resolve origin
  cases p.components.any fun c => c.toList.contains '\x00' with
  | true =>
      constructor
      · intro h
        cases h
      · intro h
        cases h.1
  | false =>
      by_cases hsize : maxPathBytes < p.text.utf8ByteSize
      · rw [if_pos hsize]
        constructor
        · intro h
          cases h
        · exact fun h => absurd hsize h.2.1
      · rw [if_neg hsize]
        cases t.walk (if p.isAbsolute then [] else t.workingFolder) p.components with
        | error e =>
            constructor
            · intro h
              cases h
            · intro h
              cases h.2.2
        | ok last =>
            constructor
            · intro h
              cases h
              exact ⟨rfl, hsize, rfl⟩
            · intro h
              cases h.2.2
              rfl

/-- **A path that can be followed leads to its place.** -/
theorem resolve_eq_ok {t : FileTree} {p : Path} {place : Place} (h : t.resolve p = .ok place) :
    place = t.target p := walk_eq_ok (resolve_eq_ok_iff.mp h).2.2

/-! ## 2. Putting -/

section Replace

variable {place : Place} {n : Node}

theorem find?_replace_self : ∀ {nodes : List (Place × Node)}, nodes.any (·.1 == place) = true →
    (nodes.map fun e => if e.1 == place then (place, n) else e).find? (·.1 == place) =
      some (place, n)
  | [], h => by cases h
  | e :: rest, h => by
      rw [List.map_cons, List.find?_cons]
      cases he : e.1 == place with
      | true =>
          have hself : (place == place) = true := beq_self_eq_true place
          simp only [if_true, hself]
      | false =>
          have hrest : rest.any (·.1 == place) = true := by
            rw [List.any_cons, he, Bool.false_or] at h
            exact h
          simp only [Bool.false_eq_true, if_false, he]
          exact find?_replace_self hrest

theorem find?_replace_other {q : Place} (hq : q ≠ place) : ∀ nodes : List (Place × Node),
    (nodes.map fun e => if e.1 == place then (place, n) else e).find? (·.1 == q) =
      nodes.find? (·.1 == q)
  | [] => rfl
  | e :: rest => by
      have ih := find?_replace_other hq rest
      rw [List.map_cons, List.find?_cons, List.find?_cons, ih]
      cases he : e.1 == place with
      | true =>
          have hplace : (place == q) = false := beq_eq_false_iff_ne.mpr hq.symm
          have heq : (e.1 == q) = false := by
            rw [beq_iff_eq.mp he]
            exact hplace
          simp only [if_true, hplace, heq]
      | false => simp only [Bool.false_eq_true, if_false]

end Replace

/-- A place below the root has what was put there, and all others have what they had. -/
theorem node?_put (t : FileTree) {place : Place} (hplace : place ≠ []) (n : Node) (q : Place) :
    (t.put place n).node? q = if q = place then some n else t.node? q := by
  have hput : ((t.put place n).nodes.find? (·.1 == q)).map (·.2) =
      if q = place then some n else (t.nodes.find? (·.1 == q)).map (·.2) := by
    unfold put
    split
    · rename_i hany
      by_cases hq : q = place
      · subst hq
        rw [if_pos rfl]
        exact congrArg (Option.map (·.2)) (find?_replace_self hany)
      · rw [if_neg hq]
        exact congrArg (Option.map (·.2)) (find?_replace_other hq t.nodes)
    · rename_i hany
      show ((t.nodes ++ [(place, n)]).find? (·.1 == q)).map (·.2) = _
      rw [List.find?_append]
      by_cases hq : q = place
      · subst hq
        have hnone : t.nodes.find? (·.1 == q) = none := by
          rw [List.find?_eq_none]
          exact fun e he hp => hany (List.any_eq_true.mpr ⟨e, he, hp⟩)
        rw [hnone, if_pos rfl]
        simp
      · have hplace : (place == q) = false := beq_eq_false_iff_ne.mpr fun e => hq e.symm
        rw [if_neg hq]
        simp [hplace]
  unfold node?
  cases q with
  | nil => simp [hplace.symm]
  | cons c q => exact hput

theorem workingFolder_put (t : FileTree) (place : Place) (n : Node) :
    (t.put place n).workingFolder = t.workingFolder := by
  unfold put
  split <;> rfl

/-! ## 3. Growing -/

/-- Everything that is in the first tree is in the second, and paths start from the same folder. -/
structure Grows (t t' : FileTree) : Prop where
  kept : ∀ {place n}, t.node? place = some n → t'.node? place = some n
  start_eq : t'.workingFolder = t.workingFolder

theorem Grows.refl (t : FileTree) : t.Grows t := ⟨id, rfl⟩

theorem Grows.trans {t u v : FileTree} (h : t.Grows u) (h' : u.Grows v) : t.Grows v :=
  ⟨fun hn => h'.kept (h.kept hn), h'.start_eq.trans h.start_eq⟩

theorem node?_root (t : FileTree) : t.node? [] = some .folder := rfl

/-- A place where there is nothing can be filled. -/
theorem grows_put (t : FileTree) {place : Place} (h : t.node? place = none) (n : Node) :
    t.Grows (t.put place n) where
  kept {q m} hq := by
    have hplace : place ≠ [] := by
      rintro rfl
      rw [node?_root] at h
      cases h
    rw [t.node?_put hplace, if_neg, hq]
    rintro rfl
    rw [h] at hq
    cases hq
  start_eq := t.workingFolder_put place n

/-- A folder is made where there is nothing. -/
theorem makeOne_eq_ok {t t' : FileTree} {p : Path} (h : t.makeOne p = .ok t') :
    t.node? (t.target p) = none ∧ t' = t.put (t.target p) .folder := by
  obtain ⟨place, hplace, h⟩ := except_bind_eq_ok.mp h
  rw [resolve_eq_ok hplace] at h
  split at h
  · cases h
  · rename_i hnone
    exact ⟨hnone, (Except.ok.inj h).symm⟩

theorem makeOne_grows {t t' : FileTree} {p : Path} (h : t.makeOne p = .ok t') : t.Grows t' := by
  obtain ⟨hnone, rfl⟩ := makeOne_eq_ok h
  exact t.grows_put hnone .folder

/-- **What making one folder establishes, making a folder with those on the way to it does**, for a
    relation between trees that runs compose. `P` says which paths are tried, and a tree that has
    changed must not end it. -/
theorem makeFolderWithin_induct {I : FileTree → FileTree → Prop} {P : FileTree → Path → Prop}
    (hrefl : ∀ t, I t t) (htrans : ∀ {t u v}, I t u → I u v → I t v)
    (hkeep : ∀ {t t' p}, P t p → I t t' → P t' p)
    (hparent : ∀ {t p}, P t p → P t p.parent)
    (hone : ∀ {t p t'}, P t p → t.makeOne p = .ok t' → I t t') :
    ∀ (depth : Nat) (t : FileTree) (p : Path), P t p → I t (t.makeFolderWithin p depth).1
  | 0, t, _, _ => hrefl t
  | depth + 1, t, p, hp => by
      unfold makeFolderWithin
      split
      · rename_i hmade
        exact hone hp hmade
      · split
        · exact hrefl t
        · have hup := makeFolderWithin_induct (P := P) hrefl htrans hkeep hparent hone depth t p.parent
            (hparent hp)
          rcases hm : t.makeFolderWithin p.parent depth with ⟨u, failed⟩
          rw [hm] at hup
          cases failed with
          | some e => exact hup
          | none =>
              dsimp only
              split
              · rename_i hmade
                exact htrans hup (hone (hkeep hp hup) hmade)
              · split <;> exact hup
      · exact hrefl t
      · split <;> exact hrefl t

/-- **Making folders keeps everything that is there.** -/
theorem makeFolder_grows (t : FileTree) (p : Path) : t.Grows (t.makeFolder p).1 :=
  makeFolderWithin_induct (P := fun _ _ => True) Grows.refl Grows.trans (fun _ _ => trivial)
    (fun _ => trivial) (fun _ => makeOne_grows) _ t p trivial

/-! ## 4. Writing -/

/-- A tree after a file was written to the place of a path: the place has the content and all other
    places have what they had. -/
structure Wrote (t : FileTree) (p : Path) (content : List UInt8) (t' : FileTree) : Prop where
  written : t'.node? (t.target p) = some (.file content)
  kept : ∀ {place}, place ≠ t.target p → t'.node? place = t.node? place
  start_eq : t'.workingFolder = t.workingFolder

theorem write_eq_ok {t t' : FileTree} {p : Path} {content : List UInt8}
    (h : t.write p content = .ok t') : t.Wrote p content t' := by
  obtain ⟨place, hplace, h⟩ := except_bind_eq_ok.mp h
  rw [resolve_eq_ok hplace] at h
  split at h
  · cases h
  · rename_i hfolder
    cases h
    have hne : t.target p ≠ [] := fun e => hfolder (e ▸ t.node?_root)
    exact {
      written := by rw [t.node?_put hne, if_pos rfl]
      kept := fun hq => by rw [t.node?_put hne, if_neg hq]
      start_eq := t.workingFolder_put _ _ }

/-- A text as an encoding writes it. -/
def Encoded (encoding text : String) (bytes : List UInt8) : Prop :=
  ∃ e, Encoding.ofName encoding = .ok e ∧ e.encode text = some bytes

/-- **A text that is written without a fault stands at its place**, and nothing else has changed. -/
theorem writeText_eq_none {t t' : FileTree} {p : Path} {encoding text : String}
    (h : t.writeText p encoding text = (t', none)) :
    ∃ bytes, Encoded encoding text bytes ∧ t.Wrote p bytes t' := by
  unfold writeText at h
  dsimp only at h
  split at h
  · cases h
  · cases h
  · rename_i bytes u hbytes hwrite
    cases h
    split at hbytes
    · rename_i e he
      split at hbytes
      · rename_i b hb
        cases hbytes
        refine ⟨bytes, ⟨e, he, hb⟩, write_eq_ok ?_⟩
        simp only [he, hb] at hwrite
        exact hwrite
      · cases hbytes
    · cases hbytes
  · cases h

end FileTree

end DomainGen
