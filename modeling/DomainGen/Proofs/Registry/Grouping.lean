import DomainGen.Proofs.Distinct
import DomainGen.Registry
import Mathlib.Algebra.BigOperators.Group.List.Lemmas

/-!
# The registry as a grouping

Files are registered one at a time, each under the folder of its kind. What the registry holds then
is the list of all registrations grouped by kind: the kinds in the order in which they were met, and
the files of each kind in the order in which they came.

Registrations may also come under any kinds and in any folders, and some of them fail. What the
registry holds then is the list of those that succeeded, grouped by kind.

* `Registry.grouped` : the groups of a list of registrations, without any registering;
* `register_grouped` : **one registration more gives the groups of the longer list**, and it never
  fails as long as every kind keeps to its folder;
* `Registration`, `Registry.attempt` : a registration, and trying it;
* `Registry.succeeded` : the registrations that went through; `firstFolder`, `groups` : what they fix;
* `attempt_kept`, `attempt_moved` : **trying one more either adds it to the groups or changes nothing**;
  `afterAll_groups` : what any registrations leave;
* `steps_fresh` : a tour of a registry goes through all groups;
* `registered_grouped` : **everything a registry can be asked agrees with the grouping**.
-/

/-! ## 1. Grouping -/

namespace DomainGen

/-- The kinds of some registrations, each at the place where it was met first. -/
def kindsMet {α : Type} (kindOf : α → Kind) (xs : List α) : List Kind :=
  (xs.map kindOf).eraseDups

section KindsMet

variable {α : Type} {kindOf : α → Kind} {xs : List α}

theorem mem_kindsMet {kind : Kind} : kind ∈ kindsMet kindOf xs ↔ ∃ x ∈ xs, kindOf x = kind := by
  unfold kindsMet
  rw [List.mem_eraseDups, List.mem_map]

/-- A kind that was met before changes nothing. -/
theorem kindsMet_concat_mem {x : α} (h : kindOf x ∈ kindsMet kindOf xs) :
    kindsMet kindOf (xs ++ [x]) = kindsMet kindOf xs := by
  unfold kindsMet at h ⊢
  rw [List.map_append]
  exact eraseDups_concat_mem (List.mem_eraseDups.mp h)

/-- A kind that is new stands behind the others. -/
theorem kindsMet_concat_not_mem {x : α} (h : kindOf x ∉ kindsMet kindOf xs) :
    kindsMet kindOf (xs ++ [x]) = kindsMet kindOf xs ++ [kindOf x] := by
  unfold kindsMet at h ⊢
  rw [List.map_append]
  exact eraseDups_concat_not_mem fun hx => h (List.mem_eraseDups.mpr hx)

variable (kindOf xs) in
theorem nodup_kindsMet : (kindsMet kindOf xs).Nodup := nodup_eraseDups _

end KindsMet

namespace Registry

variable (folder : Kind → String)

/-- The files of one kind among some registrations. -/
def itemsAmong (xs : List (Kind × CollectionItem)) (kind : Kind) : List CollectionItem :=
  (xs.filter (·.1 == kind)).map (·.2)

/-- The group of a kind. -/
def group (xs : List (Kind × CollectionItem)) (kind : Kind) : Collection :=
  ⟨kind, folder kind, itemsAmong xs kind⟩

/-- A kind that was met has files. -/
theorem itemsAmong_ne_nil {xs : List (Kind × CollectionItem)} {kind : Kind}
    (h : kind ∈ kindsMet (·.1) xs) : itemsAmong xs kind ≠ [] := by
  obtain ⟨x, hx, hkind⟩ := mem_kindsMet.mp h
  exact List.ne_nil_of_mem (List.mem_map_of_mem (List.mem_filter.mpr ⟨hx, beq_iff_eq.mpr hkind⟩))

/-- The registrations grouped by kind. -/
def grouped (xs : List (Kind × CollectionItem)) : Registry where
  collections := (kindsMet (·.1) xs).map (group folder xs)
  nodup_kinds := by
    rw [List.map_map]
    exact (List.map_id (kindsMet (·.1) xs)).symm ▸ nodup_kindsMet (·.1) xs
  filled c hc := by
    obtain ⟨kind, hkind, rfl⟩ := List.mem_map.mp hc
    exact itemsAmong_ne_nil hkind

theorem itemsAmong_concat_self (xs : List (Kind × CollectionItem)) (kind : Kind)
    (i : CollectionItem) : itemsAmong (xs ++ [(kind, i)]) kind = itemsAmong xs kind ++ [i] := by
  simp [itemsAmong]

theorem itemsAmong_concat_other (xs : List (Kind × CollectionItem)) {kind other : Kind}
    (i : CollectionItem) (h : kind ≠ other) :
    itemsAmong (xs ++ [(kind, i)]) other = itemsAmong xs other := by
  have hb : (kind == other) = false := beq_eq_false_iff_ne.mpr h
  simp [itemsAmong, hb]

theorem itemsAmong_not_met {xs : List (Kind × CollectionItem)} {kind : Kind}
    (h : kind ∉ kindsMet (·.1) xs) : itemsAmong xs kind = [] := by
  unfold itemsAmong
  rw [List.map_eq_nil_iff, List.filter_eq_nil_iff]
  intro x hx heq
  exact h (mem_kindsMet.mpr ⟨x, hx, beq_iff_eq.mp heq⟩)

/-- A kind that was met is found with its group, any other kind is not found. -/
theorem find?_grouped (xs : List (Kind × CollectionItem)) (kind : Kind) :
    (grouped folder xs).find? kind =
      if kind ∈ kindsMet (·.1) xs then some (group folder xs kind) else none := by
  have found : ∀ ks : List Kind, (ks.map (group folder xs)).find? (·.kind == kind) =
      if kind ∈ ks then some (group folder xs kind) else none := by
    intro ks
    induction ks with
    | nil => rfl
    | cons k rest ih =>
        rw [List.map_cons, List.find?_cons, ih]
        by_cases hk : k = kind
        · subst hk
          simp [group]
        · have hk' : kind ≠ k := fun e => hk e.symm
          have hb : ((group folder xs k).kind == kind) = false := beq_eq_false_iff_ne.mpr hk
          simp [hb, hk']
  exact found (kindsMet (·.1) xs)

/-- **Registering one more file under the folder of its kind succeeds**, and the registry holds the
    groups of all files registered so far. -/
theorem register_grouped (xs : List (Kind × CollectionItem)) (kind : Kind) (i : CollectionItem) :
    (grouped folder xs).register kind (folder kind) i =
      .ok (grouped folder (xs ++ [(kind, i)])) := by
  have hfound := find?_grouped folder xs kind
  by_cases h : kind ∈ kindsMet (·.1) xs
  · -- the group of the kind grows, all others stay as they are
    have grow : ∀ k, (group folder xs k).adding kind i = group folder (xs ++ [(kind, i)]) k := by
      intro k
      unfold Collection.adding
      by_cases hk : k = kind
      · subst hk
        simp [group, itemsAmong_concat_self]
      · have hb : ((group folder xs k).kind == kind) = false := beq_eq_false_iff_ne.mpr hk
        rw [hb]
        simp only [group, itemsAmong_concat_other xs i (Ne.symm hk), Bool.false_eq_true, if_false]
    have same : ((group folder xs kind).folder == folder kind) = true := beq_self_eq_true _
    rw [if_pos h] at hfound
    rw [register_of_find?_some hfound, if_pos same]
    refine congrArg Except.ok (Registry.ext ?_)
    unfold grouped extended
    dsimp only
    rw [kindsMet_concat_mem (x := (kind, i)) h, List.map_map]
    exact List.map_congr_left fun k _ => grow k
  · -- a new group is added behind the others
    have stay : ∀ k ∈ kindsMet (·.1) xs,
        group folder xs k = group folder (xs ++ [(kind, i)]) k := by
      intro k hk
      have hne : kind ≠ k := fun e => h (e ▸ hk)
      simp only [group, itemsAmong_concat_other xs i hne]
    have new : group folder (xs ++ [(kind, i)]) kind = ⟨kind, folder kind, [i]⟩ := by
      simp only [group, itemsAmong_concat_self, itemsAmong_not_met h, List.nil_append]
    rw [if_neg h] at hfound
    rw [register_of_find?_none hfound]
    refine congrArg Except.ok (Registry.ext ?_)
    unfold grouped opened
    dsimp only
    rw [kindsMet_concat_not_mem (x := (kind, i)) h, List.map_append, List.map_singleton, new,
      List.map_congr_left stay]

end Registry

/-! ## 2. Trying -/

/-- A file to be registered under a kind, in a folder. -/
structure Registration where
  /-- The kind. -/
  kind : Kind
  /-- The folder of the kind. -/
  folder : String
  /-- The file. -/
  item : CollectionItem
  deriving DecidableEq, Repr, Inhabited

namespace Registry

/-- Tries a registration. One that fails changes nothing. -/
def attempt (r : Registry) (c : Registration) : Registry × Option RegistryError :=
  match r.register c.kind c.folder c.item with
  | .ok s => (s, none)
  | .error e => (r, some e)

/-- The registry after some registrations were tried. -/
def afterAll : Registry → List Registration → Registry
  | r, [] => r
  | r, c :: rest => (r.attempt c).1.afterAll rest

/-- How some registrations fail, each on its own. -/
def answers : Registry → List Registration → List (Option RegistryError)
  | _, [] => []
  | r, c :: rest => (r.attempt c).2 :: (r.attempt c).1.answers rest

/-- The registrations that succeed when some are tried. -/
def succeeded (r : Registry) (calls : List Registration) : List Registration :=
  ((calls.zip (r.answers calls)).filter (·.2.isNone)).map (·.1)

/-- The folder of the first registration of a kind. -/
def firstFolder (done : List Registration) (kind : Kind) : Option String :=
  (done.find? (·.kind == kind)).map (·.folder)

/-- The files registered under a kind. -/
def itemsUnder (done : List Registration) (kind : Kind) : List CollectionItem :=
  (done.filter (·.kind == kind)).map (·.item)

/-- The group of a kind: in the folder of its first registration, with all its files. -/
def groupOf (done : List Registration) (kind : Kind) : Collection :=
  ⟨kind, (firstFolder done kind).getD "", itemsUnder done kind⟩

variable {done : List Registration} {c : Registration} {kind : Kind}

theorem afterAll_append (calls later : List Registration) (r : Registry) :
    r.afterAll (calls ++ later) = (r.afterAll calls).afterAll later := by
  induction calls generalizing r with
  | nil => rfl
  | cons c rest ih => exact ih (r.attempt c).1

theorem answers_append (calls later : List Registration) (r : Registry) :
    r.answers (calls ++ later) = r.answers calls ++ (r.afterAll calls).answers later := by
  induction calls generalizing r with
  | nil => rfl
  | cons c rest ih => exact congrArg ((r.attempt c).2 :: ·) (ih (r.attempt c).1)

theorem length_answers (calls : List Registration) (r : Registry) :
    (r.answers calls).length = calls.length := by
  induction calls generalizing r with
  | nil => rfl
  | cons c rest ih => exact congrArg (· + 1) (ih (r.attempt c).1)

theorem succeeded_append (r : Registry) (calls later : List Registration) :
    r.succeeded (calls ++ later) = r.succeeded calls ++ (r.afterAll calls).succeeded later := by
  unfold succeeded
  rw [answers_append, List.zip_append (length_answers calls r).symm, List.filter_append,
    List.map_append]

/-- The first registration succeeds or not. -/
theorem succeeded_cons (r : Registry) (c : Registration) (rest : List Registration) :
    r.succeeded (c :: rest) =
      (if (r.attempt c).2.isNone then [c] else []) ++ (r.attempt c).1.succeeded rest := by
  unfold succeeded
  rw [answers, List.zip_cons_cons, List.filter_cons]
  cases (r.attempt c).2 <;> rfl

/-- A registration that fails changes nothing. -/
theorem attempt_failed {r : Registry} (h : (r.attempt c).2.isSome) : (r.attempt c).1 = r := by
  unfold attempt at h ⊢
  cases hr : r.register c.kind c.folder c.item with
  | error e => rfl
  | ok s =>
      rw [hr] at h
      cases h

/-! ## 3. The groups of registrations -/

/-- What is registered, without the folders. -/
def filesOf (done : List Registration) : List (Kind × CollectionItem) :=
  done.map fun c => (c.kind, c.item)

/-- The folders that some registrations fix. -/
def foldersOf (done : List Registration) (kind : Kind) : String :=
  (firstFolder done kind).getD ""

theorem group_filesOf (done : List Registration) (kind : Kind) :
    group (foldersOf done) (filesOf done) kind = groupOf done kind := by
  have hitems : itemsAmong (filesOf done) kind = itemsUnder done kind := by
    unfold itemsAmong filesOf itemsUnder
    rw [List.filter_map, List.map_map]
    rfl
  unfold group groupOf foldersOf
  rw [hitems]

theorem kindsMet_filesOf (done : List Registration) :
    kindsMet (·.1) (filesOf done) = kindsMet (·.kind) done := by
  unfold kindsMet filesOf
  rw [List.map_map]
  rfl

/-- The groups of some registrations. -/
def groups (done : List Registration) : Registry := grouped (foldersOf done) (filesOf done)

/-- There is a group for each kind, in the order in which the kinds came. -/
theorem collections_groups (done : List Registration) :
    (groups done).collections = (kindsMet (·.kind) done).map (groupOf done) := by
  show (kindsMet (·.1) (filesOf done)).map _ = _
  rw [kindsMet_filesOf]
  exact List.map_congr_left fun kind _ => group_filesOf done kind

theorem firstFolder_eq_none_iff : firstFolder done kind = none ↔ ∀ d ∈ done, d.kind ≠ kind := by
  unfold firstFolder
  rw [Option.map_eq_none_iff, List.find?_eq_none]
  exact forall₂_congr fun d _ => not_congr beq_iff_eq

/-- A kind has a folder exactly if it was met. -/
theorem firstFolder_ne_none_iff :
    firstFolder done kind ≠ none ↔ kind ∈ kindsMet (·.kind) done := by
  rw [mem_kindsMet, ne_eq, firstFolder_eq_none_iff]
  push Not
  rfl

/-- The first registration of a kind fixes its folder. -/
theorem firstFolder_concat (done : List Registration) (c : Registration) (kind : Kind) :
    firstFolder (done ++ [c]) kind =
      (firstFolder done kind).or (if c.kind == kind then some c.folder else none) := by
  unfold firstFolder
  rw [List.find?_append, Option.map_or]
  congr 1
  cases h : c.kind == kind <;> simp [h]

/-- The folders of kinds that were met stay. -/
theorem foldersOf_concat (c : Registration) (h : kind ∈ kindsMet (·.kind) done) :
    foldersOf (done ++ [c]) kind = foldersOf done kind := by
  obtain ⟨folder, hf⟩ := Option.ne_none_iff_exists'.mp (firstFolder_ne_none_iff.mpr h)
  unfold foldersOf
  rw [firstFolder_concat, hf, Option.some_or]

/-- A registration that keeps to the folder of its kind is added to the groups. -/
theorem register_groups (h : ∀ folder, firstFolder done c.kind = some folder → folder = c.folder) :
    (groups done).register c.kind c.folder c.item = .ok (groups (done ++ [c])) := by
  have hfolder : foldersOf (done ++ [c]) c.kind = c.folder := by
    unfold foldersOf
    rw [firstFolder_concat, beq_self_eq_true, if_pos rfl]
    cases hf : firstFolder done c.kind with
    | none => rfl
    | some folder => exact h folder hf
  -- the groups so far are in the folders that the groups with the new file are in
  have hbefore : groups done = grouped (foldersOf (done ++ [c])) (filesOf done) := by
    refine Registry.ext (List.map_congr_left fun kind hkind => ?_)
    rw [kindsMet_filesOf] at hkind
    unfold group
    rw [foldersOf_concat c hkind]
  have hadd := register_grouped (foldersOf (done ++ [c])) (filesOf done) c.kind c.item
  rw [hfolder, ← hbefore] at hadd
  rw [hadd]
  unfold groups filesOf
  rw [List.map_append]
  rfl

theorem find?_groups (done : List Registration) (kind : Kind) :
    (groups done).find? kind = (firstFolder done kind).map fun _ => groupOf done kind := by
  unfold groups
  rw [find?_grouped, kindsMet_filesOf, group_filesOf]
  cases hf : firstFolder done kind with
  | none =>
      rw [if_neg fun hmem => firstFolder_ne_none_iff.mpr hmem hf]
      rfl
  | some folder =>
      rw [if_pos (firstFolder_ne_none_iff.mp (by rw [hf]; exact Option.some_ne_none folder))]
      rfl

/-- A registration keeps to the folder of its kind, if the kind has one. -/
def KeepsFolder (done : List Registration) (c : Registration) : Prop :=
  ∀ folder, firstFolder done c.kind = some folder → folder = c.folder

/-- **A registration that keeps to the folder of its kind succeeds** and is added to the groups. -/
theorem attempt_kept (h : KeepsFolder done c) :
    (groups done).attempt c = (groups (done ++ [c]), none) := by
  unfold attempt
  rw [register_groups h]

/-- **Any other registration fails** and changes nothing. -/
theorem attempt_moved {folder : String} (hf : firstFolder done c.kind = some folder)
    (h : folder ≠ c.folder) : (groups done).attempt c =
      (groups done, some (.otherFolder c.kind folder c.item.fullPath c.folder)) := by
  have hfolder : (groupOf done c.kind).folder = folder := by
    unfold groupOf
    rw [hf]
    rfl
  have hother : ((groupOf done c.kind).folder == c.folder) = false := by
    rw [hfolder]
    exact beq_eq_false_iff_ne.mpr h
  have hfound : (groups done).find? c.kind = some (groupOf done c.kind) := by
    rw [find?_groups, hf]
    rfl
  unfold attempt
  rw [register_of_find?_some hfound, hother, hfolder]
  rfl

/-- What does not keep to the folder of its kind finds another one there. -/
theorem exists_of_not_keepsFolder (h : ¬ KeepsFolder done c) :
    ∃ folder, firstFolder done c.kind = some folder ∧ folder ≠ c.folder := by
  unfold KeepsFolder at h
  push Not at h
  exact h

/-! ## 4. All registrations -/

/-- Every registration is in the folder of the first one of its kind. -/
def Settled (done : List Registration) : Prop :=
  ∀ d ∈ done, firstFolder done d.kind = some d.folder

theorem Settled.concat (h : Settled done) (hc : KeepsFolder done c) : Settled (done ++ [c]) := by
  intro d hd
  rw [firstFolder_concat]
  rcases List.mem_append.mp hd with hd | hd
  · rw [h d hd, Option.some_or]
  · rw [List.mem_singleton.mp hd, beq_self_eq_true, if_pos rfl]
    cases hf : firstFolder done c.kind with
    | none => rfl
    | some folder => exact congrArg some (hc folder hf)

/-- A registration fails exactly if an earlier one of its kind is in another folder. -/
theorem Settled.not_keepsFolder_iff (h : Settled done) :
    ¬ KeepsFolder done c ↔ ∃ d ∈ done, d.kind = c.kind ∧ d.folder ≠ c.folder := by
  constructor
  · intro hmoved
    obtain ⟨folder, hf, hne⟩ := exists_of_not_keepsFolder hmoved
    obtain ⟨d, hd, rfl⟩ := Option.map_eq_some_iff.mp hf
    have hkind := List.find?_some hd
    exact ⟨d, List.mem_of_find?_eq_some hd, beq_iff_eq.mp hkind, hne⟩
  · rintro ⟨d, hd, hkind, hne⟩ hkeeps
    exact hne (hkeeps d.folder (hkind ▸ h d hd))

/-- **Whatever is tried, the registry holds the groups of what succeeded.** -/
theorem afterAll_groups (calls : List Registration) :
    empty.afterAll calls = groups (empty.succeeded calls) ∧ Settled (empty.succeeded calls) := by
  induction calls using List.reverseRecOn with
  | nil => exact ⟨rfl, fun d hd => absurd hd List.not_mem_nil⟩
  | append_singleton calls c ih =>
      obtain ⟨hgroups, hsettled⟩ := ih
      have hlast : empty.afterAll (calls ++ [c]) = ((empty.afterAll calls).attempt c).1 :=
        afterAll_append calls [c] empty
      rw [hlast, succeeded_append, succeeded_cons, hgroups]
      by_cases hkeeps : KeepsFolder (empty.succeeded calls) c
      · rw [attempt_kept hkeeps]
        exact ⟨rfl, hsettled.concat hkeeps⟩
      · obtain ⟨folder, hf, hne⟩ := exists_of_not_keepsFolder hkeeps
        rw [attempt_moved hf hne]
        exact ⟨congrArg groups (List.append_nil _).symm, (List.append_nil _).symm ▸ hsettled⟩

/-! ## 5. What a registry can be asked -/

theorem itemsOf_groups (done : List Registration) (kind : Kind) :
    (groups done).itemsOf kind = itemsUnder done kind := by
  unfold itemsOf
  rw [find?_groups]
  cases hf : firstFolder done kind with
  | some folder => rfl
  | none =>
      have hnone : done.filter (·.kind == kind) = [] := List.filter_eq_nil_iff.mpr fun d hd heq =>
        firstFolder_eq_none_iff.mp hf d hd (beq_iff_eq.mp heq)
      unfold itemsUnder
      rw [hnone]
      rfl

theorem folderOf_groups (done : List Registration) (kind : Kind) :
    (groups done).folderOf kind = match firstFolder done kind with
      | some folder => .ok folder
      | none => .error (.notRegistered kind) := by
  unfold folderOf
  rw [find?_groups]
  cases hf : firstFolder done kind with
  | none => rfl
  | some folder =>
      show Except.ok ((firstFolder done kind).getD "") = _
      rw [hf]
      rfl

theorem contains_groups (done : List Registration) (kind : Kind) :
    (groups done).contains kind = true ↔ ∃ d ∈ done, d.kind = kind := by
  unfold contains
  rw [itemsOf_groups, Bool.not_eq_true', List.isEmpty_eq_false_iff]
  unfold itemsUnder
  rw [ne_eq, List.map_eq_nil_iff, List.filter_eq_nil_iff]
  push Not
  exact exists_congr fun d => and_congr_right fun _ => beq_iff_eq

/-- Every registration is in one group. -/
theorem total_groups (done : List Registration) : (groups done).total = done.length := by
  have hsize : ∀ kind, (groupOf done kind).items.length = (done.map (·.kind)).count kind := by
    intro kind
    unfold groupOf itemsUnder
    rw [List.length_map, List.count, List.countP_map, List.countP_eq_length_filter]
    rfl
  have hkinds : (kindsMet (·.kind) done).Perm (done.map (·.kind)).dedup :=
    (List.perm_ext_iff_of_nodup (nodup_kindsMet _ done) (List.nodup_dedup _)).mpr fun kind => by
      rw [List.mem_dedup, List.mem_map, mem_kindsMet]
  unfold total
  rw [collections_groups, List.length_flatMap, List.map_map]
  calc ((kindsMet (·.kind) done).map fun kind => (groupOf done kind).items.length).sum
      = ((kindsMet (·.kind) done).map ((done.map (·.kind)).count ·)).sum := by simp only [hsize]
    _ = ((done.map (·.kind)).dedup.map ((done.map (·.kind)).count ·)).sum := (hkinds.map _).sum_eq
    _ = done.length := by rw [List.sum_map_count_dedup_eq_length, List.length_map]

/-- What so many steps of a tour give. -/
def steps (r : Registry) : (count : Nat) → Cursor → List Step
  | 0, _ => []
  | count + 1, cursor => (r.next cursor).1 :: steps r count (r.next cursor).2

/-- A tour that is under way goes through the groups that are left. -/
theorem steps_running (r : Registry) (left : List Collection) (position : Nat)
    (h : r.collections.drop position = left) :
    r.steps (left.length + 1) (.running r.size position) = left.map .collection ++ [.done] := by
  induction left generalizing position with
  | nil =>
      have hend : r.collections[position]? = none :=
        List.getElem?_eq_none (List.drop_eq_nil_iff.mp h)
      simp [steps, next, hend]
  | cons c rest ih =>
      have hnext : r.collections[position]? = some c := by
        have hhead : (r.collections.drop position)[0]? = r.collections[position]? :=
          List.getElem?_drop
        rw [h] at hhead
        exact hhead.symm
      have hrest : r.collections.drop (position + 1) = rest := by
        rw [← List.tail_drop, h]
        rfl
      have hstep : r.next (.running r.size position) =
          (.collection c, .running r.size (position + 1)) := by
        simp [next, hnext]
      unfold steps
      rw [hstep]
      exact congrArg (Step.collection c :: ·) (ih (position + 1) hrest)

/-- **A tour goes through all groups, in order, and ends.** -/
theorem steps_fresh (r : Registry) :
    r.steps (r.size + 1) .fresh = r.collections.map .collection ++ [.done] :=
  steps_running r r.collections 0 rfl

/-- **A registry groups what was registered**, whatever registrations were tried on it. One fails
    exactly if an earlier one that succeeded is in another folder of the same kind, with an error that
    names the folder of the first one, and leaves no trace in anything that follows. The registry then
    has the kinds in the order in which they came, each with the folder of its first file and all its
    files in order, and everything it can be asked agrees with that. -/
theorem registered_grouped (calls : List Registration) :
    let now := empty.afterAll calls
    let done := empty.succeeded calls
    let kinds := kindsMet (·.kind) done
    (∀ c, (now.attempt c).2.isSome ↔ ∃ d ∈ done, d.kind = c.kind ∧ d.folder ≠ c.folder) ∧
      (∀ c e, (now.attempt c).2 = some e → ∃ folder, firstFolder done c.kind = some folder ∧
        e = .otherFolder c.kind folder c.item.fullPath c.folder) ∧
      (∀ c, (now.attempt c).2.isSome → ∀ later,
        empty.afterAll (calls ++ c :: later) = empty.afterAll (calls ++ later) ∧
          empty.succeeded (calls ++ c :: later) = empty.succeeded (calls ++ later) ∧
          empty.answers (calls ++ c :: later) =
            empty.answers calls ++ (now.attempt c).2 :: now.answers later) ∧
      now.collections = kinds.map (groupOf done) ∧
      now.steps (now.size + 1) .fresh = (kinds.map (groupOf done)).map .collection ++ [.done] ∧
      now.collections.map Collection.context = kinds.map (fun kind =>
        Entries.ofFields [("kind", .text kind.text), ("folder", .text (groupOf done kind).folder),
          ("items", .list ((itemsUnder done kind).map CollectionItem.context))]) ∧
      (∀ kind, now.itemsOf kind = itemsUnder done kind) ∧
      (∀ kind, now.folderOf kind = match firstFolder done kind with
        | some folder => .ok folder
        | none => .error (.notRegistered kind)) ∧
      (∀ kind, now.contains kind = true ↔ kind ∈ kinds) ∧
      now.size = kinds.length ∧ now.total = done.length := by
  intro now done kinds
  obtain ⟨hnow, hsettled⟩ : now = groups done ∧ Settled done := afterAll_groups calls
  have hcollections : now.collections = kinds.map (groupOf done) := hnow ▸ collections_groups done
  refine ⟨fun c => ?_, fun c e he => ?_, fun c hc later => ?_, hcollections, ?_, ?_,
    fun kind => ?_, fun kind => ?_, fun kind => ?_, ?_, ?_⟩
  · rw [← hsettled.not_keepsFolder_iff, hnow]
    by_cases hkeeps : KeepsFolder done c
    · rw [attempt_kept hkeeps]
      exact iff_of_false Bool.false_ne_true fun hmoved => hmoved hkeeps
    · obtain ⟨folder, hf, hne⟩ := exists_of_not_keepsFolder hkeeps
      rw [attempt_moved hf hne]
      exact iff_of_true rfl hkeeps
  · rw [hnow] at he
    by_cases hkeeps : KeepsFolder done c
    · rw [attempt_kept hkeeps] at he
      cases he
    · obtain ⟨folder, hf, hne⟩ := exists_of_not_keepsFolder hkeeps
      rw [attempt_moved hf hne] at he
      exact ⟨folder, hf, (Option.some.inj he).symm⟩
  · have hsame : (now.attempt c).1 = now := attempt_failed hc
    refine ⟨?_, ?_, ?_⟩
    · rw [afterAll_append, afterAll_append]
      exact congrArg (afterAll · later) hsame
    · rw [succeeded_append, succeeded_append, succeeded_cons, hsame, ← Option.not_isSome,
        hc]
      rfl
    · rw [answers_append]
      exact congrArg (fun r => _ ++ (now.attempt c).2 :: answers r later) hsame
  · rw [steps_fresh, hcollections]
  · rw [hcollections, List.map_map]
    rfl
  · rw [hnow, itemsOf_groups]
  · rw [hnow, folderOf_groups]
  · rw [hnow, contains_groups, mem_kindsMet]
  · unfold size
    rw [hcollections, List.length_map]
  · rw [hnow, total_groups]

/-- A file in a folder. -/
def itemIn (folder name : String) : CollectionItem := ⟨name, name, folder ++ "/" ++ name⟩

/-- Faults in one folder with a command between them; one of the faults is in another folder. -/
def mixedCalls : List Registration :=
  [⟨.fault, "faults", itemIn "faults" "a"⟩, ⟨.command, "commands", itemIn "commands" "b"⟩,
    ⟨.fault, "errors", itemIn "errors" "c"⟩, ⟨.fault, "faults", itemIn "faults" "d"⟩]

/-- The fault in the other folder is left out, and a command in another folder fails, too. -/
theorem registered_grouped_mixed :
    let now := empty.afterAll mixedCalls
    let stray : Registration := ⟨.command, "errors", itemIn "errors" "e"⟩
    now.collections = [⟨.fault, "faults", [itemIn "faults" "a", itemIn "faults" "d"]⟩,
        ⟨.command, "commands", [itemIn "commands" "b"]⟩] ∧
      now.size = 2 ∧ now.total = 3 ∧ (now.attempt stray).2.isSome ∧
      (∃ folder, firstFolder (empty.succeeded mixedCalls) .command = some folder ∧
        RegistryError.otherFolder .command "commands" "errors/e" "errors" =
          .otherFolder .command folder "errors/e" "errors") ∧
      empty.afterAll (mixedCalls ++ [stray]) = empty.afterAll mixedCalls := by
  intro now stray
  obtain ⟨hfails, herror, htrace, hcollections, _, _, _, _, _, hsize, htotal⟩ :=
    registered_grouped mixedCalls
  have hstray : (now.attempt stray).2.isSome :=
    (hfails stray).mpr ⟨⟨.command, "commands", itemIn "commands" "b"⟩, by decide, rfl, by decide⟩
  have hempty := (htrace stray hstray []).1
  rw [List.append_nil] at hempty
  exact ⟨hcollections.trans (by decide), hsize.trans (by decide), htotal.trans (by decide), hstray,
    herror stray _ (by decide), hempty⟩

end Registry

end DomainGen
