import DomainGen.Config.Warnings
import DomainGen.Proofs.Data.Overriding
import DomainGen.Proofs.Except

/-!
# What the warnings say

The last two groups of warnings are about indexes that would have one path. Each of them holds of the
options it was made from, and where there are none the options differ.

* `ConfigWarning.onIndexes` : the warnings about indexes; `warnings_eq_ok` : where they stand;
* `mem_indexWarnings` : **a clash is reported exactly if the index of a kind has the path of the
  index of the kinds**;
* `mem_folderWarnings`, `folderWarnings_nil` : a folder is reported only if two kinds have it, and it
  is reported if two kinds do.
-/

namespace DomainGen

/-- Is the warning about two indexes with one path? -/
def ConfigWarning.onIndexes : ConfigWarning → Bool
  | sharesFolder .. => true
  | indexClash .. => true
  | _ => false

namespace Config

variable {c : Config} {ws : List ConfigWarning}

/-! ## 1. Warnings about one policy -/

/-- No warning of a list is about indexes. -/
def NotOnIndexes (ws : List ConfigWarning) : Prop := ∀ w ∈ ws, w.onIndexes = false

theorem NotOnIndexes.nil : NotOnIndexes [] := fun _ hw => absurd hw List.not_mem_nil

theorem NotOnIndexes.singleton {w : ConfigWarning} (hw : w.onIndexes = false) :
    NotOnIndexes [w] := by
  intro v hv
  rw [List.mem_singleton.mp hv]
  exact hw

theorem NotOnIndexes.append {vs : List ConfigWarning} (hv : NotOnIndexes vs)
    (hw : NotOnIndexes ws) : NotOnIndexes (vs ++ ws) := by
  intro w h
  rcases List.mem_append.mp h with h | h
  · exact hv w h
  · exact hw w h

theorem notOnIndexes_policyWarnings {role : Data} {o : PolicyOptions}
    (h : policyWarnings role o = .ok ws) : NotOnIndexes ws := by
  obtain ⟨suffix, hsuffix, h⟩ := except_bind_eq_ok.mp h
  obtain ⟨extension, hextension, h⟩ := except_bind_eq_ok.mp h
  obtain ⟨folder, hfolder, h⟩ := except_bind_eq_ok.mp h
  cases h
  refine (NotOnIndexes.append ?_ ?_).append ?_
  · unfold suffixWarnings at hsuffix
    split at hsuffix
    · cases hsuffix
      exact .nil
    · obtain ⟨_, _, hsuffix⟩ := except_bind_eq_ok.mp hsuffix
      cases hsuffix
      exact .singleton rfl
  · unfold extensionWarnings at hextension
    split at hextension
    · obtain ⟨dotted, _, hextension⟩ := except_bind_eq_ok.mp hextension
      split at hextension
      · cases hextension
        exact .nil
      · obtain ⟨_, _, hextension⟩ := except_bind_eq_ok.mp hextension
        obtain ⟨_, _, hextension⟩ := except_bind_eq_ok.mp hextension
        cases hextension
        exact .singleton rfl
    · cases hextension
      exact .nil
  · unfold emptyFolderWarnings at hfolder
    split at hfolder
    · cases hfolder
      exact .nil
    · obtain ⟨_, _, hfolder⟩ := except_bind_eq_ok.mp hfolder
      cases hfolder
      exact .singleton rfl

theorem notOnIndexes_allPolicyWarnings : ∀ {naming : List (Data × PolicyOptions)}
    {ws : List ConfigWarning}, allPolicyWarnings naming = .ok ws → NotOnIndexes ws
  | [], _, h => by
      cases h
      exact .nil
  | (role, o) :: rest, _, h => by
      obtain ⟨first, hfirst, h⟩ := except_bind_eq_ok.mp h
      obtain ⟨others, hothers, h⟩ := except_bind_eq_ok.mp h
      cases h
      exact (notOnIndexes_policyWarnings hfirst).append (notOnIndexes_allPolicyWarnings hothers)

theorem notOnIndexes_aggregateFolderWarnings {aggregate : Data} : ∀ {ks : List Kind}
    {ws : List ConfigWarning}, c.aggregateFolderWarnings aggregate ks = .ok ws → NotOnIndexes ws
  | [], _, h => by
      cases h
      exact .nil
  | k :: rest, _, h => by
      unfold aggregateFolderWarnings at h
      split at h
      · exact notOnIndexes_aggregateFolderWarnings h
      · split at h
        · obtain ⟨folder, _, h⟩ := except_bind_eq_ok.mp h
          obtain ⟨others, hothers, h⟩ := except_bind_eq_ok.mp h
          cases h
          exact NotOnIndexes.append (.singleton rfl) (notOnIndexes_aggregateFolderWarnings hothers)
        · exact notOnIndexes_aggregateFolderWarnings h

theorem notOnIndexes_sharedFolderWarnings (h : c.sharedFolderWarnings = .ok ws) :
    NotOnIndexes ws := by
  unfold sharedFolderWarnings at h
  split at h
  · cases h
    exact .nil
  · exact notOnIndexes_aggregateFolderWarnings h

/-! ## 2. All warnings -/

/-- **Warnings about indexes stand behind all others**, first those about folders of two kinds, then
    those about the index of the kinds. -/
theorem warnings_eq_ok (h : c.warnings = .ok ws) : ∃ others folders root clashes,
    NotOnIndexes others ∧ c.folderWarnings [] Kind.all = .ok folders ∧
      joinParts [c.rootModuleName] = .ok root ∧ c.indexWarnings root Kind.all = .ok clashes ∧
      (∀ role ∈ namingRoles, c.optionsOf? role = none → .noPolicy role ∈ others) ∧
      ws = others ++ folders ++ clashes := by
  unfold warnings at h
  obtain ⟨options, hoptions, h⟩ := except_bind_eq_ok.mp h
  obtain ⟨aggregates, haggregates, h⟩ := except_bind_eq_ok.mp h
  obtain ⟨folders, hfolders, h⟩ := except_bind_eq_ok.mp h
  obtain ⟨root, hroot, h⟩ := except_bind_eq_ok.mp h
  obtain ⟨clashes, hclashes, h⟩ := except_bind_eq_ok.mp h
  cases h
  refine ⟨_, folders, root, clashes, ?_, hfolders, hroot, hclashes, fun role hrole hnone => ?_, rfl⟩
  · refine (NotOnIndexes.append ?_ (notOnIndexes_allPolicyWarnings hoptions)).append
      (notOnIndexes_sharedFolderWarnings haggregates)
    intro w hw
    obtain ⟨role, _, rfl⟩ := List.mem_map.mp hw
    rfl
  · refine List.mem_append_left _ (List.mem_append_left _ (List.mem_map_of_mem ?_))
    exact List.mem_filter.mpr ⟨hrole, by rw [hnone]; rfl⟩

/-! ## 3. Clashes with the index of the kinds -/

/-- **A clash is reported for exactly the kinds whose index has the path of the index of the
    kinds.** -/
theorem mem_indexWarnings {root : String} : ∀ {ks : List Kind} {ws : List ConfigWarning},
    c.indexWarnings root ks = .ok ws → ∀ {w : ConfigWarning}, w ∈ ws ↔
      ∃ k ∈ ks, ∃ o, c.optionsOf? k.text = some o ∧
        joinParts [o.folder, c.subModuleName] = .ok root ∧ w = .indexClash k root
  | [], _, h, w => by
      cases h
      exact ⟨fun hw => absurd hw List.not_mem_nil, fun ⟨_, hk, _⟩ => absurd hk List.not_mem_nil⟩
  | k :: rest, ws, h, w => by
      unfold indexWarnings at h
      -- the warnings of the other kinds, and that of the first one if it has any
      suffices hfirst : ∃ later, c.indexWarnings root rest = .ok later ∧ (w ∈ ws ↔ w ∈ later ∨
          ∃ o, c.optionsOf? k.text = some o ∧ joinParts [o.folder, c.subModuleName] = .ok root ∧
            w = .indexClash k root) by
        obtain ⟨later, hlater, hw⟩ := hfirst
        rw [hw, mem_indexWarnings hlater, or_comm]
        constructor
        · rintro (ho | ⟨k', hk', ho⟩)
          · exact ⟨k, List.mem_cons_self, ho⟩
          · exact ⟨k', List.mem_cons_of_mem k hk', ho⟩
        · rintro ⟨k', hk', ho⟩
          rcases List.mem_cons.mp hk' with rfl | hk'
          · exact Or.inl ho
          · exact Or.inr ⟨k', hk', ho⟩
      cases hopt : c.optionsOf? k.text with
      | none =>
          rw [hopt] at h
          exact ⟨ws, h, by simp⟩
      | some o =>
          rw [hopt] at h
          obtain ⟨index, hindex, h⟩ := except_bind_eq_ok.mp h
          obtain ⟨later, hlater, h⟩ := except_bind_eq_ok.mp h
          obtain rfl := Except.ok.inj h
          refine ⟨later, hlater, ?_⟩
          by_cases heq : index = root
          · subst heq
            simp [hindex, or_comm]
          · simp [hindex, heq]

/-- Where there are warnings the index of every kind has a path. -/
theorem joinParts_of_indexWarnings {root : String} : ∀ {ks : List Kind} {ws : List ConfigWarning},
    c.indexWarnings root ks = .ok ws → ∀ k ∈ ks, ∀ o, c.optionsOf? k.text = some o →
      ∃ index, joinParts [o.folder, c.subModuleName] = .ok index
  | [], _, _, _, hk, _, _ => absurd hk List.not_mem_nil
  | k :: rest, _, h, k', hk', o, ho => by
      unfold indexWarnings at h
      cases hopt : c.optionsOf? k.text with
      | none =>
          rw [hopt] at h
          rcases List.mem_cons.mp hk' with rfl | hk'
          · rw [hopt] at ho
            cases ho
          · exact joinParts_of_indexWarnings h k' hk' o ho
      | some first =>
          rw [hopt] at h
          obtain ⟨index, hindex, h⟩ := except_bind_eq_ok.mp h
          obtain ⟨later, hlater, _⟩ := except_bind_eq_ok.mp h
          rcases List.mem_cons.mp hk' with rfl | hk'
          · obtain rfl := Option.some.inj (hopt.symm.trans ho)
            exact ⟨index, hindex⟩
          · exact joinParts_of_indexWarnings hlater k' hk' o ho

/-! ## 4. Folders of two kinds -/

/-- The folders seen so far are those of kinds that are not among the others. -/
structure Seen (c : Config) (seen : List (Data × Kind)) (ks : List Kind) : Prop where
  options : ∀ e ∈ seen, ∃ o, c.optionsOf? e.2.text = some o ∧ o.folder = e.1
  others : ∀ e ∈ seen, e.2 ∉ ks
  nodup : ks.Nodup

/-- Nothing was seen before the first kind. -/
theorem Seen.all : c.Seen [] Kind.all :=
  ⟨fun _ he => absurd he List.not_mem_nil, fun _ he => absurd he List.not_mem_nil, by decide⟩

theorem Seen.tail {seen : List (Data × Kind)} {k : Kind} {rest : List Kind}
    (h : c.Seen seen (k :: rest)) : c.Seen seen rest :=
  ⟨h.options, fun e he hk => h.others e he (List.mem_cons_of_mem k hk),
    (List.nodup_cons.mp h.nodup).2⟩

theorem Seen.cons {seen : List (Data × Kind)} {k : Kind} {rest : List Kind} {o : PolicyOptions}
    (h : c.Seen seen (k :: rest)) (ho : c.optionsOf? k.text = some o) :
    c.Seen ((o.folder, k) :: seen) rest := by
  refine ⟨fun e he => ?_, fun e he => ?_, h.tail.nodup⟩
  · rcases List.mem_cons.mp he with rfl | he
    · exact ⟨o, ho, rfl⟩
    · exact h.options e he
  · rcases List.mem_cons.mp he with rfl | he
    · exact (List.nodup_cons.mp h.nodup).1
    · exact h.tail.others e he

/-- What is done with a kind: one without options is passed over, one whose folder was seen is reported,
    and the folder of any other is remembered. -/
inductive FolderStep (c : Config) (seen : List (Data × Kind)) (k : Kind) (rest : List Kind)
    (ws : List ConfigWarning) : Prop where
  | passed (hopt : c.optionsOf? k.text = none) (hrest : c.folderWarnings seen rest = .ok ws)
  | reported {o : PolicyOptions} {e : Data × Kind} {folder : String} {others : List ConfigWarning}
      (hopt : c.optionsOf? k.text = some o) (hmem : e ∈ seen) (hsame : e.1.sameKey o.folder = true)
      (hrest : c.folderWarnings seen rest = .ok others) (hws : ws = .sharesFolder k e.2 folder :: others)
  | remembered {o : PolicyOptions} (hopt : c.optionsOf? k.text = some o)
      (hnew : ∀ e ∈ seen, e.1.sameKey o.folder = false)
      (hrest : c.folderWarnings ((o.folder, k) :: seen) rest = .ok ws)

theorem folderStep_of_folderWarnings {seen : List (Data × Kind)} {k : Kind} {rest : List Kind}
    {ws : List ConfigWarning} (h : c.folderWarnings seen (k :: rest) = .ok ws) :
    FolderStep c seen k rest ws := by
  unfold folderWarnings at h
  cases hopt : c.optionsOf? k.text with
  | none =>
      rw [hopt] at h
      exact .passed hopt h
  | some o =>
      rw [hopt] at h
      dsimp only at h
      split at h
      · cases h
      · split at h
        · rename_i hfind
          obtain ⟨folder, _, h⟩ := except_bind_eq_ok.mp h
          obtain ⟨others, hothers, h⟩ := except_bind_eq_ok.mp h
          cases h
          exact .reported hopt (List.mem_of_find?_eq_some hfind)
            (List.find?_some (p := fun e : Data × Kind => e.1.sameKey o.folder) hfind) hothers rfl
        · rename_i hnone
          exact .remembered hopt
            (fun e he => Bool.eq_false_iff.mpr (List.find?_eq_none.mp hnone e he)) h

/-- **A folder is reported only if two kinds have it.** -/
theorem mem_folderWarnings : ∀ {ks : List Kind} {seen : List (Data × Kind)}
    {ws : List ConfigWarning}, c.Seen seen ks → c.folderWarnings seen ks = .ok ws → ∀ w ∈ ws,
      ∃ k first folder o o', w = .sharesFolder k first folder ∧ k ≠ first ∧
        c.optionsOf? k.text = some o ∧ c.optionsOf? first.text = some o' ∧
        o'.folder.sameKey o.folder = true
  | [], _, _, _, h, w, hw => by
      cases h
      exact absurd hw List.not_mem_nil
  | k :: rest, seen, ws, hseen, h, w, hw => by
      cases folderStep_of_folderWarnings h with
      | passed _ hrest => exact mem_folderWarnings hseen.tail hrest w hw
      | remembered hopt _ hrest => exact mem_folderWarnings (hseen.cons hopt) hrest w hw
      | @reported o e folder _ hopt hmem hsame hrest hws =>
          subst hws
          rcases List.mem_cons.mp hw with rfl | hw
          · obtain ⟨o', ho', hfolder⟩ := hseen.options e hmem
            refine ⟨k, e.2, folder, o, o', rfl, ?_, hopt, ho', hfolder ▸ hsame⟩
            intro heq
            exact hseen.others e hmem (heq ▸ List.mem_cons_self)
          · exact mem_folderWarnings hseen.tail hrest w hw

/-- **If no folder is reported no two kinds have one**, and none has one that was seen before. -/
theorem folderWarnings_nil : ∀ {ks : List Kind} {seen : List (Data × Kind)},
    c.folderWarnings seen ks = .ok [] →
      ks.Pairwise (fun k k' => ∀ o o', c.optionsOf? k.text = some o →
        c.optionsOf? k'.text = some o' → o.folder.sameKey o'.folder = false) ∧
      ∀ e ∈ seen, ∀ k ∈ ks, ∀ o, c.optionsOf? k.text = some o → e.1.sameKey o.folder = false
  | [], _, _ => ⟨.nil, fun _ _ _ hk => absurd hk List.not_mem_nil⟩
  | k :: rest, seen, h => by
      cases folderStep_of_folderWarnings h with
      | reported _ _ _ _ hws => cases hws
      | passed hopt hrest =>
          obtain ⟨hpair, hseen⟩ := folderWarnings_nil hrest
          refine ⟨.cons (fun k' _ o o' ho => by rw [hopt] at ho; cases ho) hpair,
            fun e he k' hk' o ho => ?_⟩
          rcases List.mem_cons.mp hk' with rfl | hk'
          · rw [hopt] at ho
            cases ho
          · exact hseen e he k' hk' o ho
      | remembered hopt hnew hrest =>
          obtain ⟨hpair, hseen⟩ := folderWarnings_nil hrest
          refine ⟨.cons (fun k' hk' o₁ o₂ ho₁ ho₂ => ?_) hpair, fun e he k' hk' o' ho' => ?_⟩
          · obtain rfl := Option.some.inj (hopt.symm.trans ho₁)
            exact hseen _ List.mem_cons_self k' hk' o₂ ho₂
          · rcases List.mem_cons.mp hk' with rfl | hk'
            · obtain rfl := Option.some.inj (hopt.symm.trans ho')
              exact hnew e he
            · exact hseen e (List.mem_cons_of_mem _ he) k' hk' o' ho'

end Config

end DomainGen
