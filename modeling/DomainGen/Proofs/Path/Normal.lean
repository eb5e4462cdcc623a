import DomainGen.Proofs.Path.Spelling

/-!
# Lexical normal forms

A path can lead to a place in many ways: a double dot takes back the component before it. The normal
form has no such detour. It is found from the components alone, without looking at any folder.

* `Path.normalize` : the normal form. Double dots that have nothing to take back stay in front of a
  relative path and are dropped at the root;
* `Path.hasDetour` : some double dot has something to take back, or stands at the root;
* `normalize_eq_self_iff` : **a path is its normal form exactly if it has no detour**;
* `normalText` : the normal form of a text.
-/

namespace DomainGen

namespace Path

/-! ## 1. Normal forms -/

/-- One component more behind those `done` (nearest first). -/
def normalStep (rooted : Bool) (done : List String) (component : String) : List String :=
  if component = ".." then
    match done with
    | [] => if rooted then [] else [".."]
    | d :: rest => if d = ".." then ".." :: d :: rest else rest
  else component :: done

/-- The path without detours. -/
def normalize (p : Path) : Path :=
  ⟨p.root, (p.components.foldl (normalStep p.isAbsolute) []).reverse⟩

/-- Does a double dot occur where it does not only climb? -/
def detours : (climbs : Bool) → List String → Bool
  | _, [] => false
  | climbs, c :: rest => if c = ".." then !climbs || detours climbs rest else detours false rest

/-- Is there a double dot other than those in front of a relative path? -/
def hasDetour (p : Path) : Bool :=
  detours (!p.isAbsolute) p.components

theorem normalStep_name {rooted : Bool} {done : List String} {c : String} (h : c ≠ "..") :
    normalStep rooted done c = c :: done := if_neg h

/-- A double dot behind nothing but double dots of a relative path stays. -/
theorem normalStep_climb {done : List String} (h : ∀ d ∈ done, d = "..") :
    normalStep false done ".." = ".." :: done := by
  cases done with
  | nil => rfl
  | cons d rest =>
      have hd : d = ".." := h d List.mem_cons_self
      subst hd
      rfl

/-! ## 2. Paths without detours -/

theorem foldl_normalStep_eq {rooted : Bool} : ∀ {cs : List String} {climbs : Bool}
    {done : List String}, (climbs = true → rooted = false ∧ ∀ d ∈ done, d = "..") →
    detours climbs cs = false → cs.foldl (normalStep rooted) done = cs.reverse ++ done
  | [], _, _, _, _ => rfl
  | c :: rest, climbs, done, hclimbs, h => by
      rw [List.foldl_cons, List.reverse_cons, List.append_assoc, List.singleton_append]
      by_cases hc : c = ".."
      · subst hc
        obtain ⟨hclimb, hrest⟩ := Bool.or_eq_false_iff.mp h
        obtain ⟨rfl, hdone⟩ := hclimbs (by simpa using hclimb)
        rw [normalStep_climb hdone]
        refine foldl_normalStep_eq (fun _ => ⟨rfl, fun d hd => ?_⟩) hrest
        rcases List.mem_cons.mp hd with rfl | hd
        · rfl
        · exact hdone d hd
      · have hrest : detours false rest = false := by
          unfold detours at h
          rw [if_neg hc] at h
          exact h
        rw [normalStep_name hc]
        exact foldl_normalStep_eq (fun h => absurd h Bool.false_ne_true) hrest

theorem normalize_of_not_hasDetour {p : Path} (h : p.hasDetour = false) : p.normalize = p := by
  have hfold : p.components.foldl (normalStep p.isAbsolute) [] = p.components.reverse ++ [] :=
    foldl_normalStep_eq
      (fun hc => ⟨by simpa using hc, fun d hd => absurd hd List.not_mem_nil⟩) h
  unfold normalize
  rw [hfold, List.append_nil, List.reverse_reverse]

/-! ## 3. Paths with detours -/

theorem length_normalStep_le (rooted : Bool) (done : List String) (c : String) :
    (normalStep rooted done c).length ≤ done.length + 1 := by
  unfold normalStep
  split
  · split
    · split <;> simp
    · split
      · simp
      · simp only [List.length_cons]
        omega
  · simp

theorem length_foldl_normalStep_le (rooted : Bool) : ∀ (cs done : List String),
    (cs.foldl (normalStep rooted) done).length ≤ done.length + cs.length
  | [], done => Nat.le_refl _
  | c :: rest, done => by
      have ih := length_foldl_normalStep_le rooted rest (normalStep rooted done c)
      have hstep := length_normalStep_le rooted done c
      rw [List.foldl_cons, List.length_cons]
      omega

/-- A double dot that has something to take back, or stands at the root, adds nothing. -/
theorem length_normalStep_back {rooted : Bool} {done : List String}
    (h : (done = [] ∧ rooted = true) ∨ ∃ d rest, done = d :: rest ∧ d ≠ "..") :
    (normalStep rooted done "..").length ≤ done.length := by
  rcases h with ⟨rfl, rfl⟩ | ⟨d, rest, rfl, hd⟩
  · exact Nat.le_refl _
  · have hback : normalStep rooted (d :: rest) ".." = rest := if_neg hd
    rw [hback]
    exact Nat.le_succ _

/-- A detour makes a path shorter. -/
theorem length_foldl_normalStep_lt {rooted : Bool} : ∀ {cs : List String} {climbs : Bool}
    {done : List String}, (climbs = false →
      (done = [] ∧ rooted = true) ∨ ∃ d rest, done = d :: rest ∧ d ≠ "..") →
    detours climbs cs = true →
    (cs.foldl (normalStep rooted) done).length < done.length + cs.length
  | [], _, _, _, h => by cases h
  | c :: rest, climbs, done, hclimbs, h => by
      have hle := length_foldl_normalStep_le rooted rest (normalStep rooted done c)
      rw [List.foldl_cons, List.length_cons]
      by_cases hc : c = ".."
      · subst hc
        cases climbs with
        | false =>
            have hback := length_normalStep_back (hclimbs rfl)
            omega
        | true =>
            have hrest : detours true rest = true := h
            have hlt : (rest.foldl (normalStep rooted) (normalStep rooted done "..")).length <
                (normalStep rooted done "..").length + rest.length :=
              length_foldl_normalStep_lt (fun hf => by cases hf) hrest
            have hstep := length_normalStep_le rooted done ".."
            omega
      · have hrest : detours false rest = true := by
          unfold detours at h
          rw [if_neg hc] at h
          exact h
        rw [normalStep_name hc]
        have hlt : (rest.foldl (normalStep rooted) (c :: done)).length <
            (c :: done).length + rest.length :=
          length_foldl_normalStep_lt (fun _ => Or.inr ⟨c, done, rfl, hc⟩) hrest
        rw [List.length_cons] at hlt
        omega

/-- **A path is its normal form exactly if it has no detour.** -/
theorem normalize_eq_self_iff {p : Path} : p.normalize = p ↔ p.hasDetour = false := by
  constructor
  · intro h
    cases hd : p.hasDetour with
    | false => rfl
    | true =>
        have hlt : (p.components.foldl (normalStep p.isAbsolute) []).length <
            ([] : List String).length + p.components.length :=
          length_foldl_normalStep_lt (fun hc => Or.inl ⟨rfl, by simpa using hc⟩) hd
        have hlength := congrArg (fun q => q.components.length) h
        simp only [normalize, List.length_reverse] at hlength
        rw [hlength, List.length_nil, Nat.zero_add] at hlt
        exact absurd hlt (Nat.lt_irrefl _)
  · exact normalize_of_not_hasDetour

/-! ## 4. Normal texts -/

/-- A step adds nothing but the component or a double dot. -/
theorem mem_normalStep {rooted : Bool} {done : List String} {c d : String}
    (h : d ∈ normalStep rooted done c) : d = ".." ∨ d = c ∨ d ∈ done := by
  unfold normalStep at h
  split at h
  · split at h
    · split at h
      · exact absurd h List.not_mem_nil
      · exact Or.inl (List.mem_singleton.mp h)
    · split at h
      · rcases List.mem_cons.mp h with rfl | h
        · exact Or.inl rfl
        · exact Or.inr (Or.inr h)
      · exact Or.inr (Or.inr (List.mem_cons_of_mem _ h))
  · rcases List.mem_cons.mp h with rfl | h
    · exact Or.inr (Or.inl rfl)
    · exact Or.inr (Or.inr h)

theorem mem_foldl_normalStep {rooted : Bool} {d : String} : ∀ {cs done : List String},
    d ∈ cs.foldl (normalStep rooted) done → d = ".." ∨ d ∈ cs ∨ d ∈ done
  | [], _, h => Or.inr (Or.inr h)
  | c :: rest, done, h => by
      rw [List.foldl_cons] at h
      rcases mem_foldl_normalStep h with hd | hd | hd
      · exact Or.inl hd
      · exact Or.inr (Or.inl (List.mem_cons_of_mem c hd))
      · rcases mem_normalStep hd with hd | rfl | hd
        · exact Or.inl hd
        · exact Or.inr (Or.inl List.mem_cons_self)
        · exact Or.inr (Or.inr hd)

theorem proper_normalize {p : Path} (h : p.Proper) : p.normalize.Proper := by
  intro c hc
  rcases mem_foldl_normalStep (List.mem_reverse.mp hc) with rfl | hc | hc
  · decide
  · exact h c hc
  · exact absurd hc List.not_mem_nil

/-- The normal form of a text. -/
def normalText (s : String) : String := (ofString s).normalize.text

/-- Texts have one normal form exactly if what they denote does. -/
theorem normalText_eq_iff {s t : String} :
    normalText s = normalText t ↔ (ofString s).normalize = (ofString t).normalize :=
  ⟨text_injective (proper_normalize (proper_ofString s)) (proper_normalize (proper_ofString t)),
    congrArg text⟩

/-- A joined text without detours is its own normal form. -/
theorem normalText_joinPath {parts : List String}
    (h : (ofString (joinPath parts)).hasDetour = false) :
    normalText (joinPath parts) = joinPath parts := by
  unfold normalText
  rw [normalize_of_not_hasDetour h, text_ofString_joinPath]

end Path

end DomainGen
