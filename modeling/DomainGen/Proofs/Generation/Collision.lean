import DomainGen.Proofs.Generation.Steps
import Mathlib.Data.List.Induction

/-!
# Collisions

Two files of a plan collide if they have one path. The steps of a plan stop at the first path that
was there before, and the collision they report names that path, the item that had it first and the
item that came second.

* `FirstRepeat` : the first path of a list that repeats an earlier one, with both items;
* `firstRepeat_unique`, `exists_firstRepeat` : there is exactly one if paths repeat, else none;
* `takeSteps_collision` : **the steps report exactly this collision.**
-/

namespace DomainGen

/-! ## 1. The first repetition -/

/-- `c` is the collision of the first file whose path is that of an earlier file with that file. -/
def FirstRepeat (placed : List (Item × GeneratedFile)) (c : Collision) : Prop :=
  ∃ before second after, placed = before ++ second :: after ∧ (pathsOf before).Nodup ∧
    ∃ first ∈ before, first.2.path = second.2.path ∧ c = ⟨second.2.path, first.1, second.1⟩

theorem pathsOf_append (xs ys : List (Item × GeneratedFile)) :
    pathsOf (xs ++ ys) = pathsOf xs ++ pathsOf ys := by
  unfold pathsOf
  rw [List.map_append]

theorem mem_pathsOf {placed : List (Item × GeneratedFile)} {x : Item × GeneratedFile}
    (h : x ∈ placed) : x.2.path ∈ pathsOf placed := List.mem_map_of_mem h

/-- Files before a repetition cannot hold the repetition of another one. -/
theorem firstRepeat_before {xs : List (Item × GeneratedFile)} {x : Item × GeneratedFile}
    {ys : List (Item × GeneratedFile)} (hn : (pathsOf (xs ++ x :: ys)).Nodup)
    {first : Item × GeneratedFile} (hf : first ∈ xs) : first.2.path ≠ x.2.path := by
  rw [pathsOf_append, List.nodup_append] at hn
  exact hn.2.2 _ (mem_pathsOf hf) _ (mem_pathsOf List.mem_cons_self)

/-- There is at most one first repetition. -/
theorem firstRepeat_unique {placed : List (Item × GeneratedFile)} {c d : Collision}
    (hc : FirstRepeat placed c) (hd : FirstRepeat placed d) : c = d := by
  obtain ⟨b, y, a, rfl, hb, x, hx, hxy, rfl⟩ := hc
  obtain ⟨b', y', a', heq, hb', x', hx', hxy', rfl⟩ := hd
  rcases List.append_eq_append_iff.mp heq with ⟨as, rfl, has⟩ | ⟨as, rfl, has⟩
  · cases as with
    | nil =>
        rw [List.append_nil] at hx' hb'
        obtain ⟨rfl, rfl⟩ := List.cons.inj has
        have hsame : x = x' := List.inj_on_of_nodup_map hb hx hx' (hxy.trans hxy'.symm)
        rw [hsame]
    | cons z as =>
        obtain ⟨rfl, _⟩ := List.cons.inj has
        exact absurd hxy (firstRepeat_before hb' hx)
  · cases as with
    | nil =>
        rw [List.append_nil] at hx hb
        obtain ⟨rfl, rfl⟩ := List.cons.inj has
        have hsame : x = x' := List.inj_on_of_nodup_map hb hx hx' (hxy.trans hxy'.symm)
        rw [hsame]
    | cons z as =>
        obtain ⟨rfl, _⟩ := List.cons.inj has
        exact absurd hxy' (firstRepeat_before hb hx')

theorem FirstRepeat.append {xs : List (Item × GeneratedFile)} {c : Collision}
    (h : FirstRepeat xs c) (ys : List (Item × GeneratedFile)) : FirstRepeat (xs ++ ys) c := by
  obtain ⟨b, y, a, rfl, hb, hx⟩ := h
  exact ⟨b, y, a ++ ys, by rw [List.append_assoc, List.cons_append], hb, hx⟩

/-- Different paths have no repetition. -/
theorem not_nodup_of_firstRepeat {placed : List (Item × GeneratedFile)} {c : Collision}
    (h : FirstRepeat placed c) : ¬ (pathsOf placed).Nodup := by
  obtain ⟨b, y, a, rfl, _, x, hx, hxy, _⟩ := h
  exact fun hn => firstRepeat_before hn hx hxy

/-- **Paths that are not all different have a first repetition.** The induction is from the end of
    the list: a repetition before the last file is the first one. -/
theorem exists_firstRepeat {placed : List (Item × GeneratedFile)} (h : ¬ (pathsOf placed).Nodup) :
    ∃ c, FirstRepeat placed c := by
  induction placed using List.reverseRecOn with
  | nil => exact absurd List.nodup_nil h
  | append_singleton xs x ih =>
      by_cases hxs : (pathsOf xs).Nodup
      · have hx : x.2.path ∈ pathsOf xs := by
          refine Classical.byContradiction fun hx => h ?_
          rw [pathsOf_concat, ← List.concat_eq_append]
          exact hxs.concat hx
        obtain ⟨first, hf, heq⟩ := List.mem_map.mp hx
        exact ⟨⟨x.2.path, first.1, x.1⟩, xs, x, [], rfl, hxs, first, hf, heq, rfl⟩
      · obtain ⟨c, hc⟩ := ih hxs
        exact ⟨c, hc.append [x]⟩

/-! ## 2. Steps that collide -/

section Steps

variable {ρ σ : Type} {render : Renderer ρ} {sink : Sink σ}

/-- A file whose path was handed over before collides with the file that has it. -/
theorem takeStep_collision (sink : Sink σ) {p : Progress ρ σ} {f : PlannedFile} {e : ρ}
    {file : GeneratedFile} (hr : f.rendered render p.engine = (e, .ok file))
    (hn : (pathsOf p.placed).Nodup) (hp : file.path ∈ pathsOf p.placed)
    (rest : List (Item × GeneratedFile)) :
    ∃ c, takeStep render sink p (.file f) = ({ p with engine := e }, some (.collision c)) ∧
      FirstRepeat (p.placed ++ (f.item, file) :: rest) c := by
  cases ho : p.owner? file.path with
  | none => exact absurd hp (owner?_eq_none.mp ho)
  | some first =>
      obtain ⟨x, hx, heq, rfl⟩ := owner?_eq_some ho
      refine ⟨⟨file.path, x.1, f.item⟩, ?_, p.placed, (f.item, file), rest, rfl, hn, x, hx, heq,
        rfl⟩
      rw [takeStep_rendered hr]
      exact place_taken (p := { p with engine := e }) ho

/-- **Steps that can be rendered to files with repeated paths end with the first collision**, if the
    sink refuses nothing. -/
theorem takeSteps_collision (ha : sink.AcceptsAll) : ∀ {steps : List PlanStep}
    {p : Progress ρ σ} {placed : List (Item × GeneratedFile)} {c : Collision},
      renderSteps render p.engine steps = .ok placed → (pathsOf p.placed).Nodup →
      FirstRepeat (p.placed ++ placed) c →
      ∃ q, takeSteps render sink p steps = (q, some (.collision c))
  | [], p, placed, c, h, hn, hc => by
      cases h
      rw [List.append_nil] at hc
      exact absurd hn (not_nodup_of_firstRepeat hc)
  | .lookup (.error problem) :: rest, p, placed, c, h, _, _ => by cases h
  | .lookup (.ok t) :: rest, p, placed, c, h, hn, hc => by
      have hrest : renderSteps render p.engine rest = .ok placed := h
      obtain ⟨q, hq⟩ := takeSteps_collision ha hrest hn hc
      exact ⟨q, hq⟩
  | .file f :: rest, p, placed, c, h, hn, hc => by
      obtain ⟨e, file, others, hr, hothers, rfl⟩ := renderSteps_file h
      by_cases hmem : file.path ∈ pathsOf p.placed
      · obtain ⟨d, hst, hd⟩ := takeStep_collision sink hr hn hmem others
        rw [firstRepeat_unique hc hd]
        exact ⟨{ p with engine := e }, by simp only [takeSteps, hst]⟩
      · obtain ⟨s, hst⟩ := takeStep_accepted ha hr hmem
        have hn' : (pathsOf (p.placed ++ [(f.item, file)])).Nodup := by
          rw [pathsOf_concat, ← List.concat_eq_append]
          exact hn.concat hmem
        obtain ⟨q, hq⟩ := takeSteps_collision ha (p := ⟨e, s, p.placed ++ [(f.item, file)]⟩)
          hothers hn' (by rw [List.append_assoc]; exact hc)
        refine ⟨q, ?_⟩
        simp only [takeSteps, hst]
        exact hq

end Steps

end DomainGen
