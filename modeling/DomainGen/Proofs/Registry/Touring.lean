import DomainGen.Proofs.Registry.Grouping
import Mathlib.Data.List.TakeWhile

/-!
# Tours of a registry that changes

A tour gives the collections of a registry one at a time, and between two of its steps files may be
registered. A collection is taken as it is when its turn comes, so that files of its kind that come
later are not in it, and files that came since the tour began are. What a tour does not stand is a
kind that is new since its first step.

* `Turn`, `Tour.afterAll`, `Tour.given` : registrations and steps of one tour in any order, and what
  the steps give;
* `Toured` : what is known of a tour after any turns; `toured_afterAll` : **every turn keeps it**;
* `next_unfinished` : what the next step of a tour gives, from the registrations alone;
* `tour_consistent` : **a tour gives every kind once, in order and up to date, unless a kind is new
  since it began.**
-/

namespace DomainGen

/-! ## 1. Turns -/

namespace Registry

/-- Something done while a registry is toured: a registration is tried, or the tour makes a step. -/
inductive Turn where
  | register (c : Registration)
  | next
  deriving DecidableEq, Repr, Inhabited

/-- A registry and a tour of it. -/
structure Tour where
  /-- The registry. -/
  registry : Registry
  /-- How far the tour is. -/
  cursor : Cursor
  deriving DecidableEq, Repr, Inhabited

namespace Tour

/-- What the next step gives. -/
def answer (t : Tour) : Step := (t.registry.next t.cursor).1

/-- A tour after one turn. -/
def take (t : Tour) : Turn → Tour
  | .register c => ⟨(t.registry.attempt c).1, t.cursor⟩
  | .next => ⟨t.registry, (t.registry.next t.cursor).2⟩

/-- A tour after some turns. -/
def afterAll : Tour → List Turn → Tour
  | t, [] => t
  | t, turn :: rest => (t.take turn).afterAll rest

/-- What the steps among some turns give. -/
def given : Tour → List Turn → List Step
  | _, [] => []
  | t, .register c :: rest => (t.take (.register c)).given rest
  | t, .next :: rest => t.answer :: (t.take .next).given rest

theorem afterAll_append (turns later : List Turn) (t : Tour) :
    t.afterAll (turns ++ later) = (t.afterAll turns).afterAll later := by
  induction turns generalizing t with
  | nil => rfl
  | cons turn rest ih => exact ih (t.take turn)

/-- **What was given stays**, whatever turns come later. -/
theorem given_append (turns later : List Turn) (t : Tour) :
    t.given (turns ++ later) = t.given turns ++ (t.afterAll turns).given later := by
  induction turns generalizing t with
  | nil => rfl
  | cons turn rest ih =>
      cases turn with
      | register c => exact ih (t.take (.register c))
      | next => exact congrArg (t.answer :: ·) (ih (t.take .next))

end Tour

/-- Does a step end the tour? -/
def Step.ends : Step → Bool
  | .collection _ => false
  | .done => true
  | .changed => true

/-- The kind of the collection that a step gives. -/
def Step.kind? : Step → Option Kind
  | .collection c => some c.kind
  | .done => none
  | .changed => none

/-- The kinds of the collections that some steps give. -/
def kindsGiven (given : List Step) : List Kind := given.filterMap Step.kind?

/-- The registrations among some turns. -/
def tried (turns : List Turn) : List Registration :=
  turns.filterMap fun
    | .register c => some c
    | .next => none

/-- The turns before the first step of the tour. -/
def opening (turns : List Turn) : List Turn := turns.takeWhile (· != .next)

/-- The registrations that succeeded: those of before and those among some turns. -/
def doneBy (earlier : List Registration) (turns : List Turn) : List Registration :=
  empty.succeeded (earlier ++ tried turns)

/-- The kinds that were met by the end of some turns. -/
def metBy (earlier : List Registration) (turns : List Turn) : List Kind :=
  kindsMet (·.kind) (doneBy earlier turns)

section Turns

variable {earlier : List Registration} {turns : List Turn} {c : Registration}

theorem tried_append (turns later : List Turn) : tried (turns ++ later) = tried turns ++ tried later :=
  List.filterMap_append

theorem prefix_kindsMet (done later : List Registration) :
    kindsMet (·.kind) done <+: kindsMet (·.kind) (done ++ later) := by
  unfold kindsMet
  rw [List.map_append, List.eraseDups_append]
  exact List.prefix_append _ _

/-- Kinds that were met stay where they are. -/
theorem metBy_isPrefix (earlier : List Registration) (turns later : List Turn) :
    metBy earlier turns <+: metBy earlier (turns ++ later) := by
  unfold metBy doneBy
  rw [tried_append, ← List.append_assoc, succeeded_append empty (earlier ++ tried turns)]
  exact prefix_kindsMet _ _

theorem opening_append (h : .next ∈ turns) (later : List Turn) :
    opening (turns ++ later) = opening turns := by
  induction turns with
  | nil => exact absurd h List.not_mem_nil
  | cons turn rest ih =>
      cases turn with
      | next => rfl
      | register c =>
          have hrest : .next ∈ rest := (List.mem_cons.mp h).resolve_left Turn.noConfusion
          exact congrArg (Turn.register c :: ·) (ih hrest)

theorem ne_next (h : .next ∉ turns) : ∀ turn ∈ turns, (turn != .next) = true := by
  intro turn hturn
  rw [bne_iff_ne]
  rintro rfl
  exact h hturn

theorem opening_eq_self (h : .next ∉ turns) : opening turns = turns :=
  List.takeWhile_eq_self_iff.mpr (ne_next h)

/-- What a tour begins with is settled by its first step. -/
theorem opening_next (turns : List Turn) : opening (turns ++ [.next]) = opening turns := by
  by_cases h : .next ∈ turns
  · exact opening_append h [.next]
  · rw [opening_eq_self h]
    unfold opening
    rw [List.takeWhile_append_of_pos (ne_next h)]
    exact List.append_nil _

theorem opening_isPrefix (turns : List Turn) : opening turns <+: turns := List.takeWhile_prefix _

/-- The kinds that a tour begins with are the first ones of all. -/
theorem metBy_opening_isPrefix (earlier : List Registration) (turns : List Turn) :
    metBy earlier (opening turns) <+: metBy earlier turns := by
  obtain ⟨later, hlater⟩ := opening_isPrefix turns
  have hfirst := metBy_isPrefix earlier (opening turns) later
  rwa [hlater] at hfirst

/-- No kind is new if there are as many as in the beginning. -/
theorem metBy_opening_eq_iff : metBy earlier (opening turns) = metBy earlier turns ↔
    ∀ kind ∈ metBy earlier turns, kind ∈ metBy earlier (opening turns) := by
  constructor
  · intro h kind hkind
    rwa [h]
  · intro h
    obtain ⟨new, hnew⟩ := metBy_opening_isPrefix earlier turns
    have hnodup : (metBy earlier turns).Nodup := nodup_kindsMet _ _
    rw [← hnew] at hnodup h ⊢
    cases new with
    | nil => exact (List.append_nil _).symm
    | cons kind rest =>
        have hkind := h kind (List.mem_append_right _ List.mem_cons_self)
        exact absurd rfl (List.nodup_append.mp hnodup |>.2.2 kind hkind kind List.mem_cons_self)

/-! ## 2. One turn -/

/-- What is known of a tour after some turns, by how far it is. It has given the first of the kinds
    that were there when it began, and nothing else unless it is finished. -/
inductive Toured (earlier : List Registration) (turns : List Turn) : Cursor → List Step → Prop
  | fresh (hnone : .next ∉ turns) : Toured earlier turns .fresh []
  | running {given : List Step} (hsome : .next ∈ turns) (hopen : ∀ s ∈ given, s.ends = false)
      (hkinds : kindsGiven given = (metBy earlier (opening turns)).take given.length)
      (hle : given.length ≤ (metBy earlier (opening turns)).length) :
      Toured earlier turns (.running (metBy earlier (opening turns)).length given.length) given
  | finished {given : List Step} (hsome : .next ∈ turns) (hended : ∃ s ∈ given, s.ends = true)
      (hkinds : kindsGiven given <+: metBy earlier (opening turns))
      (hall : .changed ∉ given → kindsGiven given = metBy earlier (opening turns)) :
      Toured earlier turns .finished given

theorem getElem?_groups (done : List Registration) (position : Nat) :
    (groups done).collections[position]? =
      ((kindsMet (·.kind) done)[position]?).map (groupOf done) := by
  rw [collections_groups, List.getElem?_map]

theorem size_groups (done : List Registration) :
    (groups done).size = (kindsMet (·.kind) done).length := by
  unfold size
  rw [collections_groups, List.length_map]

/-- **The next step of a tour that is under way**: the group of the next kind as it is now, or the
    end; but if a kind is new since the beginning, the tour is broken off. -/
theorem next_running (earlier : List Registration) (turns : List Turn) (position : Nat) :
    (groups (doneBy earlier turns)).next
        (.running (metBy earlier (opening turns)).length position) =
      if metBy earlier (opening turns) = metBy earlier turns then
        match (metBy earlier turns)[position]? with
        | some kind => (.collection (groupOf (doneBy earlier turns) kind),
            .running (metBy earlier (opening turns)).length (position + 1))
        | none => (.done, .finished)
      else (.changed, .finished) := by
  have hsize : (groups (doneBy earlier turns)).size = (metBy earlier turns).length := size_groups _
  unfold next
  dsimp only
  rw [hsize, getElem?_groups]
  split
  · rename_i hne
    rw [if_neg fun heq => bne_iff_ne.mp hne (congrArg List.length heq)]
  · rename_i hlength
    have hlength : (metBy earlier (opening turns)).length = (metBy earlier turns).length := by
      simpa using hlength
    rw [if_pos ((metBy_opening_isPrefix earlier turns).eq_of_length hlength)]
    unfold metBy
    cases (kindsMet (·.kind) (doneBy earlier turns))[position]? <;> rfl

namespace Toured

variable {cursor : Cursor} {given : List Step}

/-- A tour that has not begun is like one that begins now. -/
theorem next_eq (h : Toured earlier turns cursor given) (hopen : ∀ s ∈ given, s.ends = false) :
    (groups (doneBy earlier turns)).next cursor = (groups (doneBy earlier turns)).next
      (.running (metBy earlier (opening turns)).length given.length) := by
  cases h with
  | fresh hnone =>
      have hsize : (metBy earlier (opening turns)).length = (groups (doneBy earlier turns)).size := by
        rw [opening_eq_self hnone, size_groups]
        rfl
      rw [hsize]
      rfl
  | running => rfl
  | finished _ hended =>
      obtain ⟨s, hs, hends⟩ := hended
      rw [hopen s hs] at hends
      cases hends

/-- **What the next step gives, unless the tour is finished**: the next one of the kinds, as long as
    they are those of the beginning. -/
theorem next_unfinished (h : Toured earlier turns cursor given)
    (hopen : ∀ s ∈ given, s.ends = false) :
    (groups (doneBy earlier turns)).next cursor =
      if metBy earlier (opening turns) = metBy earlier turns then
        match (metBy earlier turns)[given.length]? with
        | some kind => (.collection (groupOf (doneBy earlier turns) kind),
            .running (metBy earlier (opening turns)).length (given.length + 1))
        | none => (.done, .finished)
      else (.changed, .finished) :=
  (h.next_eq hopen).trans (next_running earlier turns given.length)

/-- A finished tour gives nothing more. -/
theorem next_finished (h : Toured earlier turns cursor given) (hended : ∃ s ∈ given, s.ends = true)
    (r : Registry) : r.next cursor = (.done, .finished) := by
  obtain ⟨s, hs, hends⟩ := hended
  cases h with
  | fresh => exact absurd hs List.not_mem_nil
  | running _ hopen =>
      rw [hopen s hs] at hends
      cases hends
  | finished => rfl

/-- The kinds that were given are the first ones of those of the beginning. -/
theorem kindsGiven_isPrefix (h : Toured earlier turns cursor given) :
    kindsGiven given <+: metBy earlier (opening turns) := by
  cases h with
  | fresh => exact List.nil_prefix
  | running _ _ hkinds =>
      rw [hkinds]
      exact List.take_prefix _ _
  | finished _ _ hkinds => exact hkinds

/-- As long as a tour is not finished, each step has given one of the kinds. -/
theorem kindsGiven_eq (h : Toured earlier turns cursor given)
    (hopen : ∀ s ∈ given, s.ends = false) :
    kindsGiven given = (metBy earlier (opening turns)).take given.length ∧
      given.length ≤ (metBy earlier (opening turns)).length := by
  cases h with
  | fresh => exact ⟨rfl, Nat.zero_le _⟩
  | running _ _ hkinds hle => exact ⟨hkinds, hle⟩
  | finished _ hended =>
      obtain ⟨s, hs, hends⟩ := hended
      rw [hopen s hs] at hends
      cases hends

theorem register (h : Toured earlier turns cursor given) (c : Registration) :
    Toured earlier (turns ++ [.register c]) cursor given := by
  cases h with
  | fresh hnone =>
      refine .fresh fun hmem => ?_
      rcases List.mem_append.mp hmem with hmem | hmem
      · exact hnone hmem
      · cases List.mem_singleton.mp hmem
  | running hsome hopen hkinds hle =>
      rw [← opening_append hsome [.register c]] at hkinds hle ⊢
      exact .running (List.mem_append_left _ hsome) hopen hkinds hle
  | finished hsome hended hkinds hall =>
      rw [← opening_append hsome [.register c]] at hkinds hall
      exact .finished (List.mem_append_left _ hsome) hended hkinds hall

/-- A step that gives no kind ends the tour. -/
theorem finish (h : Toured earlier turns cursor given) {step : Step} (hends : step.ends = true)
    (hkind : step.kind? = none) (hall : step ≠ .changed → .changed ∉ given →
      kindsGiven given = metBy earlier (opening turns)) :
    Toured earlier (turns ++ [.next]) .finished (given ++ [step]) := by
  have hgiven : kindsGiven (given ++ [step]) = kindsGiven given := by
    unfold kindsGiven
    rw [List.filterMap_append, List.filterMap_cons_none hkind]
    exact List.append_nil _
  refine .finished (List.mem_append_right _ (List.mem_singleton.mpr rfl))
    ⟨step, List.mem_append_right _ (List.mem_singleton.mpr rfl), hends⟩ ?_ fun hnone => ?_
  · rw [hgiven, opening_next]
    exact h.kindsGiven_isPrefix
  · rw [List.mem_append, not_or, List.mem_singleton] at hnone
    rw [hgiven, opening_next]
    exact hall (Ne.symm hnone.2) hnone.1

/-- A step that gives the next kind goes on with the tour. -/
theorem advance (h : Toured earlier turns cursor given) (hopen : ∀ s ∈ given, s.ends = false)
    {done : List Registration} {kind : Kind}
    (hkind : (metBy earlier (opening turns))[given.length]? = some kind) :
    Toured earlier (turns ++ [.next])
      (.running (metBy earlier (opening turns)).length (given.length + 1))
      (given ++ [.collection (groupOf done kind)]) := by
  have hkinds := (h.kindsGiven_eq hopen).1
  rw [← opening_next turns] at hkind hkinds ⊢
  generalize hgroup : Step.collection (groupOf done kind) = step
  have hlength : (given ++ [step]).length = given.length + 1 := List.length_append
  rw [← hlength]
  refine .running (List.mem_append_right _ (List.mem_singleton.mpr rfl)) ?_ ?_ ?_
  · rw [List.forall_mem_append, ← hgroup]
    exact ⟨hopen, List.forall_mem_singleton.mpr rfl⟩
  · rw [hlength, List.take_add_one, hkind, ← hkinds, ← hgroup]
    exact List.filterMap_append
  · rw [hlength]
    exact (List.getElem?_eq_some_iff.mp hkind).1

theorem next (h : Toured earlier turns cursor given) :
    Toured earlier (turns ++ [.next]) ((groups (doneBy earlier turns)).next cursor).2
      (given ++ [((groups (doneBy earlier turns)).next cursor).1]) := by
  by_cases hopen : ∀ s ∈ given, s.ends = false
  · rw [h.next_unfinished hopen]
    split
    · rename_i hsame
      split
      · rename_i kind hkind
        exact h.advance hopen (hsame ▸ hkind)
      · rename_i hnone
        rw [← hsame] at hnone
        refine h.finish rfl rfl fun _ _ => ?_
        rw [(h.kindsGiven_eq hopen).1, List.take_of_length_le (List.getElem?_eq_none_iff.mp hnone)]
    · exact h.finish rfl rfl fun hne => absurd rfl hne
  · push Not at hopen
    obtain ⟨s, hs, hends⟩ := hopen
    rw [h.next_finished ⟨s, hs, Bool.ne_false_iff.mp hends⟩]
    refine h.finish rfl rfl fun _ => ?_
    cases h with
    | fresh => exact absurd hs List.not_mem_nil
    | running _ hopen => exact absurd (hopen s hs) hends
    | finished _ _ _ hall => exact hall

end Toured

/-! ## 3. All turns -/

/-- A tour of the registry that some registrations leave. -/
def tourAfter (earlier : List Registration) : Tour := ⟨empty.afterAll earlier, .fresh⟩

theorem registry_afterAll (turns : List Turn) (t : Tour) :
    (t.afterAll turns).registry = t.registry.afterAll (tried turns) := by
  induction turns generalizing t with
  | nil => rfl
  | cons turn rest ih => cases turn <;> exact ih _

/-- The registry holds the groups of all registrations that succeeded, however the tour went. -/
theorem registry_tourAfter (earlier : List Registration) (turns : List Turn) :
    ((tourAfter earlier).afterAll turns).registry = groups (doneBy earlier turns) := by
  have hall : (tourAfter earlier).registry.afterAll (tried turns) =
      empty.afterAll (earlier ++ tried turns) := (afterAll_append earlier (tried turns) empty).symm
  rw [registry_afterAll, hall, (afterAll_groups _).1]
  rfl

/-- **Every turn keeps what is known of a tour.** -/
theorem toured_afterAll (earlier : List Registration) (turns : List Turn) :
    Toured earlier turns ((tourAfter earlier).afterAll turns).cursor
      ((tourAfter earlier).given turns) := by
  induction turns using List.reverseRecOn with
  | nil => exact .fresh List.not_mem_nil
  | append_singleton turns turn ih =>
      rw [Tour.afterAll_append, Tour.given_append]
      cases turn with
      | register c =>
          have hnothing : (tourAfter earlier).given turns ++
              ((tourAfter earlier).afterAll turns).given [.register c] =
                (tourAfter earlier).given turns := List.append_nil _
          rw [hnothing]
          exact ih.register c
      | next =>
          have hnext := ih.next
          rw [← registry_tourAfter] at hnext
          exact hnext

/-- Every step of a tour gives something. -/
theorem length_given (turns : List Turn) (t : Tour) :
    (t.given turns).length = turns.count .next := by
  induction turns generalizing t with
  | nil => rfl
  | cons turn rest ih =>
      cases turn with
      | register c => rw [List.count_cons_of_ne Turn.noConfusion]; exact ih _
      | next => rw [List.count_cons_self]; exact congrArg (· + 1) (ih _)

/-- What the next step gives as long as the tour is not finished. -/
theorem answer_unfinished (h : ∀ s ∈ (tourAfter earlier).given turns, s.ends = false) :
    ((tourAfter earlier).afterAll turns).answer =
      if metBy earlier (opening turns) = metBy earlier turns then
        match (metBy earlier turns)[((tourAfter earlier).given turns).length]? with
        | some kind => .collection (groupOf (doneBy earlier turns) kind)
        | none => .done
      else .changed := by
  have hnext := (toured_afterAll earlier turns).next_unfinished h
  unfold Tour.answer
  rw [registry_tourAfter, hnext]
  split
  · split <;> rfl
  · rfl

theorem answer_finished (h : ∃ s ∈ (tourAfter earlier).given turns, s.ends = true) :
    ((tourAfter earlier).afterAll turns).answer = .done := by
  unfold Tour.answer
  rw [(toured_afterAll earlier turns).next_finished h]

/-- A collection that is given is the group of its kind. -/
theorem eq_groupOf {c : Collection}
    (h : ((tourAfter earlier).afterAll turns).answer = .collection c) :
    c.kind ∈ metBy earlier turns ∧ c = groupOf (doneBy earlier turns) c.kind := by
  by_cases hopen : ∀ s ∈ (tourAfter earlier).given turns, s.ends = false
  · rw [answer_unfinished hopen] at h
    split at h
    · split at h
      · rename_i kind hkind
        cases h
        exact ⟨List.mem_of_getElem? hkind, rfl⟩
      · cases h
    · cases h
  · push Not at hopen
    obtain ⟨s, hs, hends⟩ := hopen
    rw [answer_finished ⟨s, hs, Bool.ne_false_iff.mp hends⟩] at h
    cases h

/-- **A step breaks the tour off exactly if the tour is not finished and a kind is new.** -/
theorem answer_changed_iff : ((tourAfter earlier).afterAll turns).answer = .changed ↔
    (∀ s ∈ (tourAfter earlier).given turns, s.ends = false) ∧
      ∃ kind ∈ metBy earlier turns, kind ∉ metBy earlier (opening turns) := by
  by_cases hopen : ∀ s ∈ (tourAfter earlier).given turns, s.ends = false
  · have hnew : metBy earlier (opening turns) ≠ metBy earlier turns ↔
        ∃ kind ∈ metBy earlier turns, kind ∉ metBy earlier (opening turns) := by
      rw [ne_eq, metBy_opening_eq_iff]
      push Not
      rfl
    rw [answer_unfinished hopen, ← hnew]
    split
    · rename_i hsame
      refine iff_of_false ?_ fun hboth => hboth.2 hsame
      split <;> exact Step.noConfusion
    · rename_i hne
      exact iff_of_true rfl ⟨hopen, hne⟩
  · refine iff_of_false (fun hchanged => ?_) fun hboth => hopen hboth.1
    push Not at hopen
    obtain ⟨s, hs, hends⟩ := hopen
    rw [answer_finished ⟨s, hs, Bool.ne_false_iff.mp hends⟩] at hchanged
    cases hchanged

/-- **A tour that ends by itself has given all kinds.** -/
theorem kindsGiven_of_done (hopen : ∀ s ∈ (tourAfter earlier).given turns, s.ends = false)
    (h : ((tourAfter earlier).afterAll turns).answer = .done) :
    kindsGiven ((tourAfter earlier).given turns) = metBy earlier turns := by
  rw [answer_unfinished hopen] at h
  split at h
  · rename_i hsame
    split at h
    · cases h
    · rename_i hnone
      rw [((toured_afterAll earlier turns).kindsGiven_eq hopen).1, hsame,
        List.take_of_length_le (List.getElem?_eq_none_iff.mp hnone)]
  · cases h

/-- **More steps than there are kinds end a tour** that is not broken off. -/
theorem done_mem_given (hunchanged : .changed ∉ (tourAfter earlier).given turns)
    (h : (metBy earlier (opening turns)).length < turns.count .next) :
    .done ∈ (tourAfter earlier).given turns ∧
      kindsGiven ((tourAfter earlier).given turns) = metBy earlier (opening turns) := by
  have htoured := toured_afterAll earlier turns
  rw [← length_given turns (tourAfter earlier)] at h
  generalize (tourAfter earlier).given turns = given at *
  generalize ((tourAfter earlier).afterAll turns).cursor = cursor at htoured
  cases htoured with
  | fresh => exact absurd h (Nat.not_lt_zero _)
  | running _ _ _ hle => exact absurd hle (Nat.not_le.mpr h)
  | finished _ hended _ hall =>
      refine ⟨?_, hall hunchanged⟩
      obtain ⟨s, hs, hends⟩ := hended
      cases s with
      | collection c => cases hends
      | done => exact hs
      | changed => exact absurd hs hunchanged

end Turns

/-! ## 4. Main result -/

/-- **A tour gives every kind once, in order and up to date, unless a kind is new since it began**,
    whatever registrations are tried before it, before its first step and between its steps. The
    collection that a step gives has the files registered under its kind by then, and what was given
    stays. A step breaks the tour off exactly if some kind was not there before the first step and
    the tour is not finished; from then on, as after its end, there is nothing more. A tour that ends
    by itself has given all kinds, and if it is not broken off so many steps as there are kinds and
    one more end it. -/
theorem tour_consistent (earlier : List Registration) (turns : List Turn) :
    let tour := tourAfter earlier
    let given := tour.given turns
    let now := tour.afterAll turns
    let done := doneBy earlier turns
    let kinds := kindsMet (·.kind) done
    let initial := kindsMet (·.kind) (doneBy earlier (opening turns))
    kindsGiven given <+: kinds ∧ (kindsGiven given).Nodup ∧
    (∀ c, now.answer = .collection c → c.kind ∈ kinds ∧ c.items = itemsUnder done c.kind ∧
      firstFolder done c.kind = some c.folder) ∧
    (∀ later, tour.given (turns ++ .next :: later) =
      given ++ now.answer :: (now.take .next).given later) ∧
    (now.answer = .changed ↔ (∀ s ∈ given, s.ends = false) ∧ ∃ kind ∈ kinds, kind ∉ initial) ∧
    ((∃ s ∈ given, s.ends = true) → now.answer = .done) ∧
    (now.answer = .done → (∀ s ∈ given, s.ends = false) → kindsGiven given = kinds) ∧
    (.changed ∉ given → initial.length < turns.count .next →
      .done ∈ given ∧ kindsGiven given = initial) := by
  intro tour given now done kinds initial
  have hfirst : kindsGiven given <+: kinds :=
    (toured_afterAll earlier turns).kindsGiven_isPrefix.trans (metBy_opening_isPrefix earlier turns)
  refine ⟨hfirst, (nodup_kindsMet _ done).sublist hfirst.sublist, fun c hc => ?_,
    fun later => tour.given_append turns (.next :: later), answer_changed_iff, answer_finished,
    fun hend hopen => kindsGiven_of_done hopen hend, done_mem_given⟩
  obtain ⟨hkind, hgroup⟩ := eq_groupOf hc
  refine ⟨hkind, congrArg Collection.items hgroup, ?_⟩
  obtain ⟨folder, hfolder⟩ := Option.ne_none_iff_exists'.mp (firstFolder_ne_none_iff.mpr hkind)
  have hc' : c.folder = (firstFolder done c.kind).getD "" := congrArg Collection.folder hgroup
  rw [hc', hfolder]
  rfl

/-- A command that is there before the tour. -/
def firstCommand : List Registration := [⟨.command, "commands", itemIn "commands" "a"⟩]

/-- A step, a second command, one that is refused, and two steps more. -/
def calmTurns : List Turn :=
  [.next, .register ⟨.command, "commands", itemIn "commands" "b"⟩,
    .register ⟨.command, "orders", itemIn "orders" "c"⟩, .next, .next]

/-- An event before the first step and a fault behind it. -/
def stirringTurns : List Turn :=
  [.register ⟨.event, "events", itemIn "events" "d"⟩, .next,
    .register ⟨.fault, "faults", itemIn "faults" "e"⟩]

/-- The tour that the commands leave alone ends by itself. The other one gives the command that was
    there, is broken off because of the fault and gives nothing more. -/
theorem tour_consistent_commands :
    (.done ∈ (tourAfter firstCommand).given calmTurns ∧
      kindsGiven ((tourAfter firstCommand).given calmTurns) = [.command]) ∧
    kindsGiven ((tourAfter firstCommand).given (calmTurns.take 1)) = [.command] ∧
    itemsUnder (doneBy firstCommand (stirringTurns.take 1)) .command = [itemIn "commands" "a"] ∧
    ((tourAfter firstCommand).afterAll stirringTurns).answer = .changed ∧
    ((tourAfter firstCommand).afterAll (stirringTurns ++ [.next])).answer = .done := by
  obtain ⟨_, _, _, _, _, _, _, hends⟩ := tour_consistent firstCommand calmTurns
  obtain ⟨_, _, _, _, _, _, hall, _⟩ := tour_consistent firstCommand (calmTurns.take 1)
  obtain ⟨_, _, hgives, _⟩ := tour_consistent firstCommand (stirringTurns.take 1)
  obtain ⟨_, _, _, _, hbreaks, _⟩ := tour_consistent firstCommand stirringTurns
  obtain ⟨_, _, _, _, _, hafter, _⟩ := tour_consistent firstCommand (stirringTurns ++ [.next])
  refine ⟨hends (by decide) (by decide), hall (by decide) (by decide), ?_, ?_, ?_⟩
  · exact (hgives ⟨.command, "commands", [itemIn "commands" "a"]⟩ (by decide)).2.1.symm
  · exact hbreaks.mpr ⟨by decide, .fault, by decide, by decide⟩
  · exact hafter ⟨.changed, by decide, rfl⟩

end Registry

end DomainGen
