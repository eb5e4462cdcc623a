import Mathlib.Control.Functor
import Mathlib.Data.List.Forall2

/-!
# Results of checks in sequence

A sequence of checks succeeds exactly if every check in it does. Proofs about functions that read
or check something peel one check off at a time by these equivalences. How it can fail is known check
by check, too.

Two computations that differ in little are followed side by side. Their results are related if both
fail in the same way, or both give something and what they give is related (`Functor.Liftr`).

* `except_bind_eq_ok`, `mapM_eq_ok` : what a sequence of checks gives; `except_bind_eq_error`,
  `mapM_eq_error` : which of them fails;
* `FailsAs` : every failure of a check is of some kind; `Yields` : and whatever it gives, of another; a
  sequence of checks is followed check by check;
* `AgreeOn` : both give the same, and it is of some kind;
* `liftr_bind`, `liftr_map`, `liftr_mapM` : **related steps make related results**;
* `except_of_liftr`, `eq_of_agreeOn` : what related results say of each other.
-/

/-! ## 1. Sequences -/

namespace DomainGen

variable {ε α β : Type}

/-- Whether a sequence of checks gives something can be decided, however it may fail. -/
instance decidableEqOk [DecidableEq α] (x : Except ε α) (a : α) : Decidable (x = .ok a) :=
  match x with
  | .error _ => isFalse nofun
  | .ok b => decidable_of_iff (b = a) ⟨congrArg Except.ok, Except.ok.inj⟩

theorem except_bind_eq_ok {x : Except ε α} {f : α → Except ε β} {b : β} :
    x >>= f = .ok b ↔ ∃ a, x = .ok a ∧ f a = .ok b := by
  cases x with
  | error e =>
    constructor
    · intro h
      cases h
    · rintro ⟨a, ha, _⟩
      cases ha
  | ok a =>
    constructor
    · intro h
      exact ⟨a, rfl, h⟩
    · rintro ⟨_, ha, hf⟩
      cases ha
      exact hf

theorem except_map_eq_ok {x : Except ε α} {f : α → β} {b : β} :
    x.map f = .ok b ↔ ∃ a, x = .ok a ∧ f a = b := by
  cases x with
  | error e =>
    constructor
    · intro h
      cases h
    · rintro ⟨a, ha, _⟩
      cases ha
  | ok a =>
    constructor
    · intro h
      exact ⟨a, rfl, Except.ok.inj h⟩
    · rintro ⟨_, ha, hf⟩
      cases ha
      exact congrArg Except.ok hf

theorem except_map_eq_error {x : Except ε α} {f : α → β} {e : ε} :
    x.map f = .error e ↔ x = .error e := by
  cases x with
  | error e' =>
    constructor
    · intro h
      exact congrArg Except.error (Except.error.inj h)
    · intro h
      exact congrArg Except.error (Except.error.inj h)
  | ok a =>
    constructor
    · intro h
      cases h
    · intro h
      cases h

theorem except_mapError_eq_ok {ε' : Type} {f : ε → ε'} {x : Except ε α} {a : α} :
    x.mapError f = .ok a ↔ x = .ok a := by
  cases x with
  | error e =>
    constructor
    · intro h
      cases h
    · intro h
      cases h
  | ok b =>
    constructor
    · intro h
      exact congrArg Except.ok (Except.ok.inj h)
    · intro h
      exact congrArg Except.ok (Except.ok.inj h)

theorem except_mapError_eq_error {ε' : Type} {f : ε → ε'} {x : Except ε α} {e' : ε'} :
    x.mapError f = .error e' ↔ ∃ e, x = .error e ∧ f e = e' := by
  cases x with
  | error e =>
    constructor
    · intro h
      exact ⟨e, rfl, Except.error.inj h⟩
    · rintro ⟨_, he, hf⟩
      cases he
      exact congrArg Except.error hf
  | ok a =>
    constructor
    · intro h
      cases h
    · rintro ⟨_, he, _⟩
      cases he

/-- A sequence of two checks fails as the first does, or as the second does after the first succeeded. -/
theorem except_bind_eq_error {x : Except ε α} {f : α → Except ε β} {e : ε} :
    x >>= f = .error e ↔ x = .error e ∨ ∃ a, x = .ok a ∧ f a = .error e := by
  cases x with
  | error e' =>
    constructor
    · intro h
      exact .inl (congrArg Except.error (Except.error.inj h))
    · rintro (h | ⟨_, ha, _⟩)
      · exact congrArg Except.error (Except.error.inj h)
      · cases ha
  | ok a =>
    constructor
    · intro h
      exact .inr ⟨a, rfl, h⟩
    · rintro (h | ⟨_, ha, hf⟩)
      · cases h
      · cases ha
        exact hf

/-- A check that gives something succeeds. -/
theorem exists_ok_of_isSome {x : Except ε α} (h : x.toOption.isSome = true) : ∃ a, x = .ok a := by
  cases x with
  | error e => cases h
  | ok a => exact ⟨a, rfl⟩

/-- A check succeeds with what it gives. -/
theorem eq_ok_of_toOption {x : Except ε α} {a : α} (h : x.toOption = some a) : x = .ok a := by
  cases x with
  | error e => cases h
  | ok b => exact congrArg Except.ok (Option.some.inj h)

/-- The failure of a check that fails. -/
def failure? : Except ε α → Option ε
  | .error e => some e
  | .ok _ => none

/-- Checks of all items succeed exactly if each of them does. -/
theorem mapM_eq_ok {f : α → Except ε β} : ∀ {xs : List α} {ys : List β},
    xs.mapM f = .ok ys ↔ List.Forall₂ (fun x y => f x = .ok y) xs ys
  | [], ys => by
      rw [List.mapM_nil, List.forall₂_nil_left_iff]
      exact ⟨fun h => (Except.ok.inj h).symm, fun h => h ▸ rfl⟩
  | x :: xs, ys => by
      rw [List.mapM_cons, except_bind_eq_ok, List.forall₂_cons_left_iff]
      constructor
      · rintro ⟨y, hy, h⟩
        obtain ⟨rest, hrest, h⟩ := except_bind_eq_ok.mp h
        exact ⟨y, rest, hy, mapM_eq_ok.mp hrest, (Except.ok.inj h).symm⟩
      · rintro ⟨y, rest, hy, hrest, rfl⟩
        exact ⟨y, hy, except_bind_eq_ok.mpr ⟨rest, mapM_eq_ok.mpr hrest, rfl⟩⟩

/-- What the checks of all items give is given by some item. -/
theorem exists_of_mem_mapM {f : α → Except ε β} {xs : List α} {ys : List β}
    (h : xs.mapM f = .ok ys) {y : β} (hy : y ∈ ys) : ∃ x ∈ xs, f x = .ok y := by
  have hall := mapM_eq_ok.mp h
  clear h
  induction hall with
  | nil => cases hy
  | @cons x z xs _ hz _ ih =>
      rcases List.mem_cons.mp hy with rfl | hy
      · exact ⟨x, List.mem_cons_self, hz⟩
      · obtain ⟨w, hw, hgiven⟩ := ih hy
        exact ⟨w, List.mem_cons_of_mem x hw, hgiven⟩

/-- What the check of an item gives is among what the checks of all items give. -/
theorem exists_mem_of_mapM {f : α → Except ε β} {xs : List α} {ys : List β}
    (h : xs.mapM f = .ok ys) {x : α} (hx : x ∈ xs) : ∃ y ∈ ys, f x = .ok y := by
  have hall := mapM_eq_ok.mp h
  clear h
  induction hall with
  | nil => cases hx
  | @cons z y _ ys hy _ ih =>
      rcases List.mem_cons.mp hx with rfl | hx
      · exact ⟨y, List.mem_cons_self, hy⟩
      · obtain ⟨w, hw, hgiven⟩ := ih hx
        exact ⟨w, List.mem_cons_of_mem y hw, hgiven⟩

/-- Checks of all items give something exactly if each of them does. -/
theorem mapM_ok_iff {f : α → Except ε β} : ∀ {xs : List α},
    (∃ ys, xs.mapM f = .ok ys) ↔ ∀ x ∈ xs, ∃ y, f x = .ok y
  | [] => ⟨fun _ x hx => absurd hx List.not_mem_nil, fun _ => ⟨[], mapM_eq_ok.mpr .nil⟩⟩
  | x :: xs => by
      rw [List.forall_mem_cons, ← mapM_ok_iff]
      constructor
      · rintro ⟨ys, h⟩
        obtain ⟨y, rest, hy, hrest, _⟩ := List.forall₂_cons_left_iff.mp (mapM_eq_ok.mp h)
        exact ⟨⟨y, hy⟩, rest, mapM_eq_ok.mpr hrest⟩
      · rintro ⟨⟨y, hy⟩, rest, hrest⟩
        exact ⟨y :: rest, mapM_eq_ok.mpr (.cons hy (mapM_eq_ok.mp hrest))⟩

/-- Checks of all items fail as the first of them does that fails. -/
theorem mapM_eq_error {f : α → Except ε β} {e : ε} : ∀ {xs : List α},
    xs.mapM f = .error e ↔ ∃ done x rest, xs = done ++ x :: rest ∧
      (∀ y ∈ done, ∃ z, f y = .ok z) ∧ f x = .error e
  | [] => by
      rw [List.mapM_nil]
      constructor
      · intro h
        cases h
      · rintro ⟨done, x, rest, h, _⟩
        cases done <;> cases h
  | x :: xs => by
      rw [List.mapM_cons, except_bind_eq_error]
      constructor
      · rintro (h | ⟨z, hz, h⟩)
        · exact ⟨[], x, xs, rfl, fun _ hy => absurd hy List.not_mem_nil, h⟩
        · rcases except_bind_eq_error.mp h with h | ⟨_, _, h⟩
          · obtain ⟨done, y, rest, rfl, hdone, hy⟩ := mapM_eq_error.mp h
            exact ⟨x :: done, y, rest, rfl, List.forall_mem_cons.mpr ⟨⟨z, hz⟩, hdone⟩, hy⟩
          · cases h
      · rintro ⟨done, y, rest, heq, hdone, hy⟩
        cases done with
        | nil =>
            cases heq
            exact .inl hy
        | cons first done =>
            cases heq
            obtain ⟨⟨z, hz⟩, hdone⟩ := List.forall_mem_cons.mp hdone
            have hrest := mapM_eq_error.mpr ⟨done, y, rest, rfl, hdone, hy⟩
            exact .inr ⟨z, hz, except_bind_eq_error.mpr (.inl hrest)⟩

/-! ## 2. Failures -/

/-- Every failure of a check is of some kind. -/
def FailsAs (P : ε → Prop) (x : Except ε α) : Prop := ∀ e, x = .error e → P e

namespace FailsAs

variable {P : ε → Prop}

theorem ok (a : α) : FailsAs P (.ok a) := fun e h => by cases h

theorem error {e : ε} (he : P e) : FailsAs P (.error e : Except ε α) := fun e' h => by
  cases h
  exact he

/-- A sequence of checks fails as its checks do, the later ones after the earlier ones succeeded. -/
theorem bind_of_ok {x : Except ε α} {f : α → Except ε β} (hx : FailsAs P x)
    (hf : ∀ a, x = .ok a → FailsAs P (f a)) : FailsAs P (x >>= f) := by
  cases x with
  | error e => exact error (hx e rfl)
  | ok a => exact hf a rfl

theorem bind {x : Except ε α} {f : α → Except ε β} (hx : FailsAs P x) (hf : ∀ a, FailsAs P (f a)) :
    FailsAs P (x >>= f) := hx.bind_of_ok fun a _ => hf a

theorem map {x : Except ε α} (hx : FailsAs P x) (f : α → β) : FailsAs P (x.map f) := by
  cases x with
  | error e => exact error (hx e rfl)
  | ok a => exact ok (f a)

theorem mapError {ε' : Type} {x : Except ε' α} {f : ε' → ε} (hf : ∀ e, P (f e)) :
    FailsAs P (x.mapError f) := by
  cases x with
  | error e => exact error (hf e)
  | ok a => exact ok a

/-- Checks of all items fail as that of some item does. -/
theorem mapM {f : α → Except ε β} (hf : ∀ x, FailsAs P (f x)) : ∀ xs : List α,
    FailsAs P (xs.mapM f)
  | [] => ok []
  | x :: xs => by
      rw [List.mapM_cons]
      exact (hf x).bind fun y => (mapM hf xs).bind fun ys => ok (y :: ys)

end FailsAs

/-- Whatever a check gives is of one kind, and every failure of it is of another. -/
structure Yields (P : α → Prop) (Q : ε → Prop) (x : Except ε α) : Prop where
  gives : ∀ a, x = .ok a → P a
  fails : FailsAs Q x

namespace Yields

variable {P : α → Prop} {Q : ε → Prop}

theorem ok {a : α} (h : P a) : Yields P Q (.ok a) where
  gives := by
    rintro b hb
    cases hb
    exact h
  fails := FailsAs.ok a

theorem error {e : ε} (h : Q e) : Yields P Q (.error e) where
  gives := by
    rintro a ha
    cases ha
  fails := FailsAs.error h

/-- What is done with anything of the kind that a check gives. -/
theorem bind {R : β → Prop} {x : Except ε α} {f : α → Except ε β} (hx : Yields P Q x)
    (hf : ∀ a, P a → Yields R Q (f a)) : Yields R Q (x >>= f) := by
  cases x with
  | error e => exact error (hx.fails e rfl)
  | ok a => exact hf a (hx.gives a rfl)

theorem map {R : β → Prop} {x : Except ε α} {f : α → β} (hx : Yields P Q x)
    (hf : ∀ a, P a → R (f a)) : Yields R Q (x.map f) := by
  cases x with
  | error e => exact error (hx.fails e rfl)
  | ok a => exact ok (hf a (hx.gives a rfl))

theorem imp {Q' : ε → Prop} {x : Except ε α} (hx : Yields P Q x) (h : ∀ e, Q e → Q' e) :
    Yields P Q' x := ⟨hx.gives, fun e he => h e (hx.fails e he)⟩

/-- A check in two cases. -/
theorem ite {b : Prop} [Decidable b] {x y : Except ε α} (hx : b → Yields P Q x)
    (hy : ¬ b → Yields P Q y) : Yields P Q (if b then x else y) := by
  by_cases h : b
  · rw [if_pos h]
    exact hx h
  · rw [if_neg h]
    exact hy h

end Yields

end DomainGen

namespace DomainGen

open Functor

variable {F : Type → Type} [Monad F] {α β : Type} {R : α → α → Prop} {S : β → β → Prop}
  {P : α → Prop} {Q : β → Prop}

/-! ## 3. Related results -/

/-- Both give the same, and whatever it is, it is of some kind. -/
abbrev AgreeOn (P : α → Prop) (x y : F α) : Prop := Liftr (fun a b => a = b ∧ P a) x y

theorem eq_of_agreeOn {x y : F α} (h : AgreeOn P x y) : x = y := by
  obtain ⟨both, rfl, rfl⟩ := h
  exact map_congr fun p => p.2.1

/-- **Related results of checks**: the same failure, or successes with what is related. -/
theorem except_of_liftr {ε : Type} {x y : Except ε α} (h : Liftr R x y) :
    (∃ e, x = .error e ∧ y = .error e) ∨ ∃ a b, x = .ok a ∧ y = .ok b ∧ R a b := by
  obtain ⟨both, rfl, rfl⟩ := h
  cases both with
  | error e => exact .inl ⟨e, rfl, rfl⟩
  | ok p => exact .inr ⟨_, _, rfl, rfl, p.2⟩

/-- Related optional values: none, or two that are related. -/
theorem option_of_liftr {x y : Option α} (h : Liftr R x y) :
    (x = none ∧ y = none) ∨ ∃ a b, x = some a ∧ y = some b ∧ R a b := by
  obtain ⟨both, rfl, rfl⟩ := h
  cases both with
  | none => exact .inl ⟨rfl, rfl⟩
  | some p => exact .inr ⟨_, _, rfl, rfl, p.2⟩

/-- What both optional values are is of the kind. -/
theorem of_agreeOn_some {x y : Option α} (h : AgreeOn P x y) {a : α} (ha : x = some a) : P a := by
  obtain ⟨both, rfl, rfl⟩ := h
  obtain ⟨p, _, rfl⟩ := Option.map_eq_some_iff.mp ha
  exact p.2.2

/-! ## 4. Related steps -/

variable [LawfulMonad F]

theorem liftr_pure {a b : α} (h : R a b) : Liftr R (pure a : F α) (pure b) :=
  ⟨pure ⟨(a, b), h⟩, map_pure _ _, map_pure _ _⟩

/-- **Related results, used in related ways, make related results.** -/
theorem liftr_bind {x y : F α} {f g : α → F β} (h : Liftr R x y)
    (hfg : ∀ a b, R a b → Liftr S (f a) (g b)) : Liftr S (x >>= f) (y >>= g) := by
  obtain ⟨both, rfl, rfl⟩ := h
  choose next hfst hsnd using fun p : {p : α × α // R p.1 p.2} => hfg p.1.1 p.1.2 p.2
  refine ⟨both >>= next, ?_, ?_⟩
  · rw [map_bind, bind_map_left]
    exact congrArg (both >>= ·) (funext hfst)
  · rw [map_bind, bind_map_left]
    exact congrArg (both >>= ·) (funext hsnd)

theorem liftr_map {x y : F α} {f g : α → β} (h : Liftr R x y) (hfg : ∀ a b, R a b → S (f a) (g b)) :
    Liftr S (f <$> x) (g <$> y) := by
  rw [map_eq_pure_bind, map_eq_pure_bind]
  exact liftr_bind h fun a b hab => liftr_pure (hfg a b hab)

/-- What is done with each item of a list gives related lists if it is related for each item. -/
theorem liftr_mapM {γ : Type} {f g : γ → F α} : ∀ {xs : List γ}, (∀ x ∈ xs, Liftr R (f x) (g x)) →
    Liftr (List.Forall₂ R) (xs.mapM f) (xs.mapM g)
  | [], _ => by
      rw [List.mapM_nil, List.mapM_nil]
      exact liftr_pure .nil
  | x :: xs, h => by
      obtain ⟨hx, hxs⟩ := List.forall_mem_cons.mp h
      rw [List.mapM_cons, List.mapM_cons]
      exact liftr_bind hx fun a b hab => liftr_bind (liftr_mapM hxs) fun as bs habs =>
        liftr_pure (.cons hab habs)

theorem agreeOn_pure {a : α} (h : P a) : AgreeOn P (pure a : F α) (pure a) := liftr_pure ⟨rfl, h⟩

/-- A computation agrees with itself. -/
theorem agreeOn_self (x : F α) : AgreeOn (fun _ => True) x x :=
  ⟨(fun a => ⟨(a, a), rfl, trivial⟩) <$> x, by rw [← comp_map]; exact id_map x,
    by rw [← comp_map]; exact id_map x⟩

/-- What is the same is used in related ways. -/
theorem AgreeOn.bind {x y : F α} {f g : α → F β} (h : AgreeOn P x y)
    (hfg : ∀ a, P a → Liftr S (f a) (g a)) : Liftr S (x >>= f) (y >>= g) :=
  liftr_bind h fun a _ ⟨hab, ha⟩ => hab ▸ hfg a ha

/-- What is of some kind is of any kind that this implies. -/
theorem AgreeOn.imp {P' : α → Prop} {x y : F α} (h : AgreeOn P x y) (himp : ∀ a, P a → P' a) :
    AgreeOn P' x y := by
  rw [← bind_pure x, ← bind_pure y]
  exact h.bind fun a ha => agreeOn_pure (himp a ha)

theorem AgreeOn.map {x y : F α} {f : α → β} (h : AgreeOn P x y) (hf : ∀ a, P a → Q (f a)) :
    AgreeOn Q (f <$> x) (f <$> y) :=
  liftr_map h fun _ _ ⟨hab, ha⟩ => ⟨congrArg f hab, hf _ ha⟩

/-- A check agrees with itself on what it gives. -/
theorem agreeOn_of_ok {ε : Type} {x : Except ε α} (h : ∀ a, x = .ok a → P a) : AgreeOn P x x := by
  cases x with
  | error e => exact ⟨.error e, rfl, rfl⟩
  | ok a => exact agreeOn_pure (h a rfl)

/-- Failures that are put in other words stay the same. -/
theorem AgreeOn.mapError {ε ε' : Type} {x y : Except ε α} {f : ε → ε'} (h : AgreeOn P x y) :
    AgreeOn P (x.mapError f) (y.mapError f) := by
  rcases except_of_liftr h with ⟨e, rfl, rfl⟩ | ⟨a, _, rfl, rfl, rfl, ha⟩
  · exact ⟨.error (f e), rfl, rfl⟩
  · exact agreeOn_pure ha

/-- An optional value agrees with itself on what it is. -/
theorem agreeOn_of_some {x : Option α} (h : ∀ a, x = some a → P a) : AgreeOn P x x := by
  cases x with
  | none => exact ⟨none, rfl, rfl⟩
  | some a => exact agreeOn_pure (h a rfl)

end DomainGen
