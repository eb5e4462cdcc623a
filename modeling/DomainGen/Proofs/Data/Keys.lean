import DomainGen.Data.Basic
import DomainGen.Proofs.Number.Rounding
import Mathlib.Tactic.NormNum

/-!
# Equality of keys

Keys of a mapping are told apart by what they stand for: numbers by their value, whatever their kind,
moments with a distance from universal time by their instant, tuples item by item. So equality of keys
is an equivalence.

* `Data.isKey` : the values that can be keys;
* `KeyForm`, `Data.form` : what a key is told apart by;
* `sameKey_iff_form` : **two keys are the same exactly if their forms are**; `sameKey_refl`,
  `sameKey_symm`, `sameKey_congr` : what follows.
-/

namespace DomainGen

/-! ## 1. Numbers -/

namespace Binary64

/-- The magnitude with its sign. -/
def signedValue (negative : Bool) (m : Nat) (e : Int) : ℚ :=
  if negative then -magnitude m e else magnitude m e

/-- Two numbers are equal exactly if their values are. -/
theorem same_finite_iff {s t : Bool} {m n : Nat} {e f : Int} (hm : Fits m e) (hn : Fits n f) :
    (finite s m e).same (finite t n f) = true ↔ signedValue s m e = signedValue t n f := by
  have hzero : ∀ s m e, (finite s m e).isZero = true ↔ m = 0 := by
    intro s m e
    cases m <;> simp [isZero]
  simp only [same, Bool.or_eq_true, beq_iff_eq, Bool.and_eq_true, hzero, finite.injEq]
  constructor
  · rintro (⟨rfl, rfl, rfl⟩ | ⟨rfl, rfl⟩)
    · rfl
    · simp [signedValue, magnitude]
  · intro h
    have hp := magnitude_nonneg m e
    have hq := magnitude_nonneg n f
    -- of two opposite signs both magnitudes are zero
    have hboth : magnitude m e = magnitude n f ∧ (s = t ∨ magnitude m e = 0) := by
      unfold signedValue at h
      cases s <;> cases t <;> simp only [Bool.false_eq_true, if_true, if_false] at h <;>
        refine ⟨by linarith, ?_⟩ <;> first | exact .inl rfl | exact .inr (by linarith)
    obtain ⟨heq, hsign⟩ := hboth
    rcases hsign with hsign | hnull
    · exact .inl ⟨hsign, hm.ext hn heq⟩
    · exact .inr ⟨magnitude_eq_zero.mp hnull, magnitude_eq_zero.mp (heq ▸ hnull)⟩

/-- A number is equal to an integer exactly if its value is that integer. -/
theorem sameInt_finite_iff {s : Bool} {m : Nat} {e : Int} {i : Int} :
    (finite s m e).sameInt i = true ↔ signedValue s m e = (i : ℚ) := by
  have hden : ((ratio m e).2 : ℚ) ≠ 0 := Nat.cast_ne_zero.mpr (ratio_den_pos m e).ne'
  simp only [sameInt, beq_iff_eq, signedValue, magnitude_eq_ratio]
  cases s with
  | true =>
      rw [if_pos rfl, signed, if_pos rfl, ← neg_div, div_eq_iff hden]
      constructor
      · intro h
        have h' : (-((ratio m e).1 : ℤ) : ℚ) = i * (ratio m e).2 := by exact_mod_cast h
        push_cast at h'
        linarith
      · intro h
        have h' : -((ratio m e).1 : ℚ) = i * (ratio m e).2 := by linarith
        exact_mod_cast h'
  | false =>
      rw [if_neg Bool.false_ne_true, signed, if_neg Bool.false_ne_true, div_eq_iff hden]
      constructor
      · intro h
        exact_mod_cast h
      · intro h
        exact_mod_cast h

end Binary64

/-! ## 2. Forms -/

/-- What a number is told apart by. -/
inductive NumberForm where
  | value (v : ℚ)
  | infinity (negative : Bool)
  | nan (tag : Nat)

/-- What a key is told apart by. -/
inductive KeyForm where
  | noKey
  | null
  | number (x : NumberForm)
  | text (s : String)
  | bytes (bs : List UInt8)
  | date (d : Date)
  | moment (x : Moment ⊕ Int)
  | tuple (items : List KeyForm)

/-- What a number is told apart by. -/
def Binary64.form : Binary64 → NumberForm
  | .nan tag => .nan tag
  | .infinity negative => .infinity negative
  | .finite negative m e => .value (signedValue negative m e)

/-- What a moment is told apart by: its fields, or the instant. -/
def Moment.form (m : Moment) : Moment ⊕ Int :=
  match m.offset with
  | none => .inl m
  | some o => .inr (m.instant o)

namespace Data

mutual

/-- Can the value be a key? Its numbers are in the form of rounded numbers. -/
def isKey : Data → Bool
  | .float x => x.isFitting
  | .list _ => false
  | .set _ => false
  | .mapping _ => false
  | .tuple items => areKeys items
  | _ => true

/-- Can all of them be keys? -/
def areKeys : List Data → Bool
  | [] => true
  | x :: xs => isKey x && areKeys xs

end

mutual

/-- What a key is told apart by. Lists, sets and mappings are no keys. -/
def form : Data → KeyForm
  | .null => .null
  | .bool b => .number (.value (if b then 1 else 0))
  | .int i => .number (.value i)
  | .float x => .number x.form
  | .text s => .text s
  | .bytes bs => .bytes bs
  | .date d => .date d
  | .moment m => .moment m.form
  | .tuple items => .tuple (forms items)
  | .list _ => .noKey
  | .set _ => .noKey
  | .mapping _ => .noKey

/-- The forms of several keys. -/
def forms : List Data → List KeyForm
  | [] => []
  | x :: xs => form x :: forms xs

end

/-! ## 3. Equality -/

theorem sameKey_eq (x y : Data) : x.sameKey y = (sameNan x y || equal x y) := by
  unfold sameKey
  split
  · simp [sameNan, equal, equalScalar]
  · rfl

theorem same_moment_iff (a b : Moment) : a.same b = true ↔ a.form = b.form := by
  unfold Moment.same Moment.form
  cases a.offset <;> cases b.offset <;> simp

theorem same_float_iff {x y : Binary64} (hx : x.isFitting = true) (hy : y.isFitting = true) :
    (x.sameNan y || x.same y) = true ↔ x.form = y.form := by
  cases x with
  | nan s =>
      have hs : s ≠ 0 := bne_iff_ne.mp hx
      cases y <;> simp [Binary64.sameNan, Binary64.same, Binary64.form, hs]
  | infinity s => cases y <;> simp [Binary64.sameNan, Binary64.same, Binary64.form, Binary64.isZero]
  | finite s m e =>
      cases y with
      | finite t n f =>
          simp only [Binary64.sameNan, Bool.false_or, Binary64.form, NumberForm.value.injEq]
          exact Binary64.same_finite_iff (Binary64.isFitting_finite.mp hx)
            (Binary64.isFitting_finite.mp hy)
      | _ => simp [Binary64.sameNan, Binary64.same, Binary64.form, Binary64.isZero]

/-- A number is equal to an integer exactly if the integer is its value. -/
theorem sameInt_iff {x : Binary64} {i : Int} : x.sameInt i = true ↔ x.form = .value i := by
  cases x with
  | finite s m e =>
      simp only [Binary64.form, NumberForm.value.injEq, Binary64.sameInt_finite_iff]
  | _ => simp [Binary64.sameInt, Binary64.form]

theorem form_of_integer? : ∀ {x : Data} {i : Int}, x.integer? = some i →
    x.form = .number (.value i)
  | .bool b, i, h => by
      cases h
      cases b <;> simp [form]
  | .int j, i, h => by
      cases h
      rfl

theorem equal_of_integer? {x y : Data} {i j : Int} (hx : x.integer? = some i)
    (hy : y.integer? = some j) : (sameNan x y || equal x y) = true ↔ i = j := by
  cases x <;> cases y <;> cases hx <;> cases hy <;>
    simp [sameNan, equal, equalScalar, integer?]

/-- Keys of which at most one is a tuple. -/
theorem same_iff_form_scalar {x y : Data} (hx : x.isKey = true) (hy : y.isKey = true)
    (h : (∀ xs, x ≠ .tuple xs) ∨ ∀ ys, y ≠ .tuple ys) :
    (sameNan x y || equal x y) = true ↔ x.form = y.form := by
  have integers : ∀ {i j : Int}, x.integer? = some i → y.integer? = some j →
      ((sameNan x y || equal x y) = true ↔ x.form = y.form) := by
    intro i j hi hj
    rw [equal_of_integer? hi hj, form_of_integer? hi, form_of_integer? hj]
    simp
  cases x with
  | tuple xs =>
      have hy' := h.resolve_left fun hne => hne xs rfl
      cases y with
      | tuple ys => exact absurd rfl (hy' ys)
      | _ => simp [sameNan, equal, equalScalar, integer?, form]
  | float a =>
      cases y with
      | float b =>
          simp only [sameNan, equal, equalScalar, form, KeyForm.number.injEq]
          exact same_float_iff hx hy
      | bool b =>
          rw [form_of_integer? (x := .bool b) rfl]
          simp [sameNan, equal, equalScalar, integer?, form, sameInt_iff]
      | _ => simp [sameNan, equal, equalScalar, integer?, form, sameInt_iff]
  | int i =>
      cases y with
      | float b =>
          simp only [sameNan, equal, equalScalar, integer?, form, Bool.false_or, sameInt_iff,
            KeyForm.number.injEq]
          exact eq_comm
      | bool b => exact integers rfl rfl
      | _ => simp [sameNan, equal, equalScalar, integer?, form]
  | bool a =>
      cases y with
      | float b =>
          rw [form_of_integer? (x := .bool a) rfl]
          simp only [sameNan, equal, equalScalar, integer?, form, Bool.false_or, sameInt_iff,
            KeyForm.number.injEq]
          exact eq_comm
      | int j => exact integers rfl rfl
      | bool b => exact integers rfl rfl
      | _ => simp [sameNan, equal, equalScalar, integer?, form]
  | moment a =>
      cases y with
      | moment b => simp [sameNan, equal, equalScalar, form, same_moment_iff]
      | _ => simp [sameNan, equal, equalScalar, integer?, form]
  | _ =>
      first
      | cases hx; done
      | cases y <;> first | cases hy; done | simp [sameNan, equal, equalScalar, integer?, form]

mutual

/-- **Two keys are equal exactly if their forms are.** -/
theorem same_iff_form : ∀ {x y : Data}, x.isKey = true → y.isKey = true →
    ((sameNan x y || equal x y) = true ↔ x.form = y.form)
  | x, y, hx, hy => by
      cases x with
      | tuple xs =>
          cases y with
          | tuple ys =>
              simp only [sameNan, equal, form, Bool.false_or, KeyForm.tuple.injEq]
              exact equalItems_iff_forms hx hy
          | _ => exact same_iff_form_scalar hx hy (.inr fun _ h => nomatch h)
      | _ => exact same_iff_form_scalar hx hy (.inl fun _ h => nomatch h)

theorem equalItems_iff_forms : ∀ {xs ys : List Data}, areKeys xs = true → areKeys ys = true →
    (equalItems xs ys = true ↔ forms xs = forms ys)
  | [], [], _, _ => by simp [equalItems, forms]
  | [], _ :: _, _, _ => by simp [equalItems, forms]
  | _ :: _, [], _, _ => by simp [equalItems, forms]
  | x :: xs, y :: ys, hx, hy => by
      obtain ⟨hx, hxs⟩ := Bool.and_eq_true_iff.mp hx
      obtain ⟨hy, hys⟩ := Bool.and_eq_true_iff.mp hy
      rw [equalItems, Bool.and_eq_true, same_iff_form hx hy, equalItems_iff_forms hxs hys]
      simp only [forms, List.cons.injEq]

end

variable {x y z : Data}

/-- **Two keys are the same exactly if their forms are.** -/
theorem sameKey_iff_form (hx : x.isKey = true) (hy : y.isKey = true) :
    x.sameKey y = true ↔ x.form = y.form := by
  rw [sameKey_eq]
  exact same_iff_form hx hy

theorem sameKey_refl (hx : x.isKey = true) : x.sameKey x = true :=
  (sameKey_iff_form hx hx).mpr rfl

theorem sameKey_symm (hx : x.isKey = true) (hy : y.isKey = true) : x.sameKey y = y.sameKey x := by
  rw [Bool.eq_iff_iff, sameKey_iff_form hx hy, sameKey_iff_form hy hx]
  exact eq_comm

/-- The same keys are the same as the same keys. -/
theorem sameKey_congr (hx : x.isKey = true) (hy : y.isKey = true) (hz : z.isKey = true)
    (h : x.sameKey y = true) : x.sameKey z = y.sameKey z := by
  rw [Bool.eq_iff_iff, sameKey_iff_form hx hz, sameKey_iff_form hy hz,
    (sameKey_iff_form hx hy).mp h]

end Data

end DomainGen
