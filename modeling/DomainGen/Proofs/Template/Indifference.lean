import DomainGen.Proofs.Except
import DomainGen.Proofs.Template.Unmarked
import DomainGen.Template.Preparation

/-!
# Expressions that do not mind escaping

Whether markup is escaped matters to an expression only where it puts texts together that may be
markup. An expression that makes no markup, or puts no texts together, has the same value in both
ways, unless it shows which template it stands in.

* `Expr.isIndifferent` : the check of an expression, read off its form;
* `Expr.eval_agree` : **an indifferent expression has the same value whether markup is escaped or
  not**, under any name of the template;
* `Expr.constant_agree`, `Expr.fold_agree`, `Expr.prepare_agree` : before rendering it becomes the same
  expression, and that is indifferent;
* `Expr.Outputs`, `Expr.Outputs.prepare_agree` : the same for outputs, where a choice needs no
  alternative.
-/

namespace DomainGen.Template

open Functor Value

/-! ## 1. The check -/

/-- There is no markup in the value, unless there may be some. -/
def Value.Within (marking : Bool) (v : Value) : Prop := marking = false → v.isMarkupFree = true

mutual

/-- Does the expression put no texts together, if there may be markup, and else make none? In both cases
    it must not name the template: neither itself nor by a choice that has no alternative. -/
def Expr.isIndifferent (marking : Bool) : Expr → Bool
  | .literal x => marking || x.isMarkupFree
  | .name n => n != "self"
  | .member e _ => e.isIndifferent marking
  | .item e k => e.isIndifferent marking && k.isIndifferent marking
  | .stretch a b c =>
    isIndifferentBound marking a && isIndifferentBound marking b && isIndifferentBound marking c
  | .call e args named =>
    e.isIndifferent marking && areIndifferent marking args && areIndifferentNamed marking named
  | .filter name e args named =>
    name != (if marking then "join" else "safe") && e.isIndifferent marking
      && areIndifferent marking args && areIndifferentNamed marking named
  | .test _ e args named =>
    e.isIndifferent marking && areIndifferent marking args && areIndifferentNamed marking named
  | .negation e => e.isIndifferent marking
  | .minus e => e.isIndifferent marking
  | .plus e => e.isIndifferent marking
  | .conjunction a b => a.isIndifferent marking && b.isIndifferent marking
  | .disjunction a b => a.isIndifferent marking && b.isIndifferent marking
  | .compare first rest => first.isIndifferent marking && areIndifferentCompared marking rest
  | .binary _ a b => a.isIndifferent marking && b.isIndifferent marking
  | .concatenation parts => !marking && areIndifferent marking parts
  | .choice value condition otherwise _ =>
    value.isIndifferent marking && condition.isIndifferent marking && otherwise.isSome
      && isIndifferentBound marking otherwise
  | .list items => areIndifferent marking items
  | .tuple items => areIndifferent marking items
  | .mapping entries => areIndifferentEntries marking entries

/-- `isIndifferent` of all of some expressions. -/
def areIndifferent (marking : Bool) : List Expr → Bool
  | [] => true
  | e :: rest => e.isIndifferent marking && areIndifferent marking rest

/-- `isIndifferent` of all of some named arguments. -/
def areIndifferentNamed (marking : Bool) : List (String × Expr) → Bool
  | [] => true
  | (_, e) :: rest => e.isIndifferent marking && areIndifferentNamed marking rest

/-- `isIndifferent` of all of some compared expressions. -/
def areIndifferentCompared (marking : Bool) : List (Comparison × Expr) → Bool
  | [] => true
  | (_, e) :: rest => e.isIndifferent marking && areIndifferentCompared marking rest

/-- `isIndifferent` of all of some entries. -/
def areIndifferentEntries (marking : Bool) : List (Expr × Expr) → Bool
  | [] => true
  | (k, v) :: rest =>
    k.isIndifferent marking && v.isIndifferent marking && areIndifferentEntries marking rest

/-- `isIndifferent` of an expression that may be missing. -/
def isIndifferentBound (marking : Bool) : Option Expr → Bool
  | none => true
  | some e => e.isIndifferent marking

end

variable {marking : Bool} {v w : Value}

theorem within_list {xs : List Value} (h : ∀ x ∈ xs, x.Within marking) :
    (Value.list xs).Within marking :=
  fun hmarking => areMarkupFree_iff.mpr fun x hx => h x hx hmarking

theorem within_tuple {xs : List Value} (h : ∀ x ∈ xs, x.Within marking) :
    (Value.tuple xs).Within marking :=
  fun hmarking => areMarkupFree_iff.mpr fun x hx => h x hx hmarking

theorem within_mapping {es : List (Value × Value)}
    (h : ∀ e ∈ es, e.1.Within marking ∧ e.2.Within marking) :
    (Value.mapping (ofPairs es)).Within marking :=
  fun hmarking => entriesAreMarkupFree_ofPairs fun e he =>
    ⟨(h e he).1 hmarking, (h e he).2 hmarking⟩

theorem within_call {args : List Value} {named : List (String × Value)} (hv : v.Within marking)
    (hargs : ∀ x ∈ args, x.Within marking) (hnamed : ∀ e ∈ named, e.2.Within marking)
    (h : v.call args named = .ok w) : w.Within marking := fun hmarking =>
  isMarkupFree_call (hv hmarking) (fun x hx => hargs x hx hmarking)
    (fun e he => hnamed e he hmarking) h

/-- **A filter that is indifferent gives the same in both ways.** -/
theorem applyFilter_agree {filter : String} (hfilter : (filter != if marking then "join" else "safe"))
    {args : List Value} {named : List (String × Value)} (hv : v.Within marking)
    (hargs : ∀ x ∈ args, x.Within marking) (hnamed : ∀ e ∈ named, e.2.Within marking) :
    AgreeOn (Value.Within marking) (applyFilter true filter v args named)
      (applyFilter false filter v args named) := by
  cases marking with
  | true =>
      rw [applyFilter_of_not_join (bne_iff_ne.mp hfilter)]
      exact agreeOn_of_ok fun w _ => fun h => by cases h
  | false =>
      have hsame := fun w => @applyFilter_markupFree v w filter (bne_iff_ne.mp hfilter) args named
        (hv rfl) (fun x hx => hargs x hx rfl) (fun e he => hnamed e he rfl)
      rw [(hsame .null).1]
      exact agreeOn_of_ok fun w hw _ => (hsame w).2 hw

/-! ## 2. Values -/

/-- One scope escapes markup and the other one does not; their names denote the same, which is no
    markup unless there may be some. -/
structure Scope.Twins (marking : Bool) (s s' : Scope) : Prop where
  escaping : s.escaping = true
  plain : s'.escaping = false
  names : s.names = s'.names
  within : ∀ e ∈ s.names, e.2.Within marking

variable {s s' : Scope}

theorem Scope.Twins.push (h : s.Twins marking s') {names : List (String × Value)}
    (hnames : ∀ e ∈ names, e.2.Within marking) : (s.push names).Twins marking (s'.push names) where
  escaping := h.escaping
  plain := h.plain
  names := congrArg (names ++ ·) h.names
  within := List.forall_mem_append.mpr ⟨hnames, h.within⟩

/-- A name other than that of the template denotes the same. -/
theorem Scope.Twins.lookup (h : s.Twins marking s') {name : String} (hname : name ≠ "self") :
    s.lookup name = s'.lookup name ∧ (s.lookup name).Within marking := by
  refine ⟨?_, fun hmarking => isMarkupFree_scopeLookup (fun e he => h.within e he hmarking) name⟩
  unfold Scope.lookup
  rw [h.names, if_neg fun hself => hname (eq_of_beq hself),
    if_neg fun hself => hname (eq_of_beq hself)]

/-- An item that is found by a single key. -/
theorem eval_item {e k : Expr} (hk : k.isStretch = false) :
    (Expr.item e k).eval s = e.eval s >>= fun v => k.eval s >>= v.item := by
  cases k with
  | stretch a b c => cases hk
  | _ =>
      rw [Expr.eval.eq_def]

mutual

/-- **An indifferent expression has the same value whether markup is escaped or not.** -/
theorem Expr.eval_agree (h : s.Twins marking s') : ∀ {e : Expr}, e.isIndifferent marking = true →
    AgreeOn (Value.Within marking) (e.eval s) (e.eval s')
  | .literal x, he => by
      rw [Expr.eval, Expr.eval]
      refine agreeOn_of_ok fun v hv hmarking => ?_
      split at hv <;> cases hv
      rw [hmarking] at he
      exact he
  | .name n, he => by
      obtain ⟨hsame, hwithin⟩ := h.lookup (bne_iff_ne.mp he)
      rw [Expr.eval, Expr.eval, ← hsame]
      exact agreeOn_pure hwithin
  | .member e n, he => by
      rw [Expr.eval, Expr.eval]
      exact (Expr.eval_agree h (e := e) he).bind fun v hv =>
        agreeOn_of_ok fun w hw hmarking => isMarkupFree_member (hv hmarking) hw
  | .item e k, he => by
      obtain ⟨he, hk⟩ := Bool.and_eq_true_iff.mp he
      have hvalue := Expr.eval_agree h he
      cases k with
      | stretch a b c =>
          obtain ⟨hab, hc⟩ := Bool.and_eq_true_iff.mp hk
          obtain ⟨ha, hb⟩ := Bool.and_eq_true_iff.mp hab
          rw [Expr.eval, Expr.eval]
          exact hvalue.bind fun v hv => (evalBound_agree h ha).bind fun start _ =>
            (evalBound_agree h hb).bind fun stop _ => (evalBound_agree h hc).bind fun step _ =>
              agreeOn_of_ok fun w hw hmarking => isMarkupFree_slice (hv hmarking) hw
      | _ =>
          rw [eval_item (e := e) rfl, eval_item (e := e) rfl]
          exact hvalue.bind fun v hv => (Expr.eval_agree h hk).bind fun key _ =>
            agreeOn_of_ok fun w hw hmarking => isMarkupFree_item (hv hmarking) hw
  | .stretch a b c, _ => by
      rw [Expr.eval, Expr.eval]
      exact agreeOn_of_ok fun v hv => by cases hv
  | .call e args named, he => by
      obtain ⟨hrest, hnamed⟩ := Bool.and_eq_true_iff.mp he
      obtain ⟨he, hargs⟩ := Bool.and_eq_true_iff.mp hrest
      rw [Expr.eval, Expr.eval]
      exact (Expr.eval_agree h he).bind fun v hv => (evalAll_agree h hargs).bind fun args hargs =>
        (evalNamed_agree h hnamed).bind fun named hnamed =>
          agreeOn_of_ok fun w hw => within_call hv hargs hnamed hw
  | .filter name e args named, he => by
      obtain ⟨hrest, hnamed⟩ := Bool.and_eq_true_iff.mp he
      obtain ⟨hrest, hargs⟩ := Bool.and_eq_true_iff.mp hrest
      obtain ⟨hname, he⟩ := Bool.and_eq_true_iff.mp hrest
      rw [Expr.eval, Expr.eval, h.escaping, h.plain]
      exact (Expr.eval_agree h he).bind fun v hv => (evalAll_agree h hargs).bind fun args hargs =>
        (evalNamed_agree h hnamed).bind fun named hnamed => applyFilter_agree hname hv hargs hnamed
  | .test name e args named, he => by
      obtain ⟨hrest, hnamed⟩ := Bool.and_eq_true_iff.mp he
      obtain ⟨he, hargs⟩ := Bool.and_eq_true_iff.mp hrest
      rw [Expr.eval, Expr.eval]
      exact (Expr.eval_agree h he).bind fun v _ => (evalAll_agree h hargs).bind fun args _ =>
        (evalNamed_agree h hnamed).bind fun named _ =>
          (agreeOn_self _).bind fun b _ =>
            agreeOn_pure fun _ => rfl
  | .negation e, he => by
      rw [Expr.eval, Expr.eval]
      exact (Expr.eval_agree h (e := e) he).bind fun v _ => agreeOn_pure fun _ => rfl
  | .minus e, he => by
      rw [Expr.eval, Expr.eval]
      exact (Expr.eval_agree h (e := e) he).bind fun v _ =>
        agreeOn_of_ok fun w hw _ => isMarkupFree_negate hw
  | .plus e, he => by
      rw [Expr.eval, Expr.eval]
      exact (Expr.eval_agree h (e := e) he).bind fun v _ =>
        agreeOn_of_ok fun w hw _ => isMarkupFree_affirm hw
  | .conjunction a b, he => by
      obtain ⟨ha, hb⟩ := Bool.and_eq_true_iff.mp he
      rw [Expr.eval, Expr.eval]
      refine (Expr.eval_agree h ha).bind fun v hv => ?_
      cases v.isTrue with
      | true => exact Expr.eval_agree h hb
      | false => exact agreeOn_pure hv
  | .disjunction a b, he => by
      obtain ⟨ha, hb⟩ := Bool.and_eq_true_iff.mp he
      rw [Expr.eval, Expr.eval]
      refine (Expr.eval_agree h ha).bind fun v hv => ?_
      cases v.isTrue with
      | true => exact agreeOn_pure hv
      | false => exact Expr.eval_agree h hb
  | .compare first rest, he => by
      obtain ⟨hfirst, hrest⟩ := Bool.and_eq_true_iff.mp he
      rw [Expr.eval, Expr.eval]
      exact (Expr.eval_agree h hfirst).bind fun v _ => evalChain_agree h hrest
  | .binary op a b, he => by
      obtain ⟨ha, hb⟩ := Bool.and_eq_true_iff.mp he
      rw [Expr.eval, Expr.eval]
      refine (Expr.eval_agree h ha).bind fun v hv => (Expr.eval_agree h hb).bind fun w hw => ?_
      cases op with
      | add => exact agreeOn_of_ok fun u hu hmarking => isMarkupFree_add (hv hmarking) (hw hmarking) hu
      | sub => exact agreeOn_of_ok fun u hu _ => isMarkupFree_subtract hu
  | .concatenation parts, he => by
      obtain ⟨hmarking, hparts⟩ := Bool.and_eq_true_iff.mp he
      have hmarking : marking = false := Bool.not_eq_true' _ ▸ hmarking
      rw [Expr.eval, Expr.eval]
      refine (evalAll_agree h hparts).bind fun vs hvs => ?_
      have hfree : ∀ x ∈ vs, x.isMarkupFree = true := fun x hx => hvs x hx hmarking
      rw [concatenate_markupFree hfree, concatenate_markupFree hfree]
      refine agreeOn_of_ok fun w hw _ => ?_
      obtain ⟨_, _, hw⟩ := except_bind_eq_ok.mp hw
      cases hw
      rfl
  | .choice value condition otherwise line, he => by
      obtain ⟨hrest, hotherwise⟩ := Bool.and_eq_true_iff.mp he
      obtain ⟨hrest, hsome⟩ := Bool.and_eq_true_iff.mp hrest
      obtain ⟨hvalue, hcondition⟩ := Bool.and_eq_true_iff.mp hrest
      cases otherwise with
      | none => cases hsome
      | some e =>
          rw [Expr.eval, Expr.eval]
          refine (Expr.eval_agree h hcondition).bind fun v _ => ?_
          cases v.isTrue with
          | true => exact Expr.eval_agree h hvalue
          | false => exact Expr.eval_agree h (e := e) hotherwise
  | .list items, he => by
      rw [Expr.eval, Expr.eval]
      exact (evalAll_agree h (l := items) he).bind fun vs hvs => agreeOn_pure (within_list hvs)
  | .tuple items, he => by
      rw [Expr.eval, Expr.eval]
      exact (evalAll_agree h (l := items) he).bind fun vs hvs => agreeOn_pure (within_tuple hvs)
  | .mapping entries, he => by
      rw [Expr.eval, Expr.eval]
      refine (evalEntries_agree h (l := entries) he).bind fun es hes => ?_
      split
      · exact agreeOn_pure (within_mapping hes)
      · exact agreeOn_of_ok fun w hw => by cases hw

theorem evalAll_agree (h : s.Twins marking s') : ∀ {l : List Expr}, areIndifferent marking l = true →
    AgreeOn (fun vs => ∀ v ∈ vs, v.Within marking) (evalAll s l) (evalAll s' l)
  | [], _ => by
      rw [evalAll, evalAll]
      exact agreeOn_pure fun _ hv => absurd hv List.not_mem_nil
  | e :: rest, he => by
      obtain ⟨he, hrest⟩ := Bool.and_eq_true_iff.mp he
      rw [evalAll, evalAll]
      exact (Expr.eval_agree h he).bind fun v hv => (evalAll_agree h hrest).bind fun vs hvs =>
        agreeOn_pure (List.forall_mem_cons.mpr ⟨hv, hvs⟩)

theorem evalNamed_agree (h : s.Twins marking s') : ∀ {l : List (String × Expr)},
    areIndifferentNamed marking l = true →
    AgreeOn (fun vs => ∀ e ∈ vs, e.2.Within marking) (evalNamed s l) (evalNamed s' l)
  | [], _ => by
      rw [evalNamed, evalNamed]
      exact agreeOn_pure fun _ hv => absurd hv List.not_mem_nil
  | (n, e) :: rest, he => by
      obtain ⟨he, hrest⟩ := Bool.and_eq_true_iff.mp he
      rw [evalNamed, evalNamed]
      exact (Expr.eval_agree h he).bind fun v hv => (evalNamed_agree h hrest).bind fun vs hvs =>
        agreeOn_pure (List.forall_mem_cons.mpr ⟨hv, hvs⟩)

theorem evalEntries_agree (h : s.Twins marking s') : ∀ {l : List (Expr × Expr)},
    areIndifferentEntries marking l = true →
    AgreeOn (fun vs => ∀ e ∈ vs, e.1.Within marking ∧ e.2.Within marking) (evalEntries s l)
      (evalEntries s' l)
  | [], _ => by
      rw [evalEntries, evalEntries]
      exact agreeOn_pure fun _ hv => absurd hv List.not_mem_nil
  | (k, e) :: rest, he => by
      obtain ⟨he, hrest⟩ := Bool.and_eq_true_iff.mp he
      obtain ⟨hk, he⟩ := Bool.and_eq_true_iff.mp he
      rw [evalEntries, evalEntries]
      exact (Expr.eval_agree h hk).bind fun key hkey => (Expr.eval_agree h he).bind fun v hv =>
        (evalEntries_agree h hrest).bind fun vs hvs =>
          agreeOn_pure (List.forall_mem_cons.mpr ⟨⟨hkey, hv⟩, hvs⟩)

theorem evalBound_agree (h : s.Twins marking s') : ∀ {e : Option Expr},
    isIndifferentBound marking e = true → AgreeOn (fun _ => True) (evalBound s e) (evalBound s' e)
  | none, _ => by
      rw [evalBound, evalBound]
      exact agreeOn_pure trivial
  | some e, he => by
      rw [evalBound, evalBound]
      exact (Expr.eval_agree h (e := e) he).bind fun v _ => agreeOn_pure trivial

theorem evalChain_agree (h : s.Twins marking s') : ∀ {l : List (Comparison × Expr)} {v : Value},
    areIndifferentCompared marking l = true →
    AgreeOn (Value.Within marking) (evalChain s v l) (evalChain s' v l)
  | [], v, _ => by
      rw [evalChain, evalChain]
      exact agreeOn_pure fun _ => rfl
  | (c, e) :: rest, v, he => by
      obtain ⟨he, hrest⟩ := Bool.and_eq_true_iff.mp he
      rw [evalChain, evalChain]
      refine (Expr.eval_agree h he).bind fun w _ =>
        (agreeOn_self _).bind fun holds _ => ?_
      cases holds with
      | true => exact evalChain_agree h hrest
      | false => exact agreeOn_pure fun _ => rfl

end

/-! ## 3. Constants -/

theorem toOption_agree {ε α : Type} {P : α → Prop} {x y : Except ε α} (h : AgreeOn P x y) :
    AgreeOn P x.toOption y.toOption := by
  rcases except_of_liftr h with ⟨f, rfl, rfl⟩ | ⟨a, _, rfl, rfl, rfl, ha⟩
  · exact ⟨none, rfl, rfl⟩
  · exact agreeOn_pure ha

/-- A constant item that is found by a single key. -/
theorem constant_item {escaping : Bool} {e k : Expr} (hk : k.isStretch = false) :
    (Expr.item e k).constant? escaping =
      e.constant? escaping >>= fun v => k.constant? escaping >>= fun key => (v.item key).toOption := by
  cases k with
  | stretch a b c => cases hk
  | _ => rw [Expr.constant?.eq_def]

theorem isMarkupFree_stretchOf {start stop step : Option Value} (h : v.isMarkupFree = true)
    (hw : stretchOf? v start stop step = some w) : w.isMarkupFree = true := by
  unfold stretchOf? at hw
  split at hw
  · cases hw
  · cases hw
  · split at hw
    · rename_i hslice
      cases hw
      exact isMarkupFree_slice h hslice
    · cases hw
      rfl

mutual

/-- **An indifferent expression is the same constant whether markup is escaped or not.** -/
theorem Expr.constant_agree : ∀ {e : Expr}, e.isIndifferent marking = true →
    AgreeOn (Value.Within marking) (e.constant? true) (e.constant? false)
  | .literal x, he => by
      rw [Expr.constant?, Expr.constant?]
      refine agreeOn_pure fun hmarking => ?_
      rw [hmarking] at he
      exact he
  | .name n, _ => by
      rw [Expr.constant?, Expr.constant?]
      exact agreeOn_of_some fun v hv => by cases hv
  | .member e n, he => by
      rw [Expr.constant?, Expr.constant?]
      exact (Expr.constant_agree (e := e) he).bind fun v hv =>
        toOption_agree (agreeOn_of_ok fun w hw hmarking => isMarkupFree_member (hv hmarking) hw)
  | .item e k, he => by
      obtain ⟨he, hk⟩ := Bool.and_eq_true_iff.mp he
      have hvalue := Expr.constant_agree he
      cases k with
      | stretch a b c =>
          obtain ⟨hab, hc⟩ := Bool.and_eq_true_iff.mp hk
          obtain ⟨ha, hb⟩ := Bool.and_eq_true_iff.mp hab
          rw [Expr.constant?, Expr.constant?]
          exact hvalue.bind fun v hv => (boundConstant_agree ha).bind fun start _ =>
            (boundConstant_agree hb).bind fun stop _ => (boundConstant_agree hc).bind fun step _ =>
              agreeOn_of_some fun w hw hmarking => isMarkupFree_stretchOf (hv hmarking) hw
      | _ =>
          rw [constant_item (e := e) rfl, constant_item (e := e) rfl]
          exact hvalue.bind fun v hv => (Expr.constant_agree hk).bind fun key _ =>
            toOption_agree (agreeOn_of_ok fun w hw hmarking => isMarkupFree_item (hv hmarking) hw)
  | .stretch a b c, _ => by
      rw [Expr.constant?, Expr.constant?]
      exact agreeOn_of_some fun v hv => by cases hv
  | .call e args named, _ => by
      rw [Expr.constant?, Expr.constant?]
      exact agreeOn_of_some fun v hv => by cases hv
  | .filter name e args named, he => by
      obtain ⟨hrest, hnamed⟩ := Bool.and_eq_true_iff.mp he
      obtain ⟨hrest, hargs⟩ := Bool.and_eq_true_iff.mp hrest
      obtain ⟨hname, he⟩ := Bool.and_eq_true_iff.mp hrest
      rw [Expr.constant?, Expr.constant?]
      exact (constants_agree hargs).bind fun args hargs =>
        (namedConstants_agree hnamed).bind fun named hnamed =>
          (Expr.constant_agree he).bind fun v hv =>
            toOption_agree (applyFilter_agree hname hv hargs hnamed)
  | .test name e args named, he => by
      obtain ⟨hrest, hnamed⟩ := Bool.and_eq_true_iff.mp he
      obtain ⟨he, hargs⟩ := Bool.and_eq_true_iff.mp hrest
      rw [Expr.constant?, Expr.constant?]
      refine (constants_agree hargs).bind fun args _ => (namedConstants_agree hnamed).bind fun named _ =>
        (Expr.constant_agree he).bind fun v _ => agreeOn_of_some fun w hw _ => ?_
      obtain ⟨b, _, rfl⟩ := Option.map_eq_some_iff.mp hw
      rfl
  | .negation e, he => by
      rw [Expr.constant?, Expr.constant?]
      exact (Expr.constant_agree (e := e) he).map fun v _ _ => rfl
  | .minus e, he => by
      rw [Expr.constant?, Expr.constant?]
      exact (Expr.constant_agree (e := e) he).bind fun v _ =>
        toOption_agree (agreeOn_of_ok fun w hw _ => isMarkupFree_negate hw)
  | .plus e, he => by
      rw [Expr.constant?, Expr.constant?]
      exact (Expr.constant_agree (e := e) he).bind fun v _ =>
        toOption_agree (agreeOn_of_ok fun w hw _ => isMarkupFree_affirm hw)
  | .conjunction a b, he => by
      obtain ⟨ha, hb⟩ := Bool.and_eq_true_iff.mp he
      rw [Expr.constant?, Expr.constant?]
      refine (Expr.constant_agree ha).bind fun v hv => ?_
      cases v.isTrue with
      | true => exact Expr.constant_agree hb
      | false => exact agreeOn_pure hv
  | .disjunction a b, he => by
      obtain ⟨ha, hb⟩ := Bool.and_eq_true_iff.mp he
      rw [Expr.constant?, Expr.constant?]
      refine (Expr.constant_agree ha).bind fun v hv => ?_
      cases v.isTrue with
      | true => exact agreeOn_pure hv
      | false => exact Expr.constant_agree hb
  | .compare first rest, he => by
      obtain ⟨hfirst, hrest⟩ := Bool.and_eq_true_iff.mp he
      rw [Expr.constant?, Expr.constant?]
      exact (Expr.constant_agree hfirst).bind fun v _ => chainConstant_agree hrest
  | .binary op a b, he => by
      obtain ⟨ha, hb⟩ := Bool.and_eq_true_iff.mp he
      rw [Expr.constant?, Expr.constant?]
      refine (Expr.constant_agree ha).bind fun v hv => (Expr.constant_agree hb).bind fun w hw => ?_
      cases op with
      | add =>
          exact toOption_agree (agreeOn_of_ok fun u hu hmarking =>
            isMarkupFree_add (hv hmarking) (hw hmarking) hu)
      | sub => exact toOption_agree (agreeOn_of_ok fun u hu _ => isMarkupFree_subtract hu)
  | .concatenation parts, he => by
      obtain ⟨_, hparts⟩ := Bool.and_eq_true_iff.mp he
      rw [Expr.constant?, Expr.constant?]
      refine (constants_agree hparts).bind fun vs _ => agreeOn_of_some fun w hw _ => ?_
      obtain ⟨_, _, hw⟩ := Option.bind_eq_some_iff.mp hw
      cases hw
      rfl
  | .choice value condition otherwise line, he => by
      obtain ⟨hrest, hotherwise⟩ := Bool.and_eq_true_iff.mp he
      obtain ⟨hrest, hsome⟩ := Bool.and_eq_true_iff.mp hrest
      obtain ⟨hvalue, hcondition⟩ := Bool.and_eq_true_iff.mp hrest
      cases otherwise with
      | none => cases hsome
      | some e =>
          rw [Expr.constant?, Expr.constant?]
          refine (Expr.constant_agree hcondition).bind fun v _ => ?_
          cases v.isTrue with
          | true => exact Expr.constant_agree hvalue
          | false => exact Expr.constant_agree (e := e) hotherwise
  | .list items, he => by
      rw [Expr.constant?, Expr.constant?]
      exact (constants_agree (l := items) he).map fun vs hvs => within_list hvs
  | .tuple items, he => by
      rw [Expr.constant?, Expr.constant?]
      exact (constants_agree (l := items) he).map fun vs hvs => within_tuple hvs
  | .mapping entries, he => by
      rw [Expr.constant?, Expr.constant?]
      refine (entryConstants_agree (l := entries) he).bind fun es hes => ?_
      split
      · exact agreeOn_pure (within_mapping hes)
      · exact agreeOn_of_some fun w hw => by cases hw

theorem constants_agree : ∀ {l : List Expr}, areIndifferent marking l = true →
    AgreeOn (fun vs => ∀ v ∈ vs, v.Within marking) (constants true l) (constants false l)
  | [], _ => by
      rw [constants, constants]
      exact agreeOn_pure fun _ hv => absurd hv List.not_mem_nil
  | e :: rest, he => by
      obtain ⟨he, hrest⟩ := Bool.and_eq_true_iff.mp he
      rw [constants, constants]
      exact (Expr.constant_agree he).bind fun v hv => (constants_agree hrest).bind fun vs hvs =>
        agreeOn_pure (List.forall_mem_cons.mpr ⟨hv, hvs⟩)

theorem namedConstants_agree : ∀ {l : List (String × Expr)}, areIndifferentNamed marking l = true →
    AgreeOn (fun vs => ∀ e ∈ vs, e.2.Within marking) (namedConstants true l)
      (namedConstants false l)
  | [], _ => by
      rw [namedConstants, namedConstants]
      exact agreeOn_pure fun _ hv => absurd hv List.not_mem_nil
  | (n, e) :: rest, he => by
      obtain ⟨he, hrest⟩ := Bool.and_eq_true_iff.mp he
      rw [namedConstants, namedConstants]
      refine (Expr.constant_agree he).bind fun v hv => (namedConstants_agree hrest).bind fun vs hvs => ?_
      refine agreeOn_pure ?_
      split
      · exact hvs
      · exact List.forall_mem_cons.mpr ⟨hv, hvs⟩

theorem entryConstants_agree : ∀ {l : List (Expr × Expr)}, areIndifferentEntries marking l = true →
    AgreeOn (fun vs => ∀ e ∈ vs, e.1.Within marking ∧ e.2.Within marking) (entryConstants true l)
      (entryConstants false l)
  | [], _ => by
      rw [entryConstants, entryConstants]
      exact agreeOn_pure fun _ hv => absurd hv List.not_mem_nil
  | (k, e) :: rest, he => by
      obtain ⟨he, hrest⟩ := Bool.and_eq_true_iff.mp he
      obtain ⟨hk, he⟩ := Bool.and_eq_true_iff.mp he
      rw [entryConstants, entryConstants]
      exact (Expr.constant_agree hk).bind fun key hkey => (Expr.constant_agree he).bind fun v hv =>
        (entryConstants_agree hrest).bind fun vs hvs =>
          agreeOn_pure (List.forall_mem_cons.mpr ⟨⟨hkey, hv⟩, hvs⟩)

theorem boundConstant_agree : ∀ {e : Option Expr}, isIndifferentBound marking e = true →
    AgreeOn (fun _ => True) (boundConstant true e) (boundConstant false e)
  | none, _ => by
      rw [boundConstant, boundConstant]
      exact agreeOn_pure trivial
  | some e, he => by
      rw [boundConstant, boundConstant]
      exact (Expr.constant_agree (e := e) he).map fun v _ => trivial

theorem chainConstant_agree : ∀ {l : List (Comparison × Expr)} {v : Value},
    areIndifferentCompared marking l = true →
    AgreeOn (Value.Within marking) (chainConstant true v l) (chainConstant false v l)
  | [], v, _ => by
      rw [chainConstant, chainConstant]
      exact agreeOn_pure fun _ => rfl
  | (c, e) :: rest, v, he => by
      obtain ⟨he, hrest⟩ := Bool.and_eq_true_iff.mp he
      rw [chainConstant, chainConstant]
      refine (Expr.constant_agree he).bind fun w _ =>
        (agreeOn_self _).bind fun holds _ => ?_
      cases holds with
      | true => exact chainConstant_agree hrest
      | false => exact agreeOn_pure fun _ => rfl

end

/-! ## 4. Folding -/

theorem leadingConstants_eq {l : List Expr} (he : areIndifferent marking l = true) :
    leadingConstants true l = leadingConstants false l := by
  induction l with
  | nil => rfl
  | cons e rest ih =>
      obtain ⟨he, hrest⟩ := Bool.and_eq_true_iff.mp he
      have hconstant := eq_of_agreeOn (Expr.constant_agree he)
      have ih := ih hrest
      unfold leadingConstants at ih ⊢
      rw [List.map_cons, List.map_cons, List.takeWhile_cons, List.takeWhile_cons, hconstant]
      cases e.constant? false with
      | none => simp only [Option.isSome_none, Bool.false_eq_true, if_false]
      | some v =>
          rw [if_pos Option.isSome_some, if_pos Option.isSome_some,
            List.filterMap_cons_some (f := id) rfl, List.filterMap_cons_some (f := id) rfl, ih]

theorem leadingKeys_eq {l : List (Expr × Expr)} (he : areIndifferentEntries marking l = true) :
    leadingKeys true l = leadingKeys false l := by
  induction l with
  | nil => rfl
  | cons e rest ih =>
      obtain ⟨k, e⟩ := e
      obtain ⟨he, hrest⟩ := Bool.and_eq_true_iff.mp he
      obtain ⟨hk, he⟩ := Bool.and_eq_true_iff.mp he
      have hkey := eq_of_agreeOn (Expr.constant_agree hk)
      have hvalue := eq_of_agreeOn (Expr.constant_agree he)
      have ih := ih hrest
      unfold leadingKeys at ih ⊢
      dsimp only at ih ⊢
      rw [List.takeWhile_cons, List.takeWhile_cons, hkey, hvalue]
      cases hfirst : k.constant? false with
      | none => simp only [Option.isSome_none, Bool.false_and, Bool.false_eq_true, if_false,
          List.filterMap_nil]
      | some v =>
          cases e.constant? false with
          | none => simp only [Option.isSome_none, Bool.and_false, Bool.false_eq_true, if_false,
              List.filterMap_nil]
          | some w => simp only [Option.isSome_some, Bool.and_self, if_true, List.filterMap_cons, hkey,
              hfirst, ih]

/-- The check of a folded expression: constants in a row have a text, constant keys are keys. -/
def Expr.checkConstants (escaping : Bool) : Expr → Except Fault Unit
  | .concatenation parts =>
    if !(leadingConstants escaping parts).all Value.hasText then .error .badValue else .ok ()
  | .mapping entries =>
    if !(leadingKeys escaping entries).all Value.hashable then .error .wrongKind else .ok ()
  | _ => .ok ()

/-- What a folded expression becomes: its value, if that can stand in an expression, or itself. -/
def Expr.settled (escaping : Bool) (e : Expr) : Expr :=
  match e.constant? escaping with
  | some v => if v.isLiteral then .literal v else e
  | none => e

theorem Expr.settle_eq (escaping : Bool) (e : Expr) :
    e.settle escaping = e.checkConstants escaping >>= fun _ => .ok (e.settled escaping) := by
  unfold Expr.settle Expr.checkConstants Expr.settled
  cases e.constant? escaping with
  | none | some v =>
      dsimp only
      cases e with
      | concatenation parts | mapping entries =>
          dsimp only
          split <;> rfl
      | _ => rfl

/-- **An expression settles in both ways as the same one** if it has the same constants in both: as
    itself, or as a literal. -/
theorem Expr.settle_of_constants {P : Expr → Prop} {e : Expr}
    (hconstant : AgreeOn (Value.Within marking) (e.constant? true) (e.constant? false))
    (hcheck : e.checkConstants true = e.checkConstants false) (he : P e)
    (hliteral : ∀ v : Value, v.Within marking → P (.literal v)) :
    AgreeOn P (e.settle true) (e.settle false) := by
  have hsame := eq_of_agreeOn hconstant
  have hsettled : e.settled true = e.settled false := by
    unfold Expr.settled
    rw [hsame]
  have hkept : P (e.settled false) := by
    rw [hsame] at hconstant
    unfold Expr.settled
    cases hv : e.constant? false with
    | none => exact he
    | some v =>
        dsimp only
        split
        · exact hliteral v (of_agreeOn_some hconstant hv)
        · exact he
  rw [Expr.settle_eq, Expr.settle_eq, hcheck, hsettled]
  refine agreeOn_of_ok fun e' h => ?_
  obtain ⟨_, _, h⟩ := except_bind_eq_ok.mp h
  cases h
  exact hkept

/-- A literal that is within is indifferent. -/
theorem isIndifferent_literal (hv : v.Within marking) :
    (Expr.literal v).isIndifferent marking = true := by
  cases marking with
  | true => rfl
  | false => exact hv rfl

/-- An indifferent expression settles in both ways as the same one, and that is indifferent. -/
theorem Expr.settle_agree {e : Expr} (he : e.isIndifferent marking = true) :
    AgreeOn (fun e => e.isIndifferent marking = true) (e.settle true) (e.settle false) := by
  refine Expr.settle_of_constants (Expr.constant_agree he) ?_ he fun v => isIndifferent_literal
  cases e with
  | concatenation parts =>
      unfold Expr.checkConstants
      dsimp only
      rw [leadingConstants_eq (Bool.and_eq_true_iff.mp he).2]
  | mapping entries =>
      unfold Expr.checkConstants
      dsimp only
      rw [leadingKeys_eq (l := entries) he]
  | _ => rfl

mutual

/-- **An indifferent expression is folded in both ways to the same one**, and that is indifferent. -/
theorem Expr.fold_agree : ∀ {e : Expr}, e.isIndifferent marking = true →
    AgreeOn (fun e => e.isIndifferent marking = true) (e.fold true) (e.fold false)
  | .literal x, he => by
      rw [Expr.fold, Expr.fold]
      exact agreeOn_pure he
  | .name n, he => by
      rw [Expr.fold, Expr.fold]
      exact agreeOn_pure he
  | .member e n, he => by
      rw [Expr.fold, Expr.fold]
      exact (Expr.fold_agree (e := e) he).bind fun e he => Expr.settle_agree he
  | .item e k, he => by
      obtain ⟨he, hk⟩ := Bool.and_eq_true_iff.mp he
      rw [Expr.fold, Expr.fold]
      exact (Expr.fold_agree he).bind fun e he => (Expr.fold_agree hk).bind fun k hk =>
        Expr.settle_agree (Bool.and_eq_true_iff.mpr ⟨he, hk⟩)
  | .stretch a b c, he => by
      obtain ⟨hab, hc⟩ := Bool.and_eq_true_iff.mp he
      obtain ⟨ha, hb⟩ := Bool.and_eq_true_iff.mp hab
      rw [Expr.fold, Expr.fold]
      exact (foldBound_agree ha).bind fun a ha => (foldBound_agree hb).bind fun b hb =>
        (foldBound_agree hc).bind fun c hc => agreeOn_pure
          (Bool.and_eq_true_iff.mpr ⟨Bool.and_eq_true_iff.mpr ⟨ha.1, hb.1⟩, hc.1⟩)
  | .call e args named, he => by
      obtain ⟨hrest, hnamed⟩ := Bool.and_eq_true_iff.mp he
      obtain ⟨he, hargs⟩ := Bool.and_eq_true_iff.mp hrest
      rw [Expr.fold, Expr.fold]
      exact (Expr.fold_agree he).bind fun e he => (foldAll_agree hargs).bind fun args hargs =>
        (foldNamed_agree hnamed).bind fun named hnamed => agreeOn_pure
          (Bool.and_eq_true_iff.mpr ⟨Bool.and_eq_true_iff.mpr ⟨he, hargs⟩, hnamed⟩)
  | .filter name e args named, he => by
      obtain ⟨hrest, hnamed⟩ := Bool.and_eq_true_iff.mp he
      obtain ⟨hrest, hargs⟩ := Bool.and_eq_true_iff.mp hrest
      obtain ⟨hname, he⟩ := Bool.and_eq_true_iff.mp hrest
      rw [Expr.fold, Expr.fold]
      exact (Expr.fold_agree he).bind fun e he => (foldAll_agree hargs).bind fun args hargs =>
        (foldNamed_agree hnamed).bind fun named hnamed => Expr.settle_agree
          (Bool.and_eq_true_iff.mpr ⟨Bool.and_eq_true_iff.mpr
            ⟨Bool.and_eq_true_iff.mpr ⟨hname, he⟩, hargs⟩, hnamed⟩)
  | .test name e args named, he => by
      obtain ⟨hrest, hnamed⟩ := Bool.and_eq_true_iff.mp he
      obtain ⟨he, hargs⟩ := Bool.and_eq_true_iff.mp hrest
      rw [Expr.fold, Expr.fold]
      exact (Expr.fold_agree he).bind fun e he => (foldAll_agree hargs).bind fun args hargs =>
        (foldNamed_agree hnamed).bind fun named hnamed => Expr.settle_agree
          (Bool.and_eq_true_iff.mpr ⟨Bool.and_eq_true_iff.mpr ⟨he, hargs⟩, hnamed⟩)
  | .negation e, he => by
      rw [Expr.fold, Expr.fold]
      exact (Expr.fold_agree (e := e) he).bind fun e he => Expr.settle_agree he
  | .minus e, he => by
      rw [Expr.fold, Expr.fold]
      exact (Expr.fold_agree (e := e) he).bind fun e he => Expr.settle_agree he
  | .plus e, he => by
      rw [Expr.fold, Expr.fold]
      exact (Expr.fold_agree (e := e) he).bind fun e he => Expr.settle_agree he
  | .conjunction a b, he => by
      obtain ⟨ha, hb⟩ := Bool.and_eq_true_iff.mp he
      rw [Expr.fold, Expr.fold]
      exact (Expr.fold_agree ha).bind fun a ha => (Expr.fold_agree hb).bind fun b hb =>
        Expr.settle_agree (Bool.and_eq_true_iff.mpr ⟨ha, hb⟩)
  | .disjunction a b, he => by
      obtain ⟨ha, hb⟩ := Bool.and_eq_true_iff.mp he
      rw [Expr.fold, Expr.fold]
      exact (Expr.fold_agree ha).bind fun a ha => (Expr.fold_agree hb).bind fun b hb =>
        Expr.settle_agree (Bool.and_eq_true_iff.mpr ⟨ha, hb⟩)
  | .compare first rest, he => by
      obtain ⟨hfirst, hrest⟩ := Bool.and_eq_true_iff.mp he
      rw [Expr.fold, Expr.fold]
      exact (Expr.fold_agree hfirst).bind fun first hfirst => (foldCompared_agree hrest).bind
        fun rest hrest => Expr.settle_agree (Bool.and_eq_true_iff.mpr ⟨hfirst, hrest⟩)
  | .binary op a b, he => by
      obtain ⟨ha, hb⟩ := Bool.and_eq_true_iff.mp he
      rw [Expr.fold, Expr.fold]
      exact (Expr.fold_agree ha).bind fun a ha => (Expr.fold_agree hb).bind fun b hb =>
        Expr.settle_agree (Bool.and_eq_true_iff.mpr ⟨ha, hb⟩)
  | .concatenation parts, he => by
      obtain ⟨hmarking, hparts⟩ := Bool.and_eq_true_iff.mp he
      rw [Expr.fold, Expr.fold]
      exact (foldAll_agree hparts).bind fun parts hparts =>
        Expr.settle_agree (Bool.and_eq_true_iff.mpr ⟨hmarking, hparts⟩)
  | .choice value condition otherwise line, he => by
      obtain ⟨hrest, hotherwise⟩ := Bool.and_eq_true_iff.mp he
      obtain ⟨hrest, hsome⟩ := Bool.and_eq_true_iff.mp hrest
      obtain ⟨hvalue, hcondition⟩ := Bool.and_eq_true_iff.mp hrest
      rw [Expr.fold, Expr.fold]
      exact (Expr.fold_agree hcondition).bind fun condition hcondition =>
        (Expr.fold_agree hvalue).bind fun value hvalue =>
          (foldBound_agree hotherwise).bind fun other hother => Expr.settle_agree
            (Bool.and_eq_true_iff.mpr ⟨Bool.and_eq_true_iff.mpr
              ⟨Bool.and_eq_true_iff.mpr ⟨hvalue, hcondition⟩, hother.2.trans hsome⟩, hother.1⟩)
  | .list items, he => by
      rw [Expr.fold, Expr.fold]
      exact (foldAll_agree (l := items) he).bind fun items he => Expr.settle_agree he
  | .tuple items, he => by
      rw [Expr.fold, Expr.fold]
      exact (foldAll_agree (l := items) he).bind fun items he => Expr.settle_agree he
  | .mapping entries, he => by
      rw [Expr.fold, Expr.fold]
      exact (foldEntries_agree (l := entries) he).bind fun entries he => Expr.settle_agree he

theorem foldAll_agree : ∀ {l : List Expr}, areIndifferent marking l = true →
    AgreeOn (fun l => areIndifferent marking l = true) (foldAll true l) (foldAll false l)
  | [], _ => by
      rw [foldAll, foldAll]
      exact agreeOn_pure rfl
  | e :: rest, he => by
      obtain ⟨he, hrest⟩ := Bool.and_eq_true_iff.mp he
      rw [foldAll, foldAll]
      exact (Expr.fold_agree he).bind fun e he => (foldAll_agree hrest).bind fun rest hrest =>
        agreeOn_pure (Bool.and_eq_true_iff.mpr ⟨he, hrest⟩)

theorem foldNamed_agree : ∀ {l : List (String × Expr)}, areIndifferentNamed marking l = true →
    AgreeOn (fun l => areIndifferentNamed marking l = true) (foldNamed true l) (foldNamed false l)
  | [], _ => by
      rw [foldNamed, foldNamed]
      exact agreeOn_pure rfl
  | (n, e) :: rest, he => by
      obtain ⟨he, hrest⟩ := Bool.and_eq_true_iff.mp he
      rw [foldNamed, foldNamed]
      exact (Expr.fold_agree he).bind fun e he => (foldNamed_agree hrest).bind fun rest hrest =>
        agreeOn_pure (Bool.and_eq_true_iff.mpr ⟨he, hrest⟩)

theorem foldCompared_agree : ∀ {l : List (Comparison × Expr)},
    areIndifferentCompared marking l = true →
    AgreeOn (fun l => areIndifferentCompared marking l = true) (foldCompared true l)
      (foldCompared false l)
  | [], _ => by
      rw [foldCompared, foldCompared]
      exact agreeOn_pure rfl
  | (c, e) :: rest, he => by
      obtain ⟨he, hrest⟩ := Bool.and_eq_true_iff.mp he
      rw [foldCompared, foldCompared]
      exact (Expr.fold_agree he).bind fun e he => (foldCompared_agree hrest).bind fun rest hrest =>
        agreeOn_pure (Bool.and_eq_true_iff.mpr ⟨he, hrest⟩)

theorem foldEntries_agree : ∀ {l : List (Expr × Expr)}, areIndifferentEntries marking l = true →
    AgreeOn (fun l => areIndifferentEntries marking l = true) (foldEntries true l)
      (foldEntries false l)
  | [], _ => by
      rw [foldEntries, foldEntries]
      exact agreeOn_pure rfl
  | (k, e) :: rest, he => by
      obtain ⟨he, hrest⟩ := Bool.and_eq_true_iff.mp he
      obtain ⟨hk, he⟩ := Bool.and_eq_true_iff.mp he
      rw [foldEntries, foldEntries]
      exact (Expr.fold_agree hk).bind fun k hk => (Expr.fold_agree he).bind fun e he =>
        (foldEntries_agree hrest).bind fun rest hrest => agreeOn_pure
          (Bool.and_eq_true_iff.mpr ⟨Bool.and_eq_true_iff.mpr ⟨hk, he⟩, hrest⟩)

theorem foldBound_agree : ∀ {e : Option Expr}, isIndifferentBound marking e = true →
    AgreeOn (fun e' => isIndifferentBound marking e' = true ∧ e'.isSome = e.isSome)
      (foldBound true e) (foldBound false e)
  | none, _ => by
      rw [foldBound, foldBound]
      exact agreeOn_pure ⟨rfl, rfl⟩
  | some e, he => by
      rw [foldBound, foldBound]
      exact (Expr.fold_agree (e := e) he).bind fun e he => agreeOn_pure ⟨he, rfl⟩

end

/-! ## 5. Preparing -/

/-- What is folded in both ways to the same expression passes the checks in both ways or in none. -/
theorem Expr.foldAndCheck_agree {P : Expr → Prop} (inChoice : Bool) {e : Expr}
    (h : AgreeOn P (e.fold true) (e.fold false)) :
    AgreeOn P (e.foldAndCheck true inChoice) (e.foldAndCheck false inChoice) := by
  unfold Expr.foldAndCheck
  exact h.mapError.bind fun e he =>
    (agreeOn_self _).bind fun _ _ => agreeOn_pure he

mutual

/-- **An indifferent expression is prepared in both ways as the same one**, and that is indifferent. -/
theorem Expr.prepare_agree (inChoice : Bool) : ∀ {e : Expr}, e.isIndifferent marking = true →
    AgreeOn (fun e => e.isIndifferent marking = true) (e.prepare true inChoice)
      (e.prepare false inChoice)
  | .list items, he => by
      rw [Expr.prepare, Expr.prepare]
      exact (prepareAll_agree inChoice (l := items) he).bind fun items he => agreeOn_pure he
  | .tuple items, he => by
      rw [Expr.prepare, Expr.prepare]
      exact (prepareAll_agree inChoice (l := items) he).bind fun items he => agreeOn_pure he
  | .mapping entries, he => by
      rw [Expr.prepare, Expr.prepare]
      exact (prepareEntries_agree inChoice (l := entries) he).bind fun items he => agreeOn_pure he
  | .literal _, he | .name _, he | .member _ _, he | .item _ _, he | .stretch _ _ _, he
  | .call _ _ _, he | .filter _ _ _ _, he | .test _ _ _ _, he | .negation _, he | .minus _, he
  | .plus _, he | .conjunction _ _, he | .disjunction _ _, he | .compare _ _, he | .binary _ _ _, he
  | .concatenation _, he | .choice _ _ _ _, he =>
      Expr.foldAndCheck_agree inChoice (Expr.fold_agree he)

theorem prepareAll_agree (inChoice : Bool) : ∀ {l : List Expr}, areIndifferent marking l = true →
    AgreeOn (fun l => areIndifferent marking l = true) (prepareAll true inChoice l)
      (prepareAll false inChoice l)
  | [], _ => by
      rw [prepareAll, prepareAll]
      exact agreeOn_pure rfl
  | e :: rest, he => by
      obtain ⟨he, hrest⟩ := Bool.and_eq_true_iff.mp he
      rw [prepareAll, prepareAll]
      exact (Expr.prepare_agree inChoice he).bind fun e he =>
        (prepareAll_agree inChoice hrest).bind fun rest hrest =>
          agreeOn_pure (Bool.and_eq_true_iff.mpr ⟨he, hrest⟩)

theorem prepareEntries_agree (inChoice : Bool) : ∀ {l : List (Expr × Expr)},
    areIndifferentEntries marking l = true →
    AgreeOn (fun l => areIndifferentEntries marking l = true) (prepareEntries true inChoice l)
      (prepareEntries false inChoice l)
  | [], _ => by
      rw [prepareEntries, prepareEntries]
      exact agreeOn_pure rfl
  | (k, e) :: rest, he => by
      obtain ⟨he, hrest⟩ := Bool.and_eq_true_iff.mp he
      obtain ⟨hk, he⟩ := Bool.and_eq_true_iff.mp he
      rw [prepareEntries, prepareEntries]
      exact (Expr.prepare_agree inChoice hk).bind fun k hk =>
        (Expr.prepare_agree inChoice he).bind fun e he =>
          (prepareEntries_agree inChoice hrest).bind fun rest hrest => agreeOn_pure
            (Bool.and_eq_true_iff.mpr ⟨Bool.and_eq_true_iff.mpr ⟨hk, he⟩, hrest⟩)

end

/-! ## 6. Outputs -/

mutual

/-- Is the expression indifferent to escaping as an output? There a choice without an alternative, which
    otherwise would name the template, shows nothing. -/
def Expr.isIndifferentOutput (marking : Bool) : Expr → Bool
  | .choice value condition otherwise _ =>
    value.isIndifferentOutput marking && condition.isIndifferent marking
      && isIndifferentAlternative marking otherwise
  | e => e.isIndifferent marking

/-- `isIndifferentOutput` of an alternative that may be missing. -/
def isIndifferentAlternative (marking : Bool) : Option Expr → Bool
  | none => true
  | some e => e.isIndifferentOutput marking

end

/-- How an expression is indifferent as an output. -/
inductive Expr.Outputs (marking : Bool) : Expr → Prop where
  /-- It always is. -/
  | always {e} (he : e.isIndifferent marking = true) : Expr.Outputs marking e
  /-- If its condition does not hold, it shows nothing. -/
  | optional {value condition line} (hvalue : Expr.Outputs marking value)
      (hcondition : condition.isIndifferent marking = true) :
      Expr.Outputs marking (.choice value condition none line)
  /-- It is one of two outputs. -/
  | either {value condition e line} (hvalue : Expr.Outputs marking value)
      (hcondition : condition.isIndifferent marking = true) (he : Expr.Outputs marking e) :
      Expr.Outputs marking (.choice value condition (some e) line)

theorem Expr.outputs_of_isIndifferent : ∀ {e : Expr}, e.isIndifferentOutput marking = true →
    e.Outputs marking
  | .choice value condition none line, he => by
      obtain ⟨hrest, _⟩ := Bool.and_eq_true_iff.mp he
      obtain ⟨hvalue, hcondition⟩ := Bool.and_eq_true_iff.mp hrest
      exact .optional (Expr.outputs_of_isIndifferent hvalue) hcondition
  | .choice value condition (some e) line, he => by
      obtain ⟨hrest, he⟩ := Bool.and_eq_true_iff.mp he
      obtain ⟨hvalue, hcondition⟩ := Bool.and_eq_true_iff.mp hrest
      exact .either (Expr.outputs_of_isIndifferent hvalue) hcondition
        (Expr.outputs_of_isIndifferent (e := e) he)
  | .literal _, he | .name _, he | .member _ _, he | .item _ _, he | .stretch _ _ _, he
  | .call _ _ _, he | .filter _ _ _ _, he | .test _ _ _ _, he | .negation _, he | .minus _, he
  | .plus _, he | .conjunction _ _, he | .disjunction _ _, he | .compare _ _, he | .binary _ _ _, he
  | .concatenation _, he | .list _, he | .tuple _, he | .mapping _, he => .always he

theorem Expr.Outputs.constant_agree {e : Expr} (h : e.Outputs marking) :
    AgreeOn (Value.Within marking) (e.constant? true) (e.constant? false) := by
  induction h with
  | always he => exact Expr.constant_agree he
  | optional _ hcondition hvalue =>
      rw [Expr.constant?, Expr.constant?]
      refine (Expr.constant_agree hcondition).bind fun v _ => ?_
      cases v.isTrue with
      | true => exact hvalue
      | false => exact ⟨none, rfl, rfl⟩
  | either _ hcondition _ hvalue hother =>
      rw [Expr.constant?, Expr.constant?]
      refine (Expr.constant_agree hcondition).bind fun v _ => ?_
      cases v.isTrue with
      | true => exact hvalue
      | false => exact hother

theorem Expr.Outputs.settle_agree {value condition : Expr} {otherwise : Option Expr} {line : Nat}
    (h : (Expr.choice value condition otherwise line).Outputs marking) :
    AgreeOn (Expr.Outputs marking) ((Expr.choice value condition otherwise line).settle true)
      ((Expr.choice value condition otherwise line).settle false) :=
  Expr.settle_of_constants h.constant_agree rfl h fun _ hv => .always (isIndifferent_literal hv)

/-- An output is folded in both ways to the same one. -/
theorem Expr.Outputs.fold_agree {e : Expr} (h : e.Outputs marking) :
    AgreeOn (Expr.Outputs marking) (e.fold true) (e.fold false) := by
  induction h with
  | always he => exact (Expr.fold_agree he).imp fun _ he => .always he
  | optional _ hcondition hvalue =>
      rw [Expr.fold, Expr.fold, foldBound, foldBound]
      exact (Expr.fold_agree hcondition).bind fun condition hcondition =>
        hvalue.bind fun value hvalue => Expr.Outputs.settle_agree (.optional hvalue hcondition)
  | @either value condition other line _ hcondition _ hvalue hother =>
      rw [Expr.fold, Expr.fold, foldBound, foldBound]
      refine (Expr.fold_agree hcondition).bind fun condition hcondition =>
        hvalue.bind fun value hvalue => ?_
      have hbound : AgreeOn (fun o => ∃ e, o = some e ∧ e.Outputs marking)
          (other.fold true >>= fun e => pure (some e)) (other.fold false >>= fun e => pure (some e)) :=
        hother.bind fun e he => agreeOn_pure ⟨e, rfl, he⟩
      refine hbound.bind ?_
      rintro _ ⟨other, rfl, hother⟩
      exact Expr.Outputs.settle_agree (.either hvalue hcondition hother)

/-- **An output is prepared in both ways as the same one.** -/
theorem Expr.Outputs.prepare_agree (inChoice : Bool) {e : Expr} (h : e.Outputs marking) :
    AgreeOn (Expr.Outputs marking) (e.prepare true inChoice) (e.prepare false inChoice) := by
  cases h with
  | always he => exact (Expr.prepare_agree inChoice he).imp fun _ he => .always he
  | optional hvalue hcondition =>
      exact Expr.foldAndCheck_agree inChoice (Expr.Outputs.fold_agree (.optional hvalue hcondition))
  | either hvalue hcondition he =>
      exact Expr.foldAndCheck_agree inChoice (Expr.Outputs.fold_agree (.either hvalue hcondition he))

end DomainGen.Template
