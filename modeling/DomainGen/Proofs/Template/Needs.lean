import DomainGen.Proofs.Template.Evaluation
import DomainGen.Proofs.Template.Source

/-!
# What templates need

Rendering fails where a value is to be shown that has no text. Which values are shown can be read off a
template that keeps to plain forms: outputs of names, of their members and of alternatives to them,
choices on a name, and loops over a list or over the entries of a mapping.

* `Shape`, `Shapes.Fit` : what is known of the values of names;
* `Need`, `Need.Met` : values that must have a text, those of a name or those in a mapping;
* `Expr.needs?`, `Expr.outputNeeds?`, `Part.needs?`, `partsNeeds?` : what an expression, an output and
  parts need, if they are of these forms;
* `renderParts_iff` : **parts of these forms are rendered exactly if what they need is met**.
-/

namespace DomainGen.Template

/-! ## 1. Values with a text -/

namespace Value

mutual

/-- The value of plain data has a text exactly if the data have one. -/
theorem hasText_ofData : ∀ d : Data, (ofData d).hasText = d.hasText
  | .list xs => haveText_ofItems xs
  | .tuple xs => haveText_ofItems xs
  | .set xs => haveText_ofItems xs
  | .mapping es => entriesHaveText_ofEntries es
  | .null | .bool _ | .int _ | .float _ | .text _ | .bytes _ | .date _ | .moment _ => rfl

theorem haveText_ofItems : ∀ xs : List Data, haveText (ofItems xs) = Data.haveText xs
  | [] => rfl
  | x :: xs => congrArg₂ (· && ·) (hasText_ofData x) (haveText_ofItems xs)

theorem entriesHaveText_ofEntries : ∀ es : List (Data × Data),
    entriesHaveText (ofEntries es) = Data.entriesHaveText es
  | [] => rfl
  | (k, v) :: es => congrArg₂ (· && ·)
      (congrArg₂ (· && ·) (hasText_ofData k) (hasText_ofData v)) (entriesHaveText_ofEntries es)

end

theorem hasText_zero : (Data.int 0).hasText = true := by
  have hpos : ∀ digits, 0 < Nat.pow 10 digits := fun _ => Nat.pow_pos (by decide)
  unfold Data.hasText Data.textlessFrom
  rw [Int.natAbs_zero, decide_eq_true_iff]
  exact hpos 4300

/-- **What has no text counts as true**: zero and the empty values have one. -/
theorem isTrue_of_hasText {v : Value} (h : v.hasText = false) : v.isTrue = true := by
  cases v with
  | plain d =>
      cases d with
      | int i =>
          have hi : i ≠ 0 := by
            rintro rfl
            rw [show (plain (.int 0)).hasText = true from hasText_zero] at h
            cases h
          exact bne_iff_ne.mpr hi
      | list xs | tuple xs | set xs | mapping xs =>
          cases xs with
          | nil => cases h
          | cons x xs => rfl
      | _ => cases h
  | list xs | tuple xs | set xs | mapping xs | view _ xs =>
      cases xs with
      | nil => cases h
      | cons x xs => rfl
  | method _ _ => rfl
  | _ => cases h

/-- Showing the value fails only for want of a text: it is no loop with a fault ahead. -/
def isSettled : Value → Bool
  | .loop _ _ (some _) => false
  | _ => true

theorem isSettled_ofData (d : Data) : (ofData d).isSettled = true := by
  cases d <;> rfl

/-- A settled value is written exactly if it has a text. -/
theorem written_of_isSettled {v : Value} (h : v.isSettled = true) :
    v.written = if v.hasText then .ok v.text else .error .unsupported := by
  cases v with
  | loop xs i past =>
      cases past with
      | none => rfl
      | some f => cases h
  | _ => rfl

theorem written_ok_iff {v : Value} (h : v.isSettled = true) :
    (∃ text, v.written = .ok text) ↔ v.hasText = true := by
  rw [written_of_isSettled h]
  cases v.hasText with
  | true => exact ⟨fun _ => rfl, fun _ => ⟨v.text, rfl⟩⟩
  | false =>
      constructor
      · rintro ⟨_, h⟩
        cases h
      · intro h
        cases h

/-- A settled value is shown exactly if it has a text. -/
theorem shown_ok_iff {v : Value} (h : v.isSettled = true) (escaping : Bool) :
    (∃ text, v.shown escaping = .ok text) ↔ v.hasText = true := by
  have hmap : ∀ {x : Except RenderFault String} {f : String → String},
      (∃ text, x.map f = .ok text) ↔ ∃ text, x = .ok text := by
    intro x f
    constructor
    · rintro ⟨_, hx⟩
      obtain ⟨text, htext, _⟩ := except_map_eq_ok.mp hx
      exact ⟨text, htext⟩
    · rintro ⟨text, rfl⟩
      exact ⟨f text, rfl⟩
  cases v with
  | markup s => exact ⟨fun _ => rfl, fun _ => ⟨s, rfl⟩⟩
  | _ =>
      exact (hmap (f := fun s => if escaping then Text.escapeMarkup s else s)).trans
        (written_ok_iff h)

end Value

/-! ## 2. Shapes and needs -/

/-- What is known of a value. -/
inductive Shape where
  /-- It is a text. -/
  | text
  /-- It is a value of any kind, or missing. -/
  | any
  /-- It is a mapping, or counts as false. -/
  | table
  /-- It has some members, and they are texts. -/
  | record (fields : List String)
  /-- It is a mapping from texts to records, or counts as false. -/
  | records (fields : List String)
  /-- It is a list of records. -/
  | rows (fields : List String)
  /-- Nothing is known of it. -/
  | unknown
  deriving DecidableEq

namespace Shape

/-- The value has the members, and they are texts. -/
def IsRecord (fields : List String) (v : Value) : Prop :=
  ∀ n ∈ fields, ∃ text, v.member n = .ok (.ofText text)

/-- The value is a mapping or counts as false, and all entries of the mapping are such. -/
def IsTable (P : Value × Value → Prop) (v : Value) : Prop :=
  (∃ es, v = .mapping es ∧ ∀ x ∈ es, P x) ∨ v.isTrue = false

/-- A value has a shape. -/
def Fits : Shape → Value → Prop
  | text, v => ∃ s, v = .ofText s
  | any, v => v.isSettled = true
  | table, v => IsTable (fun x => x.1.isSettled = true ∧ x.2.isSettled = true) v
  | record fields, v => IsRecord fields v
  | records fields, v => IsTable (fun x => (∃ s, x.1 = .ofText s) ∧ IsRecord fields x.2) v
  | rows fields, v => ∃ xs, v = .list xs ∧ ∀ x ∈ xs, IsRecord fields x
  | unknown, _ => True

end Shape

/-- The shapes of names. -/
abbrev Shapes := List (String × Shape)

/-- The names in a scope have their shapes. -/
def Shapes.Fit (Γ : Shapes) (s : Scope) : Prop :=
  ∀ x shape, Γ.lookup x = some shape → shape.Fits (s.lookup x)

/-- What has to have a text. -/
inductive Need where
  /-- The value of a name. -/
  | name (x : String)
  /-- All keys of the mapping under a name. -/
  | keys (x : String)
  /-- All values in the mapping under a name. -/
  | values (x : String)
  deriving DecidableEq

/-- It has a text. -/
def Need.Met (s : Scope) : Need → Prop
  | name x => (s.lookup x).hasText = true
  | keys x => ∀ es, s.lookup x = .mapping es → ∀ e ∈ es, e.1.hasText = true
  | values x => ∀ es, s.lookup x = .mapping es → ∀ e ∈ es, e.2.hasText = true

/-- What an expression needs to have a text. -/
def Expr.needs? (Γ : Shapes) : Expr → Option (List Need)
  | .literal (.plain (.text _)) => some []
  | .name x => match Γ.lookup x with
    | some .text => some []
    | some .any => some [.name x]
    | _ => none
  | .member (.name x) n => match Γ.lookup x with
    | some (.record fields) => if fields.contains n then some [] else none
    | _ => none
  | .disjunction a b => match a.needs? Γ, b.needs? Γ with
    | some needs, some [] => some needs
    | _, _ => none
  | _ => none

/-- What an output needs. -/
def Expr.outputNeeds? (Γ : Shapes) : Expr → Option (List Need)
  | .filter "strip_extension" e [] [] => e.needs? Γ
  | .filter "comment" e [.literal (.plain (.text _))] [] => e.needs? Γ
  | e => e.needs? Γ

/-- What a loop binds its names to: for each of them what is known of it, and, if nothing else is known,
    what it takes for all of its values to have a text. -/
abbrev Bindings := List (String × Shape × Option Need)

/-- The bindings of a loop. -/
def bindings? (Γ : Shapes) : Target → Expr → Option Bindings
  | .name k, .name x => match Γ.lookup x with
    | some (.rows fields) => some [(k, .record fields, none)]
    | _ => none
  | .name k, .disjunction (.name x) (.literal (.mapping [])) => match Γ.lookup x with
    | some .table => some [(k, .any, some (.keys x))]
    | _ => none
  | .parts [.name k, .name v],
      .call (.member (.disjunction (.name x) (.literal (.mapping []))) "items") [] [] =>
    match Γ.lookup x with
    | some .table => some [(v, .any, some (.values x)), (k, .any, some (.keys x))]
    | some (.records fields) => some [(v, .record fields, none), (k, .text, none)]
    | _ => none
  | _, _ => none

namespace Bindings

/-- The shapes inside a loop. -/
def inside (bs : Bindings) (Γ : Shapes) : Shapes :=
  bs.map (fun b => (b.1, b.2.1)) ++ ("loop", .unknown) :: Γ

/-- What a need of the body of a loop is for all items. It must be about a name of the loop. -/
def forAll? (bs : Bindings) : Need → Option Need
  | .name x => (bs.lookup x).bind (·.2)
  | _ => none

end Bindings

mutual

/-- What a part needs. -/
def Part.needs? (Γ : Shapes) : Part → Option (List Need)
  | .text _ => some []
  | .output e => e.outputNeeds? Γ
  | .choice [(.name x, body)] [] => match Γ.lookup x, partsNeeds? Γ body with
    | some .any, some needs => if needs.all (· = .name x) then some needs else none
    | _, _ => none
  | .loop target through none _ body [] => do
    let bs ← bindings? Γ target through
    let needs ← partsNeeds? (bs.inside Γ) body
    if needs.all fun n => (bs.forAll? n).isSome then some (needs.filterMap bs.forAll?) else none
  | _ => none

/-- What some parts need. -/
def partsNeeds? (Γ : Shapes) : List Part → Option (List Need)
  | [] => some []
  | p :: ps => do return (← p.needs? Γ) ++ (← partsNeeds? Γ ps)

end

/-- What the template of a source needs. -/
def sourceNeeds? (Γ : Shapes) (source : String) : Option (List Need) :=
  (ofSource none false source).toOption.bind fun t => partsNeeds? Γ t.parts

/-! ## 3. Expressions -/

section Expressions

variable {Γ : Shapes} {s : Scope} {needs : List Need}

theorem eval_ok_name (x : String) : (Expr.name x).eval s = .ok (s.lookup x) := by
  rw [Expr.eval]

/-- An expression has a value that can be shown for want of nothing but a text, and it has one exactly
    if some needs are met. -/
def Expr.Needs (s : Scope) (e : Expr) (needs : List Need) : Prop :=
  ∃ v, e.eval s = .ok v ∧ v.isSettled = true ∧ (v.hasText = true ↔ ∀ n ∈ needs, n.Met s)

/-- A text needs nothing. -/
theorem Expr.needs_text {e : Expr} {text : String} (h : e.eval s = .ok (.ofText text)) :
    e.Needs s [] :=
  ⟨_, h, rfl, iff_of_true rfl fun _ hn => absurd hn List.not_mem_nil⟩

/-- An alternative that needs nothing changes nothing: what has no text counts as true. -/
theorem Expr.needs_disjunction {a b : Expr} (ha : a.Needs s needs) (hb : b.Needs s []) :
    (Expr.disjunction a b).Needs s needs := by
  obtain ⟨v, hv, hsettled, htext⟩ := ha
  obtain ⟨w, hw, hsettled', htext'⟩ := hb
  have hwText : w.hasText = true := htext'.mpr fun _ hn => absurd hn List.not_mem_nil
  unfold Expr.Needs
  rw [Expr.eval, hv]
  dsimp only [bind, Except.bind]
  cases htrue : v.isTrue with
  | true => exact ⟨v, rfl, hsettled, htext⟩
  | false =>
      have hvText : v.hasText = true := by
        cases hno : v.hasText with
        | true => rfl
        | false => rw [Value.isTrue_of_hasText hno] at htrue; cases htrue
      exact ⟨w, hw, hsettled', iff_of_true hwText (htext.mp hvText)⟩

/-- **What the needs of an expression are computed to be, it needs.** -/
theorem Expr.needs_of_needs? (hΓ : Γ.Fit s) {e : Expr} :
    e.needs? Γ = some needs → e.Needs s needs := by
  fun_induction Expr.needs? Γ e generalizing needs with
  | case1 text =>
      rintro ⟨⟩
      refine @Expr.needs_text _ _ text ?_
      rw [Expr.eval]
      rfl
  | case2 x hx =>
      rintro ⟨⟩
      obtain ⟨text, htext⟩ := hΓ x _ hx
      exact Expr.needs_text ((eval_ok_name x).trans (congrArg Except.ok htext))
  | case3 x hx =>
      rintro ⟨⟩
      exact ⟨_, eval_ok_name x, hΓ x _ hx, by simp [Need.Met]⟩
  | case5 x n fields hx hn =>
      rintro ⟨⟩
      obtain ⟨text, htext⟩ := hΓ x _ hx n (List.contains_iff_mem.mp hn)
      refine @Expr.needs_text _ _ text ?_
      rw [Expr.eval, eval_ok_name]
      exact htext
  | case8 a b found hb ha iha ihb =>
      rintro ⟨⟩
      exact Expr.needs_disjunction (iha ha) (ihb hb)
  | _ => simp

/-- A filter that writes its value and changes the text. -/
def Writes (name : String) (args : List Expr) (change : String → String) : Prop :=
  ∀ (s : Scope) (e : Expr), (Expr.filter name e args []).eval s =
    (e.eval s >>= Value.written).map fun text => .ofText (change text)

theorem writes_stripExtension : Writes "strip_extension" [] stripExtension := by
  intro s e
  rw [Expr.eval]
  cases e.eval s with
  | error f => rfl
  | ok v =>
      show applyFilter s.escaping "strip_extension" v [] [] = v.written.map _
      unfold applyFilter
      cases v.written <;> rfl

theorem writes_comment (style : String) :
    Writes "comment" [.literal (.plain (.text style))] (commentLines style) := by
  intro s e
  have hstyle : evalAll s [.literal (.plain (.text style))] = .ok [.ofText style] := by
    rw [evalAll, Expr.eval]
    rfl
  rw [Expr.eval, hstyle]
  cases e.eval s with
  | error f => rfl
  | ok v =>
      show applyFilter s.escaping "comment" v [.ofText style] [] = v.written.map _
      unfold applyFilter
      cases v.written <;> rfl

/-- An output of an expression is rendered exactly if what the expression needs is met. -/
theorem output_iff_of_needs {e : Expr} (h : e.Needs s needs) :
    (∃ text, (Part.output e).render s = .ok text) ↔ ∀ n ∈ needs, n.Met s := by
  obtain ⟨v, hv, hsettled, htext⟩ := h
  rw [Part.render, hv, ← htext]
  exact Value.shown_ok_iff hsettled s.escaping

/-- So is that of an expression that is filtered. -/
theorem output_filter_iff_of_needs {name : String} {args : List Expr} {change : String → String}
    (hfilter : Writes name args change) {e : Expr} (h : e.Needs s needs) :
    (∃ text, (Part.output (.filter name e args [])).render s = .ok text) ↔
      ∀ n ∈ needs, n.Met s := by
  obtain ⟨v, hv, hsettled, htext⟩ := h
  rw [Part.render, hfilter, hv, ← htext, ← Value.written_ok_iff hsettled]
  show (∃ text, ((v.written.map fun text => Value.ofText (change text)) >>=
    Value.shown s.escaping) = .ok text) ↔ _
  cases v.written with
  | error f =>
      constructor
      · rintro ⟨_, h⟩
        cases h
      · rintro ⟨_, h⟩
        cases h
  | ok text => exact ⟨fun _ => ⟨text, rfl⟩, fun _ => ⟨_, rfl⟩⟩

/-- **An output is rendered exactly if what it needs is met.** -/
theorem output_iff (hΓ : Γ.Fit s) {e : Expr} (h : e.outputNeeds? Γ = some needs) :
    (∃ text, (Part.output e).render s = .ok text) ↔ ∀ n ∈ needs, n.Met s := by
  unfold Expr.outputNeeds? at h
  split at h
  · exact output_filter_iff_of_needs writes_stripExtension (Expr.needs_of_needs? hΓ h)
  · exact output_filter_iff_of_needs (writes_comment _) (Expr.needs_of_needs? hΓ h)
  · exact output_iff_of_needs (Expr.needs_of_needs? hΓ h)

end Expressions

/-! ## 4. Loops -/

section Loops

variable {Γ : Shapes} {s : Scope}

/-- A table or, without one, the empty mapping. -/
theorem eval_orEmpty {P : Value × Value → Prop} {x : String} (h : Shape.IsTable P (s.lookup x)) :
    ∃ es, (Expr.disjunction (.name x) (.literal (.mapping []))).eval s = .ok (.mapping es) ∧
      (∀ e ∈ es, P e) ∧ (es = [] ∨ s.lookup x = .mapping es) ∧
      ∀ es', s.lookup x = .mapping es' → es' = es := by
  have hempty : (Expr.literal (.mapping [])).eval s = .ok (.mapping []) := by
    rw [Expr.eval]
    rfl
  have hor : (Expr.disjunction (.name x) (.literal (.mapping []))).eval s =
      if (s.lookup x).isTrue then .ok (s.lookup x) else .ok (.mapping []) := by
    rw [Expr.eval, eval_ok_name, hempty]
    rfl
  rw [hor]
  rcases h with ⟨es, hes, hP⟩ | hfalse
  · refine ⟨es, ?_, hP, Or.inr hes, fun es' hes' => ?_⟩
    · rw [hes]
      cases es <;> rfl
    · rw [hes] at hes'
      exact (Value.mapping.inj hes').symm
  · refine ⟨[], ?_, fun e he => absurd he List.not_mem_nil, Or.inl rfl, fun es' hes' => ?_⟩
    · rw [hfalse]
      rfl
    · rw [hes'] at hfalse
      cases es' with
      | nil => rfl
      | cons e es' => cases hfalse

/-- A need about all entries of a table is one about what stands for it in a loop. -/
theorem forall_entries_iff {x : String} {es : List (Value × Value)} {P : Value × Value → Prop}
    (h : es = [] ∨ s.lookup x = .mapping es) (h' : ∀ es', s.lookup x = .mapping es' → es' = es) :
    (∀ es', s.lookup x = .mapping es' → ∀ e ∈ es', P e) ↔ ∀ e ∈ es, P e := by
  constructor
  · intro hall e he
    rcases h with rfl | hes
    · exact absurd he List.not_mem_nil
    · exact hall es hes e he
  · intro hall es' hes' e he
    exact hall e (h' es' hes' ▸ he)

/-- What a loop with some bindings goes through: its items bind names to values of the shapes, and the
    values of a name all have a text exactly if the need of the name is met. -/
structure Bindings.Through (bs : Bindings) (s : Scope) (target : Target) (through : Expr)
    (xs : List Value) (names : Value → List (String × Value)) : Prop where
  items : ∃ v, through.eval s = .ok v ∧ v.items = .ok xs
  bind : ∀ x ∈ xs, target.bind x = .ok (names x)
  shapes : ∀ x ∈ xs, List.Forall₂ (fun b n => b.1 = n.1 ∧ b.2.1.Fits n.2) bs (names x)
  need : ∀ y shape need, bs.lookup y = some (shape, some need) → (need.Met s ↔
    ∀ x ∈ xs, ∀ v, (names x).lookup y = some v → v.hasText = true)

/-- A loop over a list of records. -/
theorem through_rows {x : String} {fields : List String} (hx : Γ.lookup x = some (.rows fields))
    (hΓ : Γ.Fit s) (k : String) :
    ∃ xs names, Bindings.Through [(k, .record fields, none)] s (.name k) (.name x) xs names := by
  obtain ⟨xs, hxs, hrecords⟩ := hΓ x _ hx
  refine ⟨xs, fun v => [(k, v)], ⟨_, eval_ok_name x, by rw [hxs]; rfl⟩, fun _ _ => rfl,
    fun v hv => .cons ⟨rfl, hrecords v hv⟩ .nil, fun y shape need hneed => ?_⟩
  exfalso
  rw [List.lookup_cons] at hneed
  split at hneed <;> cases hneed

/-- A loop over the keys of a table. -/
theorem through_keys {x : String} (hx : Γ.lookup x = some .table) (hΓ : Γ.Fit s) (k : String) :
    ∃ xs names, Bindings.Through [(k, .any, some (.keys x))] s (.name k)
      (.disjunction (.name x) (.literal (.mapping []))) xs names := by
  obtain ⟨es, heval, hes, hfound, honly⟩ := eval_orEmpty (hΓ x _ hx)
  refine ⟨es.map (·.1), fun v => [(k, v)], ⟨_, heval, rfl⟩, fun _ _ => rfl, fun v hv => ?_,
    fun y shape need hneed => ?_⟩
  · obtain ⟨e, he, rfl⟩ := List.mem_map.mp hv
    exact .cons ⟨rfl, (hes e he).1⟩ .nil
  · rw [List.lookup_cons] at hneed
    split at hneed
    · rename_i hy
      cases hneed
      refine (forall_entries_iff (P := fun e => e.1.hasText = true) hfound honly).trans ?_
      rw [List.forall_mem_map]
      refine forall₂_congr fun e he => ⟨fun htext v hv => ?_, fun hall => hall e.1 ?_⟩
      · rw [List.lookup_cons, hy] at hv
        exact Option.some.inj hv ▸ htext
      · rw [List.lookup_cons, hy]
    · cases hneed

/-- A loop over the entries of a table or of a mapping of records. -/
theorem eval_items {P : Value × Value → Prop} {x : String} (h : Shape.IsTable P (s.lookup x)) :
    ∃ es, (Expr.call (.member (.disjunction (.name x) (.literal (.mapping []))) "items") [] []).eval
        s = .ok (.view .items es) ∧
      (∀ e ∈ es, P e) ∧ (es = [] ∨ s.lookup x = .mapping es) ∧
      ∀ es', s.lookup x = .mapping es' → es' = es := by
  obtain ⟨es, heval, hrest⟩ := eval_orEmpty h
  have hmember : (Expr.member (.disjunction (.name x) (.literal (.mapping []))) "items").eval s =
      .ok (.method (.mapping es) "items") := by
    rw [Expr.eval, heval]
    dsimp only [bind, Except.bind]
    exact Value.member_items es
  refine ⟨es, ?_, hrest⟩
  rw [Expr.eval, hmember]
  rfl

/-- What is found under one of two names. -/
theorem lookup_pair {α : Type} {k v y : String} {a b w : α}
    (h : List.lookup y [(v, b), (k, a)] = some w) :
    (y == v) = true ∧ b = w ∨ (y == v) = false ∧ (y == k) = true ∧ a = w := by
  rw [List.lookup_cons, List.lookup_cons] at h
  cases hv : y == v with
  | true =>
      rw [hv] at h
      exact Or.inl ⟨rfl, Option.some.inj h⟩
  | false =>
      cases hk : y == k with
      | true =>
          rw [hv, hk] at h
          exact Or.inr ⟨rfl, rfl, Option.some.inj h⟩
      | false =>
          rw [hv, hk] at h
          cases h

/-- The names of the key and of the value of an entry. -/
def entryNames (k v : String) : Value → List (String × Value)
  | .tuple [key, value] => [(v, value), (k, key)]
  | _ => []

theorem through_entries {P : Value × Value → Prop} {x : String}
    (h : Shape.IsTable P (s.lookup x)) {shapeOfKey shapeOfValue : Shape}
    (hP : ∀ e, P e → shapeOfKey.Fits e.1 ∧ shapeOfValue.Fits e.2) {needOfKey needOfValue : Option Need}
    (hkeys : ∀ need ∈ needOfKey, need = .keys x) (hvalues : ∀ need ∈ needOfValue, need = .values x)
    (k v : String) :
    ∃ xs names, Bindings.Through [(v, shapeOfValue, needOfValue), (k, shapeOfKey, needOfKey)] s
      (.parts [.name k, .name v])
      (.call (.member (.disjunction (.name x) (.literal (.mapping []))) "items") [] []) xs names := by
  obtain ⟨es, heval, hes, hfound, honly⟩ := eval_items h
  refine ⟨es.map fun e => .tuple [e.1, e.2], entryNames k v, ⟨_, heval, rfl⟩, ?_, ?_,
    fun y shape need hneed => ?_⟩
  · rw [List.forall_mem_map]
    exact fun _ _ => rfl
  · rw [List.forall_mem_map]
    exact fun e he => .cons ⟨rfl, (hP e (hes e he)).2⟩ (.cons ⟨rfl, (hP e (hes e he)).1⟩ .nil)
  · rw [List.forall_mem_map]
    rcases lookup_pair hneed with ⟨hv, heq⟩ | ⟨hv, hk, heq⟩
    · cases hvalues need (Prod.mk.inj heq).2
      refine (forall_entries_iff (P := fun e => e.2.hasText = true) hfound honly).trans ?_
      refine forall₂_congr fun e he => ⟨fun htext w hw => ?_, fun hall => hall e.2 ?_⟩
      · rw [entryNames, List.lookup_cons, hv] at hw
        exact Option.some.inj hw ▸ htext
      · rw [entryNames, List.lookup_cons, hv]
    · cases hkeys need (Prod.mk.inj heq).2
      refine (forall_entries_iff (P := fun e => e.1.hasText = true) hfound honly).trans ?_
      refine forall₂_congr fun e he => ⟨fun htext w hw => ?_, fun hall => hall e.1 ?_⟩
      · rw [entryNames, List.lookup_cons, hv, List.lookup_cons, hk] at hw
        exact Option.some.inj hw ▸ htext
      · rw [entryNames, List.lookup_cons, hv, List.lookup_cons, hk]

/-- **The bindings of a loop are what it goes through.** -/
theorem exists_through (hΓ : Γ.Fit s) {target : Target} {through : Expr} {bs : Bindings}
    (h : bindings? Γ target through = some bs) :
    ∃ xs names, bs.Through s target through xs names := by
  unfold bindings? at h
  split at h
  · -- a list of records
    split at h
    · rename_i hx
      cases h
      exact through_rows hx hΓ _
    · cases h
  · -- the keys of a table
    split at h
    · rename_i hx
      cases h
      exact through_keys hx hΓ _
    · cases h
  · -- the entries of a table or of a mapping of records
    split at h
    · rename_i hx
      cases h
      refine through_entries (hΓ _ _ hx) ?_ ?_ ?_ _ _
      · exact fun _ he => he
      · simp
      · simp
    · rename_i hx
      cases h
      refine through_entries (hΓ _ _ hx) ?_ ?_ ?_ _ _
      · exact fun _ he => he
      · simp
      · simp
    · cases h
  · cases h

end Loops

/-! ## 5. Parts -/

section Parts

variable {Γ : Shapes} {s : Scope} {needs : List Need}

/-- A name is bound by an item of a loop exactly if it is by the loop, and then to a value of its
    shape. -/
theorem lookup_bound {bs : Bindings} {names : List (String × Value)}
    (h : List.Forall₂ (fun b n => b.1 = n.1 ∧ b.2.1.Fits n.2) bs names) (y : String) :
    (bs.lookup y = none ∧ names.lookup y = none) ∨ ∃ shape need v,
      bs.lookup y = some (shape, need) ∧ names.lookup y = some v ∧ shape.Fits v := by
  induction h with
  | nil => exact Or.inl ⟨rfl, rfl⟩
  | @cons b n bs names hhead _ ih =>
      obtain ⟨x, shape, need⟩ := b
      obtain ⟨x', v⟩ := n
      obtain ⟨rfl, hfits⟩ : x = x' ∧ shape.Fits v := hhead
      rw [List.lookup_cons, List.lookup_cons]
      cases y == x with
      | true => exact Or.inr ⟨shape, need, v, rfl, rfl, hfits⟩
      | false => exact ih

theorem lookup_shapes (bs : Bindings) (y : String) :
    List.lookup y (bs.map fun b => (b.1, b.2.1)) = (bs.lookup y).map (·.1) := by
  induction bs with
  | nil => rfl
  | cons b bs ih =>
      rw [List.map_cons, List.lookup_cons, List.lookup_cons, ih]
      cases y == b.1 <;> rfl

/-- The scope of an item of a loop. -/
def Scope.inLoop (s : Scope) (names : List (String × Value)) (loop : Value) : Scope :=
  s.push (names ++ [("loop", loop)])

theorem lookup_inLoop_of_some {names : List (String × Value)} {y : String} {v : Value}
    (h : names.lookup y = some v) (loop : Value) : (s.inLoop names loop).lookup y = v := by
  unfold Scope.inLoop Scope.push Scope.lookup
  dsimp only
  rw [List.lookup_append, List.lookup_append, h]
  rfl

theorem lookup_inLoop_of_none {names : List (String × Value)} {y : String}
    (h : names.lookup y = none) (hy : y ≠ "loop") (loop : Value) :
    (s.inLoop names loop).lookup y = s.lookup y := by
  have hloop : List.lookup y [("loop", loop)] = none := by
    rw [List.lookup_cons, beq_eq_false_iff_ne.mpr hy]
    rfl
  unfold Scope.inLoop Scope.push Scope.lookup
  dsimp only
  rw [List.lookup_append, List.lookup_append, h, hloop]
  rfl

/-- **Inside a loop the names have the shapes there.** -/
theorem fit_inside (hΓ : Γ.Fit s) {bs : Bindings} {names : List (String × Value)}
    (h : List.Forall₂ (fun b n => b.1 = n.1 ∧ b.2.1.Fits n.2) bs names) (loop : Value) :
    (bs.inside Γ).Fit (s.inLoop names loop) := by
  intro y shape hy
  unfold Bindings.inside at hy
  rw [List.lookup_append, lookup_shapes] at hy
  rcases lookup_bound h y with ⟨hbs, hnames⟩ | ⟨shape', need, v, hbs, hnames, hfits⟩
  · rw [hbs] at hy
    have hy : List.lookup y (("loop", Shape.unknown) :: Γ) = some shape := hy
    by_cases hloop : y = "loop"
    · rw [hloop, List.lookup_cons_self] at hy
      obtain rfl := Option.some.inj hy
      trivial
    · rw [List.lookup_cons, beq_eq_false_iff_ne.mpr hloop] at hy
      rw [lookup_inLoop_of_none hnames hloop]
      exact hΓ y shape hy
  · rw [hbs] at hy
    obtain rfl : shape' = shape := Option.some.inj hy
    rw [lookup_inLoop_of_some hnames]
    exact hfits

/-- Parts are rendered exactly if each of them is. -/
theorem renderParts_ok_iff : ∀ {ps : List Part},
    (∃ text, renderParts s ps = .ok text) ↔ ∀ p ∈ ps, ∃ text, p.render s = .ok text
  | [] => ⟨fun _ p hp => absurd hp List.not_mem_nil, fun _ => ⟨"", rfl⟩⟩
  | p :: ps => by
      rw [List.forall_mem_cons, ← renderParts_ok_iff]
      constructor
      · rintro ⟨text, h⟩
        unfold renderParts at h
        obtain ⟨first, hfirst, h⟩ := except_bind_eq_ok.mp h
        obtain ⟨rest, hrest, _⟩ := except_bind_eq_ok.mp h
        exact ⟨⟨first, hfirst⟩, rest, hrest⟩
      · rintro ⟨⟨first, hfirst⟩, rest, hrest⟩
        exact ⟨_, renderParts_cons hfirst hrest⟩

/-- What a loop renders for an item and its position. -/
def roundText (s : Scope) (target : Target) (xs : List Value) (body : List Part) (y : Value × Nat) :
    Except RenderFault String :=
  target.bind y.1 >>= fun names =>
    renderParts (s.push (names ++ [("loop", .loop xs y.2 none)])) body

/-- A loop is rendered exactly if its body is for every item. -/
theorem render_loop_ok_iff {target : Target} {through : Expr} (again : Bool) {body : List Part}
    {xs : List Value} {names : Value → List (String × Value)}
    (hitems : ∃ v, through.eval s = .ok v ∧ v.items = .ok xs)
    (hbind : ∀ x ∈ xs, target.bind x = .ok (names x)) :
    (∃ text, (Part.loop target through none again body []).render s = .ok text) ↔
      ∀ y ∈ xs.zipIdx, ∃ text,
        renderParts (s.inLoop (names y.1) (.loop xs y.2 none)) body = .ok text := by
  obtain ⟨v, hv, hxs⟩ := hitems
  have hrender : (Part.loop target through none again body []).render s =
      xs.zipIdx.mapM (roundText s target xs body) >>= fun texts =>
        if texts.isEmpty then renderParts s [] else .ok (String.join texts) := by
    rw [Part.render, hv]
    dsimp only [bind, Except.bind]
    rw [hxs]
    rfl
  have hbody : ∀ y ∈ xs.zipIdx, roundText s target xs body y =
      renderParts (s.inLoop (names y.1) (.loop xs y.2 none)) body := by
    intro y hy
    unfold roundText
    rw [hbind y.1 (List.fst_mem_of_mem_zipIdx hy)]
    rfl
  have hall : (∃ texts, xs.zipIdx.mapM (roundText s target xs body) = .ok texts) ↔ ∀ y ∈ xs.zipIdx, ∃ text,
      renderParts (s.inLoop (names y.1) (.loop xs y.2 none)) body = .ok text := by
    rw [mapM_ok_iff]
    exact forall₂_congr fun y hy => by rw [hbody y hy]
  rw [hrender, ← hall]
  constructor
  · rintro ⟨text, h⟩
    obtain ⟨texts, htexts, _⟩ := except_bind_eq_ok.mp h
    exact ⟨texts, htexts⟩
  · rintro ⟨texts, htexts⟩
    rw [htexts]
    cases texts with
    | nil => exact ⟨"", rfl⟩
    | cons text texts => exact ⟨_, rfl⟩

/-- A need of the body is met for every item exactly if what it comes to is met. -/
theorem forAll_iff {bs : Bindings} {target : Target} {through : Expr} {xs : List Value}
    {names : Value → List (String × Value)} (h : bs.Through s target through xs names) {n need : Need}
    (hneed : bs.forAll? n = some need) :
    need.Met s ↔ ∀ y ∈ xs.zipIdx, n.Met (s.inLoop (names y.1) (.loop xs y.2 none)) := by
  obtain ⟨x, shape, rfl, hx⟩ : ∃ x shape, n = .name x ∧ bs.lookup x = some (shape, some need) := by
    unfold Bindings.forAll? at hneed
    split at hneed
    · rename_i x
      obtain ⟨⟨shape, _⟩, hx, rfl⟩ := Option.bind_eq_some_iff.mp hneed
      exact ⟨x, shape, rfl, hx⟩
    · cases hneed
  -- at each item the name has the value that the item binds it to
  have hitem : ∀ y ∈ xs, ∃ v, (names y).lookup x = some v ∧ ∀ i,
      (s.inLoop (names y) (.loop xs i none)).lookup x = v := by
    intro y hy
    rcases lookup_bound (h.shapes y hy) x with ⟨hnone, _⟩ | ⟨_, _, v, _, hv, _⟩
    · rw [hx] at hnone
      cases hnone
    · exact ⟨v, hv, fun i => lookup_inLoop_of_some hv _⟩
  rw [h.need x shape need hx]
  constructor
  · intro hall y hy
    obtain ⟨v, hv, hlookup⟩ := hitem y.1 (List.fst_mem_of_mem_zipIdx hy)
    show ((s.inLoop _ _).lookup x).hasText = true
    rw [hlookup]
    exact hall y.1 (List.fst_mem_of_mem_zipIdx hy) v hv
  · intro hall y hy v hv
    obtain ⟨w, hw, hlookup⟩ := hitem y hy
    obtain ⟨i, hi⟩ := List.getElem?_of_mem hy
    have hmet := hall (y, i) (List.mk_mem_zipIdx_iff_getElem?.mpr hi)
    have hmet : ((s.inLoop (names y) (.loop xs i none)).lookup x).hasText = true := hmet
    rw [hlookup, Option.some.inj (hw.symm.trans hv)] at hmet
    exact hmet

/-- **A loop is rendered exactly if the needs of its body are met for every item**, and these come to
    the needs of its bindings. -/
theorem loop_iff {bs : Bindings} {target : Target} {through : Expr} (again : Bool) {body : List Part}
    {xs : List Value} {names : Value → List (String × Value)} (hΓ : Γ.Fit s)
    (h : bs.Through s target through xs names) (hneeds : ∀ n ∈ needs, (bs.forAll? n).isSome = true)
    (hbody : ∀ {s : Scope}, (bs.inside Γ).Fit s →
      ((∃ text, renderParts s body = .ok text) ↔ ∀ n ∈ needs, n.Met s)) :
    (∃ text, (Part.loop target through none again body []).render s = .ok text) ↔
      ∀ n ∈ needs.filterMap bs.forAll?, n.Met s := by
  have hitem : ∀ y ∈ xs.zipIdx, ((∃ text, renderParts (s.inLoop (names y.1)
      (.loop xs y.2 none)) body = .ok text) ↔
        ∀ n ∈ needs, n.Met (s.inLoop (names y.1) (.loop xs y.2 none))) := fun y hy =>
    hbody (fit_inside hΓ (h.shapes y.1 (List.fst_mem_of_mem_zipIdx hy)) _)
  rw [render_loop_ok_iff again h.items h.bind, forall₂_congr hitem]
  constructor
  · intro hall need hneed
    obtain ⟨n, hn, hfor⟩ := List.mem_filterMap.mp hneed
    exact (forAll_iff h hfor).mpr fun y hy => hall y hy n hn
  · intro hall y hy n hn
    obtain ⟨need, hfor⟩ := Option.isSome_iff_exists.mp (hneeds n hn)
    exact (forAll_iff h hfor).mp (hall need (List.mem_filterMap.mpr ⟨n, hn, hfor⟩)) y hy

/-- A choice on a name is rendered exactly if the name has a text, where its parts need nothing else:
    what has no text counts as true. -/
theorem choice_iff {x : String} {body : List Part} (hneeds : ∀ n ∈ needs, n = .name x)
    (hbody : (∃ text, renderParts s body = .ok text) ↔ ∀ n ∈ needs, n.Met s) :
    (∃ text, (Part.choice [(.name x, body)] []).render s = .ok text) ↔ ∀ n ∈ needs, n.Met s := by
  rw [← hbody, Part.render, renderBranches, eval_ok_name]
  dsimp only [bind, Except.bind]
  cases htrue : (s.lookup x).isTrue with
  | true =>
      cases renderParts s body with
      | error f => simp
      | ok text => exact iff_of_true ⟨text, rfl⟩ ⟨text, rfl⟩
  | false =>
      refine iff_of_true ⟨"", rfl⟩ (hbody.mpr fun n hn => ?_)
      rw [hneeds n hn]
      show (s.lookup x).hasText = true
      cases hno : (s.lookup x).hasText with
      | true => rfl
      | false =>
          rw [Value.isTrue_of_hasText hno] at htrue
          cases htrue

/-- A choice that has needs is one on a name. -/
theorem needs?_choice {branches : List (Expr × List Part)} {otherwise : List Part}
    (h : (Part.choice branches otherwise).needs? Γ = some needs) :
    ∃ x body, branches = [(.name x, body)] ∧ otherwise = [] ∧ partsNeeds? Γ body = some needs ∧
      ∀ n ∈ needs, n = .name x := by
  unfold Part.needs? at h
  split at h
  · cases ‹Part.choice _ _ = _›
  · cases ‹Part.choice _ _ = _›
  · rename_i x body heq
    cases heq
    split at h
    · rename_i found _ hbody
      split at h
      · rename_i hall
        cases h
        exact ⟨x, body, rfl, rfl, hbody, fun n hn => of_decide_eq_true (List.all_eq_true.mp hall n hn)⟩
      · cases h
    · cases h
  · cases ‹Part.choice _ _ = _›
  · cases h

/-- A loop that has needs goes through something with bindings. -/
theorem needs?_loop {target : Target} {through : Expr} {only : Option Expr} {again : Bool}
    {body otherwise : List Part}
    (h : (Part.loop target through only again body otherwise).needs? Γ = some needs) :
    only = none ∧ otherwise = [] ∧ ∃ bs inner, bindings? Γ target through = some bs ∧
      partsNeeds? (bs.inside Γ) body = some inner ∧ (∀ n ∈ inner, (bs.forAll? n).isSome = true) ∧
      needs = inner.filterMap bs.forAll? := by
  unfold Part.needs? at h
  split at h
  · cases ‹Part.loop _ _ _ _ _ _ = _›
  · cases ‹Part.loop _ _ _ _ _ _ = _›
  · cases ‹Part.loop _ _ _ _ _ _ = _›
  · rename_i heq
    cases heq
    obtain ⟨bs, hbs, h⟩ := Option.bind_eq_some_iff.mp h
    obtain ⟨inner, hinner, h⟩ := Option.bind_eq_some_iff.mp h
    split at h
    · rename_i hall
      cases h
      exact ⟨rfl, rfl, bs, inner, hbs, hinner, List.all_eq_true.mp hall, rfl⟩
    · cases h
  · cases h

mutual

theorem part_iff : ∀ {p : Part} {Γ : Shapes} {s : Scope} {needs : List Need}, Γ.Fit s →
    p.needs? Γ = some needs → ((∃ text, p.render s = .ok text) ↔ ∀ n ∈ needs, n.Met s)
  | .text t, Γ, s, needs, hΓ, h => by
      unfold Part.needs? at h
      cases h
      exact iff_of_true ⟨t, rfl⟩ fun n hn => absurd hn List.not_mem_nil
  | .output e, Γ, s, needs, hΓ, h => by
      unfold Part.needs? at h
      exact output_iff hΓ h
  | .choice branches otherwise, Γ, s, needs, hΓ, h => by
      obtain ⟨x, body, rfl, rfl, hbody, hneeds⟩ := needs?_choice h
      exact choice_iff hneeds (renderParts_iff hΓ hbody)
  | .loop target through only again body otherwise, Γ, s, needs, hΓ, h => by
      obtain ⟨rfl, rfl, bs, inner, hbs, hinner, hall, rfl⟩ := needs?_loop h
      obtain ⟨xs, names, hthrough⟩ := exists_through hΓ hbs
      exact loop_iff again hΓ hthrough hall fun hs => renderParts_iff hs hinner
termination_by p => sizeOf p

/-- **Parts are rendered exactly if what they need is met.** -/
theorem renderParts_iff : ∀ {ps : List Part} {Γ : Shapes} {s : Scope} {needs : List Need}, Γ.Fit s →
    partsNeeds? Γ ps = some needs →
      ((∃ text, renderParts s ps = .ok text) ↔ ∀ n ∈ needs, n.Met s)
  | [], Γ, s, needs, hΓ, h => by
      unfold partsNeeds? at h
      cases h
      exact iff_of_true ⟨"", rfl⟩ fun n hn => absurd hn List.not_mem_nil
  | p :: ps, Γ, s, needs, hΓ, h => by
      unfold partsNeeds? at h
      obtain ⟨first, hfirst, h⟩ := Option.bind_eq_some_iff.mp h
      obtain ⟨rest, hrest, h⟩ := Option.bind_eq_some_iff.mp h
      cases h
      rw [renderParts_ok_iff, List.forall_mem_cons, ← renderParts_ok_iff, part_iff hΓ hfirst,
        renderParts_iff hΓ hrest, List.forall_mem_append]
termination_by ps => sizeOf ps

end

end Parts

end DomainGen.Template
