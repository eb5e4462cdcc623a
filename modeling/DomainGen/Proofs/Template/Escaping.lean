import DomainGen.Proofs.Template.Indifference

/-!
# Texts with and without escaping

A template that is indifferent to escaping is rendered in two ways: escaping markup, and leaving it as
it is. Both texts are made of the same pieces. They differ in the pieces that are texts of values, and
in those only where a character has a meaning in markup.

* `Piece`, `piecesText` : what a rendered text is made of; `piecesText_eq_iff` : **the texts are the same
  exactly if no value has a special character**;
* `Part.Alike`, `prepareParts_alike` : prepared with and without escaping, parts differ only in
  constants that are texts by then;
* `Expr.Outputs.shown_pieced`, `PartsAlike.render` : **outputs are shown, and parts that are alike are
  rendered, as the same pieces**;
* `ofSource_alike`, `PartsAlike.renderTemplate` : so is a template of one source, under any two names.
-/

namespace DomainGen.Template

open Functor Value Text

/-! ## 1. Pieces of a text -/

/-- A piece of a rendered text. -/
inductive Piece where
  /-- A text of the template, or markup. -/
  | fixed (s : String)
  /-- The text of a value. -/
  | value (s : String)

/-- The text of a piece, with markup escaped or as it is. -/
def Piece.text (escaping : Bool) : Piece → String
  | fixed s => s
  | value s => if escaping then escapeMarkup s else s

/-- The text of some pieces. -/
def piecesText (escaping : Bool) (ps : List Piece) : String :=
  String.join (ps.map (Piece.text escaping))

/-- Both texts are those of the same pieces, the first one with markup escaped. -/
def Pieced (a b : String) : Prop := ∃ ps, a = piecesText true ps ∧ b = piecesText false ps

theorem toList_piecesText (escaping : Bool) (ps : List Piece) :
    (piecesText escaping ps).toList = ps.flatMap fun p => (p.text escaping).toList := by
  unfold piecesText
  rw [String.toList_join, List.flatMap_map]

theorem piecesText_append (escaping : Bool) (ps qs : List Piece) :
    piecesText escaping (ps ++ qs) = piecesText escaping ps ++ piecesText escaping qs := by
  rw [← String.toList_inj, String.toList_append, toList_piecesText, toList_piecesText,
    toList_piecesText, List.flatMap_append]

theorem piecesText_singleton (escaping : Bool) (p : Piece) :
    piecesText escaping [p] = p.text escaping := by
  rw [← String.toList_inj, toList_piecesText, List.flatMap_cons, List.flatMap_nil, List.append_nil]

theorem Pieced.fixed (s : String) : Pieced s s :=
  ⟨[.fixed s], (piecesText_singleton true (.fixed s)).symm,
    (piecesText_singleton false (.fixed s)).symm⟩

theorem Pieced.value (s : String) : Pieced (escapeMarkup s) s :=
  ⟨[.value s], (piecesText_singleton true (.value s)).symm,
    (piecesText_singleton false (.value s)).symm⟩

theorem Pieced.append {a b c d : String} (h : Pieced a b) (h' : Pieced c d) :
    Pieced (a ++ c) (b ++ d) := by
  obtain ⟨ps, rfl, rfl⟩ := h
  obtain ⟨qs, rfl, rfl⟩ := h'
  exact ⟨ps ++ qs, (piecesText_append true ps qs).symm, (piecesText_append false ps qs).symm⟩

theorem Pieced.join {as bs : List String} (h : List.Forall₂ Pieced as bs) :
    Pieced (String.join as) (String.join bs) := by
  induction h with
  | nil => exact .fixed _
  | @cons a b as bs hab _ ih =>
      have hcons : ∀ (s : String) (rest : List String),
          String.join (s :: rest) = s ++ String.join rest := by
        intro s rest
        rw [← String.toList_inj, String.toList_append, String.toList_join, String.toList_join,
          List.flatMap_cons]
      rw [hcons, hcons]
      exact hab.append ih

/-- **A value is shown in both ways as a piece**: markup as it is, anything else as its text. -/
theorem shown_pieced (v : Value) : Liftr Pieced (v.shown true) (v.shown false) := by
  have hwritten : Liftr Pieced (v.written.map fun s => escapeMarkup s) (v.written.map fun s => s) := by
    cases v.written with
    | error f => exact ⟨.error f, rfl, rfl⟩
    | ok s => exact liftr_pure (Pieced.value s)
  cases v with
  | markup s => exact liftr_pure (Pieced.fixed s)
  | _ => exact hwritten

/-! ## 2. Special characters -/

/-- The characters that have a meaning in markup. -/
def specialChars : List Char := ['&', '<', '>', '\'', '"']

/-- A character takes more room escaped exactly if it is special. -/
theorem length_escapeChar (c : Char) :
    1 ≤ (escapeChar c).length ∧ ((escapeChar c).length = 1 ↔ c ∉ specialChars) ∧
      (c ∉ specialChars → escapeChar c = [c]) := by
  by_cases hc : c ∈ specialChars
  · have hall : (specialChars.all fun c => 1 < (escapeChar c).length) = true := by decide
    have hlong : 1 < (escapeChar c).length := of_decide_eq_true (List.all_eq_true.mp hall c hc)
    exact ⟨Nat.le_of_lt hlong, iff_of_false (Nat.ne_of_gt hlong) fun h => h hc, fun h => absurd hc h⟩
  · have hplain : escapeChar c = [c] := by
      simp only [specialChars, List.mem_cons, List.not_mem_nil, or_false, not_or] at hc
      obtain ⟨h₁, h₂, h₃, h₄, h₅⟩ := hc
      unfold escapeChar
      rw [if_neg (by simpa using h₁), if_neg (by simpa using h₂), if_neg (by simpa using h₃),
        if_neg (by simpa using h₄), if_neg (by simpa using h₅)]
    exact ⟨hplain ▸ Nat.le_refl 1, iff_of_true (hplain ▸ rfl) hc, fun _ => hplain⟩

/-- Escaping never makes a text shorter, and leaves its length exactly if it has no special
    character; then it leaves the text. -/
theorem length_escaped : ∀ s : List Char, s.length ≤ (s.flatMap escapeChar).length ∧
    ((s.flatMap escapeChar).length = s.length → ∀ c ∈ s, c ∉ specialChars) ∧
    ((∀ c ∈ s, c ∉ specialChars) → s.flatMap escapeChar = s)
  | [] => ⟨Nat.le_refl _, fun _ _ hc => absurd hc List.not_mem_nil, fun _ => rfl⟩
  | c :: s => by
      obtain ⟨hone, hlength, hplain⟩ := length_escapeChar c
      obtain ⟨hle, hsame, hrest⟩ := length_escaped s
      rw [List.flatMap_cons, List.length_append, List.length_cons, List.forall_mem_cons]
      refine ⟨by omega, fun h => ⟨hlength.mp (by omega), hsame (by omega)⟩, fun h => ?_⟩
      rw [hplain h.1, hrest h.2]
      rfl

/-- A text of the template, or a value without special characters. -/
def Piece.IsPlain (p : Piece) : Prop := ∀ s, p = .value s → ∀ c ∈ s.toList, c ∉ specialChars

theorem Piece.length_text (p : Piece) :
    (p.text false).toList.length ≤ (p.text true).toList.length ∧
      ((p.text true).toList.length = (p.text false).toList.length → p.IsPlain) ∧
      (p.IsPlain → p.text true = p.text false) := by
  cases p with
  | fixed s => exact ⟨Nat.le_refl _, fun _ _ h => (by cases h), fun _ => rfl⟩
  | value s =>
      obtain ⟨hle, hsame, hplain⟩ := length_escaped s.toList
      have htext : ((Piece.value s).text true).toList = s.toList.flatMap escapeChar :=
        String.toList_ofList
      rw [htext]
      refine ⟨hle, fun h t ht => ?_, fun h => ?_⟩
      · cases ht
        exact hsame h
      · rw [← String.toList_inj, htext]
        exact hplain (h s rfl)

/-- No piece gets shorter, so the whole keeps its length only if every piece does. -/
theorem length_piecesText (ps : List Piece) :
    (piecesText false ps).toList.length ≤ (piecesText true ps).toList.length ∧
      ((piecesText true ps).toList.length = (piecesText false ps).toList.length →
        ∀ p ∈ ps, p.IsPlain) := by
  rw [toList_piecesText, toList_piecesText]
  induction ps with
  | nil => exact ⟨Nat.le_refl _, fun _ _ hp => absurd hp List.not_mem_nil⟩
  | cons p ps ih =>
      obtain ⟨hle, hsame, _⟩ := p.length_text
      obtain ⟨hle', hsame'⟩ := ih
      rw [List.flatMap_cons, List.flatMap_cons, List.length_append, List.length_append,
        List.forall_mem_cons]
      exact ⟨by omega, fun h => ⟨hsame (by omega), hsame' (by omega)⟩⟩

/-- **The texts of pieces are the same exactly if no value has a special character.** -/
theorem piecesText_eq_iff (ps : List Piece) : piecesText true ps = piecesText false ps ↔
    ∀ s, .value s ∈ ps → ∀ c ∈ s.toList, c ∉ specialChars := by
  constructor
  · intro h s hs
    exact (length_piecesText ps).2 (congrArg (fun t : String => t.toList.length) h) _ hs s rfl
  · intro h
    refine congrArg String.join (List.map_congr_left fun p hp => p.length_text.2.2 ?_)
    rintro s rfl
    exact h s hp

/-! ## 3. Parts -/

variable {marking : Bool}

mutual

/-- Are the expressions of a part indifferent to escaping? -/
def Part.isIndifferent (marking : Bool) : Part → Bool
  | .text _ => true
  | .output e => e.isIndifferentOutput marking
  | .choice branches otherwise =>
    branchesAreIndifferent marking branches && partsAreIndifferent marking otherwise
  | .loop _ through only _ body otherwise =>
    through.isIndifferent marking && isIndifferentBound marking only
      && partsAreIndifferent marking body && partsAreIndifferent marking otherwise

/-- `isIndifferent` of all of some parts. -/
def partsAreIndifferent (marking : Bool) : List Part → Bool
  | [] => true
  | p :: rest => p.isIndifferent marking && partsAreIndifferent marking rest

/-- `isIndifferent` of all of some branches. -/
def branchesAreIndifferent (marking : Bool) : List (Expr × List Part) → Bool
  | [] => true
  | (e, body) :: rest =>
    e.isIndifferent marking && partsAreIndifferent marking body
      && branchesAreIndifferent marking rest

end

mutual

/-- Two parts are the same but for texts, which are made of the same pieces. -/
inductive Part.Alike (marking : Bool) : Part → Part → Prop where
  | text {a b} (h : Pieced a b) : Part.Alike marking (.text a) (.text b)
  | output {e} (he : e.Outputs marking) : Part.Alike marking (.output e) (.output e)
  | choice {branches branches' otherwise otherwise'}
      (hbranches : BranchesAlike marking branches branches')
      (hotherwise : PartsAlike marking otherwise otherwise') :
      Part.Alike marking (.choice branches otherwise) (.choice branches' otherwise')
  | loop {target through only again body body' otherwise otherwise'}
      (hthrough : through.isIndifferent marking = true)
      (honly : isIndifferentBound marking only = true) (hbody : PartsAlike marking body body')
      (hotherwise : PartsAlike marking otherwise otherwise') :
      Part.Alike marking (.loop target through only again body otherwise)
        (.loop target through only again body' otherwise')

/-- Some parts are alike one by one. -/
inductive PartsAlike (marking : Bool) : List Part → List Part → Prop where
  | nil : PartsAlike marking [] []
  | cons {p q ps qs} (hp : Part.Alike marking p q) (hps : PartsAlike marking ps qs) :
      PartsAlike marking (p :: ps) (q :: qs)

/-- Some branches have the same conditions and parts that are alike. -/
inductive BranchesAlike (marking : Bool) : List (Expr × List Part) → List (Expr × List Part) → Prop where
  | nil : BranchesAlike marking [] []
  | cons {e body body' rest rest'} (he : e.isIndifferent marking = true)
      (hbody : PartsAlike marking body body') (hrest : BranchesAlike marking rest rest') :
      BranchesAlike marking ((e, body) :: rest) ((e, body') :: rest')

end

/-! ## 4. Preparing -/

/-- A constant output is a text in both ways, or in none. -/
theorem constantText_alike {e : Expr} (he : e.Outputs marking) :
    Liftr Pieced (constantText? true e) (constantText? false e) := by
  unfold constantText?
  refine he.constant_agree.bind fun v _ => ?_
  rcases except_of_liftr (shown_pieced v) with ⟨f, hf, hf'⟩ | ⟨a, b, ha, hb, hab⟩
  · rw [hf, hf']
    exact ⟨none, rfl, rfl⟩
  · rw [ha, hb]
    exact liftr_pure hab

/-- The condition of a loop, prepared. -/
def prepareCondition (escaping : Bool) : Option Expr → Except Defect (Option Expr)
  | none => .ok none
  | some e => some <$> e.prepare escaping false

theorem prepareCondition_agree {only : Option Expr} (h : isIndifferentBound marking only = true) :
    AgreeOn (fun only => isIndifferentBound marking only = true) (prepareCondition true only)
      (prepareCondition false only) := by
  cases only with
  | none => exact agreeOn_pure h
  | some e => exact (Expr.prepare_agree false (e := e) h).map fun e he => he

theorem prepare_loop (escaping inChoice : Bool) (target : Target) (through : Expr)
    (only : Option Expr) (again : Bool) (body otherwise : List Part) :
    (Part.loop target through only again body otherwise).prepare escaping inChoice = do
      let only ← prepareCondition escaping only
      require (!target.names.contains "loop")
      let through ← through.prepare escaping inChoice
      let body ← prepareParts escaping false body
      return .loop target through only again body (← prepareParts escaping false otherwise) := by
  cases only with
  | none =>
      rw [Part.prepare]
      rfl
  | some e =>
      rw [Part.prepare]
      rfl

mutual

/-- **Prepared in both ways, an indifferent part gives parts that are alike.** -/
theorem Part.prepare_alike (inChoice : Bool) : ∀ {p : Part}, p.isIndifferent marking = true →
    Liftr (Part.Alike marking) (p.prepare true inChoice) (p.prepare false inChoice)
  | .text s, _ => by
      rw [Part.prepare, Part.prepare]
      exact liftr_pure (.text (.fixed s))
  | .output e, he => by
      have he := Expr.outputs_of_isIndifferent (e := e) he
      rw [Part.prepare, Part.prepare]
      rcases option_of_liftr (constantText_alike he) with ⟨hnone, hnone'⟩ | ⟨a, b, ha, hb, hab⟩
      · rw [hnone, hnone']
        exact (he.prepare_agree inChoice).bind fun e he => liftr_pure (.output he)
      · rw [ha, hb]
        exact liftr_pure (.text hab)
  | .choice branches otherwise, hp => by
      obtain ⟨hbranches, hotherwise⟩ := Bool.and_eq_true_iff.mp hp
      rw [Part.prepare, Part.prepare]
      exact liftr_bind (prepareBranches_alike hbranches) fun _ _ hbranches =>
        liftr_bind (prepareParts_alike true hotherwise) fun _ _ hotherwise =>
          liftr_pure (.choice hbranches hotherwise)
  | .loop target through only again body otherwise, hp => by
      obtain ⟨hrest, hotherwise⟩ := Bool.and_eq_true_iff.mp hp
      obtain ⟨hrest, hbody⟩ := Bool.and_eq_true_iff.mp hrest
      obtain ⟨hthrough, honly⟩ := Bool.and_eq_true_iff.mp hrest
      rw [prepare_loop, prepare_loop]
      exact (prepareCondition_agree honly).bind fun only honly =>
        (agreeOn_self _).bind fun _ _ =>
          (Expr.prepare_agree inChoice hthrough).bind fun through hthrough =>
            liftr_bind (prepareParts_alike false hbody) fun _ _ hbody =>
              liftr_bind (prepareParts_alike false hotherwise) fun _ _ hotherwise =>
                liftr_pure (.loop hthrough honly hbody hotherwise)

theorem prepareParts_alike (inChoice : Bool) : ∀ {ps : List Part},
    partsAreIndifferent marking ps = true →
    Liftr (PartsAlike marking) (prepareParts true inChoice ps) (prepareParts false inChoice ps)
  | [], _ => by
      rw [prepareParts, prepareParts]
      exact liftr_pure .nil
  | p :: ps, h => by
      obtain ⟨hp, hps⟩ := Bool.and_eq_true_iff.mp h
      rw [prepareParts, prepareParts]
      exact liftr_bind (Part.prepare_alike inChoice hp) fun _ _ hp =>
        liftr_bind (prepareParts_alike inChoice hps) fun _ _ hps => liftr_pure (.cons hp hps)

theorem prepareBranches_alike : ∀ {bs : List (Expr × List Part)},
    branchesAreIndifferent marking bs = true →
    Liftr (BranchesAlike marking) (prepareBranches true bs) (prepareBranches false bs)
  | [], _ => by
      rw [prepareBranches, prepareBranches]
      exact liftr_pure .nil
  | (e, body) :: bs, h => by
      obtain ⟨hfirst, hbs⟩ := Bool.and_eq_true_iff.mp h
      obtain ⟨he, hbody⟩ := Bool.and_eq_true_iff.mp hfirst
      rw [prepareBranches, prepareBranches]
      exact (Expr.prepare_agree true he).bind fun e he =>
        liftr_bind (prepareParts_alike true hbody) fun _ _ hbody =>
          liftr_bind (prepareBranches_alike hbs) fun _ _ hbs => liftr_pure (.cons he hbody hbs)

end

/-! ## 5. Limits -/

theorem PartsAlike.isEmpty {ps qs : List Part} (h : PartsAlike marking ps qs) :
    ps.isEmpty = qs.isEmpty := by
  cases h <;> rfl

mutual

/-- Parts that are alike keep the same limits. -/
theorem Part.Alike.limits : ∀ {p q : Part}, Part.Alike marking p q →
    (∀ level, p.level level = q.level level) ∧ isSoundPart p = isSoundPart q ∧
      ∀ around, p.fitsBlocks around = q.fitsBlocks around
  | .text a, _, h => by
      cases h
      exact ⟨fun _ => rfl, rfl, fun _ => rfl⟩
  | .output e, _, h => by
      cases h
      exact ⟨fun _ => rfl, rfl, fun _ => rfl⟩
  | .choice branches otherwise, _, h => by
      cases h with
      | choice hbranches hotherwise =>
          obtain ⟨hlevel, hsound, hfits⟩ := hbranches.limits
          obtain ⟨hlevel', hsound', hfits'⟩ := hotherwise.limits
          refine ⟨fun level => ?_, ?_, fun around => ?_⟩
          · rw [Part.level, Part.level, hlevel, hlevel', hotherwise.isEmpty]
          · rw [isSoundPart, isSoundPart, hsound, hsound']
          · rw [Part.fitsBlocks, Part.fitsBlocks, hfits, hfits']
  | .loop target through only again body otherwise, _, h => by
      cases h with
      | loop hthrough honly hbody hotherwise =>
          obtain ⟨hlevel, hsound, hfits⟩ := hbody.limits
          obtain ⟨hlevel', hsound', hfits'⟩ := hotherwise.limits
          refine ⟨fun level => ?_, ?_, fun around => ?_⟩
          · rw [Part.level, Part.level, hlevel, hlevel', hotherwise.isEmpty]
          · rw [isSoundPart, isSoundPart, hsound, hsound']
          · rw [Part.fitsBlocks, Part.fitsBlocks, hfits, hfits']

theorem PartsAlike.limits : ∀ {ps qs : List Part}, PartsAlike marking ps qs →
    (∀ level, partsLevel level ps = partsLevel level qs) ∧ areSoundParts ps = areSoundParts qs ∧
      ∀ around, fitsBlocks around ps = fitsBlocks around qs
  | [], _, h => by
      cases h
      exact ⟨fun _ => rfl, rfl, fun _ => rfl⟩
  | p :: ps, _, h => by
      cases h with
      | cons hp hps =>
          obtain ⟨hlevel, hsound, hfits⟩ := hp.limits
          obtain ⟨hlevel', hsound', hfits'⟩ := hps.limits
          refine ⟨fun level => ?_, ?_, fun around => ?_⟩
          · rw [partsLevel, partsLevel, hlevel, hlevel']
          · rw [areSoundParts, areSoundParts, hsound, hsound']
          · rw [fitsBlocks, fitsBlocks, hfits, hfits']

theorem BranchesAlike.limits : ∀ {bs cs : List (Expr × List Part)}, BranchesAlike marking bs cs →
    (∀ level, branchesLevel level bs = branchesLevel level cs) ∧
      areSoundBranches bs = areSoundBranches cs ∧
      ∀ around, branchesFitBlocks around bs = branchesFitBlocks around cs
  | [], _, h => by
      cases h
      exact ⟨fun _ => rfl, rfl, fun _ => rfl⟩
  | (e, body) :: bs, _, h => by
      cases h with
      | cons _ hbody hbs =>
          obtain ⟨hlevel, hsound, hfits⟩ := hbody.limits
          obtain ⟨hlevel', hsound', hfits'⟩ := hbs.limits
          refine ⟨fun level => ?_, ?_, fun around => ?_⟩
          · rw [branchesLevel, branchesLevel, hlevel, hlevel']
          · rw [areSoundBranches, areSoundBranches, hsound, hsound']
          · rw [branchesFitBlocks, branchesFitBlocks, hfits, hfits']

end

/-! ## 6. Rendering -/

section Rendering

variable {s s' : Scope}

/-- **An output is shown in twin scopes as the same pieces.** -/
theorem Expr.Outputs.shown_pieced (h : s.Twins marking s') {e : Expr} (he : e.Outputs marking) :
    Liftr Pieced (e.eval s >>= fun v => v.shown true) (e.eval s' >>= fun v => v.shown false) := by
  induction he with
  | always he => exact (Expr.eval_agree h he).bind fun v _ => Template.shown_pieced v
  | optional _ hcondition hvalue =>
      rw [Expr.eval, Expr.eval, bind_assoc, bind_assoc]
      refine (Expr.eval_agree h hcondition).bind fun v _ => ?_
      cases v.isTrue with
      | true => exact hvalue
      | false => exact liftr_pure (Pieced.fixed "")
  | either _ hcondition _ hvalue hother =>
      rw [Expr.eval, Expr.eval, bind_assoc, bind_assoc]
      refine (Expr.eval_agree h hcondition).bind fun v _ => ?_
      cases v.isTrue with
      | true => exact hvalue
      | false => exact hother

/-- The names of an item of a loop, and whether its condition holds. -/
theorem tryItem_agree (h : s.Twins marking s') (target : Target) {condition : Expr}
    (hcondition : condition.isIndifferent marking = true) {x : Value} (hx : x.Within marking) :
    AgreeOn (fun r => ∀ e ∈ r.1, e.2.Within marking) (tryItem s target condition x)
      (tryItem s' target condition x) := by
  have hbind : AgreeOn (fun names => ∀ e ∈ names, e.2.Within marking) (target.bind x)
      (target.bind x) := agreeOn_of_ok fun names hnames e he hmarking =>
    isMarkupFree_bind (hx hmarking) hnames e he
  unfold tryItem
  exact hbind.bind fun names hnames =>
    (Expr.eval_agree (h.push hnames) hcondition).bind fun v _ => agreeOn_pure hnames

/-- The items that pass the condition of a loop. -/
theorem passing_agree (h : s.Twins marking s') (target : Target) {condition : Expr}
    (hcondition : condition.isIndifferent marking = true) : ∀ {xs : List Value},
    (∀ x ∈ xs, x.Within marking) →
    passing s target condition xs = passing s' target condition xs ∧
      ∀ x ∈ (passing s target condition xs).items, x.Within marking
  | [], _ => ⟨rfl, fun _ hx => absurd hx List.not_mem_nil⟩
  | x :: xs, hxs => by
      obtain ⟨hx, hxs⟩ := List.forall_mem_cons.mp hxs
      obtain ⟨hsame, hwithin⟩ := passing_agree h target hcondition hxs
      rcases except_of_liftr (tryItem_agree h target hcondition hx) with
        ⟨f, hf, hf'⟩ | ⟨⟨names, holds⟩, _, hnames, hnames', rfl, hall⟩
      · unfold passing
        rw [hf, hf']
        exact ⟨rfl, fun _ hx => absurd hx List.not_mem_nil⟩
      · unfold passing
        rw [hnames, hnames']
        dsimp only
        rw [← hsame]
        cases holds with
        | false => exact ⟨rfl, hwithin⟩
        | true =>
            refine ⟨rfl, List.forall_mem_cons.mpr ⟨fun hmarking => ?_, hwithin⟩⟩
            exact isMarkupFree_rebuild (fun e he => hall e he hmarking) target

/-- The items of a loop and the fault after them. -/
def selection (s : Scope) (target : Target) (only : Option Expr) (xs : List Value) : Selection :=
  match only with
  | none => ⟨xs, none⟩
  | some condition => passing s target condition xs

theorem selection_agree (h : s.Twins marking s') (target : Target) {only : Option Expr}
    (honly : isIndifferentBound marking only = true) {xs : List Value}
    (hxs : ∀ x ∈ xs, x.Within marking) :
    selection s target only xs = selection s' target only xs ∧
      ∀ x ∈ (selection s target only xs).items, x.Within marking := by
  cases only with
  | none => exact ⟨rfl, hxs⟩
  | some condition => exact passing_agree h target honly hxs

theorem render_loop_eq (target : Target) (through : Expr) (only : Option Expr) (again : Bool)
    (body otherwise : List Part) :
    (Part.loop target through only again body otherwise).render s = do
      let all ← (← through.eval s).items
      let chosen := selection s target only all
      let texts ← chosen.items.zipIdx.mapM fun (x, i) => do
        let names ← target.bind x
        renderParts (s.push (names ++ [("loop", .loop chosen.items i chosen.past)])) body
      match chosen.past with
      | some f => throw f
      | none => if texts.isEmpty then renderParts s otherwise else return String.join texts := by
  cases only <;> rw [Part.render] <;> rfl

end Rendering

mutual

/-- **A part and one that is alike are rendered in twin scopes as the same pieces.** -/
theorem Part.Alike.render : ∀ {p q : Part} {s s' : Scope}, Part.Alike marking p q →
    s.Twins marking s' → Liftr Pieced (p.render s) (q.render s')
  | .text a, _, s, s', hpq, _ => by
      cases hpq with
      | text hab =>
          rw [Part.render, Part.render]
          exact liftr_pure hab
  | .output e, _, s, s', hpq, h => by
      cases hpq with
      | output he =>
          rw [Part.render, Part.render, h.escaping, h.plain]
          exact he.shown_pieced h
  | .choice branches otherwise, _, s, s', hpq, h => by
      cases hpq with
      | choice hbranches hotherwise =>
          rw [Part.render, Part.render]
          refine liftr_bind (hbranches.render h) fun text text' htext => ?_
          cases htext with
          | none => exact hotherwise.render h
          | some hab => exact liftr_pure hab
  | .loop target through only again body otherwise, _, s, s', hpq, h => by
      cases hpq with
      | loop hthrough honly hbody hotherwise =>
          rw [render_loop_eq, render_loop_eq]
          refine (Expr.eval_agree h hthrough).bind fun v hv => ?_
          have hitems : AgreeOn (fun xs => ∀ x ∈ xs, x.Within marking) v.items v.items :=
            agreeOn_of_ok fun xs hxs x hx hmarking => isMarkupFree_items (hv hmarking) hxs x hx
          refine hitems.bind fun xs hxs => ?_
          obtain ⟨hsame, hwithin⟩ := selection_agree h target honly hxs
          dsimp only
          rw [← hsame]
          refine liftr_bind (liftr_mapM (R := Pieced) fun y hy => ?_) fun texts texts' htexts => ?_
          · have hx : y.1.Within marking := hwithin _ (List.fst_mem_of_mem_zipIdx hy)
            have hbind : AgreeOn (fun names => ∀ e ∈ names, e.2.Within marking) (target.bind y.1)
                (target.bind y.1) := agreeOn_of_ok fun names hnames e he hmarking =>
              isMarkupFree_bind (hx hmarking) hnames e he
            refine hbind.bind fun names hnames => hbody.render (h.push ?_)
            refine List.forall_mem_append.mpr ⟨hnames, List.forall_mem_singleton.mpr fun hmarking => ?_⟩
            exact areMarkupFree_iff.mpr fun x hx => hwithin x hx hmarking
          · cases (selection s target only xs).past with
            | some f => exact ⟨.error f, rfl, rfl⟩
            | none =>
                cases htexts with
                | nil => exact hotherwise.render h
                | cons hab hrest => exact liftr_pure (Pieced.join (.cons hab hrest))

theorem PartsAlike.render : ∀ {ps qs : List Part} {s s' : Scope}, PartsAlike marking ps qs →
    s.Twins marking s' → Liftr Pieced (renderParts s ps) (renderParts s' qs)
  | [], _, s, s', hpq, _ => by
      cases hpq
      rw [renderParts, renderParts]
      exact liftr_pure (Pieced.fixed "")
  | p :: ps, _, s, s', hpq, h => by
      cases hpq with
      | cons hp hps =>
          rw [renderParts, renderParts]
          exact liftr_bind (hp.render h) fun a b hab => liftr_bind (hps.render h) fun c d hcd =>
            liftr_pure (hab.append hcd)

theorem BranchesAlike.render : ∀ {bs cs : List (Expr × List Part)} {s s' : Scope},
    BranchesAlike marking bs cs → s.Twins marking s' →
    Liftr (Option.Rel Pieced) (renderBranches s bs) (renderBranches s' cs)
  | [], _, s, s', hpq, _ => by
      cases hpq
      rw [renderBranches, renderBranches]
      exact liftr_pure .none
  | (e, body) :: bs, _, s, s', hpq, h => by
      cases hpq with
      | cons he hbody hbs =>
          rw [renderBranches, renderBranches]
          refine (Expr.eval_agree h he).bind fun v _ => ?_
          cases v.isTrue with
          | true => exact liftr_bind (hbody.render h) fun a b hab => liftr_pure (.some hab)
          | false => exact hbs.render h

end

/-! ## 7. Templates -/

/-- Is the template of a source indifferent to escaping? -/
def sourceIsIndifferent (marking : Bool) (source : String) : Bool :=
  match readSource source with
  | .ok parts => partsAreIndifferent marking parts
  | .error _ => true

/-- **An indifferent source has templates that are alike, or none in both ways.** -/
theorem ofSource_alike {source : String} (h : sourceIsIndifferent marking source = true)
    (name name' : Option String) :
    (∃ d, ofSource name true source = .error d ∧ ofSource name' false source = .error d) ∨
      ∃ ps qs, ofSource name true source = .ok ⟨name, true, ps⟩ ∧
        ofSource name' false source = .ok ⟨name', false, qs⟩ ∧ PartsAlike marking ps qs := by
  unfold sourceIsIndifferent at h
  unfold ofSource
  cases hread : readSource source with
  | error d => exact .inl ⟨d, rfl, rfl⟩
  | ok parts =>
      rw [hread] at h
      dsimp only [bind, Except.bind]
      rcases except_of_liftr (prepareParts_alike false h) with ⟨d, hd, hd'⟩ | ⟨ps, qs, hps, hqs, halike⟩
      · rw [hd, hd']
        exact .inl ⟨d, rfl, rfl⟩
      · obtain ⟨hlevel, hsound, hfits⟩ := halike.limits
        rw [hps, hqs]
        dsimp only
        rw [hlevel, hsound, hfits]
        split
        · exact .inl ⟨_, rfl, rfl⟩
        · split
          · exact .inl ⟨_, rfl, rfl⟩
          · exact .inr ⟨ps, qs, rfl, rfl, halike⟩

/-- **Templates that are alike are rendered as the same pieces.** -/
theorem PartsAlike.renderTemplate {ps qs : List Part} (h : PartsAlike marking ps qs)
    (name name' : Option String) (context : Entries) :
    Liftr Pieced (Template.render ⟨name, true, ps⟩ context)
      (Template.render ⟨name', false, qs⟩ context) := by
  have hnames : AgreeOn (fun names => ∀ e ∈ names, e.2.Within marking) (contextNames context)
      (contextNames context) := agreeOn_of_ok fun names hnames e he _ =>
    isMarkupFree_contextNames hnames e he
  unfold Template.render
  exact hnames.bind fun names hwithin => h.render ⟨rfl, rfl, rfl, hwithin⟩

end DomainGen.Template
