import DomainGen.Proofs.Template.Escaping
import DomainGen.Proofs.Template.Replacement
import DomainGen.Proofs.Text.Case

/-!
# Templates with and without a name

The source of a template can be rendered at once, or be added to an engine under a name and rendered by
that. Markup is escaped in a template without a name, and in a named one only if the name is that of a
page.

* `Engine.escapes_of_suffix` : a name with another ending is that of no page;
* `Engine.render_fresh` : a name that was not read before renders what was added under it;
* `Engine.renderString_render` : **both give a text for the same contexts, and the texts are the same
  exactly if no special character is shown**.
-/

namespace DomainGen

open Template Functor

namespace Engine

variable {tree : FileTree} {e : Engine} {name source : String} {context : Entries}

/-! ## 1. Names -/

/-- The form of a text that ends with a plain character ends with the form of that. -/
theorem getLast?_lower (s : List Char) {c : Char} (h : c.toNat < 128) :
    (Text.lower (s ++ [c])).getLast? = some c.toLower := by
  have hform : ∀ before : List Char, Text.lowerAfter before [c] = [c.toLower] := by
    intro before
    have hsigma : (c == 'Σ') = false := by
      refine beq_eq_false_iff_ne.mpr ?_
      rintro rfl
      exact absurd h (by decide)
    unfold Text.lowerAfter
    rw [hsigma, if_neg Bool.false_ne_true, Text.lowerChar_ascii h]
    rfl
  obtain ⟨front, hfront⟩ := Text.suffix_lowerAfter_append [] s [c]
  unfold Text.lower
  rw [← hfront, hform, List.getLast?_append]
  rfl

/-- **A name that ends in `.j2` is not that of a page.** -/
theorem escapes_of_suffix (base : String) : escapes (base ++ ".j2") = false := by
  have hlast : ∀ {ending : String} {c : Char}, ending.toList.getLast? = some c → c ≠ '2' →
      ending.toList.isSuffixOf (Text.lower (base ++ ".j2").toList) = false := by
    intro ending c hc hne
    rw [← Bool.not_eq_true, List.isSuffixOf_iff_suffix]
    intro hsuffix
    have hform := getLast?_lower (base.toList ++ ".j".toList) (c := '2') (by decide)
    have hname : (base ++ ".j2").toList = base.toList ++ ".j".toList ++ ['2'] := by
      rw [String.toList_append, List.append_assoc]
      rfl
    rw [← hname] at hform
    obtain ⟨front, hfront⟩ := hsuffix
    rw [← hfront, List.getLast?_append, hc] at hform
    exact hne (Option.some.inj hform)
  unfold escapes
  dsimp only
  rw [hlast (c := 'l') rfl (by decide), hlast (c := 'l') rfl (by decide)]
  rfl

/-! ## 2. Rendering -/

/-- **A name that the engine has not read renders what was added under it.** -/
theorem render_fresh (hfresh : e.cache.lookup name = none) (tree : FileTree) (source : String)
    (context : Entries) : ((e.add name source).render tree (.text name) context).2 =
      renderSource name source context := by
  have hunused : (e.add name source).compiled.lookup name = none := by
    cases hc : (e.add name source).compiled.lookup name with
    | none => rfl
    | some t => exact absurd rfl (compiled_add hc).1
  have hunread : (e.add name source).cached? name = none := by
    have hcache : (e.add name source).cache.lookup name = none := hfresh
    unfold cached?
    rw [hcache]
  have hheld : (e.add name source).held.lookup name = some source := List.lookup_cons_self
  have hgiven : (e.add name source).given tree name = readSource name source := by
    unfold given
    rw [hunused, hunread]
    dsimp only
    rw [load_held hheld]
    cases readSource name source <;> rfl
  rw [render_result]
  show (e.add name source).given tree name >>= _ = _
  rw [hgiven]
  rfl

/-- **The text of an indifferent source and that of a template with a name are made of the same
    pieces.** If one of them can be rendered in a context, so can the other one. Without a name markup
    is escaped in the texts of values, with a name that ends in `.j2` it is not: the texts are the same
    exactly if no such text has a special character. -/
theorem renderString_render {marking : Bool} (hsource : sourceIsIndifferent marking source = true)
    {base : String} (hfresh : e.cache.lookup (base ++ ".j2") = none) (tree : FileTree)
    (context : Entries) :
    ((∃ text, renderString source context = .ok text) ↔
      ∃ text, ((e.add (base ++ ".j2") source).render tree (.text (base ++ ".j2")) context).2 =
        .ok text) ∧
    ∀ text text', renderString source context = .ok text →
      ((e.add (base ++ ".j2") source).render tree (.text (base ++ ".j2")) context).2 = .ok text' →
      ∃ pieces, text = piecesText true pieces ∧ text' = piecesText false pieces ∧
        (text = text' ↔ ∀ s, .value s ∈ pieces → ∀ c ∈ s.toList, c ∉ specialChars) := by
  rw [render_fresh hfresh]
  unfold renderString renderSource readSource
  rw [escapes_of_suffix]
  have hfail : ∀ {x y : Except Failure String}, (∀ text, x ≠ .ok text) → (∀ text, y ≠ .ok text) →
      ((∃ text, x = .ok text) ↔ ∃ text, y = .ok text) ∧
        ∀ text text', x = .ok text → y = .ok text' →
          ∃ pieces, text = piecesText true pieces ∧ text' = piecesText false pieces ∧
            (text = text' ↔ ∀ s, .value s ∈ pieces → ∀ c ∈ s.toList, c ∉ specialChars) :=
    fun hx hy => ⟨⟨fun ⟨text, h⟩ => absurd h (hx text), fun ⟨text, h⟩ => absurd h (hy text)⟩,
      fun text _ h => absurd h (hx text)⟩
  rcases ofSource_alike hsource none (some (base ++ ".j2")) with
    ⟨d, hd, hd'⟩ | ⟨ps, qs, hps, hqs, halike⟩
  · rw [hd, hd']
    exact hfail (fun _ h => by cases h) (fun _ h => by cases d <;> cases h)
  · rw [hps, hqs]
    dsimp only [bind, Except.bind]
    rcases except_of_liftr (halike.renderTemplate none (some (base ++ ".j2")) context) with
      ⟨f, hf, hf'⟩ | ⟨a, b, ha, hb, pieces, rfl, rfl⟩
    · rw [hf, hf']
      exact hfail (fun _ h => by cases h) (fun _ h => by cases h)
    · rw [ha, hb]
      refine ⟨⟨fun _ => ⟨_, rfl⟩, fun _ => ⟨_, rfl⟩⟩, fun text text' h h' => ?_⟩
      cases h
      cases h'
      exact ⟨pieces, rfl, rfl, piecesText_eq_iff pieces⟩

/-- A context whose value is special in markup. -/
def bracketContext : Entries := Entries.ofFields [("x", .text "<")]

/-- The value is escaped in a template without a name, and not in one with a name. -/
theorem renderString_bracket : renderString "\x7b\x7b x \x7d\x7d" bracketContext = .ok "&lt;" ∧
    (((make ⟨[], []⟩ [] [] .null).add "a.j2" "\x7b\x7b x \x7d\x7d").render ⟨[], []⟩
      (.text "a.j2") bracketContext).2 = .ok "<" :=
  ⟨eq_ok_of_toOption (by decide +kernel), eq_ok_of_toOption (by decide +kernel)⟩

theorem renderString_render_plain :
    sourceIsIndifferent false "\x7b\x7b x \x7d\x7d" = true ∧
      (make ⟨[], []⟩ [] [] .null).cache.lookup "a.j2" = none ∧
      ∃ text, (((make ⟨[], []⟩ [] [] .null).add "a.j2" "\x7b\x7b x \x7d\x7d").render ⟨[], []⟩
        (.text "a.j2") bracketContext).2 = .ok text := by
  have hsource : sourceIsIndifferent false "\x7b\x7b x \x7d\x7d" = true := by decide +kernel
  have hfresh : (make ⟨[], []⟩ [] [] .null).cache.lookup ("a" ++ ".j2") = none := rfl
  have hboth := renderString_render hsource hfresh ⟨[], []⟩ bracketContext
  exact ⟨hsource, hfresh, hboth.1.mp ⟨"&lt;", eq_ok_of_toOption (by decide +kernel)⟩⟩

end Engine

end DomainGen
