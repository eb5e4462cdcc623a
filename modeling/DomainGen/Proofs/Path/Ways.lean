import DomainGen.Proofs.Path.Resolution

/-!
# Ways between folders as texts

A way from one folder to another is spelled with a double dot for each folder to leave and then the
folders to enter, and a dot in front if there is nothing to leave. The dot is left out where the text
begins with two dots already -- which it also does where the first folder to enter has a name that
begins so.

* `pieces`, `head_pieces_iff` : a text between its slashes, and how it begins;
* `pieces_relativeFolder` : **what a way is spelled with**;
* `WayTo`, `wayTo_relativeFolder` : **a way leads to its target, is a dot exactly if it leads nowhere,
  and climbs before it descends**;
* `IsExplicit`, `EntersDots`, `isExplicit_relativeFolder_iff` : **which ways begin with a dot or
  two**.
-/

namespace DomainGen

open Text

namespace Path

/-! ## 1. Pieces -/

/-- A text between its slashes. -/
def pieces (s : String) : List String := (splitAt '/' s.toList).map String.ofList

theorem pieces_plain {s : String} (h : '/' ∉ s.toList) : pieces s = [s] := by
  unfold pieces
  rw [splitAt_of_not_mem h, List.map_singleton, String.ofList_toList]

theorem pieces_slash (s t : String) : pieces (s ++ "/" ++ t) = pieces s ++ pieces t := by
  have hchars : (s ++ "/" ++ t).toList = s.toList ++ '/' :: t.toList := by
    rw [String.toList_append, String.toList_append, List.append_assoc]
    rfl
  unfold pieces
  rw [hchars, splitAt_concat, List.map_append]

/-- The pieces of the text of a path are its components. -/
theorem pieces_text {cs : List String} (hne : cs ≠ [])
    (h : (Path.mk .relative cs).Proper) : pieces (Path.mk .relative cs).text = cs := by
  have htext : (Path.mk .relative cs).text = "/".intercalate cs := by
    have hempty : (decide (PathRoot.relative = .relative) && cs.isEmpty) = false := by
      rw [List.isEmpty_eq_false_iff.mpr hne]
      rfl
    unfold text
    rw [hempty]
    exact String.empty_append
  have hslash : ∀ piece ∈ cs.map String.toList, '/' ∉ piece := by
    intro piece hpiece
    obtain ⟨c, hc, rfl⟩ := List.mem_map.mp hpiece
    exact (h c hc).2
  have hchars : ("/" : String).toList = ['/'] := rfl
  unfold pieces
  rw [htext, String.toList_intercalate, hchars,
    splitAt_intercalate (fun hnil => hne (List.map_eq_nil_iff.mp hnil)) hslash, List.map_map]
  exact List.map_id'' (fun c => String.ofList_toList) cs

/-- A text begins with its first piece, and behind that it ends or goes on with a slash. -/
theorem toList_of_pieces {s first : String} {others : List String}
    (h : pieces s = first :: others) : '/' ∉ first.toList ∧
      ∃ rest, s.toList = first.toList ++ rest ∧ (rest = [] ∨ ∃ t, rest = '/' :: t) := by
  have hjoin := joinWith_splitAt '/' s.toList
  obtain ⟨piece, more, hsplit, hfirst, -⟩ := List.map_eq_cons_iff.mp h
  have hpiece : first.toList = piece := by rw [← hfirst, String.toList_ofList]
  have hmem : piece ∈ splitAt '/' s.toList := hsplit ▸ List.mem_cons_self
  rw [hsplit] at hjoin
  rw [hpiece, ← hjoin]
  refine ⟨not_mem_of_mem_splitAt hmem, ?_⟩
  cases more with
  | nil => exact ⟨[], (List.append_nil _).symm, Or.inl rfl⟩
  | cons next more => exact ⟨_, List.append_assoc _ _ _, Or.inr ⟨_, rfl⟩⟩

/-- What a text without slashes begins, it begins in the first piece. -/
theorem prefix_of_prefix_slash : ∀ {s first rest : List Char}, '/' ∉ s →
    (rest = [] ∨ ∃ t, rest = '/' :: t) → s <+: first ++ rest → s <+: first
  | [], _, _, _, _, _ => List.nil_prefix
  | c :: s, [], rest, hs, hrest, h => by
      rcases hrest with rfl | ⟨t, rfl⟩
      · exact h
      · have hc : c = '/' := (List.cons_prefix_cons.mp h).1
        exact absurd (hc ▸ List.mem_cons_self) hs
  | c :: s, d :: first, rest, hs, hrest, h => by
      obtain ⟨rfl, htail⟩ := List.cons_prefix_cons.mp h
      have hplain : '/' ∉ s := fun hm => hs (List.mem_cons_of_mem c hm)
      exact List.cons_prefix_cons.mpr ⟨rfl, prefix_of_prefix_slash hplain hrest htail⟩

/-- **A text has a name as its first piece exactly if it is the name or goes on with a slash.** -/
theorem head_pieces_iff {s name : String} (h : '/' ∉ name.toList) :
    (pieces s).head? = some name ↔ s = name ∨ s.startsWith (name ++ "/") = true := by
  rw [String.startsWith_string_iff, String.toList_append]
  constructor
  · intro hhead
    obtain ⟨others, hpieces⟩ := List.head?_eq_some_iff.mp hhead
    obtain ⟨-, rest, hs, rfl | ⟨t, rfl⟩⟩ := toList_of_pieces hpieces
    · exact Or.inl (String.toList_injective (hs.trans (List.append_nil _)))
    · refine Or.inr ⟨t, ?_⟩
      rw [hs, List.append_assoc]
      rfl
  · rintro (rfl | ⟨t, ht⟩)
    · rw [pieces_plain h]
      rfl
    · have hs : s = name ++ "/" ++ String.ofList t := by
        refine String.toList_injective ?_
        rw [← ht, String.toList_append, String.toList_append, String.toList_ofList (l := t)]
      rw [hs, pieces_slash, pieces_plain h]
      rfl

end Path

open DomainGen.Path

/-! ## 2. What a way is spelled with -/

/-- A way begins with a double dot or with another name that begins with two dots. -/
def BeginsWithDots (way : List String) : Prop :=
  ∃ c rest, way = c :: rest ∧ c.startsWith ".." = true

section Ways

variable {start target : String}

/-- The components of the way between two folders. -/
def waySteps (start target : String) : List String :=
  wayBetween (ofString start).normalize.components (ofString target).normalize.components

theorem proper_waySteps (start target : String) :
    (Path.mk .relative (waySteps start target)).Proper :=
  proper_wayBetween _ (proper_normalize (proper_ofString target))

theorem relativePath_eq_text (base : List String) (hs : (ofString start).StaysBelow)
    (ht : (ofString target).StaysBelow) :
    relativePath base start target = (Path.mk .relative (waySteps start target)).text :=
  relativePath_eq base hs ht

/-- **A way is spelled with its components, behind a dot unless it begins with two dots already.** -/
theorem pieces_relativeFolder (base : List String) (hs : (ofString start).StaysBelow)
    (ht : (ofString target).StaysBelow) :
    (BeginsWithDots (waySteps start target) ∧
      pieces (relativeFolder base start target) = waySteps start target) ∨
    (¬ BeginsWithDots (waySteps start target) ∧
      pieces (relativeFolder base start target) = "." :: waySteps start target) := by
  have hproper := proper_waySteps start target
  unfold relativeFolder
  rw [relativePath_eq_text base hs ht]
  cases hway : waySteps start target with
  | nil => exact Or.inr ⟨fun ⟨_, _, h, _⟩ => List.cons_ne_nil _ _ h.symm, rfl⟩
  | cons c rest =>
      rw [hway] at hproper
      have hpieces := pieces_text (List.cons_ne_nil c rest) hproper
      obtain ⟨hc, -⟩ := hproper c List.mem_cons_self
      generalize (Path.mk .relative (c :: rest)).text = way at hpieces ⊢
      obtain ⟨-, tail, htail, hends⟩ := toList_of_pieces hpieces
      have hdots : way.startsWith ".." = true ↔ c.startsWith ".." = true := by
        rw [String.startsWith_string_iff, String.startsWith_string_iff, htail]
        exact ⟨prefix_of_prefix_slash (by decide) hends, fun h => h.trans (List.prefix_append _ _)⟩
      have hdot : (way == ".") = false := by
        rw [beq_eq_false_iff_ne]
        rintro rfl
        rw [pieces_plain (by decide)] at hpieces
        rw [← (List.cons.inj hpieces).1] at hc
        exact absurd hc (by decide)
      simp only [hdot, Bool.false_or]
      by_cases hbegins : c.startsWith ".." = true
      · rw [if_pos (hdots.mpr hbegins)]
        exact Or.inl ⟨⟨c, rest, rfl, hbegins⟩, hpieces⟩
      · rw [if_neg (mt hdots.mp hbegins)]
        refine Or.inr ⟨fun ⟨d, _, h, hd⟩ => ?_, ?_⟩
        · rw [← (List.cons.inj h).1] at hd
          exact hbegins hd
        · have hspelled : "./" ++ way = "." ++ "/" ++ way := rfl
          rw [hspelled, pieces_slash, hpieces, pieces_plain (by decide)]
          rfl

/-! ## 3. Where a way leads -/

/-- A folder as a path begins with it: no name is the current folder. -/
def spelled (folder : String) : String := if folder = "" then "." else folder

/-- Behind none but dots is there a double dot. -/
def ClimbsFirst (s : String) : Prop :=
  ∀ before after, pieces s = before ++ ".." :: after → ∀ d ∈ before, d = "." ∨ d = ".."

/-- A way leads from one folder to another, is a dot exactly if they are the same, and climbs before
    it descends. -/
structure WayTo (start target way : String) : Prop where
  leads : normalText (spelled start ++ "/" ++ way) = normalText target
  stays : way = "." ↔ normalText start = normalText target
  climbsFirst : ClimbsFirst way

theorem ofString_spelled_slash (h : (ofString start).root = .relative) (t : String) :
    ofString (spelled start ++ "/" ++ t) =
      ⟨.relative, (ofString start).components ++ (ofString t).components⟩ := by
  unfold spelled
  split
  · rename_i hempty
    have hdot := ofString_slash (by decide : "." ≠ "") (by decide +kernel) t
    have hcomponents : (ofString ".").components = (ofString "").components := by decide +kernel
    rw [hdot, hcomponents, hempty]
  · rename_i hne
    exact ofString_slash hne h t

/-- **Read behind the folder it begins in, a way is the folder it leads to.** -/
theorem normalText_relativeFolder (base : List String) (hs : (ofString start).StaysBelow)
    (ht : (ofString target).StaysBelow) :
    normalText (spelled start ++ "/" ++ relativeFolder base start target) = normalText target := by
  obtain ⟨-, hway⟩ := ofString_relativeFolder base hs ht
  have hsteps : ((ofString start).components ++ waySteps start target).foldl (normalStep false) [] =
      (ofString target).normalize.components.reverse := by
    rw [List.foldl_append, hs.foldl_normalStep]
    exact foldl_wayBetween hs.2 ht.2
  have hnormal : (Path.mk .relative ((ofString start).components ++ waySteps start
      target)).normalize = ⟨.relative, (((ofString start).components ++ waySteps start
        target).foldl (normalStep false) []).reverse⟩ := rfl
  have hroot : (ofString target).normalize.root = .relative := root_of_relative ht.1
  rw [normalText_eq_iff, ofString_spelled_slash (root_of_relative hs.1), hway]
  refine hnormal.trans ?_
  rw [hsteps, List.reverse_reverse, ← hroot]

/-- The way between two folders is empty exactly if they are one. -/
theorem wayBetween_eq_nil_iff {s t : List String} : wayBetween s t = [] ↔ s = t := by
  obtain ⟨common, hs, ht⟩ := dropCommon_spec s t
  unfold wayBetween
  rw [List.append_eq_nil_iff, List.map_eq_nil_iff]
  constructor
  · rintro ⟨hleave, henter⟩
    rw [hleave] at hs
    rw [henter] at ht
    exact hs.trans ht.symm
  · rintro rfl
    have hnone := dropCommon_append s [] []
    rw [List.append_nil] at hnone
    rw [hnone]
    exact ⟨rfl, rfl⟩

theorem waySteps_eq_nil_iff (hs : (ofString start).StaysBelow)
    (ht : (ofString target).StaysBelow) :
    waySteps start target = [] ↔ normalText start = normalText target := by
  have hroot : (ofString start).normalize.root = (ofString target).normalize.root :=
    (root_of_relative hs.1).trans (root_of_relative ht.1).symm
  unfold waySteps
  rw [wayBetween_eq_nil_iff, normalText_eq_iff]
  exact ⟨fun h => (Path.mk.injEq _ _ _ _).mpr ⟨hroot, h⟩, congrArg Path.components⟩

/-- A way is a dot exactly if it leads nowhere. -/
theorem relativeFolder_eq_dot_iff (base : List String) (hs : (ofString start).StaysBelow)
    (ht : (ofString target).StaysBelow) :
    relativeFolder base start target = "." ↔ normalText start = normalText target := by
  rw [← waySteps_eq_nil_iff hs ht]
  constructor
  · intro h
    obtain ⟨-, hway⟩ := ofString_relativeFolder base hs ht
    have hdot : (ofString ".").components = [] := by decide +kernel
    rw [h] at hway
    exact (congrArg Path.components hway).symm.trans hdot
  · intro h
    unfold relativeFolder
    rw [relativePath_eq_text base hs ht, h]
    rfl

/-- A way is some double dots and then names. -/
theorem exists_climb (start : String) (ht : (ofString target).StaysBelow) : ∃ climb names,
    waySteps start target = climb ++ names ∧ (∀ d ∈ climb, d = "..") ∧ ".." ∉ names := by
  obtain ⟨common, -, htarget⟩ := dropCommon_spec (ofString start).normalize.components
    (ofString target).normalize.components
  refine ⟨_, _, rfl, fun d hd => ?_, fun hm => ht.2 ?_⟩
  · obtain ⟨_, _, rfl⟩ := List.mem_map.mp hd
    rfl
  · rw [htarget]
    exact List.mem_append_right common hm

/-- A way climbs before it descends. -/
theorem climbsFirst_relativeFolder (base : List String) (hs : (ofString start).StaysBelow)
    (ht : (ofString target).StaysBelow) : ClimbsFirst (relativeFolder base start target) := by
  obtain ⟨climb, names, hway, hclimb, hnames⟩ := exists_climb start ht
  obtain ⟨dots, hpieces, hdots⟩ : ∃ dots, pieces (relativeFolder base start target) =
      dots ++ names ∧ ∀ d ∈ dots, d = "." ∨ d = ".." := by
    rcases pieces_relativeFolder base hs ht with ⟨-, h⟩ | ⟨-, h⟩
    · exact ⟨climb, h.trans hway, fun d hd => Or.inr (hclimb d hd)⟩
    · refine ⟨"." :: climb, h.trans (congrArg ("." :: ·) hway), fun d hd => ?_⟩
      rcases List.mem_cons.mp hd with rfl | hd
      · exact Or.inl rfl
      · exact Or.inr (hclimb d hd)
  intro before after hsplit d hd
  rw [hpieces] at hsplit
  -- a double dot among the names is none of theirs
  rcases List.append_eq_append_iff.mp hsplit with ⟨more, -, htail⟩ | ⟨more, hfront, -⟩
  · exact absurd (htail ▸ List.mem_append_right more List.mem_cons_self) hnames
  · exact hdots d (hfront ▸ List.mem_append_left more hd)

/-- **A way leads to its target, is a dot exactly if it leads nowhere, and climbs before it
    descends.** -/
theorem wayTo_relativeFolder (base : List String) (hs : (ofString start).StaysBelow)
    (ht : (ofString target).StaysBelow) :
    WayTo start target (relativeFolder base start target) where
  leads := normalText_relativeFolder base hs ht
  stays := relativeFolder_eq_dot_iff base hs ht
  climbsFirst := climbsFirst_relativeFolder base hs ht

/-! ## 4. Explicit ways -/

/-- A text is a dot or two, or begins with a dot or two and a slash: what imports a file and no
    package. -/
def IsExplicit (s : String) : Prop :=
  s = "." ∨ s = ".." ∨ s.startsWith "./" = true ∨ s.startsWith "../" = true

instance (s : String) : Decidable (IsExplicit s) := inferInstanceAs (Decidable (_ ∨ _ ∨ _ ∨ _))

/-- A text is explicit if a dot or two are its first piece. -/
theorem isExplicit_iff_head {s : String} :
    IsExplicit s ↔ (pieces s).head? = some "." ∨ (pieces s).head? = some ".." := by
  have hdot : '/' ∉ ".".toList := by decide
  have hdots : '/' ∉ "..".toList := by decide
  have hspelled : "." ++ "/" = "./" ∧ ".." ++ "/" = "../" := by decide
  rw [head_pieces_iff hdot, head_pieces_iff hdots, hspelled.1, hspelled.2]
  unfold IsExplicit
  tauto

/-- What stands behind a slash does not make a text explicit. -/
theorem isExplicit_slash_iff (s t : String) : IsExplicit (s ++ "/" ++ t) ↔ IsExplicit s := by
  have hne : pieces s ≠ [] := fun h => splitAt_ne_nil '/' s.toList (List.map_eq_nil_iff.mp h)
  obtain ⟨first, others, hpieces⟩ := List.exists_cons_of_ne_nil hne
  rw [isExplicit_iff_head, isExplicit_iff_head, pieces_slash, hpieces]
  rfl

/-- The target lies below the start, and the first folder on the way down has a name that begins with
    two dots. -/
def EntersDots (start target : String) : Prop :=
  ∃ c rest, (ofString target).normalize.components =
      (ofString start).normalize.components ++ c :: rest ∧ c.startsWith ".." = true

/-- A way that enters such a folder first begins with its name. -/
theorem entersDots_iff (ht : (ofString target).StaysBelow) : EntersDots start target ↔
    ∃ c rest, waySteps start target = c :: rest ∧ c ≠ ".." ∧ c.startsWith ".." = true := by
  unfold EntersDots waySteps
  generalize hb : (ofString target).normalize.components = b
  generalize (ofString start).normalize.components = a
  have hnames : ".." ∉ b := hb ▸ ht.2
  constructor
  · rintro ⟨c, rest, rfl, hdots⟩
    have hdrop := dropCommon_append a [] (c :: rest)
    rw [List.append_nil] at hdrop
    refine ⟨c, rest, ?_, fun h => hnames ?_, hdots⟩
    · unfold wayBetween
      rw [hdrop]
      rfl
    · rw [h]
      exact List.mem_append_right a List.mem_cons_self
  · rintro ⟨c, rest, hway, hc, hdots⟩
    obtain ⟨common, hstart, htarget⟩ := dropCommon_spec a b
    unfold wayBetween at hway
    cases hleave : (dropCommon a b).1 with
    | nil =>
        rw [hleave] at hway hstart
        have hall : common = a := (hstart.trans (List.append_nil _)).symm
        have henter : (dropCommon a b).2 = c :: rest := hway
        rw [henter, hall] at htarget
        exact ⟨c, rest, htarget, hdots⟩
    | cons d leave =>
        rw [hleave] at hway
        exact absurd (List.cons.inj hway).1.symm hc

/-- **A way begins with a dot or two exactly if it does not first enter a folder whose name begins
    with two dots.** -/
theorem isExplicit_relativeFolder_iff (base : List String) (hs : (ofString start).StaysBelow)
    (ht : (ofString target).StaysBelow) :
    IsExplicit (relativeFolder base start target) ↔ ¬ EntersDots start target := by
  rw [isExplicit_iff_head, entersDots_iff ht]
  rcases pieces_relativeFolder base hs ht with ⟨⟨c, rest, hway, hdots⟩, hpieces⟩ | ⟨hplain, hpieces⟩
  · obtain ⟨hcomponent, -⟩ :=
      proper_waySteps start target c (hway ▸ List.mem_cons_self)
    have hne : c ≠ "." := by
      rintro rfl
      exact absurd hcomponent (by decide)
    rw [hpieces, hway]
    constructor
    · rintro (h | h) ⟨d, _, heq, hd, -⟩
      · exact hne (Option.some.inj h)
      · exact hd ((List.cons.inj heq).1 ▸ Option.some.inj h)
    · intro h
      by_cases hc : c = ".."
      · exact Or.inr (congrArg some hc)
      · exact absurd ⟨c, rest, rfl, hc, hdots⟩ h
  · rw [hpieces]
    exact iff_of_true (Or.inl rfl) fun ⟨c, rest, hway, _, hdots⟩ => hplain ⟨c, rest, hway, hdots⟩

end Ways

end DomainGen
