import DomainGen.Config.Warnings
import DomainGen.Path
import DomainGen.Proofs.Text.Pieces
import Mathlib.Data.List.Basic

/-!
# Spelling a path and reading it back

The text of a path is a normal form: it reads as the path it was written from. So two output paths
are one text exactly if they have one root and the same components.

Most output paths are a folder with a name behind it. A name that is an absolute path leaves nothing
of the folder; any other name keeps all of it.

* `Path.Proper` : no component is empty, a single dot or holds a slash; all paths that are read or
  joined are proper;
* `ofString_text` : **reading the text of a proper path gives the path back**;
* `ofString_joinPath` : what a joined text denotes;
* `joinPath_eq_iff` : **two folders give one path with a name exactly if they are one folder or the
  name is absolute**;
* `countingParts`, `joinedRoot`, `joinedComponents` : what is left of many parts;
* `joinPath_normalForm` : **joining is a normal form**, whatever the parts and however they are
  grouped;
* `joinParts_folder` : a folder joined with a setting, which may count as false or be no text.
-/

namespace DomainGen

open Text

namespace Path

/-! ## 1. Proper paths -/

/-- A text that does not begin with a slash. -/
theorem ofChars_eq_relative {s : List Char} :
    PathRoot.ofChars s = .relative ↔ s.head? ≠ some '/' := by
  unfold PathRoot.ofChars
  cases s with
  | nil => exact iff_of_true rfl (by simp)
  | cons c rest =>
      by_cases hc : c = '/'
      · subst hc
        have hlength : ((('/' :: rest).takeWhile (· == '/')).length) =
            (rest.takeWhile (· == '/')).length + 1 := by simp
        rw [hlength]
        refine iff_of_false ?_ (by simp)
        cases (rest.takeWhile (· == '/')).length with
        | zero => decide
        | succ n => cases n <;> simp
      · simp [hc]

theorem root_of_relative {p : Path} (h : p.isAbsolute = false) : p.root = .relative := by
  unfold isAbsolute at h
  simpa using h

/-- No component is empty, a single dot or holds a slash. -/
def Proper (p : Path) : Prop :=
  ∀ c ∈ p.components, isComponent c = true ∧ '/' ∉ c.toList

theorem proper_ofString (s : String) : (ofString s).Proper := by
  intro c hc
  obtain ⟨hmem, hcomponent⟩ := List.mem_filter.mp hc
  obtain ⟨piece, hpiece, rfl⟩ := List.mem_map.mp hmem
  rw [String.toList_ofList]
  exact ⟨hcomponent, not_mem_of_mem_splitAt hpiece⟩

theorem Proper.append {p q : Path} (hp : p.Proper) (hq : q.Proper) : (p.append q).Proper := by
  unfold Path.append
  cases q.root with
  | relative =>
      intro c hc
      rcases List.mem_append.mp hc with hc | hc
      · exact hp c hc
      · exact hq c hc
  | single => exact hq
  | double => exact hq

theorem proper_foldl_append : ∀ {ps : List Path} {p : Path}, p.Proper → (∀ q ∈ ps, q.Proper) →
    (ps.foldl append p).Proper
  | [], _, hp, _ => hp
  | q :: ps, p, hp, hps => by
      have hq := hp.append (hps q List.mem_cons_self)
      have hrest : ∀ r ∈ ps, r.Proper := fun r hr => hps r (List.mem_cons_of_mem q hr)
      rw [List.foldl_cons]
      exact proper_foldl_append hq hrest

theorem proper_join {ps : List Path} (h : ∀ p ∈ ps, p.Proper) : (join ps).Proper :=
  proper_foldl_append (fun _ hc => absurd hc List.not_mem_nil) h

/-! ## 2. Reading a text back -/

/-- A text as its components see it. -/
def componentsOfChars (s : List Char) : List String :=
  ((splitAt '/' s).map String.ofList).filter isComponent

/-- A leading slash is no component. -/
theorem componentsOfChars_slash (s : List Char) :
    componentsOfChars ('/' :: s) = componentsOfChars s := by
  unfold componentsOfChars
  rw [splitAt_sep, List.map_cons, List.filter_cons]
  rfl

theorem componentsOfChars_intercalate {cs : List String}
    (h : ∀ c ∈ cs, isComponent c = true ∧ '/' ∉ c.toList) :
    componentsOfChars (['/'].intercalate (cs.map String.toList)) = cs := by
  cases cs with
  | nil => decide
  | cons c rest =>
      have hslash : ∀ piece ∈ (c :: rest).map String.toList, '/' ∉ piece := by
        intro piece hpiece
        obtain ⟨d, hd, rfl⟩ := List.mem_map.mp hpiece
        exact (h d hd).2
      have hback : ((c :: rest).map String.toList).map String.ofList = c :: rest := by
        rw [List.map_map]
        exact List.map_id'' (fun d => String.ofList_toList) _
      have hne : (c :: rest).map String.toList ≠ [] := List.cons_ne_nil _ _
      unfold componentsOfChars
      rw [splitAt_intercalate hne hslash, hback, List.filter_eq_self]
      exact fun d hd => (h d hd).1

/-- The characters of the joined components do not begin with a slash. -/
theorem takeWhile_intercalate {cs : List String}
    (h : ∀ c ∈ cs, isComponent c = true ∧ '/' ∉ c.toList) :
    (['/'].intercalate (cs.map String.toList)).takeWhile (· == '/') = [] := by
  cases cs with
  | nil => rfl
  | cons c rest =>
      obtain ⟨hcomponent, hslash⟩ := h c List.mem_cons_self
      cases hc : c.toList with
      | nil =>
          rw [String.toList_eq_nil_iff] at hc
          subst hc
          cases hcomponent
      | cons x xs =>
          have hx : (x == '/') = false :=
            beq_eq_false_iff_ne.mpr fun e => hslash (hc ▸ e ▸ List.mem_cons_self)
          rw [List.map_cons, hc]
          cases rest with
          | nil => rw [List.map_nil, List.intercalate_singleton, List.takeWhile_cons, hx]; rfl
          | cons d rest =>
              rw [List.map_cons, List.intercalate_cons_cons, List.cons_append, List.cons_append,
                List.takeWhile_cons, hx]
              rfl

theorem ofString_toList (s : String) :
    ofString s = ⟨PathRoot.ofChars s.toList, componentsOfChars s.toList⟩ := rfl

/-- **The text of a proper path reads as the path.** -/
theorem ofString_text {p : Path} (h : p.Proper) : ofString p.text = p := by
  obtain ⟨root, cs⟩ := p
  have hcs := componentsOfChars_intercalate h
  have hfront := takeWhile_intercalate h
  by_cases hcurrent : (decide (root = .relative) && cs.isEmpty) = true
  · obtain ⟨hroot, hempty⟩ := Bool.and_eq_true_iff.mp hcurrent
    obtain rfl := of_decide_eq_true hroot
    obtain rfl := List.isEmpty_iff.mp hempty
    decide +kernel
  · have htext : (Path.mk root cs).text = root.text ++ "/".intercalate cs := by
      unfold text
      exact if_neg hcurrent
    have hslash : "/".toList = ['/'] := by decide
    rw [ofString_toList, htext, String.toList_append, String.toList_intercalate, hslash]
    generalize ['/'].intercalate (cs.map String.toList) = chars at hcs hfront
    have hcomponents : componentsOfChars (root.text.toList ++ chars) = cs := by
      cases root with
      | relative => exact hcs
      | single => exact (componentsOfChars_slash chars).trans hcs
      | double =>
          exact (componentsOfChars_slash ('/' :: chars)).trans
            ((componentsOfChars_slash chars).trans hcs)
    have hroot : PathRoot.ofChars (root.text.toList ++ chars) = root := by
      cases root with
      | relative => simp [PathRoot.text, PathRoot.ofChars, hfront]
      | single => simp [PathRoot.text, PathRoot.ofChars, hfront]
      | double => simp [PathRoot.text, PathRoot.ofChars, hfront]
    rw [hcomponents, hroot]

theorem text_injective {p q : Path} (hp : p.Proper) (hq : q.Proper) (h : p.text = q.text) :
    p = q := by
  rw [← ofString_text hp, h, ofString_text hq]

end Path

/-- A joined text denotes the joined paths. -/
theorem ofString_joinPath (parts : List String) :
    Path.ofString (joinPath parts) = Path.join (parts.map Path.ofString) := by
  refine Path.ofString_text (Path.proper_join fun p hp => ?_)
  obtain ⟨s, _, rfl⟩ := List.mem_map.mp hp
  exact Path.proper_ofString s

/-- A joined text is the text of what it denotes. -/
theorem text_ofString_joinPath (parts : List String) :
    (Path.ofString (joinPath parts)).text = joinPath parts := by
  rw [ofString_joinPath]
  rfl

/-! ## 3. Joined texts -/

namespace Path

theorem join_pair (p q : Path) : join [p, q] = p.append q := by
  obtain ⟨root, cs⟩ := p
  cases root <;> rfl

theorem append_left_inj {p p' q : Path} :
    p.append q = p'.append q ↔ p = p' ∨ q.isAbsolute = true := by
  obtain ⟨root, cs⟩ := p
  obtain ⟨root', cs'⟩ := p'
  obtain ⟨qroot, qs⟩ := q
  cases qroot with
  | relative =>
      have hrelative : (Path.mk .relative qs).isAbsolute = false := rfl
      rw [hrelative]
      show Path.mk root (cs ++ qs) = Path.mk root' (cs' ++ qs) ↔ _
      simp
  | single => exact iff_of_true rfl (Or.inr rfl)
  | double => exact iff_of_true rfl (Or.inr rfl)

theorem append_assoc (p q r : Path) : (p.append q).append r = p.append (q.append r) := by
  obtain ⟨proot, ps⟩ := p
  obtain ⟨qroot, qs⟩ := q
  obtain ⟨rroot, rs⟩ := r
  cases rroot with
  | relative =>
      cases qroot with
      | relative =>
          show Path.mk proot ((ps ++ qs) ++ rs) = Path.mk proot (ps ++ (qs ++ rs))
          rw [List.append_assoc]
      | single => rfl
      | double => rfl
  | single => rfl
  | double => rfl

theorem current_append (p : Path) : current.append p = p := by
  obtain ⟨root, cs⟩ := p
  cases root <;> rfl

theorem append_current (p : Path) : p.append current = p := by
  obtain ⟨root, cs⟩ := p
  show Path.mk root (cs ++ []) = Path.mk root cs
  rw [List.append_nil]

/-- Paths read one after the other from a first one are their join read from it. -/
theorem foldl_append_eq : ∀ (ps : List Path) (p : Path), ps.foldl append p = p.append (join ps)
  | [], p => (append_current p).symm
  | q :: ps, p => by
      have hp : (q :: ps).foldl append p = (p.append q).append (join ps) :=
        foldl_append_eq ps (p.append q)
      have hcurrent : join (q :: ps) = (current.append q).append (join ps) :=
        foldl_append_eq ps (current.append q)
      rw [hp, hcurrent, current_append, append_assoc]

theorem join_append (ps qs : List Path) : join (ps ++ qs) = (join ps).append (join qs) := by
  have hfold : join (ps ++ qs) = qs.foldl append (join ps) := List.foldl_append
  rw [hfold, foldl_append_eq]

theorem join_cons (p : Path) (ps : List Path) : join (p :: ps) = p.append (join ps) := by
  have hfold : join (p :: ps) = (current.append p).append (join ps) := foldl_append_eq ps _
  rw [hfold, current_append]

end Path

/-- **Two folders give one path with a name** exactly if they are one folder or the name is
    absolute. -/
theorem joinPath_eq_iff {folder folder' name : String} :
    joinPath [folder, name] = joinPath [folder', name] ↔
      Path.ofString folder = Path.ofString folder' ∨ (Path.ofString name).isAbsolute = true := by
  rw [← Path.append_left_inj, ← Path.join_pair, ← Path.join_pair]
  constructor
  · intro h
    have hread := congrArg Path.ofString h
    rw [ofString_joinPath, ofString_joinPath] at hread
    exact hread
  · intro h
    exact congrArg Path.text h

/-- A join among the parts can be replaced by its own parts. -/
theorem joinPath_flatten (before middle after : List String) :
    joinPath (before ++ joinPath middle :: after) = joinPath (before ++ middle ++ after) := by
  unfold joinPath
  rw [List.map_append, List.map_cons, List.map_append, List.map_append, Path.join_append,
    Path.join_cons, Path.join_append, Path.join_append, ← Path.append_assoc]
  have hmiddle : Path.ofString (joinPath middle) = Path.join (middle.map Path.ofString) :=
    ofString_joinPath middle
  unfold joinPath at hmiddle
  rw [hmiddle]

/-- A part that denotes the current folder changes nothing. -/
theorem joinPath_neutral {e : String} (he : Path.ofString e = Path.current)
    (before after : List String) : joinPath (before ++ e :: after) = joinPath (before ++ after) := by
  unfold joinPath
  rw [List.map_append, List.map_cons, List.map_append, he, Path.join_append, Path.join_cons,
    Path.current_append, ← Path.join_append]

/-- A part without text changes nothing. -/
theorem joinPath_empty (folder : String) : joinPath [folder, ""] = joinPath [folder] := by
  have hempty : Path.ofString "" = Path.current := by decide +kernel
  exact joinPath_neutral hempty [folder] []

/-! ## 4. Joins of many parts -/

/-- Does a part begin with a slash? -/
def beginsWithSlash (part : String) : Bool :=
  part.toList.head? == some '/'

/-- The parts that count: all of them from the last one on that begins with a slash. -/
def countingParts : List String → List String
  | [] => []
  | part :: rest => if rest.any beginsWithSlash then countingParts rest else part :: rest

/-- The slashes that joined parts begin with: those of the first part that counts. -/
def joinedRoot (parts : List String) : PathRoot :=
  match countingParts parts with
  | [] => .relative
  | part :: _ => PathRoot.ofChars part.toList

/-- The components of joined parts: those of the parts that count, in order. -/
def joinedComponents (parts : List String) : List String :=
  (countingParts parts).flatMap Path.componentsOf

theorem append_ofString (p : Path) (part : String) : p.append (Path.ofString part) =
    if beginsWithSlash part then Path.ofString part
    else ⟨p.root, p.components ++ Path.componentsOf part⟩ := by
  have hroot := Path.ofChars_eq_relative (s := part.toList)
  unfold Path.append Path.ofString beginsWithSlash
  cases hr : PathRoot.ofChars part.toList with
  | relative =>
      have hhead := hroot.mp hr
      simp [hhead]
  | single =>
      have hhead : part.toList.head? = some '/' := by
        by_contra hne
        cases hr.symm.trans (hroot.mpr hne)
      simp [hhead]
  | double =>
      have hhead : part.toList.head? = some '/' := by
        by_contra hne
        cases hr.symm.trans (hroot.mpr hne)
      simp [hhead]

/-- Parts read one after the other from a path: the path counts if none begins with a slash. -/
theorem foldl_append_ofString : ∀ (parts : List String) (p : Path),
    (parts.map Path.ofString).foldl Path.append p =
      if parts.any beginsWithSlash then ⟨joinedRoot parts, joinedComponents parts⟩
      else ⟨p.root, p.components ++ parts.flatMap Path.componentsOf⟩
  | [], p => by
      show p = Path.mk p.root (p.components ++ [])
      rw [List.append_nil]
  | part :: rest, p => by
      have ih := foldl_append_ofString rest (p.append (Path.ofString part))
      rw [List.map_cons, List.foldl_cons, ih, List.any_cons]
      unfold joinedRoot joinedComponents
      rw [countingParts]
      cases hrest : rest.any beginsWithSlash with
      | true => simp
      | false =>
          rw [append_ofString]
          cases hpart : beginsWithSlash part with
          | true => simp [Path.ofString]
          | false => simp

theorem countingParts_of_none : ∀ {parts : List String}, parts.any beginsWithSlash = false →
    countingParts parts = parts
  | [], _ => rfl
  | part :: rest, h => by
      have hrest : rest.any beginsWithSlash = false := (Bool.or_eq_false_iff.mp h).2
      rw [countingParts, hrest]
      rfl

/-- What joined parts denote. -/
theorem join_ofString (parts : List String) :
    Path.join (parts.map Path.ofString) = ⟨joinedRoot parts, joinedComponents parts⟩ := by
  have hfold := foldl_append_ofString parts Path.current
  unfold Path.join
  rw [hfold]
  cases hany : parts.any beginsWithSlash with
  | true => rfl
  | false =>
      have hroot : joinedRoot parts = .relative := by
        unfold joinedRoot
        rw [countingParts_of_none hany]
        cases parts with
        | nil => rfl
        | cons part rest =>
            have hpart : beginsWithSlash part = false := (Bool.or_eq_false_iff.mp hany).1
            exact Path.ofChars_eq_relative.mpr (beq_eq_false_iff_ne.mp hpart)
      unfold joinedComponents
      rw [hroot, countingParts_of_none hany]
      rfl

theorem joinedComponents_plain {parts : List String} {c : String} (h : c ∈ joinedComponents parts) :
    c ≠ "" ∧ c ≠ "." ∧ '/' ∉ c.toList := by
  obtain ⟨part, -, hc⟩ := List.mem_flatMap.mp h
  obtain ⟨hcomponent, hslash⟩ := Path.proper_ofString part c hc
  unfold Path.isComponent at hcomponent
  rw [Bool.and_eq_true, bne_iff_ne, bne_iff_ne] at hcomponent
  exact ⟨hcomponent.1, hcomponent.2, hslash⟩

/-- The text of joined parts, spelled out. -/
theorem joinPath_spelled (parts : List String) : joinPath parts =
    if joinedRoot parts = .relative ∧ joinedComponents parts = [] then "."
    else (joinedRoot parts).text ++ "/".intercalate (joinedComponents parts) := by
  unfold joinPath
  rw [join_ofString]
  unfold Path.text
  simp only [Bool.and_eq_true, decide_eq_true_eq, List.isEmpty_iff]

/-- Two joins are one text if they denote one path, and only then. -/
theorem joinPath_inj (parts others : List String) : joinPath parts = joinPath others ↔
    joinedRoot parts = joinedRoot others ∧ joinedComponents parts = joinedComponents others := by
  rw [← Path.mk.injEq, ← join_ofString, ← join_ofString]
  constructor
  · intro h
    rw [← ofString_joinPath, ← ofString_joinPath, h]
  · exact congrArg Path.text

/-- **Joining gives a normal form.** How parts are grouped does not matter, joining again changes
    nothing, and neither does an empty part or a single dot. The text is made of the slashes and the
    components of the parts that count, all of them in order, none empty and none a single dot; so
    two joins are one text exactly if they have one root and the same components. -/
theorem joinPath_normalForm (a b c : String) (parts others before middle after : List String) :
    joinPath [a, joinPath [b, c]] = joinPath [a, b, c] ∧
    joinPath [joinPath [a, b], c] = joinPath [a, b, c] ∧
    joinPath (before ++ joinPath middle :: after) = joinPath (before ++ middle ++ after) ∧
    joinPath [joinPath parts] = joinPath parts ∧
    joinPath (before ++ "" :: after) = joinPath (before ++ after) ∧
    joinPath (before ++ "." :: after) = joinPath (before ++ after) ∧
    (joinPath parts =
      if joinedRoot parts = .relative ∧ joinedComponents parts = [] then "."
      else (joinedRoot parts).text ++ "/".intercalate (joinedComponents parts)) ∧
    (∀ name ∈ joinedComponents parts, name ≠ "" ∧ name ≠ "." ∧ '/' ∉ name.toList) ∧
    (joinPath parts = joinPath others ↔
      joinedRoot parts = joinedRoot others ∧ joinedComponents parts = joinedComponents others) := by
  have hempty : Path.ofString "" = Path.current := by decide +kernel
  have hdot : Path.ofString "." = Path.current := by decide +kernel
  have hright : joinPath [a, joinPath [b, c]] = joinPath [a, b, c] := joinPath_flatten [a] [b, c] []
  have hleft : joinPath [joinPath [a, b], c] = joinPath [a, b, c] := joinPath_flatten [] [a, b] [c]
  have hagain : joinPath [joinPath parts] = joinPath parts := by
    have hflat := joinPath_flatten [] parts []
    rw [List.nil_append, List.append_nil] at hflat
    exact hflat
  exact ⟨hright, hleft, joinPath_flatten before middle after, hagain,
    joinPath_neutral hempty before after, joinPath_neutral hdot before after,
    joinPath_spelled parts, fun name hname => joinedComponents_plain hname, joinPath_inj parts others⟩

/-! ## 5. Joined settings -/

/-- The text that a setting adds to a path: none if the setting counts as false. -/
def Data.part? (x : Data) : Option String := if x.isTrue then x.text? else some ""

/-- A folder joined with a setting. -/
theorem joinParts_folder (folder : String) (x : Data) : joinParts [.text folder, x] =
    match x.part? with
    | some name => .ok (joinPath [folder, name])
    | none => .error .wrongKind := by
  have hfolder : folder = "" ∨ (Data.text folder).isTrue = true := by
    show folder = "" ∨ (folder != "") = true
    rw [bne_iff_ne]
    exact Classical.em _
  unfold joinParts Data.part?
  cases hx : x.isTrue with
  | false =>
      rcases hfolder with rfl | hfolder
      · have hnone : (Data.text "").isTrue = false := by decide
        simp [hnone, hx]
        rfl
      · simp [hfolder, hx, joinPath_empty, Data.text?]
  | true =>
      rcases hfolder with rfl | hfolder
      · have hnone : (Data.text "").isTrue = false := by decide
        cases ht : x.text? with
        | none => simp [hnone, hx, ht]
        | some name =>
            have hjoin : joinPath [name] = joinPath ["", name] := rfl
            simp [hnone, hx, ht, hjoin]
      · have htext : (Data.text folder).text? = some folder := rfl
        cases ht : x.text? with
        | none => simp [hfolder, hx, ht, htext]
        | some name => simp [hfolder, hx, ht, htext]

end DomainGen
