import DomainGen.Proofs.Except
import DomainGen.Template.Rendering

/-!
# Values without markup

Markup comes into a template by a filter. Everything else that is done with values leaves none where
there was none: looking into them, calling them, reckoning with them, going through them.

* `Value.isMarkupFree` : is there no markup in a value, at any depth?
* `isMarkupFree_member`, `isMarkupFree_item`, `isMarkupFree_slice`, `isMarkupFree_call`,
  `isMarkupFree_items` : **looking into a value finds no markup where there is none**;
* `isMarkupFree_add`, `isMarkupFree_subtract`, `isMarkupFree_applyFilter` : so do operators, and every
  filter but one;
* `isMarkupFree_ofData` : plain data hold none; `isMarkupFree_bind`, `isMarkupFree_rebuild` : loops
  bring in none.
-/

namespace DomainGen.Template

namespace Value

/-! ## 1. Values -/

mutual

/-- Is there no markup in a value? -/
def isMarkupFree : Value → Bool
  | .markup _ => false
  | .list xs => areMarkupFree xs
  | .tuple xs => areMarkupFree xs
  | .set xs => areMarkupFree xs
  | .mapping es => entriesAreMarkupFree es
  | .view _ es => entriesAreMarkupFree es
  | .loop xs _ _ => areMarkupFree xs
  | .method holder _ => holder.isMarkupFree
  | _ => true

/-- Is there no markup in any of some values? -/
def areMarkupFree : List Value → Bool
  | [] => true
  | x :: xs => x.isMarkupFree && areMarkupFree xs

/-- Is there no markup in any of some entries? -/
def entriesAreMarkupFree : List (Value × Value) → Bool
  | [] => true
  | (k, v) :: es => k.isMarkupFree && v.isMarkupFree && entriesAreMarkupFree es

end

theorem areMarkupFree_iff : ∀ {xs : List Value},
    areMarkupFree xs = true ↔ ∀ x ∈ xs, x.isMarkupFree = true
  | [] => ⟨fun _ _ hx => absurd hx List.not_mem_nil, fun _ => rfl⟩
  | x :: xs => by
      rw [areMarkupFree, Bool.and_eq_true, areMarkupFree_iff, List.forall_mem_cons]

theorem entriesAreMarkupFree_iff : ∀ {es : List (Value × Value)}, entriesAreMarkupFree es = true ↔
    ∀ e ∈ es, e.1.isMarkupFree = true ∧ e.2.isMarkupFree = true
  | [] => ⟨fun _ _ he => absurd he List.not_mem_nil, fun _ => rfl⟩
  | (k, v) :: es => by
      rw [entriesAreMarkupFree, Bool.and_eq_true, Bool.and_eq_true, entriesAreMarkupFree_iff,
        List.forall_mem_cons]

/-- A value without markup is none. -/
theorem not_isMarkup {v : Value} (h : v.isMarkupFree = true) : isMarkup v = false := by
  cases v with
  | markup s => cases h
  | _ => rfl

theorem not_any_isMarkup {xs : List Value} (h : ∀ x ∈ xs, x.isMarkupFree = true) :
    xs.any isMarkup = false :=
  List.any_eq_false.mpr fun x hx => by
    rw [not_isMarkup (h x hx)]
    exact Bool.false_ne_true

mutual

/-- **Plain data hold no markup.** -/
theorem isMarkupFree_ofData : ∀ d : Data, (ofData d).isMarkupFree = true
  | .list xs => areMarkupFree_ofItems xs
  | .tuple xs => areMarkupFree_ofItems xs
  | .set xs => areMarkupFree_ofItems xs
  | .mapping es => entriesAreMarkupFree_ofEntries es
  | .null | .bool _ | .int _ | .float _ | .text _ | .bytes _ | .date _ | .moment _ => rfl

theorem areMarkupFree_ofItems : ∀ xs : List Data, areMarkupFree (ofItems xs) = true
  | [] => rfl
  | x :: xs => Bool.and_eq_true_iff.mpr ⟨isMarkupFree_ofData x, areMarkupFree_ofItems xs⟩

theorem entriesAreMarkupFree_ofEntries : ∀ es : List (Data × Data),
    entriesAreMarkupFree (ofEntries es) = true
  | [] => rfl
  | (k, v) :: es => Bool.and_eq_true_iff.mpr
      ⟨Bool.and_eq_true_iff.mpr ⟨isMarkupFree_ofData k, isMarkupFree_ofData v⟩,
        entriesAreMarkupFree_ofEntries es⟩

end

variable {v w : Value} {es : List (Value × Value)} {name : String}

/-! ## 2. Looking into values -/

theorem isMarkupFree_neighbour {items : List Value} (h : ∀ x ∈ items, x.isMarkupFree = true)
    (i : Option Nat) (absence : String) : (neighbour items i absence).isMarkupFree = true := by
  unfold neighbour
  cases hfound : i.bind fun i => items[i]? with
  | none => rfl
  | some x =>
      obtain ⟨i, _, hx⟩ := Option.bind_eq_some_iff.mp hfound
      exact h x (List.mem_of_getElem? hx)

theorem isMarkupFree_loopMember {items : List Value} (h : ∀ x ∈ items, x.isMarkupFree = true)
    {i : Nat} (hw : loopMember? items i name = some w) : w.isMarkupFree = true := by
  unfold loopMember? at hw
  split at hw <;> cases hw
  case h_10 => exact isMarkupFree_neighbour h _ _
  case h_11 => exact isMarkupFree_neighbour h _ _
  all_goals rfl

theorem isMarkupFree_dateMember {d : Date} (hw : dateMember? d name = some w) :
    w.isMarkupFree = true := by
  unfold dateMember? at hw
  split at hw <;> cases hw <;> rfl

theorem isMarkupFree_momentMember {m : Moment} (hw : momentMember? m name = some w) :
    w.isMarkupFree = true := by
  unfold momentMember? at hw
  split at hw
  case h_6 =>
    cases hw
    split <;> rfl
  case h_10 => exact isMarkupFree_dateMember hw
  all_goals
    cases hw
    rfl

theorem isMarkupFree_numberMember {d : Data} (hw : numberMember? d name = some w) :
    w.isMarkupFree = true := by
  unfold numberMember? at hw
  split at hw
  · cases hw
    rfl
  · cases hw
    rfl
  · split at hw <;> cases hw <;> rfl

/-- Members that are no methods. -/
theorem isMarkupFree_property (h : v.isMarkupFree = true) (hw : v.property? name = some w) :
    w.isMarkupFree = true := by
  unfold property? at hw
  split at hw
  · cases hw
    rfl
  · split at hw <;> cases hw
    rfl
  · split at hw
    · exact isMarkupFree_dateMember hw
    · exact isMarkupFree_momentMember hw
    · exact isMarkupFree_numberMember hw
    · unfold zoneMember? at hw
      split at hw <;> cases hw <;> rfl
    · unfold spanMember? at hw
      split at hw <;> cases hw <;> rfl
    · exact isMarkupFree_loopMember (areMarkupFree_iff.mp h) hw
    · unfold kindMember? at hw
      split at hw <;> cases hw <;> rfl
    · unfold methodMember? at hw
      split at hw <;> cases hw
      case h_3 => exact h
      all_goals rfl
    · cases hw

theorem isMarkupFree_ownMember (h : v.isMarkupFree = true) (hw : v.ownMember? name = some w) :
    w.isMarkupFree = true := by
  unfold ownMember? at hw
  split at hw
  · rename_i hproperty
    cases hw
    exact isMarkupFree_property h hproperty
  · split at hw <;> cases hw
    exact h

theorem isMarkupFree_lookup {key : Value} (h : entriesAreMarkupFree es = true)
    (hw : lookup? es key = some w) : w.isMarkupFree = true := by
  obtain ⟨e, he, rfl⟩ := Option.map_eq_some_iff.mp hw
  exact (entriesAreMarkupFree_iff.mp h e (List.mem_of_find?_eq_some he)).2

/-- **A member.** -/
theorem isMarkupFree_member (h : v.isMarkupFree = true) (hw : v.member name = .ok w) :
    w.isMarkupFree = true := by
  unfold member at hw
  split at hw
  · cases hw
  · rename_i hown
    cases hw
    exact isMarkupFree_ownMember h hown
  · split at hw
    · cases hw
    · split at hw
      · rename_i hfound
        cases hw
        exact isMarkupFree_lookup h hfound
      · cases hw
        rfl
    · cases hw
      rfl

theorem mem_of_itemAt {xs : List Value} {i : Int} (h : itemAt? xs i = some w) : w ∈ xs := by
  unfold itemAt? at h
  dsimp only at h
  generalize (if i < 0 then i + (xs.length : Int) else i) = j at h
  by_cases hj : j < 0
  · rw [if_pos hj] at h
    cases h
  · rw [if_neg hj] at h
    exact List.mem_of_getElem? h

theorem isMarkupFree_keyed {key : Value} (h : v.isMarkupFree = true)
    (hw : v.keyed? key = some w) : w.isMarkupFree = true := by
  unfold keyed? at hw
  split at hw
  · split at hw
    · exact isMarkupFree_lookup h hw
    · cases hw
  · cases h
  · obtain ⟨i, _, hi⟩ := Option.bind_eq_some_iff.mp hw
    exact areMarkupFree_iff.mp h w (mem_of_itemAt hi)
  · obtain ⟨i, _, hi⟩ := Option.bind_eq_some_iff.mp hw
    exact areMarkupFree_iff.mp h w (mem_of_itemAt hi)
  · obtain ⟨i, _, hi⟩ := Option.bind_eq_some_iff.mp hw
    obtain ⟨c, _, rfl⟩ := List.mem_map.mp (mem_of_itemAt hi)
    rfl
  · obtain ⟨i, _, hi⟩ := Option.bind_eq_some_iff.mp hw
    obtain ⟨b, _, rfl⟩ := List.mem_map.mp (mem_of_itemAt hi)
    rfl
  · cases hw

/-- **An item.** -/
theorem isMarkupFree_item {key : Value} (h : v.isMarkupFree = true) (hw : v.item key = .ok w) :
    w.isMarkupFree = true := by
  unfold item at hw
  split at hw
  · cases hw
  · split at hw
    · rename_i hkeyed
      cases hw
      exact isMarkupFree_keyed h hkeyed
    · split at hw
      · split at hw
        · cases hw
        · rename_i hown
          cases hw
          exact isMarkupFree_ownMember h hown
        · cases hw
          rfl
      · cases hw
        rfl

theorem mem_of_mem_sliceItems {α : Type} {xs ys : List α} {start stop step : Option Int}
    (h : sliceItems xs start stop step = .ok ys) {y : α} (hy : y ∈ ys) : y ∈ xs := by
  unfold sliceItems at h
  dsimp only at h
  split at h
  · cases h
  · cases h
    obtain ⟨i, _, hi⟩ := List.mem_filterMap.mp hy
    exact List.mem_of_getElem? hi

/-- **A slice.** -/
theorem isMarkupFree_slice {start stop step : Option Value} (h : v.isMarkupFree = true)
    (hw : v.slice start stop step = .ok w) : w.isMarkupFree = true := by
  have hitems : ∀ {xs ys : List Value} {a b c : Option Int}, areMarkupFree xs = true →
      sliceItems xs a b c = .ok ys → areMarkupFree ys = true := fun hxs hys =>
    areMarkupFree_iff.mpr fun y hy => areMarkupFree_iff.mp hxs y (mem_of_mem_sliceItems hys hy)
  unfold slice at hw
  dsimp only at hw
  split at hw
  · cases hw
  obtain ⟨a, _, hw⟩ := except_bind_eq_ok.mp hw
  obtain ⟨b, _, hw⟩ := except_bind_eq_ok.mp hw
  obtain ⟨c, _, hw⟩ := except_bind_eq_ok.mp hw
  split at hw
  case h_6 => cases hw
  all_goals obtain ⟨ys, hys, hw⟩ := except_bind_eq_ok.mp hw
  all_goals cases hw
  · exact hitems h hys
  · exact hitems h hys
  · cases h
  · rfl
  · rfl

/-! ## 3. Calls and sequences -/

theorem entriesAreMarkupFree_put : ∀ {es : List (Value × Value)} {key value : Value},
    entriesAreMarkupFree es = true → key.isMarkupFree = true → value.isMarkupFree = true →
    entriesAreMarkupFree (put es key value) = true
  | [], key, value, _, hk, hv => by
      rw [put, entriesAreMarkupFree, hk, hv]
      rfl
  | (k, v) :: es, key, value, h, hk, hv => by
      rw [entriesAreMarkupFree, Bool.and_eq_true, Bool.and_eq_true] at h
      unfold put
      split
      · rw [entriesAreMarkupFree, h.1.1, hv, h.2]
        rfl
      · rw [entriesAreMarkupFree, h.1.1, h.1.2, entriesAreMarkupFree_put h.2 hk hv]
        rfl

/-- The entries that are written one by one. -/
theorem entriesAreMarkupFree_ofPairs
    (h : ∀ e ∈ es, e.1.isMarkupFree = true ∧ e.2.isMarkupFree = true) :
    entriesAreMarkupFree (ofPairs es) = true := by
  have hfold : ∀ (rest acc : List (Value × Value)), entriesAreMarkupFree acc = true →
      (∀ e ∈ rest, e.1.isMarkupFree = true ∧ e.2.isMarkupFree = true) →
      entriesAreMarkupFree (rest.foldl (fun acc e => put acc e.1 e.2) acc) = true := by
    intro rest
    induction rest with
    | nil => exact fun _ hacc _ => hacc
    | cons e rest ih =>
        intro acc hacc hrest
        obtain ⟨⟨hk, hv⟩, hrest⟩ := List.forall_mem_cons.mp hrest
        exact ih _ (entriesAreMarkupFree_put hacc hk hv) hrest
  exact hfold es [] rfl h

theorem isMarkupFree_range {start stop step : Int} (hw : range start stop step = .ok w) :
    w.isMarkupFree = true := by
  have hall : ∀ (count : Nat) (first : Int),
      areMarkupFree (integersFrom stop step count first) = true := by
    intro count
    induction count with
    | zero => exact fun _ => rfl
    | succ count ih =>
        intro first
        unfold integersFrom
        split
        · exact ih _
        · rfl
  unfold range at hw
  split at hw
  · cases hw
  · cases hw
    exact hall _ _

theorem isMarkupFree_make {kind : String} {args : List Value} {named : List (String × Value)}
    (hnamed : ∀ e ∈ named, e.2.isMarkupFree = true) (hw : make kind args named = .ok w) :
    w.isMarkupFree = true := by
  unfold make at hw
  split at hw
  · cases hw
    refine entriesAreMarkupFree_ofPairs fun e he => ?_
    obtain ⟨x, hx, rfl⟩ := List.mem_map.mp he
    exact ⟨rfl, hnamed x hx⟩
  · exact isMarkupFree_range hw
  · exact isMarkupFree_range hw
  · exact isMarkupFree_range hw
  · cases hw

/-- **A call.** -/
theorem isMarkupFree_call {args : List Value} {named : List (String × Value)}
    (h : v.isMarkupFree = true) (hargs : ∀ x ∈ args, x.isMarkupFree = true)
    (hnamed : ∀ e ∈ named, e.2.isMarkupFree = true) (hw : v.call args named = .ok w) :
    w.isMarkupFree = true := by
  have hget : ∀ {es : List (Value × Value)} {key default : Value}, entriesAreMarkupFree es = true →
      default.isMarkupFree = true → ((lookup? es key).getD default).isMarkupFree = true := by
    intro es key default hes hdefault
    cases hfound : lookup? es key with
    | none => exact hdefault
    | some x => exact isMarkupFree_lookup hes hfound
  unfold call at hw
  split at hw
  · cases hw
  · cases hw
    exact h
  · cases hw
    exact h
  · cases hw
    exact h
  · split at hw <;> cases hw
    exact hget h rfl
  · split at hw <;> cases hw
    exact hget h (hargs _ (List.mem_cons_of_mem _ List.mem_cons_self))
  · split at hw
    · rename_i hfound
      cases hw
      exact hargs _ (List.mem_of_getElem? hfound)
    · cases hw
  · exact isMarkupFree_make hnamed hw
  · cases hw

/-- **The items of a value.** -/
theorem isMarkupFree_items {xs : List Value} (h : v.isMarkupFree = true) (hxs : v.items = .ok xs) :
    ∀ x ∈ xs, x.isMarkupFree = true := by
  have hsome : v.items? = some xs := by
    unfold items at hxs
    split at hxs <;> cases hxs
    assumption
  cases v with
  | plain d =>
      obtain ⟨ds, _, rfl⟩ := Option.map_eq_some_iff.mp hsome
      exact areMarkupFree_iff.mp (areMarkupFree_ofItems ds)
  | markup s => cases h
  | undefined f =>
      cases hsome
      exact fun _ hx => absurd hx List.not_mem_nil
  | list ys | tuple ys | set ys =>
      cases hsome
      exact areMarkupFree_iff.mp h
  | mapping es =>
      cases hsome
      intro x hx
      obtain ⟨e, he, rfl⟩ := List.mem_map.mp hx
      exact (entriesAreMarkupFree_iff.mp h e he).1
  | view shown es =>
      cases hsome
      intro x hx
      obtain ⟨e, he, rfl⟩ := List.mem_map.mp hx
      obtain ⟨hkey, hvalue⟩ := entriesAreMarkupFree_iff.mp h e he
      cases shown with
      | items => exact areMarkupFree_iff.mpr (by simp [hkey, hvalue])
      | keys => exact hkey
      | values => exact hvalue
  | _ => cases hsome

end Value

/-! ## 4. Operators and filters -/

open Value

variable {v w : Value}

/-- A sum. -/
theorem isMarkupFree_add {u : Value} (hv : v.isMarkupFree = true) (hw : w.isMarkupFree = true)
    (h : add v w = .ok u) : u.isMarkupFree = true := by
  have happend : ∀ {xs ys : List Value}, areMarkupFree xs = true → areMarkupFree ys = true →
      areMarkupFree (xs ++ ys) = true := fun hxs hys => areMarkupFree_iff.mpr
    (List.forall_mem_append.mpr ⟨areMarkupFree_iff.mp hxs, areMarkupFree_iff.mp hys⟩)
  unfold add at h
  split at h
  · cases h
  · cases h
  · cases hv
  · cases hv
  · cases hw
  · cases h
    exact happend hv hw
  · cases h
    exact happend hv hw
  · cases h
    rfl
  · obtain ⟨d, _, rfl⟩ := except_map_eq_ok.mp h
    rfl
  · cases h

/-- A difference. -/
theorem isMarkupFree_subtract {u : Value} (h : subtract v w = .ok u) : u.isMarkupFree = true := by
  unfold subtract at h
  split at h
  · cases h
  · cases h
  · cases h
    rfl
  · split at h
    · cases h
      rfl
    · obtain ⟨d, _, rfl⟩ := except_map_eq_ok.mp h
      rfl
  · cases h

theorem isMarkupFree_negate (h : negate v = .ok w) : w.isMarkupFree = true := by
  unfold negate at h
  split at h
  · cases h
  · cases h
    rfl
  · cases h
    rfl
  · obtain ⟨i, _, rfl⟩ := except_map_eq_ok.mp h
    rfl
  · cases h

theorem isMarkupFree_affirm (h : affirm v = .ok w) : w.isMarkupFree = true := by
  unfold affirm at h
  split at h
  · cases h
  · cases h
    rfl
  · cases h
    rfl
  · obtain ⟨i, _, rfl⟩ := except_map_eq_ok.mp h
    rfl
  · cases h

/-- Without markup among them, values are put in a row as texts, whether markup is escaped or not. -/
theorem concatenate_markupFree {vs : List Value} (h : ∀ x ∈ vs, x.isMarkupFree = true)
    (escaping : Bool) : concatenate escaping vs =
      (vs.mapM Value.written >>= fun texts => .ok (.ofText (String.join texts))) := by
  unfold concatenate
  rw [not_any_isMarkup h, Bool.and_false]
  rfl

theorem isMarkupFree_follow : ∀ {keys : List Value} {v : Value}, v.isMarkupFree = true →
    follow v keys = .ok w → w.isMarkupFree = true
  | [], v, hv, h => by
      cases h
      exact hv
  | key :: rest, v, hv, h => by
      unfold follow at h
      obtain ⟨x, hx, h⟩ := except_bind_eq_ok.mp h
      exact isMarkupFree_follow (isMarkupFree_item hv hx) h

/-- Items without markup are joined as texts, whether markup is escaped or not. -/
theorem joinItems_markupFree {items : List Value} {separator : Value}
    (hitems : ∀ x ∈ items, x.isMarkupFree = true) (hseparator : separator.isMarkupFree = true)
    (escaping : Bool) : joinItems escaping items separator =
      (items.mapM Value.written >>= fun texts =>
        separator.written >>= fun s => .ok (.ofText (s.intercalate texts))) := by
  unfold joinItems
  rw [not_isMarkup hseparator, not_any_isMarkup hitems, Bool.or_self, Bool.and_false]
  rfl

theorem isMarkupFree_joinItems {items : List Value} {separator : Value} {escaping : Bool}
    (hitems : ∀ x ∈ items, x.isMarkupFree = true) (hseparator : separator.isMarkupFree = true)
    (h : joinItems escaping items separator = .ok w) : w.isMarkupFree = true := by
  rw [joinItems_markupFree hitems hseparator] at h
  obtain ⟨_, _, h⟩ := except_bind_eq_ok.mp h
  obtain ⟨_, _, h⟩ := except_bind_eq_ok.mp h
  cases h
  rfl

/-- **Without markup, joining gives the same**, whether markup is escaped or not, and no markup. -/
theorem join_markupFree {separator part : Option Value} (hv : v.isMarkupFree = true)
    (hseparator : ∀ x ∈ separator, x.isMarkupFree = true) :
    join true v separator part = join false v separator part ∧
      ∀ escaping, join escaping v separator part = .ok w → w.isMarkupFree = true := by
  have hsep : (separator.getD (.ofText "")).isMarkupFree = true := by
    cases separator with
    | none => rfl
    | some x => exact hseparator x rfl
  have hjoined : ∀ {items : List Value}, (∀ x ∈ items, x.isMarkupFree = true) →
      joinItems true items (separator.getD (.ofText "")) =
          joinItems false items (separator.getD (.ofText "")) ∧
        ∀ escaping, joinItems escaping items (separator.getD (.ofText "")) = .ok w →
          w.isMarkupFree = true := fun hitems =>
    ⟨(joinItems_markupFree hitems hsep true).trans (joinItems_markupFree hitems hsep false).symm,
      fun _ => isMarkupFree_joinItems hitems hsep⟩
  unfold join
  cases hall : v.items with
  | error f => exact ⟨rfl, fun _ h => by cases h⟩
  | ok items =>
      have hitems := isMarkupFree_items hv hall
      dsimp only [bind, Except.bind]
      split
      · exact hjoined hitems
      · exact hjoined hitems
      · -- what is joined are parts of the items then
        rename_i p _
        cases hparts : items.mapM fun x => follow x (pathOf p) with
        | error f => exact ⟨rfl, fun _ h => by cases h⟩
        | ok parts =>
            refine hjoined fun y hy => ?_
            obtain ⟨x, hx, hxy⟩ := exists_of_mem_mapM hparts hy
            exact isMarkupFree_follow (hitems x hx) hxy

/-- Arguments are among the values that are given. -/
theorem mem_of_argumentsFor {names : List String} {args : List Value}
    {named : List (String × Value)} {xs : List (Option Value)}
    (h : argumentsFor names args named = .ok xs) {x : Value} (hx : some x ∈ xs) :
    x ∈ args ∨ ∃ n, (n, x) ∈ named := by
  unfold argumentsFor at h
  dsimp only at h
  split at h
  · cases h
  · split at h
    · cases h
    · cases h
      rcases List.mem_append.mp hx with hx | hx
      · obtain ⟨y, hy, heq⟩ := List.mem_map.mp hx
        cases heq
        exact .inl hy
      · obtain ⟨n, _, hn⟩ := List.mem_map.mp hx
        obtain ⟨before, after, rfl, _⟩ := List.lookup_eq_some_iff.mp hn
        exact .inr ⟨n, List.mem_append_right _ List.mem_cons_self⟩

theorem applyFilter_join (escaping : Bool) (v : Value) (args : List Value)
    (named : List (String × Value)) : applyFilter escaping "join" v args named =
      (argumentsFor ["d", "attribute"] args named >>= fun given => match given with
        | [separator, part] => join escaping v separator part
        | _ => .error .unsupported) := rfl

/-- Only joining looks at whether markup is escaped. -/
theorem applyFilter_of_not_join {filter : String} (hfilter : filter ≠ "join") (v : Value)
    (args : List Value) (named : List (String × Value)) :
    applyFilter true filter v args named = applyFilter false filter v args named := by
  unfold applyFilter
  split
  · rfl
  · exact absurd rfl hfilter
  · rfl

theorem isMarkupFree_capitalizeValue (hv : v.isMarkupFree = true)
    (h : capitalizeValue v = .ok w) : w.isMarkupFree = true := by
  unfold capitalizeValue at h
  split at h
  case h_2 => cases hv
  all_goals
    cases h
    try rfl

theorem applyFilter_join_markupFree {args : List Value} {named : List (String × Value)}
    (hv : v.isMarkupFree = true) (hargs : ∀ x ∈ args, x.isMarkupFree = true)
    (hnamed : ∀ e ∈ named, e.2.isMarkupFree = true) :
    applyFilter true "join" v args named = applyFilter false "join" v args named ∧
      (applyFilter false "join" v args named = .ok w → w.isMarkupFree = true) := by
  rw [applyFilter_join, applyFilter_join]
  cases hgiven : argumentsFor ["d", "attribute"] args named with
  | error f => exact ⟨rfl, fun h => by cases h⟩
  | ok given =>
      dsimp only [bind, Except.bind]
      split
      · rename_i separator part
        have hseparator : ∀ x ∈ separator, x.isMarkupFree = true := by
          rintro x rfl
          rcases mem_of_argumentsFor hgiven List.mem_cons_self with hx | ⟨n, hx⟩
          · exact hargs x hx
          · exact hnamed (n, x) hx
        have hjoined := @join_markupFree v w separator part hv hseparator
        exact ⟨hjoined.1, hjoined.2 false⟩
      · exact ⟨rfl, fun h => by cases h⟩

/-- Besides joining, a single filter makes markup. -/
theorem isMarkupFree_applyFilter {filter : String} (hjoin : filter ≠ "join")
    (hsafe : filter ≠ "safe") {args : List Value} {named : List (String × Value)}
    (hv : v.isMarkupFree = true) (h : applyFilter false filter v args named = .ok w) :
    w.isMarkupFree = true := by
  unfold applyFilter at h
  split at h
  · -- a text that is replaced
    obtain ⟨_, _, h⟩ := except_bind_eq_ok.mp h
    obtain ⟨_, _, h⟩ := except_bind_eq_ok.mp h
    obtain ⟨_, _, h⟩ := except_bind_eq_ok.mp h
    cases h
    rfl
  · exact absurd rfl hjoin
  · obtain ⟨_, _, h⟩ := except_bind_eq_ok.mp h
    split at h
    · obtain ⟨items, hitems, h⟩ := except_bind_eq_ok.mp h
      cases h
      exact areMarkupFree_iff.mpr (isMarkupFree_items hv hitems)
    · exact absurd rfl hsafe
    · exact isMarkupFree_capitalizeValue hv h
    · obtain ⟨_, _, h⟩ := except_bind_eq_ok.mp h
      cases h
      rfl
    · obtain ⟨_, _, h⟩ := except_bind_eq_ok.mp h
      cases h
      rfl
    · cases h

/-- **Without markup every filter but the one that makes it gives the same**, whether markup is escaped
    or not, and no markup. -/
theorem applyFilter_markupFree {filter : String} (hfilter : filter ≠ "safe") {args : List Value}
    {named : List (String × Value)} (hv : v.isMarkupFree = true)
    (hargs : ∀ x ∈ args, x.isMarkupFree = true) (hnamed : ∀ e ∈ named, e.2.isMarkupFree = true) :
    applyFilter true filter v args named = applyFilter false filter v args named ∧
      (applyFilter false filter v args named = .ok w → w.isMarkupFree = true) := by
  by_cases hjoin : filter = "join"
  · subst hjoin
    exact applyFilter_join_markupFree hv hargs hnamed
  · exact ⟨applyFilter_of_not_join hjoin v args named,
      isMarkupFree_applyFilter hjoin hfilter hv⟩

/-! ## 5. Names -/

mutual

/-- The names a loop gives to an item. -/
theorem isMarkupFree_bind : ∀ {t : Target} {v : Value} {names : List (String × Value)},
    v.isMarkupFree = true → t.bind v = .ok names → ∀ e ∈ names, e.2.isMarkupFree = true
  | .name n, v, names, hv, h => by
      cases h
      exact List.forall_mem_singleton.mpr hv
  | .parts ts, v, names, hv, h => by
      rw [Target.bind] at h
      obtain ⟨xs, hxs, h⟩ := except_bind_eq_ok.mp h
      exact isMarkupFree_bindAll (isMarkupFree_items hv hxs) h

theorem isMarkupFree_bindAll : ∀ {ts : List Target} {xs : List Value}
    {names : List (String × Value)}, (∀ x ∈ xs, x.isMarkupFree = true) → bindAll ts xs = .ok names →
    ∀ e ∈ names, e.2.isMarkupFree = true
  | [], [], names, _, h => by
      cases h
      exact fun _ he => absurd he List.not_mem_nil
  | t :: ts, x :: xs, names, hxs, h => by
      rw [bindAll] at h
      obtain ⟨first, hfirst, h⟩ := except_bind_eq_ok.mp h
      obtain ⟨rest, hrest, h⟩ := except_bind_eq_ok.mp h
      cases h
      obtain ⟨hx, hxs⟩ := List.forall_mem_cons.mp hxs
      exact List.forall_mem_append.mpr
        ⟨isMarkupFree_bindAll hxs hrest, isMarkupFree_bind hx hfirst⟩
  | [], _ :: _, _, _, h => by cases h
  | _ :: _, [], _, _, h => by cases h

end

mutual

/-- The item that the names of a loop make up. -/
theorem isMarkupFree_rebuild {names : List (String × Value)}
    (h : ∀ e ∈ names, e.2.isMarkupFree = true) : ∀ t : Target, (t.rebuild names).isMarkupFree = true
  | .name n => by
      rw [Target.rebuild]
      cases hfound : names.lookup n with
      | none => rfl
      | some x =>
          obtain ⟨before, after, rfl, _⟩ := List.lookup_eq_some_iff.mp hfound
          exact h _ (List.mem_append_right _ List.mem_cons_self)
  | .parts ts => by
      rw [Target.rebuild]
      exact areMarkupFree_rebuildAll h ts

theorem areMarkupFree_rebuildAll {names : List (String × Value)}
    (h : ∀ e ∈ names, e.2.isMarkupFree = true) :
    ∀ ts : List Target, areMarkupFree (Target.rebuild.rebuildAll names ts) = true
  | [] => rfl
  | t :: ts => Bool.and_eq_true_iff.mpr
      ⟨isMarkupFree_rebuild h t, areMarkupFree_rebuildAll h ts⟩

end

/-- A name denotes no markup if none of the names around it does. -/
theorem isMarkupFree_scopeLookup {s : Scope} (h : ∀ e ∈ s.names, e.2.isMarkupFree = true)
    (name : String) : (s.lookup name).isMarkupFree = true := by
  have hcommon : ∀ e ∈ commonNames, e.2.isMarkupFree = true := by decide
  have hfound : ∀ {names : List (String × Value)} {x : Value}, names.lookup name = some x →
      (∀ e ∈ names, e.2.isMarkupFree = true) → x.isMarkupFree = true := by
    intro names x hx hnames
    obtain ⟨before, after, rfl, _⟩ := List.lookup_eq_some_iff.mp hx
    exact hnames _ (List.mem_append_right _ List.mem_cons_self)
  unfold Scope.lookup
  split
  · rename_i hx
    exact hfound hx h
  · split
    · rfl
    · cases hx : commonNames.lookup name with
      | none => rfl
      | some x => exact hfound hx hcommon

/-- **The names of a context denote no markup.** -/
theorem isMarkupFree_contextNames : ∀ {context : Entries} {names : List (String × Value)},
    contextNames context = .ok names → ∀ e ∈ names, e.2.isMarkupFree = true
  | [], names, h => by
      cases h
      exact fun _ he => absurd he List.not_mem_nil
  | (k, v) :: rest, names, h => by
      cases k with
      | text key =>
          rw [contextNames] at h
          split at h
          · cases h
          · obtain ⟨more, hmore, h⟩ := except_bind_eq_ok.mp h
            cases h
            exact List.forall_mem_cons.mpr
              ⟨isMarkupFree_ofData v, isMarkupFree_contextNames hmore⟩
      | _ => cases h

end DomainGen.Template
