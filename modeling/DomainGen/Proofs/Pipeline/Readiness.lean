import DomainGen.Proofs.Config.Outcome
import DomainGen.Proofs.FileTree.Length
import DomainGen.Proofs.Pipeline.Startup
import DomainGen.Proofs.Template.Cache
import DomainGen.Proofs.Template.Installed

/-!
# How setting up a pipeline ends

A pipeline needs an engine, a generator and the templates that the generator requires. The folder of
templates may be missing, or the set, or a policy, or some of the templates; a template may be no text in
the encoding, or its text no template. Most of this is an error of the configuration, but not all of it.

* `EngineError`, `engineOf_eq_error` : why there is no engine; `eq_of_engineOf` : an engine that is there
  has read nothing;
* `compileAll_texts` : reading templates that are named by texts; `ReadError`, `readTemplates_eq_error` :
  **why they are not read**;
* `Requires` : the templates a configuration requires; `SetUpError`, `ofConfig_eq_error` : **why there is
  no pipeline**;
* `SetUpFault`, `SetUpError.kind` : which of this is no error of the configuration;
* `ofConfig_outcome` : all of it together.
-/

namespace DomainGen

open Data Entries

/-! ## 1. The engine -/

namespace Pipeline

open Template (Builtin.sets Builtin.folder Builtin.sources)

variable {tree : FileTree} {c : Config} {e : Engine} {set s : String}

/-- The folder of a set can be looked at in any tree. -/
theorem holdsFolder_set (tree : FileTree) (hset : set ∈ templateSets) :
    tree.holdsFolder (Builtin.folder.append (Path.ofString set)) =
      .ok (tree.isFolder (Builtin.folder.append (Path.ofString set))) := by
  have hshort : ∀ set ∈ templateSets,
      ¬ FileTree.maxPathBytes < (Builtin.folder.append (Path.ofString set)).text.utf8ByteSize ∧
        ∀ name ∈ (Builtin.folder.append (Path.ofString set)).components,
          ¬ FileTree.maxNameBytes < name.utf8ByteSize := by
    decide +kernel
  refine FileTree.holdsFolder_of_not_overruns fun hlong => ?_
  obtain ⟨htext, hnames⟩ := hshort set hset
  rcases hlong.isLong with hsize | ⟨name, hname, hsize⟩
  · exact htext hsize
  · exact hnames name hname hsize

/-- With a folder of its own a configuration needs no set. -/
theorem engineOf_own (hset : set ∈ templateSets) (hc : c.templateSet = .text set)
    (hdir : c.templateDir = .text s) (hs : s ≠ "") : engineOf tree c =
      (tree.holdsFolder (Path.ofString s)).mapError .fault >>= fun there =>
        if there = true then
          .ok (Engine.make tree (Path.ofString s ::
            if tree.isFolder (Builtin.folder.append (Path.ofString set)) then
              [Builtin.folder.append (Path.ofString set)] else []) [] c.templateEncoding)
        else .error (.template (.folderNotFound (Path.ofString s).text)) := by
  have hname : ∀ set ∈ templateSets, (Data.text set).isTrue = true := by decide
  have htrue : (Data.text s).isTrue = true := bne_iff_ne.mpr hs
  unfold engineOf Engine.ofSettings
  rw [hc, hdir, htrue, hname set hset]
  dsimp only [Engine.pathOf, bind, Except.bind]
  cases tree.holdsFolder (Path.ofString s) with
  | error f => rfl
  | ok there =>
      cases there with
      | false => rfl
      | true =>
          dsimp only [Except.mapError]
          rw [holdsFolder_set tree hset]
          cases tree.isFolder (Builtin.folder.append (Path.ofString set)) <;> rfl

/-- Without one it needs the set to be there. -/
theorem engineOf_set (hset : set ∈ templateSets) (hc : c.templateSet = .text set)
    (hdir : c.templateDir.isTrue = false) : engineOf tree c =
      if tree.isFolder (Builtin.folder.append (Path.ofString set)) = true then
        .ok (Engine.make tree [Builtin.folder.append (Path.ofString set)] [] c.templateEncoding)
      else .error (.template (.unknownSet set Builtin.sets)) := by
  have hname : ∀ set ∈ templateSets, (Data.text set).isTrue = true := by decide
  unfold engineOf Engine.ofSettings
  rw [hc, hdir, hname set hset]
  dsimp only [Engine.pathOf, bind, Except.bind]
  rw [if_neg Bool.false_ne_true]
  dsimp only [pure, Except.pure]
  rw [holdsFolder_set tree hset]
  cases tree.isFolder (Builtin.folder.append (Path.ofString set)) <;> rfl

/-- The folders in which a configuration looks for templates, there or not. -/
def templateFolders (c : Config) : List Path :=
  (match c.templateDir with
    | .text s => if s = "" then [] else [Path.ofString s]
    | _ => []) ++
  match c.templateSet with
    | .text set => [Builtin.folder.append (Path.ofString set)]
    | _ => []

/-- Why there is no engine. -/
inductive EngineError (tree : FileTree) (c : Config) : Failure → Prop where
  /-- The folder of templates cannot be looked at. -/
  | unseen {name : String} (hdir : c.templateDir = .text name) (hname : name ≠ "")
      (h : tree.Overruns (Path.ofString name)) : EngineError tree c (.fault (.system .nameTooLong))
  /-- The folder of templates is not there. -/
  | noFolder {name : String} (hdir : c.templateDir = .text name) (hname : name ≠ "")
      (h : tree.holdsFolder (Path.ofString name) = .ok false) :
      EngineError tree c (.template (.folderNotFound (Path.ofString name).text))
  /-- There is no other folder than that of the set, which is not there. -/
  | noSet {name : String} (hset : c.templateSet = .text name) (hdir : c.templateDir.isTrue = false)
      (h : tree.isFolder (Builtin.folder.append (Path.ofString name)) = false) :
      EngineError tree c (.template (.unknownSet name Builtin.sets))

/-- A text that counts as true is not empty. -/
theorem text_isTrue {s : String} : (Data.text s).isTrue = true ↔ s ≠ "" := bne_iff_ne

/-- **When there is no engine.** -/
theorem engineOf_eq_error (hc : c.NamesTemplates) {f : Failure} :
    engineOf tree c = .error f ↔ EngineError tree c f := by
  obtain ⟨set, hset, hname⟩ := hc.set
  cases htrue : c.templateDir.isTrue with
  | false =>
      rw [engineOf_set hset hname htrue]
      constructor
      · intro h
        split at h
        · cases h
        · rename_i hfolder
          cases h
          exact .noSet hname htrue (Bool.eq_false_iff.mpr hfolder)
      · intro h
        cases h with
        | unseen hdir hs => cases (hdir ▸ htrue).symm.trans (text_isTrue.mpr hs)
        | noFolder hdir hs => cases (hdir ▸ htrue).symm.trans (text_isTrue.mpr hs)
        | noSet hset' _ hfolder =>
            cases hname.symm.trans hset'
            rw [hfolder]
            rfl
  | true =>
      obtain ⟨s, hdir, hs⟩ : ∃ s, c.templateDir = .text s ∧ s ≠ "" := by
        rcases hc.folder with hnull | ⟨s, hdir⟩
        · rw [hnull] at htrue
          cases htrue
        · rw [hdir] at htrue
          exact ⟨s, hdir, text_isTrue.mp htrue⟩
      rw [engineOf_own hset hname hdir hs, except_bind_eq_error, except_mapError_eq_error]
      constructor
      · rintro (⟨fault, hheld, rfl⟩ | ⟨there, hthere, h⟩)
        · obtain ⟨rfl, hlong⟩ := FileTree.holdsFolder_eq_error.mp hheld
          exact .unseen hdir hs hlong
        · cases there with
          | true => cases h
          | false =>
              cases h
              exact .noFolder hdir hs (except_mapError_eq_ok.mp hthere)
      · intro h
        cases h with
        | unseen hdir' _ hlong =>
            cases hdir.symm.trans hdir'
            exact .inl ⟨_, FileTree.holdsFolder_eq_error.mpr ⟨rfl, hlong⟩, rfl⟩
        | noFolder hdir' _ hnot =>
            cases hdir.symm.trans hdir'
            exact .inr ⟨false, except_mapError_eq_ok.mpr hnot, rfl⟩
        | noSet _ hfalse => cases htrue.symm.trans hfalse

/-- An engine that is there has read nothing and searches the folders of the configuration. -/
theorem eq_of_engineOf (hc : c.NamesTemplates) (h : engineOf tree c = .ok e) :
    e = .make tree (templateFolders c) [] c.templateEncoding := by
  obtain ⟨set, hset, hname⟩ := hc.set
  unfold templateFolders Engine.make
  rw [hname]
  dsimp only
  rcases hc.folder with hdir | ⟨s, hdir⟩
  · rw [engineOf_set hset hname (by rw [hdir]; rfl)] at h
    split at h
    · cases h
      rw [hdir]
      rfl
    · cases h
  · by_cases hs : s = ""
    · rw [engineOf_set hset hname (by rw [hdir, hs]; rfl)] at h
      split at h
      · cases h
        rw [hdir]
        dsimp only
        rw [if_pos hs]
        rfl
      · cases h
    · rw [engineOf_own hset hname hdir hs] at h
      obtain ⟨there, _, h⟩ := except_bind_eq_ok.mp h
      split at h
      · cases h
        rw [hdir]
        dsimp only
        rw [if_neg hs]
        unfold Engine.make
        cases hfolder : tree.isFolder (Builtin.folder.append (Path.ofString set)) with
        | true => rfl
        | false =>
            rw [if_neg Bool.false_ne_true]
            simp only [List.singleton_append, List.filter_cons, hfolder, List.filter_nil,
              Bool.false_eq_true, if_false]
      · cases h

/-! ## 2. Reading the templates -/

section Reading

variable {names : List String}

/-- Texts are looked for up to the first that cannot be. -/
theorem missing_texts_error {f : Failure} : ∀ {names : List String},
    missing tree e (names.map .text) = .error f ↔
      ∃ fault, names.mapM (e.source? tree) = .error fault ∧ f = .fault fault
  | [] => by
      constructor
      · intro h
        cases h
      · rintro ⟨_, h, _⟩
        cases h
  | n :: rest => by
      have hhead : missing tree e ((n :: rest).map .text) =
          (e.source? tree n).mapError .fault >>= fun found =>
            (missing tree e (rest.map .text)).map fun others =>
              if found.isSome then others else .text n :: others := by
        rw [List.map_cons, missing, provides_eq]
        cases e.source? tree n with
        | error fault => rfl
        | ok found => cases missing tree e (rest.map .text) <;> rfl
      have htail : (n :: rest).mapM (e.source? tree) =
          e.source? tree n >>= fun found => (rest.mapM (e.source? tree)).map (found :: ·) := by
        rw [List.mapM_cons]
        cases e.source? tree n with
        | error fault => rfl
        | ok found => cases rest.mapM (e.source? tree) <;> rfl
      rw [hhead, htail]
      simp only [except_bind_eq_error, except_map_eq_error, except_mapError_eq_error,
        except_mapError_eq_ok]
      constructor
      · rintro (⟨fault, h, rfl⟩ | ⟨found, hfound, h⟩)
        · exact ⟨fault, .inl h, rfl⟩
        · obtain ⟨fault, hrest, rfl⟩ := missing_texts_error.mp h
          exact ⟨fault, .inr ⟨found, hfound, hrest⟩, rfl⟩
      · rintro ⟨fault, h | ⟨found, hfound, h⟩, rfl⟩
        · exact .inl ⟨fault, h, rfl⟩
        · exact .inr ⟨found, hfound, missing_texts_error.mpr ⟨fault, h, rfl⟩⟩

/-- **What reading some texts gives**, each of them once: they are given in order, and the engine stays
    as good as it was meanwhile. -/
theorem compileAll_texts : ∀ (texts seen : List String) (e : Engine),
    (Engine.compileAll tree e (texts.map .text) (seen.map .text)).2 =
      ((texts.filter fun n => !seen.contains n).eraseDups.mapM (e.given tree)).map fun _ =>
        (seen ++ (texts.filter fun n => !seen.contains n).eraseDups).map .text
  | [], seen, e => by
      rw [List.filter_nil, List.eraseDups_nil, List.append_nil]
      rfl
  | n :: rest, seen, e => by
      rw [List.map_cons]
      unfold Engine.compileAll
      rw [any_equal_text]
      cases hn : seen.contains n with
      | true =>
          rw [List.filter_cons_of_neg (by rw [hn]; decide)]
          exact compileAll_texts rest seen e
      | false =>
          have hnext := compileAll_texts rest (seen ++ [n]) (e.compile tree (.text n)).1
          have hgiven : (e.compile tree (.text n)).1.given tree = e.given tree :=
            (funext (Engine.alike_compile e tree (.text n)).given_eq).symm
          have hread : (e.compile tree (.text n)).2 = e.given tree n := by
            rw [Engine.compile_result]
            rfl
          rw [filter_unseen, hgiven, List.append_assoc, List.map_append] at hnext
          rw [List.filter_cons_of_pos (by rw [hn]; rfl), List.eraseDups_cons, List.mapM_cons, ← hread]
          rcases hc : e.compile tree (.text n) with ⟨next, f | t⟩ <;> rw [hc] at hnext
          · rfl
          · rw [if_neg Bool.false_ne_true]
            dsimp only
            refine hnext.trans ?_
            dsimp only [bind, Except.bind]
            cases List.mapM (e.given tree) _ <;> rfl

/-- Each of some texts is read once. -/
theorem compileAll_eraseDups (texts : List String) (e : Engine) :
    (Engine.compileAll tree e (texts.map .text) []).2 =
      (texts.eraseDups.mapM (e.given tree)).map fun _ => texts.eraseDups.map .text := by
  have hall : (Engine.compileAll tree e (texts.map .text) []).2 = _ := compileAll_texts texts [] e
  have hnone : (texts.filter fun n => !([] : List String).contains n) = texts :=
    List.filter_eq_self.mpr fun _ _ => rfl
  rw [hnone, List.nil_append] at hall
  exact hall

/-- Why some templates are not read: one of them cannot be looked for; else some are not there; else
    one of them has a defect. What comes first in the list counts. -/
inductive ReadError (tree : FileTree) (e : Engine) (names : List String) : Failure → Prop where
  | unreadable {before after : List String} {n : String} {f : Fault}
      (hnames : names = before ++ n :: after)
      (hbefore : ∀ m ∈ before, ∃ found, e.source? tree m = .ok found)
      (hn : e.source? tree n = .error f) : ReadError tree e names (.fault f)
  | missing (hall : ∀ n ∈ names, ∃ found, e.source? tree n = .ok found)
      (hgone : (names.filter fun n => e.source? tree n = .ok none) ≠ []) :
      ReadError tree e names
        (.template (.missing (names.filter fun n => e.source? tree n = .ok none)))
  | defective {before after : List String} {n : String} {f : Failure}
      (hall : ∀ n ∈ names, ∃ found, e.source? tree n = .ok (some found))
      (hnames : names = before ++ n :: after)
      (hbefore : ∀ m ∈ before, ∃ t, e.given tree m = .ok t) (hn : e.given tree n = .error f) :
      ReadError tree e names f

/-- All templates can be looked for and none is missing. -/
theorem found_of_none_missing (hall : ∀ n ∈ names, ∃ found, e.source? tree n = .ok found)
    (hnone : (names.filter fun n => e.source? tree n = .ok none) = []) :
    ∀ n ∈ names, ∃ found, e.source? tree n = .ok (some found) := by
  intro n hn
  obtain ⟨found, hfound⟩ := hall n hn
  cases found with
  | some x => exact ⟨x, hfound⟩
  | none => exact absurd (decide_eq_true hfound) (List.filter_eq_nil_iff.mp hnone n hn)

theorem none_missing_of_found (hall : ∀ n ∈ names, ∃ found, e.source? tree n = .ok (some found)) :
    (names.filter fun n => e.source? tree n = .ok none) = [] := by
  refine List.filter_eq_nil_iff.mpr fun n hn hnone => ?_
  obtain ⟨found, hfound⟩ := hall n hn
  cases hfound.symm.trans (of_decide_eq_true hnone)

/-- Templates that texts name are looked for, each once, and read if none is missing. -/
theorem readTemplates_texts (texts : List String) : readTemplates tree e (texts.map .text) =
    missing tree e (texts.eraseDups.map .text) >>= fun gone =>
      if gone = [] then (Engine.compileAll tree e (texts.map .text) []).2 >>= fun read =>
        (read.mapM listed).mapError .fault >>= fun _ =>
          .ok (Engine.compileAll tree e (texts.map .text) []).1
      else (gone.mapM listed).mapError .fault >>= fun names => .error (.template (.missing names)) := by
  unfold readTemplates
  rw [distinct_eraseDups]
  dsimp only [bind, Except.bind, Except.mapError]
  cases missing tree e (texts.eraseDups.map .text) with
  | error f => rfl
  | ok gone => cases gone <;> rfl

/-- **When some templates are not read.** -/
theorem readTemplates_eq_error {texts : List String} {f : Failure} :
    readTemplates tree e (texts.map .text) = .error f ↔ ReadError tree e texts.eraseDups f := by
  have hread : (Engine.compileAll tree e (texts.map .text) []).2 = _ := compileAll_eraseDups texts e
  have hlist : ∀ ns : List String, (ns.map Data.text).mapM listed = .ok ns := fun ns =>
    listed_texts.mpr rfl
  rw [readTemplates_texts, except_bind_eq_error]
  constructor
  · rintro (h | ⟨gone, hgone, h⟩)
    · obtain ⟨fault, hfault, rfl⟩ := missing_texts_error.mp h
      obtain ⟨before, n, after, heq, hbefore, hn⟩ := mapM_eq_error.mp hfault
      exact .unreadable heq hbefore hn
    · obtain ⟨hall, rfl⟩ := missing_texts.mp hgone
      split at h
      · rename_i hnone
        have hfound := found_of_none_missing hall (List.map_eq_nil_iff.mp hnone)
        rw [hread] at h
        rcases except_bind_eq_error.mp h with h | ⟨read, hok, h⟩
        · cases hm : texts.eraseDups.mapM (e.given tree) with
          | ok ts =>
              rw [hm] at h
              cases h
          | error f' =>
              rw [hm] at h
              cases h
              obtain ⟨before, n, after, heq, hbefore, hn⟩ := mapM_eq_error.mp hm
              exact .defective hfound heq hbefore hn
        · obtain ⟨_, _, rfl⟩ := except_map_eq_ok.mp hok
          rw [hlist] at h
          cases h
      · rename_i hsome
        rw [hlist] at h
        cases h
        exact .missing hall fun hnone => hsome (List.map_eq_nil_iff.mpr hnone)
  · intro h
    cases h with
    | unreadable heq hbefore hn =>
        exact .inl (missing_texts_error.mpr
          ⟨_, mapM_eq_error.mpr ⟨_, _, _, heq, hbefore, hn⟩, rfl⟩)
    | missing hall hgone =>
        refine .inr ⟨_, missing_texts.mpr ⟨hall, rfl⟩, ?_⟩
        rw [if_neg fun hnone => hgone (List.map_eq_nil_iff.mp hnone), hlist]
        rfl
    | defective hall heq hbefore hn =>
        have hfound : ∀ n ∈ texts.eraseDups, ∃ found, e.source? tree n = .ok found :=
          fun n hn => Exists.elim (hall n hn) fun found h => ⟨some found, h⟩
        refine .inr ⟨_, missing_texts.mpr ⟨hfound, rfl⟩, ?_⟩
        rw [none_missing_of_found hall, List.map_nil, if_pos rfl, hread,
          mapM_eq_error.mpr ⟨_, _, _, heq, hbefore, hn⟩]
        rfl

end Reading

end Pipeline

/-! ## 3. The generator -/

/-- **A checked configuration gives no generator only for want of a policy.** -/
theorem Config.Checked.generator_failsAs {c : Config} (h : c.Checked) (folder : List String) :
    FailsAs (fun f => ∃ kind, f = .config (.noPolicy (roleOf kind))) (Generator.ofConfig folder c) := by
  have hpolicy : ∀ kind, FailsAs (fun f => ∃ kind, f = .config (.noPolicy (roleOf kind)))
      (c.policyFor kind) := by
    intro kind
    refine .bind_of_ok (fun f hf => ?_) fun o ho => ?_
    · obtain ⟨problem, hproblem, rfl⟩ := except_mapError_eq_error.mp hf
      unfold optionsFor at hproblem
      split at hproblem
      · cases hproblem
      · cases hproblem
        exact ⟨kind, rfl⟩
    · have hopt := optionsFor_eq_ok.mp (except_mapError_eq_ok.mp ho)
      obtain ⟨x, hx, rfl⟩ := Option.map_eq_some_iff.mp hopt
      obtain ⟨p, hp⟩ := h.options x (List.mem_of_find?_eq_some hx)
      rw [hp, PolicyOptions.policy?_options]
      exact .ok p
  exact (hpolicy none).bind fun _ => (hpolicy _).bind fun _ => (hpolicy _).bind fun _ =>
    (hpolicy _).bind fun _ => .ok _

namespace Pipeline

variable {tree : FileTree} {c : Config} {e : Engine} {names : List String}

/-- A generator of such a configuration requires templates with texts as names. -/
theorem requiredTemplates_texts (hc : c.NamesTemplates) {g : Generator}
    (hg : Generator.ofConfig tree.workingFolder c = .ok g) :
    ∃ texts : List String, g.requiredTemplates = .ok (texts.map .text) := by
  unfold Generator.requiredTemplates
  rw [(Generator.ofConfig_eq_ok.mp hg).1]
  obtain ⟨ds, hds⟩ := mapM_ok_iff.mpr fun role hrole =>
    (hc.template role hrole).elim fun n hn => (⟨.text n, hn⟩ : ∃ d, c.templateFor role = .ok d)
  obtain ⟨texts, rfl⟩ : ∃ texts : List String, ds = texts.map .text := exists_texts fun d hd => by
    obtain ⟨role, hrole, hd⟩ := exists_of_mem_mapM hds hd
    obtain ⟨n, hn⟩ := hc.template role hrole
    exact ⟨n, Except.ok.inj (hd.symm.trans hn)⟩
  exact ⟨texts, hds⟩

/-! ## 4. Main result -/

/-- There are an engine and a generator, and the generator requires templates of these names, each listed
    once. -/
def Requires (tree : FileTree) (c : Config) (e : Engine) (names : List String) : Prop :=
  engineOf tree c = .ok e ∧ ∃ g, ∃ texts : List String,
    Generator.ofConfig tree.workingFolder c = .ok g ∧
      g.requiredTemplates = .ok (texts.map .text) ∧ names = texts.eraseDups

/-- A configuration has one engine and requires one list of templates. -/
theorem Requires.unique {e' : Engine} {names' : List String} (h : Requires tree c e names)
    (h' : Requires tree c e' names') : e = e' ∧ names = names' := by
  obtain ⟨he, g, texts, hg, htexts, rfl⟩ := h
  obtain ⟨he', g', texts', hg', htexts', rfl⟩ := h'
  cases hg.symm.trans hg'
  have hsame : texts.map Data.text = texts'.map Data.text := Except.ok.inj (htexts.symm.trans htexts')
  have htexts : texts = texts' := List.map_injective_iff.mpr (fun _ _ h => Data.text.inj h) hsame
  exact ⟨Except.ok.inj (he.symm.trans he'), congrArg List.eraseDups htexts⟩

/-- The engine of a configuration has read nothing. -/
theorem Requires.unread_eq (hc : c.NamesTemplates) (h : Requires tree c e names) : e.unread = e := by
  rw [eq_of_engineOf hc h.1]
  rfl

/-- Which files the engine of a configuration cannot read. -/
theorem Requires.source?_eq_error (hc : c.NamesTemplates) (h : Requires tree c e names)
    {encoding n : String} {f : Fault} (hencoding : c.templateEncoding = .text encoding) :
    e.source? tree n = .error f ↔ Engine.FileError tree e.folders encoding n f := by
  have hmade := eq_of_engineOf hc h.1
  exact Engine.source?_eq_error (by rw [hmade]; rfl) (by rw [hmade]; exact hencoding)

/-- Why there is no pipeline: there is no engine, no generator, or not all templates. -/
inductive SetUpError (tree : FileTree) (c : Config) : Failure → Prop where
  | engine {f : Failure} (h : EngineError tree c f) : SetUpError tree c f.ofSetup
  | generator {e : Engine} {kind : Option Kind} (he : engineOf tree c = .ok e)
      (h : Generator.ofConfig tree.workingFolder c = .error (.config (.noPolicy (roleOf kind)))) :
      SetUpError tree c (.config (.noPolicy (roleOf kind)))
  | templates {e : Engine} {names : List String} {f : Failure} (h : Requires tree c e names)
      (hf : ReadError tree e names f) : SetUpError tree c f.ofSetup

/-- A fault on the way to a pipeline: the folder of templates cannot be looked at, the file of a template
    cannot be read in the encoding, or its source has the form of a template but no meaning. -/
inductive SetUpFault (tree : FileTree) (c : Config) : Fault → Prop where
  | unseen {name : String} (hdir : c.templateDir = .text name) (hname : name ≠ "")
      (h : tree.Overruns (Path.ofString name)) : SetUpFault tree c (.system .nameTooLong)
  | unreadable {e : Engine} {names : List String} {n encoding : String} {f : Fault}
      (h : Requires tree c e names) (hn : n ∈ names) (hencoding : c.templateEncoding = .text encoding)
      (hf : Engine.FileError tree e.folders encoding n f) : SetUpFault tree c f
  | meaningless {e : Engine} {names : List String} {n : String} {f : Fault}
      (h : Requires tree c e names) (hn : n ∈ names) (hf : Engine.HasDefect tree e n (.fault f)) :
      SetUpFault tree c f

/-- **When there is no pipeline.** -/
theorem ofConfig_eq_error (hchecked : c.Checked) (hc : c.NamesTemplates) {f : Failure} :
    ofConfig tree c = .error f ↔ SetUpError tree c f := by
  unfold ofConfig
  rw [except_bind_eq_error, except_mapError_eq_error]
  simp only [except_mapError_eq_ok]
  constructor
  · rintro (⟨f, hf, rfl⟩ | ⟨e, he, h⟩)
    · exact .engine ((engineOf_eq_error hc).mp hf)
    · rcases except_bind_eq_error.mp h with hf | ⟨g, hg, h⟩
      · obtain ⟨kind, rfl⟩ := hchecked.generator_failsAs _ _ hf
        exact .generator he hf
      · obtain ⟨texts, htexts⟩ := requiredTemplates_texts hc hg
        rw [htexts] at h
        rcases except_bind_eq_error.mp h with h | ⟨_, _, h⟩
        · cases h
        · rename_i required hrequired
          cases hrequired
          rcases except_bind_eq_error.mp h with h | ⟨_, _, h⟩
          · obtain ⟨f, hf, rfl⟩ := except_mapError_eq_error.mp h
            exact .templates ⟨he, g, texts, hg, htexts, rfl⟩ (readTemplates_eq_error.mp hf)
          · cases h
  · intro h
    cases h with
    | engine hf => exact .inl ⟨_, (engineOf_eq_error hc).mpr hf, rfl⟩
    | generator he hg => exact .inr ⟨_, he, except_bind_eq_error.mpr (.inl hg)⟩
    | templates h hf =>
        obtain ⟨he, g, texts, hg, htexts, rfl⟩ := h
        refine .inr ⟨_, he, except_bind_eq_error.mpr (.inr ⟨g, hg, ?_⟩)⟩
        refine except_bind_eq_error.mpr (.inr ⟨_, htexts, ?_⟩)
        refine except_bind_eq_error.mpr (.inl (except_mapError_eq_error.mpr ⟨_, ?_, rfl⟩))
        exact readTemplates_eq_error.mpr hf

/-- **What is no error of the configuration is a fault of a file or a source.** -/
theorem SetUpError.kind (hc : c.NamesTemplates) {f : Failure} (h : SetUpError tree c f) :
    (∃ problem, f = .config problem) ∨ ∃ fault, f = .fault fault ∧ SetUpFault tree c fault := by
  obtain ⟨encoding, hencoding⟩ := hc.encoding
  cases h with
  | engine h =>
      cases h with
      | unseen hdir hname hlong => exact .inr ⟨_, rfl, .unseen hdir hname hlong⟩
      | noFolder _ _ _ => exact .inl ⟨_, rfl⟩
      | noSet _ _ _ => exact .inl ⟨_, rfl⟩
  | generator _ _ => exact .inl ⟨_, rfl⟩
  | @templates e names f h hf =>
      cases hf with
      | @unreadable _ _ n _ hnames _ hn =>
          have hmem : n ∈ names := by
            rw [hnames]
            exact List.mem_append_right _ List.mem_cons_self
          exact .inr ⟨_, rfl, .unreadable h hmem hencoding ((h.source?_eq_error hc hencoding).mp hn)⟩
      | missing _ _ => exact .inl ⟨_, rfl⟩
      | @defective _ _ n _ hall hnames _ hn =>
          have hmem : n ∈ names := by
            rw [hnames]
            exact List.mem_append_right _ List.mem_cons_self
          obtain ⟨found, hfound⟩ := hall n hmem
          obtain ⟨d, hd, rfl⟩ := (Engine.given_eq_error (h.unread_eq hc) hfound).mp hn
          cases d with
          | form => exact .inl ⟨_, rfl⟩
          | fault fault => exact .inr ⟨fault, rfl, .meaningless h hmem hd⟩

/-- A pipeline that is there was given every template it requires. -/
theorem exists_requires (hc : c.NamesTemplates) {p : Pipeline Engine} (h : ofConfig tree c = .ok p) :
    ∃ e names, Requires tree c e names ∧ ∀ n ∈ names, ∃ t, e.given tree n = .ok t := by
  obtain ⟨e, he, h⟩ := ofConfig_eq_ok.mp h
  obtain ⟨required, hg, hrequired, hread, _⟩ := ofEngine_eq_ok.mp h
  obtain ⟨texts, htexts⟩ := requiredTemplates_texts hc hg
  cases hrequired.symm.trans htexts
  obtain ⟨_, _, _, _, _, hcompiled, _⟩ := readTemplates_eq_ok.mp (except_mapError_eq_ok.mp hread)
  rw [compileAll_eraseDups] at hcompiled
  obtain ⟨ts, hts, _⟩ := except_map_eq_ok.mp hcompiled
  exact ⟨e, _, ⟨he, _, texts, hg, htexts, rfl⟩, mapM_ok_iff.mp ⟨ts, hts⟩⟩

/-- **Setting up a pipeline ends in a pipeline, in a configuration error, or in a fault.** It is a fault
    if the folder of templates cannot be looked at, if the file of a required template cannot be read in
    the encoding, or if its source has the form of a template but no meaning. Where none of this is so, a
    required template that is missing or not valid ends it in a configuration error. A file that cannot
    be read always ends it in a fault. A pipeline that is set up was given all templates it requires. -/
theorem ofConfig_outcome {settings : FileTree} {es : Entries} {file asked : Option String}
    (hes : es.TextsOnce) (hload : Config.load settings (.mapping es) file asked = .ok c)
    (hover : Config.namesTemplates es = true)
    (hfile : ∀ fs, Config.fromFile settings file = .ok fs → Config.namesTemplates fs = true)
    (tree : FileTree) :
    (∀ f, ofConfig tree c = .error f ↔ SetUpError tree c f) ∧
    (∀ f, ofConfig tree c = .error f →
      (∃ problem, f = .config problem) ∨ ∃ fault, f = .fault fault ∧ SetUpFault tree c fault) ∧
    (∀ e names, Requires tree c e names →
      (∀ n ∈ names, ∀ encoding f, c.templateEncoding = .text encoding →
        Engine.FileError tree e.folders encoding n f → ∃ f, ofConfig tree c = .error (.fault f)) ∧
      ((∀ fault, ¬ SetUpFault tree c fault) → ∀ n ∈ names,
        e.source? tree n = .ok none ∨ Engine.HasDefect tree e n .form →
          ∃ problem, ofConfig tree c = .error (.config problem))) ∧
    ∀ p, ofConfig tree c = .ok p →
      ∃ e names, Requires tree c e names ∧ ∀ n ∈ names, ∃ t, e.given tree n = .ok t := by
  obtain ⟨hchecked, hc⟩ := Config.namesTemplates_load hes hload hover hfile
  have hkind : ∀ f, ofConfig tree c = .error f →
      (∃ problem, f = .config problem) ∨ ∃ fault, f = .fault fault ∧ SetUpFault tree c fault :=
    fun f h => ((ofConfig_eq_error hchecked hc).mp h).kind hc
  refine ⟨fun f => ofConfig_eq_error hchecked hc, hkind, fun e names h => ?_,
    fun p hp => exists_requires hc hp⟩
  constructor
  · intro n hn encoding f hencoding hf
    have hsource : e.source? tree n = .error f := (h.source?_eq_error hc hencoding).mpr hf
    cases hall : names.mapM (e.source? tree) with
    | ok found =>
        obtain ⟨x, _, hx⟩ := exists_mem_of_mapM hall hn
        cases hsource.symm.trans hx
    | error fault =>
        obtain ⟨before, m, after, hnames, hbefore, hm⟩ := mapM_eq_error.mp hall
        exact ⟨fault, (ofConfig_eq_error hchecked hc).mpr
          (.templates h (.unreadable hnames hbefore hm))⟩
  · intro hnone n hn hbad
    cases hp : ofConfig tree c with
    | ok p =>
        obtain ⟨e', names', h', hgiven⟩ := exists_requires hc hp
        obtain ⟨rfl, rfl⟩ := h.unique h'
        obtain ⟨t, ht⟩ := hgiven n hn
        obtain ⟨f, hf⟩ := Engine.exists_given_error (h.unread_eq hc)
          (hbad.imp_right fun hd => ⟨_, hd⟩)
        cases ht.symm.trans hf
    | error f =>
        rcases hkind f hp with ⟨problem, rfl⟩ | ⟨fault, rfl, hfault⟩
        · exact ⟨problem, rfl⟩
        · exact absurd hfault (hnone fault)

/-- A folder with templates. -/
def ownTemplates : Entries := ofFields [("template_dir", .text "t")]

/-- The folder with one template, whose bytes are no text. -/
def brokenFile : FileTree := ⟨[(["t"], .folder), (["t", "aggregate.j2"], .file [0xff])], []⟩

/-- That a template cannot be read is not reported as an error of the configuration. -/
theorem ofConfig_brokenFile : ∃ c, Config.load ⟨[], []⟩ (.mapping ownTemplates) none none = .ok c ∧
    ofConfig brokenFile c = .error (.fault .undecodable) := by
  refine ⟨_, rfl, ?_⟩
  decide +kernel

theorem ofConfig_outcome_ownTemplates : ownTemplates.TextsOnce ∧
    Config.namesTemplates ownTemplates = true ∧
    ∃ c, Config.load ⟨[], []⟩ (.mapping ownTemplates) none none = .ok c ∧
      SetUpFault brokenFile c .undecodable ∧
      SetUpError ⟨[(["t"], .folder)], []⟩ c (.config (.templates (.missing
        ["aggregate.j2", "command.j2", "event.j2", "fault.j2", "module.j2"]))) := by
  have honce : ownTemplates.TextsOnce := show ownTemplates.textKeys.Nodup by decide
  have hnames : Config.namesTemplates ownTemplates = true := by decide
  have hnofile : ∀ fs, Config.fromFile ⟨[], []⟩ none = .ok fs → Config.namesTemplates fs = true := by
    intro fs h
    cases h
    decide
  obtain ⟨c, hload, hbroken, hempty⟩ : ∃ c,
      Config.load ⟨[], []⟩ (.mapping ownTemplates) none none = .ok c ∧
        ofConfig brokenFile c = .error (.fault .undecodable) ∧
        ∃ e, engineOf ⟨[(["t"], .folder)], []⟩ c = .ok e ∧ Misses ⟨[(["t"], .folder)], []⟩ c e
          ["aggregate.j2", "command.j2", "event.j2", "fault.j2", "module.j2"] := by
    refine ⟨_, rfl, by decide +kernel, _, rfl, _, standardTexts, rfl, rfl, fun n hn => ?_,
      by decide +kernel, List.cons_ne_nil _ _⟩
    refine exists_ok_of_isSome ?_
    revert n
    decide +kernel
  refine ⟨honce, hnames, c, hload, ?_, ?_⟩
  · obtain ⟨_, hkind, _⟩ := ofConfig_outcome honce hload hnames hnofile brokenFile
    rcases hkind _ hbroken with ⟨_, h⟩ | ⟨_, h, hfault⟩
    · cases h
    · cases h
      exact hfault
  · obtain ⟨herror, _⟩ := ofConfig_outcome honce hload hnames hnofile ⟨[(["t"], .folder)], []⟩
    exact (herror _).mp (ofConfig_missing_iff.mpr hempty)

end Pipeline

end DomainGen
