import DomainGen.Proofs.Generation.Confinement
import DomainGen.Proofs.Pipeline.Agreement
import DomainGen.Proofs.Pipeline.Atomicity
import DomainGen.Proofs.Sink.Footprint

/-!
# Reports and the files on disk

A pipeline that is not atomic hands its files over one by one, and a directory makes the folder, opens
the file and then encodes the text. Each of these steps can fail. When it is the encoding that refuses,
the file is open already: it stays behind without a text, although no outcome lists it and the directory
has not written it down. No other fault leaves a trace in the files.

* `journalSink`, `Stream.journal` : what was handed over and what became of it, kept beside a run that
  does not notice; `Sink.Logs` : a view that shows this;
* `Stream.Run.refused` : every refusal belongs to an outcome that failed with its fault;
* `Fault.ofEncoding`, `FileTree.writeText_eq_some` : what a text that is refused leaves;
* `Directory.Touched`, `directorySink_touched` : what one hand-over does to the file at a place;
* `Directory.Shows` : the INVARIANT: below the root there is what the journal leaves, the last
  hand-over at each place; `shows_journal` : each file keeps to it;
* `Directory.Mirrors` : the files are the listed ones; `Shows.mirrors_iff` : when that is so;
* `Stream.processAll_onDisk` : **after a whole run, what the report, the directory and the files say of
  one another**; `refused_file_left` : a file that the report does not know.
-/

namespace DomainGen

open FileTree

variable {σ τ ρ : Type}

/-! ## 1. Journals -/

/-- A file that was handed over, and the fault if it was refused. -/
abbrev HandOver := GeneratedFile × Option Fault

/-- The files that were taken. -/
def taken (handed : List HandOver) : List GeneratedFile :=
  (handed.filter (·.2.isNone)).map (·.1)

/-- The state of a sink with a journal. -/
structure Journaled (σ : Type) where
  /-- The state of the sink. -/
  target : σ
  /-- What was handed over, in order. -/
  handed : List HandOver

/-- Passes files on and writes down what became of each. -/
def journalSink (sink : Sink σ) : Sink (Journaled σ) :=
  fun j f => (⟨(sink j.target f).1, j.handed ++ [(f, (sink j.target f).2)]⟩, (sink j.target f).2)

/-- What a pipeline that starts with some items hands over to a sink. -/
def Stream.journal (sink : Sink σ) (p : Pipeline ρ) (s : σ) (items : List (Option InputDocument)) :
    List HandOver :=
  ((Stream.start p ⟨s, []⟩).processAll (journalSink sink) items).1.sink.handed

theorem taken_concat (handed : List HandOver) (h : HandOver) :
    taken (handed ++ [h]) = taken handed ++ if h.2.isNone then [h.1] else [] := by
  unfold taken
  rw [List.filter_append, List.map_append, List.filter_singleton]
  cases h.2.isNone <;> rfl

namespace Sink

/-- **A journal changes no answer.** -/
theorem journal_agree (sink : Sink σ) :
    Sink.Agree (fun s j => j.target = s) sink (journalSink sink) := by
  rintro _ j rfl f
  exact ⟨rfl, rfl⟩

/-- The files that were taken are a faithful view of a journal. -/
theorem journal_keeps (sink : Sink σ) : (journalSink sink).Keeps fun j => taken j.handed where
  accepted {s t f} h := by
    obtain ⟨rfl, hnone⟩ := Prod.mk.inj h
    rw [taken_concat, hnone]
    rfl
  refused {s t f e} h := by
    obtain ⟨rfl, hsome⟩ := Prod.mk.inj h
    rw [taken_concat, hsome]
    exact List.append_nil _

/-- The view shows what was handed over to the sink, and what became of it. -/
def Logs (sink : Sink σ) (log : σ → List HandOver) : Prop :=
  ∀ s f, log (sink s f).1 = log s ++ [(f, (sink s f).2)]

theorem journal_logs (sink : Sink σ) : (journalSink sink).Logs (·.handed) := fun _ _ => rfl

theorem Logs.recording {sink : Sink σ} {log : σ → List HandOver} (h : sink.Logs log) :
    (recordingSink sink).Logs fun r => log r.target := by
  intro r f
  have hfile := h r.target f
  unfold recordingSink
  rcases hr : sink r.target f with ⟨t, _ | e⟩ <;> rw [hr] at hfile <;> exact hfile

end Sink

/-! ## 2. Refusals -/

section Refusals

variable {sink : Sink σ} {log : σ → List HandOver} {f : GeneratedFile} {e : Fault}

/-- A refusal ends the steps. -/
theorem refused_takeSteps {render : Renderer ρ} (hl : sink.Logs log) {steps : List PlanStep}
    {p q : Progress ρ σ} {o : Option Failure} (h : takeSteps render sink p steps = (q, o))
    (hf : (f, some e) ∈ log q.sink) : (f, some e) ∈ log p.sink ∨ o = some (.fault e) := by
  induction steps generalizing p with
  | nil =>
      cases h
      exact .inl hf
  | cons st rest ih =>
      have hnew : ∀ {file s a}, sink p.sink file = (s, a) → (f, some e) ∈ log s →
          (f, some e) ∈ log p.sink ∨ a = some e := by
        intro file s a hs hmem
        have hlog := hl p.sink file
        rw [hs] at hlog
        rw [hlog] at hmem
        refine (List.mem_append.mp hmem).imp_right fun hmem => ?_
        exact (Prod.mk.inj (List.mem_singleton.mp hmem)).2.symm
      rcases takeSteps_cons_eq h with ⟨next, hst, h⟩ | ⟨_, hst, rfl⟩
      · refine (ih h).elim (fun hnext => .inl ?_) .inr
        cases stepResult_of_eq hst with
        | found => exact hnext
        | accepted _ _ hs => exact (hnew hs hnext).resolve_right (Option.some_ne_none e).symm
      · cases stepResult_of_eq hst with
        | missing => exact .inl hf
        | unrendered => exact .inl hf
        | taken => exact .inl hf
        | refused _ _ hs =>
            refine (hnew hs hf).imp_right fun heq => ?_
            rw [Option.some.inj heq]

/-- A refusal fails the walk. -/
theorem refused_generate (hl : sink.Logs log) (g : Generator) (render : Renderer ρ) {m : Model}
    (hm : m.Fresh) (a : ρ) (s : σ)
    (hf : (f, some e) ∈ log (g.generate render sink m a s).sink) :
    (f, some e) ∈ log s ∨ (g.generate render sink m a s).outcome = .error (.fault e) := by
  rw [generate_eq_takeSteps g render sink hm] at hf ⊢
  rcases hq : takeSteps render sink (.start a s) (g.plan m) with ⟨q, o⟩
  rw [hq] at hf
  refine (refused_takeSteps hl hq hf).imp_right fun ho => ?_
  rw [ho]
  rfl

namespace Pipeline

theorem refused_attempt (hl : sink.Logs log) (p : Pipeline ρ) (d : InputDocument) (s : σ)
    (hf : (f, some e) ∈ log (p.attempt sink d s).sink) :
    (f, some e) ∈ log s ∨ (p.attempt sink d s).failure = some (.fault e) := by
  have hwalk {m : Model} (hm : m.Fresh) := refused_generate hl p.generator p.render hm
    (f := f) (e := e) p.engine s
  have hend := p.attemptResult_attempt sink d s
  generalize p.attempt sink d s = a at hend hf ⊢
  cases hend with
  | unread => exact .inl hf
  | invalid => exact .inl hf
  | failed _ hm ho =>
      refine (hwalk (fresh_ofDocument hm) hf).imp_right fun heq => ?_
      cases ho.symm.trans heq
      rfl
  | generated _ hm ho =>
      exact .inl ((hwalk (fresh_ofDocument hm) hf).resolve_right fun heq => by cases ho.symm.trans heq)

/-- A document with a refused file has a failed outcome. -/
theorem refused_processDirectly (hl : sink.Logs log) (p : Pipeline ρ) (d : InputDocument) (s : σ)
    (hf : (f, some e) ∈ log (p.processDirectly sink d s).2.1) :
    (f, some e) ∈ log s ∨ (p.processDirectly sink d s).2.2.failure = some (.fault e) := by
  rw [processDirectly_target] at hf
  rw [processDirectly_failure]
  exact refused_attempt hl.recording p d ⟨s, []⟩ hf

end Pipeline

namespace Stream

/-- **Every refusal belongs to an outcome that failed with its fault.** -/
theorem Run.refused (hl : sink.Logs log) : ∀ {items : List (Option InputDocument)}
    {os : List Outcome} {w v : Stream ρ σ}, Run sink w items os v →
    w.pipeline.config.atomic.isTrue = false → (f, some e) ∈ log v.sink →
    (f, some e) ∈ log w.sink ∨ ∃ o ∈ os, o.failure = some (.fault e)
  | [], _, _, _, h, _, hf => by
      cases h
      exact .inl hf
  | item :: items, _, w, _, h, ha, hf => by
      obtain _ | ⟨first, others⟩ := h
      have hnext := ha
      rw [← (answered_of_process first).config] at hnext
      rcases others.refused hl hnext hf with hmid | ⟨o, ho, hfailure⟩
      · cases item with
        | none =>
            cases first
            exact .inl hmid
        | some d =>
            rw [process_direct ha] at first
            cases first
            exact (Pipeline.refused_processDirectly hl w.pipeline d w.sink hmid).imp_right
              fun hfailure => ⟨_, List.mem_cons_self, hfailure⟩
      · exact .inr ⟨o, List.mem_cons_of_mem _ ho, hfailure⟩

end Stream

end Refusals

/-! ## 3. What writing leaves -/

/-- Is it an encoding that refuses? That is noticed when the file is open already. -/
def Fault.ofEncoding : Fault → Bool
  | .unknownEncoding | .unencodable => true
  | _ => false

namespace FileTree

variable {t t' : FileTree} {p : Path} {encoding text : String}

theorem failsAs_resolve (t : FileTree) (p : Path) :
    FailsAs (fun e : Fault => e.ofEncoding = false) (t.resolve p) := by
  unfold resolve
  split
  · exact .error rfl
  · split
    · exact .error rfl
    · exact .mapError fun _ => rfl

theorem failsAs_makeOne (t : FileTree) (p : Path) :
    FailsAs (fun e : Fault => e.ofEncoding = false) (t.makeOne p) := by
  refine (t.failsAs_resolve p).bind fun place => ?_
  split
  · exact .error rfl
  · exact .ok _

theorem failsAs_write (t : FileTree) (p : Path) (content : List UInt8) :
    FailsAs (fun e : Fault => e.ofEncoding = false) (t.write p content) := by
  refine (t.failsAs_resolve p).bind fun place => ?_
  split
  · exact .error rfl
  · exact .ok _

/-- No encoding keeps a folder from being made. -/
theorem makeFolderWithin_fault {e : Fault} : ∀ {depth : Nat} {t : FileTree} {p : Path},
    (t.makeFolderWithin p depth).2 = some e → e.ofEncoding = false
  | 0, t, p, h => by
      cases h
      rfl
  | depth + 1, t, p, h => by
      unfold makeFolderWithin at h
      split at h
      · cases h
      · split at h
        · cases h
          rfl
        · rcases hup : t.makeFolderWithin p.parent depth with ⟨u, _ | failed⟩
          · rw [hup] at h
            dsimp only at h
            split at h
            · cases h
            · rename_i hone
              split at h
              · cases h
              · cases h
                exact failsAs_makeOne _ _ _ hone
          · rw [hup] at h
            cases h
            exact makeFolderWithin_fault (congrArg Prod.snd hup)
      · cases h
        rfl
      · rename_i hone
        split at h
        · cases h
        · cases h
          exact failsAs_makeOne _ _ _ hone

/-- The trees have the same files. -/
def SameFiles (t t' : FileTree) : Prop :=
  ∀ place bytes, t'.node? place = some (.file bytes) ↔ t.node? place = some (.file bytes)

/-- Making a folder changes no file. -/
theorem sameFiles_makeFolder (t : FileTree) (p : Path) : t.SameFiles (t.makeFolder p).1 := by
  intro place bytes
  rcases (t.makeFolder_changesAt p).outside (q := place) id with hsame | ⟨-, hnone, hfolder⟩
  · rw [hsame]
  · rw [hnone, hfolder]
    exact iff_of_false nofun nofun

theorem ofName_fault {e : Fault} (h : Encoding.ofName encoding = .error e) :
    e = .badValue ∨ e.ofEncoding = true := by
  unfold Encoding.ofName at h
  split at h
  · cases h
    exact .inl rfl
  · split at h
    · cases h
    · cases h
      exact .inr rfl

/-- **A text that an encoding refuses leaves an empty file**, and any other fault leaves the files as
    they are. -/
theorem writeText_eq_some {e : Fault} (h : t.writeText p encoding text = (t', some e)) :
    if e.ofEncoding then t.Wrote p [] t' else t' = t := by
  unfold writeText at h
  dsimp only at h
  split at h
  · cases h
    rfl
  · rename_i hwrite _
    cases h
    rw [failsAs_write _ _ _ _ hwrite]
    rfl
  · cases h
  · -- there is a reason why there are no bytes, and it is not the name of the encoding
    rename_i hvalue hbytes hwrite
    cases h
    rw [hbytes] at hwrite
    have hencoding : e.ofEncoding = true := by
      split at hbytes
      · split at hbytes
        · cases hbytes
        · cases hbytes
          rfl
      · rename_i hname
        cases hbytes
        exact (ofName_fault hname).resolve_left hvalue
    rw [hencoding]
    exact write_eq_ok hwrite

end FileTree

/-! ## 4. What hand-overs leave -/

namespace Directory

variable {root : Path} {encoding : String} {d d' : Directory}

/-- The path of a file as a directory writes it down. -/
def outputPath (root : Path) (f : GeneratedFile) : String :=
  (root.append (Path.ofString f.path)).text

/-- Was the file opened at the place? It was unless something else than the encoding refused it. -/
def opens (root : Path) (t : FileTree) (place : Place) (h : HandOver) : Bool :=
  placeOf root t h.1.path == place && h.2.all Fault.ofEncoding

/-- What is in a file that was opened: the text, or nothing if it was refused. -/
def Left (encoding : String) (h : HandOver) (bytes : List UInt8) : Prop :=
  match h.2 with
  | none => Encoded encoding h.1.content bytes
  | some _ => bytes = []

/-- What a hand-over does to the file at a place. -/
def Touched (root : Path) (encoding : String) (place : Place) (h : HandOver) (t t' : FileTree) :
    Prop :=
  if opens root t place h then ∃ bytes, Left encoding h bytes ∧ t'.node? place = some (.file bytes)
  else ∀ bytes, t'.node? place = some (.file bytes) ↔ t.node? place = some (.file bytes)

theorem touched_of_same {t t' : FileTree} {f : GeneratedFile} {e : Fault} (h : SameFiles t t')
    (he : e.ofEncoding = false) (place : Place) :
    Touched root encoding place (f, some e) t t' := by
  have hclosed : opens root t place (f, some e) = false := by
    unfold opens
    rw [Option.all_some, he, Bool.and_false]
  unfold Touched
  rw [hclosed]
  exact h place

theorem touched_of_wrote {t made t' : FileTree} {f : GeneratedFile} {a : Option Fault}
    {content : List UInt8} (hstart : made.workingFolder = t.workingFolder)
    (hmade : SameFiles t made) (hwrote : made.Wrote (root.append (Path.ofString f.path)) content t')
    (ha : a.all Fault.ofEncoding = true) (hleft : Left encoding (f, a) content) (place : Place) :
    Touched root encoding place (f, a) t t' := by
  have htarget : made.target (root.append (Path.ofString f.path)) = placeOf root t f.path :=
    target_congr hstart _
  have hopens : opens root t place (f, a) = (placeOf root t f.path == place) := by
    unfold opens
    rw [ha, Bool.and_true]
  unfold Touched
  rw [hopens]
  by_cases hplace : placeOf root t f.path = place
  · rw [if_pos (beq_iff_eq.mpr hplace), ← hplace, ← htarget]
    exact ⟨content, hleft, hwrote.written⟩
  · rw [if_neg fun heq => hplace (beq_iff_eq.mp heq)]
    intro bytes
    rw [hwrote.kept fun heq => hplace (htarget ▸ heq.symm)]
    exact hmade place bytes

/-- **What one file does**, whether it is taken or not: it is opened, and then it has its text or is
    empty, or no file changes. It is written down exactly if it is taken. -/
theorem directorySink_touched {f : GeneratedFile} {a : Option Fault}
    (h : directorySink root encoding d f = (d', a)) :
    d'.tree.workingFolder = d.tree.workingFolder ∧
      d'.written = d.written ++ (if a.isNone then [outputPath root f] else []) ∧
      ∀ place, Touched root encoding place (f, a) d.tree d'.tree := by
  have hstart := (d.tree.makeFolder_grows (root.append (Path.ofString f.path)).parent).start_eq
  have hfiles := d.tree.sameFiles_makeFolder (root.append (Path.ofString f.path)).parent
  unfold directorySink at h
  dsimp only at h
  rcases hmade : d.tree.makeFolder (root.append (Path.ofString f.path)).parent with ⟨made, _ | e⟩ <;>
    rw [hmade] at h hstart hfiles
  · dsimp only at h hstart hfiles
    rcases hwrite : made.writeText (root.append (Path.ofString f.path)) encoding f.content with
      ⟨tree, _ | e⟩ <;> rw [hwrite] at h <;> cases h
    · obtain ⟨bytes, hbytes, hwrote⟩ := writeText_eq_none hwrite
      exact ⟨hwrote.start_eq.trans hstart, rfl,
        touched_of_wrote hstart hfiles hwrote rfl hbytes⟩
    · have hleft := writeText_eq_some hwrite
      cases he : e.ofEncoding with
      | true =>
          rw [he, if_pos rfl] at hleft
          exact ⟨hleft.start_eq.trans hstart, (List.append_nil _).symm,
            touched_of_wrote hstart hfiles hleft he rfl⟩
      | false =>
          rw [he, if_neg Bool.false_ne_true] at hleft
          subst hleft
          exact ⟨hstart, (List.append_nil _).symm, touched_of_same hfiles he⟩
  · cases h
    exact ⟨hstart, (List.append_nil _).symm,
      touched_of_same hfiles (makeFolderWithin_fault (congrArg Prod.snd hmade))⟩

/-- The last hand-over that opened the file at a place. -/
def lastOpened (root : Path) (t : FileTree) (handed : List HandOver) (place : Place) :
    Option HandOver :=
  handed.reverse.find? (opens root t place)

/-- The last of some files that has the place. -/
def lastListed (root : Path) (t : FileTree) (files : List GeneratedFile) (place : Place) :
    Option GeneratedFile :=
  files.reverse.find? fun f => placeOf root t f.path == place

theorem lastOpened_concat (root : Path) (t : FileTree) (handed : List HandOver) (h : HandOver)
    (place : Place) : lastOpened root t (handed ++ [h]) place =
      if opens root t place h then some h else lastOpened root t handed place := by
  unfold lastOpened
  rw [List.reverse_append, List.reverse_singleton, List.singleton_append, List.find?_cons]
  cases opens root t place h <;> rfl

theorem lastListed_concat (root : Path) (t : FileTree) (files : List GeneratedFile)
    (f : GeneratedFile) (place : Place) : lastListed root t (files ++ [f]) place =
      if placeOf root t f.path == place then some f else lastListed root t files place := by
  unfold lastListed
  rw [List.reverse_append, List.reverse_singleton, List.singleton_append, List.find?_cons]
  cases placeOf root t f.path == place <;> rfl

/-- **Where the last file that was opened was taken, it is the last one listed**, and where none was
    opened none is listed. -/
theorem lastListed_taken (root : Path) (t : FileTree) (place : Place) (handed : List HandOver) :
    (lastOpened root t handed place = none → lastListed root t (taken handed) place = none) ∧
      ∀ f, lastOpened root t handed place = some (f, none) →
        lastListed root t (taken handed) place = some f := by
  induction handed using List.reverseRecOn with
  | nil => exact ⟨fun _ => rfl, nofun⟩
  | append_singleton handed h ih =>
      obtain ⟨g, a⟩ := h
      rw [lastOpened_concat, taken_concat]
      cases a with
      | none =>
          have hopens : opens root t place (g, none) = (placeOf root t g.path == place) :=
            Bool.and_true _
          rw [hopens, Option.isNone_none, if_pos rfl, lastListed_concat]
          cases placeOf root t g.path == place with
          | true => exact ⟨nofun, fun f hf => by cases hf; rfl⟩
          | false => exact ih
      | some e =>
          rw [Option.isNone_some, if_neg Bool.false_ne_true, List.append_nil]
          cases opens root t place (g, some e) with
          | true => exact ⟨nofun, nofun⟩
          | false => exact ih

/-- There is no file below the root. -/
def Bare (root : Path) (t : FileTree) : Prop :=
  ∀ place bytes, t.target root <+: place → t.node? place ≠ some (.file bytes)

/-- What is below the root is what the hand-overs of a journal leave, the last one at each place. -/
structure Shows (root : Path) (encoding : String) (d : Directory) (j : Journaled Directory) :
    Prop where
  start_eq : j.target.tree.workingFolder = d.tree.workingFolder
  written_eq : j.target.written = d.written ++ (taken j.handed).map (outputPath root)
  opened : ∀ {place}, d.tree.target root <+: place → ∀ {h},
    lastOpened root d.tree j.handed place = some h →
      ∃ bytes, Left encoding h bytes ∧ j.target.tree.node? place = some (.file bytes)
  closed : ∀ {place}, d.tree.target root <+: place →
    lastOpened root d.tree j.handed place = none →
      ∀ bytes, j.target.tree.node? place ≠ some (.file bytes)

/-- At the start nothing is below the root. -/
theorem shows_start (h : Bare root d.tree) : Shows root encoding d ⟨d, []⟩ where
  start_eq := rfl
  written_eq := (List.append_nil _).symm
  opened _ := nofun
  closed hplace _ bytes := h _ bytes hplace

/-- **The invariant: every file that is handed over keeps to it.** -/
theorem shows_journal {j : Journaled Directory} (h : Shows root encoding d j) (f : GeneratedFile) :
    Shows root encoding d (journalSink (directorySink root encoding) j f).1 := by
  rcases hf : directorySink root encoding j.target f with ⟨d', a⟩
  obtain ⟨hstart, hwritten, htouched⟩ := directorySink_touched hf
  have hjournal : (journalSink (directorySink root encoding) j f).1 =
      ⟨d', j.handed ++ [(f, a)]⟩ := by
    unfold journalSink
    rw [hf]
  rw [hjournal]
  have hopens : ∀ place, opens root j.target.tree place (f, a) = opens root d.tree place (f, a) := by
    intro place
    unfold opens
    rw [placeOf_eq h.start_eq]
  refine ⟨hstart.trans h.start_eq, ?_, fun {place} hplace {x} hx => ?_, fun {place} hplace hx => ?_⟩
  · show d'.written = _
    rw [hwritten, h.written_eq, taken_concat, List.map_append, List.append_assoc]
    cases a <;> rfl
  all_goals
    have hhere := htouched place
    unfold Touched at hhere
    rw [hopens] at hhere
    rw [lastOpened_concat] at hx
    cases ho : opens root d.tree place (f, a) <;> rw [ho] at hhere hx
  · obtain ⟨bytes, hleft, hnode⟩ := h.opened hplace hx
    exact ⟨bytes, hleft, (hhere bytes).mpr hnode⟩
  · cases hx
    exact hhere
  · exact fun bytes hnode => h.closed hplace hx bytes ((hhere bytes).mp hnode)
  · cases hx

/-! ## 5. What a report says about the files -/

/-- The files below the root are the listed ones: where one is listed the last one stands with its
    text, and where none is listed there is no file. -/
def Mirrors (root : Path) (encoding : String) (t t' : FileTree) (files : List GeneratedFile) :
    Prop :=
  ∀ place, t.target root <+: place → match lastListed root t files place with
    | none => ∀ bytes, t'.node? place ≠ some (.file bytes)
    | some f => ∃ bytes, Encoded encoding f.content bytes ∧ t'.node? place = some (.file bytes)

/-- **The files that were taken are mirrored exactly if no place was left empty by a file that was
    refused when it was open**, unless the file that is listed there has an empty text. -/
theorem Shows.mirrors_iff {j : Journaled Directory} (h : Shows root encoding d j) :
    Mirrors root encoding d.tree j.target.tree (taken j.handed) ↔
      ∀ place, d.tree.target root <+: place → ∀ f e,
        lastOpened root d.tree j.handed place = some (f, some e) →
          ∃ g, lastListed root d.tree (taken j.handed) place = some g ∧
            Encoded encoding g.content [] := by
  constructor
  · intro hmirrors place hplace f e hlast
    obtain ⟨bytes, rfl, hnode⟩ := h.opened hplace hlast
    have hhere := hmirrors place hplace
    cases hlisted : lastListed root d.tree (taken j.handed) place with
    | none =>
        rw [hlisted] at hhere
        exact absurd hnode (hhere [])
    | some g =>
        rw [hlisted] at hhere
        obtain ⟨bytes, hbytes, hsame⟩ := hhere
        rw [hnode] at hsame
        cases hsame
        exact ⟨g, rfl, hbytes⟩
  · intro hempty place hplace
    obtain ⟨hnone, hsome⟩ := lastListed_taken root d.tree place j.handed
    cases hlast : lastOpened root d.tree j.handed place with
    | none =>
        rw [hnone hlast]
        exact h.closed hplace hlast
    | some x =>
        obtain ⟨f, _ | e⟩ := x
        · rw [hsome f hlast]
          exact h.opened hplace hlast
        · obtain ⟨g, hlisted, hbytes⟩ := hempty place hplace f e hlast
          obtain ⟨bytes, rfl, hnode⟩ := h.opened hplace hlast
          rw [hlisted]
          exact ⟨[], hbytes, hnode⟩

/-- What was opened last at a place was handed over, and an encoding refused it if anything did. -/
theorem ofEncoding_of_lastOpened {t : FileTree} {handed : List HandOver} {place : Place}
    {f : GeneratedFile} {e : Fault} (h : lastOpened root t handed place = some (f, some e)) :
    (f, some e) ∈ handed ∧ e.ofEncoding = true := by
  unfold lastOpened at h
  have hopens := List.find?_some h
  exact ⟨List.mem_reverse.mp (List.mem_of_find?_eq_some h), (Bool.and_eq_true_iff.mp hopens).2⟩

end Directory

/-! ## 6. Main result -/

namespace Stream

open Directory

/-- **What a report says about the files.** A pipeline that is not atomic writes to a directory without
    files. Then its report lists the files that were taken, the directory has written down the same
    paths in the same order, and every refusal belongs to an outcome that failed with its fault. The
    files are those of the report exactly if no place was left empty by a file that an encoding refused
    when it was open, and so they are if no outcome failed because of the encoding. -/
theorem processAll_onDisk (p : Pipeline ρ) (ha : p.config.atomic.isTrue = false) (root : Path)
    (encoding : String) (d : Directory) (hbare : Bare root d.tree)
    (items : List (Option InputDocument)) : ∃ r v,
    (Stream.start p d).processAll (directorySink root encoding) items = (v, .ok r) ∧
    taken (journal (directorySink root encoding) p d items) = r.outcomes.flatMap (·.files) ∧
    (∀ f e, (f, some e) ∈ journal (directorySink root encoding) p d items →
      ∃ o ∈ r.outcomes, o.failure = some (.fault e)) ∧
    v.sink.written = d.written ++ (r.outcomes.flatMap (·.files)).map (outputPath root) ∧
    (∀ f ∈ r.outcomes.flatMap (·.files), (Path.ofString f.path).StaysBelow →
      d.tree.target root <+: placeOf root d.tree f.path) ∧
    (Mirrors root encoding d.tree v.sink.tree (r.outcomes.flatMap (·.files)) ↔
      ∀ place, d.tree.target root <+: place → ∀ f e,
        lastOpened root d.tree (journal (directorySink root encoding) p d items) place =
            some (f, some e) →
          ∃ g, lastListed root d.tree (r.outcomes.flatMap (·.files)) place = some g ∧
            Encoded encoding g.content []) ∧
    ((∀ o ∈ r.outcomes, ∀ e, o.failure = some (.fault e) → e.ofEncoding = false) →
      Mirrors root encoding d.tree v.sink.tree (r.outcomes.flatMap (·.files))) := by
  rcases processList_cases (directorySink root encoding) items (.start p d) with
    ⟨os, v, hrun⟩ | ⟨pre, doc, post, os, v, e, _, hrun, hatomic, _⟩
  · -- the journal is kept beside the same run
    obtain ⟨z, hz, hrelated⟩ := hrun.agree (Sink.journal_agree _)
      (u := Stream.start p ⟨d, []⟩) ⟨.refl p, rfl, rfl⟩
    have hjournal : journal (directorySink root encoding) p d items = z.sink.handed := by
      unfold journal
      rw [processAll_of_run hz]
    have htarget : z.sink.target = v.sink := hrelated.sink
    have htaken : taken z.sink.handed = os.flatMap (·.files) := hz.kept_sink (Sink.journal_keeps _) ha
    have hshows : Shows root encoding d z.sink :=
      hz.sink_induct (I := Shows root encoding d) (fun _ f h => shows_journal h f)
        (shows_start hbare)
    have hrefused : ∀ f e, (f, some e) ∈ z.sink.handed → ∃ o ∈ os, o.failure = some (.fault e) :=
      fun f e hmem => (hz.refused (Sink.journal_logs _) ha hmem).resolve_left List.not_mem_nil
    have hmirrors := hshows.mirrors_iff
    rw [htarget, htaken] at hmirrors
    rw [hjournal]
    refine ⟨⟨os⟩, v, processAll_of_run hrun, htaken, hrefused, ?_, fun f _ hf => ?_, hmirrors,
      fun hnone => hmirrors.mpr fun place _ f e hlast => ?_⟩
    · rw [← htarget, hshows.written_eq, htaken]
    · rw [placeOf_staysBelow hf]
      exact List.prefix_append _ _
    · obtain ⟨hmem, hencoding⟩ := ofEncoding_of_lastOpened hlast
      obtain ⟨o, ho, hfailure⟩ := hrefused f e hmem
      rw [hnone o ho e hfailure] at hencoding
      cases hencoding
  · -- a file that is refused late belongs to an atomic pipeline
    rw [hrun.answered.2.2] at hatomic
    exact absurd (ha.symm.trans hatomic) Bool.false_ne_true

end Stream

/-! ## 7. A file that is taken and one that is refused -/

/-- The folder of the output. -/
def outputRoot : Path := ⟨.relative, ["out"]⟩

/-- One aggregate. -/
def orderDocument : List (Option InputDocument) := [some ⟨"m", "aggregates: \x7border: \x7b\x7d\x7d"⟩]

/-- An engine whose template for aggregates is not ASCII. -/
def accentedEngine : Engine :=
  .make ⟨[], []⟩ [] [("aggregate.j2", "é"), ("command.j2", "command"), ("event.j2", "event"),
    ("fault.j2", "fault"), ("module.j2", "index")] (.text "utf-8")

/-- What can be seen when the aggregate is written to an empty folder. -/
def seenOfOrder {α : Type} (e : Engine) (encoding : String)
    (see : Report → Stream Engine Directory → α) : Option α :=
  match Pipeline.ofEngine ⟨[], []⟩ Config.standard e with
  | .error _ => none
  | .ok p =>
    match (Stream.start p emptyOutput).processAll (directorySink outputRoot encoding)
      orderDocument with
    | (_, .error _) => none
    | (v, .ok r) => some (see r v)

theorem seenOfOrder_eq_some {α : Type} {e : Engine} {encoding : String}
    {see : Report → Stream Engine Directory → α} {a : α} (h : seenOfOrder e encoding see = some a) :
    ∃ p r v, Pipeline.ofEngine ⟨[], []⟩ Config.standard e = .ok p ∧
      (Stream.start p emptyOutput).processAll (directorySink outputRoot encoding) orderDocument =
        (v, .ok r) ∧ see r v = a := by
  unfold seenOfOrder at h
  split at h
  · cases h
  · rename_i p hp
    split at h
    · cases h
    · rename_i v r hr
      exact ⟨p, r, v, hp, hr, Option.some.inj h⟩

open Directory

theorem bare_emptyOutput : Bare outputRoot emptyOutput.tree := by
  intro place bytes _ hnode
  unfold node? at hnode
  split at hnode
  · cases hnode
  · obtain ⟨entry, hentry, hfile⟩ := Option.map_eq_some_iff.mp hnode
    rw [List.mem_singleton.mp (List.mem_of_find?_eq_some hentry)] at hfile
    cases hfile

/-- A template that UTF-8 can express: the files are those of the report. -/
theorem processAll_onDisk_order : ∃ p r v,
    Pipeline.ofEngine ⟨[], []⟩ Config.standard plainEngine = .ok p ∧
    (Stream.start p emptyOutput).processAll (directorySink outputRoot "utf-8") orderDocument =
      (v, .ok r) ∧
    (r.outcomes.flatMap (·.files)).map (·.path) = ["aggregates/order-aggregate.js", "index.js"] ∧
    v.sink.written = (r.outcomes.flatMap (·.files)).map (outputPath outputRoot) ∧
    Mirrors outputRoot "utf-8" emptyOutput.tree v.sink.tree (r.outcomes.flatMap (·.files)) := by
  have hseen : seenOfOrder plainEngine "utf-8" (fun r _ =>
      ((r.outcomes.flatMap (·.files)).map (·.path), r.outcomes.all (·.failure.isNone))) =
        some (["aggregates/order-aggregate.js", "index.js"], true) := by decide +kernel
  obtain ⟨p, r, v, hp, hr, hsee⟩ := seenOfOrder_eq_some hseen
  obtain ⟨hpaths, hfine⟩ := Prod.mk.inj hsee
  have ha : p.config.atomic.isTrue = false := by
    rw [Pipeline.config_ofEngine hp]
    rfl
  obtain ⟨r', v', hr', -, -, hwritten, -, -, hmirrors⟩ := Stream.processAll_onDisk p ha outputRoot
    "utf-8" emptyOutput bare_emptyOutput orderDocument
  rw [hr] at hr'
  cases hr'
  refine ⟨p, r, v, hp, hr, hpaths, hwritten, hmirrors fun o ho e hfailure => ?_⟩
  have hnone := List.all_eq_true.mp hfine o ho
  rw [hfailure] at hnone
  cases hnone

/-- **A text that the encoding cannot express leaves an empty file that no outcome lists.** -/
theorem refused_file_left : ∃ p r v,
    Pipeline.ofEngine ⟨[], []⟩ Config.standard accentedEngine = .ok p ∧
    (Stream.start p emptyOutput).processAll (directorySink outputRoot "ascii") orderDocument =
      (v, .ok r) ∧
    r.outcomes.map (·.status) = [.failed] ∧ r.outcomes.flatMap (·.files) = [] ∧
    v.sink.written = [] ∧
    v.sink.tree.node? ["out", "aggregates", "order-aggregate.js"] = some (.file []) ∧
    ¬ Mirrors outputRoot "ascii" emptyOutput.tree v.sink.tree (r.outcomes.flatMap (·.files)) := by
  have hseen : seenOfOrder accentedEngine "ascii" (fun r v =>
      (r.outcomes.map (·.status), r.outcomes.flatMap (·.files), v.sink.written,
        v.sink.tree.node? ["out", "aggregates", "order-aggregate.js"])) =
          some ([.failed], [], [], some (.file [])) := by decide +kernel
  obtain ⟨p, r, v, hp, hr, hsee⟩ := seenOfOrder_eq_some hseen
  simp only [Prod.mk.injEq] at hsee
  obtain ⟨hstatus, hfiles, hwritten, hnode⟩ := hsee
  refine ⟨p, r, v, hp, hr, hstatus, hfiles, hwritten, hnode, fun hmirrors => ?_⟩
  have hplace : emptyOutput.tree.target outputRoot <+: ["out", "aggregates", "order-aggregate.js"] :=
    ⟨["aggregates", "order-aggregate.js"], rfl⟩
  have hhere := hmirrors _ hplace
  rw [hfiles] at hhere
  exact hhere [] hnode

end DomainGen
