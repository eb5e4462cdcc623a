import DomainGen.Proofs.Sink.Acceptance

/-!
# What becomes of buffered files

A file that is given to a buffer waits in it until it leaves: the sink behind the buffer takes it, it
is dropped, or it is passed on and the sink refuses it. A file that is refused does not go back into
the buffer.

* `BufferCall`, `Buffered.afterCalls` : using a buffer, with any calls in any order;
* `Departure`, `Buffered.left` : the files that have left a buffer, each with how it left;
* `call_accounted`, `calls_accounted` : **what one call and any calls do to the account**;
* `buffer_accounted` : **the files that have left and those that wait are the files that were given,
  in order**, and all that the sink has taken of them and all that wait are the files not dropped, except
  for one file for each time passing on was interrupted;
* `interrupted_flush_loses` : such a file.
-/

namespace DomainGen

/-! ## 1. Calls of a buffer -/

/-- A call of a buffer. -/
inductive BufferCall where
  /-- A file is given to the buffer. -/
  | emit (f : GeneratedFile)
  /-- The files that wait are passed on. -/
  | flush
  /-- The files that wait are dropped. -/
  | discard
  deriving DecidableEq, Repr, Inhabited

/-- What a call of a buffer answers. -/
inductive BufferAnswer where
  /-- The file was taken in, or refused with a fault. -/
  | emitted (refusal : Option Fault)
  /-- So many files were passed on, or the sink refused one. -/
  | flushed (sent : Except Fault Nat)
  /-- So many files were dropped. -/
  | discarded (dropped : Nat)

/-- Was passing on interrupted? -/
def BufferAnswer.isInterrupted : BufferAnswer → Bool
  | flushed (.error _) => true
  | _ => false

/-- The files that are given to a buffer, in order. -/
def emittedBy (calls : List BufferCall) : List GeneratedFile :=
  calls.filterMap fun
    | .emit f => some f
    | _ => none

/-- How a file leaves a buffer. -/
inductive Departure where
  /-- The sink has taken it. -/
  | taken
  /-- The sink has refused it. -/
  | refused
  | dropped
  deriving DecidableEq, Repr, Inhabited

/-- The files that leave one way, among files that have left. -/
def leftAs (d : Departure) (left : List (GeneratedFile × Departure)) : List GeneratedFile :=
  (left.filter (·.2 == d)).map (·.1)

/-- The files that have left and were not dropped. -/
def leftUndropped (left : List (GeneratedFile × Departure)) : List GeneratedFile :=
  (left.filter (·.2 != .dropped)).map (·.1)

/-- The files that leave when some are passed on to a sink: those it takes, and the first it
    refuses. -/
def departing {σ : Type} (target : Sink σ) : σ → List GeneratedFile → List (GeneratedFile × Departure)
  | _, [] => []
  | s, f :: rest => match target s f with
    | (_, some _) => [(f, .refused)]
    | (s, none) => (f, .taken) :: departing target s rest

namespace Buffered

variable {σ : Type} (target : Sink σ)

/-- A call of a buffer in front of a sink. -/
def call (s : Buffered σ) : BufferCall → Buffered σ × BufferAnswer
  | .emit f => ((bufferedSink s f).1, .emitted (bufferedSink s f).2)
  | .flush => ((DomainGen.flush target s).1, .flushed (DomainGen.flush target s).2)
  | .discard => ((DomainGen.discard s).1, .discarded (DomainGen.discard s).2)

/-- The buffer after some calls. -/
def afterCalls : Buffered σ → List BufferCall → Buffered σ
  | s, [] => s
  | s, c :: rest => afterCalls (s.call target c).1 rest

/-- What the calls answer. -/
def answers : Buffered σ → List BufferCall → List BufferAnswer
  | _, [] => []
  | s, c :: rest => (s.call target c).2 :: answers (s.call target c).1 rest

/-- The files that leave the buffer with a call. -/
def leaving (s : Buffered σ) : BufferCall → List (GeneratedFile × Departure)
  | .emit _ => []
  | .flush => departing target s.target s.pending
  | .discard => s.pending.map fun f => (f, .dropped)

/-- The files that have left the buffer after some calls. -/
def left : Buffered σ → List BufferCall → List (GeneratedFile × Departure)
  | _, [] => []
  | s, c :: rest => s.leaving target c ++ left (s.call target c).1 rest

end Buffered

/-! ## 2. One call -/

section Departures

variable {left right : List (GeneratedFile × Departure)}

@[simp] theorem leftAs_append (d : Departure) :
    leftAs d (left ++ right) = leftAs d left ++ leftAs d right := by
  simp [leftAs]

/-- What was not dropped was taken, or else was refused. -/
theorem length_leftUndropped (left : List (GeneratedFile × Departure)) :
    (leftUndropped left).length = (leftAs .taken left).length + (leftAs .refused left).length := by
  induction left with
  | nil => rfl
  | cons x rest ih =>
      obtain ⟨f, d⟩ := x
      cases d <;> simp [leftUndropped, leftAs] at ih ⊢ <;> omega

/-- If nothing was refused, what was not dropped was taken. -/
theorem leftUndropped_eq_iff : leftUndropped left = leftAs .taken left ↔ leftAs .refused left = [] := by
  constructor
  · intro heq
    have hlength := length_leftUndropped left
    rw [heq] at hlength
    exact List.eq_nil_of_length_eq_zero (by omega)
  · intro hnone
    have hall : ∀ x ∈ left, (x.2 != .dropped) = (x.2 == .taken) := by
      rintro ⟨f, d⟩ hx
      cases d with
      | refused =>
          have hmem : f ∈ leftAs .refused left :=
            List.mem_map.mpr ⟨_, List.mem_filter.mpr ⟨hx, rfl⟩, rfl⟩
          rw [hnone] at hmem
          cases hmem
      | taken => rfl
      | dropped => rfl
    unfold leftUndropped leftAs
    rw [List.filter_congr hall]

end Departures

section Calls

variable {σ : Type} {target : Sink σ} {kept : σ → List GeneratedFile}

/-- Files that are taken leave as such. -/
theorem departing_taken : ∀ {files : List GeneratedFile} {s t : σ}, target.Takes s files t →
    departing target s files = files.map (·, .taken)
  | [], _, _, _ => rfl
  | f :: rest, s, t, ⟨u, hu, hrest⟩ => by
      unfold departing
      rw [hu]
      exact congrArg ((f, Departure.taken) :: ·) (departing_taken hrest)

/-- The first file that is refused leaves behind those that are taken, and no other one leaves. -/
theorem departing_refused : ∀ {taken : List GeneratedFile} {f : GeneratedFile}
    {rest : List GeneratedFile} {s t u : σ} {e : Fault}, target.Takes s taken t →
    target t f = (u, some e) →
    departing target s (taken ++ f :: rest) = taken.map (·, .taken) ++ [(f, .refused)]
  | [], f, rest, s, t, u, e, h, hf => by
      cases h
      simp [departing, hf]
  | g :: taken, f, rest, s, t, u, e, ⟨v, hv, htaken⟩, hf => by
      rw [List.cons_append, departing, hv]
      exact congrArg ((g, Departure.taken) :: ·) (departing_refused htaken hf)

/-- A faithful view shows the files that are taken. -/
theorem kept_eq_of_takes (hk : target.Keeps kept) : ∀ {files : List GeneratedFile} {s t : σ},
    target.Takes s files t → kept t = kept s ++ files
  | [], s, t, h => by
      cases h
      exact (List.append_nil _).symm
  | f :: rest, s, t, ⟨u, hu, hrest⟩ => by
      rw [kept_eq_of_takes hk hrest, hk.accepted hu, List.append_assoc]
      rfl

@[simp] theorem leftAs_map_same (d : Departure) (files : List GeneratedFile) :
    leftAs d (files.map (·, d)) = files := by
  simp [leftAs, List.filter_map, Function.comp_def]

theorem leftAs_map_other {d e : Departure} (h : e ≠ d) (files : List GeneratedFile) :
    leftAs d (files.map (·, e)) = [] := by
  simp [leftAs, h]

/-- How many of some calls were interrupted. -/
def interruptions (answers : List BufferAnswer) : Nat :=
  (answers.filter BufferAnswer.isInterrupted).length

/-- The account of a buffer between two moments: the files that waited at first and those given since
    have left or wait, in order; the sink behind the buffer has taken those that left as taken; and
    each interruption has cost one file. -/
structure Accounted (kept : σ → List GeneratedFile) (s : Buffered σ) (calls : List BufferCall)
    (left : List (GeneratedFile × Departure)) (answers : List BufferAnswer) (t : Buffered σ) :
    Prop where
  given : left.map (·.1) ++ t.pending = s.pending ++ emittedBy calls
  taken : kept t.target = kept s.target ++ leftAs .taken left
  refused : (leftAs .refused left).length = interruptions answers

namespace Accounted

variable {s t u : Buffered σ} {calls others : List BufferCall}
  {left right : List (GeneratedFile × Departure)} {answers more : List BufferAnswer}

/-- Nothing has happened. -/
theorem refl (kept : σ → List GeneratedFile) (s : Buffered σ) : Accounted kept s [] [] [] s :=
  ⟨(List.append_nil _).symm, (List.append_nil _).symm, rfl⟩

/-- One account is continued by another. -/
theorem trans (h : Accounted kept s calls left answers t) (h' : Accounted kept t others right more u) :
    Accounted kept s (calls ++ others) (left ++ right) (answers ++ more) u where
  given := by
    rw [List.map_append, List.append_assoc, h'.given, ← List.append_assoc, h.given, List.append_assoc]
    simp [emittedBy]
  taken := by rw [h'.taken, h.taken, List.append_assoc, leftAs_append]
  refused := by
    rw [leftAs_append, List.length_append, h.refused, h'.refused]
    simp [interruptions]

end Accounted

/-- A flush that is not interrupted empties the buffer into the sink. -/
theorem flush_taken {s : Buffered σ} {t : σ} (h : target.Takes s.target s.pending t) :
    flush target s = (⟨t, []⟩, .ok s.pending.length) := by
  unfold flush
  rw [Sink.forward_taken h]

/-- A flush that is interrupted leaves the files behind the one that was refused. -/
theorem flush_refused {s : Buffered σ} {taken rest : List GeneratedFile} {f : GeneratedFile} {t u : σ}
    {e : Fault} (hp : s.pending = taken ++ f :: rest) (h : target.Takes s.target taken t)
    (hf : target t f = (u, some e)) : flush target s = (⟨u, rest⟩, .error e) := by
  unfold flush
  rw [hp, Sink.forward_refused h hf]

/-- **Every call keeps the account.** -/
theorem call_accounted (hk : target.Keeps kept) (s : Buffered σ) (c : BufferCall) :
    Accounted kept s [c] (s.leaving target c) [(s.call target c).2] (s.call target c).1 := by
  cases c with
  | emit f => exact ⟨rfl, (List.append_nil _).symm, rfl⟩
  | discard =>
      refine ⟨?_, ?_, ?_⟩
      · show (s.pending.map (·, Departure.dropped)).map (·.1) ++ [] = s.pending ++ []
        rw [List.map_map, List.append_nil, List.append_nil]
        exact List.map_id _
      · show kept s.target = _ ++ leftAs .taken (s.pending.map (·, .dropped))
        rw [leftAs_map_other (by decide), List.append_nil]
      · show (leftAs .refused (s.pending.map (·, .dropped))).length = 0
        rw [leftAs_map_other (by decide)]
        rfl
  | flush =>
      rcases Sink.forward_cases target s.pending s.target with
        ⟨t, ht⟩ | ⟨taken, f, rest, t, u, e, hp, ht, hf⟩
      · have hleaving : s.leaving target .flush = s.pending.map (·, .taken) := departing_taken ht
        have hcall : s.call target .flush = (⟨t, []⟩, .flushed (.ok s.pending.length)) := by
          simp only [Buffered.call, flush_taken ht]
        rw [hleaving, hcall]
        refine ⟨?_, ?_, ?_⟩
        · simp [emittedBy, Function.comp_def]
        · rw [leftAs_map_same]
          exact kept_eq_of_takes hk ht
        · rw [leftAs_map_other (by decide)]
          rfl
      · have hleaving : s.leaving target .flush = taken.map (·, .taken) ++ [(f, .refused)] := by
          unfold Buffered.leaving
          rw [hp]
          exact departing_refused ht hf
        have hcall : s.call target .flush = (⟨u, rest⟩, .flushed (.error e)) := by
          simp only [Buffered.call, flush_refused hp ht hf]
        rw [hleaving, hcall]
        refine ⟨?_, ?_, ?_⟩
        · simp [emittedBy, hp, Function.comp_def]
        · rw [leftAs_append, leftAs_map_same, hk.refused hf, kept_eq_of_takes hk ht]
          exact congrArg (_ ++ ·) (List.append_nil _).symm
        · rw [leftAs_append, leftAs_map_other (by decide)]
          rfl

/-! ## 3. All calls -/

/-- **All calls keep the account**, whatever they are and whatever the sink refuses. -/
theorem calls_accounted (hk : target.Keeps kept) (calls : List BufferCall) (s : Buffered σ) :
    Accounted kept s calls (s.left target calls) (s.answers target calls)
      (s.afterCalls target calls) := by
  induction calls generalizing s with
  | nil => exact .refl kept s
  | cons c rest ih => exact (call_accounted hk s c).trans (ih (s.call target c).1)

/-- **A buffer accounts for every file.** What has left it and what waits are the files it was given, in
    order. The sink behind it has taken what left as taken, and one file was refused for each time that
    passing on was interrupted, so that all that was taken and all that waits are the files not dropped
    exactly if that never happened. A flush that goes through leaves nothing behind and answers how many
    files were taken; one that is interrupted loses the file that was refused and leaves those behind
    it; dropping answers how many files were dropped. -/
theorem buffer_accounted (hk : target.Keeps kept) (start : σ) (calls : List BufferCall) :
    let buffer : Buffered σ := ⟨start, []⟩
    let left := buffer.left target calls
    let now := buffer.afterCalls target calls
    let answers := buffer.answers target calls
    left.map (·.1) ++ now.pending = emittedBy calls ∧
      kept now.target = kept start ++ leftAs .taken left ∧
      (leftAs .refused left).length = interruptions answers ∧
      (leftAs .taken left ++ now.pending = leftUndropped left ++ now.pending ↔
        interruptions answers = 0) ∧
      (∀ n, (flush target now).2 = .ok n →
        (flush target now).1.pending = [] ∧
          kept (flush target now).1.target = kept now.target ++ now.pending ∧
          n = (leftAs .taken (now.leaving target .flush)).length) ∧
      (∀ e, (flush target now).2 = .error e → ∃ taken f rest, now.pending = taken ++ f :: rest ∧
        kept (flush target now).1.target = kept now.target ++ taken ∧
        (flush target now).1.pending = rest) ∧
      (discard now).1.pending = [] ∧
      (discard now).2 = (leftAs .dropped (now.leaving target .discard)).length := by
  intro buffer left now answers
  obtain ⟨hgiven, htaken, hrefused⟩ : Accounted kept buffer calls left answers now :=
    calls_accounted hk calls buffer
  refine ⟨hgiven, htaken, hrefused, ?_, fun n hn => ?_, fun e he => ?_, rfl, ?_⟩
  · rw [List.append_left_inj, eq_comm, leftUndropped_eq_iff, ← List.length_eq_zero_iff, hrefused]
  · rcases Sink.forward_cases target now.pending now.target with
      ⟨t, ht⟩ | ⟨taken, f, rest, t, u, e, hp, ht, hf⟩
    · have hleaving : now.leaving target .flush = now.pending.map (·, .taken) := departing_taken ht
      rw [flush_taken ht] at hn ⊢
      cases hn
      exact ⟨rfl, kept_eq_of_takes hk ht, by rw [hleaving, leftAs_map_same]⟩
    · rw [flush_refused hp ht hf] at hn
      cases hn
  · rcases Sink.forward_cases target now.pending now.target with
      ⟨t, ht⟩ | ⟨taken, f, rest, t, u, e', hp, ht, hf⟩
    · rw [flush_taken ht] at he
      cases he
    · rw [flush_refused hp ht hf]
      exact ⟨taken, f, rest, hp, (hk.refused hf).trans (kept_eq_of_takes hk ht), rfl⟩
  · show now.pending.length = (leftAs .dropped (now.pending.map (·, .dropped))).length
    rw [leftAs_map_same]

end Calls

/-! ## 4. A buffer in front of a full sink -/

/-- A file with a given path. -/
def fileAt (path : String) : GeneratedFile := ⟨path, "", none⟩

/-- Three files are given to a buffer and passed on, another one is given, and what waits then is
    dropped. -/
def interruptedCalls : List BufferCall :=
  [.emit (fileAt "a"), .emit (fileAt "b"), .emit (fileAt "c"), .flush, .emit (fileAt "d"), .discard]

/-- The sink takes one file: the second one is lost, the third and the fourth are dropped. -/
theorem buffer_accounted_interrupted :
    let buffer : Buffered (List GeneratedFile) := ⟨[], []⟩
    let left := buffer.left (failingSink 1) interruptedCalls
    (failingSink 1).Keeps (fun kept => kept) ∧
      left = [(fileAt "a", .taken), (fileAt "b", .refused), (fileAt "c", .dropped),
        (fileAt "d", .dropped)] ∧
      (buffer.afterCalls (failingSink 1) interruptedCalls).target = [fileAt "a"] ∧
      (leftAs .refused left).length = 1 := by
  intro buffer left
  have hkeeps := Sink.failingSink_keeps 1
  obtain ⟨_, htaken, hrefused, _⟩ := buffer_accounted hkeeps [] interruptedCalls
  exact ⟨hkeeps, by decide, htaken.trans (by decide), hrefused.trans (by decide)⟩

/-- **A flush that is interrupted loses a file**: of three files that were given to a buffer the sink
    has taken one, and one waits, though none was dropped. -/
theorem interrupted_flush_loses :
    let buffer : Buffered (List GeneratedFile) := ⟨[], []⟩
    let calls := interruptedCalls.take 4
    let now := buffer.afterCalls (failingSink 1) calls
    emittedBy calls = [fileAt "a", fileAt "b", fileAt "c"] ∧ BufferCall.discard ∉ calls ∧
      now.target ++ now.pending = [fileAt "a", fileAt "c"] := by
  decide

end DomainGen
