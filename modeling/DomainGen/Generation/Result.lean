import DomainGen.Generation.Walk

/-!
# Results of generating

A walk that cannot fail: its failure is part of the result. The result of a failed walk says why it
ended and lists no files, even if some were handed over.
-/

namespace DomainGen

/-- The result of generating the files of a model. -/
structure GenerationResult where
  /-- What was generated; nothing if the walk failed. -/
  generated : Option Generated
  /-- Why the walk ended, if it failed. -/
  failure : Option Failure
  deriving Repr, Inhabited

namespace GenerationResult

/-- Was everything generated? -/
def success (r : GenerationResult) : Bool := r.failure.isNone

/-- The files the result lists. -/
def files (r : GenerationResult) : List GeneratedFile :=
  (r.generated.map (·.files)).getD []

/-- The failure in words; one without words of its own is only named. -/
def errorMessage (r : GenerationResult) : Option String :=
  r.failure.map fun f => withDetail "Code generation failed" f.message?

/-- What is known about the walk, as plain data. -/
def metadata (r : GenerationResult) : Entries :=
  (r.generated.map (·.metadata)).getD []

end GenerationResult

/-- Generates all files of a model. -/
def generateCode {ρ σ : Type} (g : Generator) (render : Renderer ρ) (sink : Sink σ) (m : Model)
    (e : ρ) (s : σ) : WalkResult ρ σ × GenerationResult :=
  let r := g.generate render sink m e s
  match r.outcome with
  | .ok generated => (r, ⟨some generated, none⟩)
  | .error f => (r, ⟨none, some f⟩)

end DomainGen
