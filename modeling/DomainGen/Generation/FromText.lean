import DomainGen.Pipeline

/-!
# Files of a text

The files of one YAML text, without a pipeline. Templates are read when they are needed, so an error
in one that no item needs stays unnoticed.
-/

namespace DomainGen

/-- The files of a text, whatever renders the templates. -/
def Generator.generateText {ρ : Type} (g : Generator) (render : Renderer ρ) (engine : ρ)
    (text source : String) : Except Failure (List GeneratedFile) := do
  let value ← readDocument text source
  let m ← Model.ofDocument value (some source)
  let r := g.generate render memorySink m engine []
  let _ ← r.outcome
  return r.sink

/-- The files of a text, for a configuration. -/
def generateFromText (tree : FileTree) (c : Config) (text source : String) :
    Except Failure (List GeneratedFile) := do
  let e ← Pipeline.engineOf tree c
  let g ← Generator.ofConfig tree.workingFolder c
  g.generateText (engineRenderer tree) e text source

end DomainGen
