import BytecodeGuard.Pipeline.Method

/-!
# Transforming a class

The methods of a class are transformed one after the other, with one log. The first fault ends
the transformation of the class. This is so even if the configuration allows callers to transform
methods at the same time (`Config.parallel`).
-/

namespace BytecodeGuard

/-- A class before its transformation. -/
structure ClassSource where
  /-- The name of the class, with `/` between its parts. -/
  name : String
  methods : List MethodSource

/-- A class after its transformation. -/
structure TransformedClass where
  name : String
  methods : List TransformedMethod
  /-- The messages about the methods. -/
  log : Log

namespace Pipeline

variable {σ : Type} [Inhabited σ]

/-- Transforms methods in order. Each begins with the messages of those before it. -/
def transformAll (p : Pipeline σ) (a : Analysis) :
    List MethodSource → Outcome (List TransformedMethod)
  | [] => pure []
  | source :: sources =>
    let first := p.transformMethod a source
    first.andThen fun t => (p.transformAll (a.note first.notes) sources).andThen fun ts =>
      pure (t :: ts)

/-- The diagnostic line about a transformed class. -/
def classLine (t : TransformedClass) : String :=
  s!"{t.name}: rewrote {t.methods.length} methods ({t.log.summary})"

/-- Transforms a class with a log of its own, one method after the other whatever the configuration
says. -/
def transformClass (p : Pipeline σ) (source : ClassSource) : Outcome TransformedClass :=
  let outcome := p.transformAll p.analysis source.methods
  outcome.andThen fun methods =>
    let transformed := ⟨source.name, methods, (p.analysis.note outcome.notes).log⟩
    ⟨.ok transformed, .diagnostic .debug (classLine transformed)⟩

end Pipeline

end BytecodeGuard
