import BytecodeGuard.Rule.CatchGuard
import BytecodeGuard.Rule.NativeStub

/-!
# Pipelines

A pipeline is a configuration and the rules of the three stages. The default pipeline replaces
native methods and guards the handlers of fatal signals.
-/

namespace BytecodeGuard

/-- A configuration with rules. `σ` is what emission rules can remember. -/
structure Pipeline (σ : Type) where
  config : Config
  definitions : List DefinitionRule := []
  validators : List ValidationRule := []
  emitters : List (EmissionRule σ) := []

namespace Pipeline

variable {σ : Type}

/-- The pipeline with the native stub and the catch guard. -/
def ofConfig (config : Config) : Pipeline σ where
  config
  definitions := [NativeStub.definition]
  validators := [CatchGuard.validation]
  emitters := [CatchGuard.emission]

/-- The beginning of a run. -/
def analysis (p : Pipeline σ) : Analysis := .ofConfig p.config

/-- The names of the rules of the three stages. -/
def ruleNames (p : Pipeline σ) : List String × List String × List String :=
  (p.definitions.map (·.name), p.validators.map (·.name), p.emitters.map (·.name))

end Pipeline

end BytecodeGuard
