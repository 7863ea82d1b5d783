import BytecodeGuard.Pipeline.Basic

/-!
# Transforming a method

The declaration is changed, the code is inspected, and new code is built. Then the writers of the
changed declaration produce the generated body, if there is one. `extraStack` says by how much
the new code needs more stack than the code it was made from; if the two agree, the depth of the
old code is that of the new.
-/

namespace BytecodeGuard

/-- A method before its transformation. Methods without code have an empty list. -/
structure MethodSource where
  member : Member
  code : List Instruction := []

/-- A method after its transformation. -/
structure TransformedMethod where
  member : Member
  code : List Instruction
  maxStack : Nat
  /-- The slots that are needed beyond those of the source. -/
  extraStack : Nat
  /-- The code of the writers of the member, if it has any. -/
  body : Option BuiltCode

namespace Pipeline

variable {σ : Type} [Inhabited σ]

/-- The stack depth that the source of the built code needs. -/
def sourcePeak (source : List Instruction) (built : BuiltCode) : Except Fault Nat :=
  if codeAgrees built.code source then .ok built.maxStack else peakDepth source

/-- The diagnostic line about a transformed method. -/
def methodLine (source : List Instruction) (t : TransformedMethod) : String :=
  s!"{t.member.qualifiedName}: {source.length} -> {t.code.length} instructions, "
    ++ s!"max stack {t.maxStack}" ++ if t.body.isSome then ", generated body" else ""

/-- Takes a method through all stages. -/
def transformMethod (p : Pipeline σ) (a : Analysis) (source : MethodSource) :
    Outcome TransformedMethod := do
  let defined := DefinitionRule.applyAll p.definitions a source.member
  Outcome.note defined.notes
  let found := ValidationRule.applyAll p.validators a.config defined.member source.code
  Outcome.note { messages := found }
  let built ← EmissionRule.applyAll p.emitters a.config defined.member source.code
  let peak ← Outcome.ofExcept (sourcePeak source.code built)
  let body ← Outcome.ofExcept defined.member.writeBody
  let transformed : TransformedMethod :=
    { member := defined.member, code := built.code, maxStack := built.maxStack
      extraStack := built.maxStack - peak, body }
  Outcome.note (.diagnostic .debug (methodLine source.code transformed))
  return transformed

end Pipeline

end BytecodeGuard
