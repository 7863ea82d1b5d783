import BytecodeGuard.Rule.Site

/-!
# Definition rules

The first stage of a transformation changes the declaration of a method, before any code exists.
Definition rules run in order, each on the declaration that the one before it left.
-/

namespace BytecodeGuard

/-- A declaration and the notes that were made about it. -/
structure Definition where
  member : Member
  notes : Notes := {}

/-- A rule that changes declarations. -/
structure DefinitionRule where
  name : String
  define : Analysis → Member → Definition

/-- Applies the rules in order. Each sees the messages of those before it. -/
def DefinitionRule.applyAll (rules : List DefinitionRule) (a : Analysis) (m : Member) :
    Definition :=
  rules.foldl (fun d rule =>
    let next := rule.define (a.note d.notes) d.member
    ⟨next.member, d.notes ++ next.notes⟩) ⟨m, {}⟩

end BytecodeGuard
