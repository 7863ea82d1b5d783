import BytecodeGuard.Rule.Site

/-!
# Validation rules

The second stage of a transformation looks at each instruction and changes nothing. What a rule
finds becomes a message with the place and the name of the rule, unless the rule sets others. The
messages come in the order of the instructions, and for one instruction in the order of the rules.
-/

namespace BytecodeGuard

/-- A rule that inspects instructions. -/
structure ValidationRule where
  name : String
  validate : Site → Instruction → List Finding

namespace ValidationRule

/-- The messages of one rule about one instruction. -/
def messagesAt (config : Config) (m : Member) (index : Nat) (i : Instruction)
    (rule : ValidationRule) : List Message :=
  let site : Site := { config, member := m, index := some index, rule := rule.name }
  (rule.validate site i).filterMap site.message?

/-- The messages of all rules about the code of a method. -/
def applyAll (rules : List ValidationRule) (config : Config) (m : Member)
    (code : List Instruction) : List Message :=
  code.zipIdx.flatMap fun (i, index) => rules.flatMap (messagesAt config m index i)

end ValidationRule

end BytecodeGuard
