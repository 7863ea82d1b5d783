import BytecodeGuard.Instruction.Text

/-!
# Faults

A fault is why code could not be built or transformed. What a rule finds objectionable in a
method is not a fault but a message.
-/

namespace BytecodeGuard

/-- Why code could not be built or transformed. -/
inductive Fault where
  /-- The operand is not of the kind that the opcode carries. -/
  | operandMismatch (op : Opcode) (operand : Operand)
  /-- An instruction takes more slots than there are. -/
  | stackUnderflow (depth : Int) (pops pushes : Nat)
  /-- The stack grows beyond what a class file can declare. -/
  | stackOverflow
  /-- A jump arrives at a label with another depth than the label has. -/
  | jumpDepth (target : Label) (expected found : Int)
  /-- The code before a label reaches it with another depth than the jumps to it. -/
  | labelDepth (label : Label) (expected found : Int)
  /-- No label is left above the given number. -/
  | labelsExhausted (last : Nat)
  /-- A label is placed for the second time. -/
  | duplicateLabel (label : Label)
  /-- A descriptor does not follow the grammar. -/
  | invalidDescriptor (descriptor : String)
  /-- A guarded handler never begins. -/
  | unresolvedHandler (method : String) (label : Label)
  /-- Any other reason. -/
  | other (reason : String)
deriving DecidableEq

/-- The broad classes of faults. -/
inductive FaultClass where
  /-- The code contradicts itself. -/
  | malformed
  | unresolvedHandler
  | duplicateLabel
  | invalidDescriptor
  | other
deriving DecidableEq, Repr

namespace Fault

/-- The class of the fault. -/
def faultClass : Fault → FaultClass
  | operandMismatch .. | stackUnderflow .. | stackOverflow | jumpDepth .. | labelDepth ..
  | labelsExhausted .. => .malformed
  | duplicateLabel .. => .duplicateLabel
  | invalidDescriptor .. => .invalidDescriptor
  | unresolvedHandler .. => .unresolvedHandler
  | other .. => .other

/-- The text of the fault. -/
def message : Fault → String
  | operandMismatch op operand =>
    s!"{op.mnemonic} expects a {op.operandKind.name} operand, got {operand.detail}"
  | stackUnderflow depth pops pushes =>
    s!"Stack underflow: depth became {depth} after instruction with {pops} pops, "
      ++ s!"{pushes} pushes"
  | stackOverflow => "Stack depth exceeds u16 range"
  | jumpDepth target expected found =>
    s!"Stack depth mismatch for jump to {target.text}: expected {expected}, "
      ++ s!"but jump has {found}"
  | labelDepth label expected found =>
    s!"Stack depth mismatch at label {label.text}: expected {expected} (from jump), "
      ++ s!"got {found} (current)"
  | labelsExhausted last => s!"No label identity left above {last}"
  | duplicateLabel label => s!"Label {label.text} is placed more than once"
  | invalidDescriptor descriptor => "Invalid descriptor - " ++ descriptor
  | unresolvedHandler method label =>
    s!"Handler label {label.text} of {method} was registered but never reached"
  | other reason => reason

end Fault

end BytecodeGuard
