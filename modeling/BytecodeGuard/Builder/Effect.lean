import BytecodeGuard.Descriptor
import BytecodeGuard.Opcode.Effect

/-!
# The stack effect of an instruction

Most opcodes have a fixed effect. The effect of the others follows from the operand: the
constant that is loaded, the type of the field, the parameters and the result of the method, or
the number of dimensions.
-/

namespace BytecodeGuard

namespace Opcode

/-- The effect of accessing a field whose value fills the given slots. -/
def fieldEffect (op : Opcode) (slots : Nat) : StackEffect :=
  match op with
  | getstatic => ⟨0, slots⟩
  | putstatic => ⟨slots, 0⟩
  | getfield => ⟨1, slots⟩
  | _ => ⟨1 + slots, 0⟩

/-- The effect of calling a method. Only static methods have no receiver. -/
def callEffect (op : Opcode) (shape : Descriptor.MethodShape) : StackEffect :=
  match op with
  | invokestatic | invokedynamic => ⟨shape.argumentSlots, shape.resultSlots⟩
  | _ => ⟨1 + shape.argumentSlots, shape.resultSlots⟩

end Opcode

/-- The slots that an instruction pops and pushes. -/
def stackEffect (op : Opcode) (operand : Operand) : Except Fault StackEffect :=
  match op.fixedEffect?, operand with
  | some effect, _ => .ok effect
  | none, .constant value => .ok ⟨0, value.slots⟩
  | none, .multiArray _ dimensions => .ok ⟨dimensions.toNat, 1⟩
  | none, .field ref => (Descriptor.fieldSlots ref.descriptor).map op.fieldEffect
  | none, .method ref => (Descriptor.methodShape ref.descriptor).map op.callEffect
  | none, .callSite _ descriptor => (Descriptor.methodShape descriptor).map op.callEffect
  | none, operand => .error (.operandMismatch op operand)

end BytecodeGuard
