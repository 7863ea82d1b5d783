import BytecodeGuard.Opcode.Basic

/-!
# Where execution goes, and what an opcode carries

`Opcode.flow` says where execution may continue after an opcode. `Opcode.operandKind` says what
kind of operand the opcode carries.
-/

namespace BytecodeGuard

/-- Where execution may continue after an instruction. -/
inductive Flow where
  /-- At the next instruction. -/
  | sequential
  /-- At the target or at the next instruction. -/
  | branch
  /-- At the target. -/
  | jump
  /-- In another method, then at the next instruction. -/
  | call
  /-- In the caller. -/
  | methodReturn
  /-- At one of several targets. -/
  | switch
  /-- At an exception handler. -/
  | throwing
  /-- At the target, with the address of the next instruction on the stack. -/
  | subroutine
  /-- At an address held in a local variable. -/
  | subroutineReturn
deriving DecidableEq, Repr

/-- The kinds of operand. -/
inductive OperandKind where
  | empty | int | slot | typeName | field | method | callSite | target | constant | increment
  | switch | multiArray
deriving DecidableEq, Repr

/-- The word for the kind in error messages. -/
def OperandKind.name : OperandKind → String
  | empty => "None"
  | int => "Int"
  | slot => "Local"
  | typeName => "Type"
  | field => "Field"
  | method => "Method"
  | callSite => "Dynamic"
  | target => "Target"
  | constant => "Constant"
  | increment => "Increment"
  | switch => "Switch"
  | multiArray => "MultiArray"

namespace Opcode

/-- Where execution may continue after the opcode. -/
def flow : Opcode → Flow
  | ifeq | ifne | iflt | ifge | ifgt | ifle | ifIcmpeq | ifIcmpne | ifIcmplt | ifIcmpge | ifIcmpgt
  | ifIcmple | ifAcmpeq | ifAcmpne | ifnull | ifnonnull => .branch
  | goto => .jump
  | jsr => .subroutine
  | ret => .subroutineReturn
  | tableswitch | lookupswitch => .switch
  | ireturn | lreturn | freturn | dreturn | areturn | vreturn => .methodReturn
  | athrow => .throwing
  | invokevirtual | invokespecial | invokestatic | invokeinterface | invokedynamic => .call
  | _ => .sequential

/-- The kind of operand the opcode carries. -/
def operandKind : Opcode → OperandKind
  | bipush | sipush | newarray => .int
  | iload | lload | fload | dload | aload | istore | lstore | fstore | dstore | astore | ret =>
    .slot
  | ldc => .constant
  | new | anewarray | checkcast | instanceof => .typeName
  | getstatic | putstatic | getfield | putfield => .field
  | invokevirtual | invokespecial | invokestatic | invokeinterface => .method
  | invokedynamic => .callSite
  | ifeq | ifne | iflt | ifge | ifgt | ifle | ifIcmpeq | ifIcmpne | ifIcmplt | ifIcmpge | ifIcmpgt
  | ifIcmple | ifAcmpeq | ifAcmpne | goto | jsr | ifnull | ifnonnull => .target
  | iinc => .increment
  | tableswitch | lookupswitch => .switch
  | multianewarray => .multiArray
  | _ => .empty

/-- Whether the instruction after this opcode can be reached only through a label. -/
def endsFlow (op : Opcode) : Bool :=
  match op.flow with
  | .jump | .switch | .methodReturn | .throwing | .subroutineReturn => true
  | .sequential | .branch | .call | .subroutine => false

end Opcode

end BytecodeGuard
