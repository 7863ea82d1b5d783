import BytecodeGuard.Opcode.Basic

/-!
# Fixed stack effects

How many slots an opcode takes from the operand stack and how many it puts there. A `long` or
`double` value fills two slots, every other value one. Some opcodes have no effect of their own:
loading a constant, field access, invocation and the allocation of a multi-dimensional array
take what their operand says.
-/

namespace BytecodeGuard

/-- The slots an instruction pops and then pushes. -/
structure StackEffect where
  pops : Nat
  pushes : Nat
deriving DecidableEq, Repr

/-- The change of the stack depth. -/
def StackEffect.net (e : StackEffect) : Int := e.pushes - e.pops

/-- The stack effect that is the same for every operand, if the opcode has one. -/
def Opcode.fixedEffect? : Opcode → Option StackEffect
  | nop | iinc | goto | jsr | ret | vreturn => some ⟨0, 0⟩
  | aconstNull | iconstM1 | iconst0 | iconst1 | iconst2 | iconst3 | iconst4 | iconst5 | fconst0
  | fconst1 | fconst2 | bipush | sipush | iload | fload | aload | new => some ⟨0, 1⟩
  | lconst0 | lconst1 | dconst0 | dconst1 | lload | dload => some ⟨0, 2⟩
  | istore | fstore | astore | pop | ifeq | ifne | iflt | ifge | ifgt | ifle | ifnull | ifnonnull
  | tableswitch | lookupswitch | ireturn | freturn | areturn | athrow | monitorenter
  | monitorexit => some ⟨1, 0⟩
  | ineg | fneg | i2f | f2i | i2b | i2c | i2s | newarray | anewarray | arraylength | checkcast
  | instanceof => some ⟨1, 1⟩
  | dup | i2l | i2d | f2l | f2d => some ⟨1, 2⟩
  | lstore | dstore | pop2 | ifIcmpeq | ifIcmpne | ifIcmplt | ifIcmpge | ifIcmpgt | ifIcmple
  | ifAcmpeq | ifAcmpne | lreturn | dreturn => some ⟨2, 0⟩
  | iaload | faload | aaload | baload | caload | saload | iadd | isub | imul | idiv | irem | ishl
  | ishr | iushr | iand | ior | ixor | fadd | fsub | fmul | fdiv | frem | l2i | l2f | d2i | d2f
  | fcmpl | fcmpg => some ⟨2, 1⟩
  | laload | daload | swap | lneg | dneg | l2d | d2l => some ⟨2, 2⟩
  | dupX1 => some ⟨2, 3⟩
  | dup2 => some ⟨2, 4⟩
  | iastore | fastore | aastore | bastore | castore | sastore => some ⟨3, 0⟩
  | lshl | lshr | lushr => some ⟨3, 2⟩
  | dupX2 => some ⟨3, 4⟩
  | dup2X1 => some ⟨3, 5⟩
  | lastore | dastore => some ⟨4, 0⟩
  | lcmp | dcmpl | dcmpg => some ⟨4, 1⟩
  | ladd | lsub | lmul | ldiv | lrem | land | lor | lxor | dadd | dsub | dmul | ddiv | drem =>
    some ⟨4, 2⟩
  | dup2X2 => some ⟨4, 6⟩
  | ldc | getstatic | putstatic | getfield | putfield | invokevirtual | invokespecial
  | invokestatic | invokeinterface | invokedynamic | multianewarray => none

end BytecodeGuard
