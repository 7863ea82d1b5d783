/-!
# The instruction set

The opcodes of the Java virtual machine in their general forms. Shorthands such as `xload_n`,
and the wide forms of `ldc`, `goto` and `jsr`, are the same opcode as the form they abbreviate,
so each opcode has one byte and one mnemonic.

`Opcode.ofMnemonic?` reads exactly the texts that `Opcode.mnemonic` writes.
-/

namespace BytecodeGuard

/-- An opcode. -/
inductive Opcode where
  | nop | aconstNull | iconstM1 | iconst0 | iconst1 | iconst2 | iconst3 | iconst4 | iconst5
  | lconst0 | lconst1 | fconst0 | fconst1 | fconst2 | dconst0 | dconst1 | bipush | sipush | ldc
  | iload | lload | fload | dload | aload | iaload | laload | faload | daload | aaload | baload
  | caload | saload | istore | lstore | fstore | dstore | astore | iastore | lastore | fastore
  | dastore | aastore | bastore | castore | sastore | pop | pop2 | dup | dupX1 | dupX2 | dup2
  | dup2X1 | dup2X2 | swap | iadd | ladd | fadd | dadd | isub | lsub | fsub | dsub | imul | lmul
  | fmul | dmul | idiv | ldiv | fdiv | ddiv | irem | lrem | frem | drem | ineg | lneg | fneg
  | dneg | ishl | lshl | ishr | lshr | iushr | lushr | iand | land | ior | lor | ixor | lxor
  | iinc | i2l | i2f | i2d | l2i | l2f | l2d | f2i | f2l | f2d | d2i | d2l | d2f | i2b | i2c | i2s
  | lcmp | fcmpl | fcmpg | dcmpl | dcmpg | ifeq | ifne | iflt | ifge | ifgt | ifle | ifIcmpeq
  | ifIcmpne | ifIcmplt | ifIcmpge | ifIcmpgt | ifIcmple | ifAcmpeq | ifAcmpne | goto | jsr | ret
  | tableswitch | lookupswitch | ireturn | lreturn | freturn | dreturn | areturn | vreturn
  | getstatic | putstatic | getfield | putfield | invokevirtual | invokespecial | invokestatic
  | invokeinterface | invokedynamic | new | newarray | anewarray | arraylength | athrow
  | checkcast | instanceof | monitorenter | monitorexit | multianewarray | ifnull | ifnonnull
deriving DecidableEq, Inhabited

namespace Opcode

/-- The byte that stands for the opcode in a class file. -/
def byte : Opcode → UInt8
  | nop => 0x00
  | aconstNull => 0x01
  | iconstM1 => 0x02
  | iconst0 => 0x03
  | iconst1 => 0x04
  | iconst2 => 0x05
  | iconst3 => 0x06
  | iconst4 => 0x07
  | iconst5 => 0x08
  | lconst0 => 0x09
  | lconst1 => 0x0A
  | fconst0 => 0x0B
  | fconst1 => 0x0C
  | fconst2 => 0x0D
  | dconst0 => 0x0E
  | dconst1 => 0x0F
  | bipush => 0x10
  | sipush => 0x11
  | ldc => 0x12
  | iload => 0x15
  | lload => 0x16
  | fload => 0x17
  | dload => 0x18
  | aload => 0x19
  | iaload => 0x2E
  | laload => 0x2F
  | faload => 0x30
  | daload => 0x31
  | aaload => 0x32
  | baload => 0x33
  | caload => 0x34
  | saload => 0x35
  | istore => 0x36
  | lstore => 0x37
  | fstore => 0x38
  | dstore => 0x39
  | astore => 0x3A
  | iastore => 0x4F
  | lastore => 0x50
  | fastore => 0x51
  | dastore => 0x52
  | aastore => 0x53
  | bastore => 0x54
  | castore => 0x55
  | sastore => 0x56
  | pop => 0x57
  | pop2 => 0x58
  | dup => 0x59
  | dupX1 => 0x5A
  | dupX2 => 0x5B
  | dup2 => 0x5C
  | dup2X1 => 0x5D
  | dup2X2 => 0x5E
  | swap => 0x5F
  | iadd => 0x60
  | ladd => 0x61
  | fadd => 0x62
  | dadd => 0x63
  | isub => 0x64
  | lsub => 0x65
  | fsub => 0x66
  | dsub => 0x67
  | imul => 0x68
  | lmul => 0x69
  | fmul => 0x6A
  | dmul => 0x6B
  | idiv => 0x6C
  | ldiv => 0x6D
  | fdiv => 0x6E
  | ddiv => 0x6F
  | irem => 0x70
  | lrem => 0x71
  | frem => 0x72
  | drem => 0x73
  | ineg => 0x74
  | lneg => 0x75
  | fneg => 0x76
  | dneg => 0x77
  | ishl => 0x78
  | lshl => 0x79
  | ishr => 0x7A
  | lshr => 0x7B
  | iushr => 0x7C
  | lushr => 0x7D
  | iand => 0x7E
  | land => 0x7F
  | ior => 0x80
  | lor => 0x81
  | ixor => 0x82
  | lxor => 0x83
  | iinc => 0x84
  | i2l => 0x85
  | i2f => 0x86
  | i2d => 0x87
  | l2i => 0x88
  | l2f => 0x89
  | l2d => 0x8A
  | f2i => 0x8B
  | f2l => 0x8C
  | f2d => 0x8D
  | d2i => 0x8E
  | d2l => 0x8F
  | d2f => 0x90
  | i2b => 0x91
  | i2c => 0x92
  | i2s => 0x93
  | lcmp => 0x94
  | fcmpl => 0x95
  | fcmpg => 0x96
  | dcmpl => 0x97
  | dcmpg => 0x98
  | ifeq => 0x99
  | ifne => 0x9A
  | iflt => 0x9B
  | ifge => 0x9C
  | ifgt => 0x9D
  | ifle => 0x9E
  | ifIcmpeq => 0x9F
  | ifIcmpne => 0xA0
  | ifIcmplt => 0xA1
  | ifIcmpge => 0xA2
  | ifIcmpgt => 0xA3
  | ifIcmple => 0xA4
  | ifAcmpeq => 0xA5
  | ifAcmpne => 0xA6
  | goto => 0xA7
  | jsr => 0xA8
  | ret => 0xA9
  | tableswitch => 0xAA
  | lookupswitch => 0xAB
  | ireturn => 0xAC
  | lreturn => 0xAD
  | freturn => 0xAE
  | dreturn => 0xAF
  | areturn => 0xB0
  | vreturn => 0xB1
  | getstatic => 0xB2
  | putstatic => 0xB3
  | getfield => 0xB4
  | putfield => 0xB5
  | invokevirtual => 0xB6
  | invokespecial => 0xB7
  | invokestatic => 0xB8
  | invokeinterface => 0xB9
  | invokedynamic => 0xBA
  | new => 0xBB
  | newarray => 0xBC
  | anewarray => 0xBD
  | arraylength => 0xBE
  | athrow => 0xBF
  | checkcast => 0xC0
  | instanceof => 0xC1
  | monitorenter => 0xC2
  | monitorexit => 0xC3
  | multianewarray => 0xC5
  | ifnull => 0xC6
  | ifnonnull => 0xC7

/-- The upper-case name of the opcode. -/
def mnemonic : Opcode → String
  | nop => "NOP"
  | aconstNull => "ACONST_NULL"
  | iconstM1 => "ICONST_M1"
  | iconst0 => "ICONST_0"
  | iconst1 => "ICONST_1"
  | iconst2 => "ICONST_2"
  | iconst3 => "ICONST_3"
  | iconst4 => "ICONST_4"
  | iconst5 => "ICONST_5"
  | lconst0 => "LCONST_0"
  | lconst1 => "LCONST_1"
  | fconst0 => "FCONST_0"
  | fconst1 => "FCONST_1"
  | fconst2 => "FCONST_2"
  | dconst0 => "DCONST_0"
  | dconst1 => "DCONST_1"
  | bipush => "BIPUSH"
  | sipush => "SIPUSH"
  | ldc => "LDC"
  | iload => "ILOAD"
  | lload => "LLOAD"
  | fload => "FLOAD"
  | dload => "DLOAD"
  | aload => "ALOAD"
  | iaload => "IALOAD"
  | laload => "LALOAD"
  | faload => "FALOAD"
  | daload => "DALOAD"
  | aaload => "AALOAD"
  | baload => "BALOAD"
  | caload => "CALOAD"
  | saload => "SALOAD"
  | istore => "ISTORE"
  | lstore => "LSTORE"
  | fstore => "FSTORE"
  | dstore => "DSTORE"
  | astore => "ASTORE"
  | iastore => "IASTORE"
  | lastore => "LASTORE"
  | fastore => "FASTORE"
  | dastore => "DASTORE"
  | aastore => "AASTORE"
  | bastore => "BASTORE"
  | castore => "CASTORE"
  | sastore => "SASTORE"
  | pop => "POP"
  | pop2 => "POP2"
  | dup => "DUP"
  | dupX1 => "DUP_X1"
  | dupX2 => "DUP_X2"
  | dup2 => "DUP2"
  | dup2X1 => "DUP2_X1"
  | dup2X2 => "DUP2_X2"
  | swap => "SWAP"
  | iadd => "IADD"
  | ladd => "LADD"
  | fadd => "FADD"
  | dadd => "DADD"
  | isub => "ISUB"
  | lsub => "LSUB"
  | fsub => "FSUB"
  | dsub => "DSUB"
  | imul => "IMUL"
  | lmul => "LMUL"
  | fmul => "FMUL"
  | dmul => "DMUL"
  | idiv => "IDIV"
  | ldiv => "LDIV"
  | fdiv => "FDIV"
  | ddiv => "DDIV"
  | irem => "IREM"
  | lrem => "LREM"
  | frem => "FREM"
  | drem => "DREM"
  | ineg => "INEG"
  | lneg => "LNEG"
  | fneg => "FNEG"
  | dneg => "DNEG"
  | ishl => "ISHL"
  | lshl => "LSHL"
  | ishr => "ISHR"
  | lshr => "LSHR"
  | iushr => "IUSHR"
  | lushr => "LUSHR"
  | iand => "IAND"
  | land => "LAND"
  | ior => "IOR"
  | lor => "LOR"
  | ixor => "IXOR"
  | lxor => "LXOR"
  | iinc => "IINC"
  | i2l => "I2L"
  | i2f => "I2F"
  | i2d => "I2D"
  | l2i => "L2I"
  | l2f => "L2F"
  | l2d => "L2D"
  | f2i => "F2I"
  | f2l => "F2L"
  | f2d => "F2D"
  | d2i => "D2I"
  | d2l => "D2L"
  | d2f => "D2F"
  | i2b => "I2B"
  | i2c => "I2C"
  | i2s => "I2S"
  | lcmp => "LCMP"
  | fcmpl => "FCMPL"
  | fcmpg => "FCMPG"
  | dcmpl => "DCMPL"
  | dcmpg => "DCMPG"
  | ifeq => "IFEQ"
  | ifne => "IFNE"
  | iflt => "IFLT"
  | ifge => "IFGE"
  | ifgt => "IFGT"
  | ifle => "IFLE"
  | ifIcmpeq => "IF_ICMPEQ"
  | ifIcmpne => "IF_ICMPNE"
  | ifIcmplt => "IF_ICMPLT"
  | ifIcmpge => "IF_ICMPGE"
  | ifIcmpgt => "IF_ICMPGT"
  | ifIcmple => "IF_ICMPLE"
  | ifAcmpeq => "IF_ACMPEQ"
  | ifAcmpne => "IF_ACMPNE"
  | goto => "GOTO"
  | jsr => "JSR"
  | ret => "RET"
  | tableswitch => "TABLESWITCH"
  | lookupswitch => "LOOKUPSWITCH"
  | ireturn => "IRETURN"
  | lreturn => "LRETURN"
  | freturn => "FRETURN"
  | dreturn => "DRETURN"
  | areturn => "ARETURN"
  | vreturn => "RETURN"
  | getstatic => "GETSTATIC"
  | putstatic => "PUTSTATIC"
  | getfield => "GETFIELD"
  | putfield => "PUTFIELD"
  | invokevirtual => "INVOKEVIRTUAL"
  | invokespecial => "INVOKESPECIAL"
  | invokestatic => "INVOKESTATIC"
  | invokeinterface => "INVOKEINTERFACE"
  | invokedynamic => "INVOKEDYNAMIC"
  | new => "NEW"
  | newarray => "NEWARRAY"
  | anewarray => "ANEWARRAY"
  | arraylength => "ARRAYLENGTH"
  | athrow => "ATHROW"
  | checkcast => "CHECKCAST"
  | instanceof => "INSTANCEOF"
  | monitorenter => "MONITORENTER"
  | monitorexit => "MONITOREXIT"
  | multianewarray => "MULTIANEWARRAY"
  | ifnull => "IFNULL"
  | ifnonnull => "IFNONNULL"

/-- Every opcode, in the order of the bytes. -/
def all : List Opcode :=
  [nop, aconstNull, iconstM1, iconst0, iconst1, iconst2, iconst3, iconst4, iconst5, lconst0,
   lconst1, fconst0, fconst1, fconst2, dconst0, dconst1, bipush, sipush, ldc, iload, lload, fload,
   dload, aload, iaload, laload, faload, daload, aaload, baload, caload, saload, istore, lstore,
   fstore, dstore, astore, iastore, lastore, fastore, dastore, aastore, bastore, castore, sastore,
   pop, pop2, dup, dupX1, dupX2, dup2, dup2X1, dup2X2, swap, iadd, ladd, fadd, dadd, isub, lsub,
   fsub, dsub, imul, lmul, fmul, dmul, idiv, ldiv, fdiv, ddiv, irem, lrem, frem, drem, ineg, lneg,
   fneg, dneg, ishl, lshl, ishr, lshr, iushr, lushr, iand, land, ior, lor, ixor, lxor, iinc, i2l,
   i2f, i2d, l2i, l2f, l2d, f2i, f2l, f2d, d2i, d2l, d2f, i2b, i2c, i2s, lcmp, fcmpl, fcmpg,
   dcmpl, dcmpg, ifeq, ifne, iflt, ifge, ifgt, ifle, ifIcmpeq, ifIcmpne, ifIcmplt, ifIcmpge,
   ifIcmpgt, ifIcmple, ifAcmpeq, ifAcmpne, goto, jsr, ret, tableswitch, lookupswitch, ireturn,
   lreturn, freturn, dreturn, areturn, vreturn, getstatic, putstatic, getfield, putfield,
   invokevirtual, invokespecial, invokestatic, invokeinterface, invokedynamic, new, newarray,
   anewarray, arraylength, athrow, checkcast, instanceof, monitorenter, monitorexit,
   multianewarray, ifnull, ifnonnull]

/-- The opcode with the given mnemonic. Case counts, and shorthands have no mnemonic. -/
def ofMnemonic? (text : String) : Option Opcode := all.find? fun op => op.mnemonic == text

/-- The words of the mnemonic run together, each with a capital: `IF_ICMPEQ` gives `IfIcmpeq`. -/
def title (op : Opcode) : String :=
  String.join (op.mnemonic.splitOn "_" |>.map fun word => word.toLower.capitalize)

end Opcode

end BytecodeGuard
