import BytecodeGuard.Decimal.Ieee
import BytecodeGuard.Opcode.Flow

/-!
# Operands

What an instruction carries besides its opcode. `Operand.kind` classifies operands the way
`Opcode.operandKind` classifies opcodes, and `Operand.targets` lists the labels that execution
may continue at.

Two notions of equality meet here. Structural equality tells all operands apart. `Operand.agrees`
compares floating-point constants as numbers, so that an operand with a `NaN` does not agree with
itself.
-/

namespace BytecodeGuard

/-- The identity of a position in the code of one method. -/
structure Label where
  id : UInt32
deriving DecidableEq, Inhabited

/-- The number of the label. -/
def Label.index (l : Label) : Nat := l.id.toNat

instance : LT Label := ⟨fun a b => a.index < b.index⟩

instance : LE Label := ⟨fun a b => a.index ≤ b.index⟩

instance (a b : Label) : Decidable (a < b) := inferInstanceAs (Decidable (a.index < b.index))

instance (a b : Label) : Decidable (a ≤ b) := inferInstanceAs (Decidable (a.index ≤ b.index))

/-- A reference to a field or method by name. -/
structure SymbolicRef where
  /-- The class that declares the member, with `/` between the parts of its name. -/
  owner : String
  name : String
  descriptor : String
  /-- Whether the owner is an interface. -/
  isInterface : Bool
deriving DecidableEq, Inhabited

/-- A value that can be loaded from the constant pool. -/
inductive Constant where
  | int (value : Int32)
  | float (value : Ieee .single)
  | long (value : Int64)
  | double (value : Ieee .double)
  | string (value : String)
  | classLiteral (name : String)
deriving DecidableEq

namespace Constant

/-- The stack slots the loaded value fills. -/
def slots : Constant → Nat
  | long _ | double _ => 2
  | _ => 1

/-- Equality with floating-point values compared as numbers. -/
def agrees : Constant → Constant → Bool
  | float x, float y => x.sameNumber y
  | double x, double y => x.sameNumber y
  | a, b => a == b

/-- Constants that agree fill the same number of slots. -/
theorem slots_eq_of_agrees {a b : Constant} (h : a.agrees b = true) : a.slots = b.slots := by
  cases a <;> cases b <;> simp_all [agrees, slots]

end Constant

/-- The operand of an instruction. -/
inductive Operand where
  | empty
  /-- An immediate integer. -/
  | int (value : Int32)
  /-- The index of a local variable. -/
  | slot (index : UInt16)
  | typeName (name : String)
  | field (ref : SymbolicRef)
  | method (ref : SymbolicRef)
  /-- A dynamic call site. -/
  | callSite (name descriptor : String)
  | target (label : Label)
  | constant (value : Constant)
  /-- A local variable and what is added to it. -/
  | increment (index : UInt16) (delta : Int16)
  /-- The targets of the keys, and the target of every other key. -/
  | switch (fallback : Label) (keys : List Int32) (targets : List Label)
  /-- An array type and the number of its dimensions to allocate. -/
  | multiArray (descriptor : String) (dimensions : UInt8)
deriving DecidableEq

namespace Operand

/-- The kind of the operand. -/
def kind : Operand → OperandKind
  | empty => .empty
  | int _ => .int
  | slot _ => .slot
  | typeName _ => .typeName
  | field _ => .field
  | method _ => .method
  | callSite .. => .callSite
  | target _ => .target
  | constant _ => .constant
  | increment .. => .increment
  | switch .. => .switch
  | multiArray .. => .multiArray

/-- The labels that execution may continue at, the fallback of a switch first. -/
def targets : Operand → List Label
  | target label => [label]
  | switch fallback _ targets => fallback :: targets
  | _ => []

/-- Equality with floating-point constants compared as numbers. -/
def agrees : Operand → Operand → Bool
  | constant a, constant b => a.agrees b
  | a, b => a == b

end Operand

end BytecodeGuard
