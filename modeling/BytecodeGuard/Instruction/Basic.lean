import BytecodeGuard.Instruction.Operand

/-!
# Instructions

The code of a method is a list of instructions. Besides executable instructions it holds
*markers*, which only describe positions: labels, line numbers and the declarations of handler
regions. A declaration comes before the code that it protects.

`Instruction.labels` lists every label that an instruction mentions. `codeAgrees` is equality of
code with floating-point constants compared as numbers.
-/

namespace BytecodeGuard

/-- A stretch of code whose exceptions are passed to a handler. -/
structure HandlerRegion where
  /-- Where the protected code begins. -/
  start : Label
  /-- Where the protected code has ended. -/
  stop : Label
  /-- Where the handler begins. -/
  handler : Label
  /-- The class of the exceptions that are caught; all of them if absent. -/
  caught : Option String
deriving DecidableEq

/-- One entry of the code of a method. -/
inductive Instruction where
  /-- An executable instruction. -/
  | exec (op : Opcode) (operand : Operand)
  /-- Marks a position. -/
  | label (label : Label)
  /-- The line in the source text of the code from `start` on. -/
  | line (number : UInt32) (start : Label)
  /-- Declares a handler. -/
  | region (region : HandlerRegion)
deriving DecidableEq

namespace Instruction

/-- The opcode of an executable instruction. -/
def opcode? : Instruction → Option Opcode
  | exec op _ => some op
  | _ => none

/-- Whether the instruction only describes a position. -/
def isMarker : Instruction → Bool
  | exec .. => false
  | _ => true

/-- The label that is placed here. -/
def label? : Instruction → Option Label
  | label l => some l
  | _ => none

/-- The handler that is declared here. -/
def handler? : Instruction → Option Label
  | region r => some r.handler
  | _ => none

/-- Every label that is placed here or referred to. -/
def labels : Instruction → List Label
  | exec _ operand => operand.targets
  | label l => [l]
  | line _ start => [start]
  | region r => [r.start, r.stop, r.handler]

/-- Equality with floating-point constants compared as numbers. -/
def agrees : Instruction → Instruction → Bool
  | exec op a, exec op' b => op == op' && a.agrees b
  | a, b => a == b

end Instruction

/-- Equality of code with floating-point constants compared as numbers. -/
def codeAgrees (a b : List Instruction) : Bool := a.isEqv b Instruction.agrees

end BytecodeGuard
