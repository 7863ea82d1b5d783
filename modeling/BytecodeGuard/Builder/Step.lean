import BytecodeGuard.Builder.Basic
import BytecodeGuard.Script

/-!
# Steps of building

`Step` lists the calls that a builder offers, as data. The shorthands append the instruction they
are named for. A `Builder.Writer` is a script of steps: it may look at the builder between them,
and may go on after a step that failed.
-/

namespace BytecodeGuard

/-- One call to a builder. -/
inductive Step where
  | emit (op : Opcode) (operand : Operand)
  /-- An instruction without operand. -/
  | plain (op : Opcode)
  /-- An access to a local variable. -/
  | slot (op : Opcode) (index : UInt16)
  | jump (op : Opcode) (target : Label)
  | dup
  | athrow
  | returnVoid
  | newObject (className : String)
  | loadConstant (value : Constant)
  | invokeStatic (owner name descriptor : String)
  | invokeSpecial (owner name descriptor : String)
  | label (l : Label)
  | line (number : UInt32) (start : Label)
  | region (r : HandlerRegion)
  | instruction (i : Instruction)
  /-- Makes a label the entry of a handler without appending anything. -/
  | declareHandler (l : Label)
  /-- Continues at the given depth. -/
  | resetDepth (depth : UInt16)
  /-- Expects the given depth at a label. -/
  | setLabelDepth (l : Label) (depth : UInt16)
  | newLabel
deriving DecidableEq

namespace Step

/-- The instruction that the step appends if it succeeds. -/
def appends? : Step → Option Instruction
  | emit op operand => some (.exec op operand)
  | plain op => some (.exec op .empty)
  | slot op index => some (.exec op (.slot index))
  | jump op target => some (.exec op (.target target))
  | dup => some (.exec .dup .empty)
  | athrow => some (.exec .athrow .empty)
  | returnVoid => some (.exec .vreturn .empty)
  | newObject className => some (.exec .new (.typeName className))
  | loadConstant value => some (.exec .ldc (.constant value))
  | invokeStatic owner name descriptor =>
    some (.exec .invokestatic (.method ⟨owner, name, descriptor, false⟩))
  | invokeSpecial owner name descriptor =>
    some (.exec .invokespecial (.method ⟨owner, name, descriptor, false⟩))
  | label l => some (.label l)
  | line number start => some (.line number start)
  | region r => some (.region r)
  | instruction i => some i
  | declareHandler _ | resetDepth _ | setLabelDepth .. | newLabel => none

/-- Performs the step. Only a request for a label has a result. -/
def run (step : Step) : Build (Option Label) :=
  match step with
  | declareHandler l => do modify fun b => b.addHandler l; return none
  | resetDepth depth => do modify fun b => b.enterAt depth.toNat; return none
  | setLabelDepth l depth => do modify fun b => b.expect l depth.toNat; return none
  | newLabel => do return some (← Builder.newLabel)
  | step => do
    if let some i := step.appends? then Builder.instruction i
    return none

/-- Performs the step and reports how it went. -/
def attempt (step : Step) (b : Builder) : Except Fault (Option Label) × Builder :=
  match step.run b with
  | .ok result b => (.ok result, b)
  | .error fault b => (.error fault, b)

end Step

namespace Builder

/-- What a writer may ask of a builder. -/
inductive Request where
  | step (s : Step)
  /-- To see the builder. -/
  | look

/-- The answer to a request. -/
def Request.Reply : Request → Type
  | step _ => Except Fault (Option Label)
  | look => Builder

/-- A script that writes code. -/
abbrev Writer := Script Request Request.Reply

/-- Answers a request from the builder. -/
def answer : (r : Request) → Builder → r.Reply × Builder
  | .step s, b => s.attempt b
  | .look, b => (b, b)

namespace Writer

/-- Performs a step, and gives up if it fails. -/
def perform (s : Step) : Writer (Option Label) := .ask (.step s) Script.ofExcept

/-- Performs the steps in order, and gives up at the first that fails. -/
def ofSteps (steps : List Step) : Writer Unit := steps.forM fun s => discard (perform s)

/-- The action of the writer on a builder. -/
def run {α : Type} (w : Writer α) : Build α := Script.run answer w

end Writer

end Builder

end BytecodeGuard
