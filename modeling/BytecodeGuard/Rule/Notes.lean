import BytecodeGuard.Fault
import BytecodeGuard.Message.Log

/-!
# Notes and outcomes

What a stage of a transformation leaves behind besides its result: messages, which a log may keep
or drop, and diagnostic lines for whoever runs the program. Notes made before a fault stay.
-/

namespace BytecodeGuard

/-- How detailed a diagnostic line is. -/
inductive DiagnosticLevel where
  | debug
  | trace
deriving DecidableEq, Repr

/-- A line for whoever runs the program. -/
structure Diagnostic where
  level : DiagnosticLevel
  text : String
deriving DecidableEq

/-- Messages and diagnostic lines, each in order. -/
structure Notes where
  messages : List Message := []
  diagnostics : List Diagnostic := []
deriving DecidableEq

namespace Notes

/-- The notes of one stage and then of the next. -/
def append (a b : Notes) : Notes := ⟨a.messages ++ b.messages, a.diagnostics ++ b.diagnostics⟩

instance : Append Notes := ⟨append⟩

/-- A single message. -/
def message (m : Message) : Notes := { messages := [m] }

/-- A single diagnostic line. -/
def diagnostic (level : DiagnosticLevel) (text : String) : Notes :=
  { diagnostics := [⟨level, text⟩] }

end Notes

/-- A result or a fault, with the notes made on the way. -/
structure Outcome (α : Type) where
  result : Except Fault α
  notes : Notes := {}

namespace Outcome

variable {α β : Type}

/-- One stage after the other. Nothing follows a fault. -/
def andThen (x : Outcome α) (next : α → Outcome β) : Outcome β :=
  match x.result with
  | .ok a => ⟨(next a).result, x.notes ++ (next a).notes⟩
  | .error fault => ⟨.error fault, x.notes⟩

instance : Monad Outcome where
  pure a := ⟨.ok a, {}⟩
  bind := andThen

/-- A stage without notes. -/
def ofExcept (x : Except Fault α) : Outcome α := ⟨x, {}⟩

/-- A stage that only makes notes. -/
def note (notes : Notes) : Outcome Unit := ⟨.ok (), notes⟩

end Outcome

end BytecodeGuard
