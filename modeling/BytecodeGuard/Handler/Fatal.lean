import BytecodeGuard.TypeName

/-!
# Fatal signals

The exceptions that stop sandboxed code must not be caught by it. A handler needs a check if it
is declared for one of the `guardedTypes`. The check itself looks at the object that was caught:
it is thrown again if one of its classes is among the `fatalTypes`. The first list is longer,
since a handler for a superclass may receive a fatal object, and may as well receive a harmless
one.
-/

namespace BytecodeGuard

/-- The types whose handlers need a check. -/
def guardedTypes : List String :=
  [TypeName.ruleViolation, TypeName.thresholdViolation, TypeName.stackOverflowError,
   TypeName.outOfMemoryError, TypeName.virtualMachineError, TypeName.threadDeath,
   TypeName.throwable, TypeName.error]

/-- The types of the objects that no handler may see. -/
def fatalTypes : List String :=
  [TypeName.ruleViolation, TypeName.thresholdViolation, TypeName.threadDeath,
   TypeName.virtualMachineError]

/-- Whether a handler for the type needs a check. -/
def isGuardedType (name : String) : Bool := name ∈ guardedTypes

/-- What becomes of a caught object. -/
inductive CatchDecision where
  /-- It is thrown again, because of the given type. -/
  | rethrow (fatal : String)
  /-- The handler runs. -/
  | allow
deriving DecidableEq, Repr

/-- What becomes of an object whose class and superclasses are given. The first fatal type
decides. -/
def checkCatch (lineage : List String) : CatchDecision :=
  match lineage.find? (· ∈ fatalTypes) with
  | some fatal => .rethrow fatal
  | none => .allow

/-- The name of the runtime check. -/
def checkName : String := "checkCatch"

/-- The descriptor of the runtime check. -/
def checkDescriptor : String := "(Ljava/lang/Throwable;)V"

end BytecodeGuard
