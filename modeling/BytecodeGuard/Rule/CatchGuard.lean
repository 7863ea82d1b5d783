import BytecodeGuard.Handler.Fatal
import BytecodeGuard.Rule.Emission
import BytecodeGuard.Rule.Validation

/-!
# The catch guard

Sandboxed code must not catch the signals that stop it. The guard warns about each handler for
one of the `guardedTypes`, and begins each such handler with a check that throws fatal objects
again. A handler is checked once, however many regions name it.

The types are compared by name. A handler for a superclass may receive anything, so the check at
run time is needed even where the declared type looks decisive. A guarded handler that never
begins is a fault, since it would go unchecked.
-/

namespace BytecodeGuard.CatchGuard

open Emission

/-- The name of the rule. -/
def name : String := "CatchGuardRule"

/-- The declared type and the handler of a region that needs a check. -/
def guardedHandler? : Instruction → Option (String × Label)
  | .region ⟨_, _, handler, some caught⟩ =>
    if isGuardedType caught then some (caught, handler) else none
  | _ => none

/-- A warning for each region that needs a check. -/
def validation : ValidationRule where
  name
  validate site i :=
    match guardedHandler? i with
    | some (caught, _) =>
      [{ severity := .warning
         text := some ("Injected runtime check for catch-block for type " ++ site.display caught) }]
    | none => []

variable {σ : Type}

/-- The check at the beginning of a handler. -/
def insertCheck (l : Label) : Action σ Unit := do
  let view ← Action.look
  Action.diagnose .trace
    (view.site.member.qualifiedName ++ ": runtime catch check at handler " ++ l.text)
  Action.duplicate
  Action.invokeCheck checkName checkDescriptor
  Action.trace ("Inserted catch check at " ++ l.text)

/-- Registers the handlers that need a check, and checks each where it begins. -/
def emission : EmissionRule σ where
  name
  emit i := do
    if let some (_, handler) := guardedHandler? i then
      discard (Action.registerHandler handler)
    else if let some l := i.label? then
      if ← Action.resolveHandler l then insertCheck l
  finish := do
    if let some l ← Action.firstPendingHandler then
      let view ← Action.look
      .fail (.unresolvedHandler view.site.member.qualifiedName l)

end BytecodeGuard.CatchGuard
