import BytecodeGuard.Fault

/-!
# Scripts

A script is what a rule does, as data: a finite tree of requests with one branch for each reply.
Whoever runs the script answers the requests from a state of their own, so a statement about
every script holds whatever a rule decides to do with the answers, and a script can reach nothing
that no request offers.
-/

namespace BytecodeGuard

/-- A finite tree of requests. -/
inductive Script (Request : Type) (Reply : Request → Type) (α : Type) where
  /-- Ends with a result. -/
  | done (result : α)
  /-- Gives up. -/
  | fail (fault : Fault)
  /-- Makes a request and goes on with the reply. -/
  | ask (request : Request) (next : Reply request → Script Request Reply α)

namespace Script

variable {Request : Type} {Reply : Request → Type} {α β State : Type}

/-- One script after the other. -/
def andThen : Script Request Reply α → (α → Script Request Reply β) → Script Request Reply β
  | done result, next => next result
  | fail fault, _ => fail fault
  | ask request branches, next => ask request fun reply => (branches reply).andThen next

instance : Monad (Script Request Reply) where
  pure := done
  bind := andThen

/-- The result of a reply that may be a fault, which ends the script. -/
def ofExcept : Except Fault α → Script Request Reply α
  | .ok result => done result
  | .error fault => fail fault

/-- Runs a script, answering each request from a state. -/
def run (answer : (r : Request) → State → Reply r × State) :
    Script Request Reply α → EStateM Fault State α
  | done result, s => .ok result s
  | fail fault, s => .error fault s
  | ask r next, s =>
    let answered := answer r s
    (next answered.1).run answer answered.2

theorem run_andThen (answer : (r : Request) → State → Reply r × State)
    (script : Script Request Reply α) (next : α → Script Request Reply β) :
    (script.andThen next).run answer = (script.run answer >>= fun a => (next a).run answer) := by
  funext s
  induction script generalizing s with
  | done result => rfl
  | fail fault => rfl
  | ask r branches ih => exact ih _ _

end Script

end BytecodeGuard
