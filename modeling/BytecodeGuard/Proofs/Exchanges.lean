import BytecodeGuard.Script

/-!
# What happens while a script runs

A script makes requests and goes on with the replies. Which requests it makes depends on the
replies, so it shows only in a run: `Script.exchanges` lists the requests of a run with their
replies, in order.

What a script does to a state follows from its exchanges, as far as each single exchange tells
what it does: see `Script.run_induction`.
-/

namespace BytecodeGuard

namespace Script

variable {Request : Type} {Reply : Request → Type} {α State : Type}

/-- A request with its reply. -/
structure Exchange (Request : Type) (Reply : Request → Type) where
  request : Request
  reply : Reply request

/-- The requests that a script makes from a state, with their replies. -/
def exchanges (answer : (r : Request) → State → Reply r × State) :
    Script Request Reply α → State → List (Exchange Request Reply)
  | done _, _ => []
  | fail _, _ => []
  | ask r next, s =>
    let answered := answer r s
    ⟨r, answered.1⟩ :: (next answered.1).exchanges answer answered.2

/-- **Invariants of scripts.** What holds without any exchange, and with one more at the
beginning whenever it holds for the others, holds of every run that succeeds. -/
theorem run_induction {answer : (r : Request) → State → Reply r × State}
    {motive : State → List (Exchange Request Reply) → State → Prop}
    (nil : ∀ s, motive s [] s)
    (cons : ∀ r s rest t, motive (answer r s).2 rest t →
      motive s (⟨r, (answer r s).1⟩ :: rest) t)
    {script : Script Request Reply α} {s t : State} {a : α}
    (h : script.run answer s = .ok a t) : motive s (script.exchanges answer s) t := by
  induction script generalizing s with
  | done result =>
    cases h
    exact nil t
  | fail fault => cases h
  | ask r next ih => exact cons r _ _ t (ih _ h)

end Script

end BytecodeGuard
