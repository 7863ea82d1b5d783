import BytecodeGuard.Rule.CatchGuard

/-!
# What rules may do

A policy says which requests a rule may make, which replies it has to be ready for, and which
faults it may give up with. Whether a rule obeys a policy can be seen from its scripts, without
running them: `obeys_bind` takes a script apart. The catch guard obeys every policy that allows its
requests and the faults that it passes on or has of its own (`obeys_guard`).
-/

namespace BytecodeGuard

namespace Script

/-- Limits for scripts. Without further notice anything goes. -/
structure Policy (Request : Type) (Reply : Request → Type) where
  /-- The request may be made. -/
  asks : Request → Prop := fun _ => True
  /-- What comes after the reply is of interest. -/
  expects : (r : Request) → Reply r → Prop := fun _ _ => True
  /-- The script may give up with the fault. -/
  fails : Fault → Prop := fun _ => True

variable {Request : Type} {Reply : Request → Type} {α β : Type} {p : Policy Request Reply}

/-- The script keeps within the limits, whatever replies it gets of those that are expected. -/
def Obeys (p : Policy Request Reply) : Script Request Reply α → Prop
  | .done _ => True
  | .fail fault => p.fails fault
  | .ask r next => p.asks r ∧ ∀ reply, p.expects r reply → Obeys p (next reply)

theorem obeys_bind {x : Script Request Reply α} {next : α → Script Request Reply β}
    (hx : x.Obeys p) (hnext : ∀ a, (next a).Obeys p) : (x >>= next).Obeys p := by
  induction x with
  | done result => exact hnext result
  | fail fault => exact hx
  | ask r branches ih =>
    obtain ⟨hasks, hbranches⟩ := hx
    exact ⟨hasks, fun reply hreply => ih reply (hbranches reply hreply)⟩

theorem obeys_discard {x : Script Request Reply α} (hx : x.Obeys p) : (discard x).Obeys p :=
  obeys_bind hx fun _ => trivial

end Script

namespace Emission

/-- Limits for the scripts of rules. -/
abbrev Policy (σ : Type) := Script.Policy (Request σ) Request.Reply

variable {σ : Type} {p : Policy σ}

/-- The request is about the registry of handlers. -/
def Request.isRegistry : Request σ → Bool
  | registerHandler _ | resolveHandler _ | firstPendingHandler => true
  | _ => false

/-- A rule may give up when a call fails. -/
def Policy.PassesOn (p : Policy σ) : Prop :=
  ∀ s fault, p.expects (.build s) (.error fault) → p.fails fault

theorem obeys_request {r : Request σ} (h : p.asks r) : (Action.request r).Obeys p :=
  ⟨h, fun _ _ => trivial⟩

theorem obeys_build {s : Step} (h : p.asks (.build s)) (hp : Policy.PassesOn p) :
    (Action.build s : Action σ (Option Label)).Obeys p := by
  refine ⟨h, fun reply hreply => ?_⟩
  cases reply with
  | ok result => exact trivial
  | error fault => exact hp s fault hreply

end Emission

/-- The rule keeps within the limits. -/
structure EmissionRule.Obeys {σ : Type} (p : Emission.Policy σ) (rule : EmissionRule σ) :
    Prop where
  emit : ∀ i, (rule.emit i).Obeys p
  finish : rule.finish.Obeys p

namespace CatchGuard

open Emission Script

variable {σ : Type} {p : Policy σ}

/-- A check does not need the registry. -/
theorem obeys_insertCheck (hasks : ∀ r : Request σ, r.isRegistry = false → p.asks r)
    (hp : Policy.PassesOn p) (l : Label) : (insertCheck l : Action σ Unit).Obeys p := by
  have hbuild : ∀ s, (discard (Action.build s) : Action σ Unit).Obeys p :=
    fun s => obeys_discard (obeys_build (hasks _ rfl) hp)
  apply obeys_bind (obeys_request (hasks _ rfl))
  intro view
  apply obeys_bind (obeys_request (hasks _ rfl))
  intro _
  apply obeys_bind (hbuild .dup)
  intro _
  refine obeys_bind ?_ fun _ => obeys_request (hasks _ rfl)
  exact obeys_bind (obeys_request (hasks _ rfl)) fun _ => hbuild _

/-- The guard passes faults on, and has one of its own. -/
theorem obeys_guard (hasks : ∀ r, p.asks r) (hp : Policy.PassesOn p)
    (hpending : ∀ method l, p.fails (.unresolvedHandler method l)) :
    (emission : EmissionRule σ).Obeys p where
  emit i := by
    cases hg : guardedHandler? i with
    | some declared =>
      simp only [emission, hg]
      exact obeys_discard (obeys_request (hasks _))
    | none =>
      cases hl : i.label? with
      | none =>
        simp only [emission, hg, hl]
        exact trivial
      | some l =>
        simp only [emission, hg, hl]
        refine obeys_bind (obeys_request (hasks _)) fun resolved => ?_
        split
        · exact obeys_insertCheck (fun r _ => hasks r) hp l
        · exact trivial
  finish := by
    refine obeys_bind (obeys_request (hasks _)) fun pending => ?_
    split
    · exact obeys_bind (obeys_request (hasks _)) fun view => hpending _ _
    · exact trivial

end CatchGuard

end BytecodeGuard
