import BytecodeGuard.Proofs.Emission.Policy
import BytecodeGuard.Proofs.Emission.Site
import BytecodeGuard.Proofs.Guard.Exact

/-!
# Repeated guards

All guards of a list of rules share the registry of the method. Other rules do not use it
(`registryFree`), though they may do anything else, before, between and after the guards.

**Theorem (`applyAll_withoutRepeats`).** Every guard but the first can be left out of a list of
rules. The new code of a method is the same, with the same peak and the same notes, or emission
stops with the same fault.

The first guard settles an instruction (`settles_emit`): a handler that is declared there is
known afterwards, and a label that is placed there is not pending. The other rules leave the
registry like this, so a later guard finds nothing to do. At the end of the method the first guard
goes on only if nothing is pending (`settles_finish`). What a guard with nothing to do leaves
behind is its name at the site, and the next rule replaces that by its own.
-/

namespace BytecodeGuard

namespace Emission

variable {σ α : Type} {e e' : Emission σ}

/-! ## Rules that do not use the registry -/

/-- No request is about the registry of handlers. -/
def registryFree : Policy σ := { asks := fun r => r.isRegistry = false }

theorem registry_answer {r : Request σ} (h : r.isRegistry = false) (e : Emission σ) :
    (answer r e).2.registry = e.registry := by
  cases r with
  | registerHandler l => cases h
  | resolveHandler l => cases h
  | firstPendingHandler => rfl
  | trace text settings =>
    show (e.report _).registry = e.registry
    unfold report
    split <;> rfl
  | _ => rfl

theorem registry_act {x : Action σ α} (hx : x.Obeys registryFree) {a : α}
    (h : act x e = .ok a e') : e'.registry = e.registry := by
  induction x generalizing e with
  | done result =>
    cases h
    rfl
  | fail fault => cases h
  | ask r next ih =>
    obtain ⟨hr, hnext⟩ := hx
    rw [← registry_answer hr e]
    exact ih _ (hnext _ trivial) h

/-! ## Visits from other sites -/

/-- The site as it is outside of visits. -/
def outside (site : Site) : Site := { site with index := none, rule := "" }

/-- A visit begins with its own site. -/
theorem visit_congr (h : resite outside e = resite outside e') (index : Option Nat)
    (script : EmissionRule σ → Action σ Unit) (rule : EmissionRule σ) :
    visit index script rule e = visit index script rule e' := by
  let entered (e : Emission σ) := resite (fun site => { site with index, rule := rule.name }) e
  have hentered : entered (resite outside e) = entered (resite outside e') := congrArg entered h
  exact congrArg (act (script rule)) hentered

theorem registry_visit {index : Option Nat} {script : EmissionRule σ → Action σ Unit}
    {rule : EmissionRule σ} (hr : (script rule).Obeys registryFree)
    (h : visit index script rule e = .ok () e') : e'.registry = e.registry := by
  obtain ⟨_, entered, henter, hact⟩ := bind_eq_ok.1 h
  cases henter
  have hregistry := registry_act hr hact
  exact hregistry

end Emission

namespace CatchGuard

open Emission

variable {σ : Type} {e e' : Emission σ}

/-! ## A guard with nothing to do -/

/-- The script does nothing while the registry is as given. -/
def IdleIn (registry : HandlerRegistry) (x : Action σ Unit) : Prop :=
  ∀ e : Emission σ, e.registry = registry → act x e = .ok () e

/-- Once the script has run, it does nothing until the registry changes. -/
def Settles (x : Action σ Unit) : Prop :=
  ∀ e e' : Emission σ, act x e = .ok () e' → IdleIn e'.registry x

theorem register_of_registered (r : HandlerRegistry) (l : Label) :
    ((r.register l).2.register l).2 = (r.register l).2 := by
  by_cases h : l ∈ r.guarded ∨ l ∈ r.pending
  · have hr : (r.register l).2 = r := by simp only [HandlerRegistry.register, if_pos h]
    rw [hr, hr]
  · have hpending : l ∈ (r.register l).2.pending := by
      simp only [HandlerRegistry.register, if_neg h, List.mem_cons_self]
    have hknown : l ∈ (r.register l).2.guarded ∨ l ∈ (r.register l).2.pending := .inr hpending
    rw [HandlerRegistry.register, if_pos hknown]

theorem resolve_of_not_pending {r : HandlerRegistry} {l : Label} (h : l ∉ r.pending) :
    r.resolve l = (false, r) :=
  if_neg h

/-- A label is not pending once the guard has seen it. -/
theorem settles_resolve (l : Label) :
    Settles (do if ← Action.resolveHandler l then insertCheck l : Action σ Unit) := by
  intro e e' h
  have hrun : act (if (e.registry.resolve l).1 = true then insertCheck l else pure ())
      { e with registry := (e.registry.resolve l).2 } = .ok () e' := h
  have hregistry : e'.registry = (e.registry.resolve l).2 := by
    refine registry_act ?_ hrun
    split
    · exact obeys_insertCheck (fun _ h => h) (fun _ _ _ => trivial) l
    · exact trivial
  have hl : l ∉ e'.registry.pending := by
    rw [hregistry, HandlerRegistry.mem_pending_resolve]
    exact fun hl => hl.2 rfl
  intro c hc
  show act (if (c.registry.resolve l).1 = true then insertCheck l else pure ())
    { c with registry := (c.registry.resolve l).2 } = _
  rw [hc, resolve_of_not_pending hl, ← hc]
  rfl

/-- **An instruction is settled** when a guard has visited it. -/
theorem settles_emit (i : Instruction) : Settles ((emission : EmissionRule σ).emit i) := by
  cases hg : guardedHandler? i with
  | some declared =>
    simp only [emission, hg]
    intro e e' h c hc
    have hregistry : e'.registry = (e.registry.register declared.2).2 := by
      cases h
      rfl
    show EStateM.Result.ok () { c with registry := (c.registry.register declared.2).2 } = _
    rw [hc, hregistry, register_of_registered, ← hregistry, ← hc]
  | none =>
    cases hl : i.label? with
    | none =>
      simp only [emission, hg, hl]
      exact fun _ _ _ _ _ => rfl
    | some l =>
      simp only [emission, hg, hl]
      exact settles_resolve l

/-- **The end of a method is settled** when a guard goes on: nothing is pending. -/
theorem settles_finish : Settles (emission : EmissionRule σ).finish := by
  intro e e' h c hc
  cases hp : e.registry.firstPending? with
  | some l =>
    rw [act_finish_of_some hp] at h
    cases h
  | none =>
    rw [act_finish_of_none hp] at h
    cases h
    exact act_finish_of_none (hc ▸ hp)

end CatchGuard

/-! ## Lists of rules -/

/-- What a list of rules may hold: a guard, or any rule that does not use its registry. -/
inductive Listed (σ : Type) where
  | guard
  | other (rule : EmissionRule σ) (obeys : rule.Obeys Emission.registryFree)

namespace Listed

variable {σ : Type}

/-- The rule that is listed. -/
def rule : Listed σ → EmissionRule σ
  | guard => CatchGuard.emission
  | other rule _ => rule

/-- Whether a guard is listed. -/
def isGuard : Listed σ → Bool
  | guard => true
  | other .. => false

/-- The rules of a list, in order. -/
def rules (listed : List (Listed σ)) : List (EmissionRule σ) := listed.map rule

/-- The list without its guards. -/
def withoutGuards (listed : List (Listed σ)) : List (Listed σ) := listed.filter (!·.isGuard)

/-- The list without any guard but the first. -/
def withoutRepeats : List (Listed σ) → List (Listed σ)
  | [] => []
  | guard :: listed => guard :: withoutGuards listed
  | other rule obeys :: listed => other rule obeys :: withoutRepeats listed

/-! ## The same visits with fewer guards -/

open Emission
open CatchGuard (IdleIn Settles settles_emit settles_finish emission)

variable {index : Option Nat} {script : EmissionRule σ → Action σ Unit}

theorem visit_of_idle {e : Emission σ} (h : IdleIn e.registry (script emission)) :
    visit index script emission e =
      .ok () (resite (fun site => { site with index, rule := CatchGuard.name }) e) :=
  h (resite (fun site => { site with index, rule := CatchGuard.name }) e) rfl

/-- While the guard has nothing to do, the guards of a list can be left out. -/
theorem forM_withoutGuards (hother : ∀ rule : EmissionRule σ, rule.Obeys registryFree →
      (script rule).Obeys registryFree) (listed : List (Listed σ)) (e e' : Emission σ)
    (hidle : IdleIn e.registry (script emission)) (h : resite outside e = resite outside e') :
    mapState (resite outside) ((rules listed).forM (visit index script) e) =
      mapState (resite outside) ((rules (withoutGuards listed)).forM (visit index script) e') := by
  induction listed generalizing e e' with
  | nil => exact congrArg (EStateM.Result.ok ()) h
  | cons first listed ih =>
    cases first with
    | guard =>
      let entered := resite (fun site => { site with index, rule := CatchGuard.name }) e
      have hvisit : visit index script emission e = .ok () entered := visit_of_idle hidle
      show mapState (resite outside) ((visit index script emission >>= fun _ =>
        (rules listed).forM (visit index script)) e) = _
      rw [bind_of_ok hvisit]
      exact ih entered e' hidle h
    | other rule obeys =>
      refine mapState_bind (congrArg _ (visit_congr h index script rule)) ?_
      intro _ c c' hc hc' hcc
      apply ih c c' _ hcc
      rw [registry_visit (hother rule obeys) hc]
      exact hidle

/-- **Repeated guards in a visit.** -/
theorem alikeVisits_withoutRepeats (hsettles : Settles (script emission))
    (hother : ∀ rule : EmissionRule σ, rule.Obeys registryFree →
      (script rule).Obeys registryFree)
    (listed : List (Listed σ)) :
    AlikeVisits outside index script (rules listed) (rules (withoutRepeats listed)) := by
  induction listed with
  | nil => exact fun _ _ h => congrArg (EStateM.Result.ok ()) h
  | cons first listed ih =>
    intro e e' h
    cases first with
    | guard =>
      refine mapState_bind (congrArg _ (visit_congr h index script emission)) ?_
      intro _ c c' hc hc' hcc
      -- The first guard has settled the instruction, so the others have nothing to do.
      obtain ⟨_, entered, -, hact⟩ := bind_eq_ok.1 hc
      exact forM_withoutGuards hother listed c c' (hsettles entered c hact) hcc
    | other rule obeys =>
      refine mapState_bind (congrArg _ (visit_congr h index script rule)) ?_
      intro _ c c' hc hc' hcc
      exact ih c c' hcc

/-- **Repeated guards are harmless.** -/
theorem applyAll_withoutRepeats [Inhabited σ] (listed : List (Listed σ)) (config : Config)
    (m : Member) (code : List Instruction) :
    EmissionRule.applyAll (rules (withoutRepeats listed)) config m code =
      EmissionRule.applyAll (rules listed) config m code := by
  have hemit : ∀ i k, AlikeVisits outside (some k) (·.emit i) (rules listed)
      (rules (withoutRepeats listed)) := fun i k =>
    alikeVisits_withoutRepeats (settles_emit i) (fun rule h => h.emit i) listed
  have hfinish : AlikeVisits outside none (·.finish) (rules listed)
      (rules (withoutRepeats listed)) :=
    alikeVisits_withoutRepeats settles_finish (fun rule h => h.finish) listed
  exact (applyAll_eq_of_alike rfl hemit hfinish code).symm

theorem registryFree_padding : padding.Obeys registryFree where
  emit _ := ⟨rfl, fun _ _ => Script.obeys_discard (obeys_build rfl fun _ _ _ => trivial)⟩
  finish := Script.obeys_discard (obeys_build rfl fun _ _ _ => trivial)

/-- Two of three guards are left out around a rule that writes code of its own. -/
theorem applyAll_withoutRepeats_padding :
    let once := EmissionRule.applyAll [padding, emission] {} CatchGuard.task
      CatchGuard.sharedHandler
    once.result.isOk = true ∧
      EmissionRule.applyAll [padding, emission, emission, emission] {} CatchGuard.task
        CatchGuard.sharedHandler = once := by
  intro once
  have hok : once.result.isOk = true := by decide +kernel
  let padded : Listed Unit := other padding registryFree_padding
  have hsame := applyAll_withoutRepeats [padded, guard, guard, guard] {} CatchGuard.task
    CatchGuard.sharedHandler
  exact ⟨hok, hsame.symm⟩

end Listed

end BytecodeGuard
