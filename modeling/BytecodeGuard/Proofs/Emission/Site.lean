import BytecodeGuard.Proofs.Emission.Placement

/-!
# Emissions at other sites

The site of an emission is there for the rules. Neither the builder nor the mark of a dropped
instruction depends on it, and of the result of a method only the messages show it.

**Theorem (`applyAll_eq_of_alike`).** Forget a part of the site. If two lists of rules cannot be
told apart at any instruction and when they finish, they turn the code of a method into the same
new code, with the same notes, or they stop with the same fault.

The instructions of the method itself come and go the same way on both sides, so it is enough to
compare what the rules do (`Alike`).
-/

namespace BytecodeGuard

namespace Emission

variable {σ : Type} {f : Site → Site} {rules rules' : List (EmissionRule σ)} {i : Instruction}
  {k : Nat}

/-- The emission with another site. -/
def resite (f : Site → Site) (e : Emission σ) : Emission σ := { e with site := f e.site }

/-! ## Building -/

theorem commutes_build (s : Step) : Commutes (resite f) (build s : Emit σ (Option Label)) := by
  intro e
  show build s { e with site := f e.site } = _
  unfold build
  dsimp only
  cases s.run e.builder <;> rfl

theorem commutes_pass (i : Instruction) :
    Commutes (resite f) (discard (build (.instruction i)) : Emit σ Unit) :=
  (commutes_build (.instruction i)).bind fun _ _ => rfl

theorem commutes_present (i : Instruction) : Commutes (resite f) (present i : Emit σ Unit) := by
  unfold present
  split
  · exact commutes_pass i
  · exact fun _ => rfl

theorem commutes_retain (i : Instruction) (dropped : Bool) :
    Commutes (resite f) (retain i dropped : Emit σ Unit) := by
  unfold retain
  split
  · exact commutes_pass i
  · exact fun _ => rfl

theorem commutes_takeDropped : Commutes (resite f) (takeDropped : Emit σ Bool) := fun _ => rfl

/-! ## One instruction after the other -/

/-- The two lists of rules cannot be told apart by what they do in a visit. -/
def AlikeVisits (f : Site → Site) (index : Option Nat)
    (script : EmissionRule σ → Action σ Unit) (rules rules' : List (EmissionRule σ)) : Prop :=
  Alike (resite f) (rules.forM (visit index script)) (rules'.forM (visit index script))

theorem alike_process (h : AlikeVisits f (some k) (·.emit i) rules rules') :
    Alike (resite f) (process rules i k) (process rules' i k) := by
  rw [process_eq, process_eq]
  refine (commutes_present i).alike.bind fun _ => ?_
  refine h.bind fun _ => ?_
  exact (commutes_takeDropped.bind fun dropped => commutes_retain i dropped).alike

theorem alike_processAll (code : List Instruction)
    (hemit : ∀ i k, AlikeVisits f (some k) (·.emit i) rules rules')
    (hfinish : AlikeVisits f none (·.finish) rules rules') :
    Alike (resite f) (processAll rules code) (processAll rules' code) := by
  rw [processAll_eq, processAll_eq]
  have hcode : Alike (resite f) (processFrom rules 0 code) (processFrom rules' 0 code) := by
    apply Alike.forM
    intro p _
    exact alike_process (hemit p.1 p.2)
  exact hcode.bind fun _ => hfinish

/-- What becomes of a method when its emission has ended. -/
def conclude : EStateM.Result Fault (Emission σ) Unit → Outcome BuiltCode
  | .ok _ e => ⟨.ok e.builder.finish, e.notes⟩
  | .error fault e => ⟨.error fault, e.notes⟩

theorem conclude_mapState (r : EStateM.Result Fault (Emission σ) Unit) :
    conclude (mapState (resite f) r) = conclude r := by
  cases r <;> rfl

/-- **Rules that cannot be told apart** have the same result and make the same notes. -/
theorem applyAll_eq_of_alike [Inhabited σ] {config config' : Config} {m : Member}
    (hsite : f { config, member := m } = f { config := config', member := m })
    (hemit : ∀ i k, AlikeVisits f (some k) (·.emit i) rules rules')
    (hfinish : AlikeVisits f none (·.finish) rules rules') (code : List Instruction) :
    EmissionRule.applyAll rules config m code = EmissionRule.applyAll rules' config' m code := by
  let s : Emission σ := start config m (labelBase code)
  let s' : Emission σ := start config' m (labelBase code)
  have hstart : resite f s = resite f s' := congrArg (fun site => { s with site }) hsite
  have hrun := alike_processAll code hemit hfinish s s' hstart
  show conclude (processAll rules code s) = conclude (processAll rules' code s')
  rw [← conclude_mapState (processAll rules code s), hrun, conclude_mapState]

end Emission

end BytecodeGuard
