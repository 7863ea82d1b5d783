import BytecodeGuard.Proofs.Builder.Overlay
import BytecodeGuard.Proofs.Emission.Process
import BytecodeGuard.Proofs.Guard.Checks

/-!
# The guard at one instruction

The guard does one of four things: it registers a handler that is declared, it enters a handler
that is pending, it passes any other label, and it is idle at everything else. Only the second
builds code. `instruction_check` is why this never fails: a handler begins with exactly the
exception on the stack, and the check takes it off and leaves it there again.
-/

namespace BytecodeGuard

namespace CatchGuard

open Emission

variable {σ : Type} {i : Instruction} {k : Nat} {e : Emission σ} {b b' : Builder}
  {l : Label} {caught : String} {message : Message}

theorem declares_iff : Declares l i ↔ ∃ caught, guardedHandler? i = some (caught, l) := by
  cases i with
  | region r =>
    obtain ⟨start, stop, handler, _ | caught⟩ := r
    · simp [Declares, guardedHandler?]
    · simp [Declares, guardedHandler?, isGuardedType, and_comm]
  | _ => simp [Declares, guardedHandler?]

/-! ## The check -/

/-- The check takes the object that was caught. -/
theorem stackEffect_checkCall (config : Config) : stackEffect .invokestatic
    (.method ⟨config.checkOwner, checkName, checkDescriptor, false⟩) = .ok ⟨1, 0⟩ := by
  have h : Descriptor.methodShape checkDescriptor = .ok ⟨1, 1, 0⟩ := by cbv
  simp only [stackEffect, Opcode.fixedEffect?, h]
  rfl

/-- **A check is neutral.** Where there is one slot, it goes up to two and comes back. -/
theorem instruction_check (code : Array Instruction) (peak base : Nat) (config : Config)
    (hd : b.depth = 1) :
    ∃ b', Builder.instruction (.exec .dup .empty) (b.overlay code peak base) = .ok () b' ∧
      Builder.instruction (checkCall config) b' = .ok ()
        (b.overlay ((code.push (.exec .dup .empty)).push (checkCall config)) (max peak 2)
          base) := by
  let entry := b.overlay code peak base
  let doubled : Builder := { entry with
    code := code.push (.exec .dup .empty), depth := 2, maxDepth := max entry.maxDepth 2 }
  have hd : entry.depth = 1 := hd
  refine ⟨doubled, ?_, ?_⟩
  · have heffect : stackEffect .dup .empty = .ok ⟨1, 2⟩ := rfl
    have h := Builder.emit_of_fits (b := entry) (by rfl) heffect rfl (by simp [hd])
      (by simp [hd, Builder.depthLimit])
    refine h.trans ?_
    simp only [hd, doubled, EStateM.Result.ok.injEq, Builder.mk.injEq, true_and]
    exact ⟨rfl, rfl, rfl, Bool.or_false _, trivial⟩
  · have h := Builder.emit_of_fits (b := doubled) (by rfl) (stackEffect_checkCall config) rfl
      (by simp [doubled]) (by simp [doubled, Builder.depthLimit])
    refine h.trans ?_
    simp only [doubled, entry, Builder.overlay, EStateM.Result.ok.injEq, Builder.mk.injEq,
      true_and]
    exact ⟨rfl, hd.symm, by omega, Bool.or_false _, trivial⟩

/-! ## Four visits -/

/-- The emission as the guard finds it. -/
def visit (k : Nat) (e : Emission σ) : Emission σ :=
  { e with site := { e.site with index := some k, rule := name } }

theorem emitAt_idle (hg : guardedHandler? i = none) (hl : i.label? = none) :
    EmissionRule.emitAt k i emission e = .ok () (visit k e) := by
  show act (emission.emit i) (visit k e) = _
  simp only [emission, hg, hl]
  rfl

theorem emitAt_declared (hg : guardedHandler? i = some (caught, l)) :
    EmissionRule.emitAt k i emission e =
      .ok () { visit k e with registry := (e.registry.register l).2 } := by
  show act (emission.emit i) (visit k e) = _
  simp only [emission, hg]
  rfl

theorem emitAt_passed (hl : l ∉ e.registry.pending) :
    EmissionRule.emitAt k (.label l) emission e = .ok () (visit k e) := by
  have hr : e.registry.resolve l = (false, e.registry) := if_neg hl
  show Script.run answer (if (e.registry.resolve l).1 = true then insertCheck l else pure ())
    { visit k e with registry := (e.registry.resolve l).2 } = _
  rw [hr]
  rfl

theorem report_eq {f : Finding} {message : Message} (h : e.site.message? f = some message) :
    e.report f = e.note (.message message) := by
  unfold report
  rw [h]

theorem act_insertCheck
    (hsite : e.site.message? ⟨.trace, some ("Inserted catch check at " ++ l.text), []⟩ =
      some message)
    (hdup : Builder.instruction (.exec .dup .empty) e.builder = .ok () b)
    (hcall : Builder.instruction (checkCall e.site.config) b = .ok () b') :
    ∃ notes, act (insertCheck l) e = .ok () { e with builder := b', notes } ∧
      notes.messages = e.notes.messages ++ [message] := by
  let text := e.site.member.qualifiedName ++ ": runtime catch check at handler " ++ l.text
  let noted : Emission σ := e.note { diagnostics := [⟨.trace, text⟩] }
  have hdup : act Action.duplicate noted = .ok () (noted.withBuilder b) := act_duplicate hdup
  have hcall : act (Action.invokeCheck checkName checkDescriptor) (noted.withBuilder b) =
      .ok () (noted.withBuilder b') := act_invokeCheck hcall
  have htrace := report_eq (e := noted.withBuilder b') hsite
  refine ⟨((noted.withBuilder b').note (.message message)).notes, ?_, ?_⟩
  · show act (Action.duplicate >>= fun _ =>
      Action.invokeCheck checkName checkDescriptor >>= fun _ =>
        Action.trace ("Inserted catch check at " ++ l.text)) noted = _
    rw [act_bind, bind_of_ok hdup, act_bind, bind_of_ok hcall]
    exact congrArg (EStateM.Result.ok ()) htrace
  · show (e.notes.messages ++ []) ++ [message] = _
    rw [List.append_nil]

theorem emitAt_entered (hl : l ∈ e.registry.pending)
    (hdup : Builder.instruction (.exec .dup .empty) e.builder = .ok () b)
    (hcall : Builder.instruction (checkCall e.site.config) b = .ok () b') :
    ∃ notes, EmissionRule.emitAt k (.label l) emission e = .ok ()
        { visit k e with registry := (e.registry.resolve l).2, builder := b', notes } ∧
      notes.messages = e.notes.messages ++ [checkMessage e.site.member (l, k)] := by
  have hr : (e.registry.resolve l).1 = true := by
    unfold HandlerRegistry.resolve
    rw [if_pos hl]
  have hsite : (visit k e).site.message?
      ⟨.trace, some ("Inserted catch check at " ++ l.text), []⟩ =
        some (checkMessage e.site.member (l, k)) := rfl
  obtain ⟨notes, h, hmessages⟩ := act_insertCheck (l := l)
    (e := { visit k e with registry := (e.registry.resolve l).2 }) hsite hdup hcall
  refine ⟨notes, ?_, hmessages⟩
  show Script.run answer (if (e.registry.resolve l).1 = true then insertCheck l else pure ())
    { visit k e with registry := (e.registry.resolve l).2 } = _
  rw [if_pos hr]
  exact h

/-! ## The last visit -/

theorem act_finish_of_none (h : e.registry.firstPending? = none) :
    act (emission : EmissionRule σ).finish e = .ok () e := by
  have hp : act Action.firstPendingHandler e = .ok none e := by
    rw [← h]
    rfl
  show act (Action.firstPendingHandler >>= _) e = _
  rw [act_bind, bind_of_ok hp]
  rfl

theorem act_finish_of_some (h : e.registry.firstPending? = some l) :
    act (emission : EmissionRule σ).finish e =
      .error (.unresolvedHandler e.site.member.qualifiedName l) e := by
  have hp : act Action.firstPendingHandler e = .ok (some l) e := by
    rw [← h]
    rfl
  show act (Action.firstPendingHandler >>= _) e = _
  rw [act_bind, bind_of_ok hp]
  rfl

end CatchGuard

end BytecodeGuard
