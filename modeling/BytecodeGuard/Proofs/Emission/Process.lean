import BytecodeGuard.Proofs.Builder.Append
import BytecodeGuard.Rule.Emission

/-!
# Emission, instruction by instruction

A marker is appended before the rules see it, an executable instruction after they have seen it.
The statements here say what `Emission.process` does with an instruction, from what the builder
does with it and from what the rules do, and what the requests of a rule come down to.
-/

namespace BytecodeGuard

namespace Emission

variable {σ α β : Type} {rules : List (EmissionRule σ)} {i : Instruction} {k : Nat}
  {e e' : Emission σ} {b b' : Builder} {fault : Fault} {s : Step}

/-- The emission with another builder. -/
def withBuilder (e : Emission σ) (b : Builder) : Emission σ := { e with builder := b }

/-! ## Steps of building -/

theorem build_of_ok (hs : s.appends? = some i)
    (h : Builder.instruction i e.builder = .ok () b) :
    build s e = .ok none (e.withBuilder b) := by
  simp only [build, Step.run_of_ok hs h]
  rfl

theorem build_of_error (hs : s.appends? = some i)
    (h : Builder.instruction i e.builder = .error fault b) :
    build s e = .error fault (e.withBuilder b) := by
  simp only [build, Step.run_of_error hs h]
  rfl

/-! ## One instruction -/

theorem discard_of_ok {m : Emit σ α} {a : α} (h : m e = .ok a e') :
    (discard m : Emit σ Unit) e = .ok () e' :=
  bind_of_ok h

theorem discard_of_error {m : Emit σ α} (h : m e = .error fault e') :
    (discard m : Emit σ Unit) e = .error fault e' :=
  bind_of_error h

/-- The builder takes a marker before the rules see it. -/
theorem process_marker (hm : i.isMarker = true)
    (h : Builder.instruction i e.builder = .ok () b)
    (hr : rules.forM (EmissionRule.emitAt k i) (e.withBuilder b) = .ok () e') :
    process rules i k e = .ok () { e' with dropped := false } := by
  simp only [process, hm, if_true]
  rw [bind_of_ok (discard_of_ok (build_of_ok rfl h)), bind_of_ok hr]
  rfl

theorem process_marker_of_error (hm : i.isMarker = true)
    (h : Builder.instruction i e.builder = .error fault b) :
    process rules i k e = .error fault (e.withBuilder b) := by
  simp only [process, hm, if_true]
  exact bind_of_error (discard_of_error (build_of_error rfl h))

theorem takeDropped_of_kept (h : e.dropped = false) : takeDropped e = .ok false e := by
  show EStateM.Result.ok e.dropped { e with dropped := false } = _
  rw [← h]

/-- The builder takes an executable instruction after the rules have seen it, if none of them
leaves it out. -/
theorem process_exec (hm : i.isMarker = false)
    (hr : rules.forM (EmissionRule.emitAt k i) e = .ok () e') (hd : e'.dropped = false)
    (h : Builder.instruction i e'.builder = .ok () b) :
    process rules i k e = .ok () (e'.withBuilder b) := by
  simp only [process, hm, Bool.false_eq_true, if_false]
  rw [bind_of_ok hr, bind_of_ok (takeDropped_of_kept hd)]
  exact discard_of_ok (build_of_ok rfl h)

theorem process_exec_of_error (hm : i.isMarker = false)
    (hr : rules.forM (EmissionRule.emitAt k i) e = .ok () e') (hd : e'.dropped = false)
    (h : Builder.instruction i e'.builder = .error fault b) :
    process rules i k e = .error fault (e'.withBuilder b) := by
  simp only [process, hm, Bool.false_eq_true, if_false]
  rw [bind_of_ok hr, bind_of_ok (takeDropped_of_kept hd)]
  exact discard_of_error (build_of_error rfl h)

/-! ## The code of a method -/

/-- Handles instructions, the first of which has the given index. -/
def processFrom (rules : List (EmissionRule σ)) (n : Nat) (code : List Instruction) :
    Emit σ Unit :=
  (code.zipIdx n).forM fun (i, index) => process rules i index

theorem processAll_eq (rules : List (EmissionRule σ)) (code : List Instruction) :
    processAll rules code =
      (processFrom rules 0 code >>= fun _ => rules.forM EmissionRule.finishAt) := rfl

/-! ## One request after the other -/

theorem act_bind (x : Action σ α) (f : α → Action σ β) :
    act (x >>= f) = (act x >>= fun a => act (f a) : Emit σ β) :=
  Script.run_andThen answer x f

theorem act_discard_of_ok {x : Action σ α} {a : α} (h : act x e = .ok a e') :
    act (discard x) e = .ok () e' := by
  show act (x >>= fun _ => pure ()) e = _
  rw [act_bind, bind_of_ok h]
  rfl

theorem act_build_of_ok (hs : s.appends? = some i)
    (h : Builder.instruction i e.builder = .ok () b) :
    act (Action.build s) e = .ok none (e.withBuilder b) := by
  have ha : s.attempt e.builder = (.ok none, b) := Step.attempt_of_ok (Step.run_of_ok hs h)
  show Script.run answer (Script.ofExcept (s.attempt e.builder).1)
    (e.withBuilder (s.attempt e.builder).2) = _
  rw [ha]
  rfl

theorem act_duplicate (h : Builder.instruction (.exec .dup .empty) e.builder = .ok () b) :
    act Action.duplicate e = .ok () (e.withBuilder b) :=
  act_discard_of_ok (act_build_of_ok rfl h)

theorem act_invokeCheck {name descriptor : String}
    (h : Builder.instruction
      (.exec .invokestatic (.method ⟨e.site.config.checkOwner, name, descriptor, false⟩))
      e.builder = .ok () b) :
    act (Action.invokeCheck name descriptor) e = .ok () (e.withBuilder b) :=
  act_discard_of_ok (act_build_of_ok rfl h)

end Emission

end BytecodeGuard
