import BytecodeGuard.Builder.Step
import BytecodeGuard.Proofs.Builder.Overlay
import BytecodeGuard.Proofs.Builder.Replay

/-!
# Code is only appended to

No call of a builder takes back or changes an instruction. A call that succeeds appends the
instruction it stands for, if any (`Step.appends?`); a call that fails appends nothing, however
far it has come: see `Step.code_attempt`.

For instructions this is a consequence of their blindness to what the builder holds: with the
overlay of its own code, a builder that fails ends with that code.
-/

namespace BytecodeGuard

namespace Builder

variable {b b' : Builder} {i : Instruction} {fault : Fault}

theorem overlay_self (b : Builder) : b.overlay b.code 0 b.nextLabel = b := by
  simp [overlay]

/-- An instruction that fails leaves the code as it was. -/
theorem code_instruction_of_error (h : instruction i b = .error fault b') : b'.code = b.code := by
  have hov := instruction_overlay b b.code 0 b.nextLabel i
  rw [overlay_self, h] at hov
  have hb : b' = b'.overlay b.code 0 b.nextLabel := (EStateM.Result.error.inj hov).2
  rw [hb]
  rfl

end Builder

namespace Step

variable {b b' : Builder} {i : Instruction} {s : Step} {fault : Fault}

/-- What a call has appended, given how it went. -/
def appended (s : Step) : Except Fault (Option Label) → List Instruction
  | .ok _ => s.appends?.toList
  | .error _ => []

theorem attempt_of_ok {result : Option Label} (h : s.run b = .ok result b') :
    s.attempt b = (.ok result, b') := by
  unfold attempt
  rw [h]

theorem attempt_of_error (h : s.run b = .error fault b') : s.attempt b = (.error fault, b') := by
  unfold attempt
  rw [h]

theorem run_of_attempt {result : Option Label} (h : (s.attempt b).1 = .ok result) :
    s.run b = .ok result (s.attempt b).2 := by
  cases hrun : s.run b with
  | ok result' b' =>
    rw [attempt_of_ok hrun] at h ⊢
    cases h
    rfl
  | error fault b' =>
    rw [attempt_of_error hrun] at h
    cases h

/-- A call that stands for an instruction does what the builder does with the instruction. -/
theorem run_of_appends (hs : s.appends? = some i) :
    s.run = (Builder.instruction i >>= fun _ => pure none) := by
  cases s <;> cases hs <;> rfl

theorem run_of_ok (hs : s.appends? = some i) (h : Builder.instruction i b = .ok () b') :
    s.run b = .ok none b' := by
  rw [run_of_appends hs]
  exact bind_of_ok h

theorem run_of_error (hs : s.appends? = some i)
    (h : Builder.instruction i b = .error fault b') : s.run b = .error fault b' := by
  rw [run_of_appends hs]
  exact bind_of_error h

theorem code_attempt_of_appends (hs : s.appends? = some i) (b : Builder) :
    (s.attempt b).2.code.toList = b.code.toList ++ s.appended (s.attempt b).1 := by
  cases h : Builder.instruction i b with
  | ok _ b' =>
    rw [attempt_of_ok (run_of_ok hs h), Builder.code_instruction h, Array.toList_push]
    simp only [appended, hs, Option.toList_some]
  | error fault b' =>
    rw [attempt_of_error (run_of_error hs h), Builder.code_instruction_of_error h]
    simp only [appended, List.append_nil]

theorem attempt_newLabel_of_lt (h : b.nextLabel < UInt32.size) :
    newLabel.attempt b =
      (.ok (some ⟨.ofNat b.nextLabel⟩), { b with nextLabel := b.nextLabel + 1 }) :=
  attempt_of_ok (bind_of_ok (if_pos h))

theorem attempt_newLabel_of_le (h : UInt32.size ≤ b.nextLabel) :
    newLabel.attempt b = (.error (.labelsExhausted (b.nextLabel - 1)), b) :=
  attempt_of_error (bind_of_error (if_neg (Nat.not_lt.2 h)))

/-- A fresh label is a number only, until it is placed. -/
theorem code_attempt_newLabel (b : Builder) : (newLabel.attempt b).2.code = b.code := by
  rcases Nat.lt_or_ge b.nextLabel UInt32.size with h | h
  · rw [attempt_newLabel_of_lt h]
  · rw [attempt_newLabel_of_le h]

theorem code_attempt_of_silent (hs : s.appends? = none) (b : Builder) :
    (s.attempt b).2.code = b.code := by
  cases s with
  | newLabel => exact code_attempt_newLabel b
  | declareHandler l => rfl
  | resetDepth depth => rfl
  | setLabelDepth l depth => rfl
  | _ => cases hs

/-- **A builder only appends.** -/
theorem code_attempt (s : Step) (b : Builder) :
    (s.attempt b).2.code.toList = b.code.toList ++ s.appended (s.attempt b).1 := by
  cases hs : s.appends? with
  | some i => exact code_attempt_of_appends hs b
  | none =>
    rw [code_attempt_of_silent hs b]
    cases (s.attempt b).1 <;> simp [appended, hs]

end Step

end BytecodeGuard
