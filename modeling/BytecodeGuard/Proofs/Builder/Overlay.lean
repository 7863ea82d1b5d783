import BytecodeGuard.Proofs.Builder.Success

/-!
# What tracking does not look at

The depth, the expectations and the faults of a builder do not depend on the code that it holds,
on how high the peak is, or on which label is next. `overlay` replaces these three.

**Theorem (`instruction_overlay`).** An instruction does the same with an overlay as without,
fault included, and is appended to the other code.
-/

namespace BytecodeGuard

namespace Builder

variable {l : Label}

/-- The builder with other code, a peak of at least the given one, and another next label. -/
def overlay (b : Builder) (code : Array Instruction) (peak next : Nat) : Builder :=
  { b with code, maxDepth := max b.maxDepth peak, nextLabel := next }

section

variable (b : Builder) (code : Array Instruction) (peak next : Nat)

theorem expected?_overlay (l : Label) :
    (b.overlay code peak next).expected? l = b.expected? l := rfl

theorem shift_overlay (pops pushes : Nat) :
    Commutes (overlay · code peak next) (shift pops pushes) := by
  intro b
  show shift pops pushes (b.overlay code peak next) = _
  by_cases h : b.depth + pushes - pops < 0 ∧ b.tracked = true
  · rw [shift_of_underflow h, shift_of_underflow (b := b.overlay code peak next) h]
    rfl
  by_cases hl : max (b.depth + pushes - pops) 0 ≤ depthLimit
  · rw [shift_of_fits h hl, shift_of_fits (b := b.overlay code peak next) h hl]
    simp only [mapState, overlay, Nat.max_right_comm]
  · rw [shift_of_overflow h hl, shift_of_overflow (b := b.overlay code peak next) h hl]
    rfl

theorem meet_overlay (extra : Nat) (l : Label) :
    Commutes (overlay · code peak next) (meet extra l) := by
  intro b
  show meet extra l (b.overlay code peak next) = _
  cases ht : b.tracked with
  | false =>
    rw [meet_of_untracked ht, meet_of_untracked (b := b.overlay code peak next) ht]
    rfl
  | true =>
    cases hl : b.expected? l with
    | none =>
      rw [meet_of_none ht hl, meet_of_none (b := b.overlay code peak next) ht hl]
      rfl
    | some d =>
      rw [meet_of_some ht hl, meet_of_some (b := b.overlay code peak next) ht hl]
      show (if b.depth + extra = d then _ else _) = _
      split <;> rfl

theorem adjust_overlay (op : Opcode) (operand : Operand) (effect : StackEffect) :
    Commutes (overlay · code peak next) (adjust op operand effect) :=
  (shift_overlay code peak next effect.pops 0).bind fun _ =>
    (Commutes.forM (meet_overlay code peak next (jumpExtra op)) operand.targets).bind fun _ =>
      shift_overlay code peak next 0 effect.pushes

/-- The result of an instruction with an overlay: the instruction is appended if it succeeds. -/
def overlayResult (i : Instruction) :
    EStateM.Result Fault Builder Unit → EStateM.Result Fault Builder Unit
  | .ok _ b => .ok () (b.overlay (code.push i) peak next)
  | .error fault b => .error fault (b.overlay code peak next)

theorem emit_overlay (op : Opcode) (operand : Operand) :
    emit op operand (b.overlay code peak next) =
      overlayResult code peak next (.exec op operand) (emit op operand b) := by
  rw [emit_eq]
  by_cases hk : operand.kind = op.operandKind
  · rw [if_pos hk]
    cases stackEffect op operand with
    | error fault => rfl
    | ok effect =>
      have h := adjust_overlay code peak next op operand effect b
      simp only [perform]
      cases ha : adjust op operand effect b with
      | ok _ b' =>
        rw [ha] at h
        rw [bind_of_ok ha, bind_of_ok h]
        rfl
      | error fault b' =>
        rw [ha] at h
        rw [bind_of_error ha, bind_of_error h]
        rfl
  · rw [if_neg hk]
    rfl

theorem label_overlay (l : Label) :
    label l (b.overlay code peak next) =
      overlayResult code peak next (.label l) (label l b) := by
  rw [label_eq, label_eq]
  by_cases hp : l ∈ b.placed
  · rw [if_pos hp, if_pos (show l ∈ (b.overlay code peak next).placed from hp)]
    rfl
  rw [if_neg hp, if_neg (show l ∉ (b.overlay code peak next).placed from hp)]
  by_cases hh : l ∈ b.handlers
  · rw [if_pos hh, if_pos (show l ∈ (b.overlay code peak next).handlers from hh)]
    simp only [overlayResult, overlay, enterAt, arrive, Nat.max_right_comm]
  rw [if_neg hh, if_neg (show l ∉ (b.overlay code peak next).handlers from hh)]
  rw [expected?_overlay]
  cases b.expected? l with
  | some d =>
    show (if b.tracked = false then _ else if b.depth = d then _ else _) = overlayResult _ _ _ _
      (if b.tracked = false then _ else if b.depth = d then _ else _)
    split_ifs <;> rfl
  | none =>
    show (if b.unreachable = true then _ else if b.depthUnknown = true then _ else _) =
      overlayResult _ _ _ _
        (if b.unreachable = true then _ else if b.depthUnknown = true then _ else _)
    split_ifs <;> rfl

/-- **Instructions do not look at an overlay.** -/
theorem instruction_overlay (i : Instruction) :
    instruction i (b.overlay code peak next) =
      overlayResult code peak next i (instruction i b) := by
  cases i with
  | exec op operand => exact emit_overlay b code peak next op operand
  | label l => exact label_overlay b code peak next l
  | line number start => rfl
  | region r => rfl

end

end Builder

end BytecodeGuard
