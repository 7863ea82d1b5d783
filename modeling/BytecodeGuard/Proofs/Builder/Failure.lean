import BytecodeGuard.Proofs.Builder.Append

/-!
# What a failing call leaves

A call can fail at several places, and what it has done before stays done. Slots may have been
popped, some targets of a switch may expect a depth, a label may count as placed. So the depth, the
peak, the expectations and the placed labels can change (`Spares`), and nothing else can.

**Theorem (`failing_calls_spare`).** Whatever calls are made, and whichever of them fail, the code
is what the calls that succeed stand for, and the peak never goes down. A call that fails leaves
the code, the two flags, the handlers and the next fresh label alone; if it finds the fault before
it has done anything (`Fault.early`), it leaves the whole builder alone.

All that happens between the first check of an instruction and its end is popping, jumping and
pushing, which `Adjusts` describes whether or not it succeeds.
-/

namespace BytecodeGuard

/-- A call finds the fault before it changes anything. -/
def Fault.early : Fault → Bool
  | operandMismatch .. | invalidDescriptor _ | duplicateLabel _ | labelsExhausted _ => true
  | _ => false

/-- Why the effect of an instruction cannot be found. -/
theorem stackEffect_eq_error {op : Opcode} {operand : Operand} {fault : Fault}
    (h : stackEffect op operand = .error fault) :
    fault = .operandMismatch op operand ∨ ∃ descriptor, fault = .invalidDescriptor descriptor := by
  unfold stackEffect at h
  split at h
  · cases h
  · cases h
  · cases h
  · rename_i ref _
    unfold Descriptor.fieldSlots at h
    split at h <;> cases h
    exact .inr ⟨ref.descriptor, rfl⟩
  · rename_i ref _
    unfold Descriptor.methodShape at h
    split at h <;> cases h
    exact .inr ⟨ref.descriptor, rfl⟩
  · rename_i descriptor _
    unfold Descriptor.methodShape at h
    split at h <;> cases h
    exact .inr ⟨descriptor, rfl⟩
  · cases h
    exact .inl rfl

namespace Builder

variable {b b' c : Builder} {l : Label} {stop : Option Fault} {fault : Fault} {s : Step}
  {steps later : List Step}

/-! ## Popping, jumping and pushing -/

/-- Only the depth, the peak and the expectations change, and the peak does not go down. A fault
comes too late to be an early one. -/
structure Adjusts (b : Builder) (stop : Option Fault) (b' : Builder) : Prop where
  eq : b' = { b with
    depth := b'.depth, maxDepth := b'.maxDepth, labelDepths := b'.labelDepths }
  maxDepth_le : b.maxDepth ≤ b'.maxDepth
  late : ∀ fault, stop = some fault → fault.early = false

theorem Adjusts.of_ok
    (heq : b' = { b with
      depth := b'.depth, maxDepth := b'.maxDepth, labelDepths := b'.labelDepths })
    (hmax : b.maxDepth ≤ b'.maxDepth) : Adjusts b none b' :=
  ⟨heq, hmax, fun _ h => nomatch h⟩

theorem Adjusts.of_depth {depth : Int} (hfault : fault.early = false) :
    Adjusts b (some fault) { b with depth } :=
  ⟨rfl, Nat.le_refl _, fun _ h => Option.some.inj h ▸ hfault⟩

theorem Adjusts.refl (b : Builder) : Adjusts b none b := .of_ok rfl (Nat.le_refl _)

theorem Adjusts.trans (h : Adjusts b none b') (h' : Adjusts b' stop c) : Adjusts b stop c where
  eq := by
    rw [h'.eq, h.eq]
  maxDepth_le := Nat.le_trans h.maxDepth_le h'.maxDepth_le
  late := h'.late

theorem adjusts_shift (pops pushes : Nat) : Within Adjusts (shift pops pushes) := by
  intro b
  unfold finalState fault? shift
  dsimp only
  split_ifs
  · exact .of_depth rfl
  · exact .of_ok rfl (Nat.le_max_left _ _)
  · exact .of_depth rfl

theorem adjusts_meet (extra : Nat) (l : Label) : Within Adjusts (meet extra l) := by
  intro b
  cases ht : b.tracked with
  | false =>
    have hrun : meet extra l b = .ok () b := meet_of_untracked ht
    rw [fault?_of_ok hrun, finalState_of_ok hrun]
    exact .refl b
  | true =>
    cases hl : b.expected? l with
    | none =>
      have hrun : meet extra l b = _ := meet_of_none ht hl
      rw [fault?_of_ok hrun, finalState_of_ok hrun]
      exact .of_ok rfl (Nat.le_refl _)
    | some d =>
      unfold fault? finalState
      rw [meet_of_some ht hl]
      split_ifs
      · exact .refl b
      · exact .of_depth rfl

theorem adjusts_adjust (op : Opcode) (operand : Operand) (effect : StackEffect) :
    Within Adjusts (adjust op operand effect) := by
  have htargets : Within Adjusts (operand.targets.forM (meet (jumpExtra op))) :=
    Within.forM .refl .trans (adjusts_meet (jumpExtra op)) operand.targets
  exact (adjusts_shift effect.pops 0).bind .trans fun _ =>
    htargets.bind .trans fun _ => adjusts_shift 0 effect.pushes

/-! ## Instructions -/

/-- The peak does not go down. After a fault only the depth, the peak, the expectations and the
placed labels can be different, and after an early one nothing is. -/
structure Spares (b : Builder) (stop : Option Fault) (b' : Builder) : Prop where
  maxDepth_le : b.maxDepth ≤ b'.maxDepth
  eq_of_fault : ∀ fault, stop = some fault → b' = { b with
    depth := b'.depth, maxDepth := b'.maxDepth, labelDepths := b'.labelDepths,
    placed := b'.placed }
  eq_of_early : ∀ fault, stop = some fault → fault.early = true → b' = b

theorem Spares.of_ok (hmax : b.maxDepth ≤ b'.maxDepth) : Spares b none b' :=
  ⟨hmax, (fun _ h => by cases h), (fun _ h => by cases h)⟩

/-- A fault that leaves everything alone. -/
theorem Spares.of_same (b : Builder) (fault : Fault) : Spares b (some fault) b :=
  ⟨Nat.le_refl _, fun _ _ => rfl, fun _ _ _ => rfl⟩

theorem Adjusts.spares (h : Adjusts b (some fault) b') : Spares b (some fault) b' where
  maxDepth_le := h.maxDepth_le
  eq_of_fault _ _ := by
    rw [h.eq]
  eq_of_early fault' hfault hearly := by
    rw [h.late fault' hfault] at hearly
    cases hearly

theorem spares_emit (op : Opcode) (operand : Operand) : Within Spares (emit op operand) := by
  intro b
  rw [emit_eq]
  split_ifs with hk
  · cases he : stackEffect op operand with
    | error fault => exact .of_same b fault
    | ok effect =>
      have hadjust := adjusts_adjust op operand effect b
      cases h : adjust op operand effect b with
      | ok _ b' =>
        rw [fault?_of_ok h, finalState_of_ok h] at hadjust
        have hrun : perform op operand effect b = .ok () _ := bind_of_ok h
        rw [fault?_of_ok hrun, finalState_of_ok hrun]
        exact .of_ok hadjust.maxDepth_le
      | error fault b' =>
        rw [fault?_of_error h, finalState_of_error h] at hadjust
        have hrun : perform op operand effect b = .error fault b' := bind_of_error h
        rw [fault?_of_error hrun, finalState_of_error hrun]
        exact hadjust.spares
  · exact .of_same b _

/-- Why a label cannot be placed. -/
theorem label_eq_error (h : label l b = .error fault b') :
    (l ∈ b.placed ∧ fault = .duplicateLabel l ∧ b' = b) ∨
      ∃ d, fault = .labelDepth l d b.depth ∧ b' = { b with placed := l :: b.placed } := by
  rw [label_eq] at h
  by_cases hp : l ∈ b.placed
  · rw [if_pos hp] at h
    cases h
    exact .inl ⟨hp, rfl, rfl⟩
  · rw [if_neg hp] at h
    cases hd : b.expected? l with
    | none =>
      rw [hd] at h
      dsimp only at h
      split_ifs at h
    | some d =>
      rw [hd] at h
      dsimp only at h
      split_ifs at h
      cases h
      exact .inr ⟨d, rfl, rfl⟩

theorem spares_label (l : Label) : Within Spares (label l) := by
  intro b
  cases h : label l b with
  | ok _ b' =>
    rw [fault?_of_ok h, finalState_of_ok h]
    have hrun : instruction (.label l) b = .ok () b' := h
    exact .of_ok (maxDepth_instruction hrun)
  | error fault b' =>
    rw [fault?_of_error h, finalState_of_error h]
    rcases label_eq_error h with ⟨-, -, rfl⟩ | ⟨d, rfl, rfl⟩
    · exact .of_same _ fault
    · exact ⟨Nat.le_refl _, fun _ _ => rfl, fun _ hfault hearly => by
        cases hfault
        cases hearly⟩

theorem spares_instruction (i : Instruction) : Within Spares (instruction i) := by
  cases i with
  | exec op operand => exact spares_emit op operand
  | label l => exact spares_label l
  | line number start => exact fun b => .of_ok (Nat.le_refl _)
  | region r => exact fun b => .of_ok (Nat.le_refl _)

end Builder

/-! ## Calls -/

namespace Step

variable {b : Builder} {s : Step} {i : Instruction} {fault : Fault}

theorem attempt_snd (s : Step) (b : Builder) : (s.attempt b).2 = finalState s.run b := by
  cases h : s.run b with
  | ok result b' => rw [attempt_of_ok h, finalState_of_ok h]
  | error fault b' => rw [attempt_of_error h, finalState_of_error h]

theorem fault?_of_attempt (h : (s.attempt b).1 = .error fault) : fault? s.run b = some fault := by
  cases hrun : s.run b with
  | ok result b' =>
    rw [attempt_of_ok hrun] at h
    cases h
  | error fault b' =>
    rw [attempt_of_error hrun] at h
    cases h
    exact fault?_of_error hrun

/-- What holds of every run of an instruction holds of the calls that stand for it. -/
theorem within_run {R : Builder → Option Fault → Builder → Prop} (hs : s.appends? = some i)
    (h : Within R (Builder.instruction i)) : Within R s.run := by
  intro b
  have hi := h b
  cases hrun : Builder.instruction i b with
  | ok _ b' =>
    rw [fault?_of_ok hrun, finalState_of_ok hrun] at hi
    rwa [fault?_of_ok (run_of_ok hs hrun), finalState_of_ok (run_of_ok hs hrun)]
  | error fault b' =>
    rw [fault?_of_error hrun, finalState_of_error hrun] at hi
    rwa [fault?_of_error (run_of_error hs hrun), finalState_of_error (run_of_error hs hrun)]

theorem spares_newLabel : Within Builder.Spares newLabel.run := by
  intro b
  rcases Nat.lt_or_ge b.nextLabel UInt32.size with h | h
  · have hrun : newLabel.run b = .ok _ _ := bind_of_ok (if_pos h)
    rw [fault?_of_ok hrun, finalState_of_ok hrun]
    exact .of_ok (Nat.le_refl _)
  · have hrun : newLabel.run b = .error _ _ := bind_of_error (if_neg (Nat.not_lt.2 h))
    rw [fault?_of_error hrun, finalState_of_error hrun]
    exact .of_same b _

/-- **One call.** -/
theorem spares_run (s : Step) : Within Builder.Spares s.run := by
  cases hs : s.appends? with
  | some i => exact within_run hs (Builder.spares_instruction i)
  | none =>
    cases s with
    | newLabel => exact spares_newLabel
    | declareHandler l => exact fun b => .of_ok (Nat.le_refl _)
    | resetDepth depth => exact fun b => .of_ok (Nat.le_max_left _ _)
    | setLabelDepth l depth => exact fun b => .of_ok (Nat.le_refl _)
    | _ => cases hs

theorem maxDepth_attempt (s : Step) (b : Builder) : b.maxDepth ≤ (s.attempt b).2.maxDepth := by
  rw [attempt_snd]
  exact (spares_run s b).maxDepth_le

/-- The calls that succeed if all are made in order. -/
def succeeding : List Step → Builder → List Step
  | [], _ => []
  | s :: steps, b =>
    if (s.attempt b).1.isOk then s :: succeeding steps (s.attempt b).2
    else succeeding steps (s.attempt b).2

/-- Makes the calls in order, whether or not they fail. -/
def attemptAll (steps : List Step) (b : Builder) : Builder :=
  steps.foldl (fun b s => (s.attempt b).2) b

variable {steps : List Step}

theorem filterMap_succeeding_cons (s : Step) (steps : List Step) (b : Builder) :
    (succeeding (s :: steps) b).filterMap appends? =
      s.appended (s.attempt b).1 ++ (succeeding steps (s.attempt b).2).filterMap appends? := by
  rw [succeeding]
  cases (s.attempt b).1 with
  | error fault => rfl
  | ok result =>
    cases hs : s.appends? with
    | none => simp [appended, hs, Except.isOk, Except.toBool]
    | some i => simp [appended, hs, Except.isOk, Except.toBool]

/-- The code is what the successful calls stand for. -/
theorem code_attemptAll (steps : List Step) (b : Builder) :
    (attemptAll steps b).code.toList =
      b.code.toList ++ (succeeding steps b).filterMap appends? := by
  induction steps generalizing b with
  | nil => exact (List.append_nil _).symm
  | cons s steps ih =>
    rw [filterMap_succeeding_cons, ← List.append_assoc, ← code_attempt]
    exact ih (s.attempt b).2

theorem maxDepth_attemptAll (steps : List Step) (b : Builder) :
    b.maxDepth ≤ (attemptAll steps b).maxDepth := by
  induction steps generalizing b with
  | nil => exact Nat.le_refl _
  | cons s steps ih => exact Nat.le_trans (maxDepth_attempt s b) (ih (s.attempt b).2)

/-- **Failing calls never corrupt the code.** Calls are made to a new builder, and those that fail
are ignored. At any time the code is what the successful calls stand for, and whatever is called
later, the peak is not lower. The next call, if it fails, leaves the code, the flags, the handlers
and the next fresh label as they were, and the whole builder if the fault is an early one. -/
theorem failing_calls_spare (base : Nat) (steps : List Step) :
    let b := attemptAll steps (.ofLabelBase base)
    b.code.toList = (succeeding steps (.ofLabelBase base)).filterMap appends? ∧
    (∀ later, b.maxDepth ≤ (attemptAll later b).maxDepth) ∧
    ∀ (s : Step) (fault : Fault), (s.attempt b).1 = .error fault →
      let b' := (s.attempt b).2
      b'.code = b.code ∧ b'.unreachable = b.unreachable ∧ b'.depthUnknown = b.depthUnknown ∧
      b'.handlers = b.handlers ∧ b'.nextLabel = b.nextLabel ∧
      (fault.early = true → b' = b) := by
  intro b
  refine ⟨code_attemptAll steps (.ofLabelBase base), fun later => maxDepth_attemptAll later b, ?_⟩
  intro s fault hfault b'
  have hspares : Builder.Spares b (some fault) b' := by
    have hrun := spares_run s b
    rwa [fault?_of_attempt hfault, ← attempt_snd] at hrun
  have heq := hspares.eq_of_fault fault rfl
  refine ⟨?_, ?_, ?_, ?_, ?_, hspares.eq_of_early fault rfl⟩ <;> rw [heq]

/-- The first target of the switch is fine and the second is not; the slot of the return address
stays on the stack; there is nothing left for the second `pop`; and the label is placed where
another depth is expected. Only the first instruction and one `pop` succeed. -/
def stumblingCalls : List Step :=
  [.setLabelDepth ⟨2⟩ 3, .plain .iconst0, .emit .tableswitch (.switch ⟨1⟩ [0] [⟨2⟩]),
   .jump .jsr ⟨2⟩, .plain .pop, .plain .pop, .resetDepth 1, .label ⟨2⟩]

theorem failing_calls_spare_stumbling :
    let b := attemptAll stumblingCalls (.ofLabelBase 0)
    b.code.toList = [.exec .iconst0 .empty, .exec .pop .empty] ∧ b.maxDepth = 1 ∧
    ((label ⟨2⟩).attempt b).1 = .error (.duplicateLabel ⟨2⟩) ∧ ((label ⟨2⟩).attempt b).2 = b ∧
    ((plain .pop2).attempt b).1 = .error (.stackUnderflow (-1) 2 0) ∧
    ((plain .pop2).attempt b).2.depth = -1 ∧ ((plain .pop2).attempt b).2.code = b.code := by
  intro b
  obtain ⟨hcode, -, hfails⟩ := failing_calls_spare 0 stumblingCalls
  have hlabel : ((label ⟨2⟩).attempt b).1 = .error (.duplicateLabel ⟨2⟩) := by decide +kernel
  have hpop : ((plain .pop2).attempt b).1 = .error (.stackUnderflow (-1) 2 0) := by
    decide +kernel
  obtain ⟨-, -, -, -, -, hsame⟩ := hfails (label ⟨2⟩) _ hlabel
  obtain ⟨hkept, -⟩ := hfails (plain .pop2) _ hpop
  refine ⟨hcode.trans ?_, ?_, hlabel, hsame rfl, hpop, ?_, hkept⟩ <;> decide +kernel

end Step

end BytecodeGuard
