import BytecodeGuard.Pipeline.Method
import BytecodeGuard.Proofs.Builder.Append

/-!
# The peak is a function of the code

A builder offers the same instruction under several names, and its fresh labels may start
anywhere. None of this shows afterwards. Three calls are different: they override what tracking
finds by itself (`Step.overrides`), and leave nothing in the code.

**Theorem (`calls_peak`).** A builder that was made by successful calls, none of which overrides
tracking, is the builder that takes its code one instruction after the other, except for the next
fresh label. So the peak can be read off the code, and off any code that agrees with it: constants
that are equal as numbers fill the same slots. This is why the code of a method needs no second
pass if the rules have left it as it was.

The proof compares the builder after each call with the one that has taken the code so far. Both
do the same with the next instruction, because no instruction looks at the next fresh label.
-/

namespace BytecodeGuard

/-- The call changes what tracking knows, but appends nothing. -/
def Step.overrides : Step → Bool
  | declareHandler _ | resetDepth _ | setLabelDepth .. => true
  | _ => false

/-! ## Instructions that agree -/

theorem Operand.eq_of_agrees {a b : Operand} (h : a.agrees b = true) :
    a = b ∨ ∃ x y, a = .constant x ∧ b = .constant y ∧ x.agrees y = true := by
  unfold agrees at h
  split at h
  · exact .inr ⟨_, _, rfl, rfl, h⟩
  · exact .inl (beq_iff_eq.1 h)

/-- Tracking does not tell operands apart that agree. -/
theorem stackEffect_of_agrees {op : Opcode} {a b : Operand} {effect : StackEffect}
    (h : a.agrees b = true) (he : stackEffect op a = .ok effect) :
    b.kind = a.kind ∧ b.targets = a.targets ∧ stackEffect op b = .ok effect := by
  rcases Operand.eq_of_agrees h with rfl | ⟨x, y, rfl, rfl, hxy⟩
  · exact ⟨rfl, rfl, he⟩
  · refine ⟨rfl, rfl, ?_⟩
    unfold stackEffect at he ⊢
    cases hf : op.fixedEffect? with
    | some fixed =>
      rw [hf] at he
      exact he
    | none =>
      rw [hf] at he
      simp only [← Constant.slots_eq_of_agrees hxy]
      exact he

namespace Builder

variable {b b' c : Builder} {i j : Instruction} {code code' : List Instruction} {s : Step}
  {steps steps' : List Step} {base base' peak : Nat}

/-- An instruction that agrees with an accepted one is accepted, and only the code differs. -/
theorem instruction_of_agrees (h : i.agrees j = true) (hi : instruction i b = .ok () b') :
    instruction j b = .ok () { b' with code := b.code.push j } := by
  unfold Instruction.agrees at h
  split at h
  · rename_i op x op' y
    obtain ⟨hop, hxy⟩ := Bool.and_eq_true_iff.1 h
    obtain rfl : op = op' := beq_iff_eq.1 hop
    have hi : emit op x b = .ok () b' := hi
    obtain ⟨effect, hx⟩ := executes_of_emit hi
    obtain ⟨hkind, htargets, heffect⟩ := stackEffect_of_agrees hxy hx.effect_eq
    rw [emit_eq, if_pos hx.kind, hx.effect_eq] at hi
    obtain ⟨b₁, b₂, b₃, hpop, hjump, hpush, rfl⟩ := perform_eq_ok.1 hi
    show emit op y b = _
    rw [emit_eq, if_pos (hkind.trans hx.kind), heffect]
    refine perform_eq_ok.2 ⟨b₁, b₂, b₃, hpop, htargets ▸ hjump, hpush, ?_⟩
    have hcode : b₃.code = b.code := by
      obtain ⟨-, -, rfl⟩ := shift_eq_ok.1 hpush
      rw [(meets_of_forM hjump).eq]
      obtain ⟨-, -, rfl⟩ := shift_eq_ok.1 hpop
      rfl
    rw [← hcode]
    rfl
  · obtain rfl : i = j := beq_iff_eq.1 h
    rw [← code_instruction hi]
    exact hi

/-- Code that agrees with accepted code is accepted, and only the code differs. -/
theorem replay_of_agrees (h : codeAgrees code code' = true) (hc : replay code b = .ok () c)
    (held : Array Instruction) :
    ∃ held', replay code' (b.overlay held 0 0) = .ok () (c.overlay held' 0 0) := by
  unfold codeAgrees at h
  induction code generalizing b code' held with
  | nil =>
    cases code' with
    | nil =>
      cases hc
      exact ⟨held, rfl⟩
    | cons j code' => cases h
  | cons i code ih =>
    cases code' with
    | nil => cases h
    | cons j code' =>
      rw [List.isEqv_cons_cons, Bool.and_eq_true] at h
      obtain ⟨b', hi, hc⟩ := replay_cons_eq_ok.1 hc
      obtain ⟨held', hrest⟩ := ih h.2 hc (held.push j)
      refine ⟨held', replay_cons_eq_ok.2 ⟨_, ?_, hrest⟩⟩
      rw [instruction_overlay, instruction_of_agrees h.1 hi]
      rfl

theorem peakDepth_of_agrees (h : codeAgrees code code' = true) (hp : peakDepth code = .ok peak) :
    peakDepth code' = .ok peak := by
  obtain ⟨c, hc, rfl⟩ := peakDepth_eq_ok.1 hp
  obtain ⟨held, hc'⟩ := replay_of_agrees h hc #[]
  exact peakDepth_eq_ok.2 ⟨_, hc', Nat.max_zero _⟩

/-! ## One call -/

/-- What a call does to a builder if it succeeds. -/
inductive Does : Step → Builder → Builder → Prop
  /-- It appends the instruction that it stands for. -/
  | appends {s : Step} {i : Instruction} {b b' : Builder} (hs : s.appends? = some i)
      (h : instruction i b = .ok () b') : Does s b b'
  | handsOut (b : Builder) : Does .newLabel b { b with nextLabel := b.nextLabel + 1 }
  | declares (l : Label) (b : Builder) : Does (.declareHandler l) b (b.addHandler l)
  | resets (depth : UInt16) (b : Builder) : Does (.resetDepth depth) b (b.enterAt depth.toNat)
  | expects (l : Label) (depth : UInt16) (b : Builder) :
      Does (.setLabelDepth l depth) b (b.expect l depth.toNat)

theorem does_of_run {result : Option Label} (h : s.run b = .ok result b') : Does s b b' := by
  cases ha : s.appends? with
  | some i =>
    rw [Step.run_of_appends ha] at h
    obtain ⟨_, b₁, hi, hlast⟩ := bind_eq_ok.1 h
    cases hlast
    exact .appends ha hi
  | none =>
    cases s with
    | newLabel =>
      obtain ⟨l, b₁, hl, hlast⟩ := bind_eq_ok.1 h
      cases hlast
      unfold newLabel at hl
      split_ifs at hl
      cases hl
      exact .handsOut b
    | declareHandler l =>
      cases h
      exact .declares l b
    | resetDepth depth =>
      cases h
      exact .resets depth b
    | setLabelDepth l depth =>
      cases h
      exact .expects l depth b
    | _ => cases ha

/-! ## Sequences of calls -/

/-- Performs calls in order. The first that fails ends the sequence. -/
def calls (steps : List Step) : Build Unit := steps.forM fun s => discard s.run

theorem calls_cons_eq_ok :
    calls (s :: steps) b = .ok () c ↔
      ∃ result b', s.run b = .ok result b' ∧ calls steps b' = .ok () c := by
  unfold calls
  rw [forM_cons_eq_ok]
  constructor
  · rintro ⟨b', hs, hrest⟩
    obtain ⟨result, b₁, hrun, hlast⟩ := bind_eq_ok.1 hs
    cases hlast
    exact ⟨result, b', hrun, hrest⟩
  · rintro ⟨result, b', hrun, hrest⟩
    exact ⟨b', bind_eq_ok.2 ⟨result, b', hrun, rfl⟩, hrest⟩

/-- **Invariants of calls.** -/
theorem calls_invariant {P : Builder → Prop}
    (hP : ∀ s ∈ steps, ∀ b b', Does s b b' → P b → P b') (h : calls steps b = .ok () c)
    (hb : P b) : P c := by
  induction steps generalizing b with
  | nil =>
    cases h
    exact hb
  | cons s steps ih =>
    obtain ⟨result, b', hrun, hrest⟩ := calls_cons_eq_ok.1 h
    have hb' : P b' := hP s List.mem_cons_self b b' (does_of_run hrun) hb
    exact ih (fun s' hs' => hP s' (List.mem_cons_of_mem s hs')) hrest hb'

theorem filterMap_appends?_cons (s : Step) (steps : List Step) :
    (s :: steps).filterMap Step.appends? =
      s.appends?.toList ++ steps.filterMap Step.appends? := by
  cases ha : s.appends? with
  | some i => rw [List.filterMap_cons_some ha]; rfl
  | none => rw [List.filterMap_cons_none ha]; rfl

/-- Calls append the instructions they stand for, whatever else they do. -/
theorem code_calls (h : calls steps b = .ok () c) :
    c.code.toList = b.code.toList ++ steps.filterMap Step.appends? := by
  induction steps generalizing b with
  | nil =>
    cases h
    exact (List.append_nil _).symm
  | cons s steps ih =>
    obtain ⟨result, b', hrun, hrest⟩ := calls_cons_eq_ok.1 h
    have hone := s.code_attempt b
    rw [Step.attempt_of_ok hrun] at hone
    rw [ih hrest, hone, filterMap_appends?_cons, List.append_assoc]
    rfl

/-- Calls that all stand for instructions succeed if the instructions do. -/
theorem calls_of_replay (hs : ∀ s ∈ steps, s.appends? ≠ none)
    (h : replay (steps.filterMap Step.appends?) b = .ok () c) : calls steps b = .ok () c := by
  induction steps generalizing b with
  | nil => exact h
  | cons s steps ih =>
    obtain ⟨i, hi⟩ := Option.ne_none_iff_exists'.1 (hs s List.mem_cons_self)
    rw [List.filterMap_cons_some hi] at h
    obtain ⟨b', hfirst, hrest⟩ := replay_cons_eq_ok.1 h
    have hothers := ih (fun s' hs' => hs s' (List.mem_cons_of_mem s hs')) hrest
    exact calls_cons_eq_ok.2 ⟨none, b', Step.run_of_ok hi hfirst, hothers⟩

/-- A writer that performs steps makes these calls. -/
theorem Writer.run_perform (s : Step) : (Writer.perform s).run = s.run := by
  funext b
  show (Script.ofExcept (s.attempt b).1).run answer (s.attempt b).2 = _
  unfold Step.attempt
  cases s.run b <;> rfl

theorem Writer.run_ofSteps (steps : List Step) : (Writer.ofSteps steps).run = calls steps := by
  induction steps with
  | nil => rfl
  | cons s steps ih =>
    show Script.run answer (((Writer.perform s).andThen _).andThen _) = _
    rw [Script.run_andThen, Script.run_andThen]
    show ((Writer.perform s).run >>= fun _ => pure ()) >>= (fun _ => (Writer.ofSteps steps).run) = _
    rw [Writer.run_perform, ih]
    rfl

/-- The builder as if its fresh labels started at zero. -/
def relabelled (b : Builder) : Builder := { b with nextLabel := 0 }

theorem relabelled_eq_overlay (b : Builder) : b.relabelled = b.overlay b.code 0 0 := by
  simp only [relabelled, overlay, Nat.max_zero]

/-- An instruction does not look at the next fresh label. -/
theorem instruction_relabelled (h : instruction i b = .ok () b') :
    instruction i b.relabelled = .ok () b'.relabelled := by
  rw [relabelled_eq_overlay, instruction_overlay, h, relabelled_eq_overlay, code_instruction h]
  rfl

/-- **One call.** The builder without its label counter takes the instruction that the call stands
for, if there is one. -/
theorem replay_call {result : Option Label} (hs : s.overrides = false)
    (h : s.run b = .ok result b') :
    replay s.appends?.toList b.relabelled = .ok () b'.relabelled := by
  cases does_of_run h with
  | appends ha hi =>
    rw [ha]
    exact forM_singleton_eq_ok.2 (instruction_relabelled hi)
  | handsOut => rfl
  | declares => cases hs
  | resets => cases hs
  | expects => cases hs

/-- **A sequence of calls.** -/
theorem replay_calls (hs : ∀ s ∈ steps, s.overrides = false) (h : calls steps b = .ok () b') :
    replay (steps.filterMap Step.appends?) b.relabelled = .ok () b'.relabelled := by
  induction steps generalizing b with
  | nil =>
    cases h
    rfl
  | cons s steps ih =>
    obtain ⟨result, c, hrun, hrest⟩ := calls_cons_eq_ok.1 h
    have hfirst := replay_call (hs s List.mem_cons_self) hrun
    have hothers := ih (fun s' hs' => hs s' (List.mem_cons_of_mem s hs')) hrest
    rw [filterMap_appends?_cons]
    exact replay_append_eq_ok.2 ⟨_, hfirst, hothers⟩

/-- The builder that takes the code of a sequence of calls. -/
theorem replay_code_calls (hs : ∀ s ∈ steps, s.overrides = false)
    (h : calls steps (ofLabelBase base) = .ok () b) :
    b.code.toList = steps.filterMap Step.appends? ∧
      replay b.code.toList {} = .ok () b.relabelled := by
  have hreplay : replay (steps.filterMap Step.appends?) {} = .ok () b.relabelled :=
    replay_calls hs h
  have hcode : b.relabelled.code.toList = steps.filterMap Step.appends? :=
    toList_code_replay hreplay
  exact ⟨hcode, hcode ▸ hreplay⟩

/-- **The peak is a function of the code.** Calls that do not override tracking append the
instructions they stand for. A new builder takes these instructions without a fault, and is then
the same in everything but the next fresh label. Two builders with the same code, or with code
that agrees, have the same peak, and a source that agrees with the new code has the peak of the
new code. -/
theorem calls_peak (hs : ∀ s ∈ steps, s.overrides = false)
    (h : calls steps (ofLabelBase base) = .ok () b) :
    b.code.toList = steps.filterMap Step.appends? ∧
    replay b.code.toList {} = .ok () { b with nextLabel := 0 } ∧
    (∀ base' steps' b', (∀ s ∈ steps', s.overrides = false) →
      calls steps' (ofLabelBase base') = .ok () b' →
      b.code = b'.code ∨ codeAgrees b.code.toList b'.code.toList = true →
      b.maxDepth = b'.maxDepth) ∧
    ∀ source, Pipeline.sourcePeak source b.finish = peakDepth source := by
  obtain ⟨hcode, hreplay⟩ := replay_code_calls hs h
  have hpeak : peakDepth b.code.toList = .ok b.maxDepth := peakDepth_eq_ok.2 ⟨_, hreplay, rfl⟩
  refine ⟨hcode, hreplay, fun base' steps' b' hs' h' hsame => ?_, fun source => ?_⟩
  · obtain ⟨-, hreplay'⟩ := replay_code_calls hs' h'
    have hpeak' : peakDepth b'.code.toList = .ok b'.maxDepth :=
      peakDepth_eq_ok.2 ⟨_, hreplay', rfl⟩
    rcases hsame with hsame | hsame
    · rw [hsame, hpeak'] at hpeak
      exact (Except.ok.inj hpeak).symm
    · rw [peakDepth_of_agrees hsame hpeak] at hpeak'
      exact Except.ok.inj hpeak'
  · unfold Pipeline.sourcePeak
    split
    · rename_i ha
      exact (peakDepth_of_agrees ha hpeak).symm
    · rfl

/-- A loop that loads a zero and drops it, and a handler, by the calls that are named for the
instructions. The label of the loop is fresh. -/
def zeroLoopCalls : List Step :=
  [.newLabel, .region ⟨⟨7⟩, ⟨2⟩, ⟨2⟩, none⟩, .label ⟨7⟩, .loadConstant (.double ⟨0⟩),
   .plain .pop2, .jump .goto ⟨7⟩, .label ⟨2⟩, .athrow]

/-- The code of the loop with the other zero. -/
def negativeZeroLoop : List Instruction :=
  [.region ⟨⟨7⟩, ⟨2⟩, ⟨2⟩, none⟩, .label ⟨7⟩,
   .exec .ldc (.constant (.double ⟨0x8000000000000000⟩)), .exec .pop2 .empty,
   .exec .goto (.target ⟨7⟩), .label ⟨2⟩, .exec .athrow .empty]

theorem calls_peak_zeroLoop : ∃ b b',
    (∀ s ∈ zeroLoopCalls, s.overrides = false) ∧
    calls zeroLoopCalls (ofLabelBase 7) = .ok () b ∧
    calls (negativeZeroLoop.map .instruction) (ofLabelBase 0) = .ok () b' ∧
    b.code.toList ≠ b'.code.toList ∧ codeAgrees b.code.toList b'.code.toList = true ∧
    replay b.code.toList {} = .ok () { b with nextLabel := 0 } ∧
    b.maxDepth = b'.maxDepth ∧
    Pipeline.sourcePeak negativeZeroLoop b.finish = peakDepth negativeZeroLoop := by
  have hs : ∀ s ∈ zeroLoopCalls, s.overrides = false := by decide
  have hs' : ∀ s ∈ negativeZeroLoop.map Step.instruction, s.overrides = false := by decide
  obtain ⟨b, hb⟩ := exists_of_run'_eq_some
    (show (calls zeroLoopCalls).run' (ofLabelBase 7) = some () by decide +kernel)
  obtain ⟨b', hb'⟩ := exists_of_run'_eq_some
    (show (calls (negativeZeroLoop.map .instruction)).run' (ofLabelBase 0) = some () by
      decide +kernel)
  obtain ⟨hcode, hreplay, hpeak, hsource⟩ := calls_peak hs hb
  obtain ⟨hcode', -⟩ := calls_peak hs' hb'
  have hagrees : codeAgrees b.code.toList b'.code.toList = true := by
    rw [hcode, hcode']
    decide
  have hne : b.code.toList ≠ b'.code.toList := by
    rw [hcode, hcode']
    decide
  exact ⟨b, b', hs, hb, hb', hne, hagrees, hreplay, hpeak _ _ _ hs' hb' (.inr hagrees),
    hsource negativeZeroLoop⟩

end Builder

end BytecodeGuard
