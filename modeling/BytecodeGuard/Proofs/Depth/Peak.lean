import BytecodeGuard.Proofs.Builder.Replay

/-!
# When the peak covers every depth

Every instruction that changes the depth raises the peak, and so does the beginning of a handler.
A label that takes its depth from earlier jumps does not. For most jumps this makes no
difference, because the code before the jump had that depth. The jump to a subroutine is
different: its target begins with the return address on the stack, one slot above the depth of
the code before the jump.

**Theorem (`peak_covers_iff`).** In accepted code the depth is never negative. It stays within
the peak if and only if each subroutine that takes its depth from the jump is placed after the
peak has risen above the depth at that jump (`SubroutineEntry`). The final peak covers the depth
after each label if and only if it is above the depths at all those jumps.

The proof follows the depth through the code. `Sourced` says where the depths that are expected of
labels not placed so far come from: they are within the peak, or belong to a handler, or come
from a jump to a subroutine. So a label that takes over a depth above the peak is the entry of a
subroutine, and the depth stays one above the peak until an instruction raises it.
-/

namespace BytecodeGuard

namespace Builder

variable {b b' c jump entry : Builder} {i : Instruction} {code pre post : List Instruction}
  {l : Label} {d : Int}

/-! ## The depth is not negative -/

theorem effect_jsr {operand : Operand} {effect : StackEffect}
    (h : stackEffect .jsr operand = .ok effect) : effect = ⟨0, 0⟩ := by
  cases h
  rfl

/-- Neither the depth nor any expected depth is negative. -/
def Nonneg (b : Builder) : Prop := 0 ≤ b.depth ∧ ∀ l d, b.expected? l = some d → 0 ≤ d

theorem nonneg_instruction (h : instruction i b = .ok () b') (hb : b.Nonneg) : b'.Nonneg := by
  obtain ⟨hdepth, hexp⟩ := hb
  constructor
  · cases i with
    | exec op operand =>
      obtain ⟨effect, he⟩ := executes_of_emit h
      rw [he.eq]
      show 0 ≤ max (b.depth - effect.pops) 0 + (effect.pushes : Int)
      omega
    | label l =>
      obtain ⟨-, hp⟩ := label_eq_ok.1 h
      cases hp with
      | handler => exact Int.one_nonneg
      | adopts _ _ he => exact hexp l _ he
      | guesses => exact Int.le_refl 0
      | _ => exact hdepth
    | line number start => cases h; exact hdepth
    | region r => cases h; exact hdepth
  · intro l d hd
    cases reason_of_instruction h hd with
    | earlier hd => exact hexp l d hd
    | declared _ hd => omega
    | placed _ _ hd => omega
    | jump _ _ _ _ hp hd => omega

theorem nonneg_replay (h : replay code {} = .ok () b) : b.Nonneg := by
  induction h using replay_induction with
  | nil => exact ⟨Int.le_refl 0, fun l d hd => by cases hd⟩
  | snoc code i b b' _ hi ih => exact nonneg_instruction hi ih

/-! ## Entries of subroutines -/

/-- The label is the target of a jump to a subroutine and is placed where it takes its depth from
that jump: the code before it is not tracked, and it is not a handler. `jump` and `entry` are the
builders before the jump and before the label. -/
def SubroutineEntry (code : List Instruction) (l : Label) (jump entry : Builder) : Prop :=
  ∃ before between,
    before ++ .exec .jsr (.target l) :: between ++ [.label l] <+: code ∧
    replay before {} = .ok () jump ∧ jump.tracked = true ∧
    replay (before ++ .exec .jsr (.target l) :: between) {} = .ok () entry ∧
    entry.tracked = false ∧ l ∉ entry.handlers

theorem SubroutineEntry.mono (h : SubroutineEntry pre l jump entry) (hp : pre <+: code) :
    SubroutineEntry code l jump entry := by
  obtain ⟨before, between, hpre, hrest⟩ := h
  exact ⟨before, between, hpre.trans hp, hrest⟩

/-- A subroutine begins one slot above the depth at the jump, and the peak stays. -/
theorem SubroutineEntry.depth (h : SubroutineEntry code l jump entry)
    (hc : replay code {} = .ok () c) :
    ∃ pre b, pre ++ [.label l] <+: code ∧ replay (pre ++ [.label l]) {} = .ok () b ∧
      b.depth = jump.depth + 1 ∧ b.maxDepth = entry.maxDepth := by
  obtain ⟨before, between, hpre, hj, ht, he, hu, hh⟩ := h
  obtain ⟨b, post, -, hb, hpost⟩ := replay_of_prefix hc hpre
  obtain ⟨j, hj', hjsr⟩ := replay_append_eq_ok.1 he
  obtain rfl := replay_unique hj hj'
  obtain ⟨k, hk, hbetween⟩ := replay_cons_eq_ok.1 hjsr
  -- The jump leaves its depth at the label, and nothing on the way changes it.
  have hexp : k.expected? l = some (jump.depth + 1) := by
    have hk : emit .jsr (.target l) jump = .ok () k := hk
    obtain ⟨effect, hx⟩ := executes_of_emit hk
    rw [hx.target ht l (List.mem_singleton_self l), effect_jsr hx.effect_eq]
    simp [jumpExtra, Opcode.flow]
  have hkeep : ∀ i ∈ between, i.handler? ≠ some l := fun i hi hl =>
    hh ((mem_handlers_replay he).2 ⟨i, by simp [hi], hl⟩)
  have hexp := expected?_replay hbetween hkeep hexp
  obtain ⟨e, he', hl⟩ := replay_append_eq_ok.1 hb
  obtain rfl := replay_unique he he'
  obtain ⟨-, hp⟩ := label_eq_ok.1 (forM_singleton_eq_ok.1 hl)
  refine ⟨_, b, hpre, hb, ?_⟩
  cases hp with
  | handler h => exact absurd h hh
  | adopts _ _ h =>
    rw [hexp] at h
    cases h
    exact ⟨rfl, rfl⟩
  | agrees _ h => rw [hu] at h; cases h
  | guesses _ _ h => rw [hexp] at h; cases h
  | guessed _ _ _ h => rw [hexp] at h; cases h
  | expects _ h => rw [hu] at h; cases h

/-! ## Where a depth above the peak comes from -/

theorem eq_jsr_of_jumpExtra {op : Opcode} (h : jumpExtra op ≠ 0) : op = .jsr := by
  cases op <;> first | rfl | exact absurd rfl h

theorem eq_target_of_kind {operand : Operand} (h : operand.kind = .target) :
    ∃ l, operand = .target l := by
  cases operand with
  | target l => exact ⟨l, rfl⟩
  | _ => cases h

/-- The label is the target of a jump to a subroutine one slot below the given depth. -/
def SubroutineAt (code : List Instruction) (l : Label) (d : Int) : Prop :=
  ∃ before between jump, code = before ++ .exec .jsr (.target l) :: between ∧
    replay before {} = .ok () jump ∧ jump.tracked = true ∧ d = jump.depth + 1

/-- Where the depths come from that labels not placed so far are expected to have. -/
def Sourced (code : List Instruction) (b : Builder) : Prop :=
  ∀ l d, .label l ∉ code → b.expected? l = some d →
    d ≤ b.maxDepth ∨ l ∈ b.handlers ∨ SubroutineAt code l d

theorem sourced_instruction (hc : replay code {} = .ok () b) (h : instruction i b = .ok () b')
    (hb : Sourced code b) : Sourced (code ++ [i]) b' := by
  intro l d hl hd
  have hl' : .label l ∉ code := fun hm => hl (List.mem_append_left _ hm)
  cases reason_of_instruction h hd with
  | earlier hd =>
    rcases hb l d hl' hd with hd | hh | ⟨before, between, jump, rfl, hj⟩
    · have hm := maxDepth_instruction h
      exact .inl (by omega)
    · exact .inr (.inl ((mem_handlers_instruction h).2 (.inl hh)))
    · exact .inr (.inr ⟨before, between ++ [i], jump, by simp, hj⟩)
  | declared hi => exact .inr (.inl ((mem_handlers_instruction h).2 (.inr hi)))
  | placed hi => exact absurd (by simp [hi]) hl
  | @jump op operand effect hi he ht ho hp hd =>
    subst hi
    obtain ⟨effect', hx⟩ := executes_of_emit h
    obtain rfl : effect = effect' := Except.ok.inj (he.symm.trans hx.effect_eq)
    by_cases hj : jumpExtra op = 0
    · -- The depth at the jump is one that the instruction itself leaves behind.
      have hm : b'.maxDepth =
          max b.maxDepth (max (b.depth - effect.pops) 0 + effect.pushes).toNat := by
        rw [hx.eq]
      exact .inl (by omega)
    · obtain rfl := eq_jsr_of_jumpExtra hj
      obtain ⟨l', rfl⟩ := eq_target_of_kind hx.kind
      obtain rfl := List.mem_singleton.1 ho
      rw [effect_jsr he] at hd
      exact .inr (.inr ⟨code, [], b, rfl, hc, ht, by simpa [jumpExtra, Opcode.flow] using hd⟩)

theorem sourced_replay (h : replay code {} = .ok () b) : Sourced code b := by
  induction h using replay_induction with
  | nil => exact fun l d _ hd => by cases hd
  | snoc code i b b' hc hi ih => exact sourced_instruction hc hi ih

/-- The depth is within the peak, or a subroutine has just begun one slot above it. -/
def Covered (code : List Instruction) (b : Builder) : Prop :=
  b.depth ≤ b.maxDepth ∨ ∃ l jump entry, SubroutineEntry code l jump entry ∧
    b.depth = jump.depth + 1 ∧ b.maxDepth = entry.maxDepth

theorem covered_instruction (hc : replay code {} = .ok () b) (h : instruction i b = .ok () b')
    (hb : Covered code b) : Covered (code ++ [i]) b' := by
  -- What keeps both the depth and the peak keeps the reason why the depth is covered.
  have hkeep : b'.depth = b.depth → b'.maxDepth = b.maxDepth → Covered (code ++ [i]) b' := by
    intro hd hm
    unfold Covered
    rw [hd, hm]
    rcases hb with hb | ⟨l, jump, entry, he, hrest⟩
    · exact .inl hb
    · exact .inr ⟨l, jump, entry, he.mono (List.prefix_append code [i]), hrest⟩
  cases i with
  | exec op operand =>
    obtain ⟨effect, he⟩ := executes_of_emit h
    left
    rw [he.eq]
    show max (b.depth - effect.pops) 0 + (effect.pushes : Int) ≤
      (max b.maxDepth (max (b.depth - effect.pops) 0 + effect.pushes).toNat : Nat)
    omega
  | label l =>
    obtain ⟨hpl, hp⟩ := label_eq_ok.1 h
    have hl : .label l ∉ code := fun hm => hpl ((mem_placed_replay hc).2 hm)
    cases hp with
    | handler =>
      left
      show (1 : Int) ≤ (max b.maxDepth 1 : Nat)
      omega
    | @adopts d hh ht he =>
      rcases sourced_replay hc l d hl he with hd | hh' | ⟨before, between, jump, rfl, hj, htj, hd⟩
      · exact .inl hd
      · exact absurd hh' hh
      · exact .inr ⟨l, jump, b, ⟨before, between, List.prefix_rfl, hj, htj, hc, ht, hh⟩, hd, rfl⟩
    | guesses =>
      left
      show (0 : Int) ≤ (b.maxDepth : Nat)
      omega
    | _ => exact hkeep rfl rfl
  | line number start => cases h; exact hkeep rfl rfl
  | region r => cases h; exact hkeep rfl rfl

theorem covered_replay (h : replay code {} = .ok () b) : Covered code b := by
  induction h using replay_induction with
  | nil => exact .inl (Int.le_refl 0)
  | snoc code i b b' hc hi ih => exact covered_instruction hc hi ih

/-- Without subroutines the depth stays within the peak. -/
theorem depth_le_maxDepth (h : replay code {} = .ok () b)
    (hjsr : ∀ operand, .exec .jsr operand ∉ code) : b.depth ≤ b.maxDepth := by
  rcases covered_replay h with hd | ⟨l, jump, entry, ⟨before, between, hpre, -⟩, -⟩
  · exact hd
  · exact absurd (hpre.subset (by simp)) (hjsr (.target l))

/-! ## The exact condition -/

/-- After every instruction of the code, the depth is within the peak reached so far. -/
def PeakCovers (code : List Instruction) : Prop :=
  ∀ pre b, pre <+: code → replay pre {} = .ok () b → 0 ≤ b.depth ∧ b.depth ≤ b.maxDepth

/-- The depth after every label of the code is at most the given one. -/
def EntriesWithin (code : List Instruction) (peak : Nat) : Prop :=
  ∀ pre l b, pre ++ [.label l] <+: code → replay (pre ++ [.label l]) {} = .ok () b →
    b.depth ≤ peak

/-- **The peak covers every depth unless the return address of a subroutine rises above it.**
For accepted code, the depth stays between zero and the peak exactly if the peak is above the
depth at each jump to a subroutine when the subroutine is placed. The final peak covers the depth
after every label exactly if it is above the depth at all these jumps. -/
theorem peak_covers_iff (h : replay code {} = .ok () c) :
    (∀ pre b, pre <+: code → replay pre {} = .ok () b → 0 ≤ b.depth) ∧
    (PeakCovers code ↔
      ∀ l jump entry, SubroutineEntry code l jump entry → jump.depth < entry.maxDepth) ∧
    (EntriesWithin code c.maxDepth ↔
      ∀ l jump entry, SubroutineEntry code l jump entry → jump.depth < c.maxDepth) := by
  refine ⟨fun pre b _ hb => (nonneg_replay hb).1, ⟨?_, ?_⟩, ?_, ?_⟩
  · intro hcov l jump entry he
    obtain ⟨pre, b, hpre, hb, hd, hm⟩ := he.depth h
    have := (hcov _ b hpre hb).2
    omega
  · intro hent pre b hpre hb
    refine ⟨(nonneg_replay hb).1, ?_⟩
    rcases covered_replay hb with hd | ⟨l, jump, entry, he, hd, hm⟩
    · exact hd
    · have := hent l jump entry (he.mono hpre)
      omega
  · intro hcov l jump entry he
    obtain ⟨pre, b, hpre, hb, hd, -⟩ := he.depth h
    have := hcov pre l b hpre hb
    omega
  · intro hent pre l b hpre hb
    obtain ⟨b', post, -, hb', hpost⟩ := replay_of_prefix h hpre
    obtain rfl := replay_unique hb hb'
    have hm := maxDepth_replay hpost
    rcases covered_replay hb with hd | ⟨l, jump, entry, he, hd, -⟩
    · omega
    · have := hent l jump entry (he.mono hpre)
      omega

/-- A call of a subroutine that keeps its return address in a variable. Nothing else is ever on
the stack. -/
def bareSubroutine : List Instruction :=
  [.exec .jsr (.target ⟨0⟩), .exec .vreturn .empty, .label ⟨0⟩, .exec .astore (.slot 1),
   .exec .ret (.slot 1)]

theorem peak_covers_iff_bareSubroutine :
    ∃ c, replay bareSubroutine {} = .ok () c ∧
      (∀ pre b, pre <+: bareSubroutine → replay pre {} = .ok () b → 0 ≤ b.depth) ∧
      (PeakCovers bareSubroutine ↔ ∀ l jump entry,
        SubroutineEntry bareSubroutine l jump entry → jump.depth < entry.maxDepth) ∧
      (EntriesWithin bareSubroutine c.maxDepth ↔ ∀ l jump entry,
        SubroutineEntry bareSubroutine l jump entry → jump.depth < c.maxDepth) := by
  obtain ⟨c, hc⟩ := exists_of_run'_eq_some
    (show (replay bareSubroutine).run' {} = some () by decide +kernel)
  exact ⟨c, hc, peak_covers_iff hc⟩

/-- The peak misses the return address: the code is accepted with peak zero, but the depth after
the label is one. -/
theorem bareSubroutine_above_peak :
    ∃ c, replay bareSubroutine {} = .ok () c ∧ c.maxDepth = 0 ∧
      ¬ PeakCovers bareSubroutine ∧ ¬ EntriesWithin bareSubroutine c.maxDepth := by
  obtain ⟨b, hb⟩ := exists_of_run'_eq_some
    (show (replay (bareSubroutine.take 3)).run' {} = some () by decide +kernel)
  have hd : b.depth = 1 := by
    rw [← finalState_of_ok hb]
    decide +kernel
  have hm : b.maxDepth = 0 := by
    rw [← finalState_of_ok hb]
    decide +kernel
  obtain ⟨c, hc⟩ := exists_of_run'_eq_some
    (show (replay bareSubroutine).run' {} = some () by decide +kernel)
  have hpeak : c.maxDepth = 0 := by
    rw [← finalState_of_ok hc]
    decide +kernel
  have hpre : bareSubroutine.take 3 <+: bareSubroutine := List.take_prefix 3 _
  refine ⟨c, hc, hpeak, fun hcov => ?_, fun hent => ?_⟩
  · have := (hcov _ b hpre hb).2
    omega
  · have := hent (bareSubroutine.take 2) ⟨0⟩ b hpre hb
    omega

end Builder

end BytecodeGuard
