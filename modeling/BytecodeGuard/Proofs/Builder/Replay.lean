import BytecodeGuard.Proofs.Builder.Success

/-!
# Accepted code

Code is accepted if a builder takes its instructions one by one without a fault. What an
instruction preserves (`…_instruction`) gives what accepted code says about the builder that has
taken it (`…_replay`): which handlers it has, which labels, and that no label is placed twice.

What a label is expected to have changes only by a declaration: see `expected?_instruction`.
-/

namespace BytecodeGuard

namespace Builder

variable {b b' c c' : Builder} {i : Instruction} {code pre post : List Instruction} {l : Label}
  {d : Int}

/-! ## One instruction -/

theorem code_instruction (h : instruction i b = .ok () b') : b'.code = b.code.push i := by
  cases i with
  | exec op operand =>
    obtain ⟨effect, he⟩ := executes_of_emit h
    rw [he.eq]
  | label l =>
    obtain ⟨-, hp⟩ := label_eq_ok.1 h
    cases hp <;> rfl
  | line number start => cases h; rfl
  | region r => cases h; rfl

theorem mem_handlers_instruction (h : instruction i b = .ok () b') :
    l ∈ b'.handlers ↔ l ∈ b.handlers ∨ i.handler? = some l := by
  cases i with
  | exec op operand =>
    obtain ⟨effect, he⟩ := executes_of_emit h
    rw [he.eq]
    simp [Instruction.handler?]
  | label l' =>
    obtain ⟨-, hp⟩ := label_eq_ok.1 h
    cases hp <;> simp [Instruction.handler?, arrive, enterAt, expect]
  | line number start =>
    cases h
    simp [Instruction.handler?, append]
  | region r =>
    cases h
    simp [Instruction.handler?, append, addHandler, expect, or_comm, eq_comm]

theorem mem_placed_instruction (h : instruction i b = .ok () b') :
    l ∈ b'.placed ↔ l ∈ b.placed ∨ i = .label l := by
  cases i with
  | exec op operand =>
    obtain ⟨effect, he⟩ := executes_of_emit h
    rw [he.eq]
    simp
  | label l' =>
    obtain ⟨-, hp⟩ := label_eq_ok.1 h
    cases hp <;> simp [arrive, enterAt, expect, or_comm, eq_comm]
  | line number start =>
    cases h
    simp [append]
  | region r =>
    cases h
    simp [append, addHandler, expect]

theorem not_mem_placed_of_label (h : instruction (.label l) b = .ok () b') : l ∉ b.placed :=
  (label_eq_ok.1 h).1

theorem maxDepth_instruction (h : instruction i b = .ok () b') : b.maxDepth ≤ b'.maxDepth := by
  cases i with
  | exec op operand =>
    obtain ⟨effect, he⟩ := executes_of_emit h
    rw [he.eq]
    exact Nat.le_max_left _ _
  | label l =>
    obtain ⟨-, hp⟩ := label_eq_ok.1 h
    cases hp with
    | handler => exact Nat.le_max_left _ _
    | _ => exact Nat.le_refl _
  | line number start => cases h; exact Nat.le_refl _
  | region r => cases h; exact Nat.le_refl _

/-- Only a declaration changes what is expected of a label. -/
theorem expected?_instruction (h : instruction i b = .ok () b') (hi : i.handler? ≠ some l)
    (hd : b.expected? l = some d) : b'.expected? l = some d := by
  cases i with
  | exec op operand =>
    obtain ⟨effect, he⟩ := executes_of_emit h
    exact he.expected hd
  | label l' =>
    obtain ⟨-, hp⟩ := label_eq_ok.1 h
    cases hp with
    | expects hh ht he =>
      rw [expected?_expect_of_ne]
      · exact hd
      · rintro rfl
        rw [he] at hd
        cases hd
    | _ => exact hd
  | line number start => cases h; exact hd
  | region r =>
    cases h
    show ((b.addHandler r.handler).append _).expected? l = _
    have hr : l ≠ r.handler := fun he => hi (congrArg some he.symm)
    exact (expected?_expect_of_ne hr).trans hd

/-- Why a label is expected to have a depth after an instruction. -/
inductive Reason (i : Instruction) (b : Builder) (l : Label) (d : Int) : Prop
  /-- It was before. -/
  | earlier (h : b.expected? l = some d)
  /-- It was declared to be a handler. -/
  | declared (hi : i.handler? = some l) (hd : d = 1)
  /-- Tracked code runs into it. -/
  | placed (hi : i = .label l) (ht : b.tracked = true) (hd : d = b.depth)
  /-- Tracked code jumps to it. -/
  | jump {op : Opcode} {operand : Operand} {effect : StackEffect} (hi : i = .exec op operand)
      (he : stackEffect op operand = .ok effect) (ht : b.tracked = true)
      (hl : l ∈ operand.targets) (hp : effect.pops ≤ b.depth)
      (hd : d = b.depth - effect.pops + jumpExtra op)

theorem reason_of_instruction (h : instruction i b = .ok () b') (hd : b'.expected? l = some d) :
    Reason i b l d := by
  cases i with
  | exec op operand =>
    obtain ⟨effect, he⟩ := executes_of_emit h
    rcases he.cases hd with hd | ⟨ht, hl, hd⟩
    · exact .earlier hd
    · exact .jump rfl he.effect_eq ht hl (he.pops_le ht) hd
  | label l' =>
    obtain ⟨-, hp⟩ := label_eq_ok.1 h
    cases hp with
    | expects hh ht he =>
      by_cases hl : l = l'
      · subst hl
        rw [expected?_expect_self] at hd
        exact .placed rfl ht (Option.some.inj hd).symm
      · rw [expected?_expect_of_ne hl] at hd
        exact .earlier hd
    | _ => exact .earlier hd
  | line number start => cases h; exact .earlier hd
  | region r =>
    cases h
    by_cases hl : l = r.handler
    · subst hl
      have h1 : some 1 = some d := expected?_expect_self.symm.trans hd
      exact .declared rfl (Option.some.inj h1).symm
    · exact .earlier ((expected?_expect_of_ne hl).symm.trans hd)

/-- A handler expects the exception and nothing else. -/
def HandlersExpectOne (b : Builder) : Prop := ∀ l ∈ b.handlers, b.expected? l = some 1

theorem handlersExpectOne_instruction (h : instruction i b = .ok () b')
    (hb : b.HandlersExpectOne) : b'.HandlersExpectOne := by
  intro l hl
  by_cases hi : i.handler? = some l
  · cases i with
    | region r =>
      cases h
      cases hi
      exact expected?_expect_self
    | _ => cases hi
  · have hl := ((mem_handlers_instruction h).1 hl).resolve_right hi
    exact expected?_instruction h hi (hb l hl)

/-! ## Accepted code -/

theorem replay_append_eq_ok :
    replay (pre ++ post) b = .ok () c ↔
      ∃ b', replay pre b = .ok () b' ∧ replay post b' = .ok () c :=
  forM_append_eq_ok

theorem replay_cons_eq_ok :
    replay (i :: post) b = .ok () c ↔
      ∃ b', instruction i b = .ok () b' ∧ replay post b' = .ok () c :=
  forM_cons_eq_ok

/-- Code that goes on from accepted code by one instruction. -/
theorem replay_snoc (h : replay pre b = .ok () b') (hi : instruction i b' = .ok () c) :
    replay (pre ++ [i]) b = .ok () c :=
  replay_append_eq_ok.2 ⟨b', h, forM_singleton_eq_ok.2 hi⟩

/-- **Invariants of accepted code.** -/
theorem replay_induction {motive : ∀ code b, replay code {} = .ok () b → Prop}
    (nil : motive [] {} rfl)
    (snoc : ∀ code i b b' (h : replay code {} = .ok () b) (hi : instruction i b = .ok () b'),
      motive code b h → motive (code ++ [i]) b' (replay_snoc h hi))
    {code : List Instruction} {b : Builder} (h : replay code {} = .ok () b) :
    motive code b h := by
  refine forM_induction (motive := fun code b => ∀ h, motive code b h) ?_ ?_ h h
  · exact fun _ => nil
  · exact fun code i b b' h ih hi _ => snoc code i b b' h hi (ih h)

theorem replay_unique (h : replay code b = .ok () c) (h' : replay code b = .ok () c') :
    c = c' := by
  rw [h] at h'
  cases h'
  rfl

theorem replay_of_prefix (h : replay code b = .ok () c) (hp : pre <+: code) :
    ∃ b' post, code = pre ++ post ∧ replay pre b = .ok () b' ∧ replay post b' = .ok () c := by
  obtain ⟨post, rfl⟩ := hp
  obtain ⟨b', hpre, hpost⟩ := replay_append_eq_ok.1 h
  exact ⟨b', post, rfl, hpre, hpost⟩

/-- The builder holds the code that it has taken. -/
theorem toList_code_replay (h : replay code {} = .ok () b) : b.code.toList = code := by
  induction h using replay_induction with
  | nil => rfl
  | snoc code i b b' _ hi ih => rw [code_instruction hi, Array.toList_push, ih]

theorem mem_handlers_replay (h : replay code {} = .ok () b) :
    l ∈ b.handlers ↔ ∃ i ∈ code, i.handler? = some l := by
  induction h using replay_induction with
  | nil => simp
  | snoc code i b b' _ hi ih => simp [mem_handlers_instruction hi, ih, or_and_right, exists_or]

theorem mem_placed_replay (h : replay code {} = .ok () b) :
    l ∈ b.placed ↔ .label l ∈ code := by
  induction h using replay_induction with
  | nil => simp
  | snoc code i b b' _ hi ih => simp [mem_placed_instruction hi, ih, eq_comm]

theorem handlersExpectOne_replay (h : replay code {} = .ok () b) : b.HandlersExpectOne := by
  induction h using replay_induction with
  | nil => exact fun l hl => absurd hl List.not_mem_nil
  | snoc code i b b' _ hi ih => exact handlersExpectOne_instruction hi ih

theorem maxDepth_replay (h : replay code b = .ok () c) : b.maxDepth ≤ c.maxDepth := by
  induction code generalizing b with
  | nil => cases h; exact Nat.le_refl _
  | cons i code ih =>
    obtain ⟨b', hi, h⟩ := replay_cons_eq_ok.1 h
    exact Nat.le_trans (maxDepth_instruction hi) (ih h)

/-- What is expected of a label stays the same until a handler is declared there. -/
theorem expected?_replay (h : replay code b = .ok () c) (hl : ∀ i ∈ code, i.handler? ≠ some l)
    (hd : b.expected? l = some d) : c.expected? l = some d := by
  induction code generalizing b with
  | nil => cases h; exact hd
  | cons i code ih =>
    obtain ⟨b', hi, h⟩ := replay_cons_eq_ok.1 h
    exact ih h (fun j hj => hl j (List.mem_cons_of_mem i hj))
      (expected?_instruction hi (hl i List.mem_cons_self) hd)

/-- No label is placed twice. -/
theorem label_not_mem_of_replay (h : replay (pre ++ .label l :: post) {} = .ok () c) :
    .label l ∉ pre ∧ .label l ∉ post := by
  have hbefore : ∀ {pre post}, replay (pre ++ .label l :: post) {} = .ok () c →
      .label l ∉ pre := by
    intro pre post h
    obtain ⟨b, hpre, hpost⟩ := replay_append_eq_ok.1 h
    obtain ⟨b', hl, -⟩ := replay_cons_eq_ok.1 hpost
    rw [← mem_placed_replay hpre]
    exact not_mem_placed_of_label hl
  refine ⟨hbefore h, fun hl => ?_⟩
  -- A second placement would have the first one before it.
  obtain ⟨mid, rest, rfl⟩ := List.append_of_mem hl
  rw [← List.cons_append, ← List.append_assoc] at h
  exact hbefore h (by simp)

end Builder

/-- The peak of code is that of the builder that has taken it. -/
theorem peakDepth_eq_ok {code : List Instruction} {peak : Nat} :
    peakDepth code = .ok peak ↔ ∃ c, Builder.replay code {} = .ok () c ∧ c.maxDepth = peak := by
  unfold peakDepth
  cases Builder.replay code {} with
  | ok _ c => simp
  | error fault c => simp

theorem peakDepth_eq_error {code : List Instruction} {fault : Fault} :
    peakDepth code = .error fault ↔ ∃ c, Builder.replay code {} = .error fault c := by
  unfold peakDepth
  cases Builder.replay code {} with
  | ok _ c => simp
  | error fault c => simp

end BytecodeGuard
