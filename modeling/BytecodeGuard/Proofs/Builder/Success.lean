import BytecodeGuard.Builder.Basic
import BytecodeGuard.Proofs.Actions

/-!
# What a successful call does

One statement for each call of a builder says everything that a success tells about the builder
before and after.

* `shift_eq_ok`, `meet_eq_ok` — popping, pushing, and jumping to one label.
* `Executes` — an executable instruction: it had the slots it pops, and every target expects the
  depth it leaves behind.
* `Places` — a label, with one case for each way in which the depth after it is found.

Nothing later looks into the definitions of `emit` and `label`.
-/

namespace BytecodeGuard

namespace Builder

variable {b b' : Builder} {l l' : Label} {d : Int}

/-! ## The parts of a builder -/

theorem tracked_iff : b.tracked = true ↔ b.unreachable = false ∧ b.depthUnknown = false := by
  simp [tracked]

theorem expected?_expect_self : (b.expect l d).expected? l = some d := by
  rw [expected?_expect, if_pos rfl]

theorem expected?_expect_of_ne (h : l' ≠ l) : (b.expect l d).expected? l' = b.expected? l' := by
  rw [expected?_expect, if_neg h]

/-! ## Popping, pushing and jumping -/

theorem shift_of_underflow {pops pushes : Nat}
    (h : b.depth + pushes - pops < 0 ∧ b.tracked = true) :
    shift pops pushes b = .error (.stackUnderflow (b.depth + pushes - pops) pops pushes)
      { b with depth := b.depth + pushes - pops } :=
  if_pos h

theorem shift_of_overflow {pops pushes : Nat}
    (h : ¬(b.depth + pushes - pops < 0 ∧ b.tracked = true))
    (hl : ¬max (b.depth + pushes - pops) 0 ≤ depthLimit) :
    shift pops pushes b =
      .error .stackOverflow { b with depth := max (b.depth + pushes - pops) 0 } :=
  (if_neg h).trans (if_neg hl)

theorem shift_of_fits {pops pushes : Nat}
    (h : ¬(b.depth + pushes - pops < 0 ∧ b.tracked = true))
    (hl : max (b.depth + pushes - pops) 0 ≤ depthLimit) :
    shift pops pushes b = .ok () { b with
      depth := max (b.depth + pushes - pops) 0
      maxDepth := max b.maxDepth (max (b.depth + pushes - pops) 0).toNat } :=
  (if_neg h).trans (if_pos hl)

/-- A shift succeeds unless tracked code lacks the slots or the stack grows too large. -/
theorem shift_eq_ok {pops pushes : Nat} :
    shift pops pushes b = .ok () b' ↔
      (b.tracked → 0 ≤ b.depth + pushes - pops) ∧ b.depth + pushes - pops ≤ depthLimit ∧
        b' = { b with
          depth := max (b.depth + pushes - pops) 0
          maxDepth := max b.maxDepth (b.depth + pushes - pops).toNat } := by
  have hmax : (max (b.depth + pushes - pops) 0).toNat = (b.depth + pushes - pops).toNat := by
    omega
  by_cases h : b.depth + pushes - pops < 0 ∧ b.tracked = true
  · rw [shift_of_underflow h]
    simp only [reduceCtorEq, false_iff]
    rintro ⟨ht, -⟩
    exact absurd (ht h.2) (by omega)
  have ht : b.tracked → 0 ≤ b.depth + pushes - pops := fun ht => by
    by_contra hn
    exact h ⟨by omega, ht⟩
  by_cases hl : max (b.depth + pushes - pops) 0 ≤ depthLimit
  · rw [shift_of_fits h hl, hmax]
    simp only [EStateM.Result.ok.injEq, true_and]
    exact ⟨fun he => ⟨ht, by omega, he.symm⟩, fun he => he.2.2.symm⟩
  · rw [shift_of_overflow h hl]
    simp only [reduceCtorEq, false_iff]
    rintro ⟨-, hd, -⟩
    exact hl (by unfold depthLimit at *; omega)

theorem meet_of_untracked {extra : Nat} (ht : b.tracked = false) :
    meet extra l b = .ok () b := by
  simp [meet, ht]

theorem meet_of_none {extra : Nat} (ht : b.tracked = true) (hl : b.expected? l = none) :
    meet extra l b = .ok () (b.expect l (b.depth + extra)) := by
  simp [meet, ht, hl]

theorem meet_of_some {extra : Nat} (ht : b.tracked = true) (hl : b.expected? l = some d) :
    meet extra l b =
      if b.depth + extra = d then .ok () b
      else .error (.jumpDepth l d (b.depth + extra)) { b with depth := b.depth + extra } := by
  simp [meet, ht, hl]

/-- A jump succeeds if nothing is tracked, if the target expects the depth, or if it expects
nothing so far. -/
theorem meet_eq_ok {extra : Nat} :
    meet extra l b = .ok () b' ↔
      (b.tracked = false ∧ b' = b) ∨
      (b.tracked = true ∧ b.expected? l = some (b.depth + extra) ∧ b' = b) ∨
      (b.tracked = true ∧ b.expected? l = none ∧ b' = b.expect l (b.depth + extra)) := by
  cases ht : b.tracked with
  | false => simp [meet_of_untracked ht, eq_comm]
  | true =>
    cases hl : b.expected? l with
    | none => simp [meet_of_none ht hl, eq_comm]
    | some d =>
      rw [meet_of_some ht hl]
      by_cases hd : b.depth + extra = d
      · simp [hd, eq_comm]
      · simp [hd, Ne.symm hd]

/-- What a call to each of several targets leaves behind. Only expectations are added, and none
is replaced. -/
structure Meets (extra : Nat) (ls : List Label) (b b' : Builder) : Prop where
  eq : b' = { b with labelDepths := b'.labelDepths }
  expected : ∀ {l d}, b.expected? l = some d → b'.expected? l = some d
  target : b.tracked → ∀ l ∈ ls, b'.expected? l = some (b.depth + extra)
  cases : ∀ {l d}, b'.expected? l = some d →
    b.expected? l = some d ∨ b.tracked ∧ l ∈ ls ∧ d = b.depth + extra

theorem meets_nil (extra : Nat) (b : Builder) : Meets extra [] b b :=
  ⟨rfl, id, fun _ _ hl => absurd hl List.not_mem_nil, .inl⟩

theorem meets_singleton {extra : Nat} (h : meet extra l b = .ok () b') :
    Meets extra [l] b b' := by
  rcases meet_eq_ok.1 h with ⟨ht, rfl⟩ | ⟨ht, hl, rfl⟩ | ⟨ht, hl, rfl⟩
  · exact ⟨rfl, id, fun h => by simp [ht] at h, .inl⟩
  · refine ⟨rfl, id, fun _ l' hl' => ?_, .inl⟩
    rw [List.mem_singleton.1 hl', hl]
  · refine ⟨rfl, fun {l' d} hd => ?_, fun _ l' hl' => ?_, fun {l' d} hd => ?_⟩
    · rw [expected?_expect_of_ne, hd]
      rintro rfl
      rw [hl] at hd
      cases hd
    · rw [List.mem_singleton.1 hl', expected?_expect_self]
    · by_cases hll : l' = l
      · subst hll
        rw [expected?_expect_self] at hd
        exact .inr ⟨ht, List.mem_singleton_self l', (Option.some.inj hd).symm⟩
      · rw [expected?_expect_of_ne hll] at hd
        exact .inl hd

theorem Meets.tracked_eq {extra : Nat} {ls : List Label} (h : Meets extra ls b b') :
    b'.tracked = b.tracked := by
  rw [h.eq]
  rfl

theorem Meets.depth_eq {extra : Nat} {ls : List Label} (h : Meets extra ls b b') :
    b'.depth = b.depth := by
  rw [h.eq]

theorem Meets.append {extra : Nat} {ls ms : List Label} {c : Builder} (h : Meets extra ls b b')
    (h' : Meets extra ms b' c) : Meets extra (ls ++ ms) b c where
  eq := by
    rw [h'.eq, h.eq]
  expected hd := h'.expected (h.expected hd)
  target ht l hl := by
    rcases List.mem_append.1 hl with hl | hl
    · exact h'.expected (h.target ht l hl)
    · rw [h'.target (h.tracked_eq ▸ ht) l hl, h.depth_eq]
  cases hd := by
    rcases h'.cases hd with hd | ⟨ht, hl, hd⟩
    · rcases h.cases hd with hd | ⟨ht, hl, hd⟩
      · exact .inl hd
      · exact .inr ⟨ht, List.mem_append_left ms hl, hd⟩
    · exact .inr ⟨h.tracked_eq ▸ ht, List.mem_append_right ls hl, h.depth_eq ▸ hd⟩

theorem meets_of_forM {extra : Nat} {ls : List Label} (h : ls.forM (meet extra) b = .ok () b') :
    Meets extra ls b b' := by
  induction ls generalizing b with
  | nil =>
    cases h
    exact meets_nil extra _
  | cons l ls ih =>
    obtain ⟨c, hl, hls⟩ := forM_cons_eq_ok.1 h
    exact (meets_singleton hl).append (ih hls)

/-- A jump succeeds if its target does not expect another depth. -/
theorem exists_meet {extra : Nat}
    (h : b.tracked → ∀ d, b.expected? l = some d → d = b.depth + extra) :
    ∃ b', meet extra l b = .ok () b' := by
  cases ht : b.tracked with
  | false => exact ⟨b, meet_of_untracked ht⟩
  | true =>
    cases hl : b.expected? l with
    | none => exact ⟨_, meet_of_none ht hl⟩
    | some d =>
      have hd : b.depth + extra = d := (h ht d hl).symm
      exact ⟨b, by rw [meet_of_some ht hl, if_pos hd]⟩

/-- So does a jump to each of several targets, even if a target is named twice. -/
theorem exists_forM_meet {extra : Nat} {ls : List Label}
    (h : b.tracked → ∀ l ∈ ls, ∀ d, b.expected? l = some d → d = b.depth + extra) :
    ∃ b', ls.forM (meet extra) b = .ok () b' := by
  induction ls generalizing b with
  | nil => exact ⟨b, rfl⟩
  | cons l ls ih =>
    obtain ⟨c, hl⟩ := exists_meet fun ht => h ht l List.mem_cons_self
    have hm := meets_singleton hl
    have hc : ∃ b', ls.forM (meet extra) c = .ok () b' := by
      refine ih fun ht l' hl' d hd => ?_
      rw [hm.tracked_eq] at ht
      rw [hm.depth_eq]
      rcases hm.cases hd with hd | ⟨-, -, hd⟩
      · exact h ht l' (List.mem_cons_of_mem l hl') d hd
      · exact hd
    obtain ⟨b', hls⟩ := hc
    exact ⟨b', forM_cons_eq_ok.2 ⟨c, hl, hls⟩⟩

/-! ## Executable instructions -/

/-- Only the target of a jump to a subroutine sees a slot more. -/
theorem jumpExtra_eq (op : Opcode) : jumpExtra op = if op = .jsr then 1 else 0 := by
  cases op <;> rfl

/-- What an executable instruction with the given effect does to a builder. -/
structure Executes (op : Opcode) (operand : Operand) (effect : StackEffect) (b b' : Builder) :
    Prop where
  kind : operand.kind = op.operandKind
  effect_eq : stackEffect op operand = .ok effect
  pops_le : b.tracked → effect.pops ≤ b.depth
  eq : b' = { b with
    code := b.code.push (.exec op operand)
    depth := max (b.depth - effect.pops) 0 + effect.pushes
    maxDepth := max b.maxDepth (max (b.depth - effect.pops) 0 + effect.pushes).toNat
    unreachable := b.unreachable || op.endsFlow
    labelDepths := b'.labelDepths }
  expected : ∀ {l d}, b.expected? l = some d → b'.expected? l = some d
  target : b.tracked → ∀ l ∈ operand.targets,
    b'.expected? l = some (b.depth - effect.pops + jumpExtra op)
  cases : ∀ {l d}, b'.expected? l = some d → b.expected? l = some d ∨
    b.tracked ∧ l ∈ operand.targets ∧ d = b.depth - effect.pops + jumpExtra op

/-- The part of `emit` that finds the depth after the instruction. -/
def adjust (op : Opcode) (operand : Operand) (effect : StackEffect) : Build Unit := do
  shift effect.pops 0
  operand.targets.forM (meet (jumpExtra op))
  shift 0 effect.pushes

/-- The part of `emit` that changes the builder. -/
def perform (op : Opcode) (operand : Operand) (effect : StackEffect) : Build Unit := do
  adjust op operand effect
  modify fun b =>
    { b.append (.exec op operand) with unreachable := b.unreachable || op.endsFlow }

theorem emit_eq (op : Opcode) (operand : Operand) :
    emit op operand =
      if operand.kind = op.operandKind then
        match stackEffect op operand with
        | .ok effect => perform op operand effect
        | .error fault => throw fault
      else throw (.operandMismatch op operand) := by
  unfold emit
  by_cases h : operand.kind = op.operandKind
  · rw [if_pos h]
    cases he : stackEffect op operand with
    | ok effect => simp [h, perform, adjust]
    | error fault =>
      simp [h]
      rfl
  · simp [h]
    rfl

theorem perform_eq_ok {op : Opcode} {operand : Operand} {effect : StackEffect} :
    perform op operand effect b = .ok () b' ↔
      ∃ b₁ b₂ b₃, shift effect.pops 0 b = .ok () b₁ ∧
        operand.targets.forM (meet (jumpExtra op)) b₁ = .ok () b₂ ∧
        shift 0 effect.pushes b₂ = .ok () b₃ ∧
        b' = { b₃.append (.exec op operand) with
          unreachable := b₃.unreachable || op.endsFlow } := by
  unfold perform
  rw [bind_eq_ok]
  constructor
  · rintro ⟨_, b₃, h, hlast⟩
    obtain ⟨_, b₁, h₁, h⟩ := bind_eq_ok.1 h
    obtain ⟨_, b₂, h₂, h₃⟩ := bind_eq_ok.1 h
    cases hlast
    exact ⟨b₁, b₂, b₃, h₁, h₂, h₃, rfl⟩
  · rintro ⟨b₁, b₂, b₃, h₁, h₂, h₃, rfl⟩
    refine ⟨(), b₃, ?_, rfl⟩
    unfold adjust
    rw [bind_of_ok h₁, bind_of_ok h₂, h₃]

theorem executes_of_perform {op : Opcode} {operand : Operand} {effect : StackEffect}
    (hk : operand.kind = op.operandKind) (he : stackEffect op operand = .ok effect)
    (h : perform op operand effect b = .ok () b') : Executes op operand effect b b' := by
  obtain ⟨b₁, b₂, b₃, h₁, h₂, h₃, rfl⟩ := perform_eq_ok.1 h
  obtain ⟨hpops, -, rfl⟩ := shift_eq_ok.1 h₁
  have hm := meets_of_forM h₂
  obtain ⟨-, -, rfl⟩ := shift_eq_ok.1 h₃
  have hpops : b.tracked → effect.pops ≤ b.depth := fun ht => by
    have := hpops ht
    omega
  have hdepth : b₂.depth = max (b.depth - effect.pops) 0 := by
    rw [hm.depth_eq]
    simp
  have htarget : b.tracked → b₂.depth = b.depth - effect.pops := fun ht => by
    have := hpops ht
    omega
  refine ⟨hk, he, hpops, ?_, hm.expected, fun ht l hl => ?_, fun hd => ?_⟩
  · rw [hm.eq]
    simp only [append, Builder.mk.injEq, and_true, true_and]
    omega
  · rw [← htarget ht, hm.depth_eq]
    exact hm.target ht l hl
  · rcases hm.cases hd with hd | ⟨ht, hl, hd⟩
    · exact .inl hd
    · rw [← hm.depth_eq, htarget ht] at hd
      exact .inr ⟨ht, hl, hd⟩

/-- **Executable instructions.** -/
theorem executes_of_emit {op : Opcode} {operand : Operand} (h : emit op operand b = .ok () b') :
    ∃ effect, Executes op operand effect b b' := by
  rw [emit_eq] at h
  split_ifs at h with hk
  · cases he : stackEffect op operand with
    | ok effect =>
      rw [he] at h
      exact ⟨effect, executes_of_perform hk he h⟩
    | error fault =>
      rw [he] at h
      cases h
  · cases h

/-- An instruction without targets succeeds if it has the slots it pops and the stack does not
grow too large. -/
theorem emit_of_fits {op : Opcode} {operand : Operand} {effect : StackEffect}
    (hk : operand.kind = op.operandKind) (he : stackEffect op operand = .ok effect)
    (ht : operand.targets = []) (hpops : effect.pops ≤ b.depth)
    (hl : b.depth - effect.pops + effect.pushes ≤ depthLimit) :
    emit op operand b = .ok () { b with
      code := b.code.push (.exec op operand)
      depth := b.depth - effect.pops + effect.pushes
      maxDepth := max b.maxDepth (b.depth - effect.pops + effect.pushes).toNat
      unreachable := b.unreachable || op.endsFlow } := by
  have hpop : shift effect.pops 0 b = .ok () { b with
      depth := b.depth - effect.pops
      maxDepth := max b.maxDepth (b.depth - effect.pops).toNat } := by
    refine shift_eq_ok.2 ⟨fun _ => by omega, by omega, ?_⟩
    simp only [Builder.mk.injEq, and_true, true_and]
    omega
  have hmeet : ∀ b, operand.targets.forM (meet (jumpExtra op)) b = .ok () b := fun b => by
    rw [ht]
    rfl
  rw [emit_eq, if_pos hk, he]
  refine perform_eq_ok.2 ⟨_, _, _, hpop, hmeet _, shift_eq_ok.2 ⟨fun _ => ?_, ?_, rfl⟩, ?_⟩
  · show 0 ≤ b.depth - effect.pops + effect.pushes - (0 : Nat)
    omega
  · show b.depth - effect.pops + effect.pushes - (0 : Nat) ≤ depthLimit
    omega
  · simp only [append, Builder.mk.injEq, and_true, true_and]
    omega

/-- An instruction succeeds if tracked code has the slots it pops, no target expects another
depth, and the stack does not grow too large. -/
theorem exists_emit {op : Opcode} {operand : Operand} {effect : StackEffect}
    (hk : operand.kind = op.operandKind) (he : stackEffect op operand = .ok effect)
    (hpops : b.tracked → effect.pops ≤ b.depth)
    (ht : b.tracked → ∀ l ∈ operand.targets, ∀ d, b.expected? l = some d →
      d = b.depth - effect.pops + jumpExtra op)
    (hl : max (b.depth - effect.pops) 0 + effect.pushes ≤ depthLimit) :
    ∃ b', emit op operand b = .ok () b' := by
  let popped : Builder := { b with
    depth := max (b.depth - effect.pops) 0
    maxDepth := max b.maxDepth (b.depth - effect.pops).toNat }
  have hpop : shift effect.pops 0 b = .ok () popped := by
    refine shift_eq_ok.2 ⟨fun ht => ?_, by omega, ?_⟩
    · have := hpops ht
      omega
    · simp [popped]
  have hjump : ∃ c, operand.targets.forM (meet (jumpExtra op)) popped = .ok () c := by
    refine exists_forM_meet fun htr l hlt d hd => ?_
    have := hpops htr
    rw [ht htr l hlt d hd]
    show b.depth - effect.pops + jumpExtra op = max (b.depth - effect.pops) 0 + jumpExtra op
    omega
  obtain ⟨c, hc⟩ := hjump
  have hdepth : c.depth = max (b.depth - effect.pops) 0 := (meets_of_forM hc).depth_eq
  have hpush : ∃ c', shift 0 effect.pushes c = .ok () c' :=
    ⟨_, shift_eq_ok.2 ⟨fun _ => by omega, by omega, rfl⟩⟩
  obtain ⟨c', hc'⟩ := hpush
  rw [emit_eq, if_pos hk, he]
  exact ⟨_, perform_eq_ok.2 ⟨popped, c, c', hpop, hc, hc', rfl⟩⟩

/-! ## Labels -/

/-- What placing a label leaves of a builder besides the depth that the code after it begins
with. -/
def arrive (b : Builder) (l : Label) : Builder :=
  { b with code := b.code.push (.label l), placed := l :: b.placed, unreachable := false }

/-- How the depth after a label is found. -/
inductive Places (l : Label) (b : Builder) : Builder → Prop
  /-- A handler begins with the exception. -/
  | handler (hh : l ∈ b.handlers) : Places l b ((b.arrive l).enterAt 1)
  /-- Code that is not tracked continues with the expected depth. -/
  | adopts {d : Int} (hh : l ∉ b.handlers) (ht : b.tracked = false)
      (he : b.expected? l = some d) :
      Places l b { b.arrive l with depth := d, depthUnknown := false }
  /-- Tracked code has the expected depth. -/
  | agrees (hh : l ∉ b.handlers) (ht : b.tracked = true)
      (he : b.expected? l = some b.depth) : Places l b (b.arrive l)
  /-- Nothing is known of the code after the label. -/
  | guesses (hh : l ∉ b.handlers) (hu : b.unreachable = true) (he : b.expected? l = none) :
      Places l b { b.arrive l with depth := 0, depthUnknown := true }
  /-- Nothing is known of the code before the label. -/
  | guessed (hh : l ∉ b.handlers) (hu : b.unreachable = false) (hd : b.depthUnknown = true)
      (he : b.expected? l = none) : Places l b (b.arrive l)
  /-- The depth of tracked code is expected from now on. -/
  | expects (hh : l ∉ b.handlers) (ht : b.tracked = true) (he : b.expected? l = none) :
      Places l b ((b.arrive l).expect l b.depth)

theorem label_eq (l : Label) (b : Builder) :
    label l b =
      if l ∈ b.placed then .error (.duplicateLabel l) b
      else if l ∈ b.handlers then .ok () ((b.arrive l).enterAt 1)
      else match b.expected? l with
        | some d =>
          if b.tracked = false then
            .ok () { b.arrive l with depth := d, depthUnknown := false }
          else if b.depth = d then .ok () (b.arrive l)
          else .error (.labelDepth l d b.depth) { b with placed := l :: b.placed }
        | none =>
          if b.unreachable then .ok () { b.arrive l with depth := 0, depthUnknown := true }
          else if b.depthUnknown then .ok () (b.arrive l)
          else .ok () ((b.arrive l).expect l b.depth) := by
  have hexp : expected? { b with placed := l :: b.placed } l = b.expected? l := rfl
  have htr : tracked { b with placed := l :: b.placed } = b.tracked := rfl
  unfold label
  simp only [hexp, htr, Bool.not_eq_true]
  rfl

/-- **Labels.** -/
theorem label_eq_ok : label l b = .ok () b' ↔ l ∉ b.placed ∧ Places l b b' := by
  rw [label_eq]
  constructor
  · intro h
    by_cases hp : l ∈ b.placed
    · rw [if_pos hp] at h
      cases h
    refine ⟨hp, ?_⟩
    rw [if_neg hp] at h
    by_cases hh : l ∈ b.handlers
    · rw [if_pos hh] at h
      cases h
      exact .handler hh
    rw [if_neg hh] at h
    cases he : b.expected? l with
    | some d =>
      simp only [he] at h
      split_ifs at h with ht hd
      · cases h
        exact .adopts hh ht he
      · cases h
        exact .agrees hh (by simpa using ht) (hd ▸ he)
    | none =>
      simp only [he] at h
      split_ifs at h with hu hd
      · cases h
        exact .guesses hh hu he
      · cases h
        exact .guessed hh (by simpa using hu) hd he
      · cases h
        exact .expects hh (tracked_iff.2 ⟨by simpa using hu, by simpa using hd⟩) he
  · rintro ⟨hp, h⟩
    rw [if_neg hp]
    cases h with
    | handler hh => rw [if_pos hh]
    | adopts hh ht he => simp [hh, ht, he]
    | agrees hh ht he => simp [hh, ht, he]
    | guesses hh hu he => simp [hh, hu, he]
    | guessed hh hu hd he => simp [hh, hu, hd, he]
    | expects hh ht he =>
      obtain ⟨hu, hd⟩ := tracked_iff.1 ht
      simp [hh, hu, hd, he]

/-- A label succeeds if it is not placed so far and tracked code has the depth expected there. -/
theorem exists_label (hp : l ∉ b.placed)
    (h : b.tracked → l ∉ b.handlers → ∀ d, b.expected? l = some d → d = b.depth) :
    ∃ b', label l b = .ok () b' := by
  simp only [label_eq_ok, hp, not_false_eq_true, true_and]
  by_cases hh : l ∈ b.handlers
  · exact ⟨_, .handler hh⟩
  cases he : b.expected? l with
  | some d =>
    cases ht : b.tracked with
    | false => exact ⟨_, .adopts hh ht he⟩
    | true => exact ⟨_, .agrees hh ht (by rw [he, h ht hh d he])⟩
  | none =>
    cases hu : b.unreachable with
    | true => exact ⟨_, .guesses hh hu he⟩
    | false =>
      cases hd : b.depthUnknown with
      | true => exact ⟨_, .guessed hh hu hd he⟩
      | false => exact ⟨_, .expects hh (tracked_iff.2 ⟨hu, hd⟩) he⟩

theorem unreachable_label (h : label l b = .ok () b') : b'.unreachable = false := by
  obtain ⟨-, hp⟩ := label_eq_ok.1 h
  cases hp <;> rfl

/-- A handler begins with the exception, whatever the code before it leaves on the stack. -/
theorem label_of_handler (h : label l b = .ok () b') (hl : l ∈ b.handlers) :
    b' = (b.arrive l).enterAt 1 := by
  obtain ⟨-, hp⟩ := label_eq_ok.1 h
  cases hp with
  | handler => rfl
  | adopts hh => exact absurd hl hh
  | agrees hh => exact absurd hl hh
  | guesses hh => exact absurd hl hh
  | guessed hh => exact absurd hl hh
  | expects hh => exact absurd hl hh

theorem depth_label_handler (h : label l b = .ok () b') (hl : l ∈ b.handlers) :
    b'.depth = 1 := by
  rw [label_of_handler h hl]
  rfl

end Builder

end BytecodeGuard
