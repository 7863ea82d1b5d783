import BytecodeGuard.Proofs.Depth.Machine
import BytecodeGuard.Proofs.Depth.Peak

/-!
# The tracked depth is the depth of execution

**Theorem (`tracking_sound`).** Let code without subroutines be accepted, with every handler
declared before it is placed or jumped to, with known depths throughout, and with no handler that
code runs into at a depth other than one (`OnePass`). Then every execution has, wherever it
arrives and by whatever way, the depth that the builder had there. No instruction takes more
slots than there are, and no depth exceeds the peak.

The invariant of an execution (`Tracks`) is that the builder at its position is reachable and has
its depth. Markers and instructions that go on keep it because the builder goes the same way. A
jump needs more: the builder at the target was there at another time (`depth_after_target`). If
the target comes later, it is placed with the depth that the jump has left there; if it came
earlier, it has left its depth for the jump to compare with. In between nothing changes what is
expected of the target, because handlers are declared before.
-/

namespace BytecodeGuard

open StackMachine

namespace Builder

variable {b b' c : Builder} {code : List Instruction} {l : Label} {d : Int} {p q : Nat}
  {op : Opcode} {operand : Operand} {effect : StackEffect}

/-- What a single pass over the code can track. -/
structure OnePass (code : List Instruction) : Prop where
  /-- There are no subroutines. -/
  noSubroutine : ∀ operand, .exec .jsr operand ∉ code
  /-- Handlers are declared before they are placed. -/
  declaredBeforePlaced : ∀ (p q : Nat) (r : HandlerRegion), code[p]? = some (.region r) →
    code[q]? = some (.label r.handler) → p < q
  /-- Handlers are declared before they are jumped to. -/
  declaredBeforeJump : ∀ (p q : Nat) (r : HandlerRegion) (op : Opcode) (operand : Operand),
    code[p]? = some (.region r) → code[q]? = some (.exec op operand) →
    r.handler ∈ operand.targets → p < q
  /-- The depth is known everywhere. -/
  known : ∀ p b, Before code p b → b.depthUnknown = false
  /-- Code that runs into a handler has exactly the exception on the stack. -/
  handlerEntry : ∀ (q : Nat) (r : HandlerRegion) (b : Builder), .region r ∈ code →
    code[q]? = some (.label r.handler) → Before code q b → b.unreachable = false → b.depth = 1

/-! ## After a label -/

/-- A label of known depth expects the depth that the code after it begins with. -/
theorem expected?_label (h : label l b = .ok () b') (hh : b.HandlersExpectOne)
    (hk : b'.depthUnknown = false) : b'.expected? l = some b'.depth := by
  obtain ⟨-, hp⟩ := label_eq_ok.1 h
  cases hp with
  | handler hl => exact hh l hl
  | adopts _ _ he => exact he
  | agrees _ _ he => exact he
  | guesses => cases hk
  | guessed _ _ hu => rw [show (b.arrive l).depthUnknown = true from hu] at hk; cases hk
  | expects => exact expected?_expect_self

/-- The code after a label begins with the depth that was expected there. -/
theorem depth_label (h : label l b = .ok () b') (hh : b.HandlersExpectOne)
    (hd : b.expected? l = some d) : b'.depth = d := by
  obtain ⟨-, hp⟩ := label_eq_ok.1 h
  cases hp with
  | handler hl => exact Option.some.inj ((hh l hl).symm.trans hd)
  | adopts _ _ he => exact Option.some.inj (he.symm.trans hd)
  | agrees _ _ he => exact Option.some.inj (he.symm.trans hd)
  | guesses _ _ he => rw [he] at hd; cases hd
  | guessed _ _ _ he => rw [he] at hd; cases hd
  | expects _ _ he => rw [he] at hd; cases hd

/-! ## After a jump -/

/-- **All jumps agree with the label.** A jump from reachable code arrives with the depth that
the code after the label begins with, whichever comes first. -/
theorem depth_after_target (hone : OnePass code) (hc : replay code {} = .ok () c)
    (hi : code[p]? = some (.exec op operand)) (hl : l ∈ operand.targets)
    (he : stackEffect op operand = .ok effect) (hq : code[q]? = some (.label l))
    (hb : Before code p b) (hr : b.unreachable = false) (hb' : Before code (q + 1) b') :
    b'.depth = b.depth - effect.pops := by
  have ht : b.tracked = true := tracked_iff.2 ⟨hr, hone.known p b hb⟩
  have hjsr : op ≠ .jsr := by
    rintro rfl
    exact hone.noSubroutine operand (List.mem_of_getElem? hi)
  have hextra : jumpExtra op = 0 := by
    by_contra hx
    exact hjsr (eq_jsr_of_jumpExtra hx)
  obtain ⟨b₁, hb₁⟩ := exists_before hc (p + 1)
  obtain ⟨bq, hbq⟩ := exists_before hc q
  obtain ⟨effect', hx⟩ := executes_of_emit (hb.instruction hb₁ hi)
  obtain rfl : effect = effect' := Except.ok.inj (he.symm.trans hx.effect_eq)
  have hjump : b₁.expected? l = some (b.depth - effect.pops) := by
    rw [hx.target ht l hl, hextra]
    simp
  have hplace : label l bq = .ok () b' := hbq.instruction hb' hq
  rcases Nat.lt_trichotomy p q with hpq | rfl | hpq
  · -- The label comes later and takes the depth of the jump.
    refine depth_label hplace hbq.handlersExpectOne (hb₁.expected hbq hpq ?_ hjump)
    rintro k r hk - hkr rfl
    exact absurd (hone.declaredBeforeJump k p r op operand hkr hi hl) (by omega)
  · rw [hi] at hq
    cases hq
  · -- The label came earlier, and the jump was compared with its depth.
    have hlabel := expected?_label hplace hbq.handlersExpectOne (hone.known (q + 1) b' hb')
    have hkeep : b.expected? l = some b'.depth := by
      refine hb'.expected hb hpq ?_ hlabel
      rintro k r hk - hkr rfl
      exact absurd (hone.declaredBeforePlaced k q r hkr hq) (by omega)
    exact Option.some.inj ((hx.expected hkeep).symm.trans hjump)

/-- Handlers begin with the exception. -/
theorem depth_after_handler (hone : OnePass code) (hc : replay code {} = .ok () c)
    {r : HandlerRegion} (hr : .region r ∈ code) (hq : code[q]? = some (.label r.handler))
    (hb' : Before code (q + 1) b') : b'.depth = 1 := by
  obtain ⟨b, hb⟩ := exists_before hc q
  refine depth_label_handler (hb.instruction hb' hq) ((mem_handlers_replay hb).2 ?_)
  obtain ⟨k, hk⟩ := List.mem_iff_getElem?.1 hr
  have hkq := hone.declaredBeforePlaced k q r hk hq
  refine ⟨.region r, List.mem_of_getElem? (i := k) ?_, rfl⟩
  rw [List.getElem?_take_of_lt hkq, hk]

/-! ## Executions -/

/-- The builder at the position of an execution is reachable and has its depth. -/
def Tracks (code : List Instruction) (s : State) : Prop :=
  ∃ b, Before code s.position b ∧ b.unreachable = false ∧ b.depth = s.depth

/-- Code that runs into a label keeps its depth, if it has the right one for a handler. -/
theorem depth_label_of_tracked (h : label l b = .ok () b') (ht : b.tracked = true)
    (hh : l ∈ b.handlers → b.depth = 1) : b'.depth = b.depth := by
  obtain ⟨hu, hk⟩ := tracked_iff.1 ht
  obtain ⟨-, hp⟩ := label_eq_ok.1 h
  cases hp with
  | handler hl => exact (hh hl).symm
  | adopts _ hn => rw [ht] at hn; cases hn
  | agrees => rfl
  | guesses _ hn => rw [hu] at hn; cases hn
  | guessed => rfl
  | expects => rfl

theorem tracks_marker (hone : OnePass code) (hc : replay code {} = .ok () c) {i : Instruction}
    (hi : code[p]? = some i) (hm : i.isMarker = true) (hs : Tracks code ⟨p, d⟩) :
    Tracks code ⟨p + 1, d⟩ := by
  obtain ⟨b, hb, hr, hd⟩ := hs
  obtain ⟨b', hb'⟩ := exists_before hc (p + 1)
  have h := hb.instruction hb' hi
  refine ⟨b', hb', ?_⟩
  cases i with
  | exec op operand => cases hm
  | label l =>
    refine ⟨unreachable_label h, ?_⟩
    have ht : b.tracked = true := tracked_iff.2 ⟨hr, hone.known p b hb⟩
    rw [depth_label_of_tracked h ht fun hl => ?_]
    · exact hd
    · obtain ⟨j, hj, hh⟩ := (mem_handlers_replay hb).1 hl
      cases j with
      | region r =>
        cases hh
        exact hone.handlerEntry p r b ((List.take_subset p code) hj) hi hb hr
      | _ => cases hh
  | line number start =>
    cases h
    exact ⟨hr, hd⟩
  | region r =>
    cases h
    exact ⟨hr, hd⟩

theorem tracks_next (hc : replay code {} = .ok () c) (hone : OnePass code)
    (hi : code[p]? = some (.exec op operand)) (he : stackEffect op operand = .ok effect)
    (hs : Tracks code ⟨p, d⟩) : ∃ b', Before code (p + 1) b' ∧ b'.unreachable = op.endsFlow ∧
      effect.pops ≤ d ∧ b'.depth = d - effect.pops + effect.pushes := by
  obtain ⟨b, hb, hr, hd⟩ := hs
  obtain ⟨b', hb'⟩ := exists_before hc (p + 1)
  obtain ⟨effect', hx⟩ := executes_of_emit (hb.instruction hb' hi)
  obtain rfl : effect = effect' := Except.ok.inj (he.symm.trans hx.effect_eq)
  have hpops := hx.pops_le (tracked_iff.2 ⟨hr, hone.known p b hb⟩)
  have hd : b.depth = d := hd
  refine ⟨b', hb', ?_, by omega, ?_⟩
  · rw [hx.eq]
    show (b.unreachable || op.endsFlow) = op.endsFlow
    rw [hr, Bool.false_or]
  · have hdepth : b'.depth = max (b.depth - effect.pops) 0 + effect.pushes := by rw [hx.eq]
    omega

theorem tracks_step (hone : OnePass code) (hc : replay code {} = .ok () c) {s s' : State}
    (h : Step code s s') (hs : Tracks code s) : Tracks code s' := by
  cases h with
  | marker hi hm => exact tracks_marker hone hc hi hm hs
  | next hi he hf =>
    obtain ⟨b', hb', hu, -, hd⟩ := tracks_next hc hone hi he hs
    exact ⟨b', hb', hu.trans hf, hd⟩
  | @jump p q d op operand effect l hi he hl hq =>
    obtain ⟨b, hb, hr, hd⟩ := hs
    obtain ⟨b', hb'⟩ := exists_before hc (q + 1)
    obtain ⟨bq, hbq⟩ := exists_before hc q
    refine ⟨b', hb', unreachable_label (hbq.instruction hb' hq), ?_⟩
    rw [depth_after_target hone hc hi hl he hq hb hr hb', hd]
  | @caught s q r hr hq =>
    obtain ⟨b', hb'⟩ := exists_before hc (q + 1)
    obtain ⟨bq, hbq⟩ := exists_before hc q
    exact ⟨b', hb', unreachable_label (hbq.instruction hb' hq),
      depth_after_handler hone hc hr hq hb'⟩

theorem tracks_reaches (hone : OnePass code) (hc : replay code {} = .ok () c) {s : State}
    (h : Reaches code s) : Tracks code s := by
  induction h with
  | refl => exact ⟨{}, rfl, rfl, rfl⟩
  | tail _ hstep ih => exact tracks_step hone hc hstep ih

/-- **Soundness of stack tracking.** Wherever an execution arrives, it has the depth that the
builder had there, so it arrives there with the same depth by every way. The depth is within the
peak, and every instruction finds the slots that it takes and leaves a depth within the peak. -/
theorem tracking_sound (hc : replay code {} = .ok () c) (hone : OnePass code) {s : State}
    (h : Reaches code s) :
    (∃ b, Before code s.position b ∧ b.unreachable = false ∧ b.depth = s.depth) ∧
    (∀ s', Reaches code s' → s'.position = s.position → s'.depth = s.depth) ∧
    0 ≤ s.depth ∧ s.depth ≤ c.maxDepth ∧
    ∀ op operand, code[s.position]? = some (.exec op operand) →
      ∃ effect, stackEffect op operand = .ok effect ∧ effect.pops ≤ s.depth ∧
        s.depth - effect.pops + effect.pushes ≤ c.maxDepth := by
  -- At every position the depth is within the final peak.
  have hpeak : ∀ q b, Before code q b → b.depth ≤ c.maxDepth := by
    intro q b hb
    obtain ⟨b', post, -, hb', hpost⟩ := replay_of_prefix hc (List.take_prefix q code)
    obtain rfl := Before.unique hb hb'
    have hd := depth_le_maxDepth hb fun operand ho =>
      hone.noSubroutine operand (List.take_subset q code ho)
    have hm := maxDepth_replay hpost
    omega
  have hs := tracks_reaches hone hc h
  obtain ⟨b, hb, hr, hd⟩ := hs
  refine ⟨⟨b, hb, hr, hd⟩, fun s' h' hp => ?_, ?_, ?_, fun op operand hi => ?_⟩
  · obtain ⟨b', hb', -, hd'⟩ := tracks_reaches hone hc h'
    rw [hp] at hb'
    rw [← hd', ← hd, Before.unique hb hb']
  · rw [← hd]
    exact (nonneg_replay hb).1
  · rw [← hd]
    exact hpeak _ b hb
  · obtain ⟨b', hb'⟩ := exists_before hc (s.position + 1)
    obtain ⟨effect, hx⟩ := executes_of_emit (hb.instruction hb' hi)
    obtain ⟨b₁, hb₁, -, hpops, hd₁⟩ := tracks_next hc hone hi hx.effect_eq ⟨b, hb, hr, hd⟩
    refine ⟨effect, hx.effect_eq, hpops, ?_⟩
    rw [← hd₁]
    exact hpeak _ b₁ hb₁

/-- A loop whose exceptions are thrown again. -/
def guardedLoop : List Instruction :=
  [.region ⟨⟨0⟩, ⟨1⟩, ⟨1⟩, none⟩, .label ⟨0⟩, .exec .iconst0 .empty, .exec .ifne (.target ⟨0⟩),
   .exec .vreturn .empty, .label ⟨1⟩, .exec .athrow .empty]

theorem onePass_guardedLoop : OnePass guardedLoop := by
  have hregion : ∀ (p : Nat) (r : HandlerRegion), guardedLoop[p]? = some (.region r) →
      p = 0 ∧ r.handler = ⟨1⟩ := by
    intro p r hp
    rcases p with _ | _ | _ | _ | _ | _ | _ | p <;> simp [guardedLoop] at hp ⊢
    rw [← hp]
  have hplaced : ∀ q : Nat, guardedLoop[q]? = some (.label ⟨1⟩) → q = 5 := by
    intro q hq
    rcases q with _ | _ | _ | _ | _ | _ | _ | q <;> simp [guardedLoop] at hq ⊢
  refine ⟨by simp [guardedLoop], ?_, ?_, ?_, ?_⟩
  · intro p q r hp hq
    obtain ⟨rfl, hr⟩ := hregion p r hp
    rw [hr] at hq
    have := hplaced q hq
    omega
  · intro p q r op operand hp hq _
    obtain ⟨rfl, -⟩ := hregion p r hp
    rcases q with _ | q
    · simp [guardedLoop] at hq
    · exact Nat.succ_pos q
  · intro p b hb
    have hknown : ∀ p ≤ guardedLoop.length,
        (before? guardedLoop p).all (!·.depthUnknown) = true := by decide +kernel
    have hp : Before guardedLoop (min p guardedLoop.length) b := by
      unfold Before at hb ⊢
      rwa [← List.take_eq_take_min]
    have h := hknown _ (Nat.min_le_right p guardedLoop.length)
    rw [hp.before?] at h
    simpa using h
  · intro q r b hr hq hb hu
    obtain ⟨p, hp⟩ := List.mem_iff_getElem?.1 hr
    rw [(hregion p r hp).2] at hq
    obtain rfl := hplaced q hq
    have hdead : (before? guardedLoop 5).all (·.unreachable) = true := by decide +kernel
    rw [hb.before?] at hdead
    exact absurd (hu.symm.trans hdead) Bool.false_ne_true

/-- The loop is entered a second time, and then an exception is caught. -/
theorem tracking_sound_guardedLoop :
    ∃ c, replay guardedLoop {} = .ok () c ∧ OnePass guardedLoop ∧
      Reaches guardedLoop ⟨6, 1⟩ ∧
      (∃ b, Before guardedLoop 6 b ∧ b.unreachable = false ∧ b.depth = 1) ∧
      (∀ s, Reaches guardedLoop s → s.position = 6 → s.depth = 1) ∧ 1 ≤ c.maxDepth ∧
      ∃ effect, stackEffect .athrow .empty = .ok effect ∧ (effect.pops : Int) ≤ 1 := by
  obtain ⟨c, hc⟩ := exists_of_run'_eq_some
    (show (replay guardedLoop).run' {} = some () by decide +kernel)
  have hreach : Reaches guardedLoop ⟨6, 1⟩ := by
    refine .tail (b := ⟨3, 1⟩) ?_ (.caught (r := ⟨⟨0⟩, ⟨1⟩, ⟨1⟩, none⟩) (by simp [guardedLoop]) rfl)
    have hstart : Reaches guardedLoop ⟨2, 0⟩ := by
      refine .tail (b := ⟨1, 0⟩) ?_ (.marker (i := .label ⟨0⟩) rfl rfl)
      exact .single (.marker rfl rfl)
    have hpush : Step guardedLoop ⟨2, 0⟩ ⟨3, 1⟩ :=
      .next rfl (show stackEffect .iconst0 .empty = .ok ⟨0, 1⟩ from rfl) rfl
    have hback : Step guardedLoop ⟨3, 1⟩ ⟨2, 0⟩ :=
      .jump rfl (show stackEffect .ifne (.target ⟨0⟩) = .ok ⟨1, 0⟩ from rfl)
        (List.mem_singleton_self _) rfl
    exact ((hstart.tail hpush).tail hback).tail hpush
  obtain ⟨hb, hsame, -, hpeak, hexec⟩ := tracking_sound hc onePass_guardedLoop hreach
  obtain ⟨effect, he, hpops, -⟩ := hexec .athrow .empty rfl
  have hpeak : (1 : Int) ≤ c.maxDepth := hpeak
  exact ⟨c, hc, onePass_guardedLoop, hreach, hb, hsame, by omega, effect, he, hpops⟩

end Builder

end BytecodeGuard
