import BytecodeGuard.Proofs.Guard.Exact
import BytecodeGuard.Proofs.Pipeline.Method

/-!
# The guard does not disturb tracking

**Theorem (`emission_transparent`).** Code that is not accepted without the guard stops the
pipeline with the same fault. Accepted code stops it only for an unchecked handler. Otherwise the
peak is that of the code, or two if that is less and there is a check. After any part of the code,
the builder under the guard tracks what a builder without it does.

So a method needs more stack than its source in one case only: it has a check, and its source
never has more than the exception on the stack. A handler puts it there, which is why the peak of
code with a check is at least one.
-/

namespace BytecodeGuard

/-- The builders agree in all that tracking looks at. -/
structure SameTracking (b b' : Builder) : Prop where
  depth : b.depth = b'.depth
  unreachable : b.unreachable = b'.unreachable
  depthUnknown : b.depthUnknown = b'.depthUnknown
  labelDepths : b.labelDepths = b'.labelDepths
  placed : b.placed = b'.placed
  handlers : b.handlers = b'.handlers

theorem sameTracking_overlay (b : Builder) (code : Array Instruction) (peak next : Nat) :
    SameTracking (b.overlay code peak next) b :=
  ⟨rfl, rfl, rfl, rfl, rfl, rfl⟩

theorem length_eq_of_codeAgrees {code code' : List Instruction} (h : codeAgrees code code') :
    code.length = code'.length := by
  unfold codeAgrees at h
  induction code generalizing code' with
  | nil =>
    cases code' with
    | nil => rfl
    | cons i code' => cases h
  | cons i code ih =>
    cases code' with
    | nil => cases h
    | cons i' code' =>
      rw [List.isEqv_cons_cons, Bool.and_eq_true] at h
      rw [List.length_cons, List.length_cons, ih h.2]

namespace CatchGuard

open Emission

variable {σ : Type} [Inhabited σ] {config : Config} {m : Member} {code : List Instruction}
  {c : Builder} {built : BuiltCode}

/-! ## The peak -/

theorem max_checkPeak (peak : Nat) (code : List Instruction) :
    max peak (checkPeak code) = if checkpoints code = [] then peak else max peak 2 := by
  unfold checkPeak
  split
  · exact Nat.max_zero peak
  · rfl

/-- Code with a check has a handler, which begins with the exception on the stack. -/
theorem one_le_maxDepth (h : Builder.replay code {} = .ok () c) (hn : checkpoints code ≠ []) :
    1 ≤ c.maxDepth := by
  obtain ⟨l, hl⟩ := List.exists_mem_of_ne_nil _ hn
  obtain ⟨pre, post, rfl, hd⟩ := mem_checkpoints.1 hl
  obtain ⟨b, hpre, h⟩ := Builder.replay_append_eq_ok.1 h
  obtain ⟨b', hi, hpost⟩ := Builder.replay_cons_eq_ok.1 h
  have hpeak : 1 ≤ b'.maxDepth := by
    rw [Builder.label_of_handler hi (hd.mem_handlers hpre)]
    exact Nat.le_max_right _ _
  exact Nat.le_trans hpeak (Builder.maxDepth_replay hpost)

/-- The second pass finds the peak of the source. -/
theorem sourcePeak_withChecks (h : Builder.replay code {} = .ok () c) :
    Pipeline.sourcePeak code ⟨withChecks config code, max c.maxDepth (checkPeak code)⟩ =
      .ok c.maxDepth := by
  have hpeak : peakDepth code = .ok c.maxDepth := peakDepth_eq_ok.2 ⟨c, h, rfl⟩
  unfold Pipeline.sourcePeak
  dsimp only
  split
  · rename_i ha
    have hlen := length_eq_of_codeAgrees ha
    rw [length_withChecks] at hlen
    have hn : checkpoints code = [] := List.eq_nil_of_length_eq_zero (by omega)
    rw [max_checkPeak, if_pos hn]
  · exact hpeak

/-! ## The guard and a builder without it -/

/-- **The guard does not disturb tracking.** -/
theorem emission_transparent (config : Config) (m : Member) (code : List Instruction) :
    (∀ fault, peakDepth code = .error fault →
      (EmissionRule.applyAll (Pipeline.ofConfig config : Pipeline σ).emitters config m
        code).result = .error fault) ∧
    (∀ peak, peakDepth code = .ok peak →
      (∃ l, Unchecked code l ∧
        (EmissionRule.applyAll (Pipeline.ofConfig config : Pipeline σ).emitters config m
          code).result = .error (.unresolvedHandler m.qualifiedName l)) ∨
      (EmissionRule.applyAll (Pipeline.ofConfig config : Pipeline σ).emitters config m
        code).result = .ok ⟨withChecks config code,
          if checkpoints code = [] then peak else max peak 2⟩) ∧
    (∀ pre b, pre <+: code → Builder.replay pre {} = .ok () b →
      ∃ e, processFrom (Pipeline.ofConfig config : Pipeline σ).emitters 0 pre
          (.start config m (labelBase code)) = .ok () e ∧ SameTracking e.builder b) ∧
    (∀ built, (EmissionRule.applyAll (Pipeline.ofConfig config : Pipeline σ).emitters config m
        code).result = .ok built →
      ∃ peak, peakDepth code = .ok peak ∧ Pipeline.sourcePeak code built = .ok peak) ∧
    ∀ a source t, ((Pipeline.ofConfig config : Pipeline σ).transformMethod a source).result =
        .ok t →
      ∃ peak, peakDepth source.code = .ok peak ∧
        t.extraStack = if checkpoints source.code ≠ [] ∧ peak = 1 then 1 else 0 := by
  refine ⟨fun fault h => ?_, fun peak h => ?_, fun pre b _ h => ?_, fun built h => ?_,
    fun a source t h => ?_⟩
  · obtain ⟨c, hc⟩ := peakDepth_eq_error.1 h
    exact applyAll_of_error config m hc
  · obtain ⟨c, hc, rfl⟩ := peakDepth_eq_ok.1 h
    by_cases hn : ∃ l, Unchecked code l
    · obtain ⟨l, hl, -, hf⟩ := applyAll_of_unchecked (σ := σ) config m hc hn
      exact .inl ⟨l, hl, hf⟩
    · rw [← max_checkPeak]
      exact .inr (applyAll_of_checked config m hc (not_exists.1 hn))
  · obtain ⟨e, he, hm⟩ := exists_mirrors (σ := σ) h config m (labelBase code)
    refine ⟨e, he, ?_⟩
    rw [hm.builder]
    exact sameTracking_overlay b _ _ _
  · obtain ⟨c, hc, -, rfl⟩ := applyAll_eq_ok.1 h
    exact ⟨c.maxDepth, peakDepth_eq_ok.2 ⟨c, hc, rfl⟩, sourcePeak_withChecks hc⟩
  · obtain ⟨built, peak, body, hb, hp, -, rfl⟩ := Pipeline.transformMethod_eq_ok.1 h
    obtain ⟨c, hc, -, rfl⟩ := applyAll_eq_ok.1 hb
    rw [sourcePeak_withChecks hc] at hp
    cases hp
    refine ⟨c.maxDepth, peakDepth_eq_ok.2 ⟨c, hc, rfl⟩, ?_⟩
    show max c.maxDepth (checkPeak source.code) - c.maxDepth = _
    rw [max_checkPeak]
    by_cases hn : checkpoints source.code = []
    · simp [hn]
    · have := one_le_maxDepth hc hn
      rw [if_neg hn]
      by_cases hone : c.maxDepth = 1
      · rw [if_pos ⟨hn, hone⟩, hone]
        rfl
      · rw [if_neg fun h => hone h.2, Nat.max_eq_left (by omega), Nat.sub_self]

/-- The shared handler makes the method need a second slot. -/
theorem emission_transparent_sharedHandler :
    (EmissionRule.applyAll (Pipeline.ofConfig {} : Pipeline Unit).emitters {} task
      [.exec .pop .empty]).result = .error (.stackUnderflow (-1) 1 0) ∧
    (EmissionRule.applyAll (Pipeline.ofConfig {} : Pipeline Unit).emitters {} task
      sharedHandler).result = .ok ⟨withChecks {} sharedHandler, 2⟩ ∧
    (∃ b e, Builder.replay (sharedHandler.take 8) {} = .ok () b ∧
      processFrom (Pipeline.ofConfig {} : Pipeline Unit).emitters 0 (sharedHandler.take 8)
        (.start {} task (labelBase sharedHandler)) = .ok () e ∧ SameTracking e.builder b) ∧
    Pipeline.sourcePeak sharedHandler ⟨withChecks {} sharedHandler, 2⟩ = .ok 1 ∧
    ∃ t, ((Pipeline.ofConfig {} : Pipeline Unit).transformMethod (.ofConfig {})
      ⟨task, sharedHandler⟩).result = .ok t ∧ t.extraStack = 1 := by
  obtain ⟨hfault, -⟩ := emission_transparent (σ := Unit) {} task [.exec .pop .empty]
  obtain ⟨-, hok, hprefix, hsecond, hmethod⟩ :=
    emission_transparent (σ := Unit) {} task sharedHandler
  have hpeak : peakDepth sharedHandler = .ok 1 := by decide +kernel
  have hresult : (EmissionRule.applyAll (Pipeline.ofConfig {} : Pipeline Unit).emitters {} task
      sharedHandler).result = .ok ⟨withChecks {} sharedHandler, 2⟩ := by
    have hhandler : ∀ i ∈ sharedHandler, i.handler? = none ∨ i.handler? = some ⟨2⟩ := by decide
    rcases hok 1 hpeak with ⟨l, ⟨⟨i, hi, hd⟩, hn⟩, -⟩ | h
    · rcases hhandler i hi with h | h <;> rw [hd.handler?] at h <;> cases h
      exact absurd (by decide) hn
    · exact h.trans (by decide)
  obtain ⟨b, hb⟩ := exists_of_run'_eq_some
    (show (Builder.replay (sharedHandler.take 8)).run' {} = some () by decide +kernel)
  obtain ⟨e, he, hsame⟩ := hprefix _ b (List.take_prefix 8 _) hb
  obtain ⟨peak, hp, hs⟩ := hsecond _ hresult
  obtain rfl : 1 = peak := Except.ok.inj (hpeak.symm.trans hp)
  have ht : ∃ t, ((Pipeline.ofConfig {} : Pipeline Unit).transformMethod (.ofConfig {})
      ⟨task, sharedHandler⟩).result = .ok t :=
    ⟨_, Pipeline.transformMethod_eq_ok.2
      ⟨⟨withChecks {} sharedHandler, 2⟩, 1, none, by decide +kernel, hs, by decide +kernel, rfl⟩⟩
  obtain ⟨t, ht⟩ := ht
  obtain ⟨peak, hp', hextra⟩ := hmethod _ _ t ht
  obtain rfl : 1 = peak := Except.ok.inj (hpeak.symm.trans hp')
  exact ⟨hfault _ (by decide +kernel), hresult, ⟨b, e, hb, he, hsame⟩, hs, t, ht,
    hextra.trans (by decide)⟩

end CatchGuard

end BytecodeGuard
