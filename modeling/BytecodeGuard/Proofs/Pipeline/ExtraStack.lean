import BytecodeGuard.Proofs.Emission.Transcript
import BytecodeGuard.Proofs.Pipeline.Isolation

/-!
# How much more stack a method needs

The extra stack of a method compares the peak of its new code with the peak of its source. The
source is built a second time for this, unless the new code agrees with it: then the new peak is
taken for that of the source, and no extra stack is reported.

**Theorem (`extraStack_exact_iff`).** If the source alone has a peak, the extra stack of a
transformed method is the difference of the two peaks, or zero if the new code agrees with the
source. So it is always the difference, except where the new code agrees with the source and has a
higher peak.

A rule can bring this about: it resets the depth and appends nothing (`deepened_unnoticed`). The
same rule with one more instruction is noticed. Rules of which every call succeeds and none
overrides tracking cannot, because then the peak can be read off the code
(`peakDepth_of_applyAll`).
-/

namespace BytecodeGuard

namespace Emission

variable {σ : Type} [Inhabited σ] {rules : List (EmissionRule σ)} {config : Config} {m : Member}
  {code : List Instruction} {built : BuiltCode}

theorem exists_of_applyAll (h : (EmissionRule.applyAll rules config m code).result = .ok built) :
    ∃ e, processAll rules code (start config m (labelBase code)) = .ok () e ∧
      built = e.builder.finish := by
  unfold EmissionRule.applyAll at h
  cases hall : processAll rules code (start config m (labelBase code)) with
  | ok _ e =>
    rw [hall] at h
    exact ⟨e, rfl, (Except.ok.inj h).symm⟩
  | error fault e =>
    rw [hall] at h
    cases h

/-- The call succeeds and does not override tracking. -/
def Plain (call : Call) : Prop := Succeeds call ∧ call.step.overrides = false

/-- If all calls are plain, the new code has its peak also when it is built alone. -/
theorem peakDepth_of_applyAll
    (h : (EmissionRule.applyAll rules config m code).result = .ok built)
    (hplain : ∀ call ∈ transcript rules config m code, Plain call) :
    peakDepth built.code = .ok built.maxStack := by
  obtain ⟨e, hall, rfl⟩ := exists_of_applyAll h
  have hanswered := answered_transcript rules config m code
  rw [finalState_of_ok hall] at hanswered
  have hcalls := calls_of_answered hanswered fun call hcall => (hplain call hcall).1
  have hkeeps : ∀ s ∈ (transcript rules config m code).map Call.step, s.overrides = false := by
    intro s hs
    obtain ⟨call, hcall, rfl⟩ := List.mem_map.1 hs
    exact (hplain call hcall).2
  obtain ⟨-, hreplay⟩ := Builder.replay_code_calls hkeeps hcalls
  exact peakDepth_eq_ok.2 ⟨_, hreplay, rfl⟩

end Emission

namespace Pipeline

open Emission

variable {σ : Type} [Inhabited σ] {p : Pipeline σ} {a : Analysis} {source : MethodSource}
  {t : TransformedMethod} {peak : Nat}

theorem peakDepth_of_transformMethod (h : (p.transformMethod a source).result = .ok t)
    (hplain : ∀ call ∈ transcript p.emitters a.config (p.defined a source) source.code,
      Plain call) : peakDepth t.code = .ok t.maxStack := by
  obtain ⟨built, -, body, hb, -, -, rfl⟩ := transformMethod_eq_ok.1 h
  exact peakDepth_of_applyAll hb hplain

theorem extraStack_eq (hpeak : peakDepth source.code = .ok peak)
    (h : (p.transformMethod a source).result = .ok t) :
    t.extraStack = if codeAgrees t.code source.code then 0 else t.maxStack - peak := by
  obtain ⟨built, peak', body, -, hp, -, rfl⟩ := transformMethod_eq_ok.1 h
  show built.maxStack - peak' =
    if codeAgrees built.code source.code then 0 else built.maxStack - peak
  unfold sourcePeak at hp
  split_ifs at hp ⊢ with hagrees
  · cases hp
    exact Nat.sub_self _
  · rw [hpeak] at hp
    cases hp
    rfl

/-- **The extra stack.** It is the difference of the peaks, or zero if the new code agrees with the
source. The difference is reported if and only if the new code does not agree with the source or
does not have a higher peak; and it is reported if every call to the builder of the method succeeds
and none overrides tracking. -/
theorem extraStack_exact_iff (hpeak : peakDepth source.code = .ok peak)
    (h : (p.transformMethod a source).result = .ok t) :
    t.extraStack = (if codeAgrees t.code source.code then 0 else t.maxStack - peak) ∧
    (t.extraStack = t.maxStack - peak ↔
      codeAgrees t.code source.code = false ∨ t.maxStack ≤ peak) ∧
    ((∀ call ∈ transcript p.emitters a.config (p.defined a source) source.code, Plain call) →
      t.extraStack = t.maxStack - peak) := by
  have heq := extraStack_eq hpeak h
  refine ⟨heq, ?_, fun hplain => ?_⟩
  · rw [heq]
    cases codeAgrees t.code source.code with
    | true =>
      simp only [if_true, Bool.true_eq_false, false_or]
      omega
    | false => simp
  · rw [heq]
    cases hagrees : codeAgrees t.code source.code with
    | true =>
      have hsource := Builder.peakDepth_of_agrees hagrees (peakDepth_of_transformMethod h hplain)
      rw [hpeak] at hsource
      cases hsource
      exact (Nat.sub_self _).symm
    | false => rfl

/-- Goes on at depth five before it returns. -/
def deepening : EmissionRule Unit where
  name := "Deepening"
  emit i := if i = .exec .vreturn .empty then discard (Action.build (.resetDepth 5)) else .done ()

/-- Writes an instruction that does nothing before it returns. -/
def pausing : EmissionRule Unit where
  name := "Pausing"
  emit i := if i = .exec .vreturn .empty then discard (Action.build (.plain .nop)) else .done ()

/-- A method that needs one slot. -/
def shallowMethod : MethodSource :=
  ⟨CatchGuard.task, [.exec .iconst0 .empty, .exec .pop .empty, .exec .vreturn .empty]⟩

/-- With an instruction more the reset is noticed. Without the reset every call is plain. -/
theorem extraStack_exact_iff_pausing :
    let a := Analysis.ofConfig {}
    let p : Pipeline Unit := { config := {}, emitters := [pausing, deepening] }
    let q : Pipeline Unit := { config := {}, emitters := [pausing] }
    peakDepth shallowMethod.code = .ok 1 ∧
    (∃ t, (p.transformMethod a shallowMethod).result = .ok t ∧
      codeAgrees t.code shallowMethod.code = false ∧ t.extraStack = t.maxStack - 1 ∧
      t.maxStack = 5) ∧
    ∃ t, (q.transformMethod a shallowMethod).result = .ok t ∧
      (∀ call ∈ transcript q.emitters a.config (q.defined a shallowMethod) shallowMethod.code,
        Plain call) ∧
      t.extraStack = t.maxStack - 1 ∧ t.maxStack = 1 := by
  intro a p q
  let paused : List Instruction :=
    [.exec .iconst0 .empty, .exec .pop .empty, .exec .nop .empty, .exec .vreturn .empty]
  have hpeak : peakDepth shallowMethod.code = .ok 1 := by decide +kernel
  have hdeep : ∃ t, (p.transformMethod a shallowMethod).result = .ok t ∧ t.code = paused ∧
      t.maxStack = 5 :=
    ⟨_, transformMethod_eq_ok.2 ⟨⟨paused, 5⟩, 1, none, by decide +kernel, by decide +kernel,
      by decide +kernel, rfl⟩, rfl, rfl⟩
  have hplain : ∃ t, (q.transformMethod a shallowMethod).result = .ok t ∧ t.maxStack = 1 :=
    ⟨_, transformMethod_eq_ok.2 ⟨⟨paused, 1⟩, 1, none, by decide +kernel, by decide +kernel,
      by decide +kernel, rfl⟩, rfl⟩
  obtain ⟨t, ht, hcode, hmax⟩ := hdeep
  obtain ⟨t', ht', hmax'⟩ := hplain
  obtain ⟨-, hreported, -⟩ := extraStack_exact_iff hpeak ht
  obtain ⟨-, -, hcalls⟩ := extraStack_exact_iff hpeak ht'
  have hdiffers : codeAgrees t.code shallowMethod.code = false := by
    rw [hcode]
    decide
  have hall : ∀ call ∈ transcript q.emitters a.config (q.defined a shallowMethod)
      shallowMethod.code, call.reply.isOk = true ∧ call.step.overrides = false := by
    decide +kernel
  have hall' : ∀ call ∈ transcript q.emitters a.config (q.defined a shallowMethod)
      shallowMethod.code, Plain call := fun call hcall =>
    ⟨exists_of_isOk (hall call hcall).1, (hall call hcall).2⟩
  exact ⟨hpeak, ⟨t, ht, hdiffers, hreported.2 (.inl hdiffers), hmax⟩,
    t', ht', hall', hcalls hall', hmax'⟩

/-- The new code is the source, and its peak is four slots higher. -/
theorem deepened_unnoticed :
    let p : Pipeline Unit := { config := {}, emitters := [deepening] }
    peakDepth shallowMethod.code = .ok 1 ∧
    ∃ t, (p.transformMethod (.ofConfig {}) shallowMethod).result = .ok t ∧
      t.code = shallowMethod.code ∧ t.maxStack = 5 ∧ t.extraStack = 0 ∧
      t.extraStack ≠ t.maxStack - 1 := by
  intro p
  refine ⟨by decide +kernel, _, transformMethod_eq_ok.2 ⟨⟨shallowMethod.code, 5⟩, 5, none,
    by decide +kernel, by decide +kernel, by decide +kernel, rfl⟩, rfl, rfl, rfl, by decide⟩

end Pipeline

end BytecodeGuard
