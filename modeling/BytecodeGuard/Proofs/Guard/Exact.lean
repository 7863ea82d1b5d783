import BytecodeGuard.Pipeline.Basic
import BytecodeGuard.Proofs.Guard.Pass
import Mathlib.Data.List.Nodup

/-!
# Guarded code is the code with its checks

**Theorem (`emission_exact`).** If the default pipeline produces code for a method, it is the code
of the method with a check after each label that begins a guarded handler, and nothing else. Every
handler of a guarded type is placed after its declaration and is checked exactly once. If the code
is accepted but some guarded handler is not placed after its declaration, the pipeline reports the
lowest such handler.

Both parts come from the end of the pass: without a fault nothing is pending, and what is pending
is what is unchecked.
-/

namespace BytecodeGuard

namespace CatchGuard

variable {σ : Type} [Inhabited σ] {config : Config} {m : Member} {code : List Instruction}
  {l : Label} {b : Builder} {built : BuiltCode}

/-- A result tells that the code is accepted and nothing is left unchecked. -/
theorem applyAll_eq_ok :
    (EmissionRule.applyAll [(emission : EmissionRule σ)] config m code).result = .ok built ↔
      ∃ c, Builder.replay code {} = .ok () c ∧ (∀ l, ¬ Unchecked code l) ∧
        built = ⟨withChecks config code, max c.maxDepth (checkPeak code)⟩ := by
  constructor
  · intro h
    cases hc : Builder.replay code {} with
    | error fault c =>
      rw [applyAll_of_error config m hc] at h
      cases h
    | ok _ c =>
      have hn : ∀ l, ¬ Unchecked code l := by
        intro l hl
        obtain ⟨l₀, -, -, hf⟩ := applyAll_of_unchecked (σ := σ) config m hc ⟨l, hl⟩
        rw [hf] at h
        cases h
      rw [applyAll_of_checked config m hc hn] at h
      exact ⟨c, rfl, hn, (Except.ok.inj h).symm⟩
  · rintro ⟨c, hc, hn, rfl⟩
    exact applyAll_of_checked config m hc hn

/-- A checked label of accepted code is placed once, and has one check. -/
theorem Checked.once (h : Checked code l) (hc : Builder.replay code {} = .ok () b) :
    ∃ pre post, code = pre ++ .label l :: post ∧ Declared pre l ∧ .label l ∉ pre ∧
      .label l ∉ post ∧ (checkpoints code).count l = 1 := by
  have hcount := List.count_eq_one_of_mem (nodup_checkpoints hc) (mem_checkpoints.2 h)
  obtain ⟨pre, post, rfl, hd⟩ := h
  obtain ⟨hpre, hpost⟩ := Builder.label_not_mem_of_replay hc
  exact ⟨pre, post, rfl, hd, hpre, hpost, hcount⟩

/-- **Guarded code is the code with its checks.** -/
theorem emission_exact (config : Config) (m : Member) (code : List Instruction) :
    (∀ built, (EmissionRule.applyAll (Pipeline.ofConfig config : Pipeline σ).emitters
        config m code).result = .ok built →
      built.code = withChecks config code ∧
      ∀ l, Declared code l → ∃ pre post, code = pre ++ .label l :: post ∧ Declared pre l ∧
        .label l ∉ pre ∧ .label l ∉ post ∧ (checkpoints code).count l = 1) ∧
    (∀ c, Builder.replay code {} = .ok () c → (∃ l, Unchecked code l) →
      ∃ l, Unchecked code l ∧ (∀ l', Unchecked code l' → l ≤ l') ∧
        (EmissionRule.applyAll (Pipeline.ofConfig config : Pipeline σ).emitters
          config m code).result = .error (.unresolvedHandler m.qualifiedName l)) := by
  refine ⟨fun built h => ?_, fun c hc hl => applyAll_of_unchecked config m hc hl⟩
  obtain ⟨c, hc, hn, rfl⟩ := applyAll_eq_ok.1 h
  refine ⟨rfl, fun l hd => ?_⟩
  have hl : Checked code l := by
    by_contra hl
    exact hn l ⟨hd, hl⟩
  exact hl.once hc

/-- A handler of two guarded types and of another one. -/
def sharedHandler : List Instruction :=
  [.region ⟨⟨0⟩, ⟨1⟩, ⟨2⟩, some "java/lang/Throwable"⟩,
   .region ⟨⟨0⟩, ⟨1⟩, ⟨2⟩, some "java/lang/RuntimeException"⟩,
   .region ⟨⟨0⟩, ⟨1⟩, ⟨2⟩, some "java/lang/Error"⟩,
   .label ⟨0⟩, .exec .nop .empty, .label ⟨1⟩, .exec .vreturn .empty,
   .label ⟨2⟩, .exec .athrow .empty]

/-- A handler that is declared too late, and another one that never begins. -/
def lateHandler : List Instruction :=
  [.region ⟨⟨0⟩, ⟨1⟩, ⟨5⟩, some "java/lang/Error"⟩, .label ⟨3⟩,
   .region ⟨⟨0⟩, ⟨1⟩, ⟨3⟩, some "java/lang/Throwable"⟩, .exec .vreturn .empty]

/-- A method without writers. -/
def task : Member := ⟨"sandbox/Task", "run", "()V", .static, []⟩

theorem emission_exact_sharedHandler :
    (∃ built, (EmissionRule.applyAll (Pipeline.ofConfig {} : Pipeline Unit).emitters {} task
        sharedHandler).result = .ok built ∧
      built.code = sharedHandler.take 8 ++ check {} ++ sharedHandler.drop 8 ∧
      (checkpoints sharedHandler).count ⟨2⟩ = 1) ∧
    ∃ l, Unchecked lateHandler l ∧ l ≤ ⟨3⟩ ∧
      (EmissionRule.applyAll (Pipeline.ofConfig {} : Pipeline Unit).emitters {} task
        lateHandler).result = .error (.unresolvedHandler "sandbox/Task.run()V" l) := by
  constructor
  · obtain ⟨hexact, -⟩ := emission_exact (σ := Unit) {} task sharedHandler
    have hresult : (EmissionRule.applyAll (Pipeline.ofConfig {} : Pipeline Unit).emitters {} task
        sharedHandler).result = .ok ⟨withChecks {} sharedHandler, 2⟩ := by decide +kernel
    obtain ⟨hcode, hlabels⟩ := hexact _ hresult
    obtain ⟨-, -, -, -, -, -, hcount⟩ := hlabels ⟨2⟩ (by decide)
    exact ⟨_, hresult, hcode.trans (by decide), hcount⟩
  · obtain ⟨-, hlate⟩ := emission_exact (σ := Unit) {} task lateHandler
    obtain ⟨c, hc⟩ := exists_of_run'_eq_some
      (show (Builder.replay lateHandler).run' {} = some () by decide +kernel)
    obtain ⟨l, hl, hlow, hresult⟩ := hlate c hc ⟨⟨5⟩, by decide⟩
    exact ⟨l, hl, hlow ⟨3⟩ (by decide), hresult⟩

end CatchGuard

end BytecodeGuard
