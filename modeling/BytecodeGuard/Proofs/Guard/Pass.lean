import BytecodeGuard.Proofs.Guard.Visit

/-!
# The guard in one pass

The guard goes over the code once. `Mirrors` says what the emission looks like after a part of
it, by comparison with a builder that takes that part without the guard: the emission holds the
code with its checks, its builder agrees with the other in all that tracking looks at, the
registry holds exactly the unchecked labels as pending and the checked ones as guarded, and there
is a message for each check.

**Theorem (`agree_process`).** An instruction keeps this, or stops both sides with the same
fault.

The end of the method asks for the lowest pending label, which gives the three ways in which the
guard can end: `applyAll_of_error`, `applyAll_of_unchecked` and `applyAll_of_checked`.
-/

namespace BytecodeGuard

namespace CatchGuard

open Emission

variable {σ : Type} {i : Instruction} {k base : Nat} {e e' : Emission σ} {c c' : Builder}
  {l l' : Label} {code pre : List Instruction} {config : Config} {m : Member} {fault : Fault}

/-! ## The invariant -/

/-- The emission and a builder without the guard, after the same code. -/
structure Mirrors (config : Config) (m : Member) (base : Nat) (code : List Instruction)
    (c : Builder) (e : Emission σ) : Prop where
  accepted : Builder.replay code {} = .ok () c
  site_config : e.site.config = config
  site_member : e.site.member = m
  builder : e.builder = c.overlay (withChecks config code).toArray (checkPeak code) base
  pending : ∀ l, l ∈ e.registry.pending ↔ Unchecked code l
  guarded : ∀ l, l ∈ e.registry.guarded ↔ Checked code l
  kept : e.dropped = false
  messages : e.notes.messages = checkMessages m code

/-- The builder that has taken the next instruction, but no check. -/
def taken (config : Config) (base : Nat) (code : List Instruction) (i : Instruction)
    (c' : Builder) : Builder :=
  c'.overlay ((withChecks config code).toArray.push i) (checkPeak code) base

theorem Mirrors.instruction_of_ok (h : Mirrors config m base code c e)
    (hi : Builder.instruction i c = .ok () c') :
    Builder.instruction i e.builder = .ok () (taken config base code i c') := by
  rw [h.builder, Builder.instruction_overlay, hi]
  rfl

theorem Mirrors.instruction_of_error (h : Mirrors config m base code c e)
    (hi : Builder.instruction i c = .error fault c') :
    ∃ b, Builder.instruction i e.builder = .error fault b := by
  rw [h.builder, Builder.instruction_overlay, hi]
  exact ⟨_, rfl⟩

/-- An instruction at which no check is inserted. -/
theorem Mirrors.snoc (h : Mirrors config m base code c e)
    (hi : Builder.instruction i c = .ok () c') (hn : checkpoint? code i = none)
    (hc : e'.site.config = e.site.config) (hm : e'.site.member = e.site.member)
    (hb : e'.builder = taken config base code i c')
    (hp : ∀ l, l ∈ e'.registry.pending ↔
      l ∈ e.registry.pending ∨ Declares l i ∧ l ∉ e.registry.guarded)
    (hg : e'.registry.guarded = e.registry.guarded) (hd : e'.dropped = false)
    (hnotes : e'.notes = e.notes) : Mirrors config m base (code ++ [i]) c' e' where
  accepted := Builder.replay_snoc h.accepted hi
  site_config := hc.trans h.site_config
  site_member := hm.trans h.site_member
  builder := by
    rw [hb, taken, withChecks_snoc_of_none hn, checkPeak_snoc_of_none hn, List.push_toArray]
  pending l := by
    rw [hp, unchecked_snoc_of_none hn, h.pending, h.guarded]
  guarded l := by
    rw [hg, checked_snoc_of_none hn, h.guarded]
  kept := hd
  messages := by rw [hnotes, checkMessages_snoc_of_none hn, h.messages]

theorem not_declares_of_none (hg : guardedHandler? i = none) (l : Label) : ¬ Declares l i := by
  intro hl
  obtain ⟨caught, hl⟩ := declares_iff.1 hl
  rw [hg] at hl
  cases hl

/-! ## One instruction -/

theorem agree_exec {op : Opcode} {operand : Operand} (h : Mirrors config m base code c e) :
    Agree (Mirrors config m base (code ++ [.exec op operand]))
      (Builder.instruction (.exec op operand) c)
      (process [emission] (.exec op operand) k e) := by
  have hrules : [emission].forM (EmissionRule.emitAt k (.exec op operand)) e =
      .ok () (visit k e) := forM_singleton_eq_ok.2 (emitAt_idle rfl rfl)
  cases hi : Builder.instruction (.exec op operand) c with
  | ok _ c' =>
    rw [process_exec rfl hrules h.kept (h.instruction_of_ok hi)]
    refine .ok (h.snoc hi rfl rfl rfl rfl (fun l => ?_) rfl h.kept rfl)
    simp [visit, withBuilder, Declares]
  | error fault c' =>
    obtain ⟨b, hb⟩ := h.instruction_of_error hi
    rw [process_exec_of_error rfl hrules h.kept hb]
    exact .error

/-- Once the builder has taken a marker, the guard restores the invariant. -/
def Restores (config : Config) (m : Member) (base : Nat) (code : List Instruction)
    (i : Instruction) (c' : Builder) (k : Nat) (e : Emission σ) : Prop :=
  ∃ e', EmissionRule.emitAt k i emission (e.withBuilder (taken config base code i c')) =
      .ok () e' ∧
    Mirrors config m base (code ++ [i]) c' { e' with dropped := false }

theorem agree_marker (hm : i.isMarker = true) (h : Mirrors config m base code c e)
    (hr : ∀ c', Builder.instruction i c = .ok () c' → Restores config m base code i c' k e) :
    Agree (Mirrors config m base (code ++ [i])) (Builder.instruction i c)
      (process [emission] i k e) := by
  cases hi : Builder.instruction i c with
  | ok _ c' =>
    obtain ⟨e', he, h'⟩ := hr c' hi
    rw [process_marker hm (h.instruction_of_ok hi) (forM_singleton_eq_ok.2 he)]
    exact .ok h'
  | error fault c' =>
    obtain ⟨b, hb⟩ := h.instruction_of_error hi
    rw [process_marker_of_error hm hb]
    exact .error

theorem restores_line {number : UInt32} {start : Label} (h : Mirrors config m base code c e)
    (hi : Builder.instruction (.line number start) c = .ok () c') :
    Restores config m base code (.line number start) c' k e := by
  refine ⟨_, emitAt_idle rfl rfl, h.snoc hi rfl rfl rfl rfl (fun l => ?_) rfl rfl rfl⟩
  simp [visit, withBuilder, Declares]

theorem restores_region {r : HandlerRegion} (h : Mirrors config m base code c e)
    (hi : Builder.instruction (.region r) c = .ok () c') :
    Restores config m base code (.region r) c' k e := by
  cases hg : guardedHandler? (.region r) with
  | none =>
    refine ⟨_, emitAt_idle hg rfl, h.snoc hi rfl rfl rfl rfl (fun l => ?_) rfl rfl rfl⟩
    simp [visit, withBuilder, not_declares_of_none hg]
  | some p =>
    obtain ⟨caught, l⟩ := p
    refine ⟨_, emitAt_declared hg, h.snoc hi rfl rfl rfl rfl (fun l' => ?_) ?_ rfl rfl⟩
    · have hl : Declares l' (.region r) ↔ l' = l := by
        simp [declares_iff, hg, eq_comm]
      rw [hl]
      refine (e.registry.mem_pending_register l l').trans (or_congr_right ?_)
      exact and_congr_right fun hl => by rw [hl]
    · exact e.registry.guarded_register l

/-- A label that is not pending needs no check. -/
theorem restores_passed (h : Mirrors config m base code c e)
    (hi : Builder.instruction (.label l) c = .ok () c') (hl : l ∉ e.registry.pending) :
    Restores config m base code (.label l) c' k e := by
  have hplaced := Builder.not_mem_placed_of_label hi
  have hn : checkpoint? code (.label l) = none := by
    rw [Option.eq_none_iff_forall_ne_some]
    intro l' hl'
    obtain ⟨hll, -⟩ := checkpoint?_eq_some.1 hl'
    cases hll
    exact hl ((h.pending l).2 ((checkpoint?_label h.accepted hplaced).1 hl'))
  refine ⟨_, emitAt_passed hl, h.snoc hi hn rfl rfl rfl (fun l => ?_) rfl rfl rfl⟩
  simp [visit, withBuilder, Declares]

/-- A label that is pending gets its check. -/
theorem restores_entered (h : Mirrors config m base code c e)
    (hi : Builder.instruction (.label l) c = .ok () c') (hl : l ∈ e.registry.pending) :
    Restores config m base code (.label l) c' code.length e := by
  have hu := (h.pending l).1 hl
  have hs := (checkpoint?_label h.accepted (Builder.not_mem_placed_of_label hi)).2 hu
  -- The label is declared, so it is a handler, and begins with the exception.
  have hd : c'.depth = 1 := Builder.depth_label_handler hi (hu.1.mem_handlers h.accepted)
  obtain ⟨b, hdup, hcall⟩ := instruction_check ((withChecks config code).toArray.push (.label l))
    (checkPeak code) base config hd
  rw [← h.site_config] at hcall
  obtain ⟨notes, he, hmessages⟩ := emitAt_entered (k := code.length) (l := l)
    (e := e.withBuilder (taken config base code (.label l) c')) hl hdup hcall
  refine ⟨_, he, Builder.replay_snoc h.accepted hi, h.site_config, h.site_member, ?_,
    fun l' => ?_, fun l' => ?_, rfl, ?_⟩
  · rw [withChecks_snoc_of_some hs, checkPeak_snoc_of_some hs]
    simp [check, h.site_config]
  · rw [unchecked_snoc_of_some hs, ← h.pending]
    exact e.registry.mem_pending_resolve l l'
  · rw [checked_snoc_of_some hs, ← h.guarded]
    refine (e.registry.mem_guarded_resolve l l').trans (or_congr_right ?_)
    exact and_iff_left hl
  · rw [checkMessages_snoc_of_some hs, ← h.messages, ← h.site_member]
    exact hmessages

/-- **The guard follows the builder.** -/
theorem agree_process (h : Mirrors config m base code c e) :
    Agree (Mirrors config m base (code ++ [i])) (Builder.instruction i c)
      (process [emission] i code.length e) := by
  cases i with
  | exec op operand => exact agree_exec h
  | line number start => exact agree_marker rfl h fun c' hi => restores_line h hi
  | region r => exact agree_marker rfl h fun c' hi => restores_region h hi
  | label l =>
    refine agree_marker rfl h fun c' hi => ?_
    by_cases hl : l ∈ e.registry.pending
    · exact restores_entered h hi hl
    · exact restores_passed h hi hl

/-! ## The whole code -/

theorem agree_processes (h : Mirrors config m base pre c e) :
    Agree (Mirrors config m base (pre ++ code)) (Builder.replay code c)
      (processFrom [emission] pre.length code e) := by
  induction code generalizing pre c e with
  | nil =>
    rw [List.append_nil]
    exact .ok h
  | cons i code ih =>
    rw [List.append_cons]
    refine (agree_process h).bind fun _ _ _ _ h => ?_
    have hrest := ih h
    rwa [List.length_append] at hrest

theorem mirrors_start [Inhabited σ] (config : Config) (m : Member) (base : Nat) :
    Mirrors config m base [] {} (Emission.start config m base : Emission σ) where
  accepted := rfl
  site_config := rfl
  site_member := rfl
  builder := rfl
  pending l := by simp [Unchecked, Declared, Emission.start]
  guarded l := by simp [Checked, Emission.start]
  kept := rfl
  messages := rfl

theorem finishAt_of_none (h : e.registry.firstPending? = none) :
    ∃ e', EmissionRule.finishAt emission e = .ok () e' ∧ e'.builder = e.builder ∧
      e'.notes = e.notes := by
  let left : Emission σ := { e with site := { e.site with index := none, rule := name } }
  have hact : act emission.finish left = .ok () left := act_finish_of_none h
  exact ⟨left, hact, rfl, rfl⟩

theorem finishAt_of_some (h : e.registry.firstPending? = some l) : ∃ e',
    EmissionRule.finishAt emission e =
      .error (.unresolvedHandler e.site.member.qualifiedName l) e' := by
  let left : Emission σ := { e with site := { e.site with index := none, rule := name } }
  exact ⟨left, act_finish_of_some (e := left) h⟩

/-! ## The end of the method -/

variable [Inhabited σ]

/-- **The code of a method.** The guard follows the builder through any part of the code. -/
theorem agree_start (config : Config) (m : Member) (base : Nat) (code : List Instruction) :
    Agree (Mirrors config m base code) (Builder.replay code {})
      (processFrom [emission] 0 code (.start config m base : Emission σ)) :=
  agree_processes (mirrors_start config m base)

theorem exists_mirrors (h : Builder.replay code {} = .ok () c) (config : Config) (m : Member)
    (base : Nat) : ∃ e : Emission σ,
      processFrom [emission] 0 code (.start config m base) = .ok () e ∧
      Mirrors config m base code c e := by
  have hs := agree_start (σ := σ) config m base code
  rw [h] at hs
  generalize hp : processFrom [emission] 0 code _ = p at hs
  cases hs with
  | ok hm => exact ⟨_, rfl, hm⟩

/-- Code that is not accepted stops with the fault that it has without the guard. -/
theorem applyAll_of_error (config : Config) (m : Member)
    (h : Builder.replay code {} = .error fault c) :
    (EmissionRule.applyAll [(emission : EmissionRule σ)] config m code).result =
      .error fault := by
  have hs := agree_start (σ := σ) config m (labelBase code) code
  rw [h] at hs
  generalize hp : processFrom [emission] 0 code _ = p at hs
  cases hs
  unfold EmissionRule.applyAll
  rw [processAll_eq, bind_of_error hp]

/-- Accepted code with an unchecked label stops at the lowest. -/
theorem applyAll_of_unchecked (config : Config) (m : Member)
    (h : Builder.replay code {} = .ok () c) (hl : ∃ l, Unchecked code l) :
    ∃ l, Unchecked code l ∧ (∀ l', Unchecked code l' → l ≤ l') ∧
      (EmissionRule.applyAll [(emission : EmissionRule σ)] config m code).result =
        .error (.unresolvedHandler m.qualifiedName l) := by
  obtain ⟨e, he, hm⟩ := exists_mirrors (σ := σ) h config m (labelBase code)
  cases hp : e.registry.firstPending? with
  | none =>
    obtain ⟨l, hl⟩ := hl
    rw [← hm.pending, HandlerRegistry.firstPending?_eq_none.1 hp] at hl
    cases hl
  | some l =>
    obtain ⟨hl, hlow⟩ := HandlerRegistry.firstPending?_eq_some.1 hp
    obtain ⟨e', hf⟩ := finishAt_of_some hp
    have hf : [emission].forM EmissionRule.finishAt e =
        .error (.unresolvedHandler m.qualifiedName l) e' := by
      rw [← hm.site_member]
      exact bind_of_error hf
    refine ⟨l, (hm.pending l).1 hl, fun l' hl' => hlow l' ((hm.pending l').2 hl'), ?_⟩
    unfold EmissionRule.applyAll
    rw [processAll_eq, bind_of_ok he, hf]

/-- Accepted code without unchecked labels gets its checks, and the peak that they need. There is
a message for each check. -/
theorem exists_applyAll_of_checked (config : Config) (m : Member)
    (h : Builder.replay code {} = .ok () c) (hn : ∀ l, ¬ Unchecked code l) :
    ∃ notes, EmissionRule.applyAll [(emission : EmissionRule σ)] config m code =
        ⟨.ok ⟨withChecks config code, max c.maxDepth (checkPeak code)⟩, notes⟩ ∧
      notes.messages = checkMessages m code := by
  obtain ⟨e, he, hm⟩ := exists_mirrors (σ := σ) h config m (labelBase code)
  have hp : e.registry.firstPending? = none := by
    rw [HandlerRegistry.firstPending?_eq_none, List.eq_nil_iff_forall_not_mem]
    exact fun l hl => hn l ((hm.pending l).1 hl)
  obtain ⟨e', hf, hb, hnotes⟩ := finishAt_of_none hp
  refine ⟨e'.notes, ?_, hnotes ▸ hm.messages⟩
  unfold EmissionRule.applyAll
  rw [processAll_eq, bind_of_ok he, forM_singleton_eq_ok.2 hf]
  simp only [Builder.finish, hb, hm.builder]
  rfl

theorem applyAll_of_checked (config : Config) (m : Member)
    (h : Builder.replay code {} = .ok () c) (hn : ∀ l, ¬ Unchecked code l) :
    (EmissionRule.applyAll [(emission : EmissionRule σ)] config m code).result =
      .ok ⟨withChecks config code, max c.maxDepth (checkPeak code)⟩ := by
  obtain ⟨notes, happly, -⟩ := exists_applyAll_of_checked (σ := σ) config m h hn
  rw [happly]

theorem messages_applyAll_of_checked (config : Config) (m : Member)
    (h : Builder.replay code {} = .ok () c) (hn : ∀ l, ¬ Unchecked code l) :
    (EmissionRule.applyAll [(emission : EmissionRule σ)] config m code).notes.messages =
      checkMessages m code := by
  obtain ⟨notes, happly, hmessages⟩ := exists_applyAll_of_checked (σ := σ) config m h hn
  rw [happly, ← hmessages]

end CatchGuard

end BytecodeGuard
