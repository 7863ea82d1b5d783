import BytecodeGuard.Proofs.Builder.Known
import BytecodeGuard.Proofs.Native.Body

/-!
# The stub after other writers

The stub takes the builder as the writers before it have left it. The code may run on, its depth
may be a guess, or nothing may get here.

**Theorem (`stub_composes`).** Let the writers of a native member run to their end. If every call
succeeds and calls mention only labels that the builder has handed out, then the body of the
replaced member is the code of these writers followed by the stub, whose label is none of theirs.
Its peak is theirs, or three slots above the depth that the stub begins with.

The label of the stub is the next fresh one. The builder does not know it, because a known label is
mentioned by a call (`mentions_of_known`) and a mentioned label is below the next fresh one. So it
can be placed whatever the state (`exists_label_of_unknown`), and from there on the stub is
straight-line code (`exists_replay_stub`).
-/

namespace BytecodeGuard

open Emission

/-! ## The calls of writers -/

/-- The call that an exchange of a writer is, if it is one. No instruction of a method comes up
while a writer runs. -/
def Builder.exchangeCall? : Script.Exchange Builder.Request Builder.Request.Reply → Option Call
  | ⟨.step s, reply⟩ => some ⟨true, s, reply⟩
  | ⟨.look, _⟩ => none

namespace Member

variable {m : Member} {b : Builder} {l : Label}

/-- All writers as one. -/
def joined (m : Member) : Builder.Writer Unit := m.writers.forM fun w => w

/-- The calls that the writers make to a new builder. -/
def calls (m : Member) : List Call :=
  (m.joined.exchanges Builder.answer {}).filterMap Builder.exchangeCall?

theorem run_joined (m : Member) : m.joined.run = m.writers.forM Builder.Writer.run := by
  unfold joined
  induction m.writers with
  | nil => rfl
  | cons w ws ih =>
    show Script.run Builder.answer (w.andThen fun _ => ws.forM fun w => w) = _
    rw [Script.run_andThen]
    show (Builder.Writer.run w >>= fun _ => Builder.Writer.run (ws.forM fun w => w)) = _
    rw [ih]
    rfl

/-- The calls are answered by the builder that the writers share. -/
theorem answered_calls (h : m.writers.forM Builder.Writer.run {} = .ok () b) :
    Answered {} m.calls b := by
  rw [← run_joined] at h
  refine Script.run_induction
    (motive := fun b own c => Answered b (own.filterMap Builder.exchangeCall?) c)
    (fun _ => rfl) (fun r b own c ih => ?_) h
  cases r with
  | step s => exact ⟨rfl, ih⟩
  | look => exact ih

/-- The writers run to their end. Every call succeeds, no call mentions a label that the builder
has not handed out, and there is a label left. -/
structure WritesFresh (m : Member) (b : Builder) : Prop where
  runs : m.writers.forM Builder.Writer.run {} = .ok () b
  succeeds : ∀ call ∈ m.calls, Succeeds call
  fresh : ∀ call ∈ m.calls, ∀ l, call.step.Mentions l → l ∈ handedOut m.calls
  few : (handedOut m.calls).length < UInt32.size

theorem WritesFresh.calls_eq_ok (h : m.WritesFresh b) :
    Builder.calls (m.calls.map Call.step) (.ofLabelBase 0) = .ok () b :=
  calls_of_answered (answered_calls h.runs) h.succeeds

theorem WritesFresh.nextLabel_lt (h : m.WritesFresh b) : b.nextLabel < UInt32.size := by
  have hnext : b.nextLabel = 0 + (handedOut m.calls).length :=
    (index_handedOut (answered_calls h.runs)).2
  have := h.few
  omega

theorem WritesFresh.index_lt (h : m.WritesFresh b) {s : Step} (hs : s ∈ m.calls.map Call.step)
    (hl : s.Mentions l) : l.index < b.nextLabel := by
  obtain ⟨call, hcall, rfl⟩ := List.mem_map.1 hs
  exact lt_of_mem_handedOut (answered_calls h.runs) (h.fresh call hcall l hl)

/-- The labels that the builder knows are below the next fresh one. -/
theorem WritesFresh.index_lt_of_known (h : m.WritesFresh b) (hl : b.Knows l) :
    l.index < b.nextLabel := by
  obtain ⟨s, hs, hmentions⟩ := Builder.mentions_of_known h.calls_eq_ok hl
  exact h.index_lt hs hmentions

/-- So are the labels of the code. -/
theorem WritesFresh.index_lt_of_mentions (h : m.WritesFresh b) {i : Instruction}
    (hi : i ∈ b.code.toList) (hl : i.Mentions l) : l.index < b.nextLabel := by
  have hcode : b.code.toList = [] ++ (m.calls.map Call.step).filterMap Step.appends? :=
    Builder.code_calls h.calls_eq_ok
  rw [hcode, List.nil_append] at hi
  obtain ⟨s, hs, happends⟩ := List.mem_filterMap.1 hi
  exact h.index_lt hs (.appended happends hl)

/-- A writer that comes last continues with the builder of the others. -/
theorem writeBody_withWriter {w : Builder.Writer Unit} {c : Builder}
    (h : m.writers.forM Builder.Writer.run {} = .ok () b) (hw : w.run b = .ok () c) :
    (m.withWriter w).writeBody = .ok (some c.finish) := by
  have hsome : (m.withWriter w).writers.isEmpty = false := by simp [withWriter]
  have hall : (m.withWriter w).writers.forM Builder.Writer.run {} = .ok () c :=
    forM_append_eq_ok.2 ⟨b, h, forM_singleton_eq_ok.2 hw⟩
  unfold writeBody
  rw [hsome, if_neg Bool.false_ne_true, hall]

end Member

/-! ## Straight-line code -/

/-- Where there is room for it, an instruction without targets moves the depth by its effect and
raises the peak to it. -/
theorem Builder.exists_exec_of_fits {b : Builder} (op : Opcode) (operand : Operand)
    (pops pushes : Nat) (hk : operand.kind = op.operandKind)
    (he : stackEffect op operand = .ok ⟨pops, pushes⟩) (ht : operand.targets = [])
    (hpops : pops ≤ b.depth) (hl : b.depth - pops + pushes ≤ depthLimit) :
    ∃ b', instruction (.exec op operand) b = .ok () b' ∧ b'.depth = b.depth - pops + pushes ∧
      (b'.maxDepth : Int) = max (b.maxDepth : Int) (b.depth - pops + pushes) := by
  refine ⟨_, emit_of_fits hk he ht hpops hl, rfl, ?_⟩
  show ((max b.maxDepth (b.depth - pops + pushes).toNat : Nat) : Int) = _
  omega

/-! ## The stub -/

namespace NativeStub

variable {a : Analysis} {m : Member} {b : Builder} {l : Label}

theorem run_throwingBody_of_lt (h : b.nextLabel < UInt32.size) :
    throwingBody.run b =
      Builder.calls (stubCalls ⟨.ofNat b.nextLabel⟩) { b with nextLabel := b.nextLabel + 1 } := by
  have hlabel : Step.newLabel.run b = .ok _ _ :=
    Step.run_of_attempt (congrArg Prod.fst (Step.attempt_newLabel_of_lt h))
  rw [Step.attempt_newLabel_of_lt h] at hlabel
  rw [run_throwingBody, bind_of_ok hlabel]

/-- Where its label is not known and there is room for three slots, the stub is accepted. -/
theorem exists_replay_stub (hl : ¬b.Knows l) (h0 : 0 ≤ b.entryDepth)
    (hd : b.entryDepth ≤ 65532) :
    ∃ c, Builder.replay (stub l) b = .ok () c ∧
      (c.maxDepth : Int) = max (b.maxDepth : Int) (b.entryDepth + 3) := by
  have hcall : stackEffect .invokespecial (.method ⟨TypeName.ruleViolation,
      TypeName.constructor, "(Ljava/lang/String;)V", false⟩) = .ok ⟨2, 0⟩ := by
    decide +kernel
  have hlimit : (Builder.depthLimit : Int) = 65535 := rfl
  obtain ⟨b₁, hlabel, hd₁, hm₁⟩ := Builder.exists_label_of_unknown hl
  let b₂ : Builder := b₁.append (.line 0 l)
  have hline : Builder.instruction (.line 0 l) b₁ = .ok () b₂ := rfl
  have hd₂ : b₂.depth = b₁.depth := rfl
  have hm₂ : b₂.maxDepth = b₁.maxDepth := rfl
  obtain ⟨b₃, hnew, hd₃, hm₃⟩ := Builder.exists_exec_of_fits (b := b₂) .new
    (.typeName TypeName.ruleViolation) 0 1 rfl rfl rfl (by omega) (by omega)
  obtain ⟨b₄, hdup, hd₄, hm₄⟩ := Builder.exists_exec_of_fits (b := b₃) .dup .empty 1 2
    rfl rfl rfl (by omega) (by omega)
  obtain ⟨b₅, hload, hd₅, hm₅⟩ := Builder.exists_exec_of_fits (b := b₄) .ldc
    (.constant (.string deletedMessage)) 0 1 rfl rfl rfl (by omega) (by omega)
  obtain ⟨b₆, hinit, hd₆, hm₆⟩ := Builder.exists_exec_of_fits (b := b₅) .invokespecial _ 2 0
    rfl hcall rfl (by omega) (by omega)
  obtain ⟨b₇, hthrow, hd₇, hm₇⟩ := Builder.exists_exec_of_fits (b := b₆) .athrow .empty 1 0
    rfl rfl rfl (by omega) (by omega)
  refine ⟨b₇, ?_, by omega⟩
  refine Builder.replay_cons_eq_ok.2 ⟨b₁, hlabel, Builder.replay_cons_eq_ok.2 ⟨b₂, hline, ?_⟩⟩
  refine Builder.replay_cons_eq_ok.2 ⟨b₃, hnew, Builder.replay_cons_eq_ok.2 ⟨b₄, hdup, ?_⟩⟩
  refine Builder.replay_cons_eq_ok.2 ⟨b₅, hload, Builder.replay_cons_eq_ok.2 ⟨b₆, hinit, ?_⟩⟩
  exact Builder.replay_cons_eq_ok.2 ⟨b₇, hthrow, rfl⟩

/-! ## The body -/

/-- **The stub composes with other writers.** Their code comes first and the stub after it, with a
label of its own. The peak is the larger of theirs and what the stub needs, three slots above the
depth that it begins with: none after code that does not get there. -/
theorem stub_composes (hn : m.isNative = true) (ho : m.className ≠ a.config.nativeOwner)
    (h : m.WritesFresh b) (hd : b.entryDepth ≤ 65532) :
    ∃ l built, (definition.define a m).member.writeBody = .ok (some built) ∧
      built.code = b.code.toList ++ stub l ∧
      (∀ i ∈ b.code.toList, ∀ l', i.Mentions l' → l' ≠ l) ∧
      (built.maxStack : Int) = max (b.maxDepth : Int) (b.entryDepth + 3) := by
  have hfew : b.nextLabel < UInt32.size := h.nextLabel_lt
  let l : Label := ⟨.ofNat b.nextLabel⟩
  have hindex : l.index = b.nextLabel := UInt32.toNat_ofNat_of_lt' hfew
  have hnonneg : b.Nonneg := Builder.nonneg_calls h.calls_eq_ok
  let b' : Builder := { b with nextLabel := b.nextLabel + 1 }
  have hunknown : ¬b'.Knows l := fun hl => by
    have hlt : l.index < b.nextLabel := h.index_lt_of_known hl
    omega
  have hentry : 0 ≤ b'.entryDepth := by
    show 0 ≤ if b.unreachable then 0 else b.depth
    split
    · exact Int.le_refl 0
    · exact hnonneg.1
  obtain ⟨c, hreplay, hmax⟩ := exists_replay_stub hunknown hentry hd
  have hcalls : Builder.calls (stubCalls l) b' = .ok () c :=
    Builder.calls_of_replay (by simp [stubCalls, Step.appends?]) hreplay
  have hrun : throwingBody.run b = .ok () c := (run_throwingBody_of_lt hfew).trans hcalls
  have hbody : (definition.define a m).member.writeBody = .ok (some c.finish) := by
    rcases define_cases a m with ⟨hs, -⟩ | ⟨-, hr, -⟩ | ⟨-, -, remark, hdef⟩
    · exact absurd (hs hn).1 ho
    · exact absurd hr.1 ho
    · rw [hdef]
      exact Member.writeBody_withWriter (m := m.withAccess (m.access.diff .native)) h.runs hrun
  refine ⟨l, c.finish, hbody, Builder.code_calls hcalls, fun i hi l' hl' heq => ?_, hmax⟩
  have hlt : l'.index < b.nextLabel := h.index_lt_of_mentions hi hl'
  rw [heq] at hlt
  omega

/-- Writes a fresh label and then the given code, which may jump to it. -/
def labelled (steps : Label → List Step) : Builder.Writer Unit := do
  if let some l ← Builder.Writer.perform .newLabel then
    Builder.Writer.ofSteps (.label l :: steps l)

/-- The first writer never gets to its end. So the second begins at a depth that is not known, and
it leaves one slot. -/
def spinMethod : Member :=
  ⟨"com/example/Widget", "spin", "()V", ⟨0x0109⟩,
    [labelled fun l => [.loadConstant (.long 7), .plain .pop2, .jump .goto l],
     labelled fun _ => [.plain .iconst0]]⟩

theorem stub_composes_spin :
    let a := Analysis.ofConfig {}
    ∃ b, spinMethod.isNative = true ∧ spinMethod.className ≠ a.config.nativeOwner ∧
      spinMethod.WritesFresh b ∧ b.entryDepth = 1 ∧
      ∃ l built, (definition.define a spinMethod).member.writeBody = .ok (some built) ∧
        built.code = b.code.toList ++ stub l ∧
        (∀ i ∈ b.code.toList, ∀ l', i.Mentions l' → l' ≠ l) ∧
        (built.maxStack : Int) = max (b.maxDepth : Int) (1 + 3) := by
  intro a
  let b : Builder := finalState (spinMethod.writers.forM Builder.Writer.run) {}
  have hn : spinMethod.isNative = true := by decide
  have ho : spinMethod.className ≠ a.config.nativeOwner := by decide
  have hrun : spinMethod.writers.forM Builder.Writer.run {} = .ok () b := by rfl
  have hentry : b.entryDepth = 1 := by decide +kernel
  have hok : ∀ call ∈ spinMethod.calls, call.reply.isOk = true := by decide +kernel
  have hsilent : ∀ call ∈ spinMethod.calls, call.step.appends? = none → call.step = .newLabel := by
    decide +kernel
  have hlabels : ∀ call ∈ spinMethod.calls, ∀ i ∈ call.step.appends?, ∀ l ∈ i.labels,
      l ∈ handedOut spinMethod.calls := by
    decide +kernel
  have hwrites : spinMethod.WritesFresh b := by
    refine ⟨hrun, fun call hcall => Pipeline.exists_of_isOk (hok call hcall), ?_, by decide +kernel⟩
    intro call hcall l hmentions
    generalize hs : call.step = s at hmentions
    cases hmentions with
    | appended happends hl =>
      rw [← hs] at happends
      exact hlabels call hcall _ happends l (mem_labels_iff.2 hl)
    | declared | expected =>
      have hnew := hsilent call hcall (by rw [hs]; rfl)
      rw [hs] at hnew
      cases hnew
  have hbody := stub_composes hn ho hwrites (by rw [hentry]; decide)
  rw [hentry] at hbody
  exact ⟨b, hn, ho, hwrites, hentry, hbody⟩

end NativeStub

end BytecodeGuard
