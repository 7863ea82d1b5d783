import BytecodeGuard.Proofs.Builder.Calls
import BytecodeGuard.Proofs.Depth.Machine
import BytecodeGuard.Proofs.Native.Declaration

/-!
# The body of a deleted native method

The writer that replaces native code comes after the writers that a member has already, and those
are kept. So the body is what they write, and then the stub.

**Theorem (`deleted_native_throws`).** A body that is written without a fault is the code of the
earlier writers followed by `stub`. It ends with a throw of the new object, and the only returns in
it are those of the earlier writers. Execution that comes to the stub can go on to the throw, where
the stack is one slot deeper, and no execution runs off the end of the body.

So a deleted method can return only where an earlier writer makes it do so. There are such methods:
see `drawMethod_returns`.
-/

namespace BytecodeGuard

/-! ## Returns -/

/-- The instruction goes back to the caller. -/
def Instruction.returns (i : Instruction) : Bool :=
  i.opcode?.any fun op => op.flow == .methodReturn

theorem Instruction.returns_iff {i : Instruction} :
    i.returns = true ↔ ∃ op, i.opcode? = some op ∧
      op ∈ [Opcode.vreturn, .ireturn, .lreturn, .freturn, .dreturn, .areturn] := by
  have hflow : ∀ op : Opcode, (op.flow == .methodReturn) = true ↔
      op ∈ [Opcode.vreturn, .ireturn, .lreturn, .freturn, .dreturn, .areturn] := by
    intro op
    cases op <;> decide
  unfold returns
  rw [Option.any_eq_true]
  simp only [hflow]

/-! ## One more writer -/

namespace Member

variable {m : Member} {w : Builder.Writer Unit} {b : Builder} {body : Option BuiltCode}

/-- The code of a body. There is none without writers. -/
def written (body : Option BuiltCode) : List Instruction := body.elim [] BuiltCode.code

theorem exists_writeBody (h : m.writers.forM Builder.Writer.run {} = .ok () b) :
    ∃ body, m.writeBody = .ok body ∧ written body = b.code.toList := by
  unfold writeBody
  cases hw : m.writers with
  | nil =>
    rw [hw] at h
    cases h
    exact ⟨none, rfl, rfl⟩
  | cons w ws =>
    rw [hw] at h
    exact ⟨some b.finish, by rw [h]; rfl, rfl⟩

/-- One more writer continues where the earlier writers have stopped. -/
theorem exists_of_writeBody_withWriter (h : (m.withWriter w).writeBody = .ok body) :
    ∃ before b c, m.writeBody = .ok before ∧ written before = b.code.toList ∧
      w.run b = .ok () c ∧ body = some c.finish := by
  have hsome : (m.withWriter w).writers.isEmpty = false := by simp [withWriter]
  unfold writeBody at h
  rw [hsome, if_neg Bool.false_ne_true] at h
  cases hall : (m.withWriter w).writers.forM Builder.Writer.run {} with
  | error fault c =>
    rw [hall] at h
    cases h
  | ok _ c =>
    rw [hall] at h
    cases h
    obtain ⟨b, hearlier, hlast⟩ := forM_append_eq_ok.1 hall
    obtain ⟨before, hbefore, hcode⟩ := exists_writeBody hearlier
    exact ⟨before, b, c, hbefore, hcode, forM_singleton_eq_ok.1 hlast, rfl⟩

end Member

namespace NativeStub

variable {a : Analysis} {m : Member} {body : Option BuiltCode} {b c : Builder} {l : Label}
  {earlier : List Instruction}

/-! ## The stub -/

/-- The code that throws. -/
def stub (l : Label) : List Instruction :=
  [.label l, .line 0 l, .exec .new (.typeName TypeName.ruleViolation), .exec .dup .empty,
   .exec .ldc (.constant (.string deletedMessage)),
   .exec .invokespecial
     (.method ⟨TypeName.ruleViolation, TypeName.constructor, "(Ljava/lang/String;)V", false⟩),
   .exec .athrow .empty]

/-- The code makes the object with the message, ends with a throw and does not return. -/
structure ThrowsDeleted (code : List Instruction) : Prop where
  creates : .exec .new (.typeName TypeName.ruleViolation) ∈ code
  message : .exec .ldc (.constant (.string deletedMessage)) ∈ code
  neverReturns : ∀ i ∈ code, i.returns = false
  throws : code.getLast?.bind Instruction.opcode? = some .athrow

/-- The calls of the stub when it has its label. -/
def stubCalls (l : Label) : List Step :=
  [.label l, .line 0 l, .newObject TypeName.ruleViolation, .dup,
   .loadConstant (.string deletedMessage),
   .invokeSpecial TypeName.ruleViolation TypeName.constructor "(Ljava/lang/String;)V", .athrow]

/-- The stub asks for a label and makes its calls. -/
theorem run_throwingBody :
    throwingBody.run = Step.newLabel.run >>= fun result =>
      if let some l := result then Builder.calls (stubCalls l) else pure () := by
  show (Script.andThen (Builder.Writer.perform .newLabel) _).run Builder.answer = _
  rw [Script.run_andThen]
  show ((Builder.Writer.perform .newLabel).run >>= _) = _
  rw [Builder.Writer.run_perform]
  congr 1
  funext result
  cases result with
  | none => rfl
  | some l => exact Builder.Writer.run_ofSteps (stubCalls l)

theorem code_throwingBody (h : throwingBody.run b = .ok () c) :
    ∃ l, c.code.toList = b.code.toList ++ stub l := by
  rw [run_throwingBody] at h
  obtain ⟨result, b', hrun, hcalls⟩ := bind_eq_ok.1 h
  obtain ⟨l, b₁, -, hlast⟩ := bind_eq_ok.1 hrun
  cases hlast
  have hcode : b'.code = b.code := by
    rw [← Step.code_attempt_newLabel b, Step.attempt_of_ok hrun]
  have hstub := Builder.code_calls hcalls
  rw [hcode] at hstub
  exact ⟨l, hstub⟩

theorem getLast?_append_stub :
    (earlier ++ stub l).getLast? = some (.exec .athrow .empty) := by
  rw [List.getLast?_append]
  rfl

theorem returns_stub {i : Instruction} (hi : i ∈ stub l) : i.returns = false := by
  simp only [stub, List.mem_cons, List.not_mem_nil, or_false] at hi
  rcases hi with rfl | rfl | rfl | rfl | rfl | rfl | rfl <;> rfl

theorem throwsDeleted_append_stub :
    ThrowsDeleted (earlier ++ stub l) ↔ ∀ i ∈ earlier, i.returns = false := by
  constructor
  · exact fun h i hi => h.neverReturns i (List.mem_append_left _ hi)
  · refine fun h => ⟨?_, ?_, fun i hi => ?_, ?_⟩
    · exact List.mem_append_right _ (by simp [stub])
    · exact List.mem_append_right _ (by simp [stub])
    · exact (List.mem_append.1 hi).elim (h i) returns_stub
    · rw [getLast?_append_stub]
      rfl

/-- Execution that comes to the stub can go on to the throw, where the stack is one slot deeper. -/
theorem reaches_throw (d : Int) :
    Relation.ReflTransGen (StackMachine.Step (earlier ++ stub l)) ⟨earlier.length, d⟩
      ⟨earlier.length + 6, d + 1⟩ := by
  have hat : ∀ {n i}, (stub l)[n]? = some i →
      (earlier ++ stub l)[earlier.length + n]? = some i := fun h => by
    rw [List.getElem?_append_right (Nat.le_add_right _ _), Nat.add_sub_cancel_left, h]
  have hcall : stackEffect .invokespecial (.method ⟨TypeName.ruleViolation,
      TypeName.constructor, "(Ljava/lang/String;)V", false⟩) = .ok ⟨2, 0⟩ := by
    decide +kernel
  have hmarkers : Relation.ReflTransGen (StackMachine.Step (earlier ++ stub l))
      ⟨earlier.length, d⟩ ⟨earlier.length + 2, d⟩ :=
    .tail (.single (.marker (hat (n := 0) rfl) rfl)) (.marker (hat (n := 1) rfl) rfl)
  have hnew := hmarkers.tail (.next (hat (n := 2) rfl) rfl rfl)
  have hdup := hnew.tail (.next (hat (n := 3) rfl) rfl rfl)
  have hload := hdup.tail (.next (hat (n := 4) rfl) rfl rfl)
  have hinit := hload.tail (.next (hat (n := 5) rfl) hcall rfl)
  have hdepth : d - (0 : Nat) + (1 : Nat) - (1 : Nat) + (2 : Nat) - (0 : Nat) + (1 : Nat) -
      (2 : Nat) + (0 : Nat) = d + 1 := by omega
  rw [← hdepth]
  exact hinit

/-! ## The body -/

/-- **A deleted native method throws.** Its body is what the earlier writers write, and then the
stub. So it makes the object with the message, ends with a throw, and has no returns but theirs.
Execution that comes to the stub can go on to the throw, one slot deeper. It never runs off the end
of the body, and finds no return but those of the earlier writers. -/
theorem deleted_native_throws (hn : m.isNative = true) (ho : m.className ≠ a.config.nativeOwner)
    (h : (definition.define a m).member.writeBody = .ok body) :
    ∃ before built l, m.writeBody = .ok before ∧ body = some built ∧
      built.code = Member.written before ++ stub l ∧
      (ThrowsDeleted built.code ↔ ∀ i ∈ Member.written before, i.returns = false) ∧
      (∀ d, Relation.ReflTransGen (StackMachine.Step built.code)
        ⟨(Member.written before).length, d⟩ ⟨built.code.length - 1, d + 1⟩) ∧
      ∀ s, StackMachine.Reaches built.code s → ∃ i, built.code[s.position]? = some i ∧
        (i.returns = true → i ∈ Member.written before) := by
  rcases define_cases a m with ⟨hs, -⟩ | ⟨-, hr, -⟩ | ⟨-, -, remark, hd⟩
  · exact absurd (hs hn).1 ho
  · exact absurd hr.1 ho
  rw [hd] at h
  obtain ⟨before, b, c, hbefore, hwritten, hrun, rfl⟩ := Member.exists_of_writeBody_withWriter h
  obtain ⟨l, hcode⟩ := code_throwingBody hrun
  rw [← hwritten] at hcode
  refine ⟨before, c.finish, l, hbefore, rfl, hcode, ?_⟩
  rw [show c.finish.code = Member.written before ++ stub l from hcode]
  refine ⟨throwsDeleted_append_stub, fun d => ?_, fun s hs => ?_⟩
  · rw [List.length_append]
    exact reaches_throw d
  · have hlt := StackMachine.position_lt_of_reaches getLast?_append_stub rfl hs
    refine ⟨_, List.getElem?_eq_getElem hlt, fun hreturns => ?_⟩
    refine (List.mem_append.1 (List.getElem_mem hlt)).resolve_right fun hi => ?_
    rw [returns_stub hi] at hreturns
    cases hreturns

/-- A native method with a writer that loops while its argument is not zero. -/
def pollMethod : Member :=
  ⟨"com/example/Widget", "poll", "(I)V", ⟨0x0109⟩,
    [.ofSteps [.label ⟨3⟩, .slot .iload 0, .jump .ifne ⟨3⟩]]⟩

/-- The code of the loop. -/
def pollLoop : BuiltCode :=
  ⟨[.label ⟨3⟩, .exec .iload (.slot 0), .exec .ifne (.target ⟨3⟩)], 1⟩

theorem deleted_native_throws_poll :
    let a := Analysis.ofConfig {}
    pollMethod.isNative = true ∧ pollMethod.className ≠ a.config.nativeOwner ∧
    ∃ built, (definition.define a pollMethod).member.writeBody = .ok (some built) ∧
      ThrowsDeleted built.code ∧
      ∀ s, StackMachine.Reaches built.code s →
        ∃ i, built.code[s.position]? = some i ∧ i.returns = false := by
  intro a
  have hn : pollMethod.isNative = true := by decide
  have ho : pollMethod.className ≠ a.config.nativeOwner := by decide
  have hloop : pollMethod.writeBody = .ok (some pollLoop) := by decide +kernel
  have hnone : ∀ i ∈ Member.written (some pollLoop), i.returns = false := by decide
  obtain ⟨body, h⟩ := Pipeline.exists_of_isOk
    (show (definition.define a pollMethod).member.writeBody.isOk = true by decide +kernel)
  obtain ⟨before, built, l, hbefore, rfl, -, hthrows, -, hexec⟩ := deleted_native_throws hn ho h
  obtain rfl : some pollLoop = before := Except.ok.inj (hloop.symm.trans hbefore)
  refine ⟨hn, ho, built, h, hthrows.2 hnone, fun s hs => ?_⟩
  obtain ⟨i, hi, hreturns⟩ := hexec s hs
  refine ⟨i, hi, Bool.eq_false_iff.2 fun hr => ?_⟩
  rw [hnone i (hreturns hr)] at hr
  cases hr

/-- The writer of this method returns, so the method returns before it comes to the stub. -/
theorem drawMethod_returns :
    let a := Analysis.ofConfig {}
    drawMethod.isNative = true ∧ drawMethod.className ≠ a.config.nativeOwner ∧
    ∃ built, (definition.define a drawMethod).member.writeBody = .ok (some built) ∧
      ¬ThrowsDeleted built.code ∧
      ∃ s i, StackMachine.Reaches built.code s ∧ built.code[s.position]? = some i ∧
        i.returns = true := by
  intro a
  have hbody : (definition.define a drawMethod).member.writeBody =
      .ok (some ⟨.exec .vreturn .empty :: stub ⟨0⟩, 3⟩) := by
    decide +kernel
  refine ⟨by decide, by decide, _, hbody, fun hthrows => ?_,
    ⟨0, 0⟩, .exec .vreturn .empty, .refl, rfl, rfl⟩
  have hreturn := hthrows.neverReturns (.exec .vreturn .empty) List.mem_cons_self
  cases hreturn

end NativeStub

end BytecodeGuard
