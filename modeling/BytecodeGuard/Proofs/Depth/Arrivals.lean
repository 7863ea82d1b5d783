import BytecodeGuard.Proofs.Depth.Soundness

/-!
# All arrivals at a label

Code arrives at a label by jumping there, before or after the label is placed, and by coming to
the label itself. An arrival counts if its depth is known (`Arrival`). The builder remembers one
depth for each label, and compares every arrival with it.

**Theorem (`arrivals_agree_iff`).** In accepted code, the arrivals at a label have the same depth
if and only if the label does not become a handler too late: after an arrival at another depth
than one, and before a further arrival.

What an arrival leaves is expected of the next one (`Arrival.leaves`, `Arrival.eq_of_expected`),
and nothing in between changes it but a declaration. A declaration replaces what was expected so
far without a comparison, so the arrivals before it are compared with each other, those after it
have depth one, and nobody compares the two.
-/

namespace BytecodeGuard

namespace Builder

variable {b b' c : Builder} {code : List Instruction} {l : Label} {d d' : Int} {p q k : Nat}

/-! ## Arrivals -/

/-- Code arrives at the label from a position, with a known depth. -/
inductive Arrival (code : List Instruction) (l : Label) (p : Nat) : Int → Prop
  /-- Tracked code jumps to the label. A subroutine begins with its return address. -/
  | jump {b : Builder} {op : Opcode} {operand : Operand} {effect : StackEffect}
      (hb : Before code p b) (ht : b.tracked = true)
      (hi : code[p]? = some (.exec op operand)) (hl : l ∈ operand.targets)
      (he : stackEffect op operand = .ok effect) :
      Arrival code l p (b.depth - effect.pops + if op = .jsr then 1 else 0)
  /-- The label is placed, and the depth after it is known. -/
  | entry {b : Builder} (hb : Before code (p + 1) b) (hk : b.depthUnknown = false)
      (hi : code[p]? = some (.label l)) : Arrival code l p b.depth

/-- The label is declared as a handler at a position. -/
def DeclaredAt (code : List Instruction) (l : Label) (k : Nat) : Prop :=
  ∃ r, code[k]? = some (.region r) ∧ r.handler = l

/-- A jump arrives with the depth that its target is expected to have afterwards. -/
theorem Executes.expected_target {op : Opcode} {operand : Operand} {effect : StackEffect}
    (hx : Executes op operand effect b b') (ht : b.tracked = true) (hl : l ∈ operand.targets) :
    b'.expected? l = some (b.depth - effect.pops + if op = .jsr then 1 else 0) := by
  rw [hx.target ht l hl, jumpExtra_eq]
  by_cases hop : op = .jsr <;> simp [hop]

/-- After an arrival, its depth is expected of the label. -/
theorem Arrival.leaves (hc : replay code {} = .ok () c) (h : Arrival code l p d) :
    ∃ b', Before code (p + 1) b' ∧ b'.expected? l = some d := by
  cases h with
  | @jump b op operand effect hb ht hi hl he =>
    obtain ⟨b', hb'⟩ := exists_before hc (p + 1)
    obtain ⟨effect', hx⟩ := executes_of_emit (hb.instruction hb' hi)
    obtain rfl : effect = effect' := Except.ok.inj (he.symm.trans hx.effect_eq)
    exact ⟨b', hb', hx.expected_target ht hl⟩
  | @entry b' hb' hk hi =>
    obtain ⟨b, hb⟩ := exists_before hc p
    exact ⟨b', hb', expected?_label (hb.instruction hb' hi) hb.handlersExpectOne hk⟩

/-- An arrival has the depth that was expected of the label. -/
theorem Arrival.eq_of_expected (hc : replay code {} = .ok () c) (h : Arrival code l p d)
    (hb : Before code p b) (he : b.expected? l = some d') : d = d' := by
  cases h with
  | @jump b₁ op operand effect hb₁ ht hi hl heffect =>
    obtain rfl := hb₁.unique hb
    obtain ⟨b', hb'⟩ := exists_before hc (p + 1)
    obtain ⟨effect', hx⟩ := executes_of_emit (hb.instruction hb' hi)
    obtain rfl : effect = effect' := Except.ok.inj (heffect.symm.trans hx.effect_eq)
    exact Option.some.inj ((hx.expected_target ht hl).symm.trans (hx.expected he))
  | @entry b' hb' hk hi =>
    exact depth_label (hb.instruction hb' hi) hb.handlersExpectOne he

/-! ## Two arrivals -/

/-- There is one depth for all arrivals from the same position. -/
theorem Arrival.unique (hc : replay code {} = .ok () c) (h : Arrival code l p d)
    (h' : Arrival code l p d') : d = d' := by
  obtain ⟨b, hb, hd⟩ := h.leaves hc
  obtain ⟨b', hb', hd'⟩ := h'.leaves hc
  obtain rfl := hb.unique hb'
  exact Option.some.inj (hd.symm.trans hd')

/-- Without a declaration in between, an arrival has the depth of an earlier one. -/
theorem Arrival.eq_of_undeclared (hc : replay code {} = .ok () c) (h : Arrival code l p d)
    (h' : Arrival code l q d') (hpq : p < q)
    (hn : ∀ k, p < k → k < q → ¬DeclaredAt code l k) : d' = d := by
  obtain ⟨b, hb, hd⟩ := h.leaves hc
  obtain ⟨b', hb'⟩ := exists_before hc q
  refine h'.eq_of_expected hc hb' (hb.expected hb' hpq ?_ hd)
  intro k r hk hkq hr hl
  exact hn k hk hkq ⟨r, hr, hl⟩

/-- After a declaration, every arrival has the exception on the stack. -/
theorem Arrival.eq_one (hc : replay code {} = .ok () c) (h : Arrival code l q d)
    (hk : DeclaredAt code l k) (hkq : k < q) : d = 1 := by
  obtain ⟨b, hb⟩ := exists_before hc q
  obtain ⟨r, hr, rfl⟩ := hk
  have hmem : .region r ∈ code.take q :=
    List.mem_of_getElem? (i := k) (by rw [List.getElem?_take_of_lt hkq, hr])
  have hhandler : r.handler ∈ b.handlers := (mem_handlers_replay hb).2 ⟨_, hmem, rfl⟩
  exact h.eq_of_expected hc hb (hb.handlersExpectOne _ hhandler)

/-- Two arrivals with different depths have a declaration in between, and the later one has the
depth of a handler. -/
theorem Arrival.exists_declared (hc : replay code {} = .ok () c) (h : Arrival code l p d)
    (h' : Arrival code l q d') (hpq : p ≤ q) (hd : d' ≠ d) :
    d' = 1 ∧ ∃ k, p < k ∧ k < q ∧ DeclaredAt code l k := by
  have hlt : p < q := by
    by_contra hn
    obtain rfl : p = q := by omega
    exact hd (h'.unique hc h)
  by_contra hnone
  have hundeclared : ∀ k, p < k → k < q → ¬DeclaredAt code l k := by
    intro k hpk hkq hk
    exact hnone ⟨h'.eq_one hc hk hkq, k, hpk, hkq, hk⟩
  exact hd (h.eq_of_undeclared hc h' hlt hundeclared)

/-! ## The exact condition -/

/-- All arrivals at the label have the same depth. -/
def ArrivalsAgree (code : List Instruction) (l : Label) : Prop :=
  ∀ p d q d', Arrival code l p d → Arrival code l q d' → d = d'

/-- The label becomes a handler after an arrival at another depth than one, and before a further
arrival. -/
def DeclaredLate (code : List Instruction) (l : Label) : Prop :=
  ∃ p d k q d', Arrival code l p d ∧ d ≠ 1 ∧ p < k ∧ DeclaredAt code l k ∧ k < q ∧
    Arrival code l q d'

/-- **All arrivals agree unless a handler is declared too late.** In accepted code, the arrivals
at a label have the same depth exactly if the label is not declared as a handler between two of
them, of which the first has another depth than one. Two arrivals can differ in no other way. -/
theorem arrivals_agree_iff (hc : replay code {} = .ok () c) (l : Label) :
    (ArrivalsAgree code l ↔ ¬DeclaredLate code l) ∧
      ∀ p d q d', Arrival code l p d → Arrival code l q d' → p ≤ q → d' ≠ d →
        d' = 1 ∧ ∃ k, p < k ∧ k < q ∧ DeclaredAt code l k := by
  refine ⟨⟨?_, fun hlate => ?_⟩, fun p d q d' h h' => h.exists_declared hc h'⟩
  · rintro hagree ⟨p, d, k, q, d', h, hd, -, hk, hkq, h'⟩
    exact hd ((hagree p d q d' h h').trans (h'.eq_one hc hk hkq))
  · -- The earlier of two arrivals that differ would make the declaration late.
    have hforward : ∀ p d q d', Arrival code l p d → Arrival code l q d' → p ≤ q → d = d' := by
      intro p d q d' h h' hpq
      by_contra hd
      obtain ⟨hone, k, hpk, hkq, hk⟩ := h.exists_declared hc h' hpq (Ne.symm hd)
      exact hlate ⟨p, d, k, q, d', h, fun he => hd (he.trans hone.symm), hpk, hk, hkq, h'⟩
    intro p d q d' h h'
    rcases Nat.le_total p q with hpq | hqp
    · exact hforward p d q d' h h' hpq
    · exact (hforward q d' p d h' h hqp).symm

/-- A jump whose depth is found by looking at the builder before it. -/
theorem Arrival.jump_of_any {op : Opcode} {operand : Operand} {effect : StackEffect} (before : Int)
    (hi : code[p]? = some (.exec op operand)) (he : stackEffect op operand = .ok effect)
    (hl : l ∈ operand.targets)
    (hb : (before? code p).any (fun b => b.tracked && b.depth == before) = true)
    (hd : before - effect.pops + (if op = .jsr then 1 else 0) = d) : Arrival code l p d := by
  obtain ⟨b, hb, hlook⟩ := exists_before_of_any hb
  obtain ⟨ht, hdepth⟩ := Bool.and_eq_true_iff.1 hlook
  rw [← hd, ← eq_of_beq hdepth]
  exact .jump hb ht hi hl he

/-- A label after which the depth is found by looking at the builder. -/
theorem Arrival.entry_of_any
    (hb : (before? code (p + 1)).any (fun b => !b.depthUnknown && b.depth == d) = true)
    (hi : code[p]? = some (.label l)) : Arrival code l p d := by
  obtain ⟨b, hb, hlook⟩ := exists_before_of_any hb
  obtain ⟨hk, hd⟩ := Bool.and_eq_true_iff.1 hlook
  rw [← eq_of_beq hd]
  exact .entry hb (by simpa using hk) hi

/-- A subroutine that becomes a handler between the jump to it and its beginning. -/
def handledSubroutine : List Instruction :=
  [.exec .jsr (.target ⟨0⟩), .exec .vreturn .empty, .region ⟨⟨1⟩, ⟨2⟩, ⟨0⟩, none⟩, .label ⟨0⟩,
   .exec .astore (.slot 1), .exec .ret (.slot 1)]

/-- The declaration is not late, because the jump arrives with depth one. -/
theorem arrivals_agree_iff_handledSubroutine :
    ∃ c, replay handledSubroutine {} = .ok () c ∧ Arrival handledSubroutine ⟨0⟩ 0 1 ∧
      DeclaredAt handledSubroutine ⟨0⟩ 2 ∧ Arrival handledSubroutine ⟨0⟩ 3 1 ∧
      ArrivalsAgree handledSubroutine ⟨0⟩ := by
  obtain ⟨c, hc⟩ := exists_of_run'_eq_some
    (show (replay handledSubroutine).run' {} = some () by decide +kernel)
  have hjump : Arrival handledSubroutine ⟨0⟩ 0 1 :=
    Arrival.jump_of_any 0 rfl rfl (by decide) (by decide +kernel) (by decide)
  have hentry : Arrival handledSubroutine ⟨0⟩ 3 1 := Arrival.entry_of_any (by decide +kernel) rfl
  refine ⟨c, hc, hjump, ⟨_, rfl, rfl⟩, hentry, (arrivals_agree_iff hc ⟨0⟩).1.2 ?_⟩
  rintro ⟨p, d, k, q, d', h, hd, hpk, ⟨r, hr, -⟩, -⟩
  have hk : k = 2 := by
    rcases k with _ | _ | _ | _ | _ | _ | k <;> simp [handledSubroutine] at hr ⊢
  obtain rfl | rfl : p = 0 ∨ p = 1 := by omega
  · exact hd (h.unique hc hjump)
  · cases h with
    | jump _ _ hi hl =>
      cases hi
      cases hl
    | entry _ _ hi => cases hi

/-- Code that jumps to a label from an empty stack, declares it as a handler, and jumps there once
more with one value on the stack. -/
def lateDeclaration : List Instruction :=
  [.exec .iconst0 .empty, .exec .ifeq (.target ⟨0⟩), .region ⟨⟨1⟩, ⟨2⟩, ⟨0⟩, none⟩, .label ⟨1⟩,
   .exec .nop .empty, .label ⟨2⟩, .exec .aconstNull .empty, .exec .goto (.target ⟨0⟩), .label ⟨0⟩,
   .exec .athrow .empty]

/-- The code is accepted, but its jumps to the label arrive with different depths. -/
theorem lateDeclaration_disagrees :
    ∃ c, replay lateDeclaration {} = .ok () c ∧ Arrival lateDeclaration ⟨0⟩ 1 0 ∧
      Arrival lateDeclaration ⟨0⟩ 7 1 ∧ Arrival lateDeclaration ⟨0⟩ 8 1 ∧
      ¬ArrivalsAgree lateDeclaration ⟨0⟩ := by
  obtain ⟨c, hc⟩ := exists_of_run'_eq_some
    (show (replay lateDeclaration).run' {} = some () by decide +kernel)
  have hearly : Arrival lateDeclaration ⟨0⟩ 1 0 :=
    Arrival.jump_of_any 1 rfl rfl (by decide) (by decide +kernel) (by decide)
  have hlate : Arrival lateDeclaration ⟨0⟩ 7 1 :=
    Arrival.jump_of_any 1 rfl rfl (by decide) (by decide +kernel) (by decide)
  have hentry : Arrival lateDeclaration ⟨0⟩ 8 1 := Arrival.entry_of_any (by decide +kernel) rfl
  refine ⟨c, hc, hearly, hlate, hentry, fun hagree => ?_⟩
  exact absurd (hagree 1 0 7 1 hearly hlate) (by decide)

end Builder

end BytecodeGuard
