import BytecodeGuard.Proofs.Depth.Machine

/-!
# Code with consistent depths is accepted

**Theorem (`tracking_complete`).** Let every position and every label of the code have a depth,
such that each instruction finds the slots it pops and leaves the depths it should at the next
position and at its targets (`Consistent`). Then the builder takes the code without a fault,
whatever the order of declarations, jumps and labels, and the peak is at most one of the depths.

The builder does not know the depths in advance. Where it has to guess it starts from zero and
stops at zero, so a guess is never above the depth that the code really has there; where it does
not guess it has that depth, and so does every label that is expected to have one. This is the
invariant (`Fits`). The next known depth replaces the guess, so a low guess does no harm.
-/

namespace BytecodeGuard

/-- A depth for every position of the code, the end included, and for every label. -/
structure Depths where
  position : Nat → Nat
  label : Label → Nat

/-- What an instruction at a position asks of the depths. -/
def Depths.Suits (D : Depths) (p : Nat) : Instruction → Prop
  | .exec op operand => ∀ effect, stackEffect op operand = .ok effect →
    effect.pops ≤ D.position p ∧
    (∀ l ∈ operand.targets,
      D.label l = D.position p - effect.pops + if op = .jsr then 1 else 0) ∧
    (op.endsFlow = false → D.position (p + 1) = D.position p - effect.pops + effect.pushes)
  | .label l => D.label l = D.position p ∧ D.position (p + 1) = D.position p
  | .line .. => D.position (p + 1) = D.position p
  | .region r => D.label r.handler = 1 ∧ D.position (p + 1) = D.position p

/-- The depths agree along every way through the code, and a class file can declare them. -/
structure Consistent (code : List Instruction) (D : Depths) : Prop where
  start : D.position 0 = 0
  limit : ∀ p ≤ code.length, D.position p ≤ Builder.depthLimit
  suits : ∀ p i, code[p]? = some i → D.Suits p i

/-- The descriptors that the stack effect depends on follow the grammar. -/
def Operand.Parses : Operand → Prop
  | field ref => ∃ slots, Descriptor.fieldSlots ref.descriptor = .ok slots
  | method ref => ∃ shape, Descriptor.methodShape ref.descriptor = .ok shape
  | callSite _ descriptor => ∃ shape, Descriptor.methodShape descriptor = .ok shape
  | _ => True

/-- What code has to be like, depths apart. -/
structure WellFormed (code : List Instruction) : Prop where
  /-- Operands are of the kind that the opcode carries. -/
  kinds : ∀ op operand, .exec op operand ∈ code → operand.kind = op.operandKind
  parses : ∀ op operand, .exec op operand ∈ code → operand.Parses
  /-- No label is placed twice. -/
  labels : (code.filterMap Instruction.label?).Nodup
  /-- Between an instruction that ends the flow and a later one there is a label. -/
  reentered : ∀ (p q : Nat) (op op' : Opcode) (operand operand' : Operand),
    code[p]? = some (.exec op operand) → op.endsFlow = true →
    code[q]? = some (.exec op' operand') → p < q →
    ∃ r l, p < r ∧ r < q ∧ code[r]? = some (.label l)

/-! ## Stack effects -/

theorem operandKind_of_fixedEffect?_eq_none {op : Opcode} (h : op.fixedEffect? = none) :
    op.operandKind ∈ [.constant, .field, .method, .callSite, .multiArray] := by
  cases op <;> first | decide | cases h

/-- An operand of the right kind whose descriptors parse has a stack effect. -/
theorem exists_stackEffect {op : Opcode} {operand : Operand}
    (hk : operand.kind = op.operandKind) (hp : operand.Parses) :
    ∃ effect, stackEffect op operand = .ok effect := by
  cases hf : op.fixedEffect? with
  | some effect => exact ⟨effect, by simp only [stackEffect, hf]⟩
  | none =>
    have hkind := operandKind_of_fixedEffect?_eq_none hf
    rw [← hk] at hkind
    cases operand with
    | constant value => exact ⟨⟨0, value.slots⟩, by simp only [stackEffect, hf]⟩
    | multiArray _ dimensions => exact ⟨⟨dimensions.toNat, 1⟩, by simp only [stackEffect, hf]⟩
    | field ref =>
      obtain ⟨slots, hs⟩ := hp
      exact ⟨op.fieldEffect slots, by simp only [stackEffect, hf, hs, Except.map]⟩
    | method ref =>
      obtain ⟨shape, hs⟩ := hp
      exact ⟨op.callEffect shape, by simp only [stackEffect, hf, hs, Except.map]⟩
    | callSite name descriptor =>
      obtain ⟨shape, hs⟩ := hp
      exact ⟨op.callEffect shape, by simp only [stackEffect, hf, hs, Except.map]⟩
    | _ => simp [Operand.kind] at hkind

/-- An instruction that ends the flow pushes nothing. -/
theorem pushes_of_endsFlow {op : Opcode} {operand : Operand} {effect : StackEffect}
    (he : stackEffect op operand = .ok effect) (hf : op.endsFlow = true) :
    effect.pushes = 0 := by
  cases op <;> first | exact absurd hf (by decide) | (cases he; rfl)

namespace Builder

variable {b b' c : Builder} {code : List Instruction} {D : Depths} {p : Nat} {i : Instruction}
  {l : Label} {op : Opcode} {operand : Operand}

/-! ## The invariant -/

/-- The builder at a position goes with the depths. -/
structure Fits (code : List Instruction) (D : Depths) (p : Nat) (b : Builder) : Prop where
  before : Before code p b
  /-- A known depth is right, and a guess is not too high. -/
  depth : b.unreachable = false →
    b.depth ≤ D.position p ∧ (b.depthUnknown = false → b.depth = D.position p)
  expected : ∀ l d, b.expected? l = some d → d = D.label l
  handlers : ∀ l ∈ b.handlers, D.label l = 1
  /-- Unreachable code follows an instruction that ends the flow, with no label in between. -/
  dead : b.unreachable = true → ∃ q op operand, q < p ∧ code[q]? = some (.exec op operand) ∧
    op.endsFlow = true ∧ ∀ r l, q < r → r < p → code[r]? ≠ some (.label l)
  peak : ∃ q ≤ p, b.maxDepth ≤ D.position q

theorem Fits.depth_eq (h : Fits code D p b) (ht : b.tracked = true) :
    b.depth = D.position p := by
  obtain ⟨hu, hd⟩ := tracked_iff.1 ht
  exact (h.depth hu).2 hd

theorem fits_start (hd : Consistent code D) : Fits code D 0 {} where
  before := rfl
  depth _ := by simp [hd.start]
  expected l d h := by cases h
  handlers l h := absurd h List.not_mem_nil
  dead h := by cases h
  peak := ⟨0, Nat.le_refl 0, Nat.zero_le _⟩

theorem Before.succ (hb : Before code p b) (hi : code[p]? = some i)
    (h : Builder.instruction i b = .ok () b') : Before code (p + 1) b' := by
  unfold Before
  rw [List.take_add_one, hi]
  exact replay_snoc hb h

/-- What an instruction that succeeds leaves to be shown: the depth, and where the code has
become unreachable or the peak has risen. -/
theorem Fits.snoc (hd : Consistent code D) (hi : code[p]? = some i) (hb : Fits code D p b)
    (h : instruction i b = .ok () b')
    (depth : b'.unreachable = false →
      b'.depth ≤ D.position (p + 1) ∧
        (b'.depthUnknown = false → b'.depth = D.position (p + 1)))
    (dead : b'.unreachable = true →
      (∃ op operand, i = .exec op operand ∧ op.endsFlow = true) ∨
        b.unreachable = true ∧ ∀ l, i ≠ .label l)
    (peak : b'.maxDepth ≤ b.maxDepth ∨ ∃ q ≤ p + 1, b'.maxDepth ≤ D.position q) :
    Fits code D (p + 1) b' where
  before := hb.before.succ hi h
  depth := depth
  expected l d hd' := by
    have hs := hd.suits p i hi
    cases reason_of_instruction h hd' with
    | earlier hd' => exact hb.expected l d hd'
    | declared hr hone =>
      cases i with
      | region r =>
        cases hr
        rw [hone, hs.1]
        rfl
      | _ => cases hr
    | placed hl ht hdepth =>
      subst hl
      rw [hdepth, hb.depth_eq ht, hs.1]
    | jump hop he ht hl hp hdepth =>
      subst hop
      obtain ⟨-, htarget, -⟩ := hs _ he
      have := hb.depth_eq ht
      rw [hdepth, htarget l hl, jumpExtra_eq]
      omega
  handlers l hl := by
    rcases (mem_handlers_instruction h).1 hl with hl | hr
    · exact hb.handlers l hl
    · cases i with
      | region r =>
        cases hr
        exact (hd.suits p _ hi).1
      | _ => cases hr
  dead hu := by
    rcases dead hu with ⟨op, operand, rfl, hf⟩ | ⟨hu, hl⟩
    · exact ⟨p, op, operand, Nat.lt_succ_self p, hi, hf, fun r l hr hr' => by omega⟩
    · obtain ⟨q, op, operand, hq, hop, hf, hnone⟩ := hb.dead hu
      refine ⟨q, op, operand, by omega, hop, hf, fun r l hr hr' hrl => ?_⟩
      rcases Nat.lt_succ_iff_lt_or_eq.1 hr' with hr' | rfl
      · exact hnone r l hr hr' hrl
      · rw [hi] at hrl
        exact hl l (Option.some.inj hrl)
  peak := by
    rcases peak with hm | hm
    · obtain ⟨q, hq, hle⟩ := hb.peak
      exact ⟨q, by omega, by omega⟩
    · exact hm

/-! ## One instruction -/

/-- An executable instruction is not in unreachable code. -/
theorem Fits.reachable (hw : WellFormed code) (hb : Fits code D p b)
    (hi : code[p]? = some (.exec op operand)) : b.unreachable = false := by
  by_contra hu
  obtain ⟨q, op', operand', hq, hop, hf, hnone⟩ := hb.dead (by simpa using hu)
  obtain ⟨r, l, hqr, hrp, hl⟩ := hw.reentered q p op' op operand' operand hop hf hi hq
  exact hnone r l hqr hrp hl

theorem fits_exec (hw : WellFormed code) (hd : Consistent code D)
    (hi : code[p]? = some (.exec op operand)) (hb : Fits code D p b) :
    ∃ b', instruction (.exec op operand) b = .ok () b' ∧ Fits code D (p + 1) b' := by
  have hmem := List.mem_of_getElem? hi
  have hkind := hw.kinds op operand hmem
  obtain ⟨effect, he⟩ := exists_stackEffect hkind (hw.parses op operand hmem)
  obtain ⟨hpops, htarget, hnext⟩ := hd.suits p _ hi effect he
  have hu := hb.reachable hw hi
  obtain ⟨hle, hknown⟩ := hb.depth hu
  have hp : p < code.length := (List.getElem?_eq_some_iff.1 hi).1
  -- The depth after the instruction is at most that of the next position, or of this one if
  -- the flow ends here.
  obtain ⟨q, hq, hafter⟩ : ∃ q ≤ p + 1,
      max (b.depth - effect.pops) 0 + effect.pushes ≤ D.position q := by
    cases hf : op.endsFlow with
    | false =>
      have := hnext hf
      exact ⟨p + 1, Nat.le_refl _, by omega⟩
    | true =>
      have := pushes_of_endsFlow he hf
      exact ⟨p, Nat.le_succ p, by omega⟩
  have hok : ∃ b', emit op operand b = .ok () b' := by
    refine exists_emit hkind he (fun ht => ?_) (fun ht l hl d hexp => ?_) ?_
    · have := hb.depth_eq ht
      omega
    · have := hb.depth_eq ht
      rw [hb.expected l d hexp, htarget l hl, jumpExtra_eq]
      omega
    · have := hd.limit q (by omega)
      omega
  obtain ⟨b', h⟩ := hok
  obtain ⟨effect', hx⟩ := executes_of_emit h
  obtain rfl : effect = effect' := Except.ok.inj (he.symm.trans hx.effect_eq)
  refine ⟨b', h, hb.snoc hd hi h (fun hu' => ?_) (fun hu' => ?_) ?_⟩
  · rw [hx.eq] at hu' ⊢
    have hf : op.endsFlow = false := (Bool.or_eq_false_iff.1 hu').2
    have hn := hnext hf
    dsimp only
    refine ⟨by omega, fun hk => ?_⟩
    have := hknown hk
    omega
  · rw [hx.eq] at hu'
    exact .inl ⟨op, operand, rfl, by simpa [hu] using hu'⟩
  · rw [hx.eq]
    dsimp only
    by_cases hm : (max (b.depth - effect.pops) 0 + effect.pushes).toNat ≤ b.maxDepth
    · exact .inl (by omega)
    · exact .inr ⟨q, hq, by omega⟩

/-- A label that is placed once is not placed so far. -/
theorem Before.not_mem_placed (hw : WellFormed code) (hb : Before code p b)
    (hi : code[p]? = some (.label l)) : l ∉ b.placed := by
  intro hl
  have hnodup : ((code.take (p + 1)).filterMap Instruction.label?).Nodup :=
    hw.labels.sublist ((List.take_sublist (p + 1) code).filterMap _)
  rw [List.take_add_one, hi, List.filterMap_append, List.nodup_append] at hnodup
  obtain ⟨-, -, hne⟩ := hnodup
  refine hne l ?_ l (by simp [Instruction.label?]) rfl
  exact List.mem_filterMap.2 ⟨.label l, (mem_placed_replay hb).1 hl, rfl⟩

theorem fits_label (hw : WellFormed code) (hd : Consistent code D)
    (hi : code[p]? = some (.label l)) (hb : Fits code D p b) :
    ∃ b', instruction (.label l) b = .ok () b' ∧ Fits code D (p + 1) b' := by
  obtain ⟨hlabel, hnext⟩ := hd.suits p _ hi
  have hplaced := hb.before.not_mem_placed hw hi
  have hok : ∃ b', label l b = .ok () b' := by
    refine exists_label hplaced fun ht _ d hexp => ?_
    rw [hb.expected l d hexp, hlabel, hb.depth_eq ht]
  obtain ⟨b', h⟩ := hok
  refine ⟨b', h, hb.snoc hd hi h (fun _ => ?_) (fun hu => ?_) ?_⟩
  · obtain ⟨-, hp⟩ := label_eq_ok.1 h
    rw [hnext]
    cases hp with
    | handler hh =>
      have hone := hb.handlers l hh
      show (1 : Int) ≤ D.position p ∧ (_ → (1 : Int) = D.position p)
      omega
    | @adopts d hh ht hexp =>
      have := hb.expected l d hexp
      show d ≤ D.position p ∧ (_ → d = D.position p)
      omega
    | agrees hh ht =>
      have := hb.depth_eq ht
      show b.depth ≤ D.position p ∧ (_ → b.depth = D.position p)
      omega
    | guesses => exact ⟨Int.natCast_nonneg _, fun hk => by cases hk⟩
    | guessed hh hreach hk => exact hb.depth hreach
    | expects hh ht => exact hb.depth (tracked_iff.1 ht).1
  · rw [unreachable_label h] at hu
    cases hu
  · obtain ⟨-, hp⟩ := label_eq_ok.1 h
    cases hp with
    | handler hh =>
      -- The exception counts, and the handler is given its slot.
      have hone := hb.handlers l hh
      obtain ⟨q, hq, hle⟩ := hb.peak
      show max b.maxDepth 1 ≤ b.maxDepth ∨ ∃ q ≤ p + 1, max b.maxDepth 1 ≤ D.position q
      by_cases hm : 1 ≤ b.maxDepth
      · exact .inl (by omega)
      · exact .inr ⟨p, Nat.le_succ p, by omega⟩
    | _ => exact .inl (Nat.le_refl _)

theorem fits_instruction (hw : WellFormed code) (hd : Consistent code D)
    (hi : code[p]? = some i) (hb : Fits code D p b) :
    ∃ b', instruction i b = .ok () b' ∧ Fits code D (p + 1) b' := by
  cases i with
  | exec op operand => exact fits_exec hw hd hi hb
  | label l => exact fits_label hw hd hi hb
  | line number start =>
    have hnext : D.position (p + 1) = D.position p := hd.suits p _ hi
    refine ⟨_, rfl, hb.snoc hd hi rfl (fun hu => ?_) (fun hu => ?_) (.inl (Nat.le_refl _))⟩
    · rw [hnext]
      exact hb.depth hu
    · exact .inr ⟨hu, fun l hl => by cases hl⟩
  | region r =>
    obtain ⟨-, hnext⟩ := hd.suits p _ hi
    refine ⟨_, rfl, hb.snoc hd hi rfl (fun hu => ?_) (fun hu => ?_) (.inl (Nat.le_refl _))⟩
    · rw [hnext]
      exact hb.depth hu
    · exact .inr ⟨hu, fun l hl => by cases hl⟩

/-! ## The whole code -/

theorem exists_fits (hw : WellFormed code) (hd : Consistent code D) (hp : p ≤ code.length) :
    ∃ b, Fits code D p b := by
  induction p with
  | zero => exact ⟨{}, fits_start hd⟩
  | succ p ih =>
    obtain ⟨b, hb⟩ := ih (by omega)
    obtain ⟨b', -, hb'⟩ := fits_instruction hw hd (List.getElem?_eq_getElem hp) hb
    exact ⟨b', hb'⟩

/-- **Completeness of stack tracking.** Code with consistent depths is accepted, and its peak is
at most the largest of them. -/
theorem tracking_complete (hw : WellFormed code) (hd : Consistent code D) :
    ∃ c, replay code {} = .ok () c ∧ ∃ p ≤ code.length, c.maxDepth ≤ D.position p := by
  obtain ⟨c, hc⟩ := exists_fits hw hd (Nat.le_refl code.length)
  have h := hc.before
  unfold Before at h
  rw [List.take_length] at h
  exact ⟨c, h, hc.peak⟩

/-- Code whose second label is entered only by a later jump, so that its depth has to be guessed
when it is placed, and whose handler is declared last. -/
def lateEntry : List Instruction :=
  [.exec .goto (.target ⟨1⟩), .label ⟨2⟩, .exec .pop .empty, .label ⟨1⟩, .exec .iconst0 .empty,
   .exec .goto (.target ⟨2⟩), .label ⟨3⟩, .exec .athrow .empty, .region ⟨⟨1⟩, ⟨3⟩, ⟨3⟩, none⟩]

/-- The depths that the code has. -/
def lateDepths : Depths where
  position p := if p ∈ [1, 2, 5, 6, 7] then 1 else 0
  label l := if l = ⟨1⟩ then 0 else 1

theorem wellFormed_lateEntry : WellFormed lateEntry where
  kinds op operand h := by
    simp only [lateEntry, List.mem_cons, Instruction.exec.injEq, reduceCtorEq, false_or,
      List.not_mem_nil, or_false] at h
    rcases h with ⟨rfl, rfl⟩ | ⟨rfl, rfl⟩ | ⟨rfl, rfl⟩ | ⟨rfl, rfl⟩ | ⟨rfl, rfl⟩ <;> rfl
  parses op operand h := by
    simp only [lateEntry, List.mem_cons, Instruction.exec.injEq, reduceCtorEq, false_or,
      List.not_mem_nil, or_false] at h
    rcases h with ⟨rfl, rfl⟩ | ⟨rfl, rfl⟩ | ⟨rfl, rfl⟩ | ⟨rfl, rfl⟩ | ⟨rfl, rfl⟩ <;> trivial
  labels := by decide
  reentered p q op op' operand operand' hp hf hq hpq := by
    have hlabels : q ≠ 1 ∧ q ≠ 6 ∧ q < 8 := by
      rcases q with _ | _ | _ | _ | _ | _ | _ | _ | _ | q <;> simp [lateEntry] at hq ⊢
    have hends : p = 0 ∨ 5 ≤ p := by
      rcases p with _ | _ | _ | _ | _ | p <;> simp [lateEntry] at hp ⊢ <;>
        rw [← hp.1] at hf <;> cases hf
    rcases hends with rfl | hends
    · exact ⟨1, ⟨2⟩, Nat.one_pos, by omega, rfl⟩
    · have h6 : p ≠ 6 := by
        rintro rfl
        cases hp
      exact ⟨6, ⟨3⟩, by omega, by omega, rfl⟩

theorem consistent_lateEntry : Consistent lateEntry lateDepths where
  start := rfl
  limit p _ := by
    unfold lateDepths depthLimit
    dsimp only
    split <;> omega
  suits p i hi := by
    rcases p with _ | _ | _ | _ | _ | _ | _ | _ | _ | p <;> simp [lateEntry] at hi <;>
      subst hi
    all_goals first | exact ⟨rfl, rfl⟩ | (intro effect he; cases he; decide)

/-- The guess is zero where the depth is one, and the jump that tells comes last. -/
theorem tracking_complete_lateEntry :
    WellFormed lateEntry ∧ Consistent lateEntry lateDepths ∧
      ∃ c, replay lateEntry {} = .ok () c ∧ ∃ p ≤ 9, c.maxDepth ≤ lateDepths.position p :=
  ⟨wellFormed_lateEntry, consistent_lateEntry,
    tracking_complete wellFormed_lateEntry consistent_lateEntry⟩

end Builder

end BytecodeGuard
