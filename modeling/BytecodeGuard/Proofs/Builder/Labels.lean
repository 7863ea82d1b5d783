import BytecodeGuard.Proofs.Builder.Failure

/-!
# Calls and labels

A builder remembers which labels are placed and which number is next. Only a call that stands for
a label places one, and only that label; only a request for a fresh label counts on. A call finds a
label placed already only if it asks to place this label: see `placesOnly_run`.

**Theorem (`newLabel_exhausted`).** A request for a fresh label that fails changes nothing, and
whatever is called afterwards, the next request fails for the same reason.
-/

namespace BytecodeGuard

/-- The label that the call places if it succeeds. -/
def Step.places? (s : Step) : Option Label := s.appends?.bind Instruction.label?

namespace Builder

variable {b b' c : Builder} {l : Label} {target : Option Label} {stop : Option Fault}

/-- No label is placed but the target, and only the target may have been placed before. The number
of the next label is the same. -/
structure PlacesOnly (target : Option Label) (b : Builder) (stop : Option Fault) (b' : Builder) :
    Prop where
  nextLabel : b'.nextLabel = b.nextLabel
  placed : ∀ l ∈ b'.placed, l ∈ b.placed ∨ target = some l
  duplicate : ∀ l, stop = some (.duplicateLabel l) → target = some l ∧ l ∈ b.placed

theorem PlacesOnly.of_ok (hnext : b'.nextLabel = b.nextLabel)
    (hplaced : ∀ l ∈ b'.placed, l ∈ b.placed ∨ target = some l) : PlacesOnly target b none b' :=
  ⟨hnext, hplaced, fun _ h => nomatch h⟩

theorem PlacesOnly.of_error {fault : Fault} (hfault : ∀ l, fault ≠ .duplicateLabel l)
    (hnext : b'.nextLabel = b.nextLabel)
    (hplaced : ∀ l ∈ b'.placed, l ∈ b.placed ∨ target = some l) :
    PlacesOnly target b (some fault) b' :=
  ⟨hnext, hplaced, fun l h => absurd (Option.some.inj h) (hfault l)⟩

theorem PlacesOnly.of_adjusts (h : Adjusts b stop b') : PlacesOnly none b stop b' where
  nextLabel := by
    rw [h.eq]
  placed l hl := by
    rw [h.eq] at hl
    exact .inl hl
  duplicate l hstop := by
    have hlate := h.late (.duplicateLabel l) hstop
    cases hlate

theorem PlacesOnly.trans (h : PlacesOnly none b none b') (h' : PlacesOnly none b' stop c) :
    PlacesOnly none b stop c where
  nextLabel := h'.nextLabel.trans h.nextLabel
  placed l hl := (h'.placed l hl).elim (h.placed l) .inr
  duplicate l hf := absurd (h'.duplicate l hf).1 (by simp)

/-! ## Instructions -/

theorem placesOnly_emit (op : Opcode) (operand : Operand) :
    Within (PlacesOnly none) (emit op operand) := by
  rw [emit_eq]
  split_ifs with hk
  · cases he : stackEffect op operand with
    | ok effect =>
      have hadjust : Within (PlacesOnly none) (adjust op operand effect) := fun b =>
        .of_adjusts (adjusts_adjust op operand effect b)
      exact hadjust.bind .trans fun _ _ => .of_ok rfl fun _ => .inl
    | error fault =>
      have hfault : ∀ l, fault ≠ .duplicateLabel l := by
        rintro l rfl
        rcases stackEffect_eq_error he with h | ⟨descriptor, h⟩ <;> cases h
      exact fun b => .of_error hfault rfl fun _ => .inl
  · exact fun b => .of_error (fun _ => by simp) rfl fun _ => .inl

theorem placesOnly_label (l : Label) : Within (PlacesOnly (some l)) (label l) := by
  intro b
  have hplaced : ∀ l' ∈ l :: b.placed, l' ∈ b.placed ∨ some l = some l' := by
    intro l' hl'
    rcases List.mem_cons.1 hl' with rfl | hl'
    · exact .inr rfl
    · exact .inl hl'
  cases h : label l b with
  | ok _ b' =>
    rw [fault?_of_ok h, finalState_of_ok h]
    obtain ⟨-, hp⟩ := label_eq_ok.1 h
    cases hp <;> exact .of_ok rfl hplaced
  | error fault b' =>
    rw [fault?_of_error h, finalState_of_error h]
    rcases label_eq_error h with ⟨hp, rfl, rfl⟩ | ⟨d, rfl, rfl⟩
    · refine ⟨rfl, fun _ => .inl, fun l' hl' => ?_⟩
      cases hl'
      exact ⟨rfl, hp⟩
    · exact .of_error (fun _ => by simp) rfl hplaced

theorem placesOnly_instruction (i : Instruction) :
    Within (PlacesOnly i.label?) (instruction i) := by
  cases i with
  | exec op operand => exact placesOnly_emit op operand
  | label l => exact placesOnly_label l
  | line number start => exact fun b => .of_ok rfl fun _ => .inl
  | region r => exact fun b => .of_ok rfl fun _ => .inl

end Builder

/-! ## Calls -/

namespace Step

variable {b b' : Builder} {s : Step} {l : Label} {fault : Fault}

/-- Every call but the request for a fresh label. -/
theorem placesOnly_run (hs : s ≠ newLabel) : Within (Builder.PlacesOnly s.places?) s.run := by
  cases ha : s.appends? with
  | some i =>
    have hplaces : s.places? = i.label? := by
      unfold places?
      rw [ha]
      rfl
    rw [hplaces]
    exact within_run ha (Builder.placesOnly_instruction i)
  | none =>
    cases s with
    | newLabel => exact absurd rfl hs
    | declareHandler l => exact fun b => .of_ok rfl fun _ => .inl
    | resetDepth depth => exact fun b => .of_ok rfl fun _ => .inl
    | setLabelDepth l depth => exact fun b => .of_ok rfl fun _ => .inl
    | _ => cases ha

theorem nextLabel_attempt (hs : s ≠ newLabel) (b : Builder) :
    (s.attempt b).2.nextLabel = b.nextLabel := by
  rw [attempt_snd]
  exact (placesOnly_run hs b).nextLabel

/-! ## Fresh labels -/

/-- A request fails if and only if the next number is not that of a label. -/
theorem attempt_newLabel_eq_error (b : Builder) :
    (∃ fault, (newLabel.attempt b).1 = .error fault) ↔ UInt32.size ≤ b.nextLabel := by
  constructor
  · rintro ⟨fault, h⟩
    by_contra hn
    rw [attempt_newLabel_of_lt (Nat.lt_of_not_le hn)] at h
    cases h
  · intro h
    rw [attempt_newLabel_of_le h]
    exact ⟨_, rfl⟩

/-- A fresh label is not placed. -/
theorem placed_attempt_newLabel (b : Builder) :
    (newLabel.attempt b).2.placed = b.placed ∧
      ∀ l, (newLabel.attempt b).1 ≠ .error (.duplicateLabel l) := by
  rcases Nat.lt_or_ge b.nextLabel UInt32.size with h | h
  · rw [attempt_newLabel_of_lt h]
    exact ⟨rfl, fun l => by simp⟩
  · rw [attempt_newLabel_of_le h]
    exact ⟨rfl, fun l => by simp⟩

theorem mem_placed_attempt (h : l ∈ (s.attempt b).2.placed) :
    l ∈ b.placed ∨ s.places? = some l := by
  by_cases hs : s = newLabel
  · rw [hs, (placed_attempt_newLabel b).1] at h
    exact .inl h
  · rw [attempt_snd] at h
    exact (placesOnly_run hs b).placed l h

/-- A call fails for a label that is placed already only if it asks to place this label. -/
theorem duplicateLabel_attempt (h : (s.attempt b).1 = .error (.duplicateLabel l)) :
    s.places? = some l ∧ l ∈ b.placed := by
  by_cases hs : s = newLabel
  · rw [hs] at h
    exact absurd h ((placed_attempt_newLabel b).2 l)
  · exact (placesOnly_run hs b).duplicate l (fault?_of_attempt h)

/-- Once no label is left, no call changes the next number. -/
theorem nextLabel_attempt_of_le (s : Step) (h : UInt32.size ≤ b.nextLabel) :
    (s.attempt b).2.nextLabel = b.nextLabel := by
  by_cases hs : s = newLabel
  · rw [hs, attempt_newLabel_of_le h]
  · exact nextLabel_attempt hs b

/-- **No label is left.** A request that fails changes nothing, and the same request fails for the
same reason after any calls. -/
theorem newLabel_exhausted (h : (newLabel.attempt b).1 = .error fault) (steps : List Step) :
    let later := steps.foldl (fun b s => (s.attempt b).2) b
    newLabel.attempt later = (.error fault, later) := by
  have hle : UInt32.size ≤ b.nextLabel := (attempt_newLabel_eq_error b).1 ⟨fault, h⟩
  rw [attempt_newLabel_of_le hle] at h
  have hfault : Fault.labelsExhausted (b.nextLabel - 1) = fault := Except.error.inj h
  have hnext : (steps.foldl (fun b s => (s.attempt b).2) b).nextLabel = b.nextLabel := by
    clear h hfault
    induction steps generalizing b with
    | nil => rfl
    | cons s steps ih =>
      have hs := nextLabel_attempt_of_le s hle
      exact (ih (hs ▸ hle)).trans hs
  intro later
  rw [attempt_newLabel_of_le (b := later) (hnext ▸ hle), hnext, hfault]

end Step

end BytecodeGuard
