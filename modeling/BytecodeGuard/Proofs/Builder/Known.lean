import BytecodeGuard.Proofs.Builder.Calls
import BytecodeGuard.Proofs.Depth.Peak
import BytecodeGuard.Proofs.Emission.Fresh

/-!
# Labels that a builder knows

A builder knows a label if it is placed, if it is the entry of a handler, or if a depth is expected
there. Nothing makes a label known but a call that mentions it (`mentions_of_known`), and a label
that is not known can be placed anywhere: the code goes on with the depth it has, or with none after
code that does not get there (`exists_label_of_unknown`). The depth at which it goes on is never
negative (`nonneg_calls`).

So a label that was handed out last is not known as long as calls mention no labels but those that
were handed out before.
-/

namespace BytecodeGuard

/-- The call places the label or refers to it. -/
inductive Step.Mentions : Step → Label → Prop
  | appended {s : Step} {i : Instruction} {l : Label} (hs : s.appends? = some i)
      (h : i.Mentions l) : Mentions s l
  | declared (l : Label) : Mentions (.declareHandler l) l
  | expected (l : Label) (depth : UInt16) : Mentions (.setLabelDepth l depth) l

namespace Builder

variable {b b' : Builder} {i : Instruction} {l : Label} {s : Step} {steps : List Step}

/-- The builder has come across the label. -/
def Knows (b : Builder) (l : Label) : Prop :=
  l ∈ b.placed ∨ l ∈ b.handlers ∨ ∃ d, b.expected? l = some d

/-! ## What makes a label known -/

theorem known_instruction (h : instruction i b = .ok () b') (hl : b'.Knows l) :
    b.Knows l ∨ i.Mentions l := by
  rcases hl with hl | hl | ⟨d, hd⟩
  · rcases (mem_placed_instruction h).1 hl with hl | rfl
    · exact .inl (.inl hl)
    · exact .inr (.placed l)
  · rcases (mem_handlers_instruction h).1 hl with hl | hi
    · exact .inl (.inr (.inl hl))
    · cases i <;> cases hi
      exact .inr (.handler _)
  · cases reason_of_instruction h hd with
    | earlier hd => exact .inl (.inr (.inr ⟨d, hd⟩))
    | declared hi =>
      cases i <;> cases hi
      exact .inr (.handler _)
    | placed hi =>
      subst hi
      exact .inr (.placed l)
    | jump hi _ _ hl =>
      subst hi
      exact .inr (mem_labels_iff.1 hl)

/-- An expectation makes a label known, and no other. -/
theorem known_expect {l' : Label} {d : Int} (hl : (b.expect l' d).Knows l) :
    b.Knows l ∨ l = l' := by
  by_cases hne : l = l'
  · exact .inr hne
  · rcases hl with hl | hl | ⟨d', hd⟩
    · exact .inl (.inl hl)
    · exact .inl (.inr (.inl hl))
    · rw [expected?_expect_of_ne hne] at hd
      exact .inl (.inr (.inr ⟨d', hd⟩))

theorem known_addHandler {l' : Label} (hl : (b.addHandler l').Knows l) : b.Knows l ∨ l = l' := by
  rcases known_expect hl with hl | hl
  · rcases hl with hl | hl | hd
    · exact .inl (.inl hl)
    · rcases List.mem_cons.1 hl with hl | hl
      · exact .inr hl
      · exact .inl (.inr (.inl hl))
    · exact .inl (.inr (.inr hd))
  · exact .inr hl

theorem known_does (h : Does s b b') (hl : b'.Knows l) : b.Knows l ∨ s.Mentions l := by
  cases h with
  | appends hs hi => exact (known_instruction hi hl).imp_right (.appended hs)
  | handsOut => exact .inl hl
  | declares l' =>
    rcases known_addHandler hl with hl | rfl
    · exact .inl hl
    · exact .inr (.declared l)
  | resets => exact .inl hl
  | expects l' depth =>
    rcases known_expect hl with hl | rfl
    · exact .inl hl
    · exact .inr (.expected l depth)

/-- **Known labels.** After calls to a new builder, a label is known only if one of the calls
mentions it. -/
theorem mentions_of_known {base : Nat} (h : calls steps (ofLabelBase base) = .ok () b)
    (hl : b.Knows l) : ∃ s ∈ steps, s.Mentions l := by
  refine calls_invariant (P := fun b => ∀ l, b.Knows l → ∃ s ∈ steps, s.Mentions l) ?_ h ?_ l hl
  · intro s hs b b' hdoes hb l hl
    exact (known_does hdoes hl).elim (hb l) fun hmentions => ⟨s, hs, hmentions⟩
  · rintro l (hl | hl | ⟨d, hd⟩)
    · cases hl
    · cases hl
    · cases hd

/-! ## The depth is not negative -/

theorem Nonneg.expect {d : Int} (hb : b.Nonneg) (hd : 0 ≤ d) : (b.expect l d).Nonneg := by
  refine ⟨hb.1, fun l' d' hd' => ?_⟩
  rw [expected?_expect] at hd'
  split_ifs at hd' with hl
  · cases hd'
    exact hd
  · exact hb.2 l' d' hd'

theorem nonneg_does (h : Does s b b') (hb : b.Nonneg) : b'.Nonneg := by
  cases h with
  | appends hs hi => exact nonneg_instruction hi hb
  | handsOut => exact hb
  | declares l =>
    exact Nonneg.expect (b := { b with handlers := l :: b.handlers }) hb Int.one_nonneg
  | resets depth => exact ⟨Int.natCast_nonneg _, hb.2⟩
  | expects l depth => exact hb.expect (Int.natCast_nonneg _)

theorem nonneg_calls {base : Nat} (h : calls steps (ofLabelBase base) = .ok () b) : b.Nonneg :=
  calls_invariant (fun _ _ _ _ hdoes hb => nonneg_does hdoes hb) h
    ⟨Int.le_refl 0, fun l d hd => by cases hd⟩

/-! ## Placing a label that is not known -/

/-- The depth that the code after a label begins with if the label is not known. -/
def entryDepth (b : Builder) : Int := if b.unreachable then 0 else b.depth

theorem exists_label_of_unknown (hl : ¬b.Knows l) :
    ∃ b', instruction (.label l) b = .ok () b' ∧ b'.depth = b.entryDepth ∧
      b'.maxDepth = b.maxDepth := by
  have hp : l ∉ b.placed := fun h => hl (.inl h)
  have hh : l ∉ b.handlers := fun h => hl (.inr (.inl h))
  have he : b.expected? l = none :=
    Option.eq_none_iff_forall_ne_some.2 fun d hd => hl (.inr (.inr ⟨d, hd⟩))
  unfold entryDepth
  cases hu : b.unreachable with
  | true => exact ⟨_, label_eq_ok.2 ⟨hp, .guesses hh hu he⟩, rfl, rfl⟩
  | false =>
    cases hd : b.depthUnknown with
    | true => exact ⟨_, label_eq_ok.2 ⟨hp, .guessed hh hu hd he⟩, rfl, rfl⟩
    | false => exact ⟨_, label_eq_ok.2 ⟨hp, .expects hh (tracked_iff.2 ⟨hu, hd⟩) he⟩, rfl, rfl⟩

end Builder

end BytecodeGuard
