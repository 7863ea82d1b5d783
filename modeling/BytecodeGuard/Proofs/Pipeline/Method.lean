import BytecodeGuard.Pipeline.Method

/-!
# What a transformed method comes from

A stage that succeeds passes its result on, and notes do not matter for results. So a transformed
method tells what each stage has produced: see `transformMethod_eq_ok`. The messages about it are
those of the three stages, one after the other: see `messages_transformMethod`.
-/

namespace BytecodeGuard

namespace Outcome

variable {α β : Type} {x : Outcome α} {f : α → Outcome β} {a : α} {b : β}

theorem bind_of_ok (h : x.result = .ok a) : (x >>= f).result = (f a).result := by
  show (x.andThen f).result = _
  unfold andThen
  rw [h]

theorem bind_eq_ok : (x >>= f).result = .ok b ↔ ∃ a, x.result = .ok a ∧ (f a).result = .ok b := by
  constructor
  · intro h
    cases hx : x.result with
    | ok a => exact ⟨a, rfl, by rwa [bind_of_ok hx] at h⟩
    | error fault =>
      have hf : (x >>= f).result = .error fault := by
        show (x.andThen f).result = _
        unfold andThen
        rw [hx]
      rw [hf] at h
      cases h
  · rintro ⟨a, hx, hf⟩
    rw [bind_of_ok hx, hf]

theorem note_bind {notes : Notes} {f : Unit → Outcome β} :
    (note notes >>= f).result = (f ()).result :=
  bind_of_ok rfl

theorem messages_bind (h : x.result = .ok a) :
    (x >>= f).notes.messages = x.notes.messages ++ (f a).notes.messages := by
  show (x.andThen f).notes.messages = _
  unfold andThen
  rw [h]
  rfl

theorem messages_ofExcept_bind {y : Except Fault α} (h : y = .ok a) :
    (ofExcept y >>= f).notes.messages = (f a).notes.messages :=
  messages_bind h

end Outcome

namespace Pipeline

variable {σ : Type} [Inhabited σ] {p : Pipeline σ} {a : Analysis} {source : MethodSource}
  {t : TransformedMethod}

/-- The declaration of a method after the first stage. -/
def defined (p : Pipeline σ) (a : Analysis) (source : MethodSource) : Member :=
  (DefinitionRule.applyAll p.definitions a source.member).member

theorem transformMethod_eq_ok :
    (p.transformMethod a source).result = .ok t ↔ ∃ built peak body,
      (EmissionRule.applyAll p.emitters a.config (p.defined a source) source.code).result =
        .ok built ∧
      sourcePeak source.code built = .ok peak ∧
      (p.defined a source).writeBody = .ok body ∧
      t = ⟨p.defined a source, built.code, built.maxStack, built.maxStack - peak, body⟩ := by
  unfold transformMethod
  rw [Outcome.note_bind, Outcome.note_bind, Outcome.bind_eq_ok]
  constructor
  · rintro ⟨built, hb, h⟩
    obtain ⟨peak, hp, h⟩ := Outcome.bind_eq_ok.1 h
    obtain ⟨body, hw, h⟩ := Outcome.bind_eq_ok.1 h
    exact ⟨built, peak, body, hb, hp, hw, (Except.ok.inj h).symm⟩
  · rintro ⟨built, peak, body, hb, hp, hw, rfl⟩
    refine ⟨built, hb, ?_⟩
    rw [Outcome.bind_eq_ok]
    refine ⟨peak, hp, ?_⟩
    rw [Outcome.bind_eq_ok]
    exact ⟨body, hw, rfl⟩

/-- The messages about a transformed method come stage by stage. -/
theorem messages_transformMethod (h : (p.transformMethod a source).result = .ok t) :
    (p.transformMethod a source).notes.messages =
      (DefinitionRule.applyAll p.definitions a source.member).notes.messages ++
        (ValidationRule.applyAll p.validators a.config (p.defined a source) source.code ++
          (EmissionRule.applyAll p.emitters a.config (p.defined a source)
            source.code).notes.messages) := by
  obtain ⟨built, peak, body, hb, hp, hw, -⟩ := transformMethod_eq_ok.1 h
  unfold defined at hb hw ⊢
  unfold transformMethod
  rw [Outcome.messages_bind rfl, Outcome.messages_bind rfl, Outcome.messages_bind hb,
    Outcome.messages_ofExcept_bind hp, Outcome.messages_ofExcept_bind hw]
  -- The diagnostic line at the end is no message.
  exact congrArg (_ ++ ·) (congrArg (_ ++ ·) (List.append_nil _))

end Pipeline

end BytecodeGuard
