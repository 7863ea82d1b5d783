import Mathlib.Data.List.Induction

/-!
# Actions that may fail

Builders and emissions run actions that change a state and may stop with a fault. Running a list
of actions succeeds if every action does, each on the state that the one before it left, so a
run that succeeds can be cut at any place, and what every action preserves holds at its end.

`Within` states what holds of every run of an action, one that fails included.
`Agree` compares two actions on states of different types: it is how a simulation is stated.
`Alike` compares two actions on states of which a function forgets a part.
-/

namespace BytecodeGuard

variable {ε σ τ α β γ δ : Type}

/-! ## One action after the other -/

theorem bind_of_ok {x : EStateM ε σ α} {f : α → EStateM ε σ β} {s r : σ} {a : α}
    (h : x s = .ok a r) : (x >>= f) s = f a r := by
  show EStateM.bind x f s = f a r
  unfold EStateM.bind
  rw [h]

theorem bind_of_error {x : EStateM ε σ α} {f : α → EStateM ε σ β} {s r : σ} {e : ε}
    (h : x s = .error e r) : (x >>= f) s = .error e r := by
  show EStateM.bind x f s = .error e r
  unfold EStateM.bind
  rw [h]

/-- Two actions succeed in sequence if the second succeeds where the first has ended. -/
theorem bind_eq_ok {x : EStateM ε σ α} {f : α → EStateM ε σ β} {s t : σ} {b : β} :
    (x >>= f) s = .ok b t ↔ ∃ a r, x s = .ok a r ∧ f a r = .ok b t := by
  constructor
  · intro h
    cases hx : x s with
    | ok a r => exact ⟨a, r, rfl, by rwa [bind_of_ok hx] at h⟩
    | error e r => rw [bind_of_error hx] at h; cases h
  · rintro ⟨a, r, hx, hf⟩
    rw [bind_of_ok hx, hf]

/-- The state that an action leaves, however it goes. -/
def finalState (x : EStateM ε σ α) (s : σ) : σ :=
  match x s with
  | .ok _ t => t
  | .error _ t => t

theorem finalState_of_ok {x : EStateM ε σ α} {s t : σ} {a : α} (h : x s = .ok a t) :
    finalState x s = t := by
  unfold finalState
  rw [h]

theorem finalState_of_error {x : EStateM ε σ α} {s t : σ} {e : ε} (h : x s = .error e t) :
    finalState x s = t := by
  unfold finalState
  rw [h]

/-- The fault that ends an action, if there is one. -/
def fault? (x : EStateM ε σ α) (s : σ) : Option ε :=
  match x s with
  | .ok _ _ => none
  | .error e _ => some e

theorem fault?_of_ok {x : EStateM ε σ α} {s t : σ} {a : α} (h : x s = .ok a t) :
    fault? x s = none := by
  unfold fault?
  rw [h]

theorem fault?_of_error {x : EStateM ε σ α} {s t : σ} {e : ε} (h : x s = .error e t) :
    fault? x s = some e := by
  unfold fault?
  rw [h]

/-- An action succeeds if it has a result. -/
theorem exists_of_run'_eq_some {x : EStateM ε σ α} {s : σ} {a : α} (h : x.run' s = some a) :
    ∃ t, x s = .ok a t := by
  unfold EStateM.run' EStateM.run at h
  cases hx : x s with
  | ok b t =>
    rw [hx] at h
    cases h
    exact ⟨t, rfl⟩
  | error e t =>
    rw [hx] at h
    cases h

/-! ## A list of actions -/

theorem forM_cons_eq_ok {f : α → EStateM ε σ Unit} {a : α} {as : List α} {s t : σ} :
    (a :: as).forM f s = .ok () t ↔ ∃ r, f a s = .ok () r ∧ as.forM f r = .ok () t := by
  show (f a >>= fun _ => as.forM f) s = .ok () t ↔ _
  rw [bind_eq_ok]
  exact ⟨fun ⟨_, r, ha, has⟩ => ⟨r, ha, has⟩, fun ⟨r, ha, has⟩ => ⟨(), r, ha, has⟩⟩

/-- A run that succeeds can be cut anywhere. -/
theorem forM_append_eq_ok {f : α → EStateM ε σ Unit} {as bs : List α} {s t : σ} :
    (as ++ bs).forM f s = .ok () t ↔
      ∃ r, as.forM f s = .ok () r ∧ bs.forM f r = .ok () t := by
  induction as generalizing s with
  | nil =>
    constructor
    · exact fun h => ⟨s, rfl, h⟩
    · rintro ⟨r, hs, ht⟩
      cases hs
      exact ht
  | cons a as ih =>
    rw [List.cons_append, forM_cons_eq_ok]
    simp only [ih, forM_cons_eq_ok]
    constructor
    · rintro ⟨r, ha, q, has, hbs⟩
      exact ⟨q, ⟨r, ha, has⟩, hbs⟩
    · rintro ⟨q, ⟨r, ha, has⟩, hbs⟩
      exact ⟨r, ha, q, has, hbs⟩

theorem forM_singleton_eq_ok {f : α → EStateM ε σ Unit} {a : α} {s t : σ} :
    [a].forM f s = .ok () t ↔ f a s = .ok () t := by
  rw [forM_cons_eq_ok]
  constructor
  · rintro ⟨r, ha, hr⟩
    cases hr
    exact ha
  · exact fun h => ⟨t, h, rfl⟩

/-- **Invariants of runs.** What holds of the empty run, and of a longer run whenever it holds of
the run without its last action, holds of every run that succeeds. -/
theorem forM_induction {f : α → EStateM ε σ Unit} {s : σ} {motive : List α → σ → Prop}
    (nil : motive [] s)
    (snoc : ∀ as a r t, as.forM f s = .ok () r → motive as r → f a r = .ok () t →
      motive (as ++ [a]) t)
    {as : List α} {t : σ} (h : as.forM f s = .ok () t) : motive as t := by
  induction as using List.reverseRecOn generalizing t with
  | nil =>
    cases h
    exact nil
  | append_singleton as a ih =>
    obtain ⟨r, has, ha⟩ := forM_append_eq_ok.1 h
    exact snoc as a r t has (ih has) (forM_singleton_eq_ok.1 ha)

/-! ## What holds of every run -/

/-- The relation holds of every run: of the state before it, of the fault that ends it, if there is
one, and of the state that it leaves. -/
def Within (R : σ → Option ε → σ → Prop) (x : EStateM ε σ α) : Prop :=
  ∀ s, R s (fault? x s) (finalState x s)

theorem Within.bind {R : σ → Option ε → σ → Prop} {x : EStateM ε σ α} {g : α → EStateM ε σ β}
    (trans : ∀ {s t u e}, R s none t → R t e u → R s e u) (hx : Within R x)
    (hg : ∀ a, Within R (g a)) : Within R (x >>= g) := by
  intro s
  have hfirst := hx s
  cases h : x s with
  | ok a t =>
    rw [fault?_of_ok h, finalState_of_ok h] at hfirst
    have hsame : (x >>= g) s = g a t := bind_of_ok h
    unfold fault? finalState
    rw [hsame]
    exact trans hfirst (hg a t)
  | error e t =>
    rw [fault?_of_error h, finalState_of_error h] at hfirst
    have hsame : (x >>= g) s = .error e t := bind_of_error h
    rw [fault?_of_error hsame, finalState_of_error hsame]
    exact hfirst

theorem Within.forM {R : σ → Option ε → σ → Prop} {f : α → EStateM ε σ Unit}
    (refl : ∀ s, R s none s) (trans : ∀ {s t u e}, R s none t → R t e u → R s e u)
    (hf : ∀ a, Within R (f a)) (as : List α) : Within R (as.forM f) := by
  induction as with
  | nil => exact refl
  | cons a as ih => exact (hf a).bind trans fun _ => ih

/-! ## Actions that do not look -/

/-- The result with its state changed. -/
def mapState (f : σ → σ) : EStateM.Result ε σ α → EStateM.Result ε σ α
  | .ok a s => .ok a (f s)
  | .error e s => .error e (f s)

/-- The action does not look at what the function changes, and leaves it alone. -/
def Commutes (f : σ → σ) (x : EStateM ε σ α) : Prop := ∀ s, x (f s) = mapState f (x s)

theorem Commutes.bind {f : σ → σ} {x : EStateM ε σ α} {g : α → EStateM ε σ β}
    (hx : Commutes f x) (hg : ∀ a, Commutes f (g a)) : Commutes f (x >>= g) := by
  intro s
  have hs := hx s
  cases h : x s with
  | ok a r =>
    rw [h] at hs
    rw [bind_of_ok h, bind_of_ok hs]
    exact hg a r
  | error e r =>
    rw [h] at hs
    rw [bind_of_error h, bind_of_error hs]
    rfl

theorem Commutes.forM {f : σ → σ} {g : α → EStateM ε σ Unit} (hg : ∀ a, Commutes f (g a))
    (as : List α) : Commutes f (as.forM g) := by
  induction as with
  | nil => exact fun _ => rfl
  | cons a as ih => exact (hg a).bind fun _ => ih

/-! ## States that look alike -/

/-- Actions that go the same way, and leave states that look alike, go on doing so if what follows
does. -/
theorem mapState_bind {f : σ → σ} {x y : EStateM ε σ α} {g h : α → EStateM ε σ β} {s t : σ}
    (hxy : mapState f (x s) = mapState f (y t))
    (hgh : ∀ a s' t', x s = .ok a s' → y t = .ok a t' → f s' = f t' →
      mapState f (g a s') = mapState f (h a t')) :
    mapState f ((x >>= g) s) = mapState f ((y >>= h) t) := by
  cases hx : x s with
  | ok a s' =>
    cases hy : y t with
    | ok b t' =>
      rw [hx, hy] at hxy
      obtain ⟨rfl, hst⟩ := EStateM.Result.ok.inj hxy
      rw [bind_of_ok hx, bind_of_ok hy]
      exact hgh a s' t' hx hy hst
    | error e t' =>
      rw [hx, hy] at hxy
      cases hxy
  | error e s' =>
    cases hy : y t with
    | ok b t' =>
      rw [hx, hy] at hxy
      cases hxy
    | error e' t' =>
      rw [hx, hy] at hxy
      obtain ⟨rfl, hst⟩ := EStateM.Result.error.inj hxy
      rw [bind_of_error hx, bind_of_error hy]
      exact congrArg (EStateM.Result.error e) hst

/-- From states that the function does not tell apart, both actions go the same way, faults
included, and leave states that it does not tell apart. -/
def Alike (f : σ → σ) (x y : EStateM ε σ α) : Prop :=
  ∀ s t, f s = f t → mapState f (x s) = mapState f (y t)

theorem Commutes.alike {f : σ → σ} {x : EStateM ε σ α} (hx : Commutes f x) : Alike f x x := by
  intro s t h
  rw [← hx s, ← hx t, h]

theorem Alike.bind {f : σ → σ} {x y : EStateM ε σ α} {g h : α → EStateM ε σ β}
    (hxy : Alike f x y) (hgh : ∀ a, Alike f (g a) (h a)) : Alike f (x >>= g) (y >>= h) := by
  intro s t hst
  apply mapState_bind (hxy s t hst)
  intro a s' t' _ _ hst'
  exact hgh a s' t' hst'

theorem Alike.forM {f : σ → σ} {g h : α → EStateM ε σ Unit} {as : List α}
    (hgh : ∀ a ∈ as, Alike f (g a) (h a)) : Alike f (as.forM g) (as.forM h) := by
  induction as with
  | nil => exact fun s t hst => congrArg (EStateM.Result.ok ()) hst
  | cons a as ih =>
    have hfirst := hgh a List.mem_cons_self
    have hothers := ih fun a' ha' => hgh a' (List.mem_cons_of_mem a ha')
    exact hfirst.bind fun _ => hothers

/-! ## Actions on two states -/

/-- Both actions succeed and leave related states, or both stop with the same fault. -/
inductive Agree (R : σ → τ → Prop) : EStateM.Result ε σ α → EStateM.Result ε τ β → Prop
  | ok {a : α} {b : β} {s : σ} {t : τ} (h : R s t) : Agree R (.ok a s) (.ok b t)
  | error {e : ε} {s : σ} {t : τ} : Agree R (.error e s) (.error e t)

theorem Agree.bind {R Q : σ → τ → Prop} {x : EStateM ε σ α} {y : EStateM ε τ β}
    {f : α → EStateM ε σ γ} {g : β → EStateM ε τ δ} {s : σ} {t : τ}
    (h : Agree R (x s) (y t)) (hf : ∀ a b s t, R s t → Agree Q (f a s) (g b t)) :
    Agree Q ((x >>= f) s) ((y >>= g) t) := by
  generalize hx : x s = p at h
  generalize hy : y t = q at h
  cases h with
  | ok h =>
    rw [bind_of_ok hx, bind_of_ok hy]
    exact hf _ _ _ _ h
  | error =>
    rw [bind_of_error hx, bind_of_error hy]
    exact .error

end BytecodeGuard
