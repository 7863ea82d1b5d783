import BytecodeGuard.Instruction.Operand

/-!
# The handler registry

The handlers of one method that need a check. A handler is pending from its first registration
until it is resolved, and guarded from then on. It is never both, and it is never registered or
resolved twice.
-/

namespace BytecodeGuard

instance : Min Label := minOfLe

instance : Std.IsLinearOrder Label := by
  apply Std.IsLinearOrder.of_le
  · constructor
    intro a b h h'
    exact congrArg Label.mk (UInt32.toNat_inj.1 (Nat.le_antisymm h h'))
  · constructor
    exact fun h h' => Nat.le_trans h h'
  · constructor
    exact fun a b => Nat.le_total a.index b.index

/-- The handlers of one method that need a check. -/
structure HandlerRegistry where
  /-- Registered, but without a check so far. -/
  pending : List Label := []
  /-- With a check. -/
  guarded : List Label := []
deriving DecidableEq

namespace HandlerRegistry

/-- Registers a handler, and reports whether it was new. -/
def register (r : HandlerRegistry) (l : Label) : Bool × HandlerRegistry :=
  if l ∈ r.guarded ∨ l ∈ r.pending then (false, r) else (true, { r with pending := l :: r.pending })

/-- Marks a pending handler as guarded, and reports whether it was pending. -/
def resolve (r : HandlerRegistry) (l : Label) : Bool × HandlerRegistry :=
  if l ∈ r.pending then (true, ⟨r.pending.filter (· ≠ l), l :: r.guarded⟩) else (false, r)

/-- Whether a handler is registered and has no check. -/
def isPending (r : HandlerRegistry) (l : Label) : Bool := l ∈ r.pending

/-- The lowest pending handler. -/
def firstPending? (r : HandlerRegistry) : Option Label := r.pending.min?

theorem mem_pending_register (r : HandlerRegistry) (l l' : Label) :
    l' ∈ (r.register l).2.pending ↔ l' ∈ r.pending ∨ l' = l ∧ l ∉ r.guarded := by
  by_cases h : l ∈ r.guarded ∨ l ∈ r.pending
  · simp only [register, if_pos h]
    refine ⟨Or.inl, ?_⟩
    rintro (hl | ⟨rfl, hn⟩)
    · exact hl
    · exact h.resolve_left hn
  · simp only [register, if_neg h, List.mem_cons]
    rw [not_or] at h
    exact ⟨fun hl => hl.elim (fun e => .inr ⟨e, h.1⟩) .inl, fun hl => hl.elim .inr (.inl ·.1)⟩

@[simp]
theorem guarded_register (r : HandlerRegistry) (l : Label) :
    (r.register l).2.guarded = r.guarded := by
  unfold register
  split <;> rfl

theorem mem_pending_resolve (r : HandlerRegistry) (l l' : Label) :
    l' ∈ (r.resolve l).2.pending ↔ l' ∈ r.pending ∧ l' ≠ l := by
  by_cases h : l ∈ r.pending
  · simp [resolve, h]
  · simp only [resolve, if_neg h]
    exact ⟨fun hl => ⟨hl, fun e => h (e ▸ hl)⟩, And.left⟩

theorem mem_guarded_resolve (r : HandlerRegistry) (l l' : Label) :
    l' ∈ (r.resolve l).2.guarded ↔ l' ∈ r.guarded ∨ l' = l ∧ l ∈ r.pending := by
  by_cases h : l ∈ r.pending
  · simp [resolve, h, or_comm]
  · simp [resolve, h]

theorem firstPending?_eq_none {r : HandlerRegistry} :
    r.firstPending? = none ↔ r.pending = [] :=
  List.min?_eq_none_iff

theorem firstPending?_eq_some {r : HandlerRegistry} {l : Label} :
    r.firstPending? = some l ↔ l ∈ r.pending ∧ ∀ l' ∈ r.pending, l ≤ l' :=
  List.min?_eq_some_iff

/-- The number of handlers with a check. -/
def guardedCount (r : HandlerRegistry) : Nat := r.guarded.length

end HandlerRegistry

end BytecodeGuard
