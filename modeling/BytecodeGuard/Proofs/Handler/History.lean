import BytecodeGuard.Handler.Registry
import Mathlib.Data.List.Nodup
import Mathlib.Data.Nat.Find
import Mathlib.Tactic.Common

/-!
# What the handler registry knows of its calls

Handlers are registered and resolved in any order and any number of times. Only two of the calls
for a label matter: the first registration, and the first resolution from there on.

**Theorem (`registry_history`).** These two calls, and no others, are answered with `true`. A label
is pending after the one and before the other, and never pending and guarded at once. The lowest
pending label is the least of them, and the number of guarded labels is that of the resolutions
that were answered with `true`, of which there is at most one for each label.

`Registered` and `Resolved` speak about the list of calls only. What the registry holds after a
number of calls is said in these words by `Remembers`. One call keeps it up (`remembers_register`,
`remembers_resolve`), and so do any calls (`remembers_after`).
-/

namespace BytecodeGuard

namespace HandlerRegistry

/-! ## Calls -/

/-- A call that may change the registry. -/
inductive Call where
  | register (l : Label)
  | resolve (l : Label)
deriving DecidableEq

/-- The reply to a call, and the registry after it. -/
def perform (r : HandlerRegistry) : Call → Bool × HandlerRegistry
  | .register l => r.register l
  | .resolve l => r.resolve l

/-- The registry after calls, in order. -/
def performAll (calls : List Call) (r : HandlerRegistry) : HandlerRegistry :=
  calls.foldl (fun r c => (r.perform c).2) r

/-- The calls, each with the reply to it. -/
def replies (r : HandlerRegistry) : List Call → List (Call × Bool)
  | [] => []
  | c :: calls => (c, (r.perform c).1) :: replies (r.perform c).2 calls

/-- What the first calls make of a new registry. -/
def after (calls : List Call) (n : Nat) : HandlerRegistry := performAll (calls.take n) {}

/-- The label of a resolution that was answered with `true`. -/
def resolution? : Call × Bool → Option Label
  | (.resolve l, true) => some l
  | _ => none

/-- The labels that the first calls to a new registry have resolved, in order. -/
def resolutions (calls : List Call) (n : Nat) : List Label :=
  ((replies {} calls).take n).filterMap resolution?

variable {calls : List Call} {c : Call} {l l' : Label} {i j n start : Nat} {r : HandlerRegistry}

theorem getElem?_replies (r : HandlerRegistry) (calls : List Call) (n : Nat) :
    (replies r calls)[n]? =
      calls[n]?.map fun c => (c, ((performAll (calls.take n) r).perform c).1) := by
  induction calls generalizing r n with
  | nil => simp [replies]
  | cons c calls ih =>
    cases n with
    | zero => rfl
    | succ n => exact ih (r.perform c).2 n

theorem after_succ (h : calls[n]? = some c) :
    after calls (n + 1) = ((after calls n).perform c).2 := by
  unfold after performAll
  rw [List.take_add_one, h, List.foldl_append]
  rfl

theorem after_succ_of_none (h : calls[n]? = none) : after calls (n + 1) = after calls n := by
  unfold after
  rw [List.take_add_one, h, Option.toList_none, List.append_nil]

/-- **Invariants of the registry.** What holds of a new registry, and after one more call whenever
it holds before, holds after any number of calls. -/
theorem after_induction {motive : Nat → HandlerRegistry → Prop} (zero : motive 0 {})
    (none : ∀ n, calls[n]? = none → motive n (after calls n) → motive (n + 1) (after calls n))
    (some : ∀ n c, calls[n]? = some c → motive n (after calls n) →
      motive (n + 1) ((after calls n).perform c).2)
    (n : Nat) : motive n (after calls n) := by
  induction n with
  | zero => exact zero
  | succ n ih =>
    cases hc : calls[n]? with
    | none =>
      rw [after_succ_of_none hc]
      exact none n hc ih
    | some c =>
      rw [after_succ hc]
      exact some n c hc ih

theorem getElem?_replies_of_some (h : calls[n]? = some c) :
    (replies {} calls)[n]? = some (c, ((after calls n).perform c).1) := by
  rw [getElem?_replies, h]
  rfl

/-- A call is answered with `true` if the registry at this time answers so. -/
theorem getElem?_replies_eq_true :
    (replies {} calls)[n]? = some (c, true) ↔
      calls[n]? = some c ∧ ((after calls n).perform c).1 = true := by
  constructor
  · intro h
    rw [getElem?_replies] at h
    obtain ⟨c', hc, heq⟩ := Option.map_eq_some_iff.1 h
    obtain ⟨rfl, hreply⟩ := Prod.mk.inj heq
    exact ⟨hc, hreply⟩
  · rintro ⟨hc, hreply⟩
    rw [getElem?_replies_of_some hc, hreply]

theorem resolutions_succ (h : calls[n]? = some c) :
    resolutions calls (n + 1) =
      resolutions calls n ++ (resolution? (c, ((after calls n).perform c).1)).toList := by
  unfold resolutions
  rw [List.take_add_one, getElem?_replies_of_some h, List.filterMap_append]
  cases hreply : resolution? (c, ((after calls n).perform c).1) <;> simp [hreply]

theorem resolutions_succ_of_none (h : calls[n]? = none) :
    resolutions calls (n + 1) = resolutions calls n := by
  unfold resolutions
  rw [List.take_add_one, getElem?_replies, h, Option.map_none, Option.toList_none,
    List.append_nil]

/-! ## First calls -/

/-- The first call of its kind from a place on. -/
structure FirstFrom (calls : List Call) (c : Call) (start i : Nat) : Prop where
  le : start ≤ i
  call : calls[i]? = some c
  first : ∀ j, start ≤ j → j < i → calls[j]? ≠ some c

/-- The call registers the label for the first time. -/
def Registered (calls : List Call) (l : Label) (i : Nat) : Prop :=
  FirstFrom calls (.register l) 0 i

/-- The call resolves the label for the first time after its first registration. -/
def Resolved (calls : List Call) (l : Label) (j : Nat) : Prop :=
  ∃ i, Registered calls l i ∧ FirstFrom calls (.resolve l) i j

/-- The label is registered by one of the first calls. -/
def RegisteredBefore (calls : List Call) (l : Label) (n : Nat) : Prop :=
  ∃ i < n, Registered calls l i

/-- The label is resolved by one of the first calls. -/
def ResolvedBefore (calls : List Call) (l : Label) (n : Nat) : Prop :=
  ∃ j < n, Resolved calls l j

theorem FirstFrom.unique (h : FirstFrom calls c start i) (h' : FirstFrom calls c start j) :
    i = j := by
  rcases Nat.lt_trichotomy i j with hlt | heq | hlt
  · exact absurd h.call (h'.first i h.le hlt)
  · exact heq
  · exact absurd h'.call (h.first j h'.le hlt)

/-- Where there is a call of a kind, there is a first one. -/
theorem exists_firstFrom (hle : start ≤ i) (h : calls[i]? = some c) :
    ∃ j ≤ i, FirstFrom calls c start j := by
  have hex : ∃ j, start ≤ j ∧ calls[j]? = some c := ⟨i, hle, h⟩
  obtain ⟨hfrom, hcall⟩ := Nat.find_spec hex
  refine ⟨Nat.find hex, Nat.find_min' hex ⟨hle, h⟩, hfrom, hcall, ?_⟩
  intro j hj hlt hc
  exact Nat.find_min hex hlt ⟨hj, hc⟩

/-- A call is the first of its kind if none before it is. -/
theorem firstFrom_iff : FirstFrom calls c start i ↔
    start ≤ i ∧ calls[i]? = some c ∧ ¬∃ j < i, FirstFrom calls c start j := by
  constructor
  · intro hi
    refine ⟨hi.le, hi.call, ?_⟩
    rintro ⟨j, hlt, hj⟩
    exact absurd (hj.unique hi) (Nat.ne_of_lt hlt)
  · rintro ⟨hle, hcall, hnone⟩
    obtain ⟨j, hle', hj⟩ := exists_firstFrom hle hcall
    rcases Nat.lt_or_eq_of_le hle' with hlt | rfl
    · exact absurd ⟨j, hlt, hj⟩ hnone
    · exact hj

/-- The first registration is one that comes before any other. -/
theorem registered_iff : Registered calls l n ↔
    calls[n]? = some (.register l) ∧ ¬RegisteredBefore calls l n := by
  unfold Registered
  rw [firstFrom_iff]
  exact and_iff_right (Nat.zero_le n)

/-- The resolution that counts is one of a label that is registered and not resolved so far. -/
theorem resolved_iff : Resolved calls l n ↔
    calls[n]? = some (.resolve l) ∧ RegisteredBefore calls l n ∧ ¬ResolvedBefore calls l n := by
  constructor
  · rintro ⟨i, hi, hn⟩
    have hne : i ≠ n := by
      rintro rfl
      simpa [hi.call] using hn.call
    refine ⟨hn.call, ⟨i, Nat.lt_of_le_of_ne hn.le hne, hi⟩, ?_⟩
    rintro ⟨j, hlt, i', hi', hj⟩
    -- Both resolutions are the first one from the same registration on.
    obtain rfl := hi.unique hi'
    exact absurd (hj.unique hn) (Nat.ne_of_lt hlt)
  · rintro ⟨hcall, ⟨i, hlt, hi⟩, hnone⟩
    refine ⟨i, hi, firstFrom_iff.2 ⟨Nat.le_of_lt hlt, hcall, ?_⟩⟩
    rintro ⟨j, hj, hfirst⟩
    exact hnone ⟨j, hj, i, hi, hfirst⟩

/-- A label that is resolved was registered before. -/
theorem ResolvedBefore.registeredBefore (h : ResolvedBefore calls l n) :
    RegisteredBefore calls l n := by
  obtain ⟨j, hj, hl⟩ := h
  obtain ⟨-, ⟨i, hi, hr⟩, -⟩ := resolved_iff.1 hl
  exact ⟨i, Nat.lt_trans hi hj, hr⟩

theorem registeredBefore_succ :
    RegisteredBefore calls l (n + 1) ↔ RegisteredBefore calls l n ∨ Registered calls l n :=
  Nat.exists_lt_succ_right

theorem resolvedBefore_succ :
    ResolvedBefore calls l (n + 1) ↔ ResolvedBefore calls l n ∨ Resolved calls l n :=
  Nat.exists_lt_succ_right

/-! ### One more call -/

/-- Only a registration of the label can be its first one. -/
theorem registeredBefore_succ_of_ne (h : calls[n]? ≠ some (.register l)) :
    RegisteredBefore calls l (n + 1) ↔ RegisteredBefore calls l n := by
  rw [registeredBefore_succ]
  exact or_iff_left fun hl => h (registered_iff.1 hl).1

theorem resolvedBefore_succ_of_ne (h : calls[n]? ≠ some (.resolve l)) :
    ResolvedBefore calls l (n + 1) ↔ ResolvedBefore calls l n := by
  rw [resolvedBefore_succ]
  exact or_iff_left fun hl => h (resolved_iff.1 hl).1

theorem registeredBefore_register (h : calls[n]? = some (.register l)) :
    RegisteredBefore calls l' (n + 1) ↔ RegisteredBefore calls l' n ∨ l' = l := by
  by_cases hl : l' = l
  · subst hl
    rw [registeredBefore_succ, registered_iff]
    tauto
  · rw [registeredBefore_succ_of_ne (by simp [h, Ne.symm hl])]
    tauto

theorem resolvedBefore_resolve (h : calls[n]? = some (.resolve l)) :
    ResolvedBefore calls l' (n + 1) ↔
      ResolvedBefore calls l' n ∨ l' = l ∧ RegisteredBefore calls l n := by
  by_cases hl : l' = l
  · subst hl
    rw [resolvedBefore_succ, resolved_iff]
    tauto
  · rw [resolvedBefore_succ_of_ne (by simp [h, Ne.symm hl])]
    tauto

/-! ## What the registry holds -/

/-- The registry holds what the first calls come to. -/
structure Remembers (calls : List Call) (n : Nat) (r : HandlerRegistry) : Prop where
  pending : ∀ l, l ∈ r.pending ↔ RegisteredBefore calls l n ∧ ¬ResolvedBefore calls l n
  guarded : ∀ l, l ∈ r.guarded ↔ ResolvedBefore calls l n

theorem Remembers.not_mem_guarded (h : Remembers calls n r) (hp : l ∈ r.pending) :
    l ∉ r.guarded :=
  fun hg => ((h.pending l).1 hp).2 ((h.guarded l).1 hg)

/-- The registry knows the labels that were registered. -/
theorem Remembers.known_iff (h : Remembers calls n r) :
    (l ∈ r.guarded ∨ l ∈ r.pending) ↔ RegisteredBefore calls l n := by
  rw [h.guarded, h.pending]
  have himp : ResolvedBefore calls l n → RegisteredBefore calls l n :=
    ResolvedBefore.registeredBefore
  tauto

/-- A registration is answered with `true` if it is the first one. -/
theorem Remembers.registered_iff (h : Remembers calls n r) : Registered calls l n ↔
    calls[n]? = some (.register l) ∧ (r.register l).1 = true := by
  rw [HandlerRegistry.registered_iff, ← h.known_iff]
  unfold register
  split <;> simp_all

/-- A resolution is answered with `true` if it is the one that counts. -/
theorem Remembers.resolved_iff (h : Remembers calls n r) : Resolved calls l n ↔
    calls[n]? = some (.resolve l) ∧ (r.resolve l).1 = true := by
  rw [HandlerRegistry.resolved_iff, ← h.pending]
  unfold resolve
  split <;> simp_all

theorem remembers_register (h : Remembers calls n r) (hc : calls[n]? = some (.register l)) :
    Remembers calls (n + 1) (r.register l).2 where
  pending l' := by
    rw [mem_pending_register, h.pending, h.guarded, registeredBefore_register hc,
      resolvedBefore_succ_of_ne (by simp [hc])]
    by_cases hl : l' = l
    · subst hl
      tauto
    · tauto
  guarded l' := by
    rw [guarded_register, h.guarded, resolvedBefore_succ_of_ne (by simp [hc])]

theorem remembers_resolve (h : Remembers calls n r) (hc : calls[n]? = some (.resolve l)) :
    Remembers calls (n + 1) (r.resolve l).2 where
  pending l' := by
    rw [mem_pending_resolve, h.pending, resolvedBefore_resolve hc,
      registeredBefore_succ_of_ne (by simp [hc])]
    by_cases hl : l' = l
    · subst hl
      tauto
    · tauto
  guarded l' := by
    rw [mem_guarded_resolve, h.guarded, h.pending, resolvedBefore_resolve hc]
    by_cases hl : l' = l
    · subst hl
      tauto
    · tauto

theorem remembers_of_none (h : Remembers calls n r) (hc : calls[n]? = none) :
    Remembers calls (n + 1) r where
  pending l := by
    rw [h.pending, registeredBefore_succ_of_ne (by simp [hc]),
      resolvedBefore_succ_of_ne (by simp [hc])]
  guarded l := by
    rw [h.guarded, resolvedBefore_succ_of_ne (by simp [hc])]

/-- **The registry remembers its calls.** -/
theorem remembers_after (calls : List Call) (n : Nat) : Remembers calls n (after calls n) := by
  refine after_induction ?_ ?_ ?_ n
  · constructor <;> simp [RegisteredBefore, ResolvedBefore]
  · exact fun n hc ih => remembers_of_none ih hc
  · intro n c hc ih
    cases c with
    | register l => exact remembers_register ih hc
    | resolve l => exact remembers_resolve ih hc

/-! ## What was resolved -/

/-- What a call adds to the guarded labels is the label that it resolves. -/
theorem guarded_perform (r : HandlerRegistry) (c : Call) :
    (r.perform c).2.guarded = (resolution? (c, (r.perform c).1)).toList ++ r.guarded := by
  cases c with
  | register l => exact guarded_register r l
  | resolve l =>
    by_cases hl : l ∈ r.pending <;> simp [perform, resolve, resolution?, hl]

/-- The guarded labels are those that were resolved, the last one first. -/
theorem guarded_after (calls : List Call) (n : Nat) :
    (after calls n).guarded = (resolutions calls n).reverse := by
  refine after_induction (motive := fun n r => r.guarded = (resolutions calls n).reverse)
    rfl ?_ ?_ n
  · intro n hc ih
    rw [resolutions_succ_of_none hc, ih]
  · intro n c hc ih
    rw [resolutions_succ hc, guarded_perform, ih, List.reverse_append]
    cases resolution? (c, ((after calls n).perform c).1) <;> rfl

/-- No label is guarded twice: one that is resolved was pending, and so not guarded. -/
theorem nodup_guarded_after (calls : List Call) (n : Nat) : (after calls n).guarded.Nodup := by
  refine after_induction (motive := fun _ r => r.guarded.Nodup) List.nodup_nil ?_ ?_ n
  · exact fun n hc ih => ih
  · intro n c hc ih
    cases c with
    | register l => rwa [perform, guarded_register]
    | resolve l =>
      by_cases hl : l ∈ (after calls n).pending
      · have hg : l ∉ (after calls n).guarded := (remembers_after calls n).not_mem_guarded hl
        simpa [perform, resolve, hl] using ⟨hg, ih⟩
      · simpa [perform, resolve, hl] using ih

theorem isPending_eq_true : r.isPending l = true ↔ l ∈ r.pending := by
  simp [isPending]

/-- **What a handler goes through.** A registration is answered with `true` if it is the first one
of its label, and a resolution if it is the first one of its label from there on, so that no label
is resolved twice. A label is pending between these two calls and at no other time. The lowest
pending label is the least one, the guarded labels are as many as were resolved, and none is
pending and guarded at once. -/
theorem registry_history (calls : List Call) :
    (∀ l i, (replies {} calls)[i]? = some (.register l, true) ↔ Registered calls l i) ∧
    (∀ l j, (replies {} calls)[j]? = some (.resolve l, true) ↔ Resolved calls l j) ∧
    ∀ n, (resolutions calls n).Nodup ∧
      (after calls n).guardedCount = (resolutions calls n).length ∧
      (∀ l, (after calls n).isPending l = true ↔
        (∃ i < n, Registered calls l i) ∧ ¬∃ j < n, Resolved calls l j) ∧
      (∀ l, (after calls n).firstPending? = some l ↔ (after calls n).isPending l = true ∧
        ∀ l', (after calls n).isPending l' = true → l ≤ l') ∧
      ∀ l, ¬((after calls n).isPending l = true ∧ l ∈ (after calls n).guarded) := by
  refine ⟨fun l i => ?_, fun l j => ?_, fun n => ⟨?_, ?_, fun l => ?_, fun l => ?_, fun l => ?_⟩⟩
  · rw [getElem?_replies_eq_true]
    exact (remembers_after calls i).registered_iff.symm
  · rw [getElem?_replies_eq_true]
    exact (remembers_after calls j).resolved_iff.symm
  · have hnodup := nodup_guarded_after calls n
    rwa [guarded_after, List.nodup_reverse] at hnodup
  · rw [guardedCount, guarded_after, List.length_reverse]
  · rw [isPending_eq_true]
    exact (remembers_after calls n).pending l
  · simp only [isPending_eq_true]
    exact firstPending?_eq_some
  · rintro ⟨hp, hg⟩
    exact (remembers_after calls n).not_mem_guarded (isPending_eq_true.1 hp) hg

/-- A label is resolved too early, and again, and is registered again afterwards. -/
def restless : List Call :=
  [.resolve ⟨3⟩, .register ⟨9⟩, .register ⟨7⟩, .register ⟨3⟩, .register ⟨3⟩, .resolve ⟨3⟩,
    .resolve ⟨3⟩, .register ⟨3⟩, .resolve ⟨3⟩]

/-- The other labels stay pending. -/
theorem registry_history_restless :
    Registered restless ⟨3⟩ 3 ∧ Resolved restless ⟨3⟩ 5 ∧ ¬Resolved restless ⟨3⟩ 8 ∧
      (after restless 9).guardedCount = 1 ∧ (after restless 9).firstPending? = some ⟨7⟩ ∧
      (∃ i < 9, Registered restless ⟨9⟩ i) ∧ ¬∃ j < 9, Resolved restless ⟨9⟩ j := by
  obtain ⟨hregistered, hresolved, hstate⟩ := registry_history restless
  obtain ⟨-, hcount, hpending, hfirst, -⟩ := hstate 9
  refine ⟨(hregistered _ _).1 (by decide +kernel), (hresolved _ _).1 (by decide +kernel), ?_, ?_,
    ?_, (hpending _).1 (by decide +kernel)⟩
  · rw [← hresolved]
    decide +kernel
  · rw [hcount]
    decide +kernel
  · rw [hfirst]
    refine ⟨by decide +kernel, fun l hl => ?_⟩
    have hmem : l ∈ [⟨7⟩, ⟨9⟩] := isPending_eq_true.1 hl
    rcases List.mem_pair.1 hmem with rfl | rfl <;> decide

end HandlerRegistry

end BytecodeGuard
