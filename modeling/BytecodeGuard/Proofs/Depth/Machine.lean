import BytecodeGuard.Proofs.Builder.Replay
import Mathlib.Logic.Relation

/-!
# The machine that the depth is about

A builder goes over the code once, from the first instruction to the last. Execution does not: it
jumps, also backwards, and an exception takes it from anywhere to a handler. `StackMachine.Step`
says how execution moves, with the depth of the operand stack as its only data.

`Builder.Before` is the builder at a position of accepted code. What is expected of a label stays
the same between two positions unless a handler is declared there in between.
-/

namespace BytecodeGuard

namespace StackMachine

/-- A position in the code and the depth of the stack there. -/
structure State where
  position : Nat
  depth : Int

/-- How execution moves in the code. -/
inductive Step (code : List Instruction) : State → State → Prop
  /-- Markers do nothing. -/
  | marker {p : Nat} {d : Int} {i : Instruction} (hi : code[p]? = some i)
      (hm : i.isMarker = true) : Step code ⟨p, d⟩ ⟨p + 1, d⟩
  /-- An executable instruction pops, pushes and goes on. -/
  | next {p : Nat} {d : Int} {op : Opcode} {operand : Operand} {effect : StackEffect}
      (hi : code[p]? = some (.exec op operand)) (he : stackEffect op operand = .ok effect)
      (hf : op.endsFlow = false) : Step code ⟨p, d⟩ ⟨p + 1, d - effect.pops + effect.pushes⟩
  /-- An executable instruction pops and goes on after one of its targets. -/
  | jump {p q : Nat} {d : Int} {op : Opcode} {operand : Operand} {effect : StackEffect}
      {l : Label} (hi : code[p]? = some (.exec op operand))
      (he : stackEffect op operand = .ok effect) (hl : l ∈ operand.targets)
      (hq : code[q]? = some (.label l)) : Step code ⟨p, d⟩ ⟨q + 1, d - effect.pops⟩
  /-- An exception is caught. -/
  | caught {s : State} {q : Nat} {r : HandlerRegion} (hr : .region r ∈ code)
      (hq : code[q]? = some (.label r.handler)) : Step code s ⟨q + 1, 1⟩

/-- Execution begins at the first instruction with an empty stack. -/
def Reaches (code : List Instruction) (s : State) : Prop :=
  Relation.ReflTransGen (Step code) ⟨0, 0⟩ s

variable {code : List Instruction} {i : Instruction} {op : Opcode} {operand : Operand}
  {p : Nat} {s s' : State}

theorem succ_lt_length (hlast : code.getLast? = some (.exec op operand)) (hi : code[p]? = some i)
    (hne : i ≠ .exec op operand) : p + 1 < code.length := by
  obtain ⟨hp, -⟩ := List.getElem?_eq_some_iff.1 hi
  by_contra hn
  have hend : p = code.length - 1 := by omega
  rw [List.getLast?_eq_getElem?, ← hend, hi] at hlast
  exact hne (Option.some.inj hlast)

/-- Execution does not leave code whose last instruction ends the flow. -/
theorem position_lt_of_step (hlast : code.getLast? = some (.exec op operand))
    (hf : op.endsFlow = true) (h : Step code s s') : s'.position < code.length := by
  cases h with
  | marker hi hm =>
    refine succ_lt_length hlast hi ?_
    rintro rfl
    cases hm
  | next hi he hn =>
    refine succ_lt_length hlast hi ?_
    rintro ⟨⟩
    rw [hf] at hn
    cases hn
  | jump hi he hl hq => exact succ_lt_length hlast hq Instruction.noConfusion
  | caught hr hq => exact succ_lt_length hlast hq Instruction.noConfusion

theorem position_lt_of_reaches (hlast : code.getLast? = some (.exec op operand))
    (hf : op.endsFlow = true) (h : Reaches code s) : s.position < code.length := by
  cases h with
  | refl =>
    obtain ⟨j, hj⟩ := List.getLast?_eq_some_iff.1 hlast
    rw [hj, List.length_append]
    exact Nat.succ_pos _
  | tail _ hstep => exact position_lt_of_step hlast hf hstep

end StackMachine

namespace Builder

variable {b b' c : Builder} {i : Instruction} {code : List Instruction} {l : Label} {d : Int}
  {p q : Nat}

/-- The builder at a position of the code. -/
def Before (code : List Instruction) (p : Nat) (b : Builder) : Prop :=
  replay (code.take p) {} = .ok () b

/-- The builder at a position of the code, if there is one. -/
def before? (code : List Instruction) (p : Nat) : Option Builder :=
  match Builder.replay (code.take p) {} with
  | .ok _ b => some b
  | .error .. => none

theorem Before.before? (h : Before code p b) : before? code p = some b := by
  unfold Before at h
  unfold Builder.before?
  rw [h]

/-- What is found by looking at the builder at a position holds of it. -/
theorem exists_before_of_any {P : Builder → Bool} (h : (before? code p).any P = true) :
    ∃ b, Before code p b ∧ P b = true := by
  unfold Builder.before? at h
  unfold Before
  cases hr : Builder.replay (code.take p) {} with
  | ok _ b =>
    rw [hr] at h
    exact ⟨b, rfl, h⟩
  | error fault b =>
    rw [hr] at h
    cases h

theorem exists_before (h : replay code {} = .ok () c) (p : Nat) : ∃ b, Before code p b := by
  obtain ⟨b, post, -, hb, -⟩ := replay_of_prefix h (List.take_prefix p code)
  exact ⟨b, hb⟩

theorem Before.unique (hb : Before code p b) (hb' : Before code p b') : b = b' :=
  replay_unique hb hb'

/-- The builder at a later position has taken the instructions in between. -/
theorem Before.replay (hb : Before code p b) (hb' : Before code q b') (hpq : p ≤ q) :
    replay ((code.take q).drop p) b = .ok () b' := by
  have hsplit : code.take p ++ (code.take q).drop p = code.take q := by
    have h := List.take_append_drop p (code.take q)
    rwa [List.take_take, Nat.min_eq_left hpq] at h
  unfold Before at hb hb'
  rw [← hsplit] at hb'
  obtain ⟨r, hr, hrest⟩ := replay_append_eq_ok.1 hb'
  obtain rfl := replay_unique hb hr
  exact hrest

theorem Before.instruction (hb : Before code p b) (hb' : Before code (p + 1) b')
    (hi : code[p]? = some i) : instruction i b = .ok () b' := by
  have h := hb.replay hb' (Nat.le_succ p)
  obtain ⟨hp, rfl⟩ := List.getElem?_eq_some_iff.1 hi
  have hdrop : (code.take (p + 1)).drop p = [code[p]] := by
    rw [List.take_add_one, List.drop_append]
    simp [hp, Nat.min_eq_left (Nat.le_of_lt hp)]
  rw [hdrop] at h
  exact forM_singleton_eq_ok.1 h

/-- A later position still expects what an earlier one did, unless a handler is declared there in
between. -/
theorem Before.expected (hb : Before code p b) (hb' : Before code q b') (hpq : p ≤ q)
    (hl : ∀ k r, p ≤ k → k < q → code[k]? = some (.region r) → r.handler ≠ l)
    (hd : b.expected? l = some d) : b'.expected? l = some d := by
  refine expected?_replay (hb.replay hb' hpq) (fun i hi hh => ?_) hd
  obtain ⟨k, hk, rfl⟩ := List.mem_iff_getElem.1 hi
  simp only [List.length_drop, List.length_take] at hk
  rw [List.getElem_drop, List.getElem_take] at hh
  cases hr : code[p + k] with
  | region r =>
    rw [hr] at hh
    refine hl (p + k) r (Nat.le_add_right p k) (by omega) ?_ (Option.some.inj hh)
    rw [List.getElem?_eq_getElem (by omega), hr]
  | _ => rw [hr] at hh; cases hh

theorem Before.handlersExpectOne (hb : Before code p b) : b.HandlersExpectOne :=
  handlersExpectOne_replay hb

end Builder

end BytecodeGuard
