import BytecodeGuard.Proofs.Builder.Replay
import BytecodeGuard.Rule.CatchGuard

/-!
# Where checks belong

What guarded code looks like is said here without the guard. A label is checked if it is the
handler of a guarded type that was declared before it, and the check follows the label. Nothing
depends on what is declared later, or on how many declarations name the label.

* `Checked`, `Unchecked` — whether a declared label is placed after a declaration.
* `withChecks` — the code with its checks.
* `checkpoints` — the labels that are checked, in order. In accepted code none is checked twice.
* `checkMessages` — what the guard says about its checks, one message for each.
-/

namespace BytecodeGuard

namespace CatchGuard

variable {α : Type} {f : List Instruction → Instruction → List α} {i : Instruction}
  {before code : List Instruction} {l l' : Label} {b : Builder} {config : Config}

/-! ## Declarations -/

/-- The instruction declares the label to be the handler of a guarded type. -/
def Declares (l : Label) : Instruction → Prop
  | .region ⟨_, _, handler, some caught⟩ => handler = l ∧ caught ∈ guardedTypes
  | _ => False

instance (l : Label) : DecidablePred (Declares l)
  | .region ⟨_, _, handler, some caught⟩ =>
    inferInstanceAs (Decidable (handler = l ∧ caught ∈ guardedTypes))
  | .region ⟨_, _, _, none⟩ => isFalse id
  | .exec .. | .label _ | .line .. => isFalse id

/-- The code declares the label to be the handler of a guarded type. -/
def Declared (code : List Instruction) (l : Label) : Prop := ∃ i ∈ code, Declares l i

instance (code : List Instruction) : DecidablePred (Declared code) := fun l =>
  inferInstanceAs (Decidable (∃ i ∈ code, Declares l i))

theorem Declares.handler? (h : Declares l i) : i.handler? = some l := by
  cases i with
  | region r =>
    obtain ⟨start, stop, handler, _ | caught⟩ := r
    · cases h
    · rw [← h.1]
      rfl
  | _ => cases h

theorem declared_snoc : Declared (code ++ [i]) l ↔ Declared code l ∨ Declares l i := by
  simp [Declared, or_and_right, exists_or]

/-- A declared label is a handler. -/
theorem Declared.mem_handlers (hd : Declared code l) (h : Builder.replay code {} = .ok () b) :
    l ∈ b.handlers := by
  obtain ⟨i, hi, hl⟩ := hd
  exact (Builder.mem_handlers_replay h).2 ⟨i, hi, hl.handler?⟩

/-- The label is placed after one of its declarations. -/
def Checked (code : List Instruction) (l : Label) : Prop :=
  ∃ pre post, code = pre ++ .label l :: post ∧ Declared pre l

/-- The label is declared, but is not placed after a declaration. -/
def Unchecked (code : List Instruction) (l : Label) : Prop := Declared code l ∧ ¬ Checked code l

/-! ## Going over the code -/

/-- What there is at each instruction, given the instructions before it. -/
def scan (f : List Instruction → Instruction → List α) (before : List Instruction) :
    List Instruction → List α
  | [] => []
  | i :: code => f before i ++ scan f (before ++ [i]) code

theorem scan_append (code code' : List Instruction) :
    scan f before (code ++ code') = scan f before code ++ scan f (before ++ code) code' := by
  induction code generalizing before with
  | nil => simp [scan]
  | cons j code ih => simp [scan, ih]

theorem scan_snoc (code : List Instruction) (i : Instruction) :
    scan f before (code ++ [i]) = scan f before code ++ f (before ++ code) i := by
  rw [scan_append]
  simp [scan]

/-! ## Checks -/

/-- The label to be checked, if the instruction places a declared label. -/
def checkpoint? (before : List Instruction) : Instruction → Option Label
  | .label l => if Declared before l then some l else none
  | _ => none

/-- The call that throws a fatal object again. -/
def checkCall (config : Config) : Instruction :=
  .exec .invokestatic (.method ⟨config.checkOwner, checkName, checkDescriptor, false⟩)

/-- The instructions that check an object and leave it on the stack. -/
def check (config : Config) : List Instruction := [.exec .dup .empty, checkCall config]

/-- The code with a check after each label that is declared before. -/
def withChecks (config : Config) (code : List Instruction) : List Instruction :=
  scan (fun before i => i :: if (checkpoint? before i).isSome then check config else []) [] code

/-- The labels that are checked, in order. -/
def checkpoints (code : List Instruction) : List Label :=
  scan (fun before i => (checkpoint? before i).toList) [] code

/-- The checks in order: the label, and its index in the code. -/
def insertedChecks (code : List Instruction) : List (Label × Nat) :=
  scan (fun before i => (checkpoint? before i).toList.map (·, before.length)) [] code

/-- The place of an instruction of a method. -/
def placeIn (m : Member) (index : Nat) : Location := ⟨m.className, m.name, m.signature, some index⟩

/-- What the guard says about a check in the code of a method. -/
def checkMessage (m : Member) (p : Label × Nat) : Message where
  severity := .trace
  location := some (placeIn m p.2)
  text := "Inserted catch check at " ++ p.1.text
  rule := some "CatchGuardRule"

/-- What the guard says about its checks. -/
def checkMessages (m : Member) (code : List Instruction) : List Message :=
  (insertedChecks code).map (checkMessage m)

/-- The depth that the checks reach: the object that was caught, twice. -/
def checkPeak (code : List Instruction) : Nat := if checkpoints code = [] then 0 else 2

theorem withChecks_snoc (config : Config) (code : List Instruction) (i : Instruction) :
    withChecks config (code ++ [i]) = withChecks config code ++
      i :: if (checkpoint? code i).isSome then check config else [] :=
  scan_snoc code i

theorem checkpoints_snoc (code : List Instruction) (i : Instruction) :
    checkpoints (code ++ [i]) = checkpoints code ++ (checkpoint? code i).toList :=
  scan_snoc code i

theorem insertedChecks_snoc (code : List Instruction) (i : Instruction) :
    insertedChecks (code ++ [i]) =
      insertedChecks code ++ (checkpoint? code i).toList.map (·, code.length) :=
  scan_snoc code i

theorem map_fst_insertedChecks (code : List Instruction) :
    (insertedChecks code).map Prod.fst = checkpoints code := by
  induction code using List.reverseRecOn with
  | nil => rfl
  | append_singleton code i ih =>
    rw [insertedChecks_snoc, checkpoints_snoc, List.map_append, ih, List.map_map]
    congr 1
    exact List.map_id _

theorem checkpoint?_eq_some : checkpoint? code i = some l ↔ i = .label l ∧ Declared code l := by
  cases i with
  | label l' =>
    simp only [checkpoint?, Option.ite_none_right_eq_some, Option.some.injEq,
      Instruction.label.injEq]
    constructor
    · rintro ⟨hd, rfl⟩
      exact ⟨rfl, hd⟩
    · rintro ⟨rfl, hd⟩
      exact ⟨hd, rfl⟩
  | _ => simp [checkpoint?]

theorem mem_checkpoints : l ∈ checkpoints code ↔ Checked code l := by
  unfold Checked
  induction code using List.reverseRecOn with
  | nil => simp [checkpoints, scan]
  | append_singleton code i ih =>
    rw [checkpoints_snoc, List.mem_append, Option.mem_toList, checkpoint?_eq_some, ih]
    constructor
    · rintro (⟨pre, post, rfl, hd⟩ | ⟨rfl, hd⟩)
      · exact ⟨pre, post ++ [i], by simp, hd⟩
      · exact ⟨code, [], rfl, hd⟩
    · rintro ⟨pre, post, hcode, hd⟩
      rcases List.eq_nil_or_concat post with rfl | ⟨post, j, rfl⟩
      · obtain ⟨rfl, hi⟩ := List.append_inj' hcode rfl
        exact .inr ⟨List.cons.inj hi |>.1, hd⟩
      · have h : code ++ [i] = (pre ++ .label l :: post) ++ [j] := by simp [hcode]
        exact .inl ⟨pre, post, (List.append_inj' h rfl).1, hd⟩

instance (code : List Instruction) : DecidablePred (Checked code) := fun l =>
  decidable_of_iff (l ∈ checkpoints code) mem_checkpoints

instance (code : List Instruction) : DecidablePred (Unchecked code) := fun l =>
  inferInstanceAs (Decidable (Declared code l ∧ ¬ Checked code l))

theorem Checked.mem (h : Checked code l) : .label l ∈ code := by
  obtain ⟨pre, post, rfl, -⟩ := h
  simp

/-- No label is checked twice. -/
theorem nodup_checkpoints (h : Builder.replay code {} = .ok () b) : (checkpoints code).Nodup := by
  induction h using Builder.replay_induction with
  | nil => exact List.nodup_nil
  | snoc code i b b' hb hi ih =>
    rw [checkpoints_snoc]
    cases hc : checkpoint? code i with
    | none => simpa using ih
    | some l =>
      obtain ⟨rfl, -⟩ := checkpoint?_eq_some.1 hc
      have hl : l ∉ checkpoints code := fun hl =>
        Builder.not_mem_placed_of_label hi
          ((Builder.mem_placed_replay hb).2 (mem_checkpoints.1 hl).mem)
      refine List.nodup_append.2 ⟨ih, List.pairwise_singleton _ l, fun a ha a' ha' => ?_⟩
      rintro rfl
      exact hl (List.mem_singleton.1 ha' ▸ ha)

theorem length_withChecks (config : Config) (code : List Instruction) :
    (withChecks config code).length = code.length + 2 * (checkpoints code).length := by
  induction code using List.reverseRecOn with
  | nil => rfl
  | append_singleton code i ih =>
    rw [withChecks_snoc, checkpoints_snoc]
    cases checkpoint? code i <;> simp [check] <;> omega

/-! ## One more instruction -/

theorem withChecks_snoc_of_none (h : checkpoint? code i = none) :
    withChecks config (code ++ [i]) = withChecks config code ++ [i] := by
  rw [withChecks_snoc, h]
  rfl

theorem withChecks_snoc_of_some (h : checkpoint? code i = some l) :
    withChecks config (code ++ [i]) = withChecks config code ++ i :: check config := by
  rw [withChecks_snoc, h]
  rfl

theorem checkpoints_snoc_of_none (h : checkpoint? code i = none) :
    checkpoints (code ++ [i]) = checkpoints code := by
  rw [checkpoints_snoc, h]
  exact List.append_nil _

theorem checkMessages_snoc_of_none {m : Member} (h : checkpoint? code i = none) :
    checkMessages m (code ++ [i]) = checkMessages m code := by
  unfold checkMessages
  rw [insertedChecks_snoc, h]
  simp

theorem checkMessages_snoc_of_some {m : Member} (h : checkpoint? code i = some l) :
    checkMessages m (code ++ [i]) = checkMessages m code ++ [checkMessage m (l, code.length)] := by
  unfold checkMessages
  rw [insertedChecks_snoc, h]
  simp

theorem checked_snoc_of_none (h : checkpoint? code i = none) :
    Checked (code ++ [i]) l ↔ Checked code l := by
  rw [← mem_checkpoints, ← mem_checkpoints, checkpoints_snoc_of_none h]

theorem checked_snoc_of_some (h : checkpoint? code i = some l) :
    Checked (code ++ [i]) l' ↔ Checked code l' ∨ l' = l := by
  rw [← mem_checkpoints, ← mem_checkpoints, checkpoints_snoc, h]
  simp

theorem checkPeak_snoc_of_none (h : checkpoint? code i = none) :
    checkPeak (code ++ [i]) = checkPeak code := by
  unfold checkPeak
  rw [checkpoints_snoc_of_none h]

theorem checkPeak_snoc_of_some (h : checkpoint? code i = some l) :
    checkPeak (code ++ [i]) = max (checkPeak code) 2 := by
  unfold checkPeak
  rw [checkpoints_snoc, h, if_neg (by simp)]
  split <;> rfl

theorem unchecked_snoc_of_none (h : checkpoint? code i = none) :
    Unchecked (code ++ [i]) l ↔ Unchecked code l ∨ Declares l i ∧ ¬ Checked code l := by
  unfold Unchecked
  rw [checked_snoc_of_none h, declared_snoc, or_and_right]

theorem unchecked_snoc_of_some (h : checkpoint? code i = some l) :
    Unchecked (code ++ [i]) l' ↔ Unchecked code l' ∧ l' ≠ l := by
  obtain ⟨rfl, -⟩ := checkpoint?_eq_some.1 h
  unfold Unchecked
  rw [declared_snoc, checked_snoc_of_some h, not_or, and_assoc]
  simp [Declares]

/-- A label that is not placed so far is to be checked if it is declared so far. -/
theorem checkpoint?_label (hc : Builder.replay code {} = .ok () b) (hl : l ∉ b.placed) :
    checkpoint? code (.label l) = some l ↔ Unchecked code l := by
  rw [checkpoint?_eq_some]
  constructor
  · rintro ⟨-, hd⟩
    exact ⟨hd, fun h => hl ((Builder.mem_placed_replay hc).2 h.mem)⟩
  · exact fun h => ⟨rfl, h.1⟩

end CatchGuard

end BytecodeGuard
