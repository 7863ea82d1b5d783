import BytecodeGuard.Proofs.Emission.Process
import BytecodeGuard.Proofs.Exchanges
import Mathlib.Data.List.Basic

/-!
# Where the code of a rule goes

When an instruction comes up, every rule makes a visit: it makes requests, one after the other,
and may choose each one by the replies to those before. The code that a visit writes is what its
successful calls to the builder append; calls that fail append nothing, and a rule may go on
after them.

**Theorem (`placement`).** The new code of a method consists of one block for each instruction,
in order, and of what the rules write when they finish. The block of a marker is the marker
followed by what the visits to it write; the block of an executable instruction is what the visits
to it write followed by the instruction, unless one of these visits drops it. In particular the
new code has all markers, in order.

The block of an instruction depends on the visits to this instruction alone, so a rule cannot drop
any other instruction than the one it is visiting. The proof follows the state: a visit makes the
code grow by what it writes and raises the mark of a dropped instruction only by a request for it,
and whenever the next instruction comes up, the mark is down.
-/

namespace BytecodeGuard

namespace Emission

variable {σ α : Type} {rules : List (EmissionRule σ)} {i : Instruction} {k : Nat}
  {e e' e'' : Emission σ} {code : List Instruction}

/-! ## Visits -/

/-- A request of a rule with its reply. -/
abbrev Exchange (σ : Type) := Script.Exchange (Request σ) Request.Reply

namespace Exchange

/-- What a request has appended to the code. -/
def written : Exchange σ → List Instruction
  | ⟨.build s, result⟩ => s.appended result
  | _ => []

/-- The request is to leave out the current instruction. -/
def drops : Exchange σ → Bool
  | ⟨.drop, _⟩ => true
  | _ => false

end Exchange

/-- What a rule has asked for during one call, and the replies. -/
abbrev Visit (σ : Type) := List (Exchange σ)

namespace Visit

/-- The code that a visit writes. -/
def written (v : Visit σ) : List Instruction := v.flatMap Exchange.written

/-- Whether a visit drops the instruction. -/
def drops (v : Visit σ) : Bool := v.any Exchange.drops

end Visit

/-- A rule makes a visit. -/
def visit (index : Option Nat) (script : EmissionRule σ → Action σ Unit)
    (rule : EmissionRule σ) : Emit σ Unit := do
  enter index rule.name
  act (script rule)

/-- The visits that the rules make one after the other. -/
def visits (index : Option Nat) (script : EmissionRule σ → Action σ Unit) :
    List (EmissionRule σ) → Emission σ → List (Visit σ)
  | [], _ => []
  | rule :: rules, e =>
    (script rule).exchanges answer (finalState (enter index rule.name) e) ::
      visits index script rules (finalState (visit index script rule) e)

/-! ## What a visit does to the code -/

/-- From one state to the other the code has grown by the given instructions, and the mark of a
dropped instruction has been raised if and only if `drops`. -/
structure Grows (written : List Instruction) (drops : Bool) (e e' : Emission σ) : Prop where
  code : e'.builder.code.toList = e.builder.code.toList ++ written
  dropped : e'.dropped = (e.dropped || drops)

theorem Grows.of_eq (hb : e'.builder = e.builder) (hd : e'.dropped = e.dropped) :
    Grows [] false e e' := by
  refine ⟨?_, ?_⟩
  · rw [hb, List.append_nil]
  · rw [hd, Bool.or_false]

theorem Grows.trans {w w' : List Instruction} {d d' : Bool} (h : Grows w d e e')
    (h' : Grows w' d' e' e'') : Grows (w ++ w') (d || d') e e'' where
  code := by rw [h'.code, h.code, List.append_assoc]
  dropped := by rw [h'.dropped, h.dropped, Bool.or_assoc]

theorem grows_report (f : Finding) (e : Emission σ) : Grows [] false e (e.report f) := by
  unfold report
  cases e.site.message? f with
  | some m => exact .of_eq rfl rfl
  | none => exact .of_eq rfl rfl

theorem grows_answer (r : Request σ) (e : Emission σ) :
    Grows (Exchange.written ⟨r, (answer r e).1⟩) (Exchange.drops ⟨r, (answer r e).1⟩) e
      (answer r e).2 := by
  cases r with
  | build s => exact ⟨s.code_attempt e.builder, (Bool.or_false _).symm⟩
  | drop => exact ⟨(List.append_nil _).symm, (Bool.or_true _).symm⟩
  | trace text settings => exact grows_report ⟨.trace, some text, settings⟩ e
  | _ => exact .of_eq rfl rfl

theorem grows_act {x : Action σ α} {a : α} (h : act x e = .ok a e') :
    Grows (Visit.written (x.exchanges answer e)) (Visit.drops (x.exchanges answer e)) e e' := by
  refine Script.run_induction (motive := fun e xs e' =>
    Grows (Visit.written xs) (Visit.drops xs) e e') (fun e => .of_eq rfl rfl)
    (fun r e xs e' ih => ?_) h
  exact (grows_answer r e).trans ih

/-- **One visit.** -/
theorem grows_visit {index : Option Nat} {script : EmissionRule σ → Action σ Unit}
    {rule : EmissionRule σ} (h : visit index script rule e = .ok () e') :
    let v : Visit σ := (script rule).exchanges answer (finalState (enter index rule.name) e)
    Grows v.written v.drops e e' := by
  obtain ⟨_, entered, henter, hact⟩ := bind_eq_ok.1 h
  rw [finalState_of_ok henter]
  cases henter
  have hgrows := grows_act hact
  exact ⟨hgrows.code, hgrows.dropped⟩

/-- The rules write one after the other. -/
theorem grows_visits {index : Option Nat} {script : EmissionRule σ → Action σ Unit}
    (h : rules.forM (visit index script) e = .ok () e') :
    Grows ((visits index script rules e).flatMap Visit.written)
      ((visits index script rules e).any Visit.drops) e e' := by
  induction rules generalizing e with
  | nil =>
    cases h
    exact .of_eq rfl rfl
  | cons rule rules ih =>
    obtain ⟨c, hrule, hrules⟩ := forM_cons_eq_ok.1 h
    simp only [visits, finalState_of_ok hrule, List.flatMap_cons, List.any_cons]
    exact (grows_visit hrule).trans (ih hrules)

/-! ## One instruction -/

/-- A marker is built before the rules visit it. -/
def present (i : Instruction) : Emit σ Unit :=
  if i.isMarker then discard (build (.instruction i)) else pure ()

/-- The visits to an instruction that comes up in the given state. -/
def visitsTo (rules : List (EmissionRule σ)) (k : Nat) (i : Instruction) (e : Emission σ) :
    List (Visit σ) :=
  visits (some k) (·.emit i) rules (finalState (present i) e)

/-- What becomes of an instruction, given the visits to it. -/
def block (i : Instruction) (vs : List (Visit σ)) : List Instruction :=
  if i.isMarker then i :: vs.flatMap Visit.written
  else vs.flatMap Visit.written ++ if vs.any Visit.drops then [] else [i]

theorem grows_build (h : (discard (build (.instruction i)) : Emit σ Unit) e = .ok () e') :
    Grows [i] false e e' := by
  obtain ⟨result, c, hbuild, hlast⟩ := bind_eq_ok.1 h
  cases hlast
  unfold build at hbuild
  cases hrun : (Step.instruction i).run e.builder with
  | error fault b =>
    rw [hrun] at hbuild
    cases hbuild
  | ok result b =>
    rw [hrun] at hbuild
    cases hbuild
    have hcode := (Step.instruction i).code_attempt e.builder
    rw [Step.attempt_of_ok hrun] at hcode
    exact ⟨hcode, (Bool.or_false _).symm⟩

/-- An executable instruction is built after the rules have visited it, unless it is dropped. -/
def retain (i : Instruction) (dropped : Bool) : Emit σ Unit :=
  if !i.isMarker && !dropped then discard (build (.instruction i)) else pure ()

theorem process_eq (rules : List (EmissionRule σ)) (i : Instruction) (k : Nat) :
    process rules i k = (present i >>= fun _ =>
      rules.forM (visit (some k) (·.emit i)) >>= fun _ =>
      takeDropped >>= fun dropped => retain i dropped) := by
  unfold process present retain
  cases i.isMarker <;> rfl

theorem process_eq_ok : process rules i k e = .ok () e' ↔
    ∃ e₀ e₁, present i e = .ok () e₀ ∧
      rules.forM (visit (some k) (·.emit i)) e₀ = .ok () e₁ ∧
      (if !i.isMarker && !e₁.dropped then discard (build (.instruction i)) else pure () :
        Emit σ Unit) { e₁ with dropped := false } = .ok () e' := by
  rw [process_eq]
  simp only [bind_eq_ok, retain]
  constructor
  · rintro ⟨_, e₀, hpresent, _, e₁, hrules, _, _, htake, hlast⟩
    cases htake
    exact ⟨e₀, e₁, hpresent, hrules, hlast⟩
  · rintro ⟨e₀, e₁, hpresent, hrules, hlast⟩
    exact ⟨(), e₀, hpresent, (), e₁, hrules, e₁.dropped, _, rfl, hlast⟩

/-- **One instruction.** The code grows by its block, and the mark is down afterwards. -/
theorem code_process (hd : e.dropped = false) (h : process rules i k e = .ok () e') :
    e'.builder.code.toList = e.builder.code.toList ++ block i (visitsTo rules k i e) ∧
      e'.dropped = false := by
  obtain ⟨e₀, e₁, hpresent, hrules, hlast⟩ := process_eq_ok.1 h
  have hvisits := grows_visits hrules
  unfold visitsTo
  rw [finalState_of_ok hpresent]
  cases hm : i.isMarker with
  | true =>
    -- The builder has the marker already, so the mark is taken down for nothing.
    simp only [present, hm, if_true] at hpresent
    have hfirst := (grows_build hpresent).trans hvisits
    rw [hm] at hlast
    cases hlast
    refine ⟨?_, rfl⟩
    rw [block, if_pos hm]
    exact hfirst.code
  | false =>
    -- The mark was down before the visits, so it tells whether one of them drops the instruction.
    simp only [present, hm] at hpresent
    cases hpresent
    rw [block, if_neg (by simp [hm]), ← List.append_assoc, ← hvisits.code]
    have hdrops : e₁.dropped = _ := hvisits.dropped
    rw [hd, Bool.false_or] at hdrops
    rw [hm, hdrops] at hlast
    cases hv : (visits (some k) (·.emit i) rules e).any Visit.drops with
    | true =>
      rw [hv] at hlast
      cases hlast
      exact ⟨(List.append_nil _).symm, rfl⟩
    | false =>
      rw [hv] at hlast
      have hown := grows_build hlast
      exact ⟨hown.code, hown.dropped⟩

/-! ## All instructions -/

/-- The visits to an instruction of the code, which come after those to the instructions before
it. -/
def visitsAt (rules : List (EmissionRule σ)) (code : List Instruction) (s : Emission σ)
    (p : Instruction × Nat) : List (Visit σ) :=
  visitsTo rules p.2 p.1 (finalState (processFrom rules 0 (code.take p.2)) s)

theorem processFrom_snoc_eq_ok : processFrom rules 0 (code ++ [i]) e = .ok () e' ↔
    ∃ c, processFrom rules 0 code e = .ok () c ∧ process rules i code.length c = .ok () e' := by
  unfold processFrom
  rw [List.zipIdx_append, forM_append_eq_ok]
  simp only [Nat.zero_add, List.zipIdx_singleton, forM_singleton_eq_ok]

/-- The blocks before a last instruction are those of the code without it. -/
theorem visitsAt_snoc {s : Emission σ} {p : Instruction × Nat} (hp : p ∈ code.zipIdx) :
    visitsAt rules (code ++ [i]) s p = visitsAt rules code s p := by
  unfold visitsAt
  have hlt : p.2 < code.length := List.snd_lt_of_mem_zipIdx hp
  rw [List.take_append_of_le_length (Nat.le_of_lt hlt)]

/-- **All instructions.** The code grows by one block after the other. -/
theorem code_processFrom {s : Emission σ} (hd : s.dropped = false)
    (h : processFrom rules 0 code s = .ok () e) :
    e.builder.code.toList = s.builder.code.toList ++
        code.zipIdx.flatMap (fun p => block p.1 (visitsAt rules code s p)) ∧
      e.dropped = false := by
  induction code using List.reverseRecOn generalizing e with
  | nil =>
    cases h
    exact ⟨(List.append_nil _).symm, hd⟩
  | append_singleton code i ih =>
    obtain ⟨c, hcode, hi⟩ := processFrom_snoc_eq_ok.1 h
    obtain ⟨hblocks, hc⟩ := ih hcode
    obtain ⟨hblock, he⟩ := code_process hc hi
    have hvisits : visitsAt rules (code ++ [i]) s (i, code.length) =
        visitsTo rules code.length i c := by
      unfold visitsAt
      rw [List.take_left, finalState_of_ok hcode]
    have hbefore : code.zipIdx.flatMap (fun p => block p.1 (visitsAt rules (code ++ [i]) s p)) =
        code.zipIdx.flatMap (fun p => block p.1 (visitsAt rules code s p)) :=
      List.flatMap_congr fun p hp => by rw [visitsAt_snoc hp]
    refine ⟨?_, he⟩
    rw [hblock, hblocks, List.zipIdx_append, List.flatMap_append, hbefore, ← hvisits,
      List.append_assoc]
    simp only [Nat.zero_add, List.zipIdx_singleton, List.flatMap_singleton]

/-- Whenever an instruction comes up, the mark is down. -/
theorem not_dropped_take {s : Emission σ} (hd : s.dropped = false)
    (h : processFrom rules 0 code s = .ok () e) (n : Nat) :
    (finalState (processFrom rules 0 (code.take n)) s).dropped = false := by
  rw [← List.take_append_drop n code] at h
  unfold processFrom at h
  rw [List.zipIdx_append, forM_append_eq_ok] at h
  obtain ⟨c, htake, -⟩ := h
  have hc : processFrom rules 0 (code.take n) s = .ok () c := htake
  rw [finalState_of_ok hc]
  exact (code_processFrom hd hc).2

/-- A marker is in its block. -/
theorem markers_sublist (visitsOf : Instruction × Nat → List (Visit σ)) (n : Nat) :
    (code.filter (·.isMarker)).Sublist
      ((code.zipIdx n).flatMap fun p => block p.1 (visitsOf p)) := by
  induction code generalizing n with
  | nil => exact List.Sublist.slnil
  | cons i code ih =>
    rw [List.zipIdx_cons, List.flatMap_cons]
    cases hm : i.isMarker with
    | true =>
      rw [List.filter_cons_of_pos hm, block, if_pos hm]
      exact (List.singleton_sublist.2 List.mem_cons_self).append (ih (n + 1))
    | false =>
      rw [List.filter_cons_of_neg (by simp [hm])]
      exact (ih (n + 1)).trans (List.sublist_append_right _ _)

/-- **Placement.** The new code is the block of each instruction, in order, followed by what the
rules write when they finish. It has every marker, in order, and no instruction comes up with the
mark of a dropped one. -/
theorem placement [Inhabited σ] {config : Config} {m : Member} {built : BuiltCode}
    (h : (EmissionRule.applyAll rules config m code).result = .ok built) :
    let s : Emission σ := start config m (labelBase code)
    built.code = code.zipIdx.flatMap (fun p => block p.1 (visitsAt rules code s p)) ++
        (visits none (·.finish) rules (finalState (processFrom rules 0 code) s)).flatMap
          Visit.written ∧
      (code.filter (·.isMarker)).Sublist built.code ∧
      ∀ n, (finalState (processFrom rules 0 (code.take n)) s).dropped = false := by
  intro s
  unfold EmissionRule.applyAll at h
  cases hall : processAll rules code s with
  | error fault e =>
    rw [hall] at h
    cases h
  | ok _ e =>
    rw [hall] at h
    have hbuilt : built = e.builder.finish := (Except.ok.inj h).symm
    rw [processAll_eq] at hall
    obtain ⟨_, c, hcode, hfinish⟩ := bind_eq_ok.1 hall
    have hvisits : rules.forM (visit none (·.finish)) c = .ok () e := hfinish
    have hblocks := (code_processFrom rfl hcode).1
    have hclosing := (grows_visits hvisits).code
    have hnew : built.code =
        code.zipIdx.flatMap (fun p => block p.1 (visitsAt rules code s p)) ++
          (visits none (·.finish) rules c).flatMap Visit.written := by
      rw [hbuilt]
      show e.builder.code.toList = _
      rw [hclosing, hblocks]
      rfl
    rw [finalState_of_ok hcode, hnew]
    exact ⟨rfl, (markers_sublist _ 0).trans (List.sublist_append_left _ _),
      not_dropped_take rfl hcode⟩

/-- Drops whatever it visits but returns, and drops when it finishes. -/
def dropping : EmissionRule Unit where
  name := "Dropping"
  emit i := if i = .exec .vreturn .empty then .done () else Action.drop
  finish := Action.drop

/-- Writes padding after a call that fails, a jump to nowhere. -/
def padding : EmissionRule Unit where
  name := "Padding"
  emit _ := .ask (.build (.plain .goto)) fun _ => discard (Action.build (.plain .nop))
  finish := discard (Action.build (.plain .nop))

/-- Neither the request to drop the label nor the one at the end drops the return. -/
theorem placement_dropping_padding :
    let m : Member := ⟨"sandbox/Task", "run", "()V", .static, []⟩
    let code : List Instruction := [.exec .iconst0 .empty, .label ⟨0⟩, .exec .vreturn .empty]
    let nop : Instruction := .exec .nop .empty
    let padded := [nop, .label ⟨0⟩, nop, nop, .exec .vreturn .empty, nop]
    let rules := [dropping, padding]
    let s : Emission Unit := start {} m (labelBase code)
    (EmissionRule.applyAll rules {} m code).result = .ok ⟨padded, 0⟩ ∧
      padded = code.zipIdx.flatMap (fun p => block p.1 (visitsAt rules code s p)) ++
        (visits none (·.finish) rules (finalState (processFrom rules 0 code) s)).flatMap
          Visit.written ∧
      (code.filter (·.isMarker)).Sublist padded ∧
      ∀ n, (finalState (processFrom rules 0 (code.take n)) s).dropped = false := by
  intro m code nop padded rules s
  have hresult : (EmissionRule.applyAll rules {} m code).result = .ok ⟨padded, 0⟩ := by
    decide +kernel
  exact ⟨hresult, placement hresult⟩

end Emission

end BytecodeGuard
