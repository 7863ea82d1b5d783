import BytecodeGuard.Proofs.Builder.Calls
import BytecodeGuard.Proofs.Emission.Placement

/-!
# The transcript of an emission

Whatever rules do to the code of a method, they do by calls to its builder, and so does the method
itself when its instructions come up. `transcript` lists these calls in order, each with its
reply. It ends with the emission, also when a fault ends it early.

**Theorem (`answered_transcript`).** The transcript is that of one builder: each call is answered
by the builder that the calls before it have left, and the last builder is that of the emission.

For this the actions are written down together with what they record (`Recorded`); without the
records they are the emission itself (`act_recorded`). A statement about all calls is then proved
call by call: `satisfies_recorded` takes it from what an instruction of the method does
(`satisfies_passed`) and from what a request of a rule does (`satisfies_followed`). `Yields` is
about a part of the record that comes from the instructions of the method.
-/

namespace BytecodeGuard

/-! ## Actions with a record -/

/-- An action with what it records, from a state, until it ends or fails. -/
structure Recorded (ε σ β α : Type) where
  act : EStateM ε σ α
  record : σ → List β

namespace Recorded

variable {ε σ β α γ δ : Type}

/-- An action that records nothing. -/
def silent (x : EStateM ε σ α) : Recorded ε σ β α := ⟨x, fun _ => []⟩

/-- One action after the other. A fault ends the record. -/
def bind (x : Recorded ε σ β α) (f : α → Recorded ε σ β γ) : Recorded ε σ β γ where
  act := x.act >>= fun a => (f a).act
  record s := x.record s ++
    match x.act s with
    | .ok a t => (f a).record t
    | .error _ _ => []

/-- An action for each element of a list. -/
def forM (f : δ → Recorded ε σ β Unit) : List δ → Recorded ε σ β Unit
  | [] => silent (pure ())
  | a :: as => (f a).bind fun _ => forM f as

theorem act_forM (f : δ → Recorded ε σ β Unit) (as : List δ) :
    (forM f as).act = as.forM fun a => (f a).act := by
  induction as with
  | nil => rfl
  | cons a as ih =>
    show ((f a).act >>= fun _ => (forM f as).act) = ((f a).act >>= fun _ => _)
    rw [ih]

/-- A statement about a state, a record, the fault at its end, if there is one, and the state that
is left. It can be put together from statements about the parts of the record. -/
structure Composes (motive : σ → List β → Option ε → σ → Prop) : Prop where
  nil : ∀ s, motive s [] none s
  append : ∀ {s t u xs ys fault}, motive s xs none t → motive t ys fault u →
    motive s (xs ++ ys) fault u

/-- The statement holds of every run of the action. -/
def Satisfies (motive : σ → List β → Option ε → σ → Prop) (x : Recorded ε σ β α) : Prop :=
  ∀ s, motive s (x.record s) (fault? x.act s) (finalState x.act s)

variable {motive : σ → List β → Option ε → σ → Prop}

theorem record_bind_of_ok {x : Recorded ε σ β α} {f : α → Recorded ε σ β γ} {s t : σ} {a : α}
    (h : x.act s = .ok a t) : (x.bind f).record s = x.record s ++ (f a).record t := by
  unfold bind
  dsimp only
  rw [h]

theorem record_bind_of_error {x : Recorded ε σ β α} {f : α → Recorded ε σ β γ} {s t : σ}
    {fault : ε} (h : x.act s = .error fault t) : (x.bind f).record s = x.record s := by
  unfold bind
  dsimp only
  rw [h, List.append_nil]

theorem Satisfies.bind (hm : Composes motive) {x : Recorded ε σ β α}
    {f : α → Recorded ε σ β γ} (hx : x.Satisfies motive) (hf : ∀ a, (f a).Satisfies motive) :
    (x.bind f).Satisfies motive := by
  intro s
  have hfirst := hx s
  cases h : x.act s with
  | ok a t =>
    rw [fault?_of_ok h, finalState_of_ok h] at hfirst
    have hsame : (x.bind f).act s = (f a).act t := bind_of_ok h
    unfold fault? finalState
    rw [record_bind_of_ok h, hsame]
    exact hm.append hfirst (hf a t)
  | error fault t =>
    rw [fault?_of_error h, finalState_of_error h] at hfirst
    have hsame : (x.bind f).act s = .error fault t := bind_of_error h
    rw [record_bind_of_error h, fault?_of_error hsame, finalState_of_error hsame]
    exact hfirst

theorem Satisfies.forM (hm : Composes motive) {f : δ → Recorded ε σ β Unit} {as : List δ}
    (hf : ∀ a ∈ as, (f a).Satisfies motive) : (Recorded.forM f as).Satisfies motive := by
  induction as with
  | nil => exact fun s => hm.nil s
  | cons a as ih =>
    have hothers := ih fun a' ha' => hf a' (List.mem_cons_of_mem a ha')
    exact (hf a List.mem_cons_self).bind hm fun _ => hothers

/-! ## Parts of a record -/

/-- However the action goes, a part of its record comes from the source, in order. -/
def Yields (part : β → Option γ) (source : List γ) (x : Recorded ε σ β α) : Prop :=
  ∀ s, ((x.record s).filterMap part).Sublist source

variable {part : β → Option γ} {source source' : List γ}

theorem yields_silent (x : EStateM ε σ α) : (silent x).Yields part [] :=
  fun _ => List.Sublist.slnil

theorem Yields.bind {x : Recorded ε σ β α} {f : α → Recorded ε σ β δ}
    (hx : x.Yields part source) (hf : ∀ a, (f a).Yields part source') :
    (x.bind f).Yields part (source ++ source') := by
  intro s
  cases h : x.act s with
  | ok a t =>
    rw [record_bind_of_ok h, List.filterMap_append]
    exact (hx s).append (hf a t)
  | error fault t =>
    rw [record_bind_of_error h]
    exact (hx s).trans (List.sublist_append_left source source')

theorem Yields.forM {f : δ → Recorded ε σ β Unit} {source : δ → List γ}
    (hf : ∀ a, (f a).Yields part (source a)) (as : List δ) :
    (Recorded.forM f as).Yields part (as.flatMap source) := by
  induction as with
  | nil => exact yields_silent (pure ())
  | cons a as ih => exact (hf a).bind fun _ => ih

end Recorded

/-! ## Calls to the builder of a method -/

/-- A call to the builder of a method, and how it went. -/
structure Call where
  /-- A rule makes the call. Otherwise an instruction of the method comes up. -/
  byRule : Bool
  step : Step
  reply : Except Fault (Option Label)

/-- The call that an exchange is, if it is one. -/
def Emission.Exchange.calls {σ : Type} : Emission.Exchange σ → List Call
  | ⟨.build step, reply⟩ => [⟨true, step, reply⟩]
  | _ => []

namespace Emission

open Recorded

variable {σ α : Type}

/-- An action of an emission with the calls that it makes. -/
abbrev Rec (σ α : Type) := Recorded Fault (Emission σ) Call α

/-- An instruction of the method comes up. -/
def passed (i : Instruction) : Rec σ Unit where
  act := discard (build (.instruction i))
  record e := [⟨false, .instruction i, ((Step.instruction i).attempt e.builder).1⟩]

/-- The calls of a script. -/
def followed (x : Action σ α) : Rec σ α where
  act := act x
  record e := (x.exchanges answer e).flatMap Exchange.calls

/-- The calls of a rule during a visit. -/
def visited (index : Option Nat) (script : EmissionRule σ → Action σ Unit)
    (rule : EmissionRule σ) : Rec σ Unit :=
  (silent (enter index rule.name)).bind fun _ => followed (script rule)

/-- The calls before the rules visit an instruction. -/
def presented (i : Instruction) : Rec σ Unit :=
  if i.isMarker then passed i else silent (pure ())

/-- The calls after the rules have visited an instruction. -/
def retained (i : Instruction) (dropped : Bool) : Rec σ Unit :=
  if !i.isMarker && !dropped then passed i else silent (pure ())

/-- The calls while an instruction is handled. -/
def processed (rules : List (EmissionRule σ)) (i : Instruction) (k : Nat) : Rec σ Unit :=
  (presented i).bind fun _ => (forM (visited (some k) (·.emit i)) rules).bind fun _ =>
    (silent takeDropped).bind fun dropped => retained i dropped

/-- The calls while the code of a method is handled and every rule finishes. -/
def recorded (rules : List (EmissionRule σ)) (code : List Instruction) : Rec σ Unit :=
  (forM (fun p => processed rules p.1 p.2) code.zipIdx).bind fun _ =>
    forM (visited none (·.finish)) rules

/-- The calls that are made to the builder of a method. -/
def transcript [Inhabited σ] (rules : List (EmissionRule σ)) (config : Config) (m : Member)
    (code : List Instruction) : List Call :=
  (recorded rules code).record (start config m (labelBase code))

theorem act_presented (i : Instruction) : (presented i : Rec σ Unit).act = present i := by
  unfold presented present
  split <;> rfl

theorem act_retained (i : Instruction) (dropped : Bool) :
    (retained i dropped : Rec σ Unit).act = retain i dropped := by
  unfold retained retain
  split <;> rfl

theorem act_visits (index : Option Nat) (script : EmissionRule σ → Action σ Unit)
    (rules : List (EmissionRule σ)) :
    (forM (visited index script) rules).act = rules.forM (visit index script) :=
  act_forM (visited index script) rules

theorem act_processed (rules : List (EmissionRule σ)) (i : Instruction) (k : Nat) :
    (processed rules i k).act = process rules i k := by
  show ((presented i).act >>= fun _ => (forM (visited (some k) (·.emit i)) rules).act >>= fun _ =>
    takeDropped >>= fun dropped => (retained i dropped).act) = _
  simp only [act_presented, act_visits, act_retained]
  exact (process_eq rules i k).symm

/-- Without the records this is the emission of the method. -/
theorem act_recorded (rules : List (EmissionRule σ)) (code : List Instruction) :
    (recorded rules code).act = processAll rules code := by
  show ((forM (fun p => processed rules p.1 p.2) code.zipIdx).act >>= fun _ =>
    (forM (visited none (·.finish)) rules).act) = _
  simp only [act_forM, act_processed]
  rfl

/-! ## Statements about all calls -/

variable {motive : Emission σ → List Call → Option Fault → Emission σ → Prop}

theorem record_followed_ask (r : Request σ) (next : r.Reply → Action σ α) (e : Emission σ) :
    (followed (.ask r next)).record e = Exchange.calls ⟨r, (answer r e).1⟩ ++
      (followed (next (answer r e).1)).record (answer r e).2 :=
  List.flatMap_cons

/-- A statement about the calls of a script follows from what a single request does. -/
theorem satisfies_followed (hm : Composes motive)
    (hanswer : ∀ r e, motive e (Exchange.calls ⟨r, (answer r e).1⟩) none (answer r e).2)
    (hfail : ∀ e fault, motive e [] (some fault) e) (x : Action σ α) :
    (followed x).Satisfies motive := by
  induction x with
  | done result => exact hm.nil
  | fail fault => exact fun e => hfail e fault
  | ask r next ih =>
    intro e
    rw [record_followed_ask]
    exact hm.append (hanswer r e) (ih (answer r e).1 (answer r e).2)

/-- A statement about an instruction of the method follows from how the builder takes it. -/
theorem satisfies_passed {i : Instruction}
    (hok : ∀ (e : Emission σ) result b, (Step.instruction i).run e.builder = .ok result b →
      motive e [⟨false, .instruction i, .ok result⟩] none (e.withBuilder b))
    (herror : ∀ (e : Emission σ) fault b, (Step.instruction i).run e.builder = .error fault b →
      motive e [⟨false, .instruction i, .error fault⟩] (some fault) (e.withBuilder b)) :
    (passed i).Satisfies motive := by
  intro e
  unfold passed
  dsimp only
  cases h : (Step.instruction i).run e.builder with
  | ok result b =>
    have hrun : (discard (build (.instruction i)) : Emit σ Unit) e = .ok () (e.withBuilder b) := by
      apply discard_of_ok (a := result)
      unfold build
      rw [h]
      rfl
    rw [Step.attempt_of_ok h, fault?_of_ok hrun, finalState_of_ok hrun]
    exact hok e result b h
  | error fault b =>
    have hrun : (discard (build (.instruction i)) : Emit σ Unit) e =
        .error fault (e.withBuilder b) := by
      apply discard_of_error
      unfold build
      rw [h]
      rfl
    rw [Step.attempt_of_error h, fault?_of_error hrun, finalState_of_error hrun]
    exact herror e fault b h

/-- A statement about the calls of a visit follows from one about the script. -/
theorem satisfies_visited (hm : Composes motive)
    (hsite : ∀ e site, motive e [] none { e with site })
    {index : Option Nat} {script : EmissionRule σ → Action σ Unit} {rule : EmissionRule σ}
    (hscript : (followed (script rule)).Satisfies motive) :
    (visited index script rule).Satisfies motive := by
  have henter : (silent (enter index rule.name)).Satisfies motive := fun e =>
    hsite e { e.site with index, rule := rule.name }
  exact henter.bind hm fun _ => hscript

/-- **All calls.** A statement about the transcript follows from what one instruction of the method
and the script of one rule do. -/
theorem satisfies_recorded (hm : Composes motive)
    (hsite : ∀ e site, motive e [] none { e with site })
    (hdropped : ∀ e, motive e [] none { e with dropped := false })
    (hpassed : ∀ i, (passed i).Satisfies motive) {rules : List (EmissionRule σ)}
    (hemit : ∀ rule ∈ rules, ∀ i, (followed (rule.emit i)).Satisfies motive)
    (hfinish : ∀ rule ∈ rules, (followed rule.finish).Satisfies motive)
    (code : List Instruction) : (recorded rules code).Satisfies motive := by
  have hidle : (silent (pure ()) : Rec σ Unit).Satisfies motive := hm.nil
  have hpresented : ∀ i, (presented i).Satisfies motive := fun i => by
    unfold presented
    split
    · exact hpassed i
    · exact hidle
  have hretained : ∀ i dropped, (retained i dropped).Satisfies motive := fun i dropped => by
    unfold retained
    split
    · exact hpassed i
    · exact hidle
  have htake : (silent takeDropped : Rec σ Bool).Satisfies motive := hdropped
  have hprocessed : ∀ i k, (processed rules i k).Satisfies motive := fun i k => by
    have hvisits : (forM (visited (some k) (·.emit i)) rules).Satisfies motive :=
      .forM hm fun rule hrule => satisfies_visited hm hsite (hemit rule hrule i)
    refine (hpresented i).bind hm fun _ => hvisits.bind hm fun _ => ?_
    exact htake.bind hm fun dropped => hretained i dropped
  have hcode : (forM (fun p => processed rules p.1 p.2) code.zipIdx).Satisfies motive :=
    .forM hm fun p _ => hprocessed p.1 p.2
  have hlast : (forM (visited none (·.finish)) rules).Satisfies motive :=
    .forM hm fun rule hrule => satisfies_visited hm hsite (hfinish rule hrule)
  exact hcode.bind hm fun _ => hlast

/-! ## Replies come from the builder -/

/-- From one builder to another, the calls are answered in order by the builder of their time. -/
def Answered : Builder → List Call → Builder → Prop
  | b, [], b' => b' = b
  | b, call :: calls, b' =>
    call.reply = (call.step.attempt b).1 ∧ Answered (call.step.attempt b).2 calls b'

variable {b b' b'' : Builder} {calls calls' : List Call}

theorem answered_append :
    Answered b (calls ++ calls') b'' ↔ ∃ b', Answered b calls b' ∧ Answered b' calls' b'' := by
  induction calls generalizing b with
  | nil =>
    constructor
    · exact fun h => ⟨b, rfl, h⟩
    · rintro ⟨_, rfl, h⟩
      exact h
  | cons call calls ih =>
    simp only [List.cons_append, Answered, ih]
    constructor
    · rintro ⟨hreply, b', h, h'⟩
      exact ⟨b', ⟨hreply, h⟩, h'⟩
    · rintro ⟨b', ⟨hreply, h⟩, h'⟩
      exact ⟨hreply, b', h, h'⟩

/-- The call has not failed. -/
def Succeeds (call : Call) : Prop := ∃ result, call.reply = .ok result

/-- Calls that all succeed are the calls of a run. -/
theorem calls_of_answered (h : Answered b calls b') (hok : ∀ call ∈ calls, Succeeds call) :
    Builder.calls (calls.map Call.step) b = .ok () b' := by
  induction calls generalizing b with
  | nil =>
    cases h
    rfl
  | cons call calls ih =>
    obtain ⟨hreply, hcalls⟩ := h
    obtain ⟨result, hresult⟩ := hok call List.mem_cons_self
    have hrun := Step.run_of_attempt (hreply.symm.trans hresult)
    have hrest := ih hcalls fun call' hcall' => hok call' (List.mem_cons_of_mem call hcall')
    exact Builder.calls_cons_eq_ok.2 ⟨result, _, hrun, hrest⟩

/-- **The transcript is that of one builder**, the one that the method begins with, and leads to
the builder that the emission leaves. -/
theorem answered_transcript [Inhabited σ] (rules : List (EmissionRule σ)) (config : Config)
    (m : Member) (code : List Instruction) :
    Answered (.ofLabelBase (labelBase code)) (transcript rules config m code)
      (finalState (processAll rules code) (start config m (labelBase code))).builder := by
  let motive (e : Emission σ) (calls : List Call) (_ : Option Fault) (e' : Emission σ) : Prop :=
    Answered e.builder calls e'.builder
  have hm : Composes motive :=
    ⟨fun _ => rfl, fun h h' => answered_append.2 ⟨_, h, h'⟩⟩
  have hscript : ∀ x : Action σ Unit, (followed x).Satisfies motive := by
    refine satisfies_followed hm (fun r e => ?_) (fun _ _ => rfl)
    cases r with
    | build step => exact ⟨rfl, rfl⟩
    | trace text settings =>
      show (e.report _).builder = e.builder
      unfold report
      split <;> rfl
    | _ => rfl
  have hpassed : ∀ i, (passed i : Rec σ Unit).Satisfies motive := fun i => by
    apply satisfies_passed
    · intro e result b h
      show _ ∧ b = _
      rw [Step.attempt_of_ok h]
      exact ⟨rfl, rfl⟩
    · intro e fault b h
      show _ ∧ b = _
      rw [Step.attempt_of_error h]
      exact ⟨rfl, rfl⟩
  have hall : (recorded rules code).Satisfies motive :=
    satisfies_recorded hm (fun _ _ => rfl) (fun _ => rfl) hpassed
      (fun rule _ i => hscript (rule.emit i)) (fun rule _ => hscript rule.finish) code
  have hrun := hall (start config m (labelBase code))
  rw [act_recorded] at hrun
  exact hrun

end Emission

end BytecodeGuard
