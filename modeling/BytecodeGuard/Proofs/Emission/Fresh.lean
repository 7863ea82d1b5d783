import BytecodeGuard.Proofs.Builder.Labels
import BytecodeGuard.Proofs.Emission.Policy
import BytecodeGuard.Proofs.Emission.Transcript

/-!
# Fresh labels

A rule that needs a label of its own asks the builder for a fresh one. The builder counts on from
a number above every label of the method, so it does not matter which labels of the method are
placed when a rule asks, and which come up later.

**Theorem (`fresh_labels`).** Whatever rules do to a method, each label that is handed out is above
every label that the code mentions and above those handed out before, and a request fails only
when the numbers have run out. Rules that place each fresh label at most once, and no other label,
never make a call find a label placed already.

All calls are answered by one builder (`answered_transcript`). Its counter starts at the base of
the code (`index_lt_labelBase`) and goes up by one with each label (`index_handedOut`). The labels
that are placed come from the rules or from the code, which places no label more often than it has
it (`ownPlaces_sublist`); so if neither places a label twice, none is placed twice
(`PlacesFresh.nodup_places`).

A rule can also give up with any fault it likes. The policy `relaying` excludes this: the rule may
pass on a fault that a call has failed with, but does not make it up.
-/

namespace BytecodeGuard

/-! ## The labels of a method -/

/-- The instruction places the label or refers to it. -/
inductive Instruction.Mentions : Instruction → Label → Prop
  | placed (l : Label) : Mentions (.label l) l
  | target (op : Opcode) (l : Label) : Mentions (.exec op (.target l)) l
  | fallback (op : Opcode) (l : Label) (keys : List Int32) (targets : List Label) :
      Mentions (.exec op (.switch l keys targets)) l
  | case (op : Opcode) (l : Label) (keys : List Int32) (targets : List Label) {l' : Label}
      (h : l' ∈ targets) : Mentions (.exec op (.switch l keys targets)) l'
  | line (number : UInt32) (start : Label) : Mentions (.line number start) start
  | start (r : HandlerRegion) : Mentions (.region r) r.start
  | stop (r : HandlerRegion) : Mentions (.region r) r.stop
  | handler (r : HandlerRegion) : Mentions (.region r) r.handler

theorem mem_labels_iff {i : Instruction} {l : Label} : l ∈ i.labels ↔ i.Mentions l := by
  constructor
  · intro h
    cases i with
    | exec op operand =>
      cases operand with
      | target l' =>
        obtain rfl : l = l' := List.mem_singleton.1 h
        exact .target op l
      | switch fallback keys targets =>
        rcases List.mem_cons.1 h with rfl | h
        · exact .fallback op l keys targets
        · exact .case op fallback keys targets h
      | _ => cases h
    | label l' =>
      obtain rfl : l = l' := List.mem_singleton.1 h
      exact .placed l
    | line number start =>
      obtain rfl : l = start := List.mem_singleton.1 h
      exact .line number l
    | region r =>
      have hr : l = r.start ∨ l = r.stop ∨ l = r.handler := by
        simpa [Instruction.labels] using h
      rcases hr with rfl | rfl | rfl
      · exact .start r
      · exact .stop r
      · exact .handler r
  · intro h
    cases h <;> simp_all [Instruction.labels, Operand.targets]

/-- The labels of the code are below its base. -/
theorem index_lt_labelBase {code : List Instruction} {i : Instruction} {l : Label} (hi : i ∈ code)
    (h : i.Mentions l) : l.index < labelBase code := by
  have hl : l.index + 1 ∈ (code.flatMap Instruction.labels).map fun l => l.index + 1 :=
    List.mem_map_of_mem (List.mem_flatMap.2 ⟨i, hi, mem_labels_iff.2 h⟩)
  unfold labelBase
  rw [List.foldl_max_eq_max (List.ne_nil_of_mem hl)]
  exact Nat.le_trans (List.le_max_of_mem hl) (Nat.le_max_right _ _)

/-! ## Fresh labels -/

/-- The label that a call hands out. -/
def Call.handedOut? (call : Call) : Option Label :=
  match call.step, call.reply with
  | .newLabel, .ok l => l
  | _, _ => none

/-- The label that an instruction of the method places when it comes up. -/
def Call.own? (call : Call) : Option Label := if call.byRule then none else call.step.places?

namespace Emission

variable {σ : Type} {b b' : Builder} {calls pre post : List Call} {call : Call} {l : Label}

/-- The labels that are handed out, in order. -/
def handedOut (calls : List Call) : List Label := calls.filterMap Call.handedOut?

/-- A call hands out the next number or leaves it as it is. -/
theorem handedOut?_cases (h : call.reply = (call.step.attempt b).1) :
    (call.handedOut? = none ∧ (call.step.attempt b).2.nextLabel = b.nextLabel) ∨
      ∃ l, call.handedOut? = some l ∧ l.index = b.nextLabel ∧
        (call.step.attempt b).2.nextLabel = b.nextLabel + 1 := by
  unfold Call.handedOut?
  rw [h]
  by_cases hs : call.step = .newLabel
  · rw [hs]
    rcases Nat.lt_or_ge b.nextLabel UInt32.size with hn | hn
    · rw [Step.attempt_newLabel_of_lt hn]
      exact .inr ⟨_, rfl, UInt32.toNat_ofNat_of_lt' hn, rfl⟩
    · rw [Step.attempt_newLabel_of_le hn]
      exact .inl ⟨rfl, rfl⟩
  · refine .inl ⟨?_, Step.nextLabel_attempt hs b⟩
    split
    · contradiction
    · rfl

/-- **Fresh labels are consecutive.** Each call that hands out a label raises the next number. -/
theorem index_handedOut (h : Answered b calls b') :
    (handedOut calls).map Label.index = List.range' b.nextLabel (handedOut calls).length ∧
      b'.nextLabel = b.nextLabel + (handedOut calls).length := by
  induction calls generalizing b with
  | nil =>
    cases h
    exact ⟨rfl, rfl⟩
  | cons call calls ih =>
    obtain ⟨hreply, hcalls⟩ := h
    obtain ⟨hnumbers, hnext⟩ := ih hcalls
    rcases handedOut?_cases hreply with ⟨hnone, hsame⟩ | ⟨l, hsome, hl, hnew⟩
    · have hout : handedOut (call :: calls) = handedOut calls := List.filterMap_cons_none hnone
      rw [hout, ← hsame]
      exact ⟨hnumbers, hnext⟩
    · have hout : handedOut (call :: calls) = l :: handedOut calls :=
        List.filterMap_cons_some hsome
      rw [hnew] at hnumbers hnext
      rw [hout, List.map_cons, hnumbers, hl, hnext, List.length_cons]
      exact ⟨rfl, by omega⟩

theorem le_of_mem_handedOut (h : Answered b calls b') (hl : l ∈ handedOut calls) :
    b.nextLabel ≤ l.index := by
  have hindex : l.index ∈ (handedOut calls).map Label.index := List.mem_map_of_mem hl
  rw [(index_handedOut h).1, List.mem_range'_1] at hindex
  exact hindex.1

theorem lt_of_mem_handedOut (h : Answered b calls b') (hl : l ∈ handedOut calls) :
    l.index < b'.nextLabel := by
  obtain ⟨hnumbers, hnext⟩ := index_handedOut h
  have hindex : l.index ∈ (handedOut calls).map Label.index := List.mem_map_of_mem hl
  rw [hnumbers, List.mem_range'_1] at hindex
  rw [hnext]
  exact hindex.2

theorem pairwise_handedOut (h : Answered b calls b') : (handedOut calls).Pairwise (· < ·) := by
  have hindex : ((handedOut calls).map Label.index).Pairwise (· < ·) := by
    rw [(index_handedOut h).1]
    exact List.pairwise_lt_range'
  rw [List.pairwise_map] at hindex
  exact hindex

/-- A request for a fresh label fails if and only if the next number is not that of a label. -/
theorem newLabel_fails_iff (h : Answered b (pre ++ call :: post) b') (hs : call.step = .newLabel) :
    (∃ fault, call.reply = .error fault) ↔
      UInt32.size ≤ b.nextLabel + (handedOut pre).length := by
  obtain ⟨c, hpre, hreply, -⟩ := answered_append.1 h
  rw [hreply, hs, Step.attempt_newLabel_eq_error, (index_handedOut hpre).2]

/-! ## Labels that are placed -/

/-- The labels that calls ask to place, in order. -/
def places (calls : List Call) : List Label := calls.filterMap (·.step.places?)

/-- If no two calls ask to place the same label, no call finds a label placed already. -/
theorem not_duplicate_of_nodup (h : Answered b calls b') (honce : (places calls).Nodup)
    (hnew : ∀ l ∈ places calls, l ∉ b.placed) :
    ∀ call ∈ calls, ∀ l, call.reply ≠ .error (.duplicateLabel l) := by
  induction calls generalizing b with
  | nil => exact fun call hcall => absurd hcall List.not_mem_nil
  | cons call calls ih =>
    obtain ⟨hreply, hcalls⟩ := h
    have hplaces : places (call :: calls) = call.step.places?.toList ++ places calls := by
      simp only [places, List.filterMap_eq_flatMap_toList, List.flatMap_cons]
    rw [hplaces] at honce hnew
    obtain ⟨-, hothers, hdisjoint⟩ := List.nodup_append.1 honce
    intro call' hcall' l hl
    rcases List.mem_cons.1 hcall' with rfl | hcall'
    · rw [hreply] at hl
      obtain ⟨hs, hplaced⟩ := Step.duplicateLabel_attempt hl
      exact hnew l (List.mem_append_left _ (hs ▸ List.mem_singleton_self l)) hplaced
    · refine ih hcalls hothers (fun l hl hplaced => ?_) call' hcall' l hl
      rcases Step.mem_placed_attempt hplaced with hplaced | hs
      · exact hnew l (List.mem_append_right _ hl) hplaced
      · exact hdisjoint l (hs ▸ List.mem_singleton_self l) l hl rfl

/-- The labels that rules ask to place, in order. -/
def rulePlaces (calls : List Call) : List Label := places (calls.filter (·.byRule))

/-- The labels that instructions of the method place when they come up, in order. -/
def ownPlaces (calls : List Call) : List Label := places (calls.filter (!·.byRule))

theorem perm_places (calls : List Call) :
    (rulePlaces calls ++ ownPlaces calls).Perm (places calls) := by
  unfold rulePlaces ownPlaces places
  rw [← List.filterMap_append]
  exact (List.filter_append_perm (·.byRule) calls).filterMap _

theorem ownPlaces_eq (calls : List Call) : ownPlaces calls = calls.filterMap Call.own? := by
  unfold ownPlaces places
  rw [List.filterMap_filter]
  congr 1
  funext call
  unfold Call.own?
  cases call.byRule <;> rfl

open Recorded

variable {rules : List (EmissionRule σ)}

theorem yields_passed (i : Instruction) :
    (passed i : Rec σ Unit).Yields Call.own? i.label?.toList := by
  intro e
  show List.Sublist (List.filterMap Call.own? [_]) _
  simp only [List.filterMap_eq_flatMap_toList, List.flatMap_singleton]
  exact List.Sublist.refl _

theorem yields_followed (x : Action σ Unit) : (followed x).Yields Call.own? [] := by
  intro e
  have hnone : ∀ call ∈ (followed x).record e, Call.own? call = none := by
    intro call hcall
    obtain ⟨⟨r, reply⟩, -, hcall⟩ := List.mem_flatMap.1 hcall
    cases r with
    | build step =>
      obtain rfl := List.mem_singleton.1 hcall
      rfl
    | _ => cases hcall
  rw [List.filterMap_eq_nil_iff.2 hnone]

theorem yields_visits (index : Option Nat) (script : EmissionRule σ → Action σ Unit)
    (rules : List (EmissionRule σ)) :
    (forM (visited index script) rules).Yields Call.own? [] := by
  have hvisited : ∀ rule, (visited index script rule).Yields Call.own? [] := fun rule =>
    (yields_silent _).bind fun _ => yields_followed (script rule)
  have hall := Yields.forM hvisited rules
  rwa [List.flatMap_eq_nil_iff.2 fun _ _ => rfl] at hall

/-- An instruction is built at most once, before or after the rules have visited it. -/
theorem yields_processed (rules : List (EmissionRule σ)) (i : Instruction) (k : Nat) :
    (processed rules i k).Yields Call.own? i.label?.toList := by
  have hpresented : (presented i : Rec σ Unit).Yields Call.own? i.label?.toList := by
    unfold presented
    split
    · exact yields_passed i
    · exact fun e => List.nil_sublist _
  have hretained : ∀ dropped, (retained i dropped : Rec σ Unit).Yields Call.own? [] := by
    intro dropped
    unfold retained
    cases i with
    | exec op operand =>
      split
      · exact yields_passed (.exec op operand)
      · exact yields_silent (pure ())
    | _ => exact yields_silent (pure ())
  have hall := hpresented.bind fun _ => (yields_visits (some k) (·.emit i) rules).bind fun _ =>
    (yields_silent takeDropped).bind hretained
  rwa [List.append_nil, List.append_nil, List.append_nil] at hall

/-- **The method places its own labels** in the order of its code, and each of them at most as
often as its code does. -/
theorem ownPlaces_sublist [Inhabited σ] (rules : List (EmissionRule σ)) (config : Config)
    (m : Member) (code : List Instruction) :
    (ownPlaces (transcript rules config m code)).Sublist (code.filterMap Instruction.label?) := by
  have hcode := Yields.forM (fun p : Instruction × Nat => yields_processed rules p.1 p.2)
    code.zipIdx
  have hall := hcode.bind fun _ => yields_visits none (·.finish) rules
  have hsource : code.zipIdx.flatMap (fun p => p.1.label?.toList) =
      code.filterMap Instruction.label? := by
    rw [← List.filterMap_eq_flatMap_toList (fun p : Instruction × Nat => p.1.label?)]
    show code.zipIdx.filterMap (Instruction.label? ∘ Prod.fst) = _
    rw [← List.filterMap_map, List.zipIdx_map_fst]
  rw [ownPlaces_eq, ← hsource]
  have hrun := hall (start config m (labelBase code))
  rwa [List.append_nil] at hrun

/-- Rules place each label that is handed out at most once, and no other label. -/
structure PlacesFresh (calls : List Call) : Prop where
  fresh : ∀ l ∈ rulePlaces calls, l ∈ handedOut calls
  once : (rulePlaces calls).Nodup

/-- With such rules nothing is placed twice, if the method places its own labels once. -/
theorem PlacesFresh.nodup_places [Inhabited σ] {config : Config} {m : Member}
    {code : List Instruction} (h : PlacesFresh (transcript rules config m code))
    (hcode : (code.filterMap Instruction.label?).Nodup) :
    (places (transcript rules config m code)).Nodup := by
  have hown := ownPlaces_sublist rules config m code
  have hdisjoint : ∀ l ∈ rulePlaces (transcript rules config m code),
      ∀ l' ∈ ownPlaces (transcript rules config m code), l ≠ l' := by
    rintro l hl _ hl' rfl
    -- A fresh label is not below the base, a label of the code is.
    have hge : labelBase code ≤ l.index :=
      le_of_mem_handedOut (answered_transcript rules config m code) (h.fresh l hl)
    obtain ⟨i, hi, hlabel⟩ := List.mem_filterMap.1 (hown.subset hl')
    have hmentions : i.Mentions l := by
      cases i <;> cases hlabel
      exact .placed l
    exact absurd (index_lt_labelBase hi hmentions) (Nat.not_lt.2 hge)
  rw [← (perm_places _).nodup_iff]
  exact List.nodup_append.2 ⟨h.once, hown.nodup hcode, hdisjoint⟩

/-! ## Rules that pass faults on -/

/-- A rule gives up with the fault only if a call has failed with it. -/
def relaying (fault : Fault) : Policy σ where
  expects r reply := ∀ call ∈ Exchange.calls ⟨r, reply⟩, call.reply ≠ .error fault
  fails fault' := fault' ≠ fault

theorem passesOn_relaying (fault : Fault) : Policy.PassesOn (relaying (σ := σ) fault) := by
  rintro s fault' h rfl
  exact h _ (List.mem_singleton_self _) rfl

/-- An emission that fails for this reason has a call that failed for this reason. -/
def Reported (fault : Fault) (_ : Emission σ) (calls : List Call) (stop : Option Fault)
    (_ : Emission σ) : Prop :=
  stop = some fault → ∃ call ∈ calls, call.reply = .error fault

theorem composes_reported (fault : Fault) : Composes (Reported (σ := σ) fault) where
  nil _ h := by cases h
  append _ h' hstop := by
    obtain ⟨call, hcall, hreply⟩ := h' hstop
    exact ⟨call, List.mem_append_right _ hcall, hreply⟩

theorem reported_followed {fault : Fault} {x : Action σ Unit} (hx : x.Obeys (relaying fault)) :
    (followed x).Satisfies (Reported fault) := by
  induction x with
  | done result => exact fun e h => by cases h
  | fail fault' => exact fun e h => absurd (Option.some.inj h) hx
  | ask r next ih =>
    intro e
    rw [record_followed_ask]
    by_cases hcall : ∃ call ∈ Exchange.calls ⟨r, (answer r e).1⟩, call.reply = .error fault
    · obtain ⟨call, hcall, hreply⟩ := hcall
      exact fun _ => ⟨call, List.mem_append_left _ hcall, hreply⟩
    · have hnext : (next (answer r e).1).Obeys (relaying fault) := by
        apply hx.2
        intro call hc hreply
        exact hcall ⟨call, hc, hreply⟩
      exact (composes_reported fault).append (fun h => by cases h) (ih _ hnext (answer r e).2)

/-- **Where a fault comes from.** If the rules only pass a fault on, a call has failed with it. -/
theorem exists_call_of_error [Inhabited σ] {rules : List (EmissionRule σ)} {config : Config}
    {m : Member} {code : List Instruction} {fault : Fault}
    (hrules : ∀ rule ∈ rules, rule.Obeys (relaying fault))
    (h : (EmissionRule.applyAll rules config m code).result = .error fault) :
    ∃ call ∈ transcript rules config m code, call.reply = .error fault := by
  have hpassed : ∀ i, (passed i : Rec σ Unit).Satisfies (Reported fault) := fun i => by
    apply satisfies_passed
    · exact fun e result b _ hstop => by cases hstop
    · intro e fault' b _ hstop
      obtain rfl := Option.some.inj hstop
      exact ⟨_, List.mem_singleton_self _, rfl⟩
  have hall : (recorded rules code).Satisfies (Reported fault) :=
    satisfies_recorded (composes_reported fault) (fun _ _ h => by cases h) (fun _ h => by cases h)
      hpassed (fun rule hrule i => reported_followed ((hrules rule hrule).emit i))
      (fun rule hrule => reported_followed (hrules rule hrule).finish) code
  have hrun := hall (start config m (labelBase code))
  rw [act_recorded] at hrun
  apply hrun
  unfold EmissionRule.applyAll at h
  cases hprocess : processAll rules code (start config m (labelBase code)) with
  | ok _ e =>
    rw [hprocess] at h
    cases h
  | error fault' e =>
    rw [hprocess] at h
    obtain rfl := Except.error.inj h
    exact fault?_of_error hprocess

/-- **Fresh labels never collide.** The calls are all that the builder of a method goes through.
Each label that they hand out is above every label that the code mentions and every label that was
handed out before. A request for one fails if and only if the next number is not that of a label,
and then it changes nothing and goes on failing. If the rules place each fresh label at most once
and no other label, and the code places each of its labels at most once, no call finds a label
placed already; so this is not why the emission fails, unless a rule makes the fault up. -/
theorem fresh_labels [Inhabited σ] (rules : List (EmissionRule σ)) (config : Config) (m : Member)
    (code : List Instruction) :
    let s : Emission σ := start config m (labelBase code)
    let calls := transcript rules config m code
    Answered s.builder calls (finalState (processAll rules code) s).builder ∧
    (∀ l ∈ handedOut calls, ∀ i ∈ code, ∀ l', i.Mentions l' → l' < l) ∧
    (handedOut calls).Pairwise (· < ·) ∧
    (∀ pre call post, calls = pre ++ call :: post → call.step = .newLabel →
      ((∃ fault, call.reply = .error fault) ↔
        UInt32.size ≤ labelBase code + (handedOut pre).length)) ∧
    (∀ (b : Builder) fault, (Step.newLabel.attempt b).1 = .error fault →
      (Step.newLabel.attempt b).2 = b ∧
      ∀ steps : List Step, let later := steps.foldl (fun b s => (s.attempt b).2) b
        Step.newLabel.attempt later = (.error fault, later)) ∧
    (PlacesFresh calls → (code.filterMap Instruction.label?).Nodup → ∀ l,
      (∀ call ∈ calls, call.reply ≠ .error (.duplicateLabel l)) ∧
      ((∀ rule ∈ rules, rule.Obeys (relaying (.duplicateLabel l))) →
        (EmissionRule.applyAll rules config m code).result ≠ .error (.duplicateLabel l))) := by
  intro s calls
  have hcalls : Answered (.ofLabelBase (labelBase code)) calls _ :=
    answered_transcript rules config m code
  refine ⟨hcalls, ?_, pairwise_handedOut hcalls, ?_, ?_, ?_⟩
  · intro l hl i hi l' hl'
    exact Nat.lt_of_lt_of_le (index_lt_labelBase hi hl') (le_of_mem_handedOut hcalls hl)
  · intro pre call post heq hs
    rw [heq] at hcalls
    exact newLabel_fails_iff hcalls hs
  · intro b fault h
    have hnow := Step.newLabel_exhausted h []
    exact ⟨congrArg Prod.snd hnow, Step.newLabel_exhausted h⟩
  · intro hfresh hcode l
    have hnone : ∀ call ∈ calls, call.reply ≠ .error (.duplicateLabel l) := fun call hcall =>
      not_duplicate_of_nodup hcalls (hfresh.nodup_places hcode) (fun _ _ => List.not_mem_nil)
        call hcall l
    refine ⟨hnone, fun hrules h => ?_⟩
    obtain ⟨call, hcall, hreply⟩ := exists_call_of_error hrules h
    exact hnone call hcall hreply

/-- Puts a label of its own at every instruction. -/
def marking : EmissionRule Unit where
  name := "Marking"
  emit _ := do
    if let some l ← Action.build .newLabel then discard (Action.build (.label l))

theorem relaying_marking (fault : Fault) : marking.Obeys (relaying fault) where
  emit _ := by
    refine Script.obeys_bind (obeys_build trivial (passesOn_relaying fault)) fun handed => ?_
    split
    · exact Script.obeys_discard (obeys_build trivial (passesOn_relaying fault))
    · exact trivial
  finish := trivial

/-- A switch and a line number mention labels that are placed later, or never. -/
def switchCode : List Instruction :=
  [.exec .iload (.slot 0), .exec .tableswitch (.switch ⟨4⟩ [0] [⟨6⟩]), .label ⟨6⟩, .line 3 ⟨9⟩,
   .label ⟨4⟩, .exec .vreturn .empty]

/-- The fresh labels begin at ten. With the last of all labels in the code there is none. -/
theorem fresh_labels_switchCode :
    let m : Member := ⟨"sandbox/Task", "run", "()V", .static, []⟩
    let rules := [CatchGuard.emission, marking]
    let calls := transcript rules {} m switchCode
    let last : List Instruction := [.label ⟨4294967295⟩]
    (handedOut calls).map Label.index = [10, 11, 12, 13, 14, 15] ∧
    PlacesFresh calls ∧ (switchCode.filterMap Instruction.label?).Nodup ∧
    (∀ l ∈ handedOut calls, ∀ i ∈ switchCode, ∀ l', i.Mentions l' → l' < l) ∧
    (∀ l, (∀ call ∈ calls, call.reply ≠ .error (.duplicateLabel l)) ∧
      (EmissionRule.applyAll rules {} m switchCode).result ≠ .error (.duplicateLabel l)) ∧
    (∃ fault, Step.newLabel.attempt (.ofLabelBase (labelBase last)) =
      (.error fault, .ofLabelBase (labelBase last))) ∧
    ∃ pre call, transcript rules {} m last = pre ++ [call] ∧ call.step = .newLabel ∧
      ∃ fault, call.reply = .error fault := by
  intro m rules calls last
  have hnumbers : (handedOut calls).map Label.index = [10, 11, 12, 13, 14, 15] := by
    decide +kernel
  have hplaces : PlacesFresh calls := ⟨by decide +kernel, by decide +kernel⟩
  have hcode : (switchCode.filterMap Instruction.label?).Nodup := by decide +kernel
  have hrelays : ∀ l, ∀ rule ∈ rules, rule.Obeys (relaying (.duplicateLabel l)) := by
    intro l rule hrule
    rcases List.mem_pair.1 hrule with rfl | rfl
    · exact CatchGuard.obeys_guard (fun _ => trivial) (passesOn_relaying _) (by simp [relaying])
    · exact relaying_marking _
  obtain ⟨-, habove, -, -, -, honce⟩ := fresh_labels rules {} m switchCode
  obtain ⟨-, -, -, hfails, hunchanged, -⟩ := fresh_labels rules {} m last
  refine ⟨hnumbers, hplaces, hcode, habove, fun l => ?_, ?_, ?_⟩
  · obtain ⟨hcalls, hresult⟩ := honce hplaces hcode l
    exact ⟨hcalls, hresult (hrelays l)⟩
  · have hnone : (Step.newLabel.attempt (.ofLabelBase (labelBase last))).1 =
        .error (.labelsExhausted 4294967295) := by decide +kernel
    obtain ⟨-, hlater⟩ := hunchanged _ _ hnone
    exact ⟨_, hlater []⟩
  · let pre : List Call := [⟨false, .instruction (.label ⟨4294967295⟩), .ok none⟩]
    let call : Call := ⟨true, .newLabel, .error (.labelsExhausted 4294967295)⟩
    have hcalls : transcript rules {} m last = pre ++ [call] := by rfl
    exact ⟨pre, call, hcalls, rfl, (hfails pre call [] hcalls rfl).2 (by decide +kernel)⟩

end Emission

end BytecodeGuard
