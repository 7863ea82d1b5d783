import BytecodeGuard.Proofs.Guard.Findings
import BytecodeGuard.Proofs.Message.Draft
import Mathlib.Data.List.Basic

/-!
# Who said what, and in which order

A validation rule need not say where it is or who it is: it has findings, and the messages are
attributed for it. When a method is inspected, each rule visits each instruction.

**Theorem (`validation_attributed`).** Inspecting a method adds to the log, behind what is there,
the findings of every visit that hold and are severe enough. The visits are in the order of the
instructions, and for one instruction in that of the rules; each instruction is visited by each
rule once. A message has the class, name and signature of the method and the index of the
instruction that was visited, unless the rule sets another location. It has the name of the rule
that visited it, or no rule if the name is empty, unless the rule sets another name. A rule that
does so can pass for another: see `impostor_misattributed`.

An inspection can do with one site for all visits, which is moved before each of them
(`Inspection`), and with findings that go to the log at once. What a visit leaves behind are its
messages and the place of the site (`visit_eq`). The next visit replaces the place before it looks
at it, so a run of visits adds the messages of the visits, wherever the site was in the beginning
(`log_run`).
-/

namespace BytecodeGuard

/-- Numbers grow along a numbered list. -/
theorem pairwise_lt_zipIdx {α : Type} (l : List α) : l.zipIdx.Pairwise fun p q => p.2 < q.2 := by
  rw [← List.pairwise_map (f := Prod.snd), List.zipIdx_map_snd]
  exact List.pairwise_lt_range'

/-! ## Visits -/

namespace Finding

/-- The rule leaves the location of the message alone. -/
def KeepsLocation (f : Finding) : Prop := ∀ setting ∈ f.settings, setting.location? = none

/-- The rule leaves the name of the rule alone. -/
def KeepsRule (f : Finding) : Prop := ∀ setting ∈ f.settings, setting.rule? = none

end Finding

/-- A rule looks at an instruction. -/
structure Visit where
  /-- The index of the instruction. -/
  index : Nat
  instruction : Instruction
  /-- The place of the rule among all rules. -/
  position : Nat
  rule : ValidationRule

namespace Visit

/-- Instructions are visited in order, and each of them by the rules in order. -/
def Before (v w : Visit) : Prop :=
  v.index < w.index ∨ v.index = w.index ∧ v.position < w.position

/-- Where the rule is at work. -/
def site (config : Config) (m : Member) (v : Visit) : Site where
  config
  member := m
  index := some v.index
  rule := v.rule.name

/-- What the rule has to say. -/
def findings (config : Config) (m : Member) (v : Visit) : List Finding :=
  v.rule.validate (v.site config m) v.instruction

/-- The place of the visit. -/
def location (m : Member) (v : Visit) : Location :=
  ⟨m.className, m.name, m.signature, some v.index⟩

/-- The name of the rule, if it has one. -/
def ruleName? (v : Visit) : Option String := if v.rule.name = "" then none else some v.rule.name

/-- A finding with the method, the instruction and the rule that it is attributed to. Of each kind
of setting, the last one replaces what the message would have without it. -/
def message (m : Member) (v : Visit) (f : Finding) : Message where
  severity := f.severity
  location := (f.settings.filterMap (·.location?)).getLast?.or (some (v.location m))
  text := ((f.settings.filterMap (·.text?)).getLast?.or f.text).getD f.severity.singular
  rule := (f.settings.filterMap (·.rule?)).getLast?.or v.ruleName?

/-- The findings that hold and that a run keeps. -/
def kept (a : Analysis) (m : Member) (v : Visit) : List Finding :=
  (v.findings a.config m).filter fun f =>
    decide (a.log.threshold ≤ f.severity) && Draft.admitted f.settings

variable {config : Config} {m : Member}

theorem location_message {v : Visit} {f : Finding} (h : f.KeepsLocation) :
    (v.message m f).location = some (v.location m) := by
  have hnone : f.settings.filterMap (·.location?) = [] := List.filterMap_eq_nil_iff.2 h
  simp [message, hnone]

theorem rule_message {v : Visit} {f : Finding} (h : f.KeepsRule) :
    (v.message m f).rule = v.ruleName? := by
  have hnone : f.settings.filterMap (·.rule?) = [] := List.filterMap_eq_nil_iff.2 h
  simp [message, hnone]

theorem rule_draft (v : Visit) (severity : Severity) :
    ((v.site config m).draft severity).rule = v.ruleName? := by
  have hrule : (v.rule.name.isEmpty = true) ↔ v.rule.name = "" := String.isEmpty_iff
  simp [Site.draft, site, ruleName?, hrule]

/-- A finding becomes a message of the visit if its conditions hold. -/
theorem message?_site (v : Visit) (f : Finding) :
    (v.site config m).message? f =
      if Draft.admitted f.settings then some (v.message m f) else none := by
  unfold Site.message? Site.draftOf
  rw [Draft.message?_setAll rfl]
  simp only [rule_draft]
  rfl

theorem messagesAt_eq (v : Visit) :
    v.rule.messagesAt config m v.index v.instruction =
      ((v.findings config m).filter (Draft.admitted ·.settings)).map (v.message m) := by
  show (v.findings config m).filterMap (v.site config m).message? = _
  rw [← List.filterMap_eq_map, List.filterMap_filter]
  exact List.filterMap_congr fun f _ => message?_site v f

theorem filter_messagesAt (a : Analysis) (v : Visit) :
    (v.rule.messagesAt a.config m v.index v.instruction).filter (a.log.threshold ≤ ·.severity) =
      (v.kept a m).map (v.message m) := by
  rw [messagesAt_eq, List.filter_map, List.filter_filter]
  rfl

end Visit

/-- The visits to the code of a method. -/
def visits (rules : List ValidationRule) (code : List Instruction) : List Visit :=
  code.zipIdx.flatMap fun (i, index) =>
    rules.zipIdx.map fun (rule, position) => ⟨index, i, position, rule⟩

theorem mem_visits {rules : List ValidationRule} {code : List Instruction} {v : Visit} :
    v ∈ visits rules code ↔
      code[v.index]? = some v.instruction ∧ rules[v.position]? = some v.rule := by
  simp only [visits, List.mem_flatMap, List.mem_map, Prod.exists, List.mk_mem_zipIdx_iff_getElem?]
  constructor
  · rintro ⟨i, k, hi, rule, j, hrule, rfl⟩
    exact ⟨hi, hrule⟩
  · intro h
    exact ⟨_, _, h.1, _, _, h.2, rfl⟩

theorem pairwise_visits (rules : List ValidationRule) (code : List Instruction) :
    (visits rules code).Pairwise Visit.Before := by
  refine List.pairwise_flatMap.2 ⟨fun p _ => ?_, ?_⟩
  · -- one instruction: the rules in order
    refine List.pairwise_map.2 ((pairwise_lt_zipIdx rules).imp fun h => ?_)
    exact .inr ⟨rfl, h⟩
  · -- two instructions
    refine (pairwise_lt_zipIdx code).imp fun h v hv w hw => ?_
    obtain ⟨_, -, rfl⟩ := List.mem_map.1 hv
    obtain ⟨_, -, rfl⟩ := List.mem_map.1 hw
    exact .inl h

theorem applyAll_eq_flatMap (rules : List ValidationRule) (config : Config) (m : Member)
    (code : List Instruction) :
    ValidationRule.applyAll rules config m code =
      (visits rules code).flatMap fun v => v.rule.messagesAt config m v.index v.instruction := by
  unfold ValidationRule.applyAll visits
  rw [List.flatMap_assoc]
  refine List.flatMap_congr fun p _ => ?_
  obtain ⟨i, k⟩ := p
  show rules.flatMap (ValidationRule.messagesAt config m k i) = _
  rw [List.flatMap_map]
  conv_lhs => rw [← List.zipIdx_map_fst 0 rules, List.flatMap_map]

/-! ## One site for all visits -/

/-- An inspection that is under way: where it is, and what it has recorded. -/
structure Inspection where
  site : Site
  log : Log

namespace Inspection

/-- The inspection moves to an instruction and a rule. -/
def enter (s : Inspection) (index : Nat) (rule : String) : Inspection :=
  { s with site := { s.site with index := some index, rule } }

/-- A finding is recorded for where the inspection is. -/
def record (s : Inspection) (f : Finding) : Inspection :=
  { s with log := s.log.record (s.site.draftOf f) }

/-- A rule looks at an instruction. -/
def visit (s : Inspection) (i : Instruction) (index : Nat) (rule : ValidationRule) : Inspection :=
  let entered := s.enter index rule.name
  (rule.validate entered.site i).foldl record entered

/-- Every rule looks at every instruction. -/
def run (s : Inspection) (rules : List ValidationRule) (code : List Instruction) : Inspection :=
  code.zipIdx.foldl (fun s (i, index) => rules.foldl (fun s rule => s.visit i index rule) s) s

theorem log_record (s : Inspection) (f : Finding) :
    (s.record f).log = s.log.extend (s.site.message? f).toList := by
  show s.log.record (s.site.draftOf f) = _
  unfold Log.record Site.message?
  cases (s.site.draftOf f).message? <;> rfl

theorem foldl_record (s : Inspection) (fs : List Finding) :
    fs.foldl record s = { s with log := s.log.extend (fs.filterMap s.site.message?) } := by
  induction fs generalizing s with
  | nil => rfl
  | cons f fs ih =>
    rw [List.foldl_cons, ih, List.filterMap_cons, log_record]
    show Inspection.mk s.site ((s.log.extend _).extend (fs.filterMap s.site.message?)) = _
    cases s.site.message? f <;> rfl

/-- A visit moves the site and adds messages as if the site were a new one. -/
theorem visit_eq (s : Inspection) (v : Visit) :
    s.visit v.instruction v.index v.rule =
      ⟨v.site s.site.config s.site.member,
       s.log.extend (v.rule.messagesAt s.site.config s.site.member v.index v.instruction)⟩ :=
  foldl_record _ _

/-- The visits of a run, one after the other. -/
theorem run_eq_foldl (s : Inspection) (rules : List ValidationRule) (code : List Instruction) :
    s.run rules code =
      (visits rules code).foldl (fun s v => s.visit v.instruction v.index v.rule) s := by
  unfold run visits
  rw [List.foldl_flatMap]
  simp only [List.foldl_map]
  congr 1
  funext s p
  conv_lhs => rw [← List.zipIdx_map_fst 0 rules, List.foldl_map]

theorem log_foldl_visit (s : Inspection) (vs : List Visit) :
    (vs.foldl (fun s v => s.visit v.instruction v.index v.rule) s).log =
      s.log.extend (vs.flatMap fun v =>
        v.rule.messagesAt s.site.config s.site.member v.index v.instruction) := by
  induction vs generalizing s with
  | nil => rfl
  | cons v vs ih =>
    rw [List.foldl_cons, ih, visit_eq, List.flatMap_cons]
    exact List.foldl_append.symm

/-- A run records the messages of all rules, wherever the site was before. -/
theorem log_run (s : Inspection) (rules : List ValidationRule) (code : List Instruction) :
    (s.run rules code).log =
      s.log.extend (ValidationRule.applyAll rules s.site.config s.site.member code) := by
  rw [run_eq_foldl, log_foldl_visit, ← applyAll_eq_flatMap]

end Inspection

namespace ValidationRule

/-- **Order and attribution.** What an inspection adds to the log are the messages of the visits,
visit by visit, whether each visit has a site of its own or all share one. A message has the place
of its visit unless the rule sets a location, and the name of its rule unless the rule sets one. -/
theorem validation_attributed (rules : List ValidationRule) (a : Analysis) (m : Member)
    (code : List Instruction) :
    let log := (a.note { messages := applyAll rules a.config m code }).log
    log.toList = a.log.toList ++
        (visits rules code).flatMap (fun v => (v.kept a m).map (v.message m)) ∧
      (visits rules code).Pairwise Visit.Before ∧
      (∀ v, v ∈ visits rules code ↔
        code[v.index]? = some v.instruction ∧ rules[v.position]? = some v.rule) ∧
      (∀ v ∈ visits rules code, ∀ f ∈ v.kept a m,
        (f.KeepsLocation → (v.message m f).location =
          some ⟨m.className, m.name, m.signature, some v.index⟩) ∧
        (f.KeepsRule → (v.message m f).rule =
          if v.rule.name = "" then none else some v.rule.name)) ∧
      ∀ index rule,
        ((Inspection.mk ⟨a.config, m, index, rule⟩ a.log).run rules code).log = log := by
  intro log
  refine ⟨?_, pairwise_visits rules code, fun _ => mem_visits, fun v _ f _ => ?_,
    fun _ _ => Inspection.log_run _ _ _⟩
  · show (a.log.extend (applyAll rules a.config m code)).toList = _
    rw [Log.toList_extend, applyAll_eq_flatMap, List.filter_flatMap]
    simp only [Visit.filter_messagesAt]
  · exact ⟨Visit.location_message, Visit.rule_message⟩

/-- A rule without a name that complains about throwing. -/
def nameless : ValidationRule where
  name := ""
  validate _ i :=
    match i with
    | .exec .athrow _ =>
      [⟨.error, none, []⟩, ⟨.error, some "withheld", false⟩, ⟨.trace, some "dropped", true⟩]
    | _ => []

/-- Two warnings of the catch guard and one error of the nameless rule, with a site that was left
at another instruction by another rule. -/
theorem validation_attributed_sharedHandler :
    let rules := [nameless, CatchGuard.validation]
    let a : Analysis := ⟨{}, .ofThreshold .warning⟩
    let site : Site := ⟨{}, CatchGuard.task, some 5, "AnotherRule"⟩
    let v : Visit := ⟨8, .exec .athrow .empty, 0, nameless⟩
    let f : Finding := { severity := .error }
    ((Inspection.mk site a.log).run rules CatchGuard.sharedHandler).log.toList =
        [CatchGuard.warning {} CatchGuard.task ⟨0, "java/lang/Throwable", ⟨2⟩⟩,
         CatchGuard.warning {} CatchGuard.task ⟨2, "java/lang/Error", ⟨2⟩⟩,
         ⟨.error, some ⟨"sandbox/Task", "run", "()V", some 8⟩, "error", none⟩] ∧
      (v ∈ visits rules CatchGuard.sharedHandler ∧ f ∈ v.kept a CatchGuard.task ∧
        f.KeepsLocation ∧ f.KeepsRule) ∧
      (v.message CatchGuard.task f).location = some ⟨"sandbox/Task", "run", "()V", some 8⟩ ∧
      (v.message CatchGuard.task f).rule = none := by
  intro rules a site v f
  obtain ⟨htoList, -, hvisits, hattributed, hshared⟩ :=
    validation_attributed rules a CatchGuard.task CatchGuard.sharedHandler
  have hv : v ∈ visits rules CatchGuard.sharedHandler := (hvisits v).2 ⟨rfl, rfl⟩
  have hf : f ∈ v.kept a CatchGuard.task := List.mem_cons_self
  have hlocation : f.KeepsLocation := List.forall_mem_nil _
  have hrule : f.KeepsRule := List.forall_mem_nil _
  obtain ⟨hplace, hname⟩ := hattributed v hv f hf
  refine ⟨?_, ⟨hv, hf, hlocation, hrule⟩, hplace hlocation, hname hrule⟩
  rw [hshared, htoList]
  decide +kernel

/-! ## Rules that attribute their findings themselves -/

/-- A rule that passes for the catch guard, and another method for the one it looks at. -/
def impostor : ValidationRule where
  name := "Impostor"
  validate _ _ :=
    [{ severity := .warning
       text := some "x"
       settings := [.location ⟨"sandbox/Other", "run", "()V", none⟩, .rule CatchGuard.name] }]

/-- The only message has neither the place of its visit nor the name of its rule. -/
theorem impostor_misattributed :
    let log := (Analysis.note ⟨{}, .ofThreshold .warning⟩
      { messages := applyAll [impostor] {} CatchGuard.task [.exec .athrow .empty] }).log
    visits [impostor] [.exec .athrow .empty] = [⟨0, .exec .athrow .empty, 0, impostor⟩] ∧
      ∃ message, log.toList = [message] ∧
        message.location ≠ some ⟨"sandbox/Task", "run", "()V", some 0⟩ ∧
        message.rule ≠ some impostor.name := by
  intro log
  exact ⟨rfl, _, rfl, by decide, by decide⟩

end ValidationRule

end BytecodeGuard
