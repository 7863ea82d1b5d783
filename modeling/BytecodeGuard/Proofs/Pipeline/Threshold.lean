import BytecodeGuard.Proofs.Emission.Site
import BytecodeGuard.Proofs.Pipeline.Isolation

/-!
# The threshold only filters

Two runs over the same class may differ in the least severity that is kept. Rules can read the
configuration, and so the threshold; the rules of the default pipeline do not
(`Pipeline.IgnoresThreshold`).

**Theorem (`threshold_filters`).** Under a higher threshold the default pipeline has the same
fault, or the same methods of the same class, and its log is the log of the run under the lower
threshold without the messages that do not reach the higher one.

The stages offer the same messages in both runs (`transformAll_withThreshold`), since a log drops
messages without telling whoever offered them. The logs differ only in what they keep.
-/

namespace BytecodeGuard

/-! ## The threshold of a log -/

/-- The configuration with another threshold. -/
def Config.withThreshold (c : Config) (s : Severity) : Config := { c with minimumSeverity := s }

namespace Log

/-- The part of a log that reaches a threshold. -/
def raise (log : Log) (s : Severity) : Log := ⟨s, log.entries.filter (s ≤ ·.severity)⟩

theorem toList_raise (log : Log) (s : Severity) :
    (log.raise s).toList = log.toList.filter (s ≤ ·.severity) :=
  Array.toList_filter

/-- A log with a higher threshold keeps of the same messages the part that reaches it. -/
theorem raise_extend {low high : Severity} (h : low ≤ high) (ms : List Message) :
    ((ofThreshold low).extend ms).raise high = (ofThreshold high).extend ms := by
  apply eq_of_toList_eq
  · exact (threshold_extend (ofThreshold high) ms).symm
  · rw [toList_raise, toList_extend, toList_extend, List.filter_append, List.filter_filter]
    apply congrArg
    apply List.filter_congr
    intro m _
    show (decide (high ≤ m.severity) && decide (low ≤ m.severity)) = decide (high ≤ m.severity)
    by_cases hm : high ≤ m.severity
    · have hlow : low ≤ m.severity := Nat.le_trans h hm
      simp only [hm, hlow, decide_true, Bool.and_self]
    · simp only [hm, decide_false, Bool.false_and]

end Log

/-! ## Rules that do not look at it -/

/-- The site with another threshold. -/
def Site.withThreshold (site : Site) (s : Severity) : Site :=
  { site with config := site.config.withThreshold s }

/-- The rule reads neither the threshold nor the messages so far. -/
def DefinitionRule.IgnoresThreshold (rule : DefinitionRule) : Prop :=
  ∀ (a a' : Analysis) (s : Severity) (m : Member), a'.config = a.config.withThreshold s →
    rule.define a' m = rule.define a m

/-- The rule does not read the threshold. -/
def ValidationRule.IgnoresThreshold (rule : ValidationRule) : Prop :=
  ∀ (site : Site) (s : Severity) (i : Instruction),
    rule.validate (site.withThreshold s) i = rule.validate site i

/-- The rule does the same under another threshold, as long as it runs. -/
structure EmissionRule.IgnoresThreshold {σ : Type} (rule : EmissionRule σ) : Prop where
  emit : ∀ (s : Severity) (i : Instruction),
    Commutes (Emission.resite (·.withThreshold s)) (Emission.act (rule.emit i))
  finish : ∀ s : Severity,
    Commutes (Emission.resite (·.withThreshold s)) (Emission.act rule.finish)

theorem DefinitionRule.applyAll_withThreshold {rules : List DefinitionRule} {a a' : Analysis}
    {s : Severity} (hr : ∀ rule ∈ rules, rule.IgnoresThreshold)
    (h : a'.config = a.config.withThreshold s) (m : Member) :
    applyAll rules a' m = applyAll rules a m := by
  unfold applyAll
  generalize (⟨m, {}⟩ : Definition) = d
  induction rules generalizing d with
  | nil => rfl
  | cons rule rules ih =>
    have hd : rule.define (a'.note d.notes) d.member = rule.define (a.note d.notes) d.member :=
      hr rule List.mem_cons_self (a.note d.notes) (a'.note d.notes) s d.member h
    rw [List.foldl_cons, List.foldl_cons, hd]
    exact ih (fun rule hrule => hr rule (List.mem_cons_of_mem _ hrule)) _

theorem ValidationRule.applyAll_withThreshold {rules : List ValidationRule}
    (hr : ∀ rule ∈ rules, rule.IgnoresThreshold) (config : Config) (s : Severity) (m : Member)
    (code : List Instruction) :
    applyAll rules (config.withThreshold s) m code = applyAll rules config m code := by
  unfold applyAll
  apply List.flatMap_congr
  intro p _
  apply List.flatMap_congr
  intro rule hrule
  let site : Site := { config, member := m, index := some p.2, rule := rule.name }
  have hfound : rule.validate (site.withThreshold s) p.1 = rule.validate site p.1 :=
    hr rule hrule site s p.1
  show (rule.validate (site.withThreshold s) p.1).filterMap site.message? = _
  rw [hfound]
  rfl

namespace Emission

variable {σ α : Type} {s : Severity} {e : Emission σ}

theorem commutes_enter (s : Severity) (index : Option Nat) (rule : String) :
    Commutes (resite (·.withThreshold s)) (enter index rule : Emit σ Unit) :=
  fun _ => rfl

theorem alikeVisits_withThreshold {rules : List (EmissionRule σ)} {index : Option Nat}
    {script : EmissionRule σ → Action σ Unit}
    (h : ∀ rule ∈ rules, Commutes (resite (·.withThreshold s)) (act (script rule))) :
    AlikeVisits (·.withThreshold s) index script rules rules := by
  apply Alike.forM
  intro rule hrule
  have hvisit : Commutes (resite (·.withThreshold s)) (visit index script rule) :=
    (commutes_enter s index rule.name).bind fun _ => h rule hrule
  exact hvisit.alike

/-! ## Requests under another threshold -/

/-- The view with another threshold. -/
def View.withThreshold (v : View σ) (s : Severity) : View σ :=
  { v with site := v.site.withThreshold s }

theorem report_withThreshold (e : Emission σ) (s : Severity) (f : Finding) :
    (resite (·.withThreshold s) e).report f = resite (·.withThreshold s) (e.report f) := by
  have hmessage : (resite (·.withThreshold s) e).site.message? f = e.site.message? f := rfl
  unfold report
  rw [hmessage]
  cases e.site.message? f <;> rfl

/-- The threshold is seen by looking, and in no other way. -/
theorem answer_withThreshold {r : Request σ} (hr : r ≠ .look) (e : Emission σ) :
    answer r (resite (·.withThreshold s) e) =
      ((answer r e).1, resite (·.withThreshold s) (answer r e).2) := by
  cases r with
  | look => exact absurd rfl hr
  | trace text settings => exact congrArg (Prod.mk ()) (report_withThreshold e s _)
  | _ => rfl

theorem commutes_ask {r : Request σ} {next : r.Reply → Action σ α} (hr : r ≠ .look)
    (hnext : ∀ reply, Commutes (resite (·.withThreshold s)) (act (next reply))) :
    Commutes (resite (·.withThreshold s)) (act (.ask r next)) := by
  intro e
  show (next (answer r (resite (·.withThreshold s) e)).1).run answer
    (answer r (resite (·.withThreshold s) e)).2 = _
  rw [answer_withThreshold hr]
  exact hnext _ _

theorem commutes_done (s : Severity) (a : α) :
    Commutes (resite (·.withThreshold s)) (act (.done a : Action σ α)) :=
  fun _ => rfl

theorem commutes_request {r : Request σ} (hr : r ≠ .look) :
    Commutes (resite (·.withThreshold s)) (act (Action.request r)) :=
  commutes_ask hr fun reply => commutes_done s reply

theorem commutes_look {next : View σ → Action σ α}
    (hv : ∀ v, next (v.withThreshold s) = next v)
    (hnext : ∀ v, Commutes (resite (·.withThreshold s)) (act (next v))) :
    Commutes (resite (·.withThreshold s)) (act (Action.look >>= next)) := by
  intro e
  let view : View σ := ⟨e.site, e.builder, e.scratch⟩
  show act (next (view.withThreshold s)) (resite (·.withThreshold s) e) = _
  rw [hv view]
  exact hnext view e

theorem commutes_step (s : Severity) (step : Step) :
    Commutes (resite (·.withThreshold s)) (act (discard (Action.build step)) : Emit σ Unit) := by
  refine commutes_ask (by simp) fun reply => ?_
  cases reply with
  | ok result => exact commutes_done s ()
  | error fault => exact fun _ => rfl

theorem commutes_act_bind {x : Action σ α} {β : Type} {next : α → Action σ β}
    (hx : Commutes (resite (·.withThreshold s)) (act x))
    (hnext : ∀ a, Commutes (resite (·.withThreshold s)) (act (next a))) :
    Commutes (resite (·.withThreshold s)) (act (x >>= next)) := by
  rw [act_bind]
  exact hx.bind hnext

theorem commutes_invokeCheck (s : Severity) (name descriptor : String) :
    Commutes (resite (·.withThreshold s))
      (act (Action.invokeCheck name descriptor) : Emit σ Unit) :=
  commutes_look (fun _ => rfl) fun v =>
    commutes_step s (.invokeStatic v.site.config.checkOwner name descriptor)

end Emission

/-! ## The default pipeline -/

theorem NativeStub.ignoresThreshold_definition : definition.IgnoresThreshold := by
  intro a a' s m h
  simp only [definition, h]
  rfl

namespace CatchGuard

open Emission

variable {σ : Type}

theorem ignoresThreshold_validation : validation.IgnoresThreshold := fun _ _ _ => rfl

theorem commutes_insertCheck (s : Severity) (l : Label) :
    Commutes (resite (·.withThreshold s)) (act (insertCheck l) : Emit σ Unit) := by
  apply commutes_look (fun _ => rfl)
  intro view
  apply commutes_act_bind (commutes_request (by simp))
  intro _
  apply commutes_act_bind (commutes_step s .dup)
  intro _
  apply commutes_act_bind (commutes_invokeCheck s checkName checkDescriptor)
  intro _
  exact commutes_request (by simp)

theorem commutes_emit (s : Severity) (i : Instruction) :
    Commutes (resite (·.withThreshold s)) (act ((emission : EmissionRule σ).emit i)) := by
  cases hg : guardedHandler? i with
  | some declared =>
    simp only [emission, hg]
    exact commutes_ask (by simp) fun _ => commutes_done s ()
  | none =>
    cases hl : i.label? with
    | none =>
      simp only [emission, hg, hl]
      exact commutes_done s ()
    | some l =>
      simp only [emission, hg, hl]
      apply commutes_act_bind (commutes_request (by simp))
      intro resolved
      cases resolved with
      | true => exact commutes_insertCheck s l
      | false => exact commutes_done s ()

theorem commutes_finish (s : Severity) :
    Commutes (resite (·.withThreshold s)) (act (emission : EmissionRule σ).finish) := by
  apply commutes_act_bind (commutes_request (by simp))
  intro pending
  cases pending with
  | none => exact commutes_done s ()
  | some l => exact commutes_look (fun _ => rfl) fun _ _ => rfl

theorem ignoresThreshold_emission : (emission : EmissionRule σ).IgnoresThreshold :=
  ⟨commutes_emit, commutes_finish⟩

end CatchGuard

namespace Pipeline

variable {σ : Type} [Inhabited σ] {p : Pipeline σ} {a a' : Analysis} {s : Severity}

/-- No rule of the pipeline reads the threshold or the messages so far. -/
structure IgnoresThreshold (p : Pipeline σ) : Prop where
  definitions : ∀ rule ∈ p.definitions, rule.IgnoresThreshold
  validators : ∀ rule ∈ p.validators, rule.IgnoresThreshold
  emitters : ∀ rule ∈ p.emitters, rule.IgnoresThreshold

omit [Inhabited σ] in
theorem ignoresThreshold_ofConfig (config : Config) :
    (ofConfig config : Pipeline σ).IgnoresThreshold where
  definitions rule hrule := by
    rw [List.mem_singleton.1 hrule]
    exact NativeStub.ignoresThreshold_definition
  validators rule hrule := by
    rw [List.mem_singleton.1 hrule]
    exact CatchGuard.ignoresThreshold_validation
  emitters rule hrule := by
    rw [List.mem_singleton.1 hrule]
    exact CatchGuard.ignoresThreshold_emission

/-! ## Two runs -/

/-- The pipeline with another threshold. -/
def withThreshold (p : Pipeline σ) (s : Severity) : Pipeline σ :=
  { p with config := p.config.withThreshold s }

/-- The emission of a method does not depend on the threshold. -/
theorem emission_withThreshold (hp : p.IgnoresThreshold) (config : Config) (s : Severity)
    (m : Member) (code : List Instruction) :
    EmissionRule.applyAll p.emitters (config.withThreshold s) m code =
      EmissionRule.applyAll p.emitters config m code := by
  have hsite : (Site.mk (config.withThreshold s) m none "").withThreshold s =
      (Site.mk config m none "").withThreshold s := rfl
  have hemit : ∀ i k, Emission.AlikeVisits (·.withThreshold s) (some k) (·.emit i) p.emitters
      p.emitters := by
    intro i k
    exact Emission.alikeVisits_withThreshold fun rule hrule => (hp.emitters rule hrule).emit s i
  have hfinish : Emission.AlikeVisits (·.withThreshold s) none (·.finish) p.emitters p.emitters :=
    Emission.alikeVisits_withThreshold fun rule hrule => (hp.emitters rule hrule).finish s
  exact Emission.applyAll_eq_of_alike hsite hemit hfinish code

/-- **One method.** Each stage has the same result and offers the same messages. -/
theorem transformMethod_withThreshold (hp : p.IgnoresThreshold)
    (h : a'.config = a.config.withThreshold s) (source : MethodSource) :
    (p.withThreshold s).transformMethod a' source = p.transformMethod a source := by
  unfold transformMethod withThreshold
  dsimp only
  rw [DefinitionRule.applyAll_withThreshold hp.definitions h, h]
  simp only [ValidationRule.applyAll_withThreshold hp.validators, emission_withThreshold hp]

/-- **All methods.** -/
theorem transformAll_withThreshold (hp : p.IgnoresThreshold)
    (h : a'.config = a.config.withThreshold s) (methods : List MethodSource) :
    (p.withThreshold s).transformAll a' methods = p.transformAll a methods := by
  induction methods generalizing a a' with
  | nil => rfl
  | cons source methods ih =>
    rw [transformAll, transformAll, transformMethod_withThreshold hp h]
    have hothers := ih (show (a'.note (p.transformMethod a source).notes).config =
      (a.note (p.transformMethod a source).notes).config.withThreshold s from h)
    rw [hothers]

end Pipeline

/-- The class with the part of its log that reaches a threshold. -/
def TransformedClass.raise (t : TransformedClass) (s : Severity) : TransformedClass :=
  { t with log := t.log.raise s }

namespace Pipeline

variable {σ : Type} [Inhabited σ] {p : Pipeline σ} {s : Severity}

/-- **A class.** Only the log is different. -/
theorem result_transformClass_withThreshold (hp : p.IgnoresThreshold)
    (h : p.config.minimumSeverity ≤ s) (source : ClassSource) :
    ((p.withThreshold s).transformClass source).result =
      (p.transformClass source).result.map (·.raise s) := by
  let outcome := p.transformAll p.analysis source.methods
  have hall : (p.withThreshold s).transformAll (p.withThreshold s).analysis source.methods =
      outcome :=
    transformAll_withThreshold hp (show (p.withThreshold s).analysis.config =
      p.analysis.config.withThreshold s from rfl) source.methods
  unfold transformClass
  rw [hall]
  cases hresult : outcome.result with
  | error fault =>
    rw [Outcome.andThen_of_error hresult, Outcome.andThen_of_error hresult]
    rfl
  | ok methods =>
    rw [Outcome.andThen_of_ok hresult, Outcome.andThen_of_ok hresult]
    have hlog : (p.analysis.note outcome.notes).log.raise s =
        ((p.withThreshold s).analysis.note outcome.notes).log :=
      Log.raise_extend h outcome.notes.messages
    exact congrArg (fun log => Except.ok (TransformedClass.mk source.name methods log)) hlog.symm

/-- **The threshold only filters.** Under a higher threshold the default pipeline has the same
fault, or the same class with the same methods, and the log without the messages that do not reach
this threshold. -/
theorem threshold_filters (config : Config) {low high : Severity} (h : low ≤ high)
    (source : ClassSource) :
    let result (s : Severity) :=
      ((ofConfig (config.withThreshold s) : Pipeline σ).transformClass source).result
    (∀ fault, result high = .error fault ↔ result low = .error fault) ∧
    ∀ t, result low = .ok t → ∃ t', result high = .ok t' ∧ t'.name = t.name ∧
      t'.methods = t.methods ∧ t'.log.toList = t.log.toList.filter (high ≤ ·.severity) := by
  intro result
  have hraise : result high = (result low).map (·.raise high) :=
    result_transformClass_withThreshold (ignoresThreshold_ofConfig (config.withThreshold low)) h
      source
  constructor
  · intro fault
    rw [hraise]
    cases result low with
    | error fault' => rfl
    | ok t => simp [Except.map]
  · intro t ht
    refine ⟨t.raise high, ?_, rfl, rfl, Log.toList_raise t.log high⟩
    rw [hraise, ht]
    rfl

/-- Two warnings about the guarded handler stay, and the trace message about its check goes. -/
theorem threshold_filters_guardedMethod :
    let pipeline (s : Severity) : Pipeline Unit := ofConfig (Config.withThreshold {} s)
    let result (s : Severity) :=
      ((pipeline s).transformClass ⟨"sandbox/Task", [guardedMethod]⟩).result
    Severity.trace ≤ Severity.warning ∧
    ∃ t t', result .trace = .ok t ∧ result .warning = .ok t' ∧ t'.methods = t.methods ∧
      t'.log.toList = t.log.toList.filter (.warning ≤ ·.severity) ∧
      t.log.toList.map (·.severity) = [.warning, .warning, .trace] ∧
      t'.log.toList.map (·.severity) = [.warning, .warning] := by
  intro pipeline result
  have hle : Severity.trace ≤ Severity.warning := by decide
  have hlow : (result .trace).map (·.log.toList.map (·.severity)) =
      .ok [.warning, .warning, .trace] := by decide +kernel
  have hhigh : (result .warning).map (·.log.toList.map (·.severity)) =
      .ok [.warning, .warning] := by decide +kernel
  obtain ⟨t, ht⟩ := exists_of_isOk (show (result .trace).isOk = true by decide +kernel)
  obtain ⟨-, hok⟩ := threshold_filters (σ := Unit) {} hle ⟨"sandbox/Task", [guardedMethod]⟩
  obtain ⟨t', ht', -, hmethods, hlog⟩ := hok t ht
  rw [ht] at hlow
  have ht' : result .warning = .ok t' := ht'
  rw [ht'] at hhigh
  exact ⟨hle, t, t', ht, ht', hmethods, hlog, Except.ok.inj hlow, Except.ok.inj hhigh⟩

end Pipeline

end BytecodeGuard
