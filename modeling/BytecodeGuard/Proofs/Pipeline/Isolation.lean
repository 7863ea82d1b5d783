import BytecodeGuard.Pipeline.Class
import BytecodeGuard.Proofs.Guard.Exact
import BytecodeGuard.Proofs.Pipeline.Method

/-!
# The methods of a class do not affect each other

All methods of a class share a log. Definition rules could read it; validation and emission rules
cannot. If the definition rules do not (`DefinitionRule.IgnoresLog`), a method is transformed as
if it were alone.

**Theorem (`transformClass_isolated`).** If every method alone has a result, the class has these
results in order, and its messages are those about each method, in order. If not, the class has
the fault of the first method that has one. So another order of the methods gives the same
results and the same messages in another order, whichever labels the methods have in common.

Nothing but the configuration is passed on from one method to the next (`transformMethod_congr`),
and what a log keeps of some messages does not depend on what it held before.
-/

namespace BytecodeGuard

namespace Outcome

variable {α β : Type} {x : Outcome α} {f : α → Outcome β} {a : α} {fault : Fault}

theorem andThen_of_ok (h : x.result = .ok a) :
    x.andThen f = ⟨(f a).result, x.notes ++ (f a).notes⟩ := by
  unfold andThen
  rw [h]

theorem andThen_of_error (h : x.result = .error fault) :
    x.andThen f = ⟨.error fault, x.notes⟩ := by
  unfold andThen
  rw [h]

end Outcome

namespace DefinitionRule

variable {rules : List DefinitionRule} {a a' : Analysis} {m : Member}

/-- The rule depends on the configuration of a run, but not on the messages so far. -/
def IgnoresLog (rule : DefinitionRule) : Prop :=
  ∀ a a' m, a.config = a'.config → rule.define a m = rule.define a' m

theorem ignoresLog_nativeStub : NativeStub.definition.IgnoresLog := by
  intro a a' m h
  simp only [NativeStub.definition, h]

theorem applyAll_congr (hr : ∀ rule ∈ rules, rule.IgnoresLog) (h : a.config = a'.config)
    (m : Member) : applyAll rules a m = applyAll rules a' m := by
  unfold applyAll
  generalize (⟨m, {}⟩ : Definition) = d
  induction rules generalizing d with
  | nil => rfl
  | cons rule rules ih =>
    have hd : rule.define (a.note d.notes) d.member = rule.define (a'.note d.notes) d.member :=
      hr rule List.mem_cons_self _ _ _ h
    rw [List.foldl_cons, List.foldl_cons, hd]
    exact ih (fun rule hrule => hr rule (List.mem_cons_of_mem _ hrule)) _

end DefinitionRule

namespace Pipeline

variable {σ : Type} [Inhabited σ] {p : Pipeline σ} {a a' : Analysis} {source : MethodSource}
  {methods methods' : List MethodSource} {ts : List TransformedMethod} {fault : Fault}

/-! ## One method -/

/-- A method is transformed with a log of its own. -/
def alone (p : Pipeline σ) (source : MethodSource) : Outcome TransformedMethod :=
  p.transformMethod p.analysis source

/-- The messages in the log of a method that is transformed alone. -/
def messagesAbout (p : Pipeline σ) (source : MethodSource) : List Message :=
  (p.analysis.note (p.alone source).notes).log.toList

/-- The definition rules of the pipeline do not read the log. -/
def IgnoresLog (p : Pipeline σ) : Prop := ∀ rule ∈ p.definitions, rule.IgnoresLog

/-- The messages about earlier methods do not matter. -/
theorem transformMethod_congr (hp : p.IgnoresLog) (h : a.config = a'.config) :
    p.transformMethod a source = p.transformMethod a' source := by
  unfold transformMethod
  rw [DefinitionRule.applyAll_congr hp h, h]

theorem transformMethod_eq_alone (hp : p.IgnoresLog) (h : a.config = p.config) :
    p.transformMethod a source = p.alone source :=
  transformMethod_congr hp h

/-! ## All methods -/

/-- Each method alone has the result at its place. -/
def Results (p : Pipeline σ) : List MethodSource → List TransformedMethod → Prop :=
  List.Forall₂ fun source t => (p.alone source).result = .ok t

/-- The method is the first that has a fault alone. -/
def FirstFault (p : Pipeline σ) (methods : List MethodSource) (fault : Fault) : Prop :=
  ∃ pre source post ts, methods = pre ++ source :: post ∧ p.Results pre ts ∧
    (p.alone source).result = .error fault

/-- Either every method has a result or there is a first fault. -/
theorem results_or_firstFault (p : Pipeline σ) (methods : List MethodSource) :
    (∃ ts, p.Results methods ts) ∨ ∃ fault, p.FirstFault methods fault := by
  induction methods with
  | nil => exact .inl ⟨[], .nil⟩
  | cons source methods ih =>
    cases h : (p.alone source).result with
    | error fault => exact .inr ⟨fault, [], source, methods, [], rfl, .nil, h⟩
    | ok t =>
      rcases ih with ⟨ts, hts⟩ | ⟨fault, pre, failing, post, ts, rfl, hts, hf⟩
      · exact .inl ⟨t :: ts, .cons h hts⟩
      · exact .inr ⟨fault, source :: pre, failing, post, t :: ts, rfl, .cons h hts, hf⟩

theorem transformAll_of_results (hp : p.IgnoresLog) (ha : a.config = p.config)
    (h : p.Results methods ts) :
    (p.transformAll a methods).result = .ok ts ∧
      (p.transformAll a methods).notes.messages =
        methods.flatMap fun source => (p.alone source).notes.messages := by
  induction h generalizing a with
  | nil => exact ⟨rfl, rfl⟩
  | @cons source t methods ts ht _ ih =>
    rw [transformAll, transformMethod_eq_alone hp ha, Outcome.andThen_of_ok ht]
    obtain ⟨hresult, hmessages⟩ := ih (a := a.note (p.alone source).notes) ha
    rw [Outcome.andThen_of_ok hresult]
    refine ⟨rfl, ?_⟩
    rw [List.flatMap_cons, ← hmessages]
    show _ ++ (_ ++ []) = _
    rw [List.append_nil]

theorem transformAll_of_firstFault (hp : p.IgnoresLog) (ha : a.config = p.config)
    (h : p.FirstFault methods fault) : (p.transformAll a methods).result = .error fault := by
  obtain ⟨pre, source, post, ts, rfl, hts, hf⟩ := h
  induction hts generalizing a with
  | nil =>
    rw [List.nil_append, transformAll, transformMethod_eq_alone hp ha,
      Outcome.andThen_of_error hf]
  | @cons s t pre ts ht _ ih =>
    have hrest := ih (a := a.note (p.alone s).notes) ha
    rw [List.cons_append, transformAll, transformMethod_eq_alone hp ha,
      Outcome.andThen_of_ok ht]
    dsimp only
    rw [Outcome.andThen_of_error hrest]

/-! ## The class -/

theorem transformClass_of_results (hp : p.IgnoresLog) (name : String)
    (h : p.Results methods ts) :
    ∃ log, (p.transformClass ⟨name, methods⟩).result = .ok ⟨name, ts, log⟩ ∧
      log.toList = methods.flatMap p.messagesAbout := by
  obtain ⟨hresult, hmessages⟩ := transformAll_of_results hp (a := p.analysis) rfl h
  refine ⟨(p.analysis.note (p.transformAll p.analysis methods).notes).log, ?_, ?_⟩
  · unfold transformClass
    rw [Outcome.andThen_of_ok hresult]
  · -- An empty log keeps of all messages what it keeps of those about each method.
    have hkept : ∀ notes : Notes, (p.analysis.note notes).log.toList =
        notes.messages.filter (p.config.minimumSeverity ≤ ·.severity) :=
      fun notes => Log.toList_extend _ _
    simp only [hkept, hmessages, List.filter_flatMap]
    exact List.flatMap_congr fun source _ => (hkept _).symm

theorem transformClass_of_firstFault (hp : p.IgnoresLog) (name : String)
    (h : p.FirstFault methods fault) :
    (p.transformClass ⟨name, methods⟩).result = .error fault := by
  unfold transformClass
  rw [Outcome.andThen_of_error (transformAll_of_firstFault hp rfl h)]

/-- A transformed class tells that each of its methods has its result alone. -/
theorem results_of_transformClass {source : ClassSource} {t : TransformedClass}
    (hp : p.IgnoresLog) (h : (p.transformClass source).result = .ok t) :
    p.Results source.methods t.methods := by
  rcases p.results_or_firstFault source.methods with ⟨ts, hts⟩ | ⟨fault, hf⟩
  · obtain ⟨log, hclass, -⟩ := transformClass_of_results hp source.name hts
    rw [hclass] at h
    cases h
    exact hts
  · rw [transformClass_of_firstFault hp source.name hf] at h
    cases h

/-- Methods in another order have their results in that order. -/
theorem Results.perm (h : p.Results methods ts) (hm : methods.Perm methods') :
    ∃ ts', p.Results methods' ts' ∧ (methods.zip ts).Perm (methods'.zip ts') := by
  induction hm generalizing ts with
  | nil => exact ⟨ts, h, .refl _⟩
  | cons source _ ih =>
    obtain _ | ⟨ht, hts⟩ := h
    obtain ⟨ts', hts', hperm⟩ := ih hts
    exact ⟨_ :: ts', .cons ht hts', hperm.cons _⟩
  | swap s s' methods =>
    obtain _ | ⟨ht, _ | ⟨ht', hts⟩⟩ := h
    exact ⟨_ :: _ :: _, .cons ht' (.cons ht hts), .swap _ _ _⟩
  | trans _ _ ih ih' =>
    obtain ⟨ts', hts', hperm⟩ := ih h
    obtain ⟨ts'', hts'', hperm'⟩ := ih' hts'
    exact ⟨ts'', hts'', hperm.trans hperm'⟩

/-- **The methods of a class do not affect each other.** -/
theorem transformClass_isolated (hp : p.IgnoresLog) (name : String)
    (methods : List MethodSource) :
    (∀ ts, p.Results methods ts →
      ∃ log, (p.transformClass ⟨name, methods⟩).result = .ok ⟨name, ts, log⟩ ∧
        log.toList = methods.flatMap p.messagesAbout) ∧
    ((¬ ∃ ts, p.Results methods ts) →
      ∃ fault, p.FirstFault methods fault ∧
        (p.transformClass ⟨name, methods⟩).result = .error fault) ∧
    ∀ methods' t, methods.Perm methods' →
      (p.transformClass ⟨name, methods⟩).result = .ok t →
      ∃ t', (p.transformClass ⟨name, methods'⟩).result = .ok t' ∧
        (methods.zip t.methods).Perm (methods'.zip t'.methods) ∧
        t.log.toList.Perm t'.log.toList := by
  refine ⟨fun ts h => transformClass_of_results hp name h, fun h => ?_, fun methods' t hm h => ?_⟩
  · obtain ⟨fault, hf⟩ := (p.results_or_firstFault methods).resolve_left h
    exact ⟨fault, hf, transformClass_of_firstFault hp name hf⟩
  · rcases p.results_or_firstFault methods with ⟨ts, hts⟩ | ⟨fault, hf⟩
    · obtain ⟨log, hclass, hlog⟩ := transformClass_of_results hp name hts
      rw [hclass] at h
      cases h
      obtain ⟨ts', hts', hperm⟩ := hts.perm hm
      obtain ⟨log', hclass', hlog'⟩ := transformClass_of_results hp name hts'
      refine ⟨_, hclass', hperm, ?_⟩
      rw [hlog, hlog']
      exact hm.flatMap_right _
    · rw [transformClass_of_firstFault hp name hf] at h
      cases h

/-- Every rule of the default pipeline twice. -/
def twiceGuarded : Pipeline Unit where
  config := {}
  definitions := [NativeStub.definition, NativeStub.definition]
  validators := [CatchGuard.validation, CatchGuard.validation]
  emitters := [CatchGuard.emission, CatchGuard.emission]

/-- A method with a guarded handler. -/
def guardedMethod : MethodSource := ⟨CatchGuard.task, CatchGuard.sharedHandler⟩

/-- A method without handlers in which the label of the guarded handler means something else. -/
def sameLabel : MethodSource := ⟨CatchGuard.task, [.label ⟨2⟩, .exec .vreturn .empty]⟩

/-- A method with a guarded handler that never begins. -/
def lateMethod : MethodSource := ⟨CatchGuard.task, CatchGuard.lateHandler⟩

theorem exists_of_isOk {α : Type} {x : Except Fault α} (h : x.isOk = true) : ∃ t, x = .ok t := by
  cases x with
  | ok t => exact ⟨t, rfl⟩
  | error fault => cases h

theorem transformClass_isolated_twiceGuarded :
    twiceGuarded.IgnoresLog ∧
    (∃ ts log, twiceGuarded.Results [guardedMethod, sameLabel] ts ∧
      (twiceGuarded.transformClass ⟨"sandbox/Task", [guardedMethod, sameLabel]⟩).result =
        .ok ⟨"sandbox/Task", ts, log⟩ ∧
      log.toList = twiceGuarded.messagesAbout guardedMethod ++
        twiceGuarded.messagesAbout sameLabel ∧
      ∃ t, (twiceGuarded.transformClass ⟨"sandbox/Task", [sameLabel, guardedMethod]⟩).result =
          .ok t ∧
        ([guardedMethod, sameLabel].zip ts).Perm ([sameLabel, guardedMethod].zip t.methods) ∧
        log.toList.Perm t.log.toList) ∧
    ∃ fault, twiceGuarded.FirstFault [guardedMethod, lateMethod] fault ∧
      (twiceGuarded.transformClass ⟨"sandbox/Task", [guardedMethod, lateMethod]⟩).result =
        .error fault := by
  have hp : twiceGuarded.IgnoresLog := by
    intro rule hrule
    simp only [twiceGuarded, List.mem_cons, List.not_mem_nil, or_false, or_self] at hrule
    rw [hrule]
    exact DefinitionRule.ignoresLog_nativeStub
  obtain ⟨t, ht⟩ := exists_of_isOk
    (show (twiceGuarded.alone guardedMethod).result.isOk = true by decide +kernel)
  obtain ⟨t', ht'⟩ := exists_of_isOk
    (show (twiceGuarded.alone sameLabel).result.isOk = true by decide +kernel)
  have hlate : (twiceGuarded.alone lateMethod).result.isOk = false := by decide +kernel
  have hresults : twiceGuarded.Results [guardedMethod, sameLabel] [t, t'] :=
    .cons ht (.cons ht' .nil)
  obtain ⟨hok, -, hperm⟩ :=
    transformClass_isolated hp "sandbox/Task" [guardedMethod, sameLabel]
  obtain ⟨-, hfault, -⟩ := transformClass_isolated hp "sandbox/Task" [guardedMethod, lateMethod]
  obtain ⟨log, hclass, hlog⟩ := hok _ hresults
  obtain ⟨swapped, hswapped, hzip, hmessages⟩ :=
    hperm [sameLabel, guardedMethod] _ (.swap ..) hclass
  refine ⟨hp, ⟨_, log, hresults, hclass, by simpa using hlog, swapped, hswapped, hzip,
    hmessages⟩, hfault ?_⟩
  rintro ⟨ts, _ | ⟨-, _ | ⟨h, -⟩⟩⟩
  rw [h] at hlate
  cases hlate

end Pipeline

end BytecodeGuard
