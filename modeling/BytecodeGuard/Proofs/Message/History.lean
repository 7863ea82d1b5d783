import BytecodeGuard.Message.Log
import BytecodeGuard.Proofs.Message.Draft

/-!
# What a log holds after any operations

Operations create logs, copy them, and add to them in several ways: one message, a message that is
built up by settings, several messages, or those of another log. Any number of logs may be in use.

**Theorem (`log_history`).** A log holds what it began with, followed by the messages that were
offered to it since, in order, without those below its threshold and those for which a condition
did not hold. Operations on other logs leave it alone, and nothing is ever taken out of it.

`Offer` and `offeredSince` say what is offered without looking at how logs work. Only the messages
that a merge offers depend on a log: they are those of the other log at that time. One operation
adds the offers that are admitted (`exists_step`), and from this follows what a run adds
(`exists_run`).
-/

namespace BytecodeGuard

/-! ## Messages that are built up -/

/-- A draft that is built up by settings. -/
def Draft.ofSettings (severity : Severity) (settings : List Draft.Setting) : Draft :=
  Draft.setAll { severity } settings

/-! ## Offers -/

/-- A message that is offered to a log, and the conditions for it. -/
structure Offer where
  message : Message
  conditions : List Bool := []

namespace Offer

/-- The message is severe enough and every condition holds. -/
def admitted (threshold : Severity) (o : Offer) : Bool :=
  threshold ≤ o.message.severity && o.conditions.all id

/-- The message that settings describe: the last setting of each kind counts, and without a text
it is the noun of its severity. All conditions count. -/
def ofSettings (severity : Severity) (settings : List Draft.Setting) : Offer where
  message := {
    severity
    location := (settings.filterMap (·.location?)).getLast?
    text := (settings.filterMap (·.text?)).getLast?.getD severity.singular
    rule := (settings.filterMap (·.rule?)).getLast? }
  conditions := settings.filterMap (·.condition?)

end Offer

theorem message?_ofSettings (severity : Severity) (settings : List Draft.Setting) :
    (Draft.ofSettings severity settings).message? =
      if (Offer.ofSettings severity settings).conditions.all id then
        some (Offer.ofSettings severity settings).message
      else none := by
  refine (Draft.message?_setAll rfl settings).trans ?_
  simp only [Option.or_none]
  rfl

/-! ## Operations -/

namespace Log

/-- A log with the same threshold that takes the entries over as they are. -/
def copy (log : Log) : Log :=
  { ofThreshold log.threshold with entries := log.toList.foldl Array.push #[] }

theorem copy_eq (log : Log) : log.copy = log := by
  unfold copy ofThreshold toList
  rw [List.foldl_push_eq_append', Array.empty_append, Array.toArray_toList]

/-- An operation on the logs that exist, which are numbered in the order of their creation. -/
inductive Op where
  /-- A new log. -/
  | create (threshold : Severity)
  /-- A new log that is a copy. -/
  | copy (source : Nat)
  /-- A new log of messages. -/
  | collect (ms : List Message)
  /-- Builds up a message for a log. -/
  | record (log : Nat) (severity : Severity) (settings : List Draft.Setting)
  | push (log : Nat) (m : Message)
  /-- Offers a message of a text alone. -/
  | say (log : Nat) (severity : Severity) (text : String)
  | extend (log : Nat) (ms : List Message)
  /-- Offers the messages of another log. -/
  | merge (log other : Nat) (distinct : log ≠ other)

/-- The log that an operation adds messages to. -/
def Op.target? : Op → Option Nat
  | record log .. | push log _ | say log .. | extend log _ | merge log .. => some log
  | create _ | copy _ | collect _ => none

/-- Performs an operation. One that names a log that does not exist does nothing. -/
def step (logs : List Log) : Op → List Log
  | .create threshold => logs ++ [ofThreshold threshold]
  | .copy source => logs ++ (logs[source]?.map copy).toList
  | .collect ms => logs ++ [ofList ms]
  | .record log severity settings => logs.modify log (·.record (.ofSettings severity settings))
  | .push log m => logs.modify log (·.push m)
  | .say log severity text => logs.modify log (·.push { severity, text })
  | .extend log ms => logs.modify log (·.extend ms)
  | .merge log other _ =>
    match logs[other]? with
    | some source => logs.modify log (·.merge source)
    | none => logs

/-- Performs operations in order. -/
def run (ops : List Op) (logs : List Log) : List Log := ops.foldl step logs

/-- The threshold and the messages that a new log begins with, if the operation creates one. -/
def Op.creates? (logs : List Log) : Op → Option (Severity × List Message)
  | create threshold => some (threshold, [])
  | copy source => logs[source]?.map fun log => (log.threshold, log.toList)
  | collect ms => some (.trace, ms)
  | _ => none

/-- What an operation offers to its log. -/
def Op.content (logs : List Log) : Op → List Offer
  | record _ severity settings => [.ofSettings severity settings]
  | push _ m => [{ message := m }]
  | say _ severity text => [{ message := { severity, text } }]
  | extend _ ms => ms.map fun m => { message := m }
  | merge _ other _ => (logs[other]?.elim [] toList).map fun m => { message := m }
  | create _ | copy _ | collect _ => []

/-- What an operation offers to a log. -/
def Op.offers (logs : List Log) (k : Nat) (op : Op) : List Offer :=
  if op.target? = some k then op.content logs else []

/-- What operations offer to a log, in order. -/
def offeredSince (k : Nat) : List Log → List Op → List Offer
  | _, [] => []
  | logs, op :: ops => op.offers logs k ++ offeredSince k (step logs op) ops

/-- The messages of the offers that are admitted, in order. -/
def admitted (threshold : Severity) (offers : List Offer) : List Message :=
  (offers.filter (·.admitted threshold)).map (·.message)

variable {log log' : Log} {logs : List Log} {op : Op} {ops : List Op} {k : Nat}

/-- The log has taken the offers that are admitted. -/
structure Takes (offers : List Offer) (log log' : Log) : Prop where
  threshold : log'.threshold = log.threshold
  toList : log'.toList = log.toList ++ admitted log.threshold offers

theorem takes_nil (log : Log) : Takes [] log log :=
  ⟨rfl, (List.append_nil _).symm⟩

theorem Takes.append {log'' : Log} {offers offers' : List Offer} (h : Takes offers log log')
    (h' : Takes offers' log' log'') : Takes (offers ++ offers') log log'' where
  threshold := h'.threshold.trans h.threshold
  toList := by
    rw [h'.toList, h.toList, h.threshold, List.append_assoc]
    unfold admitted
    rw [List.filter_append, List.map_append]

/-! ## One operation -/

theorem admitted_singleton (threshold : Severity) (o : Offer) :
    admitted threshold [o] =
      if threshold ≤ o.message.severity ∧ o.conditions.all id then [o.message] else [] := by
  unfold admitted Offer.admitted
  rw [List.filter_cons, List.filter_nil]
  split <;> simp_all

theorem takes_push (log : Log) (m : Message) : Takes [{ message := m }] log (log.push m) where
  threshold := threshold_push log m
  toList := by
    rw [toList_push, admitted_singleton]
    simp only [List.all_nil, and_true]

theorem takes_extend (log : Log) (ms : List Message) :
    Takes (ms.map fun m => { message := m }) log (log.extend ms) := by
  induction ms generalizing log with
  | nil => exact takes_nil log
  | cons m ms ih => exact (takes_push log m).append (ih (log.push m))

theorem takes_record (log : Log) (severity : Severity) (settings : List Draft.Setting) :
    Takes [.ofSettings severity settings] log (log.record (.ofSettings severity settings)) := by
  unfold record
  rw [message?_ofSettings]
  cases hc : (Offer.ofSettings severity settings).conditions.all id with
  | true =>
    refine ⟨threshold_push _ _, ?_⟩
    rw [if_pos rfl, toList_push, admitted_singleton, hc]
    simp only [and_true]
  | false =>
    refine ⟨rfl, ?_⟩
    rw [admitted_singleton, hc]
    simp

/-- A log that is there before an operation is there afterwards. -/
theorem exists_modify {offers : List Offer} {f : Log → Log} (hf : ∀ log, Takes offers log (f log))
    (h : logs[k]? = some log) (i : Nat) :
    ∃ log', (logs.modify i f)[k]? = some log' ∧
      Takes (if some i = some k then offers else []) log log' := by
  rw [List.getElem?_modify, h]
  by_cases hi : i = k
  · subst hi
    exact ⟨f log, by simp, by simpa using hf log⟩
  · exact ⟨log, by simp [hi], by simpa [hi] using takes_nil log⟩

theorem exists_append (new : List Log) (h : logs[k]? = some log) :
    ∃ log', (logs ++ new)[k]? = some log' ∧ Takes [] log log' := by
  refine ⟨log, ?_, takes_nil log⟩
  rw [List.getElem?_append_left (List.getElem?_eq_some_iff.1 h).1, h]

section

variable {source : Log} {i j : Nat} {distinct : i ≠ j}

/-- A merge extends a log by the messages of another one. -/
theorem step_merge_of_some (h : logs[j]? = some source) :
    step logs (.merge i j distinct) = step logs (.extend i source.toList) := by
  simp only [step, h]
  rfl

theorem step_merge_of_none (h : logs[j]? = none) : step logs (.merge i j distinct) = logs := by
  simp only [step, h]

theorem offers_merge_of_some (h : logs[j]? = some source) :
    (Op.merge i j distinct).offers logs k = (Op.extend i source.toList).offers logs k := by
  simp only [Op.offers, Op.content, Op.target?, h, Option.elim_some]
  rfl

theorem offers_merge_of_none (h : logs[j]? = none) :
    (Op.merge i j distinct).offers logs k = [] := by
  simp only [Op.offers, Op.content, h, Option.elim_none, List.map_nil, ite_self]

end

/-- **One operation** adds what it offers to a log, as far as it is admitted. -/
theorem exists_step (op : Op) (h : logs[k]? = some log) :
    ∃ log', (step logs op)[k]? = some log' ∧ Takes (op.offers logs k) log log' := by
  cases op with
  | create threshold => exact exists_append _ h
  | copy source => exact exists_append _ h
  | collect ms => exact exists_append _ h
  | record i severity settings =>
    exact exists_modify (fun log => takes_record log severity settings) h i
  | push i m => exact exists_modify (fun log => takes_push log m) h i
  | say i severity text => exact exists_modify (fun log => takes_push log { severity, text }) h i
  | extend i ms => exact exists_modify (fun log => takes_extend log ms) h i
  | merge i other distinct =>
    cases hother : logs[other]? with
    | some source =>
      rw [step_merge_of_some hother, offers_merge_of_some hother]
      exact exists_modify (fun log => takes_extend log source.toList) h i
    | none =>
      rw [step_merge_of_none hother, offers_merge_of_none hother]
      exact ⟨log, h, takes_nil log⟩

/-- A log of messages keeps all of them. -/
theorem toList_ofList (ms : List Message) : (ofList ms).toList = ms := by
  have hall : ∀ m ∈ ms, decide (Severity.trace ≤ m.severity) = true :=
    fun m _ => decide_eq_true (Nat.zero_le m.severity.rank)
  unfold ofList
  rw [toList_extend]
  exact List.filter_eq_self.2 hall

theorem eq_of_getElem?_append (new : Option Log) (hnone : logs[k]? = none)
    (h : (logs ++ new.toList)[k]? = some log) : logs.length = k ∧ new = some log := by
  have hle : logs.length ≤ k := List.getElem?_eq_none_iff.1 hnone
  rw [List.getElem?_append_right hle] at h
  cases new with
  | none => cases h
  | some first =>
    obtain ⟨hlt, hfirst⟩ := List.getElem?_eq_some_iff.1 h
    have hk : k - logs.length = 0 := Nat.lt_one_iff.1 hlt
    simp only [hk] at hfirst
    exact ⟨by omega, congrArg some hfirst⟩

/-- A log that is not there before an operation is the one that the operation creates. -/
theorem creates_of_step (hnone : logs[k]? = none) (h : (step logs op)[k]? = some log) :
    logs.length = k ∧ op.creates? logs = some (log.threshold, log.toList) := by
  have hmodify : ∀ i (f : Log → Log), (logs.modify i f)[k]? ≠ some log := by
    intro i f hf
    rw [List.getElem?_modify, hnone] at hf
    cases hf
  cases op with
  | create threshold =>
    obtain ⟨hk, hlog⟩ := eq_of_getElem?_append (some (ofThreshold threshold)) hnone h
    obtain rfl := Option.some.inj hlog
    exact ⟨hk, rfl⟩
  | copy source =>
    obtain ⟨hk, hlog⟩ := eq_of_getElem?_append _ hnone h
    obtain ⟨first, hfirst, rfl⟩ := Option.map_eq_some_iff.1 hlog
    rw [copy_eq]
    exact ⟨hk, by simp only [Op.creates?, hfirst, Option.map_some]⟩
  | collect ms =>
    obtain ⟨hk, hlog⟩ := eq_of_getElem?_append (some (ofList ms)) hnone h
    obtain rfl := Option.some.inj hlog
    refine ⟨hk, ?_⟩
    rw [toList_ofList]
    exact congrArg (fun threshold => some (threshold, ms)) (threshold_extend {} ms).symm
  | merge i j distinct =>
    cases hother : logs[j]? with
    | some source =>
      rw [step_merge_of_some hother] at h
      exact absurd h (hmodify i _)
    | none =>
      rw [step_merge_of_none hother, hnone] at h
      cases h
  | record i severity settings => exact absurd h (hmodify i _)
  | push i m => exact absurd h (hmodify i _)
  | say i severity text => exact absurd h (hmodify i _)
  | extend i ms => exact absurd h (hmodify i _)

/-! ## Runs of operations -/

theorem run_append (ops ops' : List Op) (logs : List Log) :
    run (ops ++ ops') logs = run ops' (run ops logs) :=
  List.foldl_append

/-- **A run** adds what its operations offer to a log, as far as it is admitted. -/
theorem exists_run (ops : List Op) (h : logs[k]? = some log) :
    ∃ log', (run ops logs)[k]? = some log' ∧ Takes (offeredSince k logs ops) log log' := by
  induction ops generalizing logs log with
  | nil => exact ⟨log, h, takes_nil log⟩
  | cons op ops ih =>
    obtain ⟨next, hnext, hstep⟩ := exists_step op h
    obtain ⟨log', hlog', hrun⟩ := ih hnext
    exact ⟨log', hlog', hstep.append hrun⟩

/-- Every log was created by one of the operations. -/
theorem exists_created (ops : List Op) (h : (run ops [])[k]? = some log) :
    ∃ pre op post first, ops = pre ++ op :: post ∧ (run pre []).length = k ∧
      (run (pre ++ [op]) [])[k]? = some first ∧
      op.creates? (run pre []) = some (first.threshold, first.toList) := by
  induction ops using List.reverseRecOn generalizing log with
  | nil => cases h
  | append_singleton ops op ih =>
    cases hlog : (run ops [])[k]? with
    | some before =>
      obtain ⟨pre, op', post, first, rfl, hfirst⟩ := ih hlog
      exact ⟨pre, op', post ++ [op], first, by simp, hfirst⟩
    | none =>
      have hstep : (step (run ops []) op)[k]? = some log := by
        rw [run_append] at h
        exact h
      obtain ⟨hk, hcreates⟩ := creates_of_step hlog hstep
      exact ⟨ops, op, [], log, rfl, hk, h, hcreates⟩

/-- An operation on other logs leaves a log alone. -/
theorem getElem?_step_of_ne (h : logs[k]? = some log) (hop : op.target? ≠ some k) :
    (step logs op)[k]? = some log := by
  obtain ⟨log', hlog', htakes⟩ := exists_step op h
  have hoffers : op.offers logs k = [] := if_neg hop
  rw [hoffers] at htakes
  have hsame : log' = log :=
    eq_of_toList_eq htakes.threshold (htakes.toList.trans (List.append_nil _))
  rw [hlog', hsame]

/-- A message that is built up without a text says how severe it is. -/
theorem record_of_no_text {severity : Severity} {settings : List Draft.Setting}
    (htext : ∀ s ∈ settings, s.text? = none) (hgiven : ∀ s ∈ settings, s.condition? ≠ some false)
    (hs : log.threshold ≤ severity) :
    ∃ m, (log.record (.ofSettings severity settings)).toList = log.toList ++ [m] ∧
      m.severity = severity ∧ m.text = severity.singular := by
  have htakes := takes_record log severity settings
  have hall : (Offer.ofSettings severity settings).conditions.all id = true := by
    rw [List.all_eq_true]
    intro condition hc
    obtain ⟨s, hs, hcondition⟩ := List.mem_filterMap.1 hc
    cases condition with
    | true => rfl
    | false => exact absurd hcondition (hgiven s hs)
  refine ⟨(Offer.ofSettings severity settings).message, ?_, rfl, ?_⟩
  · rw [htakes.toList, admitted_singleton, if_pos ⟨hs, hall⟩]
  · show (settings.filterMap (·.text?)).getLast?.getD severity.singular = _
    rw [List.filterMap_eq_nil_iff.2 htext]
    rfl

/-- **What a log holds.** After any operations each log holds what it began with and then, in order,
the messages that were offered to it since and are admitted. An operation on one log leaves the
others alone, and later operations only add to what a log holds. A message that is built up
without a text has the noun of its severity, and merging is extending by the messages of the other
log. -/
theorem log_history :
    (∀ (ops : List Op) (k : Nat) (log : Log), (run ops [])[k]? = some log →
      ∃ pre op post first, ops = pre ++ op :: post ∧ (run pre []).length = k ∧
        op.creates? (run pre []) = some (log.threshold, first) ∧
        log.toList = first ++
          admitted log.threshold (offeredSince k (run (pre ++ [op]) []) post)) ∧
    (∀ (logs : List Log) (op : Op) (k : Nat) (log : Log), logs[k]? = some log →
      op.target? ≠ some k → (step logs op)[k]? = some log) ∧
    (∀ (logs : List Log) (ops : List Op) (k : Nat) (log : Log), logs[k]? = some log →
      ∃ log', (run ops logs)[k]? = some log' ∧ log'.threshold = log.threshold ∧
        log.toList <+: log'.toList) ∧
    (∀ (log : Log) (severity : Severity) (settings : List Draft.Setting),
      (∀ s ∈ settings, s.text? = none) → (∀ s ∈ settings, s.condition? ≠ some false) →
      log.threshold ≤ severity →
      ∃ m, (log.record (.ofSettings severity settings)).toList = log.toList ++ [m] ∧
        m.severity = severity ∧ m.text = severity.singular) ∧
    ∀ (logs : List Log) (i j : Nat) (distinct : i ≠ j) (source : Log), logs[j]? = some source →
      step logs (.merge i j distinct) = step logs (.extend i source.toList) := by
  refine ⟨?_, ?_, ?_, ?_, ?_⟩
  · intro ops k log h
    obtain ⟨pre, op, post, first, rfl, hk, hfirst, hcreates⟩ := exists_created ops h
    obtain ⟨last, hlast, htakes⟩ := exists_run post hfirst
    rw [List.append_cons, run_append, hlast] at h
    obtain rfl := Option.some.inj h
    rw [← htakes.threshold] at hcreates
    refine ⟨pre, op, post, first.toList, rfl, hk, hcreates, ?_⟩
    rw [htakes.toList, htakes.threshold]
  · exact fun logs op k log h hop => getElem?_step_of_ne h hop
  · intro logs ops k log h
    obtain ⟨log', hlog', htakes⟩ := exists_run ops h
    exact ⟨log', hlog', htakes.threshold, htakes.toList ▸ List.prefix_append _ _⟩
  · exact fun log severity settings htext hgiven hs => record_of_no_text htext hgiven hs
  · exact fun logs i j distinct source h => step_merge_of_some h

/-- A log for warnings, a copy of it that is merged into a log for everything, and this log merged
back. -/
def mergedBack : List Op :=
  [.create .warning, .record 0 .error [.rule "Padding", .given true],
   .say 0 .informational "dropped", .copy 0, .create .trace,
   .record 2 .error [.text "withheld", .given false, .given true],
   .record 2 .warning [.text "first", .text "last"], .merge 2 1 (by decide),
   .push 0 { severity := .warning, text := "own" }, .merge 0 2 (by decide),
   .collect [{ severity := .trace, text := "kept" }]]

/-- The first log has what it began with, a message of its own, and what came back. -/
theorem log_history_mergedBack :
    let logs := run mergedBack []
    let settings : List Draft.Setting := [.rule "Padding", .given true]
    (∃ log, logs[0]? = some log ∧ log.toList.map (·.text) = ["error", "own", "last", "error"] ∧
      ∃ pre op post first, mergedBack = pre ++ op :: post ∧ (run pre []).length = 0 ∧
        op.creates? (run pre []) = some (log.threshold, first) ∧
        log.toList = first ++
          admitted log.threshold (offeredSince 0 (run (pre ++ [op]) []) post)) ∧
    (∃ log source, logs[0]? = some log ∧ logs[2]? = some source ∧
      (step logs (.merge 2 0 (by decide)))[0]? = some log ∧
      step logs (.merge 0 2 (by decide)) = step logs (.extend 0 source.toList) ∧
      ∃ log', (run mergedBack logs)[0]? = some log' ∧ log'.threshold = log.threshold ∧
        log.toList <+: log'.toList) ∧
    ∃ m, ((ofThreshold .warning).record (.ofSettings .error settings)).toList =
        (ofThreshold .warning).toList ++ [m] ∧ m.severity = .error ∧ m.text = "error" := by
  intro logs settings
  obtain ⟨hcontents, hothers, hgrows, htext, hmerge⟩ := log_history
  have hlength : logs.length = 4 := by decide +kernel
  have hlog : logs[0]? = some logs[0] := List.getElem?_eq_getElem _
  have hsource : logs[2]? = some logs[2] := List.getElem?_eq_getElem _
  refine ⟨⟨logs[0], hlog, by decide +kernel, hcontents mergedBack 0 logs[0] hlog⟩, ?_, ?_⟩
  · exact ⟨logs[0], logs[2], hlog, hsource, hothers logs _ 0 logs[0] hlog (by decide),
      hmerge logs 0 2 (by decide) logs[2] hsource, hgrows logs mergedBack 0 logs[0] hlog⟩
  · exact htext (ofThreshold .warning) .error settings (by decide) (by decide) (by decide)

end Log

end BytecodeGuard
