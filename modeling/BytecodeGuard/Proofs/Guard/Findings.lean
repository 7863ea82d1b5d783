import BytecodeGuard.Proofs.Guard.Exact
import BytecodeGuard.Proofs.Native.Declaration
import Mathlib.Data.List.Dedup

/-!
# What is said about guarded code

The guard goes over the code twice. Validation warns about each region that is declared for a
guarded type; it remembers nothing, so a handler may be the subject of several warnings. Emission
checks each handler once and says so. The two agree on which handlers these are.

**Theorem (`findings_agree`).** If a method is transformed and every message is kept, the messages
about it are one warning for each guarded region, in the order of the code, followed by one trace
message for each check, in the order of the code. The labels with a check are the handlers of the
regions with a warning.

A label with a check is declared, hence it has a warning. The converse is what the guard insists
on at the end of the method: a declared label without a check would have stopped it. No label is
checked twice, because no label is placed twice.
-/

namespace BytecodeGuard

namespace CatchGuard

variable {σ : Type} {config : Config} {m m' : Member} {code : List Instruction}
  {l : Label} {k : Nat} {i : Instruction} {b : Builder}

/-! ## Warnings -/

/-- A region that is declared for a guarded type. -/
structure GuardedRegion where
  /-- The index of the declaration in the code. -/
  index : Nat
  caught : String
  handler : Label
deriving DecidableEq

/-- The guarded region that is declared at an index, if there is one. -/
def guardedRegion? (k : Nat) : Instruction → Option GuardedRegion
  | .region ⟨_, _, handler, some caught⟩ =>
    if caught ∈ guardedTypes then some ⟨k, caught, handler⟩ else none
  | _ => none

/-- The guarded regions in the order of their declarations. -/
def guardedRegions (code : List Instruction) : List GuardedRegion :=
  code.zipIdx.filterMap fun (i, k) => guardedRegion? k i

/-- What validation says about a guarded region of a method. -/
def warning (config : Config) (m : Member) (r : GuardedRegion) : Message where
  severity := .warning
  location := some (placeIn m r.index)
  text := "Injected runtime check for catch-block for type " ++ config.display r.caught
  rule := some "CatchGuardRule"

theorem exists_guardedRegion? :
    (∃ r, guardedRegion? k i = some r ∧ r.handler = l) ↔ Declares l i := by
  cases i with
  | region r =>
    obtain ⟨start, stop, handler, _ | caught⟩ := r
    · simp [guardedRegion?, Declares]
    · simp only [guardedRegion?, Declares, Option.ite_none_right_eq_some, Option.some.injEq]
      constructor
      · rintro ⟨-, ⟨hc, rfl⟩, rfl⟩
        exact ⟨rfl, hc⟩
      · rintro ⟨rfl, hc⟩
        exact ⟨_, ⟨hc, rfl⟩, rfl⟩
  | _ => simp [guardedRegion?, Declares]

/-- The handlers with a warning are the declared labels. -/
theorem mem_handlers_guardedRegions :
    l ∈ (guardedRegions code).map (·.handler) ↔ Declared code l := by
  unfold guardedRegions Declared
  simp only [List.mem_map, List.mem_filterMap, Prod.exists]
  constructor
  · rintro ⟨r, ⟨i, k, hi, hr⟩, rfl⟩
    exact ⟨i, List.fst_mem_of_mem_zipIdx hi, exists_guardedRegion?.1 ⟨r, hr, rfl⟩⟩
  · rintro ⟨i, hi, hl⟩
    obtain ⟨k, hk, rfl⟩ := List.mem_iff_getElem.1 hi
    obtain ⟨r, hr, rfl⟩ := (exists_guardedRegion? (k := k)).2 hl
    exact ⟨r, ⟨_, k, List.mk_mem_zipIdx_iff_getElem?.2 (List.getElem?_eq_getElem hk), hr⟩, rfl⟩

theorem messagesAt_validation (config : Config) (m : Member) (k : Nat) (i : Instruction) :
    ValidationRule.messagesAt config m k i validation =
      ((guardedRegion? k i).map (warning config m)).toList := by
  cases i with
  | region r =>
    obtain ⟨start, stop, handler, _ | caught⟩ := r
    · rfl
    · by_cases hc : caught ∈ guardedTypes
      · have hg : isGuardedType caught = true := decide_eq_true hc
        simp only [ValidationRule.messagesAt, validation, guardedHandler?, hg, guardedRegion?, hc]
        rfl
      · have hg : isGuardedType caught = false := decide_eq_false hc
        simp only [ValidationRule.messagesAt, validation, guardedHandler?, hg, guardedRegion?, hc]
        rfl
  | _ => rfl

/-- **Validation.** There is one warning for each guarded region. -/
theorem applyAll_validation (config : Config) (m : Member) (code : List Instruction) :
    ValidationRule.applyAll [validation] config m code =
      (guardedRegions code).map (warning config m) := by
  unfold ValidationRule.applyAll guardedRegions
  rw [List.map_filterMap, List.filterMap_eq_flatMap_toList]
  refine List.flatMap_congr fun p _ => ?_
  obtain ⟨i, k⟩ := p
  exact (List.flatMap_singleton _ _).trans (messagesAt_validation config m k i)

/-! ## Checks -/

/-- The index of a check is that of its label. -/
theorem getElem?_of_mem_insertedChecks (h : (l, k) ∈ insertedChecks code) :
    code[k]? = some (.label l) := by
  induction code using List.reverseRecOn with
  | nil => cases h
  | append_singleton code i ih =>
    rw [insertedChecks_snoc, List.mem_append, List.mem_map] at h
    rcases h with h | ⟨l', hl', heq⟩
    · rw [List.getElem?_append_left (List.getElem?_eq_some_iff.1 (ih h)).1, ih h]
    · cases heq
      obtain ⟨rfl, -⟩ := checkpoint?_eq_some.1 (Option.mem_toList.1 hl')
      simp

/-- The checks come in the order of their labels. -/
theorem pairwise_insertedChecks (code : List Instruction) :
    (insertedChecks code).Pairwise (·.2 < ·.2) := by
  induction code using List.reverseRecOn with
  | nil => exact .nil
  | append_singleton code i ih =>
    rw [insertedChecks_snoc]
    refine List.pairwise_append.2 ⟨ih, ?_, fun p hp q hq => ?_⟩
    · cases checkpoint? code i with
      | none => exact .nil
      | some l => exact List.pairwise_singleton _ _
    · obtain ⟨l, -, rfl⟩ := List.mem_map.1 hq
      exact (List.getElem?_eq_some_iff.1 (getElem?_of_mem_insertedChecks hp)).1

theorem length_insertedChecks (code : List Instruction) :
    (insertedChecks code).length = (checkpoints code).length := by
  rw [← map_fst_insertedChecks, List.length_map]

/-! ## Checks and warnings -/

/-- A declared label that is not left unchecked has its check, and only declared labels do. -/
theorem mem_insertedChecks_iff (hn : ∀ l, ¬Unchecked code l) :
    l ∈ (insertedChecks code).map (·.1) ↔ l ∈ (guardedRegions code).map (·.handler) := by
  have hlabels : (insertedChecks code).map (·.1) = checkpoints code := map_fst_insertedChecks code
  rw [hlabels, mem_checkpoints, mem_handlers_guardedRegions]
  constructor
  · rintro ⟨pre, post, hsplit, i, hi, hl⟩
    exact ⟨i, by simp [hsplit, hi], hl⟩
  · intro hd
    by_contra hl
    exact hn l ⟨hd, hl⟩

/-- A label has one check, however many warnings are about it. -/
theorem length_insertedChecks_eq_dedup (hc : Builder.replay code {} = .ok () b)
    (hn : ∀ l, ¬Unchecked code l) :
    (insertedChecks code).length = ((guardedRegions code).map (·.handler)).dedup.length := by
  have hnodup : ((insertedChecks code).map (·.1)).Nodup :=
    (map_fst_insertedChecks code).symm ▸ nodup_checkpoints hc
  have hperm : ((insertedChecks code).map (·.1)).Perm
      ((guardedRegions code).map (·.handler)).dedup :=
    (List.perm_ext_iff_of_nodup hnodup (List.nodup_dedup _)).2 fun l => by
      rw [mem_insertedChecks_iff hn, List.mem_dedup]
  rw [← hperm.length_eq, List.length_map]

theorem insertedChecks_eq_nil_iff (hn : ∀ l, ¬Unchecked code l) :
    insertedChecks code = [] ↔ guardedRegions code = [] := by
  have hmem := fun l => mem_insertedChecks_iff (l := l) hn
  rw [← List.map_eq_nil_iff (f := Prod.fst), ← List.map_eq_nil_iff (f := GuardedRegion.handler),
    List.eq_nil_iff_forall_not_mem, List.eq_nil_iff_forall_not_mem]
  exact forall_congr' fun l => not_congr (hmem l)

/-! ## In the default pipeline -/

theorem placeIn_define (a : Analysis) (m : Member) (k : Nat) :
    placeIn (NativeStub.definition.define a m).member k = placeIn m k := by
  have hreplaced := NativeStub.replaced_define a m
  unfold placeIn
  rw [hreplaced.className, hreplaced.name, hreplaced.signature]

end CatchGuard

namespace Pipeline

variable {σ : Type} [Inhabited σ] {p : Pipeline σ}

/-- A log that keeps everything has the messages of the run. -/
theorem messagesAbout_of_trace (h : p.config.minimumSeverity = .trace) (source : MethodSource) :
    p.messagesAbout source = (p.alone source).notes.messages := by
  have hkept : p.messagesAbout source =
      [] ++ (p.alone source).notes.messages.filter (p.config.minimumSeverity ≤ ·.severity) :=
    Log.toList_extend _ _
  rw [hkept, h, List.nil_append, List.filter_eq_self]
  exact fun message _ => decide_eq_true (Nat.zero_le _)

end Pipeline

namespace CatchGuard

variable {σ : Type} [Inhabited σ] {config : Config} {source : MethodSource}
  {t : TransformedMethod}

theorem warning_define (config : Config) (a : Analysis) (m : Member) :
    warning config (NativeStub.definition.define a m).member = warning config m := by
  funext r
  unfold warning
  rw [placeIn_define]

theorem checkMessage_define (a : Analysis) (m : Member) :
    checkMessage (NativeStub.definition.define a m).member = checkMessage m := by
  funext p
  unfold checkMessage
  rw [placeIn_define]

/-- The messages about a method of the default pipeline. -/
theorem messages_alone
    (h : ((Pipeline.ofConfig config : Pipeline σ).alone source).result = .ok t) :
    ((Pipeline.ofConfig config : Pipeline σ).alone source).notes.messages =
      (guardedRegions source.code).map (warning config source.member) ++
        (insertedChecks source.code).map (checkMessage source.member) := by
  let a := (Pipeline.ofConfig config : Pipeline σ).analysis
  let defined := (NativeStub.definition.define a source.member).member
  obtain ⟨built, -, -, hb, -⟩ := Pipeline.transformMethod_eq_ok.1 h
  obtain ⟨c, hc, hn, -⟩ := applyAll_eq_ok.1 hb
  have hdefinition : (DefinitionRule.applyAll (Pipeline.ofConfig config : Pipeline σ).definitions
      a source.member).notes.messages = [] := by
    have hone := NativeStub.applyAll_singleton a source.member
    exact (congrArg (·.notes.messages) hone).trans (NativeStub.messages_define a source.member)
  have hvalidation : ValidationRule.applyAll (Pipeline.ofConfig config : Pipeline σ).validators
      a.config defined source.code =
        (guardedRegions source.code).map (warning config source.member) := by
    rw [← warning_define config a source.member]
    exact applyAll_validation config defined source.code
  have hemission : (EmissionRule.applyAll (Pipeline.ofConfig config : Pipeline σ).emitters
      a.config defined source.code).notes.messages =
        (insertedChecks source.code).map (checkMessage source.member) := by
    rw [← checkMessage_define a source.member]
    exact messages_applyAll_of_checked config defined hc hn
  unfold Pipeline.alone
  rw [Pipeline.messages_transformMethod h, Pipeline.defined_ofConfig, hdefinition, hvalidation,
    hemission, List.nil_append]

/-- **Validation and emission agree.** The messages about a transformed method, if all are kept,
are a warning for each guarded region and a trace message for each check, in this order. The
checks are those of the new code, in its order, each at the index of its label. The checked labels
are the handlers of the guarded regions, each one once. -/
theorem findings_agree (hmin : config.minimumSeverity = .trace)
    (h : ((Pipeline.ofConfig config : Pipeline σ).alone source).result = .ok t) :
    let regions := guardedRegions source.code
    let checks := insertedChecks source.code
    (Pipeline.ofConfig config : Pipeline σ).messagesAbout source =
        regions.map (warning config source.member) ++ checks.map (checkMessage source.member) ∧
      t.code = withChecks config source.code ∧
      t.code.length = source.code.length + 2 * checks.length ∧
      (∀ l k, (l, k) ∈ checks → source.code[k]? = some (.label l)) ∧
      checks.Pairwise (·.2 < ·.2) ∧
      (∀ l, l ∈ checks.map (·.1) ↔ l ∈ regions.map (·.handler)) ∧
      checks.length = (regions.map (·.handler)).dedup.length ∧
      checks.length ≤ regions.length ∧
      (checks = [] ↔ regions = []) := by
  intro regions checks
  obtain ⟨built, peak, body, hb, -, -, ht⟩ := Pipeline.transformMethod_eq_ok.1 h
  obtain ⟨c, hc, hn, hbuilt⟩ := applyAll_eq_ok.1 hb
  have hcode : t.code = withChecks config source.code := by
    rw [ht, hbuilt]
    rfl
  have hdistinct : checks.length = (regions.map (·.handler)).dedup.length :=
    length_insertedChecks_eq_dedup hc hn
  have hle : checks.length ≤ regions.length := by
    rw [hdistinct]
    exact Nat.le_trans (List.dedup_sublist _).length_le (Nat.le_of_eq (List.length_map _))
  refine ⟨(Pipeline.messagesAbout_of_trace hmin source).trans (messages_alone h), hcode, ?_,
    fun _ _ => getElem?_of_mem_insertedChecks, pairwise_insertedChecks _,
    fun _ => mem_insertedChecks_iff hn, hdistinct, hle, insertedChecks_eq_nil_iff hn⟩
  rw [hcode, length_withChecks, ← length_insertedChecks]

/-- Two warnings about the shared handler, and one check. -/
theorem findings_agree_sharedHandler : ∃ t,
    ((Pipeline.ofConfig .verbose : Pipeline Unit).alone ⟨task, sharedHandler⟩).result = .ok t ∧
    (Pipeline.ofConfig .verbose : Pipeline Unit).messagesAbout ⟨task, sharedHandler⟩ =
      [warning .verbose task ⟨0, "java/lang/Throwable", ⟨2⟩⟩,
       warning .verbose task ⟨2, "java/lang/Error", ⟨2⟩⟩, checkMessage task (⟨2⟩, 7)] ∧
    t.code.length = sharedHandler.length + 2 := by
  obtain ⟨t, ht⟩ := Pipeline.exists_of_isOk
    (show ((Pipeline.ofConfig .verbose : Pipeline Unit).alone
      ⟨task, sharedHandler⟩).result.isOk = true by decide +kernel)
  obtain ⟨hmessages, -, hlength, -⟩ := findings_agree (σ := Unit) rfl ht
  have hregions : guardedRegions sharedHandler =
      [⟨0, "java/lang/Throwable", ⟨2⟩⟩, ⟨2, "java/lang/Error", ⟨2⟩⟩] := by decide
  have hchecks : insertedChecks sharedHandler = [(⟨2⟩, 7)] := by decide
  rw [hregions, hchecks] at hmessages
  rw [hchecks] at hlength
  exact ⟨t, ht, hmessages, hlength⟩

end CatchGuard

end BytecodeGuard
