import BytecodeGuard.Pipeline.Class
import BytecodeGuard.Proofs.Pipeline.Isolation
import BytecodeGuard.Proofs.Pipeline.Method

/-!
# What the native stub makes of a declaration

A native method keeps its native code in one case only: it belongs to the exempt class and does
not register native methods. Every other native declaration loses its native flag and gets one
more writer. `Replaced` says this of a declaration and what has become of it, bit by bit for the
flags.

**Theorem (`native_eliminated`).** In a transformed class every declaration is replaced in this
sense, whatever the configuration. The stage records no message, and neither a second run over its
own result nor a second copy of the rule in the pipeline makes any difference.

A declaration from which the rule takes nothing is settled (`Settled`). What the rule returns is
settled, and that is why it does not matter how often it comes up.
-/

namespace BytecodeGuard

/-! ## Flags, bit by bit -/

namespace Access

variable {a b : Access} {n : Nat}

/-- Whether the bit with the given number is set. -/
def has (a : Access) (n : Nat) : Bool := a.bits.toNat.testBit n

theorem ext_of_has (h : ∀ n, a.has n = b.has n) : a = b := by
  cases a
  cases b
  exact congrArg mk (UInt16.toNat_inj.1 (Nat.eq_of_testBit_eq h))

theorem has_inter (a b : Access) (n : Nat) : (a.inter b).has n = (a.has n && b.has n) := by
  unfold has inter
  rw [UInt16.toNat_and, Nat.testBit_and]

theorem has_diff (a b : Access) (n : Nat) : (a.diff b).has n = (a.has n && !b.has n) := by
  have hbits : ∀ c : Access, c.has n = c.bits.toBitVec.getLsbD n := fun c => rfl
  rw [hbits, hbits, hbits]
  unfold diff
  rw [UInt16.toBitVec_and, UInt16.toBitVec_not, BitVec.getLsbD_and, BitVec.getLsbD_not]
  by_cases hn : n < 16
  · simp [hn]
  · rw [BitVec.getLsbD_of_ge _ _ (Nat.le_of_not_lt hn), Bool.false_and, Bool.false_and]

/-- Flags are contained if each of their bits is set. -/
theorem contains_iff : a.contains b = true ↔ ∀ n, b.has n = true → a.has n = true := by
  unfold contains
  rw [beq_iff_eq]
  constructor
  · intro h n hb
    rw [← h, has_inter, Bool.and_eq_true] at hb
    exact hb.1
  · intro h
    refine ext_of_has fun n => ?_
    rw [has_inter]
    cases hb : b.has n with
    | false => exact Bool.and_false _
    | true => rw [h n hb, Bool.and_true]

/-- Nothing of a flag is left once it is taken away. -/
theorem contains_diff_self (a : Access) (h : ∃ n, b.has n = true) :
    (a.diff b).contains b = false := by
  obtain ⟨n, hb⟩ := h
  rw [Bool.eq_false_iff]
  intro hc
  have hn := contains_iff.1 hc n hb
  rw [has_diff, hb] at hn
  exact absurd hn (by simp)

end Access

namespace NativeStub

variable {a a' : Analysis} {m m' : Member} {body : Builder.Writer Unit} {remark : String}
  {config : Config}

/-! ## One declaration -/

/-- The method registers the native methods of the exempt class. -/
def Registers (config : Config) (m : Member) : Prop :=
  m.className = config.nativeOwner ∧ m.name = "registerNatives" ∧ m.signature = "()V"

instance (config : Config) (m : Member) : Decidable (Registers config m) :=
  inferInstanceAs (Decidable (_ ∧ _ ∧ _))

/-- What becomes of a declaration. -/
structure Replaced (config : Config) (m m' : Member) : Prop where
  isNative : m'.isNative = true ↔
    m.isNative = true ∧ m.className = config.nativeOwner ∧
      ¬(m.name = "registerNatives" ∧ m.signature = "()V")
  className : m'.className = m.className
  name : m'.name = m.name
  signature : m'.signature = m.signature
  /-- All bits but the native flag stay, those without a name included. -/
  access : ∀ n, Access.native.has n = false → m'.access.has n = m.access.has n
  /-- There is one more writer if the native flag is gone. -/
  writers : m'.writers = m.writers ++
    if m.isNative = true ∧ m'.isNative = false then
      [if Registers config m then emptyBody else throwingBody]
    else []

/-- The rule has nothing to take from the declaration. -/
def Settled (config : Config) (m : Member) : Prop :=
  m.isNative = true → m.className = config.nativeOwner ∧ isRegistration m = false

theorem isRegistration_iff :
    isRegistration m = true ↔ m.name = "registerNatives" ∧ m.signature = "()V" := by
  simp [isRegistration]

theorem isNative_replaceNative (m : Member) (body : Builder.Writer Unit) (remark : String) :
    (replaceNative m body remark).member.isNative = false :=
  Access.contains_diff_self m.access ⟨8, by decide⟩

/-- The three things that the rule does. -/
theorem define_cases (a : Analysis) (m : Member) :
    (Settled a.config m ∧ definition.define a m = { member := m }) ∨
    (m.isNative = true ∧ Registers a.config m ∧
      ∃ remark, definition.define a m = replaceNative m emptyBody remark) ∨
    (m.isNative = true ∧ m.className ≠ a.config.nativeOwner ∧
      ∃ remark, definition.define a m = replaceNative m throwingBody remark) := by
  unfold definition
  dsimp only
  split_ifs with hn ho hr
  · exact .inl ⟨fun h => by simp [h] at hn, rfl⟩
  · exact .inr (.inr ⟨by simpa using hn, ho, _, rfl⟩)
  · exact .inr (.inl ⟨by simpa using hn, ⟨not_not.1 ho, isRegistration_iff.1 hr⟩, _, rfl⟩)
  · exact .inl ⟨fun _ => ⟨not_not.1 ho, by simpa using hr⟩, rfl⟩

/-- A native declaration is replaced by its replacement, unless it is to stay native. -/
theorem replaced_replaceNative (hn : m.isNative = true)
    (hgoes : m.className = config.nativeOwner → m.name = "registerNatives" ∧ m.signature = "()V")
    (hbody : body = if Registers config m then emptyBody else throwingBody) :
    Replaced config m (replaceNative m body remark).member := by
  have hgone := isNative_replaceNative m body remark
  refine ⟨?_, rfl, rfl, rfl, fun n hbit => ?_, ?_⟩
  · rw [hgone]
    exact ⟨fun h => absurd h Bool.false_ne_true, fun ⟨_, ho, hr⟩ => absurd (hgoes ho) hr⟩
  · show (m.access.diff .native).has n = _
    rw [Access.has_diff, hbit, Bool.not_false, Bool.and_true]
  · rw [if_pos ⟨hn, hgone⟩, ← hbody]
    rfl

/-- **One declaration.** -/
theorem replaced_define (a : Analysis) (m : Member) :
    Replaced a.config m (definition.define a m).member := by
  rcases define_cases a m with ⟨hs, hd⟩ | ⟨hn, hr, remark, hd⟩ | ⟨hn, ho, remark, hd⟩ <;>
    rw [hd]
  · refine ⟨⟨fun hn => ⟨hn, (hs hn).1, ?_⟩, And.left⟩, rfl, rfl, rfl, fun _ _ => rfl, ?_⟩
    · rw [← isRegistration_iff, (hs hn).2]
      exact Bool.false_ne_true
    · have hboth : ¬(m.isNative = true ∧ m.isNative = false) := by simp
      rw [if_neg hboth, List.append_nil]
  · exact replaced_replaceNative hn (fun _ => hr.2) (if_pos hr).symm
  · exact replaced_replaceNative hn (fun h => absurd h ho) (if_neg fun hr => ho hr.1).symm

/-! ## Once and again -/

theorem define_of_settled (h : Settled a.config m) : definition.define a m = { member := m } := by
  rcases define_cases a m with ⟨-, hd⟩ | ⟨hn, hr, -⟩ | ⟨hn, ho, -⟩
  · exact hd
  · have hreg := (h hn).2
    rw [isRegistration_iff.2 hr.2] at hreg
    cases hreg
  · exact absurd (h hn).1 ho

theorem settled_define (a : Analysis) (m : Member) :
    Settled a.config (definition.define a m).member := by
  rcases define_cases a m with ⟨hs, hd⟩ | ⟨-, -, remark, hd⟩ | ⟨-, -, remark, hd⟩ <;> rw [hd]
  · exact hs
  · intro hn
    rw [isNative_replaceNative] at hn
    cases hn
  · intro hn
    rw [isNative_replaceNative] at hn
    cases hn

theorem messages_define (a : Analysis) (m : Member) :
    (definition.define a m).notes.messages = [] := by
  rcases define_cases a m with ⟨-, hd⟩ | ⟨-, -, remark, hd⟩ | ⟨-, -, remark, hd⟩ <;>
    rw [hd] <;> rfl

/-- A single rule that does not read the log makes the declaration and the notes of the stage. -/
theorem applyAll_singleton (a : Analysis) (m : Member) :
    DefinitionRule.applyAll [definition] a m = definition.define a m := by
  have hd : definition.define (a.note {}) m = definition.define a m :=
    DefinitionRule.ignoresLog_nativeStub _ _ m rfl
  show (⟨_, {} ++ (definition.define (a.note {}) m).notes⟩ : Definition) = _
  rw [hd]
  rfl

/-- **Copies of the rule.** More copies find a settled declaration. -/
theorem applyAll_replicate (n : Nat) (a : Analysis) (m : Member) :
    DefinitionRule.applyAll (List.replicate (n + 1) definition) a m =
      definition.define a m := by
  induction n with
  | zero => exact applyAll_singleton a m
  | succ n ih =>
    have hsettled := settled_define a m
    rw [List.replicate_succ']
    unfold DefinitionRule.applyAll at ih ⊢
    rw [List.foldl_append, ih]
    show (⟨(definition.define _ _).member, _ ++ (definition.define _ _).notes⟩ : Definition) = _
    rw [define_of_settled (a := a.note (definition.define a m).notes) hsettled]
    show (⟨_, ⟨_ ++ [], _ ++ []⟩⟩ : Definition) = _
    rw [List.append_nil, List.append_nil]

end NativeStub

/-! ## In a pipeline -/

namespace Pipeline

variable {σ : Type}

theorem ignoresLog_ofConfig (config : Config) : (ofConfig config : Pipeline σ).IgnoresLog := by
  intro rule hrule
  rw [List.mem_singleton.1 hrule]
  exact DefinitionRule.ignoresLog_nativeStub

theorem defined_ofConfig (config : Config) (a : Analysis) (source : MethodSource) :
    (ofConfig config : Pipeline σ).defined a source =
      (NativeStub.definition.define a source.member).member :=
  congrArg Definition.member (NativeStub.applyAll_singleton a source.member)

variable [Inhabited σ] {p : Pipeline σ} {definitions : List DefinitionRule}

/-- A method depends on the definition rules only by what they return. -/
theorem transformMethod_withDefinitions
    (h : ∀ a m, DefinitionRule.applyAll definitions a m = DefinitionRule.applyAll p.definitions a m)
    (a : Analysis) (source : MethodSource) :
    ({ p with definitions } : Pipeline σ).transformMethod a source =
      p.transformMethod a source := by
  unfold transformMethod
  rw [h]

theorem transformAll_withDefinitions
    (h : ∀ a m, DefinitionRule.applyAll definitions a m = DefinitionRule.applyAll p.definitions a m)
    (a : Analysis) (methods : List MethodSource) :
    ({ p with definitions } : Pipeline σ).transformAll a methods = p.transformAll a methods := by
  induction methods generalizing a with
  | nil => rfl
  | cons source methods ih =>
    unfold transformAll
    rw [transformMethod_withDefinitions h]
    simp only [ih]

theorem transformClass_withDefinitions
    (h : ∀ a m, DefinitionRule.applyAll definitions a m = DefinitionRule.applyAll p.definitions a m)
    (source : ClassSource) :
    ({ p with definitions } : Pipeline σ).transformClass source = p.transformClass source := by
  have hall := transformAll_withDefinitions (p := p) h p.analysis source.methods
  unfold transformClass
  rw [← hall]
  rfl

end Pipeline

namespace NativeStub

variable {σ : Type} [Inhabited σ]

theorem replaced_of_alone {config : Config} {source : MethodSource} {t : TransformedMethod}
    (h : ((Pipeline.ofConfig config : Pipeline σ).alone source).result = .ok t) :
    Replaced config source.member t.member := by
  obtain ⟨built, peak, body, -, -, -, rfl⟩ := Pipeline.transformMethod_eq_ok.1 h
  have hreplaced := replaced_define (Pipeline.ofConfig config : Pipeline σ).analysis source.member
  rw [← Pipeline.defined_ofConfig (σ := σ) config] at hreplaced
  exact hreplaced

/-- **Native code is eliminated, and nothing else changes.** Every declaration of a transformed
class is replaced. The stage records no message, it finds nothing more to do in its own result,
and more copies of the rule change nothing. -/
theorem native_eliminated (config : Config) (source : ClassSource) :
    (∀ t, ((Pipeline.ofConfig config : Pipeline σ).transformClass source).result = .ok t →
      List.Forall₂ (fun before after => Replaced config before.member after.member)
        source.methods t.methods) ∧
    (∀ a m, (DefinitionRule.applyAll (Pipeline.ofConfig config : Pipeline σ).definitions
      a m).notes.messages = []) ∧
    (∀ a m,
      let defined := DefinitionRule.applyAll (Pipeline.ofConfig config : Pipeline σ).definitions a m
      DefinitionRule.applyAll (Pipeline.ofConfig config : Pipeline σ).definitions a
        defined.member = { member := defined.member }) ∧
    ∀ n, ({ (Pipeline.ofConfig config : Pipeline σ) with
        definitions := List.replicate (n + 1) definition }).transformClass source =
      (Pipeline.ofConfig config : Pipeline σ).transformClass source := by
  have hone : ∀ a m, DefinitionRule.applyAll (Pipeline.ofConfig config : Pipeline σ).definitions
      a m = definition.define a m := applyAll_singleton
  refine ⟨fun t h => ?_, fun a m => ?_, fun a m => ?_, fun n => ?_⟩
  · have hresults := Pipeline.results_of_transformClass (Pipeline.ignoresLog_ofConfig config) h
    exact hresults.imp fun _ _ => replaced_of_alone
  · rw [hone]
    exact messages_define a m
  · dsimp only
    rw [hone, hone]
    exact define_of_settled (settled_define a m)
  · refine Pipeline.transformClass_withDefinitions (fun a m => ?_) source
    rw [applyAll_replicate, hone]

/-- A native method with a nameless flag and a writer of its own. -/
def drawMethod : Member := ⟨"com/example/Widget", "draw", "()I", ⟨0x2101⟩, [emptyBody]⟩

/-- A native method of the exempt class. -/
def lengthMethod : Member :=
  ⟨"java/lang/reflect/Array", "getLength", "(Ljava/lang/Object;)I", ⟨0x0109⟩, []⟩

/-- The method that registers it. -/
def registration : Member :=
  ⟨"java/lang/reflect/Array", "registerNatives", "()V", ⟨0x010A⟩, []⟩

theorem native_eliminated_widget :
    let source : ClassSource :=
      ⟨"com/example/Widget", [⟨drawMethod, []⟩, ⟨lengthMethod, []⟩, ⟨registration, []⟩]⟩
    ∃ t, ((Pipeline.ofConfig {} : Pipeline Unit).transformClass source).result = .ok t ∧
      List.Forall₂ (fun before after => Replaced {} before.member after.member)
        source.methods t.methods := by
  intro source
  obtain ⟨t, ht⟩ := Pipeline.exists_of_isOk
    (show ((Pipeline.ofConfig {} : Pipeline Unit).transformClass source).result.isOk = true by
      decide +kernel)
  obtain ⟨hreplaced, -⟩ := native_eliminated (σ := Unit) {} source
  exact ⟨t, ht, hreplaced t ht⟩

end NativeStub

end BytecodeGuard
