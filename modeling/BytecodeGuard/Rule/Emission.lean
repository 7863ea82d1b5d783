import BytecodeGuard.Handler.Registry
import BytecodeGuard.Rule.Site

/-!
# Emission rules

The third stage of a transformation builds the new code. Every rule sees every instruction and
may build code of its own. Code for a marker comes after the marker, code for an executable
instruction before it, and a rule may drop an executable instruction.

An `Emission` is the state of this stage for one method. A rule acts on it by an `Emission.Action`,
a script of requests. Rules share a scratch value that starts anew with each method.
-/

namespace BytecodeGuard

/-- The state of the emission of one method. -/
structure Emission (σ : Type) where
  site : Site
  builder : Builder
  /-- The handlers that need a check. -/
  registry : HandlerRegistry := {}
  /-- What rules remember between instructions. -/
  scratch : σ
  /-- The current instruction is left out. -/
  dropped : Bool := false
  notes : Notes := {}

/-- An action on the emission of a method. -/
abbrev Emit (σ : Type) := EStateM Fault (Emission σ)

namespace Emission

variable {σ α : Type}

/-- The part of the state that rules can see. -/
structure View (σ : Type) where
  site : Site
  builder : Builder
  scratch : σ

/-- What a rule may ask for. -/
inductive Request (σ : Type) where
  | build (s : Step)
  /-- To see the state. -/
  | look
  /-- To remember a scratch value. -/
  | remember (scratch : σ)
  /-- To leave out the current instruction. -/
  | drop
  /-- To record a trace message with the given settings. -/
  | trace (text : String) (settings : List Draft.Setting)
  | diagnose (d : Diagnostic)
  | registerHandler (l : Label)
  | resolveHandler (l : Label)
  | firstPendingHandler

/-- The answer to a request. -/
def Request.Reply : Request σ → Type
  | build _ => Except Fault (Option Label)
  | look => View σ
  | registerHandler _ | resolveHandler _ => Bool
  | firstPendingHandler => Option Label
  | remember _ | drop | trace .. | diagnose _ => Unit

/-- A script of a rule. -/
abbrev Action (σ : Type) := Script (Request σ) Request.Reply

/-- Adds notes. -/
def note (e : Emission σ) (notes : Notes) : Emission σ := { e with notes := e.notes ++ notes }

/-- Records a finding at the current site. -/
def report (e : Emission σ) (f : Finding) : Emission σ :=
  match e.site.message? f with
  | some m => e.note (.message m)
  | none => e

/-- Answers a request. -/
def answer : (r : Request σ) → Emission σ → r.Reply × Emission σ
  | .build s, e =>
    let attempted := s.attempt e.builder
    (attempted.1, { e with builder := attempted.2 })
  | .look, e => (⟨e.site, e.builder, e.scratch⟩, e)
  | .remember scratch, e => ((), { e with scratch })
  | .drop, e => ((), { e with dropped := true })
  | .trace text settings, e => ((), e.report ⟨.trace, some text, settings⟩)
  | .diagnose d, e => ((), e.note { diagnostics := [d] })
  | .registerHandler l, e =>
    let registered := e.registry.register l
    (registered.1, { e with registry := registered.2 })
  | .resolveHandler l, e =>
    let resolved := e.registry.resolve l
    (resolved.1, { e with registry := resolved.2 })
  | .firstPendingHandler, e => (e.registry.firstPending?, e)

/-- Runs a script. -/
def act (action : Action σ α) : Emit σ α := Script.run answer action

/-- Performs a step on the builder. -/
def build (s : Step) : Emit σ (Option Label) := fun e =>
  match s.run e.builder with
  | .ok result b => .ok result { e with builder := b }
  | .error fault b => .error fault { e with builder := b }

/-- Begins the work of a rule on an instruction. -/
def enter (index : Option Nat) (rule : String) : Emit σ Unit :=
  modify fun e => { e with site := { e.site with index, rule } }

/-- Reports whether the current instruction is left out, and keeps the next one. -/
def takeDropped : Emit σ Bool := modifyGet fun e => (e.dropped, { e with dropped := false })

namespace Action

/-- A single request. -/
def request (r : Request σ) : Action σ r.Reply := .ask r .done

/-- Performs a step, and gives up if it fails. -/
def build (s : Step) : Action σ (Option Label) := .ask (.build s) Script.ofExcept

/-- The state that rules can see. -/
def look : Action σ (View σ) := request .look

/-- Remembers a scratch value. -/
def remember (scratch : σ) : Action σ Unit := request (.remember scratch)

/-- Leaves out the current instruction. -/
def drop : Action σ Unit := request .drop

/-- Records a trace message with the given settings. -/
def trace (text : String) (settings : List Draft.Setting := []) : Action σ Unit :=
  request (.trace text settings)

/-- Writes a diagnostic line. -/
def diagnose (level : DiagnosticLevel) (text : String) : Action σ Unit :=
  request (.diagnose ⟨level, text⟩)

/-- Registers a handler that needs a check, and reports whether it was new. -/
def registerHandler (l : Label) : Action σ Bool := request (.registerHandler l)

/-- Marks a handler as checked, and reports whether it needed a check. -/
def resolveHandler (l : Label) : Action σ Bool := request (.resolveHandler l)

/-- The lowest handler that still needs a check. -/
def firstPendingHandler : Action σ (Option Label) := request .firstPendingHandler

/-- Duplicates the top of the stack. -/
def duplicate : Action σ Unit := discard (build .dup)

/-- Calls a runtime check of the configured class. -/
def invokeCheck (name descriptor : String) : Action σ Unit := do
  let view ← look
  discard (build (.invokeStatic view.site.config.checkOwner name descriptor))

end Action

end Emission

/-- A rule that builds code. -/
structure EmissionRule (σ : Type) where
  name : String
  /-- What is done for an instruction. -/
  emit : Instruction → Emission.Action σ Unit
  /-- What is done after the last instruction. -/
  finish : Emission.Action σ Unit := .done ()

namespace EmissionRule

variable {σ : Type}

/-- The work of a rule on an instruction. -/
def emitAt (index : Nat) (i : Instruction) (rule : EmissionRule σ) : Emit σ Unit := do
  Emission.enter (some index) rule.name
  Emission.act (rule.emit i)

/-- The work of a rule after the last instruction. -/
def finishAt (rule : EmissionRule σ) : Emit σ Unit := do
  Emission.enter none rule.name
  Emission.act rule.finish

end EmissionRule

/-- A number above every label that the code mentions. -/
def labelBase (code : List Instruction) : Nat :=
  ((code.flatMap Instruction.labels).map fun l => l.index + 1).foldl max 0

namespace Emission

variable {σ : Type}

/-- The beginning of the emission of a method. -/
def start [Inhabited σ] (config : Config) (m : Member) (base : Nat) : Emission σ where
  site := { config, member := m }
  builder := .ofLabelBase base
  scratch := default

/-- Handles one instruction. -/
def process (rules : List (EmissionRule σ)) (i : Instruction) (index : Nat) : Emit σ Unit := do
  if i.isMarker then discard (build (.instruction i))
  rules.forM (EmissionRule.emitAt index i)
  let dropped ← takeDropped
  if !i.isMarker && !dropped then discard (build (.instruction i))

/-- Handles the code of a method and lets every rule finish. -/
def processAll (rules : List (EmissionRule σ)) (code : List Instruction) : Emit σ Unit := do
  code.zipIdx.forM fun (i, index) => process rules i index
  rules.forM EmissionRule.finishAt

end Emission

/-- The new code of a method. -/
def EmissionRule.applyAll {σ : Type} [Inhabited σ] (rules : List (EmissionRule σ))
    (config : Config) (m : Member) (code : List Instruction) : Outcome BuiltCode :=
  match Emission.processAll rules code (.start config m (labelBase code)) with
  | .ok _ e => ⟨.ok e.builder.finish, e.notes⟩
  | .error fault e => ⟨.error fault, e.notes⟩

end BytecodeGuard
