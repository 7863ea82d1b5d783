import BytecodeGuard.Builder.Effect

/-!
# Building code

A `Builder` appends instructions and tracks the depth of the operand stack in slots, which gives
the largest depth that a class file has to declare.

**Depth at labels.** A jump expects its depth at the target; placing the label checks that the
code before it agrees. The entry of a handler has exactly one slot, the exception.

**Unreachable code.** After a jump, a return, a throw or a switch the next instruction can be
reached only through a label. A label placed there that nothing has jumped to yet begins code of
unknown depth. While the depth is not known, nothing is expected of other labels and no underflow
is reported; the next label with an expected depth makes it known again.

**Failure.** A call that fails leaves the builder as far as it had come, so `Build` keeps the
state next to the fault. No call that fails changes `code`.
-/

namespace BytecodeGuard

/-- Code under construction. -/
structure Builder where
  /-- The instructions so far. -/
  code : Array Instruction := #[]
  /-- The current stack depth. It is negative only after a reported underflow. A depth of 32 bits
  differs from it only after millions of failing calls that were ignored. -/
  depth : Int := 0
  /-- The largest depth that an instruction left behind or that was set. -/
  maxDepth : Nat := 0
  /-- The depth expected at labels. The first entry of a label counts. -/
  labelDepths : List (Label × Int) := []
  /-- The labels that are placed. -/
  placed : List Label := []
  /-- The labels at which handlers begin. -/
  handlers : List Label := []
  /-- The next instruction can be reached only through a label. -/
  unreachable : Bool := false
  /-- The current depth is a guess. -/
  depthUnknown : Bool := false
  /-- The number of the next fresh label. -/
  nextLabel : Nat := 0

/-- An action on a builder. It may fail, and leaves a builder in either case. -/
abbrev Build := EStateM Fault Builder

namespace Builder

/-- An empty builder whose fresh labels start at the given number. -/
def ofLabelBase (base : Nat) : Builder := { nextLabel := base }

/-- Whether the current depth is that of every execution that arrives here. -/
def tracked (b : Builder) : Bool := !b.unreachable && !b.depthUnknown

/-- The depth expected at a label. -/
def expected? (b : Builder) (l : Label) : Option Int := b.labelDepths.lookup l

/-- Expects a depth at a label, whatever was expected before. -/
def expect (b : Builder) (l : Label) (depth : Int) : Builder :=
  { b with labelDepths := (l, depth) :: b.labelDepths }

theorem expected?_expect (b : Builder) (l l' : Label) (depth : Int) :
    (b.expect l depth).expected? l' = if l' = l then some depth else b.expected? l' := by
  simp only [expected?, expect, List.lookup_cons]
  split <;> simp_all

/-- Appends an instruction. -/
def append (b : Builder) (i : Instruction) : Builder := { b with code := b.code.push i }

/-- Continues at a known depth. -/
def enterAt (b : Builder) (depth : Nat) : Builder :=
  { b with
    depth, maxDepth := max b.maxDepth depth, unreachable := false, depthUnknown := false }

/-- Makes a label the entry of a handler. -/
def addHandler (b : Builder) (l : Label) : Builder :=
  { b with handlers := l :: b.handlers }.expect l 1

/-- The largest depth that a class file can declare. -/
def depthLimit : Nat := 65535

/-- Pops and pushes slots. Where the depth is not known it stops at zero. -/
def shift (pops pushes : Nat) : Build Unit := fun b =>
  let depth := b.depth + pushes - pops
  if depth < 0 ∧ b.tracked then
    .error (.stackUnderflow depth pops pushes) { b with depth }
  else
    let depth := max depth 0
    if depth ≤ depthLimit then
      .ok () { b with depth, maxDepth := max b.maxDepth depth.toNat }
    else .error .stackOverflow { b with depth }

/-- Jumps to a label at the current depth plus some slots that only the target sees. -/
def meet (extra : Nat) (l : Label) : Build Unit := fun b =>
  let depth := b.depth + extra
  if b.tracked then
    match b.expected? l with
    | none => .ok () (b.expect l depth)
    | some expected =>
      if depth = expected then .ok () b
      else .error (.jumpDepth l expected depth) { b with depth }
  else .ok () b

/-- The slots that only the target of a jump sees: the return address of a subroutine. -/
def jumpExtra (op : Opcode) : Nat := if op.flow = .subroutine then 1 else 0

/-- Appends an executable instruction. -/
def emit (op : Opcode) (operand : Operand) : Build Unit := do
  if operand.kind ≠ op.operandKind then throw (.operandMismatch op operand)
  let effect ← match stackEffect op operand with
    | .ok effect => pure effect
    | .error fault => throw fault
  shift effect.pops 0
  operand.targets.forM (meet (jumpExtra op))
  shift 0 effect.pushes
  modify fun b =>
    { b.append (.exec op operand) with unreachable := b.unreachable || op.endsFlow }

/-- Places a label, after which the code is reachable. -/
def label (l : Label) : Build Unit := fun b =>
  let arrive (b : Builder) : EStateM.Result Fault Builder Unit :=
    .ok () { b.append (.label l) with unreachable := false }
  if l ∈ b.placed then .error (.duplicateLabel l) b
  else
    let b := { b with placed := l :: b.placed }
    if l ∈ b.handlers then arrive (b.enterAt 1)
    else match b.expected? l with
      | some expected =>
        if ¬ b.tracked then arrive { b with depth := expected, depthUnknown := false }
        else if b.depth = expected then arrive b
        else .error (.labelDepth l expected b.depth) b
      | none =>
        if b.unreachable then arrive { b with depth := 0, depthUnknown := true }
        else if b.depthUnknown then arrive b
        else arrive (b.expect l b.depth)

/-- Appends a line number. -/
def line (number : UInt32) (start : Label) : Build Unit :=
  modify fun b => b.append (.line number start)

/-- Declares a handler and what it protects. -/
def region (r : HandlerRegion) : Build Unit :=
  modify fun b => (b.addHandler r.handler).append (.region r)

/-- Appends any instruction. -/
def instruction : Instruction → Build Unit
  | .exec op operand => emit op operand
  | .label l => label l
  | .line number start => line number start
  | .region r => region r

/-- A label that was not handed out before. -/
def newLabel : Build Label := fun b =>
  if b.nextLabel < UInt32.size then
    .ok ⟨UInt32.ofNat b.nextLabel⟩ { b with nextLabel := b.nextLabel + 1 }
  else .error (.labelsExhausted (b.nextLabel - 1)) b

/-- Appends the instructions in order. -/
def replay (code : List Instruction) : Build Unit := code.forM instruction

end Builder

/-- The largest stack depth of code that is built from nothing. -/
def peakDepth (code : List Instruction) : Except Fault Nat :=
  match Builder.replay code {} with
  | .ok _ b => .ok b.maxDepth
  | .error fault _ => .error fault

end BytecodeGuard
