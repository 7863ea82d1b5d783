import BytecodeGuard.Builder.Step
import BytecodeGuard.Member.Access

/-!
# Methods

A `Member` is a declared method: where it is declared, how it is called, its flags, and the
writers that produce its generated body. The writers share one builder, in order, so a later
writer continues where an earlier one stopped.
-/

namespace BytecodeGuard

/-- Code with the stack depth that it needs. -/
structure BuiltCode where
  code : List Instruction
  maxStack : Nat
deriving DecidableEq

/-- The code of a builder. -/
def Builder.finish (b : Builder) : BuiltCode := ⟨b.code.toList, b.maxDepth⟩

/-- A declared method. -/
structure Member where
  /-- The class that declares the method, with `/` between the parts of its name. -/
  className : String
  name : String
  /-- The descriptor of the method. -/
  signature : String
  access : Access
  /-- The writers of the generated body. -/
  writers : List (Builder.Writer Unit) := []

namespace Member

/-- The member with other flags. -/
def withAccess (m : Member) (access : Access) : Member := { m with access }

/-- The member with one more writer, after the others. -/
def withWriter (m : Member) (w : Builder.Writer Unit) : Member :=
  { m with writers := m.writers ++ [w] }

/-- Whether the method is implemented outside the virtual machine. -/
def isNative (m : Member) : Bool := m.access.contains .native

/-- Whether the method belongs to the class rather than to an object. -/
def isStatic (m : Member) : Bool := m.access.contains .static

/-- The class, the name and the descriptor. -/
def qualifiedName (m : Member) : String := m.className ++ "." ++ m.name ++ m.signature

/-- The generated body, if the member has writers. The first fault of a writer ends it. -/
def writeBody (m : Member) : Except Fault (Option BuiltCode) :=
  if m.writers.isEmpty then .ok none
  else
    match (m.writers.forM Builder.Writer.run : Build Unit) {} with
    | .ok _ b => .ok (some b.finish)
    | .error fault _ => .error fault

/-- The parts of the member as text. Of the writers only the number is shown. -/
def detail (m : Member) : String :=
  recordDetail "Member" [("class_name", Text.quoted m.className),
    ("member_name", Text.quoted m.name), ("signature", Text.quoted m.signature),
    ("access", m.access.text), ("body_writers", toString m.writers.length)]

end Member

end BytecodeGuard
