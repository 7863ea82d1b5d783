import BytecodeGuard.Rule.Definition

/-!
# The native stub

Native methods run code that cannot be guarded, so a native method loses its flag and gets a body
that throws. One class is exempt: its native methods stay, except that the one which registers
them becomes a method that does nothing.
-/

namespace BytecodeGuard.NativeStub

/-- The name of the rule. -/
def name : String := "NativeStubRule"

/-- What the thrown object says. -/
def deletedMessage : String := "Native method has been deleted"

/-- Whether the member registers the native methods of its class. -/
def isRegistration (m : Member) : Bool := m.name == "registerNatives" && m.signature == "()V"

/-- A body that returns at once. -/
def emptyBody : Builder.Writer Unit := .ofSteps [.returnVoid]

/-- A body that throws. -/
def throwingBody : Builder.Writer Unit := do
  if let some l ← Builder.Writer.perform .newLabel then
    Builder.Writer.ofSteps
      [.label l, .line 0 l, .newObject TypeName.ruleViolation, .dup,
       .loadConstant (.string deletedMessage),
       .invokeSpecial TypeName.ruleViolation TypeName.constructor "(Ljava/lang/String;)V",
       .athrow]

/-- The member with a generated body in place of its native code. -/
def replaceNative (m : Member) (body : Builder.Writer Unit) (remark : String) : Definition where
  member := (m.withAccess (m.access.diff .native)).withWriter body
  notes := .diagnostic .debug (m.qualifiedName ++ ": " ++ remark)

/-- Replaces native code. -/
def definition : DefinitionRule where
  name
  define a m :=
    if !m.isNative then { member := m }
    else if m.className ≠ a.config.nativeOwner then
      replaceNative m throwingBody "native method replaced by throwing stub"
    else if isRegistration m then
      replaceNative m emptyBody "native registration replaced by no-op"
    else { member := m }

end BytecodeGuard.NativeStub
