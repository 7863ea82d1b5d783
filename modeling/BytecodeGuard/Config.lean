import BytecodeGuard.Message.Basic
import BytecodeGuard.TypeName

/-!
# Configuration

The names that inserted code and messages depend on, and what is kept of the messages.
-/

namespace BytecodeGuard

/-- The configuration of a pipeline. -/
structure Config where
  /-- Less severe messages are dropped. -/
  minimumSeverity : Severity := .warning
  /-- The class with the runtime checks that inserted code calls. -/
  checkOwner : String := "sandbox/RuntimeCostAccounter"
  /-- The package of sandboxed classes, which display names leave out. -/
  sandboxPackage : String := "sandbox/"
  /-- The only class that keeps its native methods. -/
  nativeOwner : String := TypeName.reflectArray
  /-- Whether a caller may transform the methods of a class at the same time. Then the order of the
  messages about different methods means nothing. It is for callers only: no transformation here
  depends on it. -/
  parallel : Bool := true
deriving DecidableEq

namespace Config

/-- Callers are to transform one method after the other, as `Pipeline.transformClass` does with
every configuration. The first fault is then that of the first method that has one. -/
def sequential : Config := { parallel := false }

/-- Every message is kept. -/
def verbose : Config := { minimumSeverity := .trace }

/-- Whether messages of the given severity are kept. -/
def records (c : Config) (s : Severity) : Bool := c.minimumSeverity ≤ s

/-- The display form of a class name or array type. -/
def display (c : Config) (name : String) : String := TypeName.display c.sandboxPackage name

end Config

end BytecodeGuard
