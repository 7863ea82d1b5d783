import BytecodeGuard.Text.Quoted

/-!
# Access flags

The access and property flags of a method. Twelve bits have names. Bits without a name are kept
by every operation except those that say otherwise.
-/

namespace BytecodeGuard

/-- The access and property flags of a method. -/
structure Access where
  bits : UInt16
deriving DecidableEq, Inhabited

namespace Access

/-- The named flags in ascending order. -/
def named : List (String × UInt16) :=
  [("PUBLIC", 0x0001), ("PRIVATE", 0x0002), ("PROTECTED", 0x0004), ("STATIC", 0x0008),
   ("FINAL", 0x0010), ("SYNCHRONIZED", 0x0020), ("BRIDGE", 0x0040), ("VARARGS", 0x0080),
   ("NATIVE", 0x0100), ("ABSTRACT", 0x0400), ("STRICT", 0x0800), ("SYNTHETIC", 0x1000)]

/-- Belongs to the class rather than to an object. -/
def static : Access := ⟨0x0008⟩

/-- Implemented outside the virtual machine. -/
def native : Access := ⟨0x0100⟩

/-- Without an implementation. -/
def abstract : Access := ⟨0x0400⟩

/-- The three flags that say who may call the method. -/
def visibilityMask : Access := ⟨0x0007⟩

/-- Every named flag. -/
def full : Access := ⟨0x1DFF⟩

/-- The flags of either. -/
def union (a b : Access) : Access := ⟨a.bits ||| b.bits⟩

/-- The flags of both. -/
def inter (a b : Access) : Access := ⟨a.bits &&& b.bits⟩

/-- The flags of the first that the second lacks. -/
def diff (a b : Access) : Access := ⟨a.bits &&& ~~~b.bits⟩

/-- The flags of exactly one. -/
def symmDiff (a b : Access) : Access := ⟨a.bits ^^^ b.bits⟩

/-- The named flags only. -/
def truncate (a : Access) : Access := a.inter full

/-- The named flags that are not set. -/
def complement (a : Access) : Access := full.diff a

/-- Whether no flag is set. -/
def isEmpty (a : Access) : Bool := a.bits == 0

/-- Whether all flags of the second are set in the first. -/
def contains (a b : Access) : Bool := a.inter b == b

/-- Whether some flag is set in both. -/
def intersects (a b : Access) : Bool := !(a.inter b).isEmpty

/-- Whether every named flag is set. -/
def isAll (a : Access) : Bool := a.contains full

/-- Whether every flag that is set has a name. -/
def isKnown (a : Access) : Bool := full.contains a

/-- The names of the flags that are set. -/
def names (a : Access) : List String :=
  named.filterMap fun (name, bit) => if a.contains ⟨bit⟩ then some name else none

/-- The flags that say who may call the method. -/
def visibility (a : Access) : Access := a.inter visibilityMask

/-- Whether a method with these flags has code. -/
def hasCode (a : Access) : Bool := !a.intersects (native.union abstract)

/-- The text of the flags: the names, then the nameless bits as one number. -/
def text (a : Access) : String :=
  let nameless := a.diff full
  let number := if nameless.isEmpty && !a.isEmpty then []
    else ["0x" ++ Text.hex nameless.bits.toNat]
  "AccessFlags(" ++ " | ".intercalate (a.names ++ number) ++ ")"

end Access

end BytecodeGuard
