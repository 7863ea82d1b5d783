/-!
# Binary floating-point numbers

A floating-point number is kept as its bits, so that `NaN` and the sign of zero are ordinary
data. `Ieee.sameNumber` is equality of the numbers: `NaN` differs from itself and the two zeros
are equal. `Ieee.magnitude` decodes a finite number into a significand and a power of two.
-/

namespace BytecodeGuard

/-- The widths of the two fields that follow the sign bit. -/
structure FloatFormat where
  exponentBits : Nat
  fractionBits : Nat

namespace FloatFormat

/-- Four bytes. -/
def single : FloatFormat := ⟨8, 23⟩

/-- Eight bytes. -/
def double : FloatFormat := ⟨11, 52⟩

/-- The number of bits. -/
def width (f : FloatFormat) : Nat := 1 + f.exponentBits + f.fractionBits

end FloatFormat

/-- A floating-point number of the given format. -/
structure Ieee (f : FloatFormat) where
  bits : BitVec f.width
deriving DecidableEq

/-- The size of a finite number: `significand * 2 ^ exponent`. -/
structure Magnitude where
  significand : Nat
  exponent : Int
  /-- The gap to the next smaller number is half the gap to the next larger one. -/
  narrowBelow : Bool

namespace Ieee

variable {f : FloatFormat}

/-- The lowest field. -/
def fraction (x : Ieee f) : Nat := x.bits.toNat % Nat.pow 2 f.fractionBits

/-- The biased exponent. -/
def biased (x : Ieee f) : Nat :=
  x.bits.toNat / Nat.pow 2 f.fractionBits % Nat.pow 2 f.exponentBits

/-- Whether the sign bit is set. -/
def isNegative (x : Ieee f) : Bool := x.bits.msb

/-- Whether the exponent field is reserved for infinities and `NaN`. -/
def isSpecial (x : Ieee f) : Bool := x.biased == Nat.pow 2 f.exponentBits - 1

/-- Whether the bits stand for no number. -/
def isNaN (x : Ieee f) : Bool := x.isSpecial && x.fraction != 0

/-- Whether the number is zero of either sign. -/
def isZero (x : Ieee f) : Bool := x.biased == 0 && x.fraction == 0

/-- Whether two values are equal as numbers. -/
def sameNumber (x y : Ieee f) : Bool :=
  !x.isNaN && !y.isNaN && (x == y || (x.isZero && y.isZero))

/-- The size of a finite number. The leading bit is implied unless the biased exponent is zero. -/
def magnitude (x : Ieee f) : Magnitude :=
  let offset : Int := Nat.pow 2 (f.exponentBits - 1) - 1 + f.fractionBits
  if x.biased = 0 then ⟨x.fraction, 1 - offset, false⟩
  else ⟨Nat.pow 2 f.fractionBits + x.fraction, x.biased - offset, x.fraction == 0 && x.biased > 1⟩

end Ieee

end BytecodeGuard
