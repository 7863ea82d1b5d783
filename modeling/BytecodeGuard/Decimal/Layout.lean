import BytecodeGuard.Decimal.Shortest

/-!
# Floating-point numbers as text

A number is written with the digits of the shortest decimal that reads back. A `NumberLayout`
holds the decisions that are left: whether whole numbers keep a `.0`, and which numbers are
written with an exponent.
-/

namespace BytecodeGuard

/-- How decimals are written. -/
structure NumberLayout where
  /-- Whole numbers end in `.0`. -/
  pointZero : Bool
  /-- Numbers whose leading digit has an exponent outside this range, upper end excluded, are
  written with an exponent. -/
  positional : Option (Int × Int)

namespace NumberLayout

/-- Digits only, however many it takes. -/
def plain : NumberLayout where
  pointZero := false
  positional := none

/-- Floating-point numbers look different from integers, and exponents keep them short. -/
def detailed : NumberLayout where
  pointZero := true
  positional := some (-4, 16)

/-- Text of `n` zeros. -/
def zeros (n : Nat) : String := String.ofList (List.replicate n '0')

/-- The decimal point in its place. -/
def positionalText (layout : NumberLayout) (d : Decimal) : String :=
  let digits := Nat.toDigits 10 d.digits
  let whole : Int := digits.length + d.exponent
  if 0 ≤ d.exponent then
    String.ofList digits ++ zeros d.exponent.toNat ++ (if layout.pointZero then ".0" else "")
  else if 0 < whole then
    String.ofList (digits.take whole.toNat) ++ "." ++ String.ofList (digits.drop whole.toNat)
  else "0." ++ zeros (-whole).toNat ++ String.ofList digits

/-- One digit before the point, and an exponent. -/
def exponentText (d : Decimal) : String :=
  let digits := Nat.toDigits 10 d.digits
  let leading : Int := digits.length - 1 + d.exponent
  let rest := digits.drop 1
  String.ofList (digits.take 1) ++ (if rest.isEmpty then "" else "." ++ String.ofList rest)
    ++ "e" ++ toString leading

/-- The text of a decimal. -/
def decimalText (layout : NumberLayout) (d : Decimal) : String :=
  let leading : Int := (Nat.toDigits 10 d.digits).length - 1 + d.exponent
  match layout.positional with
  | none => layout.positionalText d
  | some (low, high) =>
    if low ≤ leading ∧ leading < high then layout.positionalText d else exponentText d

/-- The text of a floating-point number. `NaN` has no sign. -/
def text {f : FloatFormat} (layout : NumberLayout) (x : Ieee f) : String :=
  if x.isNaN then "NaN"
  else
    let size := if x.isSpecial then "inf" else layout.decimalText x.magnitude.shortest
    if x.isNegative then "-" ++ size else size

end NumberLayout

end BytecodeGuard
