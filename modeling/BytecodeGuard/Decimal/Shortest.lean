import BytecodeGuard.Decimal.Ieee

/-!
# The shortest decimal that reads back

Every decimal in the interval around a floating-point number reads back as that number. The
interval ends half-way to the two neighbours and contains its ends exactly when the significand
is even. `Magnitude.shortest` is the decimal of the fewest digits in the interval, and among
those the nearest to the number.

The search goes over the grids of the multiples of `10 ^ g`, coarse ones first. If any point of
a grid lies in the interval, then one of the two neighbours of the number on that grid does, so
two tests a grid are enough. All comparisons are exact, between natural numbers.
-/

namespace BytecodeGuard

/-- The number `digits * 10 ^ exponent`. -/
structure Decimal where
  digits : Nat
  exponent : Int
deriving DecidableEq, Repr

namespace Magnitude

/-- The grid of the multiples of `10 ^ g`, scaled to naturals: the number with a significand of
`x / 4` is `scaled x / unit` steps of the grid. -/
def unit (v : Magnitude) (g : Int) : Nat :=
  Nat.pow 2 (2 - v.exponent).toNat * Nat.pow 10 g.toNat

@[inherit_doc unit]
def scaled (v : Magnitude) (g : Int) (x : Nat) : Nat :=
  x * Nat.pow 2 (v.exponent - 2).toNat * Nat.pow 10 (-g).toNat

/-- Whether `d * 10 ^ g` reads back. -/
def readsBack (v : Magnitude) (g : Int) (d : Nat) : Bool :=
  let low := v.scaled g (if v.narrowBelow then 4 * v.significand - 1 else 4 * v.significand - 2)
  let high := v.scaled g (4 * v.significand + 2)
  let point := d * v.unit g
  if v.significand % 2 = 0 then low ≤ point && point ≤ high else low < point && point < high

/-- The nearest neighbour on the grid that reads back. A tie goes up. -/
def onGrid? (v : Magnitude) (g : Int) : Option Decimal :=
  let value := v.scaled g (4 * v.significand)
  let below := value / v.unit g
  let above := below + 1
  match v.readsBack g below, v.readsBack g above with
  | true, true => some ⟨if 2 * value < (below + above) * v.unit g then below else above, g⟩
  | true, false => some ⟨below, g⟩
  | false, true => some ⟨above, g⟩
  | false, false => none

/-- A grid whose first positive multiple is not below the number. -/
def coarsest (v : Magnitude) : Int :=
  let num := v.significand * Nat.pow 2 v.exponent.toNat
  let den := Nat.pow 2 (-v.exponent).toNat
  if den ≤ num then (Nat.toDigits 10 (num / den)).length
  else 1 - ((Nat.toDigits 10 (den / num)).length : Int)

/-- All digits of the number. -/
def exact (v : Magnitude) : Decimal :=
  ⟨v.significand * Nat.pow 2 v.exponent.toNat * Nat.pow 5 (-v.exponent).toNat, min v.exponent 0⟩

/-- The decimal of the fewest digits that reads back. Seventeen digits are enough for eight
bytes; a number for which they were not would be written in full. -/
def shortest (v : Magnitude) : Decimal :=
  if v.significand = 0 then ⟨0, 0⟩
  else ((List.range 18).findSome? fun (n : Nat) => v.onGrid? (v.coarsest - n)).getD v.exact

end Magnitude

end BytecodeGuard
