/-!
# The shortest decimal of a binary number

Among the decimals that round to a given single-precision number there are some with the fewest
digits; of these the closest to the number is its shortest decimal, and of two equally close ones
the one with an even last digit.

## Main definitions

* `Dyadic`: a number `m * 2 ^ q`, with the interval of reals that round to it.
* `Dyadic.shortest`: its shortest decimal.
-/
namespace CodeBrowser

/-- The number `digits * 10 ^ exponent`. -/
structure Decimal where
  digits : Nat
  exponent : Int
  deriving DecidableEq, Repr

/-- The positive number `mantissa * 2 ^ exponent` of a binary format. -/
structure Dyadic where
  mantissa : Nat
  exponent : Int
  /-- Whether the next number below is only half as far away as the next one above. -/
  narrowBelow : Bool
  deriving DecidableEq, Repr

namespace Dyadic

/-- The magnitude that the bits of a finite single-precision number stand for. -/
def ofBits (bits : UInt32) : Dyadic :=
  let exponent : Nat := bits.toNat / 0x800000 % 0x100
  let fraction : Nat := bits.toNat % 0x800000
  if exponent = 0 then ⟨fraction, -149, false⟩
  else ⟨0x800000 + fraction, (exponent : Int) - 150, fraction == 0 && 1 < exponent⟩

/-- `a * 10 ^ i` compared with `b * 2 ^ j`. -/
def compareScaled (a : Nat) (i : Int) (b : Nat) (j : Int) : Ordering :=
  let left := a * Nat.pow 10 i.toNat * Nat.pow 2 (-j).toNat
  let right := b * Nat.pow 2 j.toNat * Nat.pow 10 (-i).toNat
  compareOfLessAndEq left right

/-- Whether a decimal rounds to the number: it lies no farther than half the gap to each neighbour,
the ends counting for an even mantissa. -/
def readsBack (x : Dyadic) (d : Decimal) : Bool :=
  let below := if x.narrowBelow then 4 * x.mantissa - 1 else 4 * x.mantissa - 2
  let above := 4 * x.mantissa + 2
  let isEnd := x.mantissa % 2 == 0
  let low := compareScaled d.digits d.exponent below (x.exponent - 2)
  let high := compareScaled d.digits d.exponent above (x.exponent - 2)
  (low == .gt || (isEnd && low == .eq)) && (high == .lt || (isEnd && high == .eq))

/-- The greatest decimal at or below the number on the grid of multiples of `10 ^ k`. -/
def floorAt (x : Dyadic) (k : Int) : Decimal :=
  let top := x.mantissa * Nat.pow 2 x.exponent.toNat * Nat.pow 10 (-k).toNat
  let bottom := Nat.pow 2 (-x.exponent).toNat * Nat.pow 10 k.toNat
  ⟨top / bottom, k⟩

/-- The one of two neighbouring decimals of a grid that is closer to the number; if both are as
close, the even one. -/
def closer (x : Dyadic) (d e : Decimal) : Decimal :=
  match compareScaled (d.digits + e.digits) d.exponent (2 * x.mantissa) x.exponent with
  | .gt => d
  | .lt => e
  | .eq => if d.digits % 2 = 0 then d else e

/-- The decimal of the grid that rounds to the number and is closest to it, if there is one. -/
def onGrid? (x : Dyadic) (k : Int) : Option Decimal :=
  let d := x.floorAt k
  let e : Decimal := ⟨d.digits + 1, k⟩
  match x.readsBack d, x.readsBack e with
  | true, true => some (x.closer d e)
  | true, false => some d
  | false, true => some e
  | false, false => none

/-- The least `k` from the list with the number below `10 ^ k`. -/
def scale? (x : Dyadic) (candidates : List Int) : Option Int :=
  candidates.find? fun k => compareScaled 1 k x.mantissa x.exponent == .gt

/-- The decimal without trailing zeros, at most `fuel` of them. -/
def stripZeros : (fuel : Nat) → Decimal → Decimal
  | 0, d => d
  | fuel + 1, d =>
    if d.digits ≠ 0 ∧ d.digits % 10 = 0 then stripZeros fuel ⟨d.digits / 10, d.exponent + 1⟩ else d

/-- The scales that single-precision numbers can have. -/
def scales : List Int := (List.range 86).map fun (i : Nat) => (i : Int) - 45

/-- The shortest decimal of a positive number. Nine digits are enough; were they not, the exact
value would be given. -/
def shortest (x : Dyadic) : Decimal :=
  let scale := (x.scale? scales).getD 40
  let grids : List Int := (List.range 9).map fun (n : Nat) => scale - (n : Int) - 1
  match grids.findSome? x.onGrid? with
  | some d => stripZeros 9 d
  | none =>
    ⟨x.mantissa * Nat.pow 2 x.exponent.toNat * Nat.pow 5 (-x.exponent).toNat, min x.exponent 0⟩

end Dyadic

end CodeBrowser
