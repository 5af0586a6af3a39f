import CodeBrowser.Geometry.Rounding

/-!
# Numbers of the screen

Positions and sizes are computed over any type of numbers with the operations of `Scalar`. The
program runs on `Float32`, where every operation rounds; over `Rat` the same definitions are exact.

## Main definitions

* `Scalar`: the operations that geometry needs.
* `Scalar.larger`, `Scalar.smaller`, `Scalar.clamp`: maximum, minimum and clamping, which also
  answer where an argument is not a number.
-/
namespace CodeBrowser

/-- The numbers that positions and sizes are measured in. -/
class Scalar (α : Type) extends Add α, Sub α, Mul α, Div α, LT α, LE α where
  /-- The order can be decided. -/
  decLT : DecidableLT α
  decLE : DecidableLE α
  /-- The number nearest to a natural number. -/
  ofNat : Nat → α
  /-- The greatest whole number that is not above. -/
  floor : α → α
  /-- The least whole number that is not below. -/
  ceil : α → α
  /-- The natural number closest to the whole part; 0 for what is not a number. -/
  toNat : α → Nat
  /-- The integer closest to the whole part; 0 for what is not a number. -/
  toInt : α → Int

namespace Scalar

variable {α : Type} [Scalar α]

instance : DecidableLT α := decLT

instance : DecidableLE α := decLE

/-- The larger of two numbers; if one of them is not a number, the other. -/
def larger (x y : α) : α := if x < y then y else if x ≤ x then x else y

/-- The smaller of two numbers; if one of them is not a number, the other. -/
def smaller (x y : α) : α := if y < x then y else if x ≤ x then x else y

/-- The number of the interval from `low` to `high` that is closest to `x`. -/
def clamp (x low high : α) : α := if x < low then low else if high < x then high else x

end Scalar

/-- Single precision. Conversions to whole numbers stop at the ends of the 64-bit range. -/
instance : Scalar Float32 where
  decLT := inferInstance
  decLE := inferInstance
  ofNat := Float32.ofNat
  floor := Float32.toWhole .down
  ceil := Float32.toWhole .up
  toNat x := x.toUInt64.toNat
  toInt x := x.toModel.toInt64.toInt

/-- Exact arithmetic. -/
instance : Scalar Rat where
  decLT := inferInstance
  decLE := inferInstance
  ofNat n := n
  floor x := x.floor
  ceil x := x.ceil
  toNat x := x.floor.toNat
  toInt x := x.floor

end CodeBrowser
