/-!
# Whole numbers and precision

How a number is brought to a whole one, and how it is carried over from one precision to the other.
Both work on the sign, the mantissa and the exponent of the number.

## Main definitions

* `Direction`: the ways to choose between two neighbouring whole numbers.
* `Float32.toWhole`, `Float.toWhole`: the whole number next to a number.
* `Float32.widen`, `Float.narrow`: the same number in the other precision, or the nearest to it.
-/
namespace CodeBrowser

open Float.Model (Format UnpackedFloat)

/-- The ways to choose between two neighbouring whole numbers. -/
inductive Direction where
  | down
  | up
  /-- The nearest one; of two that are equally near, the one further from zero. -/
  | nearest
  deriving DecidableEq, Repr

namespace Direction

/-- Whether a magnitude grows on its way to a whole number which it is `rest` parts above, where a
whole has `parts` of them. -/
def grows (direction : Direction) (sign : UnpackedFloat.Sign) (rest parts : Nat) : Bool :=
  match direction, sign with
  | .down, .negative => rest != 0
  | .up, .positive => rest != 0
  | .nearest, _ => parts ≤ 2 * rest
  | _, _ => false

/-- The whole number next to a number. A zero keeps the sign of the number. -/
def apply (direction : Direction) (format : Format) : UnpackedFloat → UnpackedFloat
  | .finite sign mantissa exponent positive =>
    if 0 ≤ exponent then .finite sign mantissa exponent positive
    else
      let parts := 1 <<< exponent.natAbs
      let whole := mantissa / parts
      let whole := if direction.grows sign (mantissa % parts) parts then whole + 1 else whole
      if whole = 0 then .zero sign else .round format sign whole 0
  | x => x

end Direction

/-- A number in some precision. -/
def inPrecision (format : Format) : UnpackedFloat → UnpackedFloat
  | .finite sign mantissa exponent _ => .round format sign mantissa exponent
  | x => x

/-- The whole number next to a number. -/
def Float32.toWhole (direction : Direction) (x : Float32) : Float32 :=
  ⟨.pack (direction.apply .binary32 x.toModel.unpack)⟩

/-- The whole number next to a number. -/
def Float.toWhole (direction : Direction) (x : Float) : Float :=
  ⟨.pack (direction.apply .binary64 x.toModel.unpack)⟩

/-- The same number in double precision. -/
def Float32.widen (x : Float32) : Float := ⟨.pack (inPrecision .binary64 x.toModel.unpack)⟩

/-- The nearest number in single precision. -/
def Float.narrow (x : Float) : Float32 := ⟨.pack (inPrecision .binary32 x.toModel.unpack)⟩

end CodeBrowser
