import CodeBrowser.Geometry.Rect
import Mathlib

/-!
# Subtracting zero

Subtracting zero leaves every number of single precision as it is, whether or not it is finite: the
number is unpacked into its sign, exponent and mantissa, nothing is done to these, and they are
packed again. That this leads back to the number is a lemma that no part of the library brings along
but the whole.

## Main results

* `float32_sub_zero`, `Point.sub_origin`: a number, or a point, less zero.
-/

namespace CodeBrowser

open Float.Model (Format UnpackedFloat)

theorem unpacked_sub_zero (format : Format) (x : UnpackedFloat) :
    x.sub format (.zero .positive) = x := by
  cases x with
  | zero sign => cases sign <;> rfl
  | _ => rfl

/-- A number is valid, so nothing is lost when it is unpacked. -/
theorem float32_pack_unpack (x : Float32) : Float32.ofModel (.pack x.toModel.unpack) = x := by
  obtain ⟨⟨bits, hvalid⟩⟩ := x
  have hpack := UnpackedFloat.pack_unpack_of_valid hvalid
  simp only [Float32.Model.pack, Float32.Model.unpack, hpack]

/-- Every number of single precision, whether or not it is finite, is left as it is. -/
theorem float32_sub_zero (x : Float32) : x - Scalar.ofNat 0 = x := by
  have hzero : (Scalar.ofNat 0 : Float32).toModel.unpack = .zero .positive := rfl
  show Float32.ofModel
    (.pack (.sub _ x.toModel.unpack (Scalar.ofNat 0 : Float32).toModel.unpack)) = x
  rw [hzero, unpacked_sub_zero, float32_pack_unpack]

theorem Point.sub_origin (p : Point Float32) : p - .origin = p :=
  congrArg₂ Point.mk (float32_sub_zero p.x) (float32_sub_zero p.y)

end CodeBrowser
