import CodeBrowser.Geometry.Scalar
import Mathlib.Order.Compare
import Mathlib.Data.Rat.Floor

/-!
# The order of screen numbers

Screen numbers are compared all over the layout. Exact numbers form a line. Single-precision
numbers do too, except for the one value that is not a number, which compares with nothing, not
even with itself. `LawfulScalar` holds what both have in common, and the facts about painting
that rest on comparisons alone are proved from it, rounding or no rounding.

The order of single precision is read off the triples of `Float32.place?`: the kind of the number,
its exponent and its mantissa, negated below zero.

## Main definitions

* `Scalar.IsNumber`: comparable, if only with itself.
* `LawfulScalar`: the laws of comparison.
* `Float32.place?`: where a number stands in the order.

## Main results

* `LawfulScalar Rat`, `LawfulScalar Float32`: the laws hold of exact and of rounded numbers.
* `Scalar.not_lt_iff_le`, `Scalar.not_le_iff_lt`: a comparison of numbers that fails holds the
  other way round.
-/

namespace CodeBrowser

/-- A screen number that can be compared with itself. -/
def Scalar.IsNumber {α : Type} [Scalar α] (x : α) : Prop := x ≤ x

/-- Screen numbers whose order is a line, apart from values that are not numbers. -/
class LawfulScalar (α : Type) [Scalar α] : Prop where
  isNumber_of_le {x y : α} : x ≤ y → Scalar.IsNumber x ∧ Scalar.IsNumber y
  lt_of_lt_of_le {x y z : α} : x < y → y ≤ z → x < z
  not_le_of_lt {x y : α} : x < y → ¬ y ≤ x
  lt_of_not_le {x y : α} : Scalar.IsNumber x → Scalar.IsNumber y → ¬ x ≤ y → y < x

namespace Scalar

variable {α : Type} [Scalar α] [LawfulScalar α] {x y : α}

theorem not_lt_iff_le (hx : IsNumber x) (hy : IsNumber y) : ¬ y < x ↔ x ≤ y :=
  ⟨fun h => by_contra fun hle => h (LawfulScalar.lt_of_not_le hx hy hle),
    fun hle hlt => LawfulScalar.not_le_of_lt hlt hle⟩

theorem not_le_iff_lt (hx : IsNumber x) (hy : IsNumber y) : ¬ x ≤ y ↔ y < x :=
  ⟨LawfulScalar.lt_of_not_le hx hy, LawfulScalar.not_le_of_lt⟩

end Scalar

/-! ### Exact numbers -/

theorem Scalar.ofNat_rat (n : Nat) : (Scalar.ofNat n : Rat) = n := rfl

theorem Scalar.floor_rat (x : Rat) : Scalar.floor x = (x.floor : Rat) := rfl

theorem Scalar.toInt_floor_rat (x : Rat) : Scalar.toInt (Scalar.floor x) = x.floor :=
  Rat.floor_intCast x.floor

theorem Scalar.larger_rat (x y : Rat) : Scalar.larger x y = max x y := by
  unfold Scalar.larger
  split_ifs with hlt hle
  · exact (max_eq_right_of_lt hlt).symm
  · exact (max_eq_left (not_lt.1 hlt)).symm
  · exact absurd Rat.le_refl hle

theorem Scalar.smaller_rat (x y : Rat) : Scalar.smaller x y = min x y := by
  unfold Scalar.smaller
  split_ifs with hlt hle
  · exact (min_eq_right_of_lt hlt).symm
  · exact (min_eq_left (not_lt.1 hlt)).symm
  · exact absurd Rat.le_refl hle

theorem Scalar.clamp_rat {low high : Rat} (h : low ≤ high) (x : Rat) :
    Scalar.clamp x low high = max low (min x high) := by
  unfold Scalar.clamp
  split_ifs with hlow hhigh
  · exact (max_eq_left ((min_le_left x high).trans hlow.le)).symm
  · rw [min_eq_right_of_lt hhigh, max_eq_right h]
  · rw [min_eq_left (not_lt.1 hhigh), max_eq_right (not_lt.1 hlow)]

instance : LawfulScalar Rat where
  isNumber_of_le {x y} _ := ⟨Rat.le_refl (a := x), Rat.le_refl (a := y)⟩
  lt_of_lt_of_le {x y z} (hxy : (x : Rat) < y) (hyz : (y : Rat) ≤ z) := lt_of_lt_of_le hxy hyz
  not_le_of_lt {x y} (hxy : (x : Rat) < y) := not_le_of_gt hxy
  lt_of_not_le {x y} _ _ (hxy : ¬ (x : Rat) ≤ y) := lt_of_not_ge hxy

/-! ### Single precision -/

namespace Float32

open Float.Model (UnpackedFloat)

/-- Where an unpacked number stands in the order: its kind, from negative infinity up to infinity,
then the exponent and the mantissa. -/
def place? : UnpackedFloat → Option (Int × Int × Int)
  | .notANumber => none
  | .infinity .negative => some (-2, 0, 0)
  | .finite .negative mantissa exponent _ => some (-1, -exponent, -mantissa)
  | .zero _ => some (0, 0, 0)
  | .finite .positive mantissa exponent _ => some (1, exponent, mantissa)
  | .infinity .positive => some (2, 0, 0)

/-- The lexicographic order of places. -/
def Below (p q : Int × Int × Int) : Prop :=
  p.1 < q.1 ∨ p.1 = q.1 ∧ (p.2.1 < q.2.1 ∨ p.2.1 = q.2.1 ∧ p.2.2 < q.2.2)

/-- Of two places, one is below the other unless they are one. -/
theorem below_or_eq_or_below (p q : Int × Int × Int) : Below p q ∨ p = q ∨ Below q p := by
  obtain ⟨k, e, m⟩ := p
  obtain ⟨l, f, n⟩ := q
  simp only [Below, Prod.mk.injEq]
  omega

theorem compare_eq_lt_iff (a b : UnpackedFloat) :
    a.compare b = some .lt ↔ ∃ p q, place? a = some p ∧ place? b = some q ∧ Below p q := by
  rcases a with s | _ | s | ⟨s, m, e, _⟩ <;> rcases b with t | _ | t | ⟨t, n, f, _⟩ <;>
    first | cases s | skip
  all_goals first | cases t | skip
  all_goals dsimp only [UnpackedFloat.compare, place?]
  all_goals simp [Below, Ordering.then_eq_lt, Ordering.then_eq_gt, compare_lt_iff_lt,
    compare_gt_iff_gt]
  all_goals decide

theorem compare_eq_eq_iff (a b : UnpackedFloat) :
    a.compare b = some .eq ↔ ∃ p, place? a = some p ∧ place? b = some p := by
  rcases a with s | _ | s | ⟨s, m, e, _⟩ <;> rcases b with t | _ | t | ⟨t, n, f, _⟩ <;>
    first | cases s | skip
  all_goals first | cases t | skip
  all_goals dsimp only [UnpackedFloat.compare, place?]
  all_goals simp
  all_goals first | decide | omega

/-- One number is less than another if its place is below. -/
theorem lt_iff_below (x y : Float32) : x < y ↔ ∃ p q, place? x.toModel.unpack = some p ∧
    place? y.toModel.unpack = some q ∧ Below p q := by
  rw [← compare_eq_lt_iff]
  change decide (x.toModel < y.toModel) = true ↔ _
  rw [decide_eq_true_iff]
  change (x.toModel.unpack.compare y.toModel.unpack == some Ordering.lt) = true ↔ _
  exact beq_iff_eq

/-- One number is at most another if both have places and that of the second is not below. -/
theorem le_iff_not_below (x y : Float32) : x ≤ y ↔ ∃ p q, place? x.toModel.unpack = some p ∧
    place? y.toModel.unpack = some q ∧ ¬ Below q p := by
  change decide (x.toModel ≤ y.toModel) = true ↔ _
  rw [decide_eq_true_iff]
  change (x.toModel.unpack.compare y.toModel.unpack).any Ordering.isLE = true ↔ _
  have hle (c : Option Ordering) : c.any Ordering.isLE = true ↔ c = some .lt ∨ c = some .eq := by
    rcases c with _ | (_ | _ | _) <;> simp
  rw [hle, compare_eq_lt_iff, compare_eq_eq_iff]
  constructor
  · rintro (⟨p, q, hp, hq, hpq⟩ | ⟨p, hp, hq⟩)
    · refine ⟨p, q, hp, hq, fun hqp => ?_⟩
      simp only [Below] at hpq hqp
      omega
    · exact ⟨p, p, hp, hq, by simp [Below]⟩
  · rintro ⟨p, q, hp, hq, hqp⟩
    rcases below_or_eq_or_below p q with h | rfl | h
    · exact Or.inl ⟨p, q, hp, hq, h⟩
    · exact Or.inr ⟨p, hp, hq⟩
    · exact absurd h hqp

end Float32

instance : LawfulScalar Float32 where
  isNumber_of_le {x y} h := by
    obtain ⟨p, q, hp, hq, -⟩ := (Float32.le_iff_not_below x y).1 h
    exact ⟨(Float32.le_iff_not_below x x).2 ⟨p, p, hp, hp, by simp [Float32.Below]⟩,
      (Float32.le_iff_not_below y y).2 ⟨q, q, hq, hq, by simp [Float32.Below]⟩⟩
  lt_of_lt_of_le {x y z} hxy hyz := by
    obtain ⟨p, q, hp, hq, hpq⟩ := (Float32.lt_iff_below x y).1 hxy
    obtain ⟨q', r, hq', hr, hrq⟩ := (Float32.le_iff_not_below y z).1 hyz
    obtain rfl : q = q' := Option.some.inj (hq.symm.trans hq')
    refine (Float32.lt_iff_below x z).2 ⟨p, r, hp, hr, ?_⟩
    simp only [Float32.Below] at hpq hrq ⊢
    omega
  not_le_of_lt {x y} hxy hyx := by
    obtain ⟨p, q, hp, hq, hpq⟩ := (Float32.lt_iff_below x y).1 hxy
    obtain ⟨q', p', hq', hp', hpq'⟩ := (Float32.le_iff_not_below y x).1 hyx
    obtain rfl : p = p' := Option.some.inj (hp.symm.trans hp')
    obtain rfl : q = q' := Option.some.inj (hq.symm.trans hq')
    exact hpq' hpq
  lt_of_not_le {x y} hx hy hxy := by
    obtain ⟨p, -, hp, -⟩ := (Float32.le_iff_not_below x x).1 hx
    obtain ⟨q, -, hq, -⟩ := (Float32.le_iff_not_below y y).1 hy
    refine (Float32.lt_iff_below y x).2 ⟨q, p, hq, hp, by_contra fun hqp => hxy ?_⟩
    exact (Float32.le_iff_not_below x y).2 ⟨p, q, hp, hq, hqp⟩

end CodeBrowser
