import CodeBrowser.Geometry.Scalar

/-!
# Points and rectangles

Points stand for positions, sizes and offsets alike.

## Main definitions

* `Point`, with addition and subtraction by coordinate.
* `Rect`: the rectangle between two corners, its border included.
-/
namespace CodeBrowser

/-- A position, a size or an offset. -/
structure Point (α : Type) where
  x : α
  y : α
  deriving DecidableEq, Repr

namespace Point

variable {α : Type} [Scalar α]

instance : Add (Point α) := ⟨fun p q => ⟨p.x + q.x, p.y + q.y⟩⟩

instance : Sub (Point α) := ⟨fun p q => ⟨p.x - q.x, p.y - q.y⟩⟩

/-- The corner from which positions are measured. -/
def origin : Point α := ⟨Scalar.ofNat 0, Scalar.ofNat 0⟩

/-- The point with each coordinate raised to at least 0. -/
def nonneg (p : Point α) : Point α :=
  ⟨Scalar.larger p.x (Scalar.ofNat 0), Scalar.larger p.y (Scalar.ofNat 0)⟩

/-- The point with each coordinate brought between 0 and that of `high`. -/
def clampTo (p high : Point α) : Point α :=
  ⟨Scalar.clamp p.x (Scalar.ofNat 0) high.x, Scalar.clamp p.y (Scalar.ofNat 0) high.y⟩

end Point

/-- The rectangle between two corners. -/
structure Rect (α : Type) where
  min : Point α
  max : Point α
  deriving DecidableEq, Repr

namespace Rect

variable {α : Type} [Scalar α]

/-- The rectangle of a given size at a corner. -/
def ofSize (corner size : Point α) : Rect α := ⟨corner, corner + size⟩

def width (r : Rect α) : α := r.max.x - r.min.x

def height (r : Rect α) : α := r.max.y - r.min.y

def size (r : Rect α) : Point α := r.max - r.min

/-- The rectangle moved by an offset. -/
def translate (r : Rect α) (offset : Point α) : Rect α := ⟨r.min + offset, r.max + offset⟩

/-- Whether a point lies in the rectangle or on its border. -/
def contains (r : Rect α) (p : Point α) : Bool :=
  r.min.x ≤ p.x && p.x ≤ r.max.x && r.min.y ≤ p.y && p.y ≤ r.max.y

end Rect

end CodeBrowser
