import CodeBrowser.Geometry.Rect

/-!
# Margins

## Main definitions

* `Margins`: the blank space around painted content.
-/
namespace CodeBrowser

/-- The blank space around painted content, in points. -/
structure Margins (α : Type) where
  left : α
  top : α
  right : α
  bottom : α
  deriving DecidableEq, Repr

namespace Margins

variable {α : Type} [Scalar α]

/-- Four points on every side. -/
def standard : Margins α :=
  ⟨Scalar.ofNat 4, Scalar.ofNat 4, Scalar.ofNat 4, Scalar.ofNat 4⟩

/-- The margins of a line-number gutter, one point lower than those of the text. -/
def gutter : Margins α :=
  ⟨Scalar.ofNat 4, Scalar.ofNat 5, Scalar.ofNat 4, Scalar.ofNat 4⟩

/-- The space that both sides take together. -/
def horizontal (m : Margins α) : α := m.left + m.right

/-- The space that top and bottom take together. -/
def vertical (m : Margins α) : α := m.top + m.bottom

end Margins

end CodeBrowser
