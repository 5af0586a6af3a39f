import CodeBrowser.Geometry.Rect

/-!
# The lines to paint

## Main definitions

* `visibleLines`: the first and the last line that a clip rectangle shows.
-/
namespace CodeBrowser

/-- The number of lines painted above and below the clip rectangle, for lines that it cuts. -/
def overscan : Int := 2

variable {α : Type} [Scalar α]

/-- The first and the last line to paint where lines stand `spacing` apart, if there are any. Lines
are counted in integers without bounds. Machine words hold the same numbers as long as the clip
rectangle is not so far down, measured in lines, that counting past it overflows. -/
def visibleLines (clip : Rect α) (spacing : α) (lineCount : Nat) : Option (Nat × Nat) :=
  if lineCount = 0 ∨ spacing ≤ Scalar.ofNat 0 then none
  else
    let first := max (Scalar.toInt (Scalar.floor (clip.min.y / spacing)) - overscan) 0
    let last := min (Scalar.toInt (Scalar.floor (clip.max.y / spacing)) + overscan) (lineCount - 1)
    if last < first then none else some (first.toNat, last.toNat)

/-- The lines from the first to the last. -/
def lineSpan (first last : Nat) : List Nat := List.range' first (last + 1 - first)

/-- The lines to paint. -/
def visibleLineList (clip : Rect α) (spacing : α) (lineCount : Nat) : List Nat :=
  match visibleLines clip spacing lineCount with
  | some (first, last) => lineSpan first last
  | none => []

end CodeBrowser
