import CodeBrowser.Geometry.Scalar

/-!
# Scrolling a target into view

## Main definitions

* `reveal`: the scroll offset that shows a target along one axis.
-/
namespace CodeBrowser

variable {α : Type} [Scalar α]

/-- The space that is kept beside a target: at most half of the viewport. -/
def revealMargin (viewport margin : α) : α :=
  Scalar.larger (Scalar.smaller margin (viewport / Scalar.ofNat 2)) (Scalar.ofNat 0)

/-- Moves the scroll offset of one axis just enough to show the target from `start` to `stop` with
some space around it. Of a target that does not fit, the start is shown. -/
def reveal (scroll start stop viewport margin : α) : α :=
  let margin := revealMargin viewport margin
  if start - margin < scroll then Scalar.larger (start - margin) (Scalar.ofNat 0)
  else if scroll + viewport < stop + margin then
    Scalar.larger (Scalar.smaller (stop + margin - viewport) (start - margin)) (Scalar.ofNat 0)
  else scroll

end CodeBrowser
