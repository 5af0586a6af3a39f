import CodeBrowser.Geometry.Rect

/-!
# Scrollbars

The thumb of a scrollbar takes the part of the track that the viewport takes of the content, and
stands in the track where the viewport stands in the content.

## Main definitions

* `Scrollbar`: the geometry of a scrollbar.
* `Scrollbar.thumb`: the thumb at a scroll offset.
* `Scrollbar.scrollAt`: the scroll offset that brings the thumb under a point.
-/
namespace CodeBrowser

/-- The direction of a scrollbar. -/
inductive Axis where
  | horizontal
  | vertical
  deriving DecidableEq, Repr

/-- The geometry of a scrollbar. -/
structure Scrollbar (α : Type) where
  axis : Axis
  track : Rect α
  thumbSize : α
  /-- The way that the thumb can move. -/
  thumbTravel : α
  maxScroll : α
  deriving DecidableEq, Repr

variable {α : Type} [Scalar α]

/-- The coordinate along an axis. -/
def Point.along (p : Point α) : Axis → α
  | .horizontal => p.x
  | .vertical => p.y

/-- The length of a rectangle along an axis. -/
def Rect.along (r : Rect α) : Axis → α
  | .horizontal => r.width
  | .vertical => r.height

namespace Scrollbar

/-- The width of a track. -/
def breadth : α := Scalar.ofNat 14

/-- The size that a thumb has at least, where its track is long enough. -/
def minThumb : α := Scalar.ofNat 20

/-- The space between a thumb and the sides of its track. -/
def inset : α := Scalar.ofNat 2

/-- The part of the content that a viewport shows. -/
def visiblePart (viewport content : α) : α :=
  if Scalar.ofNat 0 < content then Scalar.smaller (viewport / content) (Scalar.ofNat 1)
  else Scalar.ofNat 1

/-- The size of the thumb in a track of some length. -/
def thumbLength (length viewport content : α) : α :=
  Scalar.smaller (Scalar.larger (length * visiblePart viewport content) minThumb) length

/-- The scrollbar in a track for a viewport and a content. -/
def ofTrack (axis : Axis) (track : Rect α) (viewport content : α) : Scrollbar α :=
  let length := track.along axis
  let thumb := thumbLength length viewport content
  { axis := axis
    track := track
    thumbSize := thumb
    thumbTravel := length - thumb
    maxScroll := Scalar.larger (content - viewport) (Scalar.ofNat 0) }

/-- The part of the way to the end that a scroll offset has gone. -/
def progress (bar : Scrollbar α) (scroll : α) : α :=
  if Scalar.ofNat 0 < bar.maxScroll then
    Scalar.clamp (scroll / bar.maxScroll) (Scalar.ofNat 0) (Scalar.ofNat 1)
  else Scalar.ofNat 0

/-- The thumb at a scroll offset. -/
def thumb (bar : Scrollbar α) (scroll : α) : Rect α :=
  let way := bar.progress scroll * bar.thumbTravel
  let across : α := breadth - Scalar.ofNat 4
  match bar.axis with
  | .vertical =>
    .ofSize ⟨bar.track.min.x + inset, bar.track.min.y + way⟩ ⟨across, bar.thumbSize⟩
  | .horizontal =>
    .ofSize ⟨bar.track.min.x + way, bar.track.min.y + inset⟩ ⟨bar.thumbSize, across⟩

/-- The scroll offset that brings the centre of the thumb as near to a point as it can get. -/
def scrollAt (bar : Scrollbar α) (point : Point α) : α :=
  let offset := point.along bar.axis - bar.track.min.along bar.axis
    - bar.thumbSize / Scalar.ofNat 2
  Scalar.clamp (offset / Scalar.larger bar.thumbTravel (Scalar.ofNat 1)) (Scalar.ofNat 0)
    (Scalar.ofNat 1) * bar.maxScroll

end Scrollbar

end CodeBrowser
