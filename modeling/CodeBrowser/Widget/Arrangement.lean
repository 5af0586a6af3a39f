import CodeBrowser.Scroll.Bar

/-!
# The arrangement of the widget

The gutter stands to the left of the text, and a scrollbar stands beside the text wherever the
content is larger than what is left for it.

## Main definitions

* `Arrangement`: the parts of the widget.
* `Arrangement.ofContent`: the arrangement for a content in a rectangle.
-/
namespace CodeBrowser

/-- The parts of the widget. -/
structure Arrangement (α : Type) where
  /-- The whole widget. -/
  rect : Rect α
  gutter : Rect α
  text : Rect α
  vertical : Option (Scrollbar α)
  horizontal : Option (Scrollbar α)
  /-- The greatest scroll offset on both axes. -/
  maxScroll : Point α

variable {α : Type} [Scalar α]

namespace Arrangement

/-- Whether the content needs a vertical and a horizontal scrollbar in an area. Each takes space
from the other axis. -/
def needsBars (area content : Point α) : Bool × Bool :=
  let tooHigh := decide (area.y < content.y)
  let room := area.x - if tooHigh then Scrollbar.breadth else Scalar.ofNat 0
  let tooWide := decide (room < content.x)
  (tooHigh || (tooWide && decide (area.y - Scrollbar.breadth < content.y)), tooWide)

/-- The arrangement for a content beside a gutter. -/
def ofContent (rect : Rect α) (gutterWidth : α) (content : Point α) : Arrangement α :=
  let (hasVertical, hasHorizontal) := needsBars ⟨rect.width - gutterWidth, rect.height⟩ content
  let barWidth : α := if hasVertical then Scrollbar.breadth else Scalar.ofNat 0
  let barHeight : α := if hasHorizontal then Scrollbar.breadth else Scalar.ofNat 0
  let text : Rect α :=
    ⟨⟨rect.min.x + gutterWidth, rect.min.y⟩, ⟨rect.max.x - barWidth, rect.max.y - barHeight⟩⟩
  let verticalTrack : Rect α :=
    ⟨⟨rect.max.x - Scrollbar.breadth, rect.min.y⟩, ⟨rect.max.x, rect.max.y - barHeight⟩⟩
  let horizontalTrack : Rect α :=
    ⟨⟨rect.min.x, rect.max.y - Scrollbar.breadth⟩, ⟨rect.max.x - barWidth, rect.max.y⟩⟩
  { rect := rect
    gutter := ⟨rect.min, ⟨rect.min.x + gutterWidth, rect.max.y - barHeight⟩⟩
    text := text
    vertical :=
      if hasVertical then some (.ofTrack .vertical verticalTrack text.height content.y) else none
    horizontal :=
      if hasHorizontal then some (.ofTrack .horizontal horizontalTrack text.width content.x)
      else none
    maxScroll := (content - text.size).nonneg }

/-- The scrollbar of an axis, if there is one. -/
def bar? (arrangement : Arrangement α) : Axis → Option (Scrollbar α)
  | .vertical => arrangement.vertical
  | .horizontal => arrangement.horizontal

/-- The axis of the scrollbar under a point. -/
def barAt? (arrangement : Arrangement α) (point : Point α) : Option Axis :=
  if arrangement.vertical.any (·.track.contains point) then some .vertical
  else if arrangement.horizontal.any (·.track.contains point) then some .horizontal
  else none

/-- The square between two scrollbars. -/
def corner (arrangement : Arrangement α) : Rect α :=
  let high := arrangement.rect.max
  ⟨⟨high.x - Scrollbar.breadth, high.y - Scrollbar.breadth⟩, high⟩

end Arrangement

end CodeBrowser
