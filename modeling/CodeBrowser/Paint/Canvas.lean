import CodeBrowser.Color
import CodeBrowser.Geometry.Rect

/-!
# The canvas

## Main definitions

* `CanvasCall`: what a canvas is told to draw.
* `Glyph`, `drawGlyphs`: coloured texts, and the calls that draw them with as few changes of the pen
  as their order allows.
-/
namespace CodeBrowser

/-- What a canvas is told. -/
inductive CanvasCall (α : Type) where
  /-- Fills a rectangle. -/
  | fill (rect : Rect α) (color : Color)
  /-- Takes the pen for the texts that follow. -/
  | pen (color : Color)
  /-- Draws a text with its top left corner at a point. -/
  | text (point : Point α) (text : List Char)
  deriving DecidableEq, Repr

/-- A text to be drawn in a colour. -/
structure Glyph (α : Type) where
  color : Color
  point : Point α
  text : List Char
  deriving DecidableEq, Repr

variable {α : Type}

/-- The calls that draw the glyphs in order where `pen` is in force, if any is. -/
def drawGlyphs (pen : Option Color) : List (Glyph α) → List (CanvasCall α)
  | [] => []
  | glyph :: rest =>
    if pen = some glyph.color then .text glyph.point glyph.text :: drawGlyphs pen rest
    else
      .pen glyph.color :: .text glyph.point glyph.text :: drawGlyphs (some glyph.color) rest

end CodeBrowser
