import CodeBrowser.Paint.Canvas
import Mathlib.Data.List.Basic

/-!
# The pen of a canvas

A canvas draws each text with the pen that is in force. Replaying the calls (`inked`) tells which
one that is. The painter takes a new pen only where the colour changes; the plain painter
(`penEach`) takes the pen anew before each text. The calls of the first are those of the second
without the idle ones (`dropIdlePens`), and the texts come out in the same colours.

## Main definitions

* `InkedText`, `inked`: the texts that calls draw, each with the pen in force at it.
* `penEach`: the calls of the plain painter.
* `dropIdlePens`: calls without those that take the pen in force once more.

## Main results

* `inked_drawGlyphs`: each text is drawn in its colour.
* `drawGlyphs_eq_dropIdlePens`: no call is made that the plain painter does not make, and none is
  left out but the idle ones.
-/

namespace CodeBrowser

/-- A text as it comes out of the calls that draw it: with the pen in force, if there is one. -/
structure InkedText (α : Type) where
  pen : Option Color
  point : Point α
  text : List Char
  deriving DecidableEq, Repr

variable {α : Type}

/-- A glyph drawn in its colour. -/
def Glyph.inked (glyph : Glyph α) : InkedText α := ⟨some glyph.color, glyph.point, glyph.text⟩

/-- The texts that calls draw where `pen` is in force, if any is. -/
def inked (pen : Option Color) : List (CanvasCall α) → List (InkedText α)
  | [] => []
  | .fill _ _ :: rest => inked pen rest
  | .pen color :: rest => inked (some color) rest
  | .text point text :: rest => ⟨pen, point, text⟩ :: inked pen rest

/-- The calls that draw the texts in order, taking the pen anew before each. -/
def penEach (texts : List (InkedText α)) : List (CanvasCall α) :=
  texts.flatMap fun text => text.pen.toList.map .pen ++ [.text text.point text.text]

/-- The calls without those that take the pen that is in force already, first of all `pen`. -/
def dropIdlePens (pen : Option Color) : List (CanvasCall α) → List (CanvasCall α)
  | [] => []
  | .fill rect color :: rest => .fill rect color :: dropIdlePens pen rest
  | .pen color :: rest =>
    if pen = some color then dropIdlePens pen rest
    else .pen color :: dropIdlePens (some color) rest
  | .text point text :: rest => .text point text :: dropIdlePens pen rest

/-- **Each text in its colour.** Whatever pen is in force before, the painter draws each glyph with
the pen of its colour. -/
theorem inked_drawGlyphs : (pen : Option Color) → (glyphs : List (Glyph α)) →
    inked pen (drawGlyphs pen glyphs) = glyphs.map Glyph.inked
  | _, [] => rfl
  | pen, glyph :: rest => by
      rw [drawGlyphs, List.map_cons, Glyph.inked]
      split_ifs with hpen
      · rw [inked, inked_drawGlyphs pen rest, hpen]
      · rw [inked, inked, inked_drawGlyphs (some glyph.color) rest]

/-- **Few pens.** The painter makes the calls of the plain painter without the idle ones. -/
theorem drawGlyphs_eq_dropIdlePens : (pen : Option Color) → (glyphs : List (Glyph α)) →
    drawGlyphs pen glyphs = dropIdlePens pen (penEach (glyphs.map Glyph.inked))
  | _, [] => rfl
  | pen, glyph :: rest => by
      have hplain : penEach ((glyph :: rest).map Glyph.inked) =
          .pen glyph.color :: .text glyph.point glyph.text :: penEach (rest.map Glyph.inked) := rfl
      rw [hplain, drawGlyphs, dropIdlePens]
      split_ifs with hpen
      · rw [dropIdlePens, drawGlyphs_eq_dropIdlePens pen rest]
      · rw [dropIdlePens, drawGlyphs_eq_dropIdlePens (some glyph.color) rest]

/-- A text is drawn by calls if and only if it is drawn with some pen. -/
theorem text_mem_iff_inked {point : Point α} {text : List Char} :
    (pen : Option Color) → (calls : List (CanvasCall α)) →
      (.text point text ∈ calls ↔ ∃ color, ⟨color, point, text⟩ ∈ inked pen calls)
  | _, [] => by simp [inked]
  | pen, .fill _ _ :: rest => by
      rw [inked, ← text_mem_iff_inked pen rest]
      simp
  | _, .pen color :: rest => by
      rw [inked, ← text_mem_iff_inked (some color) rest]
      simp
  | pen, .text p t :: rest => by
      simp only [inked, List.mem_cons, exists_or, text_mem_iff_inked pen rest]
      simp

/-- The painter draws the texts of the glyphs and no others. -/
theorem text_mem_drawGlyphs {pen : Option Color} {glyphs : List (Glyph α)} {point : Point α}
    {text : List Char} : .text point text ∈ drawGlyphs pen glyphs ↔
      ∃ glyph ∈ glyphs, glyph.point = point ∧ glyph.text = text := by
  rw [text_mem_iff_inked pen, inked_drawGlyphs]
  simp [Glyph.inked]

end CodeBrowser
