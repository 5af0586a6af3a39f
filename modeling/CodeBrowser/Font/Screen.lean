import CodeBrowser.Font

/-!
# The fonts of the screen

## Main definitions

* `Measurer.screen`: the measurer of the fonts that the program draws with.
-/
namespace CodeBrowser

/-- How far a character moves the pen. -/
def glyphAdvance (size : Float) (c : Char) : Float :=
  if c.toNat < 0x10000 then size * 1233 / 2048 else size * 0.81 * 2600 / 2048

/-- The room that a character takes as the last one of a text, a multiple of 1/32. -/
def glyphWidth (size : Float) (c : Char) : Float :=
  Float.toWhole .nearest (glyphAdvance size c * 32) / 32

/-- Where the pen stands after some characters: on the last whole point that it is no more than an
eighth short of. -/
def penAfter (size : Float) (text : List Char) : Float :=
  Float.toWhole .down ((text.map (glyphAdvance size)).foldl (· + ·) 0 + 0.125)

/-- The width of a text. -/
def screenWidth (size : Float) (text : List Char) : Float :=
  match text.getLast? with
  | none => 0
  | some c => penAfter size text.dropLast + glyphWidth size c

/-- The fonts of the screen. Lines stand whole points apart. -/
def Measurer.screen : Measurer Float32 where
  width font text := Float.narrow (screenWidth (Float32.widen font.size) text.toList)
  spacing font := Float32.toWhole .nearest (font.size * 1.4)
  inset font := Float32.toWhole .nearest (font.size * 1.4) * 0.15

end CodeBrowser
