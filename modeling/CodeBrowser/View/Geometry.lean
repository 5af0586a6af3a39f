import CodeBrowser.Layout.Line
import CodeBrowser.View.Basic

/-!
# Points and locations of the view

## Main definitions

* `View.sizeHint`: the room that the content takes.
* `View.pointOf`: the point where a location is shown.
* `View.locationAt?`: the location under a point.
-/
namespace CodeBrowser

namespace View

variable {α : Type} [Scalar α]

/-- The layout of a line of a file with the view's margins and tab stops. -/
def layout (view : View α) (metrics : Metrics α) (file : SourceFile) (line : Nat) : LineLayout α :=
  file.layout metrics view.margins view.tabStop line

/-- The room for all lines, at the width of a space for each column, and for the margins. -/
def sizeHint (view : View α) (metrics : Metrics α) : Point α :=
  let margins : Point α := ⟨view.margins.horizontal, view.margins.vertical⟩
  match view.file with
  | none => margins
  | some file =>
    ⟨Scalar.ofNat view.maxColumns * metrics.width " ",
      Scalar.ofNat file.lineCount * metrics.spacing⟩ + margins

/-- The top left corner of the character at a location. A column beyond the line stands for its end,
and a line beyond the text for the place below it. -/
def pointOf (view : View α) (metrics : Metrics α) (loc : Location) : Point α :=
  match view.file with
  | none => ⟨view.margins.left, view.margins.top⟩
  | some file =>
    if file.lineCount ≤ loc.line then
      ⟨view.margins.left, view.margins.top + Scalar.ofNat file.lineCount * metrics.spacing⟩
    else
      let layout := view.layout metrics file loc.line
      ⟨layout.leftOf loc.column, layout.top⟩

/-- The location under a point of a file. A point above the text is taken for its start, one below
for the place after the last line, and one beyond a line for the end of the line. -/
def locationIn (view : View α) (metrics : Metrics α) (file : SourceFile) (point : Point α) :
    Location :=
  if metrics.spacing ≤ Scalar.ofNat 0 then ⟨0, 0⟩
  else
    let row := Scalar.floor ((point.y - view.margins.top) / metrics.spacing)
    if row < Scalar.ofNat 0 then ⟨0, 0⟩
    else
      let line := Scalar.toNat row
      if file.lineCount ≤ line then ⟨file.lineCount, 0⟩
      else
        match (view.layout metrics file line).columnAt? point.x with
        | some column => ⟨line, column⟩
        | none => ⟨line, file.lineLength line⟩

/-- The location under a point, if there is a file. -/
def locationAt? (view : View α) (metrics : Metrics α) (point : Point α) : Option Location :=
  view.file.map fun file => view.locationIn metrics file point

/-- The word under a point. -/
def wordUnder (view : View α) (metrics : Metrics α) (point : Point α) : TextRange :=
  match view.locationAt? metrics point with
  | some loc => view.wordAt loc
  | none => .none

end View

end CodeBrowser
