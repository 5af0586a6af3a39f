import CodeBrowser.Font.WidthCache
import CodeBrowser.Paint.Gutter
import CodeBrowser.View.Pointer
import CodeBrowser.Widget.Scrolling

/-!
# The widget

The widget shows a view with its line numbers and scrollbars in a rectangle of the screen.

## Main definitions

* `Widget`: the widget with all that it keeps from frame to frame.
* `Widget.filling`: the rectangle of a widget in a window.
* `Widget.display` and the settings of the widget.
* `Widget.charRect`: where a character was shown.
-/
namespace CodeBrowser

/-- A context menu that is open. -/
structure OpenMenu where
  entries : ContextMenu
  /-- Whether the menu closes with the next frame. -/
  expires : Bool
  deriving DecidableEq, Repr

/-- The widget. -/
structure Widget (α : Type) where
  view : View α
  gutter : Gutter α
  font : Font
  /-- The widths that are known of the font. -/
  widths : WidthCache α
  showsNumbers : Bool
  /-- The content point at the top left corner of the text area. -/
  scroll : Point α
  /-- The scrollbar that is being dragged. -/
  barDrag : Option Axis
  /-- Whether a press on the text is going on. -/
  pressing : Bool
  menu : Option OpenMenu
  /-- Where the content started on the screen in the last frame. -/
  origin : Option (Point α)

namespace Widget

variable {α : Type}

/-- The size of the font unless the user says otherwise. -/
def defaultFontSize : Float32 := 14

/-- A widget that has not been shown. -/
def ofView [Scalar α] (view : View α) : Widget α where
  view := view
  gutter := ⟨.gutter, 0⟩
  font := ⟨.monospace, defaultFontSize⟩
  widths := .empty
  showsNumbers := true
  scroll := .origin
  barDrag := none
  pressing := false
  menu := none
  origin := none

/-- The metrics of the widget's font, as far as possible from what is known of it. -/
def metrics (widget : Widget α) (measurer : Measurer α) : Metrics α :=
  widget.widths.metrics measurer widget.font

/-- A length rounded to whole 32nds of a point, on which everything on the screen is placed. -/
def onGrid (x : Float32) : Float32 := Float32.toWhole .nearest (x * 32) / 32

/-- The rectangle of a widget that fills a window of some size. -/
def filling (size : Point Float32) : Rect Float32 := ⟨.origin, ⟨onGrid size.x, onGrid size.y⟩⟩

/-! ### Settings -/

/-- The widget with its view changed. -/
def mapView (widget : Widget α) (f : View α → View α) : Widget α :=
  { widget with view := f widget.view }

def setSymbols (widget : Widget α) (symbols : SymbolSource) : Widget α :=
  widget.mapView (·.setSymbols symbols)

def setTheme (widget : Widget α) (theme : Theme) : Widget α := widget.mapView (·.setTheme theme)

def setTabStop (widget : Widget α) (tabStop : Nat) : Widget α :=
  widget.mapView (·.setTabStop tabStop)

def setMargins (widget : Widget α) (view gutter : Margins α) : Widget α :=
  { widget.mapView (·.setMargins view) with gutter := { widget.gutter with margins := gutter } }

def setShowsNumbers (widget : Widget α) (shows : Bool) : Widget α :=
  { widget with showsNumbers := shows }

/-- Changes the size of the font. What is known of the old font is forgotten. -/
def setFontSize (widget : Widget α) (size : Float32) : Widget α :=
  let font : Font := ⟨.monospace, size⟩
  if font.key = widget.font.key then widget
  else { widget with font := font, widths := widget.widths.evict widget.font }

/-! ### The file -/

/-- The number of lines of a file; none without a file. -/
def lineCountOf (file : Option SourceFile) : Nat :=
  match file with
  | some file => file.lineCount
  | none => 0

/-- Shows another file, from its first line on. A press and a menu do not outlive the old file. -/
def display [Scalar α] (widget : Widget α) (file : Option SourceFile) : Widget α :=
  let shown :=
    { widget with
      view := widget.view.display file
      gutter := { widget.gutter with lineCount := lineCountOf file } }
  if widget.view.displays file then shown
  else
    { shown with
      scroll := ⟨widget.scroll.x, Scalar.ofNat 0⟩
      pressing := false
      menu := none }

/-- Lets the menu, if one is open, close with the next frame. -/
def dismissMenu (widget : Widget α) : Widget α :=
  { widget with menu := widget.menu.map fun menu => { menu with expires := true } }

/-! ### Scrolling -/

/-- Scrolls to a point of the content. The next frame keeps it within the content. -/
def scrollTo [Scalar α] (widget : Widget α) (point : Point α) : Widget α :=
  { widget with scroll := point.nonneg }

def scrollToTop [Scalar α] (widget : Widget α) : Widget α :=
  { widget with scroll := ⟨widget.scroll.x, Scalar.ofNat 0⟩ }

/-- Scrolls further down than any content reaches, which the next frame makes the end. -/
def scrollToBottom (widget : Widget Float32) : Widget Float32 :=
  { widget with scroll := ⟨widget.scroll.x, 1 / 0⟩ }

/-- Selects the word at a line and column counted from 1. The next frame shows it. -/
def selectIdentifier [Scalar α] (widget : Widget α) (measurer : Measurer α) (line column : Nat) :
    Widget α :=
  widget.mapView (·.selectIdentifier (widget.metrics measurer) line column)

/-- Where the last frame showed the character at a location. -/
def charRect [Scalar α] (widget : Widget α) (measurer : Measurer α) (loc : Location) :
    Option (Rect α) :=
  match widget.origin, widget.view.file with
  | some origin, some file =>
    if loc.pointsAtChar file then
      let metrics := widget.metrics measurer
      let next := loc.column + charLength (file.lineContent loc.line) loc.column
      let start := widget.view.pointOf metrics loc
      let stop := widget.view.pointOf metrics ⟨loc.line, next⟩
      some ((⟨start, ⟨stop.x, start.y + metrics.spacing⟩⟩ : Rect α).translate origin)
    else none
  | _, _ => none

end Widget

end CodeBrowser
