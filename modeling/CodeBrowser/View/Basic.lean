import CodeBrowser.Geometry.Margins
import CodeBrowser.Paint.Coloring
import CodeBrowser.View.Event
import CodeBrowser.Word

/-!
# The view

The view shows one file. It keeps the colours of the file and the width of its widest line, and
computes them anew when something changes that they depend on.

## Main definitions

* `View`: the view with all that it keeps.
* `View.display`, `View.setTheme`, `View.setSymbols`, `View.setTabStop`, `View.setMargins`: what a
  host can change.
-/
namespace CodeBrowser

/-- The view of a file, in content coordinates. -/
structure View (α : Type) where
  symbols : SymbolSource
  lexer : Lexer
  theme : Theme
  margins : Margins α
  /-- The columns between tab stops. -/
  tabStop : Nat
  file : Option SourceFile
  /-- The colours of the file. -/
  colors : ColorBuffer
  /-- The width of the widest line in columns. -/
  maxColumns : Nat
  /-- The word that is pressed or has been looked up. -/
  selection : TextRange
  /-- What the host has not yet taken, oldest first. -/
  events : List ViewEvent
  /-- The part of the content that the host is asked to show. -/
  scrollRequest : Option (Rect α)

/-- Whether two files are one opening of a file. -/
def SourceFile.isSame (a b : SourceFile) : Bool := a.serial == b.serial

namespace View

variable {α : Type}

/-- The columns between tab stops unless the user says otherwise. -/
def defaultTabStop : Nat := 8

/-- A view without a file. -/
def ofSource [Scalar α] (symbols : SymbolSource) (lexer : Lexer) : View α where
  symbols := symbols
  lexer := lexer
  theme := .light
  margins := .standard
  tabStop := defaultTabStop
  file := none
  colors := .empty
  maxColumns := 0
  selection := .none
  events := []
  scrollRequest := none

/-! ### What is kept of the file -/

/-- The colours that the view should keep. -/
def currentColors (view : View α) : ColorBuffer :=
  match view.file with
  | some file => .build file view.lexer view.symbols view.theme
  | none => .empty

/-- The width that the view should keep. -/
def currentColumns (view : View α) : Nat :=
  match view.file with
  | some file => file.maxExpandedColumns view.tabStop
  | none => 0

/-- The view with its colours computed anew. -/
def recolor (view : View α) : View α := { view with colors := view.currentColors }

/-- The view with its width computed anew. -/
def remeasure (view : View α) : View α := { view with maxColumns := view.currentColumns }

/-! ### Settings -/

def setMargins (view : View α) (margins : Margins α) : View α := { view with margins := margins }

/-- Changes the columns between tab stops; there is at least one. -/
def setTabStop (view : View α) (tabStop : Nat) : View α :=
  if max tabStop 1 = view.tabStop then view
  else { view with tabStop := max tabStop 1 }.remeasure

def setTheme (view : View α) (theme : Theme) : View α :=
  if theme = view.theme then view else { view with theme := theme }.recolor

def setSymbols (view : View α) (symbols : SymbolSource) : View α :=
  { view with symbols := symbols }.recolor

/-! ### The file -/

/-- Whether the file is on display already, or no file if none is. -/
def displays (view : View α) (file : Option SourceFile) : Bool :=
  match view.file, file with
  | some a, some b => a.isSame b
  | none, none => true
  | _, _ => false

/-- Shows another file, or none. Nothing stays selected, and nothing changes if the file is on
display already. -/
def display (view : View α) (file : Option SourceFile) : View α :=
  if view.displays file then view
  else
    { view with file := file, selection := .none, scrollRequest := none }.remeasure.recolor

/-! ### Selection -/

def select (view : View α) (range : TextRange) : View α := { view with selection := range }

def clearSelection (view : View α) : View α := view.select .none

/-- The word at a location. -/
def wordAt (view : View α) (loc : Location) : TextRange :=
  match view.file with
  | some file => file.wordAt loc
  | none => .none

/-- The symbols that the text at a location refers to. -/
def symbolsAt (view : View α) (loc : Location) : List String :=
  match view.file with
  | some file => view.symbols.symbolsAt file (loc.line + 1) (loc.column + 1)
  | none => []

/-! ### Events -/

/-- Adds an event for the host. -/
def emit (view : View α) (event : ViewEvent) : View α :=
  { view with events := view.events ++ [event] }

/-- The events for the host, and the view without them. -/
def takeEvents (view : View α) : List ViewEvent × View α :=
  (view.events, { view with events := [] })

/-- The part of the content to be shown, and the view that no longer asks for it. -/
def takeScrollRequest (view : View α) : Option (Rect α) × View α :=
  (view.scrollRequest, { view with scrollRequest := none })

/-- Passes on what the user picked from a menu. -/
def pick (view : View α) (action : MenuAction) : View α := view.emit action.event

end View

end CodeBrowser
