import CodeBrowser.View.Geometry

/-!
# The pointer on the view

A press selects the word under the pointer, leaving the word gives it up, and a release on the word
activates it.

## Main definitions

* `View.press`, `View.move`, `View.release`: the pointer.
* `View.openMenu`, `View.closeMenu`: the context menu.
* `View.selectIdentifier`: selects a word and asks the host to show it.
-/
namespace CodeBrowser

namespace View

variable {α : Type} [Scalar α]

/-- Tells the host that a word was clicked and, if it means one symbol with one definition, where to
go. -/
def activate (view : View α) (word : TextRange) : View α :=
  let view := view.emit (.wordActivated word)
  match view.symbolsAt word.start with
  | [symbol] =>
    match view.symbols.definition? symbol with
    | some target => view.emit (.navigate target)
    | none => view
  | _ => view

/-- The view without its selection if that is not the word under the pointer. -/
def dropUnless (view : View α) (metrics : Metrics α) (point : Point α) : View α :=
  if view.selection.isEmpty || view.wordUnder metrics point == view.selection then view
  else view.clearSelection

/-- The primary button goes down. -/
def press (view : View α) (metrics : Metrics α) (point : Point α) : View α :=
  view.select (view.wordUnder metrics point)

/-- The pointer moves while the button is down. -/
def move (view : View α) (metrics : Metrics α) (point : Point α) : View α :=
  view.dropUnless metrics point

/-- The primary button goes up. -/
def release (view : View α) (metrics : Metrics α) (point : Point α) : View α :=
  if view.selection.isEmpty then view
  else if view.wordUnder metrics point == view.selection then
    view.clearSelection.activate view.selection
  else view.clearSelection

/-- The menu to open at a point, and the view that goes with it. -/
def openMenu (view : View α) (metrics : Metrics α) (point : Point α)
    (history : HistoryAvailability) : ContextMenu × View α :=
  let view := view.dropUnless metrics point
  let menu :=
    if view.file.isNone || view.selection.isEmpty then .general history
    else .symbols (view.symbolsAt view.selection.start)
  (menu, view)

/-- The context menu has been closed. -/
def closeMenu (view : View α) : View α := view.clearSelection

/-- Selects the word at a line and column counted from 1 and asks the host to show it. -/
def selectIdentifier (view : View α) (metrics : Metrics α) (line column : Nat) : View α :=
  let view := view.select (view.wordAt (.ofOneBased line column))
  let start := view.pointOf metrics view.selection.start
  let stop := view.pointOf metrics view.selection.stop
  { view with
    scrollRequest :=
      some ⟨start, ⟨Scalar.larger stop.x start.x, start.y + metrics.spacing⟩⟩ }

end View

end CodeBrowser
