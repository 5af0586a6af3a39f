import CodeBrowser.View.Pointer

/-!
# Runs of the view

## Main definitions

* `ViewOperation`: everything that can be done to a view.
* `View.run`: a view after a run of operations.
-/
namespace CodeBrowser

/-- What can be done to a view. -/
inductive ViewOperation (α : Type) where
  | display (file : Option SourceFile)
  | setTheme (theme : Theme)
  | setSymbols (symbols : SymbolSource)
  | setTabStop (tabStop : Nat)
  | setMargins (margins : Margins α)
  /-- Selects any range, whether it is a word or not. -/
  | select (range : TextRange)
  | clearSelection
  | press (metrics : Metrics α) (point : Point α)
  | move (metrics : Metrics α) (point : Point α)
  | release (metrics : Metrics α) (point : Point α)
  | openMenu (metrics : Metrics α) (point : Point α) (history : HistoryAvailability)
  | closeMenu
  | pick (action : MenuAction)
  | selectIdentifier (metrics : Metrics α) (line column : Nat)
  | takeScrollRequest
  | takeEvents

namespace View

variable {α : Type} [Scalar α]

/-- The view after an operation. -/
def perform (view : View α) : ViewOperation α → View α
  | .display file => view.display file
  | .setTheme theme => view.setTheme theme
  | .setSymbols symbols => view.setSymbols symbols
  | .setTabStop tabStop => view.setTabStop tabStop
  | .setMargins margins => view.setMargins margins
  | .select range => view.select range
  | .clearSelection => view.clearSelection
  | .press metrics point => view.press metrics point
  | .move metrics point => view.move metrics point
  | .release metrics point => view.release metrics point
  | .openMenu metrics point history => (view.openMenu metrics point history).2
  | .closeMenu => view.closeMenu
  | .pick action => view.pick action
  | .selectIdentifier metrics line column => view.selectIdentifier metrics line column
  | .takeScrollRequest => view.takeScrollRequest.2
  | .takeEvents => view.takeEvents.2

/-- The view after a run of operations. -/
def run (view : View α) (operations : List (ViewOperation α)) : View α :=
  operations.foldl perform view

end View

end CodeBrowser
