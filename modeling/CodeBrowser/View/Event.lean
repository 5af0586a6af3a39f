import CodeBrowser.Location
import CodeBrowser.Navigation.History
import CodeBrowser.Symbol

/-!
# Events and menus of the view

## Main definitions

* `ViewEvent`: what the view asks of its host.
* `ContextMenu`, `MenuAction`: a menu of the view and what the user can pick from it.
-/
namespace CodeBrowser

/-- What the view asks of its host. -/
inductive ViewEvent where
  | goBack
  | goForward
  | copyPath
  | reveal
  | crossReferences (symbol : String)
  /-- A word was clicked and the pointer never left it. -/
  | wordActivated (word : TextRange)
  /-- The clicked word has exactly one definition. -/
  | navigate (target : SymbolLocation)
  deriving DecidableEq, Repr

/-- A menu of the view. -/
inductive ContextMenu where
  /-- The menu where no word is selected. -/
  | general (history : HistoryAvailability)
  /-- The symbols that the selected word refers to. -/
  | symbols (names : List String)
  deriving DecidableEq, Repr

/-- What the user can pick from a menu. -/
inductive MenuAction where
  | back
  | forward
  | copyPath
  | reveal
  | crossReferences (symbol : String)
  deriving DecidableEq, Repr

/-- The event that a choice causes. -/
def MenuAction.event : MenuAction → ViewEvent
  | .back => .goBack
  | .forward => .goForward
  | .copyPath => .copyPath
  | .reveal => .reveal
  | .crossReferences symbol => .crossReferences symbol

end CodeBrowser
