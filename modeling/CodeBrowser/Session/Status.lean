import CodeBrowser.Index.Store
import CodeBrowser.Location
import CodeBrowser.SourceFile.Store

/-!
# The status of a session

## Main definitions

* `Status`: what the session last did or failed to do.
* `Status.text`: its wording.
-/
namespace CodeBrowser

/-- What the session last did or failed to do. -/
inductive Status where
  /-- Nothing that is worth a message. -/
  | quiet
  | indexLoaded (symbols : Nat)
  | navigated (target : SymbolLocation)
  /-- A word was clicked that starts at a location. -/
  | selected (start : Location)
  /-- The path of the file on display was copied. -/
  | copied
  | indexFailed (cause : IndexError)
  | openFailed (cause : OpenError)
  | definitionFailed (cause : OpenError)
  | reopenFailed (cause : OpenError)
  /-- The desktop could not show where the file on display is. -/
  | revealFailed (cause : String)
  deriving DecidableEq, Repr

/-- The wording of a status; empty where nothing is shown. -/
def Status.text : Status → String
  | .quiet => ""
  | .indexLoaded symbols => s!"Loaded index with {symbols} symbols"
  | .navigated target => "Navigated to " ++ target.display
  | .selected start => "Selected " ++ start.display
  | .copied => "Copied file path"
  | .indexFailed cause => "Failed to load index: " ++ cause.message
  | .openFailed cause => "Failed to open file: " ++ cause.message
  | .definitionFailed cause => "Failed to open definition: " ++ cause.message
  | .reopenFailed cause => "Failed to reopen file: " ++ cause.message
  | .revealFailed cause => "Failed to reveal file: " ++ cause

end CodeBrowser
