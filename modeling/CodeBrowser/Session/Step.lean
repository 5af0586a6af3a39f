import CodeBrowser.Session.Frame

/-!
# Runs of a session

## Main definitions

* `SessionStep`: what can happen to a session.
* `Session.step`, `Session.run`: one step and a run of steps.
-/
namespace CodeBrowser

/-- What can happen to a session. -/
inductive SessionStep where
  | showFile (path : Path)
  | openAndShow (path : Path)
  | navigate (target : SymbolLocation)
  | goBack
  | goForward
  | loadIndex (path : Path)
  | handle (event : ViewEvent)
  /-- An entry is picked from the context menu. The next frame does what it asks for. -/
  | pick (action : MenuAction)
  | scrollTo (point : Point Float32)
  | setTheme (choice : ThemeChoice)
  | setFontSize (size : Float32)
  | setShowsNumbers (shows : Bool)
  | showReport (symbol : String)
  | frame (input : FrameInput)

namespace Session

/-- The session after a step in some surroundings. -/
def step (session : Session) (around : Surroundings) : SessionStep → Session
  | .showFile path => (session.showFile around.disk path).2
  | .openAndShow path => session.openAndShow around.disk path
  | .navigate target => session.navigate around target
  | .goBack => session.goBack around.disk
  | .goForward => session.goForward around.disk
  | .loadIndex path => session.loadIndexOrReport around.disk path
  | .handle event => session.handle around event
  | .pick action => session.mapWidget fun widget => widget.mapView (·.pick action)
  | .scrollTo point => session.mapWidget (·.scrollTo point)
  | .setTheme choice => session.setTheme choice around.desktop
  | .setFontSize size => session.setFontSize size
  | .setShowsNumbers shows => session.setShowsNumbers shows
  | .showReport symbol => session.showReport symbol
  | .frame input => session.frame around input

/-- The session after a run of steps, each in the surroundings as they are at its time. -/
def run (session : Session) (steps : List (Surroundings × SessionStep)) : Session :=
  steps.foldl (fun session step => session.step step.1 step.2) session

end Session

end CodeBrowser
