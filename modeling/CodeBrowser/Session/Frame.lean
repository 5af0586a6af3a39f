import CodeBrowser.Session.Element
import CodeBrowser.Session.Navigation
import CodeBrowser.Session.Shortcut

/-!
# A frame of a session

In a frame the session first selects the word that was asked for when it started, then obeys the
keyboard and the menu bar. Then the widget has its frame, and what the widget asks for is done. Last
comes the report of references.

## Main definitions

* `FrameInput`: what the user does in a frame.
* `Session.copyPath`, `Session.reveal`: what the clipboard and the desktop are asked for.
* `Session.handle`: does what the view asks for.
* `Session.frame`: a whole frame.
-/
namespace CodeBrowser

/-- What the user does in a frame. -/
structure FrameInput where
  pointer : List (PointerEvent Float32)
  keys : List KeyPress
  /-- The element of the window that is clicked. -/
  clicked : Option Element

namespace FrameInput

/-- The user does nothing. -/
def idle : FrameInput := ⟨[], [], none⟩

/-- The command of the clicked element. -/
def command? (input : FrameInput) : Option Command := input.clicked.bind (·.command)

/-- What is picked from the context menu. -/
def picked? (input : FrameInput) : Option MenuAction :=
  match input.command? with
  | some (.pick action) => some action
  | _ => none

end FrameInput

namespace Session

/-! ### The events of the view -/

/-- Copies the path of the file on display. A clipboard that is not there or does not take it goes
without a message. -/
def copyPath (session : Session) (around : Surroundings) : Session :=
  match session.displayedPath?, around.clipboard with
  | some path, some takes => if takes path.text then session.say .copied else session
  | _, _ => session

/-- Has the desktop show where the file on display is. -/
def reveal (session : Session) (around : Surroundings) : Session :=
  match session.displayedPath?.bind around.revealFault? with
  | some cause => session.say (.revealFailed cause)
  | none => session

/-- Does what the view asks for. -/
def handle (session : Session) (around : Surroundings) : ViewEvent → Session
  | .goBack => session.goBack around.disk
  | .goForward => session.goForward around.disk
  | .copyPath => session.copyPath around
  | .reveal => session.reveal around
  | .crossReferences symbol => session.showReport symbol
  | .wordActivated word =>
    session.say (if word.isEmpty then .quiet else .selected word.start)
  | .navigate target => session.navigate around target

/-- The session whose view has asked for nothing. -/
def withoutEvents (session : Session) : Session :=
  session.mapWidget fun widget => widget.mapView fun view => view.takeEvents.2

/-- Does all that the view has asked for, in order. -/
def handleEvents (session : Session) (around : Surroundings) : Session :=
  session.widget.view.takeEvents.1.foldl (fun session event => session.handle around event)
    session.withoutEvents

/-! ### The steps of a frame -/

/-- Selects the word that was asked for when the session started. -/
def selectPending (session : Session) (measurer : Measurer Float32) : Session :=
  match session.pendingSelection with
  | none => session
  | some (line, column) =>
    { session.mapWidget (·.selectIdentifier measurer line column) with pendingSelection := none }

/-- Obeys a shortcut. -/
def obey (session : Session) (disk : Disk) : Shortcut → Session
  | .top => session.mapWidget (·.scrollToTop)
  | .bottom => session.mapWidget (·.scrollToBottom)
  | .back => session.goBack disk
  | .forward => session.goForward disk

/-- Obeys the keyboard, unless the context menu is open. -/
def obeyKeys (session : Session) (disk : Disk) (keys : List KeyPress) : Session :=
  if session.widget.menu.isSome then session
  else (Shortcut.inOrder keys).foldl (fun session shortcut => session.obey disk shortcut) session

/-- Obeys an entry of the menu bar. -/
def obeyBar (session : Session) (around : Surroundings) : Option Command → Session
  | some .goBack => session.goBack around.disk
  | some .goForward => session.goForward around.disk
  | some .scrollToTop => session.mapWidget (·.scrollToTop)
  | some .scrollToBottom => session.mapWidget (·.scrollToBottom)
  | some (.setShowsNumbers shows) => session.setShowsNumbers shows
  | some (.setFontSize size) => session.setFontSize size
  | some (.setTheme choice) => session.setTheme choice around.desktop
  | _ => session

/-- What a frame leaves open of the menu bar. A click anywhere else closes it. -/
def menuBarAfter (session : Session) (input : FrameInput) (gestures : Gestures Float32) : MenuBar :=
  if input.clicked.isSome then session.menuBar.click input.command?
  else if gestures.anyClick then .closed
  else session.menuBar

/-- The widget before its frame. A click on an element of the window takes the context menu away. -/
def widgetBefore (session : Session) (input : FrameInput) : Widget Float32 :=
  if input.clicked.isSome then session.widget.dismissMenu else session.widget

/-- The frame of the widget. -/
def showWidget (session : Session) (around : Surroundings) (input : FrameInput) : Session :=
  let (gestures, pointer) := session.pointer.frame around.rect input.pointer
  { session with
    pointer := pointer
    menuBar := session.menuBarAfter input gestures
    widget :=
      (session.widgetBefore input).frame around.measurer around.rect gestures
        session.history.availability input.picked? }

/-- Obeys the report of references. -/
def obeyReport (session : Session) (around : Surroundings) : Option Command → Session
  | some (.follow target) => session.closeReport.navigate around target
  | some .closeReport => session.closeReport
  | _ => session

/-- A whole frame. -/
def frame (session : Session) (around : Surroundings) (input : FrameInput) : Session :=
  let session := session.selectPending around.measurer
  let session := session.obeyKeys around.disk input.keys
  let session := session.obeyBar around input.command?
  let session := session.showWidget around input
  let session := session.handleEvents around
  session.obeyReport around input.command?

end Session

end CodeBrowser
