import CodeBrowser.Session.Basic

/-!
# Navigation

## Main definitions

* `Session.showFile`, `Session.openAndShow`: opening files.
* `Session.navigate`: going to a symbol.
* `Session.goBack`, `Session.goForward`: stepping through the history.
-/
namespace CodeBrowser

namespace Session

/-- Looks for a file, which is read on first use. -/
def openFile (session : Session) (disk : Disk) (path : Path) :
    Except OpenError SourceFile × Session :=
  let (result, files) := session.files.openFile disk path
  (result, { session with files := files })

/-- Puts a file on display. -/
def display (session : Session) (file : SourceFile) : Session :=
  session.mapWidget (·.display (some file))

/-- Shows a file. The history is not touched. -/
def showFile (session : Session) (disk : Disk) (path : Path) : Except OpenError Unit × Session :=
  match session.openFile disk path with
  | (.ok file, session) => (.ok (), session.display file)
  | (.error e, session) => (.error e, session)

/-- The current place, if a file with a path is on display. -/
def currentVisit (session : Session) : Option Visit :=
  session.displayedPath?.map fun path => ⟨path, session.widget.scroll⟩

/-- Records a place that is left for another one, if it was one. -/
def record (session : Session) (left : Option Visit) : Session :=
  match left with
  | some visit => { session with history := session.history.push visit }
  | none => session

/-- Opens a file, recording the place that is left. -/
def openAndShow (session : Session) (disk : Disk) (path : Path) : Session :=
  let left := session.currentVisit
  match session.showFile disk path with
  | (.ok (), session) => (session.record left).say .quiet
  | (.error e, session) => session.say (.openFailed e)

/-- Goes to a symbol, recording the place that is left. -/
def navigate (session : Session) (around : Surroundings) (target : SymbolLocation) : Session :=
  match session.openFile around.disk target.path with
  | (.ok file, session) =>
    let session := (session.record session.currentVisit).display file
    (session.mapWidget (·.selectIdentifier around.measurer target.line target.column)).say
      (.navigated target)
  | (.error e, session) => session.say (.definitionFailed e)

/-- Shows a place again. The history is left to the caller. -/
def restore (session : Session) (disk : Disk) (visit : Visit) : Except OpenError Unit × Session :=
  match session.openFile disk visit.path with
  | (.ok file, session) =>
    (.ok (), ((session.display file).mapWidget (·.scrollTo visit.origin)).say .quiet)
  | (.error e, session) => (.error e, session)

/-- Goes to a neighbouring place of the history, which is given with the history around it. -/
def stepTo (session : Session) (disk : Disk) (step : Option (Visit × History Visit)) : Session :=
  match step with
  | none => session
  | some (visit, history) =>
    match session.restore disk visit with
    | (.ok (), session) => { session with history := history }
    | (.error e, session) => session.say (.reopenFailed e)

/-- Goes back to the place before. Nothing happens without a file or a place to go to. -/
def goBack (session : Session) (disk : Disk) : Session :=
  session.stepTo disk (session.currentVisit.bind session.history.goBack?)

/-- Goes forward again. -/
def goForward (session : Session) (disk : Disk) : Session :=
  session.stepTo disk (session.currentVisit.bind session.history.goForward?)

end Session

end CodeBrowser
