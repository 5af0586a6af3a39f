import CodeBrowser.Grammar.Highlight
import CodeBrowser.Preferences.Store
import CodeBrowser.Session.Navigation

/-!
# Starting and ending a session

## Main definitions

* `StartupArguments`: what the user asks for when the program starts.
* `Session.start`: the session that the program starts with.
* `Session.exit`: stores the preferences.
-/
namespace CodeBrowser

/-- What the user asks for when the program starts. -/
structure StartupArguments where
  /-- The file to be shown. -/
  file : Option Path
  /-- The index to be loaded instead of the stored one. -/
  index : Option Path
  /-- The line and the column of the word to be selected, counted from 1. -/
  line : Option Nat
  column : Option Nat
  deriving DecidableEq, Repr

/-- Nothing is asked for. -/
def StartupArguments.none : StartupArguments := ⟨.none, .none, .none, .none⟩

namespace Session

/-- The widget that a session with some settings starts with. -/
def startWidget (settings : Preferences) (theme : Theme) : Widget Float32 :=
  let widget := Widget.ofView (.ofSource .empty .byGrammar)
  let widget := (widget.setTheme theme).setFontSize settings.fontSize
  let widget := widget.setTabStop settings.tabStop
  let widget := widget.setMargins settings.viewMargins settings.gutterMargins
  widget.setShowsNumbers settings.showLineNumbers

/-- A session in which nothing has been asked for. -/
def ofPreferences (preferences : Preferences) (preferencesPath : Path)
    (desktop : Desktop := .neutral) : Session :=
  let (choice, theme) := themeFor preferences.themes (.ofName preferences.themeName) desktop
  { widget := startWidget preferences theme
    pointer := .absent
    settings := { preferences with themeName := choice.name }
    preferencesPath := preferencesPath
    history := .empty
    files := .empty
    indexPath := none
    status := .quiet
    report := none
    pendingSelection := none
    menuBar := .closed }

/-- The session with the file that was asked for, or with the reason why it cannot be shown. -/
def showFirst (session : Session) (disk : Disk) (arguments : StartupArguments) : Session :=
  match arguments.file with
  | none => session
  | some path =>
    match session.showFile disk path with
    | (.ok (), session) =>
      { session with
        pendingSelection := arguments.line.map fun line => (line, arguments.column.getD 1) }
    | (.error e, session) => session.say (.openFailed e)

/-- The session that the program starts with. -/
def start (disk : Disk) (preferences : Preferences) (preferencesPath : Path)
    (arguments : StartupArguments) (desktop : Desktop := .neutral) : Session :=
  let session := ofPreferences preferences preferencesPath desktop
  let session :=
    match arguments.index.or preferences.indexPath? with
    | some path => session.loadIndexOrReport disk path
    | none => session
  session.showFirst disk arguments

/-- The disk after the session has stored its preferences. A failure to do so goes unnoticed. -/
def exit (session : Session) (disk : Disk) : Disk :=
  match session.toPreferences.save disk session.preferencesPath with
  | .ok disk => disk
  | .error _ => disk

end Session

end CodeBrowser
