import CodeBrowser.Navigation.CrossReferences
import CodeBrowser.Preferences
import CodeBrowser.Session.FileCache
import CodeBrowser.Session.Status
import CodeBrowser.Session.Surroundings
import CodeBrowser.Widget.Frame

/-!
# Sessions

A session is the whole program at work: the widget, the files that have been opened, the history of
the places that have been visited, and the settings of the user.

## Main definitions

* `Session`: the session.
* `Visit`: a place in the history.
* `Session.setTheme`, `Session.setFontSize`, `Session.setShowsNumbers`: the settings.
* `Session.loadIndex`: loads a symbol index.
* `Session.toPreferences`: the preferences to be stored.
-/
namespace CodeBrowser

/-- A place that the user has been at: a file, and the part of it that was shown. -/
structure Visit where
  path : Path
  origin : Point Float32

/-- The menus of the menu bar. -/
inductive BarMenu where
  | file
  | go
  | view
  deriving DecidableEq, Repr

/-- The menus inside the view menu. -/
inductive Submenu where
  | fontSize
  | theme
  deriving DecidableEq, Repr

/-- What is open of the menu bar. -/
structure MenuBar where
  menu : Option BarMenu
  submenu : Option Submenu
  deriving DecidableEq, Repr

/-- The menu bar with all menus closed. -/
def MenuBar.closed : MenuBar := ⟨none, none⟩

/-- The program at work. -/
structure Session where
  widget : Widget Float32
  pointer : Pointer Float32
  /-- The settings in use. The index path among them is the one that was stored. -/
  settings : Preferences
  preferencesPath : Path
  history : History Visit
  files : FileCache
  /-- The index that is in use. -/
  indexPath : Option Path
  status : Status
  report : Option CrossReferences
  /-- The line and column, counted from 1, to be selected in the first frame. -/
  pendingSelection : Option (Nat × Nat)
  menuBar : MenuBar

namespace Session

/-- The session with its widget changed. -/
def mapWidget (session : Session) (f : Widget Float32 → Widget Float32) : Session :=
  { session with widget := f session.widget }

/-- The file on display. -/
def file (session : Session) : Option SourceFile := session.widget.view.file

/-- The path of the file on display, as far as it has one. -/
def displayedPath? (session : Session) : Option Path := session.file.bind (·.path)

/-- The session with a status to be shown. -/
def say (session : Session) (status : Status) : Session := { session with status := status }

/-! ### Themes -/

/-- The theme of a choice. Where there is none, the choice falls back to the desktop's theme. -/
def themeFor (themes : List Theme) (choice : ThemeChoice) (desktop : Desktop := .neutral) :
    ThemeChoice × Theme :=
  match Theme.find? themes (choice.resolve desktop) with
  | some theme => (choice, theme)
  | none => (.system, (Theme.find? themes desktop.themeName).getD .dark)

/-- Changes the theme. -/
def setTheme (session : Session) (choice : ThemeChoice) (desktop : Desktop := .neutral) : Session :=
  let (choice, theme) := themeFor session.settings.themes choice desktop
  { session.mapWidget (·.setTheme theme) with
    settings := { session.settings with themeName := choice.name } }

/-! ### Other settings -/

/-- The smallest and the largest font. -/
def minFontSize : Float32 := 6

def maxFontSize : Float32 := 72

/-- Changes the size of the font, within its limits. -/
def setFontSize (session : Session) (size : Float32) : Session :=
  let size := Scalar.clamp size minFontSize maxFontSize
  { session.mapWidget (·.setFontSize size) with
    settings := { session.settings with fontSize := size } }

/-- Shows or hides the line numbers. -/
def setShowsNumbers (session : Session) (shows : Bool) : Session :=
  { session.mapWidget (·.setShowsNumbers shows) with
    settings := { session.settings with showLineNumbers := shows } }

/-! ### The index -/

/-- Loads a symbol index: why it cannot, if so, and the session after it. -/
def loadIndex (session : Session) (disk : Disk) (path : Path) : Except IndexError Unit × Session :=
  match SymbolIndex.load disk path with
  | .error e => (.error e, session)
  | .ok index =>
    let session := session.say (.indexLoaded index.symbolCount)
    (.ok (), { session.mapWidget (·.setSymbols index.source) with indexPath := some path })

/-- Loads a symbol index, or says why it cannot. -/
def loadIndexOrReport (session : Session) (disk : Disk) (path : Path) : Session :=
  match session.loadIndex disk path with
  | (.ok (), session) => session
  | (.error e, session) => session.say (.indexFailed e)

/-- Opens the report of the references to a symbol. -/
def showReport (session : Session) (symbol : String) : Session :=
  { session with report := some (.ofSource session.widget.view.symbols symbol) }

/-- Closes the report. A closed report is not kept. -/
def closeReport (session : Session) : Session :=
  { session with report := (session.report.map (·.close)).filter (·.isOpen) }

/-! ### Preferences -/

/-- The preferences to be stored: the settings, and the index in use. -/
def toPreferences (session : Session) : Preferences :=
  { session.settings with
    lastIndexPath :=
      match session.indexPath with
      | some path => path.text
      | none => "" }

end Session

end CodeBrowser
