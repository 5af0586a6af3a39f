import CodeBrowser.Session.Basic

/-!
# The elements of the window

Around the text the window shows a menu bar, a status bar, the context menu and the report of
references. Their elements are listed in the order in which they are drawn, each with its label and
with what a click on it does.

## Main definitions

* `Command`: what a click on an element does.
* `Element`: a label and its command.
* `Session.elements`: the elements that a session shows.
* `MenuBar.click`: what a click leaves open of the menu bar.
-/
namespace CodeBrowser

/-- What a click on an element does. -/
inductive Command where
  | toggleMenu (menu : BarMenu)
  | openSubmenu (submenu : Submenu)
  | goBack
  | goForward
  | scrollToTop
  | scrollToBottom
  | setShowsNumbers (shows : Bool)
  | setFontSize (size : Float32)
  | setTheme (choice : ThemeChoice)
  /-- Picks an entry of the context menu. -/
  | pick (action : MenuAction)
  /-- Goes to a reference of the report, which is closed. -/
  | follow (target : SymbolLocation)
  | closeReport

/-- An element of the window. A text and a disabled entry have no command. -/
structure Element where
  label : String
  command : Option Command

namespace Element

/-- An element that does nothing. -/
def text (label : String) : Element := ⟨label, none⟩

/-- An element with a command. -/
def button (label : String) (command : Command) : Element := ⟨label, some command⟩

/-- An element with a command that may be out of use. -/
def entry (label : String) (isEnabled : Bool) (command : Command) : Element :=
  ⟨label, if isEnabled then some command else none⟩

/-- Whether some characters occur side by side in a text. -/
def occurs (chars : List Char) : List Char → Bool
  | [] => chars.isEmpty
  | c :: rest => chars.isPrefixOf (c :: rest) || occurs chars rest

/-- Whether the label of an element contains a text. -/
def mentions (element : Element) (text : String) : Bool := occurs text.toList element.label.toList

end Element

/-- What a click on an element leaves open of the menu bar. Only the buttons that open a menu leave
one open, and the button of an open menu closes it. -/
def MenuBar.click (bar : MenuBar) : Option Command → MenuBar
  | some (.toggleMenu menu) => if bar.menu = some menu then .closed else ⟨some menu, none⟩
  | some (.openSubmenu submenu) => { bar with submenu := some submenu }
  | _ => .closed

/-- The entries of a context menu. -/
def ContextMenu.elements : ContextMenu → List Element
  | .general history =>
    [.entry "Back" history.back (.pick .back), .entry "Forward" history.forward (.pick .forward),
      .button "Copy File Path" (.pick .copyPath), .button "Reveal in Sidebar" (.pick .reveal)]
  | .symbols [] => [.text "No symbols found"]
  | .symbols names =>
    names.flatMap fun name =>
      [.text name, .button "Cross-references..." (.pick (.crossReferences name))]

/-- The elements of the window of a report. -/
def CrossReferences.elements (report : CrossReferences) : List Element :=
  .text report.title :: .button "Close window" .closeReport :: .text report.summary
    :: report.references.map fun target => .button target.display (.follow target)

namespace Session

/-! ### The menu bar -/

/-- The entries of the file menu. Its dialogs belong to the desktop. -/
def fileMenu : List Element := [.text "Open...", .text "Open Index...", .text "Exit"]

/-- The entries of the menu that moves about. -/
def goMenu (session : Session) : List Element :=
  let history := session.history.availability
  [.entry "Back        Alt+Left" history.back .goBack,
    .entry "Forward     Alt+Right" history.forward .goForward,
    .button "Top         Home" .scrollToTop, .button "Bottom      End" .scrollToBottom]

/-- The entries of the menu of font sizes. -/
def fontSizeMenu (session : Session) : List Element :=
  let size := session.settings.fontSize
  [.button "Larger" (.setFontSize (size + 1)), .button "Smaller" (.setFontSize (size - 1)),
    .button "Reset" (.setFontSize Widget.defaultFontSize)]

/-- The entries of the menu of themes. -/
def themeMenu (session : Session) : List Element :=
  .button ThemeChoice.system.name (.setTheme .system)
    :: session.settings.themes.map fun theme => .button theme.name (.setTheme (.ofName theme.name))

/-- A button of the view menu that opens a menu of its own, with that menu's entries if it is
open. -/
def submenuElements (session : Session) (label : String) (submenu : Submenu)
    (entries : List Element) : List Element :=
  .button (label ++ " ⏵") (.openSubmenu submenu)
    :: if session.menuBar.submenu = some submenu then entries else []

/-- The entries of the view menu. -/
def viewMenu (session : Session) : List Element :=
  .button "Line Numbers" (.setShowsNumbers !session.settings.showLineNumbers)
    :: (session.submenuElements "Font Size" .fontSize session.fontSizeMenu
      ++ session.submenuElements "Theme" .theme session.themeMenu)

/-- A button of the menu bar, with the entries of its menu if that is open. -/
def menuElements (session : Session) (label : String) (menu : BarMenu) (entries : List Element) :
    List Element :=
  .button label (.toggleMenu menu) :: if session.menuBar.menu = some menu then entries else []

/-- The menu bar with what is open of it. -/
def barElements (session : Session) : List Element :=
  session.menuElements "File" .file fileMenu ++ session.menuElements "Go" .go session.goMenu
    ++ session.menuElements "View" .view session.viewMenu

/-! ### The status bar -/

/-- What the status bar says of the file on display. -/
def fileTexts (session : Session) : List String :=
  match session.file with
  | none => ["No file"]
  | some file => [file.encoding.displayName, s!"{file.lineCount} lines"]

/-- The message in the status bar, if there is one. -/
def statusTexts (session : Session) : List String :=
  if session.status.text.isEmpty then [] else [session.status.text]

/-- What the status bar says of the index: the name of its file. -/
def indexTexts (session : Session) : List String :=
  match session.indexPath with
  | none => []
  | some path => ["Index: " ++ path.fileName?.getD path.text]

/-- What the status bar says of where the file on display is. -/
def pathTexts (session : Session) : List String :=
  (session.displayedPath?.map (·.text)).toList

/-- The status bar. -/
def statusElements (session : Session) : List Element :=
  (session.fileTexts ++ session.statusTexts ++ session.pathTexts ++ session.indexTexts).map .text

/-! ### The window -/

/-- The elements that a session shows. -/
def elements (session : Session) : List Element :=
  session.barElements ++ session.statusElements
    ++ (session.widget.menu.map (·.entries.elements)).getD []
    ++ (session.report.map (·.elements)).getD []

/-- The first element whose label contains a text. -/
def elementWith? (session : Session) (text : String) : Option Element :=
  session.elements.find? (·.mentions text)

/-- Whether an element has a label. -/
def shows (session : Session) (label : String) : Bool :=
  session.elements.any (·.label == label)

end Session

end CodeBrowser
