import CodeBrowser.Preferences

/-!
# The choice of a theme

## Main definitions

* `ThemeChoice`: a theme of the user's, or that of the desktop.
* `Desktop`: what the desktop prefers.
-/
namespace CodeBrowser

/-- What the desktop prefers. -/
inductive Desktop where
  | light
  | dark
  /-- It expresses no preference. -/
  | neutral
  deriving DecidableEq, Repr

/-- The name of the theme of a desktop: the dark one unless the desktop asks for the light one. -/
def Desktop.themeName : Desktop → String
  | .light => "Light"
  | .dark | .neutral => "Dark"

/-- The user's choice of a theme. -/
inductive ThemeChoice where
  /-- Whatever the desktop prefers. -/
  | system
  | named (name : String)
  deriving DecidableEq, Repr

namespace ThemeChoice

/-- The choice that preferences write by a name. -/
def ofName (name : String) : ThemeChoice :=
  if name = Preferences.systemTheme then .system else .named name

/-- The name that preferences write. -/
def name : ThemeChoice → String
  | .system => Preferences.systemTheme
  | .named name => name

/-- The name of the chosen theme on a desktop. -/
def resolve (choice : ThemeChoice) (desktop : Desktop := .neutral) : String :=
  match choice with
  | .system => desktop.themeName
  | .named name => name

end ThemeChoice

end CodeBrowser
