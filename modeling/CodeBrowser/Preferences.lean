import CodeBrowser.Geometry.Margins
import CodeBrowser.Path
import CodeBrowser.Theme

/-!
# Preferences

What the viewer remembers between sessions. Whatever was stored, the values in use are brought into
their ranges, the built-in themes are present and the chosen theme exists.

## Main definitions

* `Preferences`, `Preferences.standard`: the preferences and their defaults.
* `Preferences.withBuiltins`: the preferences with the built-in themes among theirs.
* `Preferences.sanitized`: the preferences with each value in its range.
-/
namespace CodeBrowser

/-- What the viewer remembers. -/
structure Preferences where
  /-- The name of a theme, or `System`. -/
  themeName : String
  fontSize : Float32
  /-- The columns between tab stops. -/
  tabStop : Nat
  showLineNumbers : Bool
  viewMargins : Margins Float32
  gutterMargins : Margins Float32
  /-- The index to load at the start; empty for none. -/
  lastIndexPath : String
  themes : List Theme

namespace Preferences

/-- The name that stands for the theme of the desktop. -/
def systemTheme : String := "System"

/-- The preferences of a first session. -/
def standard : Preferences where
  themeName := systemTheme
  fontSize := 14
  tabStop := 8
  showLineNumbers := true
  viewMargins := .standard
  gutterMargins := .gutter
  lastIndexPath := ""
  themes := [.light, .dark]

/-! ### Built-in themes -/

/-- Whether a theme of that name is there. -/
def hasTheme (themes : List Theme) (name : String) : Bool := themes.any (·.name == name)

/-- The themes with the light one in front unless there is one of its name. -/
def withLight (themes : List Theme) : List Theme :=
  if hasTheme themes "Light" then themes else .light :: themes

/-- The themes with the dark one in second place unless there is one of its name. -/
def withDark : List Theme → List Theme
  | [] => [.dark]
  | first :: rest =>
    if hasTheme (first :: rest) "Dark" then first :: rest else first :: .dark :: rest

/-- The preferences with both built-in themes. A stored theme of the same name takes precedence. -/
def withBuiltins (p : Preferences) : Preferences :=
  { p with themes := withDark (withLight p.themes) }

/-! ### Ranges -/

/-- The number of the interval from `low` to `high` closest to `x`; `fallback` if `x` is not
finite. -/
def fit (low high fallback x : Float32) : Float32 :=
  if x.isFinite then
    if low ≤ x then if x ≤ high then x else high else low
  else fallback

/-- Margins of 0 to 64 points. -/
def fitMargins (m : Margins Float32) : Margins Float32 :=
  ⟨fit 0 64 0 m.left, fit 0 64 0 m.top, fit 0 64 0 m.right, fit 0 64 0 m.bottom⟩

/-- The preferences with each value in its range. A theme that is not there gives way to the
desktop's. -/
def sanitized (p : Preferences) : Preferences where
  themeName :=
    if p.themeName ≠ systemTheme ∧ ¬hasTheme p.themes p.themeName then systemTheme
    else p.themeName
  fontSize := fit 6 72 14 p.fontSize
  tabStop := min (max p.tabStop 1) 32
  showLineNumbers := p.showLineNumbers
  viewMargins := fitMargins p.viewMargins
  gutterMargins := fitMargins p.gutterMargins
  lastIndexPath := p.lastIndexPath
  themes := p.themes

/-- The index to load at the start. -/
def indexPath? (p : Preferences) : Option Path :=
  if p.lastIndexPath.isEmpty then none else some ⟨p.lastIndexPath⟩

end Preferences

end CodeBrowser
