import CodeBrowser.Color

/-!
# Themes

A theme gives colours to the parts of the view, to lexical kinds and to symbol categories.

## Main definitions

* `ViewColors`, `LexicalColors`, `SymbolColors`: the three groups of colours.
* `Theme`: a named theme.
* `Theme.light`, `Theme.dark`: the built-in themes.
-/
namespace CodeBrowser

/-- The colours of the text area and its gutter. -/
structure ViewColors where
  background : Color
  text : Color
  selectionBackground : Color
  selectionText : Color
  lineNumber : Color
  gutterBackground : Color
  gutterSeparator : Color
  deriving DecidableEq, Repr

/-- The colours of the lexical kinds. -/
structure LexicalColors where
  plain : Color
  comment : Color
  quoted : Color
  number : Color
  directive : Color
  keyword : Color
  deriving DecidableEq, Repr

/-- The colours of symbol categories. A category without a colour keeps its lexical one. -/
structure SymbolColors where
  globalVariable : Option Color
  field : Option Color
  nameSpace : Option Color
  structType : Option Color
  classType : Option Color
  unionType : Option Color
  enumType : Option Color
  typedef : Option Color
  deriving DecidableEq, Repr

/-- A named theme. -/
structure Theme where
  name : String
  isDark : Bool
  view : ViewColors
  lexical : LexicalColors
  symbols : SymbolColors
  deriving DecidableEq, Repr

/-- Variables, fields, and one colour for everything that names a type or a scope. -/
def SymbolColors.ofGroups (globals fields types : Color) : SymbolColors where
  globalVariable := some globals
  field := some fields
  nameSpace := some types
  structType := some types
  classType := some types
  unionType := some types
  enumType := some types
  typedef := some types

namespace Theme

/-- The built-in light theme, which also supplies the colours that a theme leaves out. -/
def light : Theme where
  name := "Light"
  isDark := false
  view :=
    { background := .white
      text := .black
      selectionBackground := .rgb 48 140 198
      selectionText := .white
      lineNumber := .rgb 128 128 128
      gutterBackground := .rgb 240 240 240
      gutterSeparator := .rgb 200 200 200 }
  lexical :=
    { plain := .black
      comment := .rgb 0 128 0
      quoted := .rgb 0 128 0
      number := .rgb 0 0 128
      directive := .rgb 0 0 128
      keyword := .rgb 128 128 0 }
  symbols := .ofGroups (.rgb 0 128 128) (.rgb 128 0 0) (.rgb 128 0 128)

/-- The built-in dark theme. -/
def dark : Theme where
  name := "Dark"
  isDark := true
  view :=
    { background := .rgb 30 30 30
      text := .rgb 212 212 212
      selectionBackground := .rgb 38 79 120
      selectionText := .white
      lineNumber := .rgb 120 120 120
      gutterBackground := .rgb 37 37 37
      gutterSeparator := .rgb 60 60 60 }
  lexical :=
    { plain := .rgb 212 212 212
      comment := .rgb 106 153 85
      quoted := .rgb 106 153 85
      number := .rgb 120 160 230
      directive := .rgb 120 160 230
      keyword := .rgb 220 200 110 }
  symbols := .ofGroups (.rgb 78 201 176) (.rgb 230 120 110) (.rgb 197 134 192)

/-- The first theme with a given name. -/
def find? (themes : List Theme) (name : String) : Option Theme := themes.find? (·.name == name)

end Theme

end CodeBrowser
