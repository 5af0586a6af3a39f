import CodeBrowser.Json.Record
import CodeBrowser.Json.Value
import CodeBrowser.Theme

/-!
# Themes as JSON

Colours are strings, and a category without a colour is `null`. A group of colours that is left out
is that of the light theme, and so is every colour left out of a group; the name of a theme and
whether it is dark have to be given.

## Main definitions

* `Color.readJson`, `Theme.readJson`: the readers.
* `Color.toJson`, `Theme.toJson`: what is written.
-/
namespace CodeBrowser

open Json (Field RecordShape Reader Value)

/-- Reads a colour. -/
def Color.readJson : Reader Color := Json.readText Color.parse?

/-- A colour as JSON. -/
def Color.toJson (c : Color) : Value := .str c.hex

/-- A colour that may be missing as JSON. -/
def Color.optionToJson : Option Color → Value
  | none => .null
  | some c => c.toJson

namespace ViewColors

/-- The shape of the colours of the view. -/
def jsonShape : RecordShape ViewColors where
  start := Theme.light.view
  fields :=
    [.of "background" Color.readJson fun t c => { t with background := c },
      .of "text" Color.readJson fun t c => { t with text := c },
      .of "selection_background" Color.readJson fun t c => { t with selectionBackground := c },
      .of "selection_text" Color.readJson fun t c => { t with selectionText := c },
      .of "line_number" Color.readJson fun t c => { t with lineNumber := c },
      .of "gutter_background" Color.readJson fun t c => { t with gutterBackground := c },
      .of "gutter_separator" Color.readJson fun t c => { t with gutterSeparator := c }]
  required := []

def toJson (t : ViewColors) : Value :=
  .obj
    [("background", t.background.toJson),
      ("text", t.text.toJson),
      ("selection_background", t.selectionBackground.toJson),
      ("selection_text", t.selectionText.toJson),
      ("line_number", t.lineNumber.toJson),
      ("gutter_background", t.gutterBackground.toJson),
      ("gutter_separator", t.gutterSeparator.toJson)]

end ViewColors

namespace LexicalColors

/-- The shape of the colours of lexical kinds. -/
def jsonShape : RecordShape LexicalColors where
  start := Theme.light.lexical
  fields :=
    [.of "plain" Color.readJson fun t c => { t with plain := c },
      .of "comment" Color.readJson fun t c => { t with comment := c },
      .of "quoted" Color.readJson fun t c => { t with quoted := c },
      .of "number" Color.readJson fun t c => { t with number := c },
      .of "directive" Color.readJson fun t c => { t with directive := c },
      .of "keyword" Color.readJson fun t c => { t with keyword := c }]
  required := []

def toJson (t : LexicalColors) : Value :=
  .obj
    [("plain", t.plain.toJson),
      ("comment", t.comment.toJson),
      ("quoted", t.quoted.toJson),
      ("number", t.number.toJson),
      ("directive", t.directive.toJson),
      ("keyword", t.keyword.toJson)]

end LexicalColors

namespace SymbolColors

/-- Reads a colour or `null`. -/
def readColor : Reader (Option Color) := Json.readOption Color.readJson

/-- The shape of the colours of symbol categories. -/
def jsonShape : RecordShape SymbolColors where
  start := Theme.light.symbols
  fields :=
    [.of "global_variable" readColor fun t c => { t with globalVariable := c },
      .of "field" readColor fun t c => { t with field := c },
      .of "namespace" readColor fun t c => { t with nameSpace := c },
      .of "struct" readColor fun t c => { t with structType := c },
      .of "class" readColor fun t c => { t with classType := c },
      .of "union" readColor fun t c => { t with unionType := c },
      .of "enum" readColor fun t c => { t with enumType := c },
      .of "typedef" readColor fun t c => { t with typedef := c }]
  required := []

def toJson (t : SymbolColors) : Value :=
  .obj
    [("global_variable", Color.optionToJson t.globalVariable),
      ("field", Color.optionToJson t.field),
      ("namespace", Color.optionToJson t.nameSpace),
      ("struct", Color.optionToJson t.structType),
      ("class", Color.optionToJson t.classType),
      ("union", Color.optionToJson t.unionType),
      ("enum", Color.optionToJson t.enumType),
      ("typedef", Color.optionToJson t.typedef)]

end SymbolColors

namespace Theme

/-- The shape of a theme. -/
def jsonShape : RecordShape Theme where
  start := { light with name := "" }
  fields :=
    [.of "name" Json.readString fun t s => { t with name := s },
      .of "dark_mode" Json.readBool fun t b => { t with isDark := b },
      .of "view" (Json.readRecord ViewColors.jsonShape) fun t v => { t with view := v },
      .of "syntax" (Json.readRecord LexicalColors.jsonShape) fun t v => { t with lexical := v },
      .of "symbols" (Json.readRecord SymbolColors.jsonShape) fun t v => { t with symbols := v }]
  required := ["name", "dark_mode"]

/-- Reads a theme. -/
def readJson : Reader Theme := Json.readRecord jsonShape

def toJson (t : Theme) : Value :=
  .obj
    [("name", .str t.name),
      ("dark_mode", .bool t.isDark),
      ("view", t.view.toJson),
      ("syntax", t.lexical.toJson),
      ("symbols", t.symbols.toJson)]

end Theme

end CodeBrowser
