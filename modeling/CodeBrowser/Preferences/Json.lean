import CodeBrowser.Preferences
import CodeBrowser.Theme.Json

/-!
# Preferences as JSON

Every field may be left out and is then at its default.

## Main definitions

* `Preferences.readJson`: the reader.
* `Preferences.toJson`: what is written.
-/
namespace CodeBrowser

open Json (Field RecordShape Reader Value)

namespace Margins

/-- The shape of margins. -/
def jsonShape : RecordShape (Margins Float32) where
  start := .standard
  fields :=
    [.of "left" Json.readFloat fun t x => { t with left := x },
      .of "top" Json.readFloat fun t x => { t with top := x },
      .of "right" Json.readFloat fun t x => { t with right := x },
      .of "bottom" Json.readFloat fun t x => { t with bottom := x }]
  required := []

def toJson (t : Margins Float32) : Value :=
  .obj
    [("left", .number t.left),
      ("top", .number t.top),
      ("right", .number t.right),
      ("bottom", .number t.bottom)]

end Margins

namespace Preferences

/-- The shape of preferences. -/
def jsonShape : RecordShape Preferences where
  start := standard
  fields :=
    [.of "current_theme" Json.readString fun t s => { t with themeName := s },
      .of "font_size" Json.readFloat fun t x => { t with fontSize := x },
      .of "tab_stop_size" Json.readNat fun t n => { t with tabStop := n },
      .of "show_line_numbers" Json.readBool fun t b => { t with showLineNumbers := b },
      .of "view_margins" (Json.readRecord Margins.jsonShape) fun t m => { t with viewMargins := m },
      .of "gutter_margins" (Json.readRecord Margins.jsonShape)
        fun t m => { t with gutterMargins := m },
      .of "last_index_path" Json.readString fun t s => { t with lastIndexPath := s },
      .of "themes" (Json.readList Theme.readJson) fun t l => { t with themes := l }]
  required := []

/-- Reads preferences. -/
def readJson : Reader Preferences := Json.readRecord jsonShape

def toJson (t : Preferences) : Value :=
  .obj
    [("current_theme", .str t.themeName),
      ("font_size", .number t.fontSize),
      ("tab_stop_size", .nat t.tabStop),
      ("show_line_numbers", .bool t.showLineNumbers),
      ("view_margins", t.viewMargins.toJson),
      ("gutter_margins", t.gutterMargins.toJson),
      ("last_index_path", .str t.lastIndexPath),
      ("themes", .arr (t.themes.map Theme.toJson))]

end Preferences

end CodeBrowser
