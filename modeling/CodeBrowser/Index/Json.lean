import CodeBrowser.Index.Table
import CodeBrowser.Json.Record
import CodeBrowser.Json.Value

/-!
# Symbol indexes as JSON

An index is an object of two arrays, each empty if left out. What is not known of a symbol is left
out or `null`.

## Main definitions

* `IndexData.readJson`: the reader of the records.
* `IndexData.toJson`: what is written.
-/
namespace CodeBrowser

open Json (Field RecordShape Reader Value)

namespace SymbolLocation

/-- The shape of a place. -/
def jsonShape : RecordShape SymbolLocation where
  start := ⟨⟨""⟩, 0, 0⟩
  fields :=
    [.of "path" Json.readString fun t s => { t with path := ⟨s⟩ },
      .of "line" Json.readNat fun t n => { t with line := n },
      .of "column" Json.readNat fun t n => { t with column := n }]
  required := ["path", "line", "column"]

def toJson (t : SymbolLocation) : Value :=
  .obj [("path", .str t.path.text), ("line", .nat t.line), ("column", .nat t.column)]

end SymbolLocation

namespace SymbolRecord

/-- The shape of a symbol record. -/
def jsonShape : RecordShape SymbolRecord where
  start := ⟨"", none, none⟩
  fields :=
    [.of "name" Json.readString fun t s => { t with name := s },
      .of "category" (Json.readOption (Json.readName SymbolCategory.ofName?))
        fun t c => { t with category := c },
      .of "definition" (Json.readOption (Json.readRecord SymbolLocation.jsonShape))
        fun t d => { t with definition := d }]
  required := ["name"]

/-- The category of a record, if any, as JSON. -/
def categoryToJson : Option SymbolCategory → Value
  | none => .null
  | some c => .str c.name

/-- The definition of a record, if any, as JSON. -/
def definitionToJson : Option SymbolLocation → Value
  | none => .null
  | some d => d.toJson

def toJson (t : SymbolRecord) : Value :=
  .obj
    [("name", .str t.name),
      ("category", categoryToJson t.category),
      ("definition", definitionToJson t.definition)]

end SymbolRecord

namespace RefRecord

/-- The shape of a reference record. -/
def jsonShape : RecordShape RefRecord where
  start := ⟨⟨""⟩, 0, 0, 0, ""⟩
  fields :=
    [.of "path" Json.readString fun t s => { t with path := ⟨s⟩ },
      .of "line" Json.readNat fun t n => { t with line := n },
      .of "column" Json.readNat fun t n => { t with column := n },
      .of "end_column" Json.readNat fun t n => { t with endColumn := n },
      .of "symbol" Json.readString fun t s => { t with symbol := s }]
  required := ["path", "line", "column", "end_column", "symbol"]

def toJson (t : RefRecord) : Value :=
  .obj
    [("path", .str t.path.text),
      ("line", .nat t.line),
      ("column", .nat t.column),
      ("end_column", .nat t.endColumn),
      ("symbol", .str t.symbol)]

end RefRecord

namespace IndexData

/-- The shape of an index. -/
def jsonShape : RecordShape IndexData where
  start := ⟨[], []⟩
  fields :=
    [.of "symbols" (Json.readList (Json.readRecord SymbolRecord.jsonShape))
        fun t l => { t with symbols := l },
      .of "refs" (Json.readList (Json.readRecord RefRecord.jsonShape))
        fun t l => { t with refs := l }]
  required := []

/-- Reads the records of an index. -/
def readJson : Reader IndexData := Json.readRecord jsonShape

def toJson (t : IndexData) : Value :=
  .obj
    [("symbols", .arr (t.symbols.map SymbolRecord.toJson)),
      ("refs", .arr (t.refs.map RefRecord.toJson))]

end IndexData

/-- The index that a text describes; its paths stay as written. -/
def SymbolIndex.ofJson (text : String) : Except Json.Fault SymbolIndex :=
  (Json.read IndexData.readJson text).map (ofData · none)

end CodeBrowser
