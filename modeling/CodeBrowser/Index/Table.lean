import CodeBrowser.Index.Records

/-!
# Symbol indexes in memory

The records of an index are gathered by symbol and by file. Symbols are numbered in the order in
which they first appear, symbol records before references; files are kept in the order of their
first reference, and the references of a file by line and column.

The number of a symbol is its place among the symbols, but only the low 32 bits of it. Behind the
first 2 ^ 32 symbols the numbers begin again at 0, and what is asked of a symbol there is asked of
the one that had its number first.

## Main definitions

* `SymbolIndex`: the gathered index.
* `SymbolIndex.idOf?`, `SymbolIndex.symbol?`: the number of a name, and the symbol of a number.
* `SymbolIndex.ofData`: the index of some records.
* `SymbolIndex.refsFor`: the references of the indexed file that answers for a displayed path.
* `SymbolIndex.source`: the index as a symbol source.
-/
namespace CodeBrowser

/-- What an index knows of a symbol. -/
structure SymbolEntry where
  name : String
  category : Option SymbolCategory
  /-- The definitions recorded, in order. -/
  definitions : List SymbolLocation
  deriving DecidableEq, Repr

/-- A symbol index. -/
structure SymbolIndex where
  /-- The symbols, in the order in which they were taken up. -/
  symbols : List SymbolEntry
  /-- The categories that some record names. -/
  categories : List SymbolCategory
  /-- The references of each file. -/
  files : List (Path × List Ref)
  deriving Repr

namespace SymbolIndex

def empty : SymbolIndex := ⟨[], [], []⟩

/-- The number of a name. -/
def idOf? (index : SymbolIndex) (name : String) : Option SymbolId :=
  (index.symbols.findIdx? (·.name == name)).map UInt32.ofNat

/-- The symbol of a number. -/
def symbol? (index : SymbolIndex) (id : SymbolId) : Option SymbolEntry := index.symbols[id.toNat]?

/-- The index with the name among its symbols, and the number of the name. -/
def intern (index : SymbolIndex) (name : String) : SymbolIndex × SymbolId :=
  match index.idOf? name with
  | some id => (index, id)
  | none =>
    ({ index with symbols := index.symbols ++ [⟨name, none, []⟩] }, UInt32.ofNat index.symbols.length)

/-! ### Building -/

/-- A path of the index, seen from the directory that relative paths start from. -/
def resolve (base : Option Path) (path : Path) : Path :=
  match base with
  | some dir => dir.join path
  | none => path

/-- A definition with its path resolved. -/
def resolveLocation (base : Option Path) (loc : SymbolLocation) : SymbolLocation :=
  { loc with path := resolve base loc.path }

/-- What a symbol is known to be once a record is added. -/
def SymbolEntry.update (base : Option Path) (record : SymbolRecord) (entry : SymbolEntry) :
    SymbolEntry where
  name := entry.name
  category := record.category.or entry.category
  definitions := entry.definitions ++ (record.definition.map (resolveLocation base)).toList

/-- Adds a symbol record. -/
def addSymbol (base : Option Path) (index : SymbolIndex) (record : SymbolRecord) : SymbolIndex :=
  let (index, id) := index.intern record.name
  { index with
    symbols := index.symbols.modify id.toNat (SymbolEntry.update base record)
    categories := index.categories ++ record.category.toList }

/-- Adds a reference to the file at `path`, after the references already there. -/
def addToFile (path : Path) (r : Ref) : List (Path × List Ref) → List (Path × List Ref)
  | [] => [(path, [r])]
  | (p, refs) :: rest =>
    if p.same path then (p, refs ++ [r]) :: rest else (p, refs) :: addToFile path r rest

/-- Adds a reference record. -/
def addRef (base : Option Path) (index : SymbolIndex) (record : RefRecord) : SymbolIndex :=
  let (index, id) := index.intern record.symbol
  let r : Ref := ⟨record.line, record.column, record.endColumn, id⟩
  { index with files := addToFile (resolve base record.path) r index.files }

/-- Whether a reference stands at or before the start of another. -/
def startsBefore (a b : Ref) : Bool := a.line < b.line || (a.line == b.line && a.column ≤ b.column)

/-- The references of each file by line and column, in recorded order where these agree. -/
def sortFiles (index : SymbolIndex) : SymbolIndex :=
  { index with files := index.files.map fun (path, refs) => (path, refs.mergeSort startsBefore) }

/-- The index of some records, relative paths starting from `base`. -/
def ofData (data : IndexData) (base : Option Path) : SymbolIndex :=
  let index := data.symbols.foldl (addSymbol base) empty
  (data.refs.foldl (addRef base) index).sortFiles

/-- The number of symbols. -/
def symbolCount (index : SymbolIndex) : Nat := index.symbols.length

/-- The number of references. -/
def refCount (index : SymbolIndex) : Nat := (index.files.flatMap (·.2)).length

/-! ### Looking up -/

/-- How many last components an indexed path shares with a displayed one, if one of the two ends
with the other. -/
def shared? (displayed indexed : Path) : Option Nat :=
  if displayed.endsWith indexed then some indexed.components.length
  else if indexed.endsWith displayed then some displayed.components.length
  else none

/-- Whether the first candidate is preferred: it shares more components, or as many and its path is
the smaller one. -/
def preferred (a b : Nat × Path × List Ref) : Bool :=
  b.1 < a.1 || (a.1 == b.1 && (a.2.1.compare b.2.1).isLT)

/-- The better of a candidate and the best one so far. -/
def better (best : Option (Nat × Path × List Ref)) (next : Nat × Path × List Ref) :
    Option (Nat × Path × List Ref) :=
  match best with
  | none => some next
  | some b => if preferred next b then some next else some b

/-- The indexed file that answers for a displayed path: the one with that path, else the best of
those whose path ends with the displayed one or is an ending of it. -/
def answering? (index : SymbolIndex) (path : Path) : Option (Path × List Ref) :=
  match index.files.find? (·.1.same path) with
  | some file => some file
  | none =>
    let candidates := index.files.filterMap fun file => (shared? path file.1).map (·, file)
    (candidates.foldl better none).map (·.2)

/-- The references recorded for a file; none for a file without a path. -/
def refsFor (index : SymbolIndex) (file : SourceFile) : List Ref :=
  match file.path.bind index.answering? with
  | some (_, refs) => refs
  | none => []

/-- Adds a name unless it is there already. -/
def addName (names : List String) (name : String) : List String :=
  if names.contains name then names else names ++ [name]

/-- Whether a reference covers a line and column. -/
def covers (line column : Nat) (r : Ref) : Bool :=
  r.line == line && r.column ≤ column && column < r.endColumn

/-- The names of the symbols referred to at a line and column, each once, in visiting order. -/
def symbolsAt (index : SymbolIndex) (file : SourceFile) (line column : Nat) : List String :=
  let hits := (index.refsFor file).filter (covers line column)
  (hits.filterMap fun r => (index.symbol? r.symbol).map (·.name)).foldl addName []

/-- The definition of a symbol, if exactly one is recorded. -/
def definition? (index : SymbolIndex) (name : String) : Option SymbolLocation :=
  match ((index.idOf? name).bind index.symbol?).map (·.definitions) with
  | some [definition] => some definition
  | _ => none

/-- Whether a place comes at or before another: by path, line and column. -/
def locationLE (a b : SymbolLocation) : Bool :=
  ((a.path.compare b.path).then ((compareOfLessAndEq a.line b.line).then
    (compareOfLessAndEq a.column b.column))).isLE

/-- Every reference to a symbol, by path, line and column. -/
def references (index : SymbolIndex) (name : String) : List SymbolLocation :=
  match index.idOf? name with
  | none => []
  | some id =>
    let all := index.files.flatMap fun (path, refs) =>
      (refs.filter (·.symbol == id)).map fun r => ⟨path, r.line, r.column⟩
    all.mergeSort locationLE

/-- The index as a symbol source. -/
def source (index : SymbolIndex) : SymbolSource where
  fileRefs := index.refsFor
  category id := (index.symbol? id).bind (·.category)
  hasCategory c := index.categories.contains c
  symbolsAt := index.symbolsAt
  definition? := index.definition?
  references := index.references

end SymbolIndex

end CodeBrowser
