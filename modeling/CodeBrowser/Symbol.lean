import CodeBrowser.SourceFile

/-!
# Symbols

A symbol source says which symbols a file refers to and where they are defined. Lines and columns
count from 1 here, and a reference covers the columns from its first up to, and without, its end.

## Main definitions

* `SymbolCategory`: the kinds of symbols, with their names.
* `Ref`, `Ref.span`: a reference, and the columns that it covers counted from 0.
* `SymbolLocation`: a place in some file.
* `SymbolSource`: what the viewer asks of a symbol database.
-/
namespace CodeBrowser

/-- The kind of a symbol. -/
inductive SymbolCategory where
  | nameSpace
  | structType
  | classType
  | unionType
  | enumType
  | typedef
  | field
  | globalVariable
  | function
  | method
  | localVariable
  | parameter
  | enumConstant
  | macroName
  deriving DecidableEq, Repr

namespace SymbolCategory

/-- All categories, in the order in which they are listed. -/
def all : List SymbolCategory :=
  [.nameSpace, .structType, .classType, .unionType, .enumType, .typedef, .field, .globalVariable,
    .function, .method, .localVariable, .parameter, .enumConstant, .macroName]

/-- The name that symbol indexes use. -/
def name : SymbolCategory → String
  | .nameSpace => "Namespace"
  | .structType => "Struct"
  | .classType => "Class"
  | .unionType => "Union"
  | .enumType => "Enum"
  | .typedef => "Typedef"
  | .field => "Field"
  | .globalVariable => "GlobalVariable"
  | .function => "Function"
  | .method => "Method"
  | .localVariable => "LocalVariable"
  | .parameter => "Parameter"
  | .enumConstant => "EnumConstant"
  | .macroName => "Macro"

/-- The category with a given name. -/
def ofName? (s : String) : Option SymbolCategory := all.find? (·.name == s)

/-- What is said of a name that no category has. -/
def unknownMessage (s : String) : String := "unknown symbol category: " ++ s

end SymbolCategory

/-- Identifies a symbol inside one symbol source, by a number of 32 bits. -/
abbrev SymbolId := UInt32

/-- A reference: the columns from `column` up to `endColumn` of a line mean `symbol`. -/
structure Ref where
  line : Nat
  column : Nat
  endColumn : Nat
  symbol : SymbolId
  deriving DecidableEq, Repr

/-- The columns that a reference covers, counted from 0. -/
structure RefSpan where
  line : Nat
  start : Nat
  stop : Nat
  symbol : SymbolId
  deriving DecidableEq, Repr

/-- The span of a reference, counted from 0. A 0 counts as 1, and an end before the start as an
empty span. -/
def Ref.span (r : Ref) : RefSpan :=
  ⟨r.line - 1, r.column - 1, max (r.endColumn - 1) (r.column - 1), r.symbol⟩

/-- A place in some file, counted from 1. -/
structure SymbolLocation where
  path : Path
  line : Nat
  column : Nat
  deriving DecidableEq, Repr

/-- The place as path, line and column. -/
def SymbolLocation.display (loc : SymbolLocation) : String :=
  s!"{loc.path.text}:{loc.line}:{loc.column}"

/-- A symbol database as the viewer sees it. -/
structure SymbolSource where
  /-- The references in a file, in the order of its lines. -/
  fileRefs : SourceFile → List Ref
  /-- The category of a symbol, if it is known. -/
  category : SymbolId → Option SymbolCategory
  /-- Whether the database knows the category at all. -/
  hasCategory : SymbolCategory → Bool
  /-- The names of the symbols referred to at a line and column. -/
  symbolsAt : SourceFile → Nat → Nat → List String
  /-- The definition of a symbol, if there is exactly one. -/
  definition? : String → Option SymbolLocation
  /-- Every reference to a symbol. -/
  references : String → List SymbolLocation

/-- The source that knows nothing. -/
def SymbolSource.empty : SymbolSource where
  fileRefs _ := []
  category _ := none
  hasCategory _ := false
  symbolsAt _ _ _ := []
  definition? _ := none
  references _ := []

end CodeBrowser
