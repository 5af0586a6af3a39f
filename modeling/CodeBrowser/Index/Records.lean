import CodeBrowser.Symbol

/-!
# Records of a symbol index

An index is written as two lists of records: symbols with what is known of them, and references.

## Main definitions

* `SymbolRecord`, `RefRecord`: the records.
* `IndexData`: the records of an index.
-/
namespace CodeBrowser

/-- A symbol. One symbol may have several records. -/
structure SymbolRecord where
  name : String
  category : Option SymbolCategory
  definition : Option SymbolLocation
  deriving DecidableEq, Repr

/-- A reference in the file at `path`. -/
structure RefRecord where
  path : Path
  line : Nat
  column : Nat
  endColumn : Nat
  symbol : String
  deriving DecidableEq, Repr

/-- The records of an index. -/
structure IndexData where
  symbols : List SymbolRecord
  refs : List RefRecord
  deriving DecidableEq, Repr

end CodeBrowser
