import CodeBrowser.Symbol

/-!
# Cross-reference reports

## Main definitions

* `CrossReferences`: the known references to a symbol, as the user is shown them.
-/
namespace CodeBrowser

/-- A report of the known references to a symbol. -/
structure CrossReferences where
  symbol : String
  references : List SymbolLocation
  isOpen : Bool
  deriving DecidableEq, Repr

namespace CrossReferences

/-- A report that has just been opened. -/
def ofReferences (symbol : String) (references : List SymbolLocation) : CrossReferences :=
  ⟨symbol, references, true⟩

/-- The report of what a symbol source knows. -/
def ofSource (source : SymbolSource) (symbol : String) : CrossReferences :=
  ofReferences symbol (source.references symbol)

/-- The title of the report. -/
def title (report : CrossReferences) : String := "Cross-references: " ++ report.symbol

/-- What the report says above its list. -/
def summary (report : CrossReferences) : String :=
  if report.references.isEmpty then "No references found"
  else s!"{report.references.length} references"

/-- The report once the user is done with it. -/
def close (report : CrossReferences) : CrossReferences := { report with isOpen := false }

end CrossReferences

end CodeBrowser
