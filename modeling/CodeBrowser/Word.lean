import CodeBrowser.Location

/-!
# Words

The word at a location is what a click there selects: the run of identifier characters around it, or
else the single character that stands there.

## Main definitions

* `isIdentifierUnit`: ASCII letters, digits and the underscore.
* `SourceFile.wordAt`: the word at a location.
-/
namespace CodeBrowser

/-- ASCII letters, digits and the underscore. -/
def isIdentifierUnit (u : CodeUnit) : Bool :=
  (0x30 ≤ u && u ≤ 0x39) || (0x41 ≤ u && u ≤ 0x5A) || (0x61 ≤ u && u ≤ 0x7A) || u == 0x5F

/-- The column where the character at `column` starts: a low half belongs to the pair before it. -/
def charStart (content : List CodeUnit) (column : Nat) : Nat :=
  if 0 < column && isPairAt content (column - 1) then column - 1 else column

/-- The number of units of the character that starts at `column`. -/
def charLength (content : List CodeUnit) (column : Nat) : Nat :=
  if isPairAt content column then 2 else 1

/-- The columns of the word at `column`, which names a unit of `content`. -/
def wordColumns (content : List CodeUnit) (column : Nat) : Nat × Nat :=
  let column := charStart content column
  if content[column]?.any isIdentifierUnit then
    let before := ((content.take column).reverse.takeWhile isIdentifierUnit).length
    let after := ((content.drop column).takeWhile isIdentifierUnit).length
    (column - before, column + after)
  else (column, column + charLength content column)

/-- The word at a location, or the empty range where no character stands. -/
def SourceFile.wordAt (file : SourceFile) (loc : Location) : TextRange :=
  if loc.pointsAtChar file then
    let (start, stop) := wordColumns (file.lineContent loc.line) loc.column
    .onLine loc.line start stop
  else .none

end CodeBrowser
