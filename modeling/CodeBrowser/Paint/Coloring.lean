import CodeBrowser.Lexical
import CodeBrowser.Symbol
import CodeBrowser.Theme

/-!
# Colouring

Each code unit of a file has the colour of its lexical kind, unless a reference covers it whose
symbol has a coloured category; the last such reference wins.

## Main definitions

* `Theme.lexicalColor`, `Theme.categoryColor`: what a theme says of kinds and categories.
* `CategoryPalette`: the colours of the categories that a symbol source knows.
* `ColorBuffer`: the colours of a file.
-/
namespace CodeBrowser

namespace Theme

/-- The colour of a lexical kind. -/
def lexicalColor (theme : Theme) : Lexical → Color
  | .plain => theme.lexical.plain
  | .comment => theme.lexical.comment
  | .quoted => theme.lexical.quoted
  | .number => theme.lexical.number
  | .directive => theme.lexical.directive
  | .keyword => theme.lexical.keyword

/-- The colour of a symbol category, if the theme gives it one. -/
def categoryColor (theme : Theme) : SymbolCategory → Option Color
  | .globalVariable => theme.symbols.globalVariable
  | .field => theme.symbols.field
  | .nameSpace => theme.symbols.nameSpace
  | .structType => theme.symbols.structType
  | .classType => theme.symbols.classType
  | .unionType => theme.symbols.unionType
  | .enumType => theme.symbols.enumType
  | .typedef => theme.symbols.typedef
  | .function | .method | .localVariable | .parameter | .enumConstant | .macroName => none

end Theme

/-! ### Palettes -/

/-- The colours of the categories that a symbol source knows. -/
structure CategoryPalette where
  entries : List (SymbolCategory × Color)

namespace CategoryPalette

/-- The palette of a symbol source under a theme. -/
def ofSource (symbols : SymbolSource) (theme : Theme) : CategoryPalette :=
  ⟨(SymbolCategory.all.filter symbols.hasCategory).filterMap fun category =>
    (theme.categoryColor category).map (category, ·)⟩

/-- The number of coloured categories. -/
def size (palette : CategoryPalette) : Nat := palette.entries.length

def isEmpty (palette : CategoryPalette) : Bool := palette.entries.isEmpty

/-- The colour of a category. -/
def find? (palette : CategoryPalette) (category : SymbolCategory) : Option Color :=
  palette.entries.lookup category

/-- The colour that a reference gives to what it covers. -/
def colorOf (palette : CategoryPalette) (symbols : SymbolSource) (ref : Ref) : Option Color :=
  (symbols.category ref.symbol).bind palette.find?

end CategoryPalette

/-! ### Buffers -/

/-- The colours of the code units of a file. -/
structure ColorBuffer where
  colors : Array Color
  deriving DecidableEq, Repr

namespace ColorBuffer

/-- The buffer of no file. -/
def empty : ColorBuffer := ⟨#[]⟩

/-- The number of units. -/
def size (buffer : ColorBuffer) : Nat := buffer.colors.size

/-- The colour of the unit at an offset. -/
def colorAt? (buffer : ColorBuffer) (offset : Nat) : Option Color := buffer.colors[offset]?

/-- The buffer with the `count` units from `start` on in one colour. -/
def fill (buffer : ColorBuffer) (start count : Nat) (color : Color) : ColorBuffer :=
  ⟨(List.range' start count).foldl (fun colors i => colors.setIfInBounds i color) buffer.colors⟩

/-- The buffer with the columns of a reference, as far as its line has them, in one colour. -/
def paintRef (buffer : ColorBuffer) (file : SourceFile) (ref : Ref) (color : Color) : ColorBuffer :=
  let span := ref.span
  if span.line < file.lineCount then
    let length := file.lineLength span.line
    let start := min span.start length
    buffer.fill (file.lineStart span.line + start) (min span.stop length - start) color
  else buffer

/-- The kinds of the units of a file: what the lexer says, made to fit. -/
def fitKinds (file : SourceFile) (lexer : Lexer) : List Lexical :=
  let kinds := (lexer file).take file.unitCount
  kinds ++ List.replicate (file.unitCount - kinds.length) .plain

/-- The colours that the lexical kinds alone give. -/
def lexical (file : SourceFile) (lexer : Lexer) (theme : Theme) : ColorBuffer :=
  ⟨((fitKinds file lexer).map theme.lexicalColor).toArray⟩

/-- The colours of a file. -/
def build (file : SourceFile) (lexer : Lexer) (symbols : SymbolSource) (theme : Theme) :
    ColorBuffer :=
  let palette := CategoryPalette.ofSource symbols theme
  let base := lexical file lexer theme
  if palette.isEmpty then base
  else
    (symbols.fileRefs file).foldl
      (fun buffer ref =>
        match palette.colorOf symbols ref with
        | some color => buffer.paintRef file ref color
        | none => buffer)
      base

end ColorBuffer

end CodeBrowser
