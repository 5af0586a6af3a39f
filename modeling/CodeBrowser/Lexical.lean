import CodeBrowser.SourceFile

/-!
# Lexical kinds

A lexer gives each code unit of a file a lexical kind, which a theme turns into a colour.

## Main definitions

* `Lexical`: the lexical kinds.
* `Lexer`: a function from files to the kinds of their units.
-/
namespace CodeBrowser

/-- The lexical kind of a code unit. -/
inductive Lexical where
  | plain
  | comment
  /-- String and character literals. -/
  | quoted
  | number
  /-- Preprocessor lines. -/
  | directive
  | keyword
  deriving DecidableEq, Repr

/-- The name of a kind. -/
def Lexical.name : Lexical → String
  | .plain => "Plain"
  | .comment => "Comment"
  | .quoted => "Quoted"
  | .number => "Number"
  | .directive => "Directive"
  | .keyword => "Keyword"

/-- All kinds. -/
def Lexical.all : List Lexical := [.plain, .comment, .quoted, .number, .directive, .keyword]

/-- Classifies the units of a file. A result that is too short or too long is allowed. -/
abbrev Lexer := SourceFile → List Lexical

/-- Takes everything for plain text. -/
def Lexer.plain : Lexer := fun file => List.replicate file.unitCount .plain

end CodeBrowser
