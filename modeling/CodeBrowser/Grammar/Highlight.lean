import CodeBrowser.Grammar
import CodeBrowser.Lexical

/-!
# Highlighting

## Main definitions

* `CSyntax.kinds`: the lexical kinds of the characters of a C text.
* `Lexer.byGrammar`: the lexer that goes by the grammar of a file.
-/
namespace CodeBrowser

namespace CSyntax

/-- The words that C reserves for types and control. -/
def keywords : List String :=
  ["int", "char", "short", "long", "float", "double", "void", "unsigned", "static", "const",
    "extern", "register", "volatile", "if", "else", "while", "for", "do", "switch", "case",
    "default", "break", "continue", "return", "goto"]

/-- What the character before left open. -/
inductive Mode where
  /-- Nothing; `lineStart` tells that the line holds only blanks so far. -/
  | code (lineStart : Bool)
  /-- A comment up to the end of the line. -/
  | lineComment
  /-- A comment up to its closing mark, `count` characters of which cannot close it. -/
  | blockComment (guarded : Nat)
  /-- A literal up to its closing mark; `escaped` tells that the next character is taken as such. -/
  | literal (mark : Char) (escaped : Bool)
  /-- A macro definition up to the end of the line. -/
  | directive
  /-- The rest of a word, of `count` characters. -/
  | word (count : Nat) (kind : Lexical)
  /-- The last character of a comment. -/
  | commentEnd
  deriving DecidableEq, Repr

/-- Letters, digits and the underscore. -/
def isWordChar (c : Char) : Bool := c.isAlphanum || c == '_'

/-- The kind of a word. -/
def wordKind (word : List Char) : Lexical :=
  if word.all Char.isDigit then .number
  else if keywords.contains (String.ofList word) then .keyword
  else .plain

/-- Whether a macro definition starts here. -/
def startsDefine (s : List Char) : Bool :=
  match s with
  | '#' :: rest =>
    let rest := rest.dropWhile fun c => c == ' ' || c == '\t'
    rest.take 6 == "define".toList && !(rest.drop 6).head?.any isWordChar
  | _ => false

/-- The kind of a character in code, and what it leaves open. -/
def codeStep (lineStart : Bool) (c : Char) (rest : List Char) : Lexical × Mode :=
  if c = '/' ∧ rest.head? = some '/' then (.comment, .lineComment)
  else if c = '/' ∧ rest.head? = some '*' then (.comment, .blockComment 1)
  else if c = '"' ∨ c = '\'' then (.quoted, .literal c false)
  else if lineStart ∧ startsDefine (c :: rest) then (.directive, .directive)
  else if isWordChar c then
    let more := rest.takeWhile isWordChar
    let kind := wordKind (c :: more)
    (kind, if more.isEmpty then .code false else .word more.length kind)
  else if c = '\n' then (.plain, .code true)
  else (.plain, .code (lineStart && (c == ' ' || c == '\t')))

/-- The kind of a character, and what it leaves open. -/
def step (mode : Mode) (c : Char) (rest : List Char) : Lexical × Mode :=
  match mode with
  | .code lineStart => codeStep lineStart c rest
  | .lineComment => (.comment, if c = '\n' then .code true else .lineComment)
  | .blockComment (guarded + 1) => (.comment, .blockComment guarded)
  | .blockComment 0 =>
    (.comment, if c = '*' ∧ rest.head? = some '/' then .commentEnd else .blockComment 0)
  | .commentEnd => (.comment, .code false)
  | .literal mark escaped =>
    if c = '\n' then (.plain, .code true)
    else if escaped then (.quoted, .literal mark false)
    else if c = mark then (.quoted, .code false)
    else (.quoted, .literal mark (c == '\\'))
  | .directive => if c = '\n' then (.plain, .code true) else (.directive, .directive)
  | .word (count + 1) kind => (kind, if count = 0 then .code false else .word count kind)
  | .word 0 _ => codeStep false c rest

/-- The kinds of the characters of a C text. -/
def kindsFrom (mode : Mode) : List Char → List (Char × Lexical)
  | [] => []
  | c :: rest =>
    let (kind, mode) := step mode c rest
    (c, kind) :: kindsFrom mode rest

/-- The kinds of the units of a C text. -/
def kinds (text : List Char) : List Lexical :=
  (kindsFrom (.code true) text).flatMap fun (c, kind) => List.replicate (charUnits c).length kind

end CSyntax

/-- The first line of a text, without its terminator. -/
def firstLine (text : List Char) : List Char :=
  let line := text.takeWhile (· ≠ '\n')
  if line.length < text.length ∧ line.getLast? = some '\r' then line.dropLast else line

/-- Goes by the grammar of the file. Of all grammars only that of C has more than plain text. -/
def Lexer.byGrammar : Lexer := fun file =>
  match Grammar.detect file.path (firstLine file.text) with
  | .c => CSyntax.kinds file.text
  | _ => Lexer.plain file

end CodeBrowser
