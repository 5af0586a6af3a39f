import CodeBrowser.Path

/-!
# Grammars

The grammar of a file is told by its extension, by its name or by its first line.

## Main definitions

* `Grammar`: the grammars that are known.
* `Grammar.detect`: the grammar of a file.
-/
namespace CodeBrowser

/-- The grammar of a file's text. -/
inductive Grammar where
  | plainText
  | shell
  | c
  | objectiveC
  | objectiveCpp
  | cpp
  | cSharp
  | d
  | go
  | html
  | java
  | javaScript
  | json
  | makefile
  | markdown
  | perl
  | python
  | r
  | ruby
  | rust
  | sql
  | xml
  | yaml
  deriving DecidableEq, Repr

namespace Grammar

/-- All grammars. -/
def all : List Grammar :=
  [.plainText, .shell, .c, .objectiveC, .objectiveCpp, .cpp, .cSharp, .d, .go, .html, .java,
    .javaScript, .json, .makefile, .markdown, .perl, .python, .r, .ruby, .rust, .sql, .xml, .yaml]

/-- The name of a grammar. -/
def name : Grammar → String
  | .plainText => "Plain Text"
  | .shell => "Bourne Again Shell (bash)"
  | .c => "C"
  | .objectiveC => "Objective-C"
  | .objectiveCpp => "Objective-C++"
  | .cpp => "C++"
  | .cSharp => "C#"
  | .d => "D"
  | .go => "Go"
  | .html => "HTML"
  | .java => "Java"
  | .javaScript => "JavaScript"
  | .json => "JSON"
  | .makefile => "Makefile"
  | .markdown => "Markdown"
  | .perl => "Perl"
  | .python => "Python"
  | .r => "R"
  | .ruby => "Ruby"
  | .rust => "Rust"
  | .sql => "SQL"
  | .xml => "XML"
  | .yaml => "YAML"

/-- The extensions and file names of a grammar, in lower case. -/
def extensions : Grammar → List String
  | .plainText => ["txt"]
  | .shell => ["sh", "bash", "zsh", ".bashrc", ".bash_profile", ".profile", ".zshrc"]
  | .c => ["c"]
  | .objectiveC => ["m", "h"]
  | .objectiveCpp => ["mm"]
  | .cpp => ["cpp", "cc", "cxx", "c++", "hpp", "hh", "hxx", "h++", "inl", "ipp"]
  | .cSharp => ["cs", "csx"]
  | .d => ["d", "di"]
  | .go => ["go"]
  | .html => ["html", "htm", "shtml", "xhtml"]
  | .java => ["java"]
  | .javaScript => ["js", "htc"]
  | .json => ["json"]
  | .makefile => ["makefile", "gnumakefile", "mak", "mk", "make"]
  | .markdown => ["md", "mdown", "markdown", "markdn"]
  | .perl => ["pl", "pm", "pod", "t"]
  | .python => ["py", "py3", "pyw", "pyi", "snakefile", "sconstruct", "sconscript", "wscript"]
  | .r => ["r", "s", "rprofile"]
  | .ruby => ["rb", "rakefile", "gemfile", "rake", "gemspec", "config.ru"]
  | .rust => ["rs"]
  | .sql => ["sql", "ddl", "dml"]
  | .xml => ["xml", "xsd", "xslt", "svg"]
  | .yaml => ["yml", "yaml"]

/-- The grammar that an extension or a file name stands for. Case does not matter. -/
def ofExtension? (extension : String) : Option Grammar :=
  all.find? fun grammar => grammar.extensions.contains extension.toLower

/-! ### First lines -/

/-- The white space of Unicode. -/
def isBlank (char : Char) : Bool :=
  let code := char.toNat
  (9 ≤ code && code ≤ 13) || (0x2000 ≤ code && code ≤ 0x200A)
    || [0x20, 0x85, 0xA0, 0x1680, 0x2028, 0x2029, 0x202F, 0x205F, 0x3000].contains code

/-- Letters, digits and the underscore; characters beyond ASCII count as letters unless they are
blank. -/
def isWordChar (char : Char) : Bool :=
  char.isAlphanum || char == '_' || (0x80 ≤ char.toNat && !isBlank char)

/-- Whether no word goes on here. -/
def atWordEnd (s : List Char) : Bool := !s.head?.any isWordChar

/-- Whether some word starts in `s` at which `p` holds of what follows. `inWord` tells whether a
word character comes before. -/
def anyWordStart (p : List Char → Bool) (inWord : Bool) : List Char → Bool
  | [] => false
  | char :: rest =>
    (!inWord && isWordChar char && p (char :: rest)) || anyWordStart p (isWordChar char) rest

/-- What follows `word` in `s`, if `s` starts with it. -/
def afterWord? : (word s : List Char) → Option (List Char)
  | [], s => some s
  | _ :: _, [] => none
  | char :: word, next :: s => if char = next then afterWord? word s else none

/-- Whether `s` starts with a whole word. -/
def startsWord (word : String) (s : List Char) : Bool :=
  (afterWord? word.toList s).any atWordEnd

/-- Whether `s` starts with the name of a Python interpreter, with or without a version. -/
def startsPython (s : List Char) : Bool :=
  (afterWord? "python".toList s).any fun rest =>
    atWordEnd rest || (rest.head?.any Char.isDigit && atWordEnd rest.tail)

/-- The grammar of a script, whose first line names its interpreter. -/
def ofInterpreter? (line : List Char) : Option Grammar :=
  let isPath := (line.dropWhile isBlank).head? == some '/'
  if isPath && anyWordStart startsPython false line then some .python
  else if ["bash", "zsh", "sh", "tcsh"].any fun shell => anyWordStart (startsWord shell) false line
  then some .shell
  else if anyWordStart (startsWord "perl") false line then some .perl
  else none

/-- The grammar that the first line of a file tells. -/
def ofFirstLine? (line : List Char) : Option Grammar :=
  match line with
  | '#' :: '!' :: rest => ofInterpreter? rest
  | '<' :: '?' :: 'x' :: 'm' :: 'l' :: next :: _ => if isBlank next then some .xml else none
  | _ => none

/-- The grammar of a file. -/
def detect (path : Option Path) (firstLine : List Char) : Grammar :=
  let byPath := path.bind fun path =>
    (path.extension?.bind ofExtension?).or (path.fileName?.bind ofExtension?)
  (byPath.or (ofFirstLine? firstLine)).getD .plainText

end Grammar

end CodeBrowser
