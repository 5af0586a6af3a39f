/-!
# Paths

A path is kept as it was written and compared by its components: repeated slashes, a trailing slash
and inner `.` components do not count, a leading `.` does.

## Main definitions

* `Path.components`: the components of a path.
* `Path.same`, `Path.compare`: equality and order by components.
* `Path.endsWith`: whether the components of one path end those of another.
* `Path.join`, `Path.parent?`, `Path.fileName?`, `Path.extension?`: the usual operations.
-/
namespace CodeBrowser

/-- A path as it was written. -/
structure Path where
  text : String
  deriving DecidableEq, Repr

/-- One component of a path. -/
inductive Component where
  /-- The slash that an absolute path starts with. -/
  | root
  /-- A `.` at the very start. -/
  | current
  /-- A `..`. -/
  | parent
  | normal (name : String)
  deriving DecidableEq, Repr

namespace Component

/-- The rank of a kind of component in the order of paths. -/
def rank : Component → Nat
  | .root => 0
  | .current => 1
  | .parent => 2
  | .normal _ => 3

/-- Components are ordered by kind, and names by their characters. -/
def compare : Component → Component → Ordering
  | .normal a, .normal b => compareOfLessAndEq a b
  | a, b => compareOfLessAndEq a.rank b.rank

end Component

namespace Path

/-- The pieces of a text between slashes. -/
def splitSlashes : List Char → List (List Char)
  | [] => [[]]
  | '/' :: rest => [] :: splitSlashes rest
  | c :: rest =>
    match splitSlashes rest with
    | [] => [[c]]
    | piece :: more => (c :: piece) :: more

/-- The component that a piece stands for; empty pieces and `.` stand for none. -/
def pieceComponent? (piece : List Char) : Option Component :=
  if piece = [] then none
  else if piece = ['.'] then none
  else if piece = ['.', '.'] then some .parent
  else some (.normal (String.ofList piece))

/-- Whether the path starts at the root. -/
def isAbsolute (path : Path) : Bool := path.text.toList.head? == some '/'

/-- The components of a path, in order. -/
def components (path : Path) : List Component :=
  let pieces := splitSlashes path.text.toList
  let start : List Component :=
    if path.isAbsolute then [.root]
    else if pieces.head? == some ['.'] then [.current]
    else []
  start ++ pieces.filterMap pieceComponent?

/-- Equality by components. -/
def same (p q : Path) : Bool := p.components == q.components

/-- The order of lists of components, the first difference deciding. -/
def compareComponents : List Component → List Component → Ordering
  | [], [] => .eq
  | [], _ :: _ => .lt
  | _ :: _, [] => .gt
  | a :: as, b :: bs => (a.compare b).then (compareComponents as bs)

/-- Order by components. -/
def compare (p q : Path) : Ordering := compareComponents p.components q.components

/-- Whether the components of `tail` are the last components of `path`. -/
def endsWith (path tail : Path) : Bool := tail.components.isSuffixOf path.components

/-- `path` seen from the directory `base`: an absolute path stands for itself. -/
def join (base path : Path) : Path :=
  if path.isAbsolute then path
  else if base.text.isEmpty || base.text.toList.getLast? == some '/' then
    ⟨base.text ++ path.text⟩
  else ⟨base.text ++ "/" ++ path.text⟩

/-- `path` without what adds no component at its end: slashes and `.` pieces. The reversed text is
given and returned. -/
def trimEnd : List Char → List Char
  | '/' :: rest => if rest.isEmpty then ['/'] else trimEnd rest
  | '.' :: '/' :: rest => trimEnd ('/' :: rest)
  | text => text
termination_by text => text.length

/-- The path without its last component; none for the root and the empty path. -/
def parent? (path : Path) : Option Path :=
  match path.components.getLast? with
  | none | some .root => none
  | some _ =>
    let shorter := (trimEnd path.text.toList.reverse).dropWhile (· != '/')
    some ⟨String.ofList (trimEnd shorter).reverse⟩

/-- The last component, if it is a name. -/
def fileName? (path : Path) : Option String :=
  match path.components.getLast? with
  | some (.normal name) => some name
  | _ => none

/-- The part of a file name after its last dot; a name that only starts with a dot has none. -/
def nameExtension? (name : String) : Option String :=
  let (after, before) := name.toList.reverse.span (· != '.')
  match before with
  | _ :: _ :: _ => some (String.ofList after.reverse)
  | _ => none

/-- The extension of the file name. -/
def extension? (path : Path) : Option String := path.fileName?.bind nameExtension?

end Path

end CodeBrowser
