import CodeBrowser.Path

/-!
# Files on disk

A disk maps absolute places to files and directories, and some places are links to what another path
leads to. A path is walked piece by piece, links are followed on the way, and each piece that is
walked through has to be a directory.

What a path leads to has a path without detours, but the system need not tell it: what is opened may
have no name, or may only be opened and not be looked up. So a file may be read whose canonical path
is not known.

## Main definitions

* `Disk`, `DiskError`: the contents of a disk, and what an access can fail with.
* `Disk.walk`, `Disk.locate`: the place that a path leads to.
* `Disk.read`, `Disk.write`, `Disk.createDirectories`: access to files.
* `Disk.canonical?`: the path without detours, as far as it is told.
* `Disk.workingDirectory?`: the path that relative paths start from, as far as it is told.
-/
namespace CodeBrowser

/-- A place on disk, as the names on the way from the root. -/
abbrev Place := List String

/-- What is at a place. -/
inductive Node where
  | file (bytes : List UInt8)
  | directory
  deriving DecidableEq, Repr

/-- Why an access failed. -/
inductive DiskError where
  | notFound
  | notDirectory
  | isDirectory
  | alreadyExists
  | tooManyLinks
  deriving DecidableEq, Repr

/-- The contents of a disk, as it is seen from a directory. The root is always a directory. -/
structure Disk where
  nodes : List (Place × Node)
  /-- The links, each with the path that it leads along. -/
  links : List (Place × Path)
  /-- The place that relative paths start from. -/
  home : Place
  /-- The paths whose canonical path is not told, whether they lead anywhere or not. -/
  withholds : Path → Bool

namespace Disk

/-- A disk that is seen from its root and tells all canonical paths. -/
def of (nodes : List (Place × Node)) (links : List (Place × Path)) : Disk :=
  ⟨nodes, links, [], fun _ => false⟩

def empty : Disk := .of [] []

/-- What is at a place. -/
def nodeAt? (disk : Disk) (place : Place) : Option Node :=
  if place.isEmpty then some .directory else disk.nodes.lookup place

/-- The disk with a node put at a place. -/
def put (disk : Disk) (place : Place) (node : Node) : Disk :=
  { disk with
    nodes := (place, node) :: disk.nodes.filter (·.1 != place)
    links := disk.links.filter (·.1 != place) }

/-- The disk without a place and all that is inside it. -/
def removePlace (disk : Disk) (place : Place) : Disk :=
  { disk with
    nodes := disk.nodes.filter fun entry => !place.isPrefixOf entry.1
    links := disk.links.filter fun entry => !place.isPrefixOf entry.1 }

/-- Whether a place is a directory; if not, why it cannot be walked through. -/
def enter (disk : Disk) (place : Place) : Except DiskError Unit :=
  match disk.nodeAt? place with
  | some .directory => .ok ()
  | some (.file _) => .error .notDirectory
  | none => .error .notFound

/-- A part of a walk: it ends at a place, or it comes to a link. -/
inductive Leg where
  | arrived (place : Place)
  /-- The walk goes on from a place, first along the link and then along what is left. -/
  | linked (place : Place) (pieces : List (List Char))

/-- Walks the pieces of a path from a place up to the first link. The last place need not exist. -/
def stride (disk : Disk) (place : Place) : List (List Char) → Except DiskError Leg
  | [] => .ok (.arrived place)
  | piece :: rest =>
    match disk.enter place with
    | .error e => .error e
    | .ok () =>
      if piece = [] ∨ piece = ['.'] then disk.stride place rest
      else if piece = ['.', '.'] then disk.stride place.dropLast rest
      else
        match disk.links.lookup (place ++ [String.ofList piece]) with
        | none => disk.stride (place ++ [String.ofList piece]) rest
        | some link =>
          .ok (.linked (if link.isAbsolute then [] else place)
            (Path.splitSlashes link.text.toList ++ rest))

/-- Walks the pieces of a path from a place, along so many links at most. -/
def walk (disk : Disk) (links : Nat) (place : Place) (pieces : List (List Char)) :
    Except DiskError Place :=
  match disk.stride place pieces with
  | .error e => .error e
  | .ok (.arrived place) => .ok place
  | .ok (.linked place pieces) =>
    match links with
    | 0 => .error .tooManyLinks
    | links + 1 => disk.walk links place pieces

/-- The number of links on a way that may be followed. -/
def maxLinks : Nat := 40

/-- The place that a path starts from. -/
def startOf (disk : Disk) (path : Path) : Place := if path.isAbsolute then [] else disk.home

/-- The place that a path leads to. -/
def locate (disk : Disk) (path : Path) : Except DiskError Place :=
  disk.walk maxLinks (disk.startOf path) (Path.splitSlashes path.text.toList)

/-- What a path leads to. -/
def find (disk : Disk) (path : Path) : Except DiskError (Place × Node) :=
  match disk.locate path with
  | .error e => .error e
  | .ok place =>
    match disk.nodeAt? place with
    | some node => .ok (place, node)
    | none => .error .notFound

/-- Whether a path leads to something. -/
def pathExists (disk : Disk) (path : Path) : Bool := (disk.find path).isOk

/-- The bytes of the file at a path. -/
def read (disk : Disk) (path : Path) : Except DiskError (List UInt8) :=
  match disk.find path with
  | .error e => .error e
  | .ok (_, .file bytes) => .ok bytes
  | .ok (_, .directory) => .error .isDirectory

/-- The absolute path of a place. -/
def pathOf (place : Place) : Path := ⟨"/" ++ "/".intercalate place⟩

/-- The path without detours to what a path leads to, if it is told. -/
def canonical? (disk : Disk) (path : Path) : Option Path :=
  if disk.withholds path then none
  else
    match disk.find path with
    | .ok (place, _) => some (pathOf place)
    | .error _ => none

/-- The path of the directory that relative paths start from, if it is told. -/
def workingDirectory? (disk : Disk) : Option Path := disk.canonical? ⟨"."⟩

/-- Writes a file, replacing what was in it. -/
def write (disk : Disk) (path : Path) (bytes : List UInt8) : Except DiskError Disk :=
  match disk.locate path with
  | .error e => .error e
  | .ok place =>
    match disk.enter place.dropLast, disk.nodeAt? place with
    | .error e, _ => .error e
    | .ok (), some .directory => .error .isDirectory
    | .ok (), _ => .ok (disk.put place (.file bytes))

/-- Whether the last piece of a path is a link, wherever that leads. -/
def endsInLink (disk : Disk) (path : Path) : Bool :=
  let pieces := Path.splitSlashes path.text.toList
  match disk.walk maxLinks (disk.startOf path) pieces.dropLast, pieces.getLast? with
  | .ok above, some piece => (disk.links.lookup (above ++ [String.ofList piece])).isSome
  | _, _ => false

/-- Makes one directory. A link in its place is in the way. -/
def createDirectory (disk : Disk) (path : Path) : Except DiskError Disk :=
  if disk.endsInLink path then .error .alreadyExists
  else
    match disk.locate path with
    | .error e => .error e
    | .ok place =>
      match disk.enter place.dropLast, disk.nodeAt? place with
      | .error e, _ => .error e
      | .ok (), some _ => .error .alreadyExists
      | .ok (), none => .ok (disk.put place .directory)

/-- Whether a path leads to a directory. -/
def isDirectory (disk : Disk) (path : Path) : Bool :=
  match disk.find path with
  | .ok (_, .directory) => true
  | _ => false

/-- Makes a directory unless it is there. -/
def ensureDirectory (disk : Disk) (path : Path) : Except DiskError Disk :=
  match disk.createDirectory path with
  | .ok disk => .ok disk
  | .error e => if disk.isDirectory path then .ok disk else .error e

/-- Makes a directory and those that it lies in, at most `fuel` of them. -/
def createDirectoriesUpTo (fuel : Nat) (disk : Disk) (path : Path) : Except DiskError Disk :=
  match fuel with
  | 0 => .error .notFound
  | fuel + 1 =>
    if path.text.isEmpty then .ok disk
    else
      match disk.ensureDirectory path with
      | .error .notFound =>
        match path.parent? with
        | none => .error .notFound
        | some above =>
          match createDirectoriesUpTo fuel disk above with
          | .error e => .error e
          | .ok disk => disk.ensureDirectory path
      | result => result

/-- Makes a directory and those that it lies in. A path has at most as many as it has characters. -/
def createDirectories (disk : Disk) (path : Path) : Except DiskError Disk :=
  createDirectoriesUpTo (path.text.length + 1) disk path

end Disk

end CodeBrowser
