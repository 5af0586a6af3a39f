import CodeBrowser.SourceFile.Store

/-!
# Opened files

A file is read when it is first asked for and kept from then on, so that going back to it shows what
was shown before, whatever has happened on disk.

## Main definitions

* `Disk.normalize`: the path by which a file is kept.
* `FileCache`: the files that have been opened, by these paths.
* `FileCache.openFile`: the file at a path, read on first use.
-/
namespace CodeBrowser

/-- A path as it is given, but seen from the root where the working directory is told. -/
def Disk.asGiven (disk : Disk) (path : Path) : Path :=
  if path.isAbsolute then path else (disk.workingDirectory?.getD ⟨""⟩).join path

/-- The path by which a file is kept: the canonical one if it is told, else the one that is given. -/
def Disk.normalize (disk : Disk) (path : Path) : Path :=
  match disk.canonical? path with
  | some canonical => canonical
  | none => disk.asGiven path

/-- The files that have been opened, latest first. -/
structure FileCache where
  entries : List (Path × SourceFile)

namespace FileCache

def empty : FileCache := ⟨[]⟩

/-- The file that is kept by a path. Paths count as one if their components are. -/
def find? (cache : FileCache) (key : Path) : Option SourceFile :=
  (cache.entries.find? (·.1.same key)).map (·.2)

/-- The serial of the next file. -/
def nextSerial (cache : FileCache) : Nat := cache.entries.length

/-- The cache with one more file. -/
def insert (cache : FileCache) (key : Path) (file : SourceFile) : FileCache :=
  ⟨(key, file) :: cache.entries⟩

/-- The file at a path, or why there is none, and the cache after looking for it. -/
def openFile (cache : FileCache) (disk : Disk) (path : Path) :
    Except OpenError SourceFile × FileCache :=
  let key := disk.normalize path
  match cache.find? key with
  | some file => (.ok file, cache)
  | none =>
    match SourceFile.load disk key cache.nextSerial with
    | .ok file => (.ok file, cache.insert key file)
    | .error e => (.error e, cache)

end FileCache

end CodeBrowser
