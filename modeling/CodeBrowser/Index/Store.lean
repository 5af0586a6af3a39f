import CodeBrowser.Disk
import CodeBrowser.Index.Json
import CodeBrowser.Text.Utf8

/-!
# Index files

## Main definitions

* `IndexError`: why an index file cannot be used.
* `SymbolIndex.load`: the index in a file, its relative paths starting from the file's directory.
-/
namespace CodeBrowser

/-- Why an index file cannot be used. -/
inductive IndexError where
  /-- It cannot be read as UTF-8 text. -/
  | unreadable (path : Path)
  /-- It is no index. -/
  | invalid (path : Path) (fault : Json.Fault)
  deriving DecidableEq, Repr

/-- The wording of an index error. -/
def IndexError.message : IndexError → String
  | .unreadable path => "failed to read index: " ++ path.text
  | .invalid path _ => "failed to parse index: " ++ path.text

/-- The index in a file. -/
def SymbolIndex.load (disk : Disk) (path : Path) : Except IndexError SymbolIndex :=
  match disk.read path with
  | .error _ => .error (.unreadable path)
  | .ok bytes =>
    match Utf8.decode bytes with
    | .error _ => .error (.unreadable path)
    | .ok text =>
      match Json.read IndexData.readJson (String.ofList text) with
      | .error fault => .error (.invalid path fault)
      | .ok data => .ok (ofData data path.parent?)

end CodeBrowser
