import CodeBrowser.Disk
import CodeBrowser.SourceFile

/-!
# Opening source files

## Main definitions

* `OpenError`: why a file cannot be opened.
* `SourceFile.load`: the file at a path, in the encoding that its bytes show.
-/
namespace CodeBrowser

/-- Why a file cannot be opened. -/
inductive OpenError where
  | unreadable (path : Path) (cause : DiskError)
  | undecodable (path : Path) (cause : DecodeError)
  deriving DecidableEq, Repr

/-- The wording of an opening error, without its cause. -/
def OpenError.message : OpenError → String
  | .unreadable path _ => "failed to read file: " ++ path.text
  | .undecodable path _ => "failed to decode file: " ++ path.text

/-- Opens the file at a path. -/
def SourceFile.load (disk : Disk) (path : Path) (serial : Nat) : Except OpenError SourceFile :=
  match disk.read path with
  | .error e => .error (.unreadable path e)
  | .ok bytes =>
    let encoding := TextEncoding.detect bytes
    match encoding.decode bytes with
    | .error e => .error (.undecodable path e)
    | .ok text => .ok (.ofText (some path) text encoding serial)

end CodeBrowser
