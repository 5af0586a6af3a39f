import CodeBrowser.Disk
import CodeBrowser.Preferences.Json
import CodeBrowser.Text.Utf8

/-!
# Stored preferences

Preferences are stored in a file, which is made with the defaults when it is missing. A file that
cannot be read or understood is left alone, and the defaults are used.

## Main definitions

* `Preferences.save`: writes the file, with the directories that it lies in.
* `Preferences.load`: the preferences to run with, and the disk afterwards.
-/
namespace CodeBrowser.Preferences

/-- The name of the file. -/
def fileName : String := "srcnav.json"

/-- The text of the file. -/
def fileText (p : Preferences) : String := p.toJson.pretty

/-- Writes the file. -/
def save (p : Preferences) (disk : Disk) (path : Path) : Except DiskError Disk :=
  let withDirectories : Except DiskError Disk :=
    match path.parent? with
    | none => .ok disk
    | some above => disk.createDirectories above
  match withDirectories with
  | .error e => .error e
  | .ok disk => disk.write path (Utf8.encode p.fileText.toList)

/-- The preferences that the bytes of a file describe. -/
def parse? (bytes : List UInt8) : Option Preferences :=
  match Utf8.decode bytes with
  | .error _ => none
  | .ok text =>
    match Json.read readJson (String.ofList text) with
    | .error _ => none
    | .ok p => some p.withBuiltins.sanitized

/-- The preferences to run with. -/
def load (disk : Disk) (path : Path) : Preferences × Disk :=
  if disk.pathExists path then
    match disk.read path with
    | .ok bytes => ((parse? bytes).getD standard, disk)
    | .error _ => (standard, disk)
  else
    match standard.save disk path with
    | .ok disk => (standard, disk)
    | .error _ => (standard, disk)

end CodeBrowser.Preferences
