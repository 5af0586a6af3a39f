import CodeBrowser.Disk
import CodeBrowser.Font.Screen
import CodeBrowser.Theme.Choice

/-!
# The surroundings of a session

What a session does depends on more than itself: on the files on disk, on the window and the fonts
that it is shown with, and on the desktop around it. All of this may be different at every step.

## Main definitions

* `Surroundings`: what a session finds around it.
* `Surroundings.withoutDesktop`: a window in which nothing of a desktop is there.
-/
namespace CodeBrowser

/-- What a session finds around it at one time. -/
structure Surroundings where
  disk : Disk
  /-- The measurer of the fonts. -/
  measurer : Measurer Float32
  /-- The rectangle of the widget in the window. -/
  rect : Rect Float32
  desktop : Desktop
  /-- Whether the clipboard takes a text, if there is a clipboard. -/
  clipboard : Option (String → Bool)
  /-- Why the desktop cannot show where a file is, if it cannot. -/
  revealFault? : Path → Option String

/-- A window with the fonts of the screen, whose widget is between a menu bar and a status bar. There
is no clipboard, and what the desktop is asked to show goes unnoticed. -/
def Surroundings.withoutDesktop (disk : Disk) : Surroundings where
  disk := disk
  measurer := .screen
  rect := ⟨⟨0, 26⟩, ⟨1024, 744⟩⟩
  desktop := .neutral
  clipboard := none
  revealFault? _ := none

end CodeBrowser
