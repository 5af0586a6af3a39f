/-!
# Keyboard shortcuts

## Main definitions

* `KeyPress`: a key, with the key that modifies it.
* `Shortcut`: what the keyboard can ask for.
* `Shortcut.inOrder`: the shortcuts among some key presses, in the order in which they are obeyed.
-/
namespace CodeBrowser

/-- A key that moves about. -/
inductive Key where
  | toStart
  | toEnd
  | left
  | right
  deriving DecidableEq, Repr

/-- A key that is pressed, and whether the alternate key is down with it. -/
structure KeyPress where
  key : Key
  alternate : Bool
  deriving DecidableEq, Repr

/-- What the keyboard can ask for. -/
inductive Shortcut where
  | top
  | bottom
  | back
  | forward
  deriving DecidableEq, Repr

namespace Shortcut

/-- The shortcut that a key press stands for. The arrows count only with the alternate key. -/
def ofPress? : KeyPress → Option Shortcut
  | ⟨.toStart, _⟩ => some .top
  | ⟨.toEnd, _⟩ => some .bottom
  | ⟨.left, true⟩ => some .back
  | ⟨.right, true⟩ => some .forward
  | _ => none

/-- The shortcuts among some key presses, each at most once, in the order in which they are
obeyed. -/
def inOrder (presses : List KeyPress) : List Shortcut :=
  [top, bottom, back, forward].filter fun shortcut =>
    presses.any fun press => ofPress? press == some shortcut

end Shortcut

end CodeBrowser
