/-!
# Navigation history

The places before and after the current one, as two stacks with the nearest place on top. A step in
one direction moves the current place onto the stack of the other.

## Main definitions

* `History`: the two stacks.
* `History.push`, `History.goBack?`, `History.goForward?`: recording a place and stepping.
* `History.timeline`: all places in the order in which they were visited.
-/
namespace CodeBrowser

/-- The places before and after the current one, nearest first. -/
structure History (ε : Type) where
  back : List ε
  forward : List ε
  deriving DecidableEq, Repr

/-- In which directions a history can step. -/
structure HistoryAvailability where
  back : Bool
  forward : Bool
  deriving DecidableEq, Repr

namespace History

variable {ε : Type}

/-- The number of places that are remembered. -/
def limit : Nat := 100

/-- The history without places. -/
def empty : History ε := ⟨[], []⟩

/-- Records the current place before another one is visited. What lay ahead is forgotten, and so is
the oldest place if there are more than the limit. -/
def push (history : History ε) (current : ε) : History ε :=
  let back := current :: history.back
  ⟨if limit < back.length then back.dropLast else back, []⟩

/-- Steps back from the current place: the place that is reached and the history around it. -/
def goBack? (history : History ε) (current : ε) : Option (ε × History ε) :=
  match history.back with
  | [] => none
  | entry :: back => some (entry, ⟨back, current :: history.forward⟩)

/-- Steps forward from the current place. -/
def goForward? (history : History ε) (current : ε) : Option (ε × History ε) :=
  match history.forward with
  | [] => none
  | entry :: forward => some (entry, ⟨current :: history.back, forward⟩)

/-- The place that the next step back reaches. -/
def peekBack? (history : History ε) : Option ε := history.back.head?

/-- The place that the next step forward reaches. -/
def peekForward? (history : History ε) : Option ε := history.forward.head?

/-- In which directions the history can step. -/
def availability (history : History ε) : HistoryAvailability :=
  ⟨!history.back.isEmpty, !history.forward.isEmpty⟩

/-- All places in the order in which they were visited. -/
def timeline (history : History ε) (current : ε) : List ε :=
  history.back.reverse ++ current :: history.forward

end History

/-! ### Runs -/

/-- What can be done with a history. -/
inductive HistoryStep (ε : Type) where
  | push (current : ε)
  | back (current : ε)
  | forward (current : ε)
  | clear

namespace History

variable {ε : Type}

/-- The history after a step. A step that finds no place changes nothing. -/
def step (history : History ε) : HistoryStep ε → History ε
  | .push current => history.push current
  | .back current => ((history.goBack? current).map (·.2)).getD history
  | .forward current => ((history.goForward? current).map (·.2)).getD history
  | .clear => empty

/-- The history after a run of steps. -/
def run (history : History ε) (steps : List (HistoryStep ε)) : History ε := steps.foldl step history

end History

end CodeBrowser
