import CodeBrowser.Navigation.History
import Mathlib.Data.List.DropRight
import Mathlib.Logic.Function.Iterate

/-!
# The history as a timeline

The places of a history and the current one stand on a timeline in the order in which they were
visited, and a step in either direction moves nothing but the current place along it. So a step can
be taken back, and so can any number of them. Only recording a place changes the timeline: it ends
there, and its oldest place is dropped if there are too many.

A step forward adds to the places behind without looking at the limit. It takes the place away from
those that lie ahead, so that what stays within the limit is the number of both together.

## Main definitions

* `Turn`: a direction in which a history can step.
* `History.ahead`, `History.turn?`: the places in a direction, and a step towards them.
* `History.turns?`: any number of steps in one direction.

## Main results

* `History.turn?_eq_some_iff`: what a step does.
* `History.turns?_opposite`: the same number of steps in the other direction leads back.
* `History.length_places_run`: a history stays within the limit.
* `History.timeline_of_run`: what can be done with a history and what it does to the timeline.
-/

namespace CodeBrowser

/-- A direction in which a history can step. -/
inductive Turn where
  | back
  | forward
  deriving DecidableEq

/-- The other direction. -/
def Turn.opposite : Turn → Turn
  | .back => .forward
  | .forward => .back

theorem Turn.opposite_opposite (turn : Turn) : turn.opposite.opposite = turn := by
  cases turn <;> rfl

/-- A step in a direction from a place. -/
def HistoryStep.ofTurn {ε : Type} (current : ε) : Turn → HistoryStep ε
  | .back => .back current
  | .forward => .forward current

namespace History

variable {ε : Type}

/-- The places that lie in a direction, nearest first. -/
def ahead (history : History ε) : Turn → List ε
  | .back => history.back
  | .forward => history.forward

/-- The place that the next step in a direction reaches. -/
def peek? (history : History ε) : Turn → Option ε
  | .back => history.peekBack?
  | .forward => history.peekForward?

/-- Steps in a direction: the place that is reached and the history around it. -/
def turn? (history : History ε) (current : ε) : Turn → Option (ε × History ε)
  | .back => history.goBack? current
  | .forward => history.goForward? current

/-- All places of a history. -/
def places (history : History ε) : List ε := history.back ++ history.forward

variable {history next : History ε} {turn : Turn} {current entry : ε}

/-! ### One step -/

/-- A history is known by the places that lie in either direction. -/
theorem eq_of_ahead_eq (turn : Turn) (h : history.ahead turn = next.ahead turn)
    (hopposite : history.ahead turn.opposite = next.ahead turn.opposite) : history = next := by
  obtain ⟨back, forward⟩ := history
  obtain ⟨nextBack, nextForward⟩ := next
  cases turn with
  | back => exact congrArg₂ mk h hopposite
  | forward => exact congrArg₂ mk hopposite h

/-- A step reaches the nearest place that lies ahead. -/
theorem turn?_eq {rest : List ε} (h : history.ahead turn = entry :: rest) (current : ε) :
    ∃ next, history.turn? current turn = some (entry, next) ∧ next.ahead turn = rest ∧
      next.ahead turn.opposite = current :: history.ahead turn.opposite := by
  cases turn with
  | back =>
    have h : history.back = entry :: rest := h
    exact ⟨_, by rw [turn?, goBack?, h], rfl, rfl⟩
  | forward =>
    have h : history.forward = entry :: rest := h
    exact ⟨_, by rw [turn?, goForward?, h], rfl, rfl⟩

/-- Where nothing lies ahead, there is no step. -/
theorem turn?_eq_none (h : history.ahead turn = []) (current : ε) :
    history.turn? current turn = none := by
  cases turn with
  | back =>
    have h : history.back = [] := h
    rw [turn?, goBack?, h]
  | forward =>
    have h : history.forward = [] := h
    rw [turn?, goForward?, h]

/-- **What a step does.** The nearest place that lies ahead becomes the current one, and the current
place becomes the nearest one that lies in the other direction. -/
theorem turn?_eq_some_iff : history.turn? current turn = some (entry, next) ↔
    history.ahead turn = entry :: next.ahead turn ∧
      next.ahead turn.opposite = current :: history.ahead turn.opposite := by
  cases hahead : history.ahead turn with
  | nil => simp [turn?_eq_none hahead]
  | cons first rest =>
    obtain ⟨reached, hreached, hrest, hopposite⟩ := turn?_eq hahead current
    rw [hreached, Option.some_inj, Prod.mk.injEq, List.cons.injEq, ← hopposite, ← hrest, and_assoc]
    refine and_congr_right fun _ => ⟨fun heq => heq ▸ ⟨rfl, rfl⟩, fun ⟨hturn, hother⟩ => ?_⟩
    exact eq_of_ahead_eq turn hturn hother.symm

/-- A step in the other direction leads back. -/
theorem turn?_opposite (h : history.turn? current turn = some (entry, next)) :
    next.turn? entry turn.opposite = some (current, history) := by
  obtain ⟨hahead, hopposite⟩ := turn?_eq_some_iff.1 h
  rw [turn?_eq_some_iff, Turn.opposite_opposite]
  exact ⟨hopposite, hahead⟩

theorem turn?_map_fst (history : History ε) (current : ε) (turn : Turn) :
    (history.turn? current turn).map (·.1) = history.peek? turn := by
  obtain ⟨back, forward⟩ := history
  cases turn with
  | back => cases back <;> rfl
  | forward => cases forward <;> rfl

theorem step_ofTurn (history : History ε) (current : ε) (turn : Turn) :
    history.step (.ofTurn current turn) =
      ((history.turn? current turn).map (·.2)).getD history := by
  cases turn <;> rfl

/-- **A step moves along the timeline** and leaves it as it is. -/
theorem timeline_of_turn? (h : history.turn? current turn = some (entry, next)) :
    next.timeline entry = history.timeline current := by
  obtain ⟨hahead, hopposite⟩ := turn?_eq_some_iff.1 h
  cases turn with
  | back =>
    have hback : history.back = entry :: next.back := hahead
    have hforward : next.forward = current :: history.forward := hopposite
    rw [timeline, timeline, hback, hforward, List.reverse_cons, List.append_assoc,
      List.singleton_append]
  | forward =>
    have hforward : history.forward = entry :: next.forward := hahead
    have hback : next.back = current :: history.back := hopposite
    rw [timeline, timeline, hback, hforward, List.reverse_cons, List.append_assoc,
      List.singleton_append]

/-- A step only moves places about, the current one among them. -/
theorem perm_of_turn? (h : history.turn? current turn = some (entry, next)) :
    (entry :: next.places).Perm (current :: history.places) := by
  have hplaces (history : History ε) (current : ε) :
      (history.timeline current).Perm (current :: history.places) :=
    List.perm_middle.trans (((List.reverse_perm _).append_right _).cons current)
  exact (hplaces next entry).symm.trans (timeline_of_turn? h ▸ hplaces history current)

theorem mem_places_of_turn? (h : history.turn? current turn = some (entry, next)) :
    entry ∈ history.places ∧ ∀ place ∈ next.places, place = current ∨ place ∈ history.places := by
  refine ⟨?_, fun place hplace => ?_⟩
  · have hentry : entry ∈ history.ahead turn :=
      (turn?_eq_some_iff.1 h).1 ▸ List.mem_cons_self
    cases turn with
    | back => exact List.mem_append_left _ hentry
    | forward => exact List.mem_append_right _ hentry
  · exact List.mem_cons.1 ((perm_of_turn? h).subset (List.mem_cons_of_mem _ hplace))

/-! ### Many steps -/

/-- Takes a number of steps in a direction, each from the place that the one before it reached. -/
def turns? (turn : Turn) (count : Nat) (start : ε × History ε) : Option (ε × History ε) :=
  (Option.bind · fun place => place.2.turn? place.1 turn)^[count] (some start)

theorem turns?_succ (turn : Turn) (count : Nat) (start : ε × History ε) :
    turns? turn (count + 1) start = (start.2.turn? start.1 turn).bind (turns? turn count) := by
  rw [turns?, Function.iterate_succ_apply, Option.bind_some]
  cases start.2.turn? start.1 turn with
  | none =>
    rw [Option.bind_none]
    exact Function.iterate_fixed rfl count
  | some reached => rfl

theorem turns?_succ_last (turn : Turn) (count : Nat) (start : ε × History ε) :
    turns? turn (count + 1) start =
      (turns? turn count start).bind fun place => place.2.turn? place.1 turn :=
  Function.iterate_succ_apply' ..

/-- There are as many steps as there are places ahead. -/
theorem exists_turns?_iff (turn : Turn) (count : Nat) (current : ε) (history : History ε) :
    (∃ reached, turns? turn count (current, history) = some reached) ↔
      count ≤ (history.ahead turn).length := by
  induction count generalizing current history with
  | zero => exact iff_of_true ⟨_, rfl⟩ (Nat.zero_le _)
  | succ count ih =>
    rw [turns?_succ]
    cases hahead : history.ahead turn with
    | nil => simp [turn?_eq_none hahead]
    | cons entry rest =>
      obtain ⟨next, hnext, hrest, -⟩ := turn?_eq hahead current
      rw [hnext, Option.bind_some, ih, hrest, List.length_cons, Nat.succ_le_succ_iff]

/-- **Steps can be taken back.** As many steps in the other direction lead back to where the first
one started. -/
theorem turns?_opposite {count : Nat} {start reached : ε × History ε}
    (h : turns? turn count start = some reached) :
    turns? turn.opposite count reached = some start := by
  -- The last step is the first one to be taken back.
  induction count generalizing reached with
  | zero => exact congrArg some (Option.some.inj h).symm
  | succ count ih =>
    rw [turns?_succ_last] at h
    obtain ⟨before, hbefore, hlast⟩ := Option.bind_eq_some_iff.1 h
    rw [turns?_succ, turn?_opposite hlast]
    exact ih hbefore

/-! ### Recording a place -/

theorem length_push_le (history : History ε) (current : ε) :
    (history.push current).places.length ≤ max limit history.back.length := by
  unfold push places
  dsimp only
  rw [List.append_nil]
  split_ifs with hfull
  · rw [List.length_dropLast, List.length_cons, Nat.add_sub_cancel]
    exact Nat.le_max_right ..
  · exact (Nat.not_lt.1 hfull).trans (Nat.le_max_left ..)

/-- If the places behind are within the limit, recording one keeps exactly the last ones that are,
in front of the current one. -/
theorem back_push (h : history.back.length ≤ limit) (current : ε) :
    (history.push current).back.reverse = (history.back.reverse ++ [current]).rtake limit := by
  rw [List.rtake_eq_reverse_take_reverse, List.reverse_append, List.reverse_singleton,
    List.reverse_reverse, List.singleton_append, List.reverse_inj]
  unfold push
  dsimp only
  split_ifs with hfull
  · have hlength : (current :: history.back).length - 1 = limit := by
      rw [List.length_cons] at hfull ⊢
      omega
    rw [List.dropLast_eq_take, hlength]
  · exact (List.take_of_length_le (Nat.not_lt.1 hfull)).symm

/-- Recording a place adds no other one. -/
theorem mem_places_of_push {place : ε} (h : place ∈ (history.push current).places) :
    place = current ∨ place ∈ history.places := by
  have hmem : place ∈ current :: history.back := by
    rw [places, push, List.append_nil] at h
    split_ifs at h
    · exact List.dropLast_subset _ h
    · exact h
  exact (List.mem_cons.1 hmem).imp_right (List.mem_append_left _)

/-! ### Runs -/

/-- A step of any kind stays within the limit. -/
theorem length_places_step (h : history.places.length ≤ limit) (step : HistoryStep ε) :
    (history.step step).places.length ≤ limit := by
  have hturn (current : ε) (turn : Turn) :
      (history.step (.ofTurn current turn)).places.length ≤ limit := by
    rw [step_ofTurn]
    cases hstep : history.turn? current turn with
    | none => exact h
    | some reached => exact (Nat.succ.inj (perm_of_turn? hstep).length_eq).trans_le h
  cases step with
  | push current =>
    refine (length_push_le history current).trans (max_le le_rfl ?_)
    rw [places, List.length_append] at h
    omega
  | back current => exact hturn current .back
  | forward current => exact hturn current .forward
  | clear => exact Nat.zero_le _

/-- **A history stays within the limit**, the places on both sides taken together. -/
theorem length_places_run (steps : List (HistoryStep ε)) :
    ((empty : History ε).run steps).places.length ≤ limit :=
  List.foldlRecOn steps step (motive := fun history => history.places.length ≤ limit)
    (Nat.zero_le _) fun _ h step _ => length_places_step h step

/-- **A history is a timeline with a limit.** After any run the places on both sides together are no
more than the limit. From any current place a step in either direction reaches the place that was
named beforehand, and the timeline around that place is the one that it was; a step that finds no
place changes nothing. As many steps can be taken as there are places ahead, and as many in the
other direction restore the history and the current place. Recording the current place leaves
nothing ahead, and behind it the last places of the timeline so far that are within the limit. -/
theorem timeline_of_run (steps : List (HistoryStep ε)) (current : ε) :
    let history := (empty : History ε).run steps
    history.back.length + history.forward.length ≤ limit ∧
      (∀ turn : Turn,
        (history.turn? current turn).map (·.1) = history.peek? turn ∧
        (∀ entry next, history.turn? current turn = some (entry, next) →
          history.step (.ofTurn current turn) = next ∧
            next.timeline entry = history.timeline current) ∧
        (history.turn? current turn = none → history.step (.ofTurn current turn) = history) ∧
        ∀ count,
          ((∃ reached, turns? turn count (current, history) = some reached) ↔
            count ≤ (history.ahead turn).length) ∧
          ∀ reached, turns? turn count (current, history) = some reached →
            turns? turn.opposite count reached = some (current, history)) ∧
      (history.push current).forward = [] ∧
      (history.push current).back.reverse = (history.back.reverse ++ [current]).rtake limit := by
  intro history
  have hlimit : history.back.length + history.forward.length ≤ limit :=
    (List.length_append ..).symm.trans_le (length_places_run steps)
  refine ⟨hlimit, fun turn => ⟨turn?_map_fst .., fun entry next hturn => ⟨?_, ?_⟩, fun hnone => ?_,
    fun count => ⟨exists_turns?_iff .., fun reached => turns?_opposite⟩⟩, rfl, ?_⟩
  · rw [step_ofTurn, hturn]
    rfl
  · exact timeline_of_turn? hturn
  · rw [step_ofTurn, hnone]
    rfl
  · exact back_push (Nat.le_of_add_right_le hlimit) current

/-- One place more than the limit is recorded, and a step back is taken. Two more of them are taken
back by two steps forward, and recording drops what lies ahead. -/
theorem timeline_of_run_full :
    let steps := (List.range 101).map HistoryStep.push ++ [.back 101]
    let history := (empty : History Nat).run steps
    history.back.length + history.forward.length = 100 ∧
      (∃ reached, turns? .back 2 (100, history) = some reached ∧ reached.1 = 98 ∧
        turns? .forward 2 reached = some (100, history)) ∧
      (history.push 100).forward = [] ∧
      (history.push 100).back.reverse = (List.range 100).map (· + 1) := by
  intro steps history
  obtain ⟨-, hturns, hforward, hback⟩ := timeline_of_run steps 100
  obtain ⟨-, -, -, hcount⟩ := hturns .back
  obtain ⟨hexists, hopposite⟩ := hcount 2
  obtain ⟨reached, hreached⟩ := hexists.2 (by decide +kernel)
  have hplace : (turns? .back 2 (100, history)).map (·.1) = some 98 := by decide +kernel
  refine ⟨by decide +kernel, ⟨reached, hreached, ?_, hopposite reached hreached⟩, hforward, ?_⟩
  · rw [hreached] at hplace
    exact Option.some.inj hplace
  · exact hback.trans (by decide +kernel)

end History

end CodeBrowser
