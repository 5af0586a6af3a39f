import CodeBrowser.Proofs.Geometry.SubZero
import CodeBrowser.Proofs.Widget.Clicks
import CodeBrowser.Proofs.Widget.Scrolling
import Mathlib.Tactic.SplitIfs

/-!
# Frames without input

In a frame in which the pointer does nothing the widget still shows what it has been asked to show,
and is then asked for nothing any more. Apart from that, and from keeping within the content, the
scroll offset stays what it is, and of the view only the selection can change.

## Main definitions

* `Gestures.IsStill`: the pointer does nothing.
* `settled`: the scroll offset after a frame without input.

## Main results

* `Pointer.isStill_frame`: without events the pointer does nothing unless a button is held.
* `Widget.scroll_frame_of_isStill`, `Widget.view_frame_of_isStill`: what is left of a frame.
-/

namespace CodeBrowser

/-! ### A pointer that does nothing -/

/-- The pointer does not act on the widget, and neither the wheel nor a button is used. -/
structure Gestures.IsStill {α : Type} [Scalar α] (gestures : Gestures α) : Prop where
  grab : gestures.grab = none
  wheel : gestures.wheel = .origin
  pressed : gestures.primaryPressed = false
  released : gestures.primaryReleased = false
  clicked : gestures.secondaryClicked = false

/-- Without events the pointer does nothing, unless a button is held. -/
theorem Pointer.isStill_frame {α : Type} [Scalar α] {pointer : Pointer α} (h : pointer.down = [])
    (rect : Rect α) : (pointer.frame rect []).1.IsStill := by
  constructor <;> simp [Pointer.frame, actOn, h]

/-! ### A frame in which the pointer does nothing -/

/-- The scroll offset after a frame without input: moved just enough to show `request`, if there is
one, and kept within the content. -/
def settled (arrangement : Arrangement Float32) (request : Option (Rect Float32))
    (scroll : Point Float32) : Point Float32 :=
  match request with
  | some target => (revealRect arrangement.text.size target scroll).clampTo arrangement.maxScroll
  | none => scroll.clampTo arrangement.maxScroll

theorem followAxis_of_isStill {α : Type} [Scalar α] {gestures : Gestures α} (h : gestures.IsStill)
    (arrangement : Arrangement α) (drag : Option Axis) (axis : Axis) (offset : α) :
    followAxis arrangement drag gestures axis offset = offset := by
  unfold followAxis followBar
  rw [h.grab]
  split <;> rfl

/-- Where zero can be subtracted, nothing but a request moves the scroll offset in a frame in which
the pointer does nothing. -/
theorem scrollAfter_of_sub_origin {α : Type} [Scalar α] {gestures : Gestures α}
    (h : gestures.IsStill) (hsub : ∀ p : Point α, p - .origin = p) (arrangement : Arrangement α)
    (request : Option (Rect α)) (drag : Option Axis) (scroll : Point α) :
    scrollAfter arrangement request drag gestures scroll =
      ((request.map fun target => revealRect arrangement.text.size target scroll).getD
        scroll).clampTo arrangement.maxScroll := by
  simp only [scrollAfter, followAxis_of_isStill h, h.wheel, hsub, ite_self]
  cases request <;> rfl

theorem scrollAfter_of_isStill {gestures : Gestures Float32} (h : gestures.IsStill)
    (arrangement : Arrangement Float32) (request : Option (Rect Float32)) (drag : Option Axis)
    (scroll : Point Float32) :
    scrollAfter arrangement request drag gestures scroll = settled arrangement request scroll := by
  rw [scrollAfter_of_sub_origin h Point.sub_origin]
  cases request <;> rfl

/-- A frame in which no press starts and none ends can only change the selection of a view. -/
theorem View.routePrimary_of_held {α : Type} [Scalar α] {frame : PrimaryFrame α}
    (hstarts : frame.starts = false) (hreleased : frame.released = false) (metrics : Metrics α)
    (state : Pressing α) :
    ∃ selection, (routePrimary metrics state frame).view = state.view.select selection := by
  rw [routePrimary, startPress_of_not_starts hstarts]
  split_ifs
  · obtain ⟨selection, hfollow, -⟩ :=
      followPress_of_down state.view metrics state.view.selection state.view.events hreleased
    exact ⟨selection, hfollow⟩
  · exact ⟨state.view.selection, rfl⟩

namespace Widget

variable {α : Type}

/-- Unless something is picked from it, a menu can only change the selection of a view. -/
theorem settleMenu_of_no_pick (widget : Widget α) (gestures : Gestures α) (wasOpen : Bool) :
    ∃ selection,
      (widget.settleMenu gestures wasOpen none).view = widget.view.select selection := by
  unfold settleMenu
  split
  · exact ⟨widget.view.selection, rfl⟩
  · dsimp only
    split_ifs
    · exact ⟨widget.view.selection, rfl⟩
    · exact ⟨.none, rfl⟩
    · exact ⟨widget.view.selection, rfl⟩

variable [Scalar α] {gestures : Gestures α} (h : gestures.IsStill) (widget : Widget α)

include h

theorem openMenu_of_isStill (metrics : Metrics α) (arrangement : Arrangement α)
    (history : HistoryAvailability) :
    widget.openMenu metrics arrangement gestures history = widget := by
  simp [openMenu, menuPoint?, h.clicked]

theorem starts_of_isStill (arrangement : Arrangement α) :
    (widget.primaryFrame arrangement gestures).starts = false := by
  simp [PrimaryFrame.starts, primaryFrame, h.pressed]

/-- A frame in which the pointer does nothing and nothing is picked shows what the view asks for,
and can change the selection. -/
theorem view_frame_of_isStill (measurer : Measurer α) (rect : Rect α)
    (history : HistoryAvailability) : ∃ selection,
      (widget.frame measurer rect gestures history none).view =
        widget.view.takeScrollRequest.2.select selection := by
  let metrics := widget.metrics measurer
  let arrangement := widget.arrange metrics rect
  let followed := widget.follow arrangement gestures
  obtain ⟨pressed, hroute⟩ := View.routePrimary_of_held (starts_of_isStill h followed arrangement)
    h.released metrics ⟨followed.view, followed.pressing⟩
  obtain ⟨selection, hsettle⟩ := settleMenu_of_no_pick
    (widget.respond measurer rect gestures history) gestures widget.menu.isSome
  refine ⟨selection, hsettle.trans ?_⟩
  rw [respond, openMenu_of_isStill h]
  have hselect := congrArg (View.select · selection) hroute
  exact hselect

end Widget

/-- A frame in which the pointer does nothing scrolls to what the widget is asked to show. -/
theorem Widget.scroll_frame_of_isStill {gestures : Gestures Float32} (h : gestures.IsStill)
    (widget : Widget Float32) (measurer : Measurer Float32) (rect : Rect Float32)
    (history : HistoryAvailability) (picked : Option MenuAction) :
    (widget.frame measurer rect gestures history picked).scroll =
      settled (widget.arrange (widget.metrics measurer) rect) widget.view.scrollRequest
        widget.scroll :=
  (widget.scroll_frame measurer rect gestures history picked).trans
    (scrollAfter_of_isStill h ..)

end CodeBrowser
