import CodeBrowser.Proofs.Geometry.Order
import CodeBrowser.Proofs.View.Settings
import CodeBrowser.Widget.Frame

/-!
# The scroll offset and the file in a frame

A frame moves the scroll offset once, before anything else, and keeps it within the content. It
leaves the settings of the view alone, the file on display among them. No scroll offset is ever
negative, so one that is remembered and scrolled to again is the one that it was, unless one of its
coordinates is not a number.

## Main definitions

* `Point.NotNegative`, `Point.IsNumber`: no coordinate is below zero, and both are numbers.

## Main results

* `Widget.settings_frame`: a frame leaves the settings of the view alone.
* `Widget.scroll_frame`: where a frame scrolls to.
* `Point.nonneg_eq`: scrolling to a point that is not negative arrives there.
-/

namespace CodeBrowser

/-! ### Points that are not negative -/

namespace Point

/-- No coordinate of a point is below zero. -/
def NotNegative (p : Point Float32) : Prop := ¬ p.x < 0 ∧ ¬ p.y < 0

theorem zero_not_lt : ¬ (0 : Float32) < 0 := by decide +kernel

theorem notNegative_origin : (origin : Point Float32).NotNegative := ⟨zero_not_lt, zero_not_lt⟩

theorem larger_zero_not_lt (x : Float32) : ¬ Scalar.larger x 0 < 0 := by
  unfold Scalar.larger
  split_ifs with hlt hle
  · exact zero_not_lt
  · exact hlt
  · exact zero_not_lt

theorem notNegative_nonneg (p : Point Float32) : p.nonneg.NotNegative :=
  ⟨larger_zero_not_lt p.x, larger_zero_not_lt p.y⟩

theorem clamp_not_lt {high : Float32} (h : ¬ high < 0) (x : Float32) :
    ¬ Scalar.clamp x 0 high < 0 := by
  unfold Scalar.clamp
  split_ifs with hlow hhigh
  · exact zero_not_lt
  · exact h
  · exact hlow

theorem notNegative_clampTo {high : Point Float32} (h : high.NotNegative) (p : Point Float32) :
    (p.clampTo high).NotNegative :=
  ⟨clamp_not_lt h.1 p.x, clamp_not_lt h.2 p.y⟩

theorem larger_zero_eq {x : Float32} (h : ¬ x < 0) (hx : Scalar.IsNumber x) :
    Scalar.larger x 0 = x := by
  have hx : x ≤ x := hx
  rw [Scalar.larger, if_neg h, if_pos hx]

/-- Both coordinates of a point are numbers. -/
def IsNumber (p : Point Float32) : Prop := Scalar.IsNumber p.x ∧ Scalar.IsNumber p.y

/-- A point that is not negative stays where it is when it is raised to zero. -/
theorem nonneg_eq {p : Point Float32} (h : p.NotNegative) (hp : p.IsNumber) : p.nonneg = p := by
  have hx : Scalar.larger p.x 0 = p.x := larger_zero_eq h.1 hp.1
  have hy : Scalar.larger p.y 0 = p.y := larger_zero_eq h.2 hp.2
  exact congrArg₂ Point.mk hx hy

theorem clamp_larger_zero {x high : Float32} (hx : Scalar.IsNumber x) (h : ¬ high < 0) :
    Scalar.clamp (Scalar.larger x 0) 0 high = Scalar.clamp x 0 high := by
  by_cases hneg : x < 0
  · have hlarger : Scalar.larger x 0 = 0 := if_pos hneg
    rw [hlarger, Scalar.clamp, Scalar.clamp, if_neg zero_not_lt, if_neg h, if_pos hneg]
  · rw [larger_zero_eq hneg hx]

/-- It makes no difference whether a point is first raised to zero before it is brought into a
rectangle. -/
theorem clampTo_nonneg {p high : Point Float32} (hp : p.IsNumber) (h : high.NotNegative) :
    p.nonneg.clampTo high = p.clampTo high :=
  congrArg₂ Point.mk (clamp_larger_zero hp.1 h.1) (clamp_larger_zero hp.2 h.2)

end Point

/-! ### The parts of a frame -/

namespace View

variable {α : Type} [Scalar α] (metrics : Metrics α)

theorem settings_startPress (state : Pressing α) (frame : PrimaryFrame α) :
    (startPress state metrics frame).view.settings = state.view.settings := by
  unfold startPress
  split
  · split_ifs <;> rfl
  · rfl

theorem settings_followPress (view : View α) (frame : PrimaryFrame α) :
    (followPress view metrics frame).settings = view.settings := by
  unfold followPress
  split
  · split_ifs
    · exact settings_release metrics _
    · exact settings_dropUnless metrics _
  · split_ifs <;> rfl

theorem settings_routePrimary (state : Pressing α) (frame : PrimaryFrame α) :
    (routePrimary metrics state frame).view.settings = state.view.settings := by
  unfold routePrimary
  dsimp only
  split_ifs
  · exact (settings_followPress metrics _ frame).trans (settings_startPress metrics state frame)
  · exact settings_startPress metrics state frame

end View

namespace Widget

variable {α : Type} [Scalar α] (widget : Widget α)

section Parts

variable (metrics : Metrics α) (arrangement : Arrangement α) (gestures : Gestures α)

theorem settings_openMenu (history : HistoryAvailability) :
    (widget.openMenu metrics arrangement gestures history).view.settings =
      widget.view.settings := by
  unfold openMenu
  split
  · rfl
  · exact View.settings_dropUnless metrics _

theorem scroll_openMenu (history : HistoryAvailability) :
    (widget.openMenu metrics arrangement gestures history).scroll = widget.scroll := by
  unfold openMenu
  split <;> rfl

omit [Scalar α] in
theorem settings_settleMenu (wasOpen : Bool) (picked : Option MenuAction) :
    (widget.settleMenu gestures wasOpen picked).view.settings = widget.view.settings := by
  unfold settleMenu
  split
  · rfl
  · split
    · rfl
    · split_ifs <;> rfl

omit [Scalar α] in
theorem scroll_settleMenu (wasOpen : Bool) (picked : Option MenuAction) :
    (widget.settleMenu gestures wasOpen picked).scroll = widget.scroll := by
  unfold settleMenu
  split
  · rfl
  · split
    · rfl
    · split_ifs <;> rfl

end Parts

/-! ### The whole frame -/

variable (measurer : Measurer α) (rect : Rect α) (gestures : Gestures α)
  (history : HistoryAvailability) (picked : Option MenuAction)

/-- A frame leaves the settings of the view alone. -/
theorem settings_frame :
    (widget.frame measurer rect gestures history picked).view.settings = widget.view.settings := by
  refine (settings_settleMenu _ gestures _ picked).trans ?_
  refine (settings_openMenu _ _ _ gestures history).trans ?_
  exact View.settings_routePrimary _ _ _

/-- A frame leaves the file on display alone. -/
theorem file_frame :
    (widget.frame measurer rect gestures history picked).view.file = widget.view.file :=
  congrArg ViewSettings.file (widget.settings_frame measurer rect gestures history picked)

/-- Where a frame scrolls to: to what the view asks for, if it asks for something, then as the wheel
and the scrollbars say, and not beyond the content. -/
theorem scroll_frame :
    (widget.frame measurer rect gestures history picked).scroll =
      let arrangement := widget.arrange (widget.metrics measurer) rect
      scrollAfter arrangement widget.view.scrollRequest
        (barDragAfter arrangement gestures widget.barDrag) gestures widget.scroll :=
  (scroll_settleMenu _ gestures _ picked).trans (scroll_openMenu _ _ _ gestures history)

/-- After a frame the scroll offset is not negative. -/
theorem notNegative_scroll_frame (widget : Widget Float32) (measurer : Measurer Float32)
    (rect : Rect Float32) (gestures : Gestures Float32) :
    (widget.frame measurer rect gestures history picked).scroll.NotNegative := by
  rw [scroll_frame]
  exact Point.notNegative_clampTo (Point.notNegative_nonneg _) _

end Widget

end CodeBrowser
