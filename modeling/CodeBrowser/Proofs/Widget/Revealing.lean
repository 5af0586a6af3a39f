import CodeBrowser.Proofs.Scroll.Reveal
import CodeBrowser.Proofs.View.Request
import CodeBrowser.Proofs.Widget.Arrangement
import CodeBrowser.Proofs.Widget.Still

/-!
# What is asked for comes into view

In a frame without input the widget scrolls to what its view asks for, and then keeps the scroll
offset within the content. Along each axis, the part of the content that was asked for is in view
after the frame. So is the line in which the host has selected a word, since the view asks for it.
Where no character stands, the first line comes into view in its place.

Arithmetic is exact here.

## Main results

* `Arrangement.inView_scrollAfter`: what is asked for is in view after a frame without input.
* `Widget.inView_selectIdentifier`: the line that is in view after a selection by the host.
-/

namespace CodeBrowser

theorem Point.along_revealRect (area : Point Rat) (target : Rect Rat) (scroll : Point Rat)
    (axis : Axis) :
    (revealRect area target scroll).along axis =
      reveal (scroll.along axis) (target.min.along axis) (target.max.along axis) (area.along axis)
        ensureMargin := by
  cases axis <;> rfl

/-- **What is asked for is in view after a frame without input**, along each axis on which it is
part of the content. -/
theorem Arrangement.inView_scrollAfter {gestures : Gestures Rat} (h : gestures.IsStill)
    (rect : Rect Rat) (gutterWidth : Rat) {content scroll : Point Rat} {target : Rect Rat}
    (drag : Option Axis) (axis : Axis) (hscroll : 0 ≤ scroll.along axis)
    (hstart : 0 ≤ target.min.along axis) (htarget : target.min.along axis < target.max.along axis)
    (hcontent : target.max.along axis ≤ content.along axis)
    (htext : 0 < (ofContent rect gutterWidth content).text.along axis) :
    let arrangement := ofContent rect gutterWidth content
    InView (arrangement.text.along axis) (target.min.along axis) (target.max.along axis)
      (min 50 (arrangement.text.along axis / 2))
      ((scrollAfter arrangement (some target) drag gestures scroll).along axis) := by
  intro arrangement
  have hsize : arrangement.text.size.along axis = arrangement.text.along axis := by
    cases axis <;> rfl
  have hmargin : (0 : Rat) ≤ 50 := by norm_num
  have hsub (p : Point Rat) : p - .origin = p := congrArg₂ Point.mk (sub_zero p.x) (sub_zero p.y)
  rw [scrollAfter_of_sub_origin h hsub, Option.map_some, Option.getD_some, Point.along_clampTo,
    Point.along_revealRect, hsize, along_maxScroll_ofContent, max_comm]
  exact (inView_reveal hscroll hstart htarget htext hmargin).clamp (reveal_nonneg hscroll) htarget
    hcontent

/-! ### A line in which a word is selected -/

/-- A line of the text is part of the content. -/
theorem View.bottom_le_sizeHint {view : View Rat} {metrics : Metrics Rat} {file : SourceFile}
    {line : Nat} (hfile : view.file = some file) (hspacing : 0 ≤ metrics.spacing)
    (hmargin : 0 ≤ view.margins.bottom) (hline : line < file.lineCount) :
    view.margins.top + line * metrics.spacing + metrics.spacing ≤ (view.sizeHint metrics).y := by
  have hsize : (view.sizeHint metrics).y =
      file.lineCount * metrics.spacing + (view.margins.top + view.margins.bottom) := by
    simp only [sizeHint, hfile]
    rfl
  have hrows : ((line + 1 : Nat) : Rat) * metrics.spacing ≤ file.lineCount * metrics.spacing :=
    mul_le_mul_of_nonneg_right (Nat.cast_le.2 hline) hspacing
  rw [hsize]
  push_cast at hrows
  linarith

/-- **A line in which the host selects a word comes into view** with the next frame without input:
its top always, and its bottom where there is room for the line and the space beside it. Where no
character stands, all of this is true of the first line instead. -/
theorem Widget.inView_selectIdentifier {widget : Widget Rat} {measurer : Measurer Rat}
    {rect : Rect Rat} {gestures : Gestures Rat} (h : gestures.IsStill)
    (history : HistoryAvailability) (picked : Option MenuAction) {file : SourceFile}
    {line column : Nat} (hfile : widget.view.file = some file) (hone : 1 ≤ line)
    (hline : line ≤ file.lineCount) (hspacing : 0 < (widget.metrics measurer).spacing)
    (htop : 0 ≤ widget.view.margins.top) (hbottom : 0 ≤ widget.view.margins.bottom)
    (hscroll : 0 ≤ widget.scroll.y)
    (htext : 0 < (widget.arrange (widget.metrics measurer) rect).text.height) :
    let metrics := widget.metrics measurer
    let room := (widget.arrange metrics rect).text.height
    let shown := if column - 1 < file.lineLength (line - 1) then line - 1 else 0
    let top := widget.view.margins.top + shown * metrics.spacing
    InView room top (top + metrics.spacing) (min 50 (room / 2))
      ((widget.selectIdentifier measurer line column).frame measurer rect gestures history
        picked).scroll.y := by
  intro metrics room shown top
  let selected := widget.selectIdentifier measurer line column
  let request := selected.view.requestRect metrics
  have hasked : request.IsOnLine widget.view.margins metrics shown :=
    View.isOnLine_selectIdentifier hfile hone hline
  have hmin : request.min.y = top := hasked.top
  have hmax : request.max.y = top + metrics.spacing := hasked.bottom
  have hshown : shown < file.lineCount := by
    show (if column - 1 < file.lineLength (line - 1) then line - 1 else 0) < file.lineCount
    split_ifs <;> omega
  have hstart : 0 ≤ request.min.y := by
    rw [hmin]
    exact add_nonneg htop (mul_nonneg shown.cast_nonneg hspacing.le)
  have htarget : request.min.y < request.max.y := by
    rw [hmin, hmax]
    exact lt_add_of_pos_right top hspacing
  have hcontent : request.max.y ≤ (widget.view.sizeHint metrics).y := by
    rw [hmax]
    exact View.bottom_le_sizeHint hfile hspacing.le hbottom hshown
  have hview : InView room request.min.y request.max.y (min 50 (room / 2))
      (selected.frame measurer rect gestures history picked).scroll.y := by
    rw [Widget.scroll_frame]
    exact Arrangement.inView_scrollAfter h rect (widget.gutterWidth metrics) _ .vertical hscroll
      hstart htarget hcontent htext
  rwa [hmin, hmax] at hview

end CodeBrowser
