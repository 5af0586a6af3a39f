import CodeBrowser.Proofs.Widget.Scrolling
import Mathlib.Order.Bounds.Basic
import Mathlib.Tactic.Linarith
import Mathlib.Tactic.Ring

/-!
# Where the scrollbars appear

A scrollbar takes room from the other axis, so whether one axis needs a scrollbar depends on whether
the other one has it. A choice of scrollbars suits a content if on each axis there is a scrollbar
just where the content is larger than what the other scrollbar leaves of the area. More than one
choice can suit, since two scrollbars can each be there only because the other one is. The
arrangement makes the least choice that suits. So a scrollbar appears just where there is something
to scroll, and an axis without a scrollbar is never scrolled.

Arithmetic is exact here.

## Main definitions

* `hasBar`, `roomBeside`: a choice of scrollbars, and what it leaves of an area.
* `BarsSuit`: a choice of scrollbars suits a content.
* `Arrangement.IsWithin`: a scroll offset lies within the content.

## Main results

* `isLeast_needsBars`: the arrangement makes the least choice that suits.
* `Arrangement.isSome_bar?_iff`: a scrollbar appears where the content is larger than the text area.
* `Arrangement.isWithin_clampTo`: what keeps a scroll offset within the content.
* `Arrangement.bars_iff_overflow`: scrollbars appear just where the content overflows.
-/

namespace CodeBrowser

/-- The axis across another one. -/
def Axis.other : Axis → Axis
  | .horizontal => .vertical
  | .vertical => .horizontal

/-! ### The choice of scrollbars -/

/-- Whether a choice of a vertical and a horizontal scrollbar has the one along an axis. -/
def hasBar (bars : Bool × Bool) : Axis → Bool
  | .vertical => bars.1
  | .horizontal => bars.2

/-- What a choice of scrollbars leaves of an area along an axis. -/
def roomBeside (area : Point Rat) (bars : Bool × Bool) (axis : Axis) : Rat :=
  area.along axis - if hasBar bars axis.other then 14 else 0

/-- A choice of scrollbars suits a content in an area: there is one along each axis just where the
content is larger than what the other one leaves. -/
def BarsSuit (area content : Point Rat) (bars : Bool × Bool) : Prop :=
  ∀ axis, hasBar bars axis = true ↔ roomBeside area bars axis < content.along axis

section Choice

variable {area content : Point Rat}

theorem roomBeside_le (area : Point Rat) (bars : Bool × Bool) (axis : Axis) :
    roomBeside area bars axis ≤ area.along axis := by
  unfold roomBeside
  split_ifs <;> linarith

theorem roomBeside_of_hasBar {bars : Bool × Bool} {axis : Axis}
    (h : hasBar bars axis.other = true) : roomBeside area bars axis = area.along axis - 14 := by
  rw [roomBeside, if_pos h]

theorem roomBeside_of_not_hasBar {bars : Bool × Bool} {axis : Axis}
    (h : ¬ hasBar bars axis.other = true) : roomBeside area bars axis = area.along axis := by
  rw [roomBeside, if_neg h, sub_zero]

/-- The horizontal scrollbar is chosen with regard to the vertical one only where that is needed in
any case. -/
theorem hasBar_horizontal_iff (area content : Point Rat) :
    hasBar (Arrangement.needsBars area content) .horizontal = true ↔
      area.x - (if area.y < content.y then 14 else 0) < content.x := by
  have hchoice : hasBar (Arrangement.needsBars area content) .horizontal =
      decide (area.x - (if decide (area.y < content.y) = true then 14 else 0) < content.x) := rfl
  simp only [hchoice, decide_eq_true_eq]

theorem hasBar_vertical_iff (area content : Point Rat) :
    hasBar (Arrangement.needsBars area content) .vertical = true ↔
      area.y < content.y ∨
        hasBar (Arrangement.needsBars area content) .horizontal = true ∧
          area.y - 14 < content.y := by
  have hchoice : hasBar (Arrangement.needsBars area content) .vertical =
      (decide (area.y < content.y) ||
        (hasBar (Arrangement.needsBars area content) .horizontal &&
          decide (area.y - 14 < content.y))) := rfl
  rw [hchoice, Bool.or_eq_true, Bool.and_eq_true, decide_eq_true_iff, decide_eq_true_iff]

theorem barsSuit_needsBars (area content : Point Rat) :
    BarsSuit area content (Arrangement.needsBars area content) := by
  have hvertical := hasBar_vertical_iff area content
  have hhorizontal := hasBar_horizontal_iff area content
  generalize Arrangement.needsBars area content = bars at *
  rintro (_ | _)
  · -- The horizontal scrollbar is decided before it is known whether it brings the vertical one.
    by_cases hhigh : area.y < content.y
    · have hbar : hasBar bars Axis.horizontal.other = true := hvertical.2 (.inl hhigh)
      rw [roomBeside_of_hasBar hbar, hhorizontal, if_pos hhigh]
      rfl
    · rw [if_neg hhigh, sub_zero] at hhorizontal
      refine ⟨fun hwide => ?_, fun hroom => ?_⟩
      · exact (roomBeside_le area bars .horizontal).trans_lt (hhorizontal.1 hwide)
      · by_contra hnarrow
        have hbar : ¬ hasBar bars Axis.horizontal.other = true := fun h =>
          (hvertical.1 h).elim hhigh fun h => hnarrow h.1
        rw [roomBeside_of_not_hasBar hbar] at hroom
        exact hnarrow (hhorizontal.2 hroom)
  · by_cases hwide : hasBar bars .horizontal = true
    · have hbar : hasBar bars Axis.vertical.other = true := hwide
      rw [roomBeside_of_hasBar hbar, hvertical]
      refine ⟨fun h => h.elim (fun hhigh => ?_) And.right, fun h => .inr ⟨hwide, h⟩⟩
      exact (sub_lt_self area.y (by norm_num)).trans hhigh
    · have hbar : ¬ hasBar bars Axis.vertical.other = true := hwide
      rw [roomBeside_of_not_hasBar hbar, hvertical]
      exact or_iff_left fun h => hwide h.1

/-- **The arrangement makes the least choice of scrollbars that suits the content.** -/
theorem isLeast_needsBars (area content : Point Rat) :
    IsLeast {bars | BarsSuit area content bars} (Arrangement.needsBars area content) := by
  refine ⟨barsSuit_needsBars area content, fun bars (hbars : BarsSuit area content bars) => ?_⟩
  have hoverflow (axis : Axis) (h : area.along axis < content.along axis) :
      hasBar bars axis = true :=
    (hbars axis).2 ((roomBeside_le area bars axis).trans_lt h)
  have hwide : (Arrangement.needsBars area content).2 = true → bars.2 = true := by
    intro h
    have hroom := (hasBar_horizontal_iff area content).1 h
    split_ifs at hroom with hhigh
    · refine (hbars .horizontal).2 ?_
      rwa [roomBeside_of_hasBar (hoverflow .vertical hhigh)]
    · exact hoverflow .horizontal (by rwa [sub_zero] at hroom)
  have hhigh : (Arrangement.needsBars area content).1 = true → bars.1 = true := by
    intro h
    rcases (hasBar_vertical_iff area content).1 h with hhigh | ⟨hbar, hroom⟩
    · exact hoverflow .vertical hhigh
    · have hbeside : hasBar bars Axis.vertical.other = true := hwide hbar
      refine (hbars .vertical).2 ?_
      rwa [roomBeside_of_hasBar hbeside]
  exact ⟨Bool.le_iff_imp.2 hhigh, Bool.le_iff_imp.2 hwide⟩

/-- One scrollbar can make the other one necessary. -/
example : Arrangement.needsBars (⟨100, 100⟩ : Point Rat) ⟨95, 101⟩ = (true, true) := by
  decide +kernel

/-- Two scrollbars would suit a content that finds room without them, but there are none. -/
example : BarsSuit ⟨100, 100⟩ ⟨95, 95⟩ (true, true) ∧
    Arrangement.needsBars (⟨100, 100⟩ : Point Rat) ⟨95, 95⟩ = (false, false) := by
  refine ⟨?_, by decide +kernel⟩
  rintro (_ | _) <;> decide +kernel

end Choice

/-! ### Points along an axis -/

theorem Point.along_clampTo (p high : Point Rat) (axis : Axis) :
    (p.clampTo high).along axis = Scalar.clamp (p.along axis) 0 (high.along axis) := by
  cases axis <;> rfl

theorem Point.along_nonneg (p : Point Rat) (axis : Axis) :
    p.nonneg.along axis = max (p.along axis) 0 := by
  cases axis <;> exact Scalar.larger_rat ..

theorem Point.along_sub_size (p : Point Rat) (r : Rect Rat) (axis : Axis) :
    (p - r.size).along axis = p.along axis - r.along axis := by
  cases axis <;> rfl

namespace Arrangement

/-! ### The scrollbars of an arrangement -/

section OfContent

variable (rect : Rect Rat) (gutterWidth : Rat) (content : Point Rat) (axis : Axis)

/-- The area beside the gutter, which the text shares with the scrollbars. -/
def sharedArea : Point Rat := ⟨rect.width - gutterWidth, rect.height⟩

theorem isSome_bar?_ofContent :
    ((ofContent rect gutterWidth content).bar? axis).isSome =
      hasBar (needsBars (sharedArea rect gutterWidth) content) axis := by
  cases axis with
  | horizontal =>
    show (if (needsBars (sharedArea rect gutterWidth) content).2 then _ else none).isSome =
      (needsBars (sharedArea rect gutterWidth) content).2
    split_ifs with hbar <;> simp [hbar]
  | vertical =>
    show (if (needsBars (sharedArea rect gutterWidth) content).1 then _ else none).isSome =
      (needsBars (sharedArea rect gutterWidth) content).1
    split_ifs with hbar <;> simp [hbar]

theorem along_text_ofContent :
    (ofContent rect gutterWidth content).text.along axis =
      roomBeside (sharedArea rect gutterWidth) (needsBars (sharedArea rect gutterWidth) content)
        axis := by
  generalize hbars : needsBars (sharedArea rect gutterWidth) content = bars
  cases axis with
  | horizontal =>
    show rect.max.x - (if (needsBars (sharedArea rect gutterWidth) content).1 then 14 else 0) -
        (rect.min.x + gutterWidth) =
      rect.max.x - rect.min.x - gutterWidth - (if bars.1 then 14 else 0)
    rw [hbars]
    ring
  | vertical =>
    show rect.max.y - (if (needsBars (sharedArea rect gutterWidth) content).2 then 14 else 0) -
        rect.min.y =
      rect.max.y - rect.min.y - (if bars.2 then 14 else 0)
    rw [hbars]
    ring

theorem along_maxScroll_ofContent :
    (ofContent rect gutterWidth content).maxScroll.along axis =
      max (content.along axis - (ofContent rect gutterWidth content).text.along axis) 0 := by
  show (content - (ofContent rect gutterWidth content).text.size).nonneg.along axis = _
  rw [Point.along_nonneg, Point.along_sub_size]

/-- **A scrollbar appears where the content is larger than the text area.** -/
theorem isSome_bar?_iff :
    ((ofContent rect gutterWidth content).bar? axis).isSome = true ↔
      (ofContent rect gutterWidth content).text.along axis < content.along axis := by
  rw [isSome_bar?_ofContent, along_text_ofContent]
  exact barsSuit_needsBars _ content axis

theorem maxScroll_pos_iff :
    0 < (ofContent rect gutterWidth content).maxScroll.along axis ↔
      (ofContent rect gutterWidth content).text.along axis < content.along axis := by
  rw [along_maxScroll_ofContent, lt_max_iff, sub_pos]
  exact or_iff_left (lt_irrefl 0)

end OfContent

/-! ### Scroll offsets within the content -/

/-- A scroll offset lies within the content, and an axis without a scrollbar is not scrolled. -/
structure IsWithin (arrangement : Arrangement Rat) (scroll : Point Rat) : Prop where
  nonneg : ∀ axis, 0 ≤ scroll.along axis
  le_maxScroll : ∀ axis, scroll.along axis ≤ arrangement.maxScroll.along axis
  eq_zero : ∀ axis, arrangement.bar? axis = none → scroll.along axis = 0

theorem isWithin_clampTo (rect : Rect Rat) (gutterWidth : Rat) (content scroll : Point Rat) :
    (ofContent rect gutterWidth content).IsWithin
      (scroll.clampTo (ofContent rect gutterWidth content).maxScroll) := by
  have hnonneg (axis : Axis) : 0 ≤ (ofContent rect gutterWidth content).maxScroll.along axis := by
    rw [along_maxScroll_ofContent]
    exact le_max_right ..
  have hclamp (axis : Axis) := Scalar.clamp_rat (hnonneg axis) (scroll.along axis)
  have hlower (axis : Axis) :
      0 ≤ (scroll.clampTo (ofContent rect gutterWidth content).maxScroll).along axis := by
    rw [Point.along_clampTo, hclamp]
    exact le_max_left ..
  have hupper (axis : Axis) :
      (scroll.clampTo (ofContent rect gutterWidth content).maxScroll).along axis ≤
        (ofContent rect gutterWidth content).maxScroll.along axis := by
    rw [Point.along_clampTo, hclamp]
    exact max_le (hnonneg axis) (min_le_right ..)
  refine ⟨hlower, hupper, fun axis hnone => le_antisymm ?_ (hlower axis)⟩
  refine (hupper axis).trans (not_lt.1 fun hpos => ?_)
  have hsome := (isSome_bar?_iff rect gutterWidth content axis).2
    ((maxScroll_pos_iff rect gutterWidth content axis).1 hpos)
  rw [hnone] at hsome
  exact Bool.false_ne_true hsome

/-- **Scrollbars appear just where the content overflows.** Along each axis the text has what the
scrollbar of the other axis leaves of the area beside the gutter, and there is a scrollbar if and
only if the content is larger than that, which is the same as that there is something to scroll.
Whatever is to be shown, whatever the pointer and the wheel do, and whatever the scroll offset was,
after a frame it lies within the content, and an axis without a scrollbar is not scrolled. -/
theorem bars_iff_overflow :
    (∀ (rect : Rect Rat) (gutterWidth : Rat) (content : Point Rat),
      let arrangement := ofContent rect gutterWidth content
      arrangement.text.width = rect.width - gutterWidth -
          (if (arrangement.bar? .vertical).isSome then 14 else 0) ∧
        arrangement.text.height = rect.height -
          (if (arrangement.bar? .horizontal).isSome then 14 else 0) ∧
        (∀ axis, ((arrangement.bar? axis).isSome ↔
            arrangement.text.along axis < content.along axis) ∧
          ((arrangement.bar? axis).isSome ↔ 0 < arrangement.maxScroll.along axis)) ∧
        ∀ target drag gestures scroll,
          arrangement.IsWithin (scrollAfter arrangement target drag gestures scroll)) ∧
    ∀ (widget : Widget Rat) (measurer : Measurer Rat) (rect : Rect Rat) (gestures : Gestures Rat)
      (history : HistoryAvailability) (picked : Option MenuAction),
      (widget.arrange (widget.metrics measurer) rect).IsWithin
        (widget.frame measurer rect gestures history picked).scroll := by
  constructor
  · intro rect gutterWidth content arrangement
    have htext (axis : Axis) : arrangement.text.along axis =
        (sharedArea rect gutterWidth).along axis -
          (if (arrangement.bar? axis.other).isSome then 14 else 0) := by
      rw [isSome_bar?_ofContent]
      exact along_text_ofContent rect gutterWidth content axis
    refine ⟨htext .horizontal, htext .vertical, fun axis => ⟨?_, ?_⟩, fun _ _ _ _ => ?_⟩
    · exact isSome_bar?_iff rect gutterWidth content axis
    · exact (isSome_bar?_iff rect gutterWidth content axis).trans
        (maxScroll_pos_iff rect gutterWidth content axis).symm
    · exact isWithin_clampTo rect gutterWidth content _
  · intro widget measurer rect gestures history picked
    rw [Widget.scroll_frame]
    exact isWithin_clampTo rect _ _ _

end Arrangement

end CodeBrowser
