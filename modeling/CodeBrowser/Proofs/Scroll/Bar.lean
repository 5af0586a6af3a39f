import CodeBrowser.Proofs.Geometry.Order
import CodeBrowser.Scroll.Bar
import Mathlib.Tactic.Linarith

/-!
# The thumb of a scrollbar and the pointer on it

A scroll offset becomes a part of the way to the end of the content, and that part becomes a place
of the thumb on its track. A place of the pointer becomes a part of the way in the same manner, and
the part becomes a scroll offset. Both parts are kept between 0 and 1, so the thumb stays on the
track and the offset within the content, wherever either comes from. With room to move, the two ways
undo each other.

All of this holds along the axis of the scrollbar, whichever it is. Arithmetic is exact here.

## Main definitions

* `Scrollbar.IsFitted`: the thumb fits the track, and there is something to scroll.
* `Rect.center`: the point in the middle of a rectangle.

## Main results

* `Scrollbar.isFitted_ofTrack`: the scrollbar of a content that is larger than the viewport.
* `Scrollbar.thumb_mem`, `Scrollbar.progress_mono`: where the thumb stands.
* `Scrollbar.scrollAt_mem`, `Scrollbar.scrollAt_mono`: where the pointer leads.
* `Scrollbar.thumb_scrollAt_inverse`: thumb and pointer are inverse to each other.
-/

namespace CodeBrowser

/-! ### Rectangles along an axis -/

theorem Rect.along_eq (r : Rect Rat) (axis : Axis) :
    r.along axis = r.max.along axis - r.min.along axis := by
  cases axis <;> rfl

/-- The point in the middle of a rectangle. -/
def Rect.center (r : Rect Rat) : Point Rat :=
  ⟨(r.min.x + r.max.x) / 2, (r.min.y + r.max.y) / 2⟩

theorem Rect.along_center (r : Rect Rat) (axis : Axis) :
    r.center.along axis = (r.min.along axis + r.max.along axis) / 2 := by
  cases axis <;> rfl

namespace Scrollbar

/-! ### Scrollbars that fit -/

/-- The thumb and the way that it can move make up the track, and there is something to scroll. -/
structure IsFitted (bar : Scrollbar Rat) : Prop where
  length_eq : bar.track.along bar.axis = bar.thumbSize + bar.thumbTravel
  thumbTravel_nonneg : 0 ≤ bar.thumbTravel
  maxScroll_pos : 0 < bar.maxScroll

section OfTrack

variable (axis : Axis) (track : Rect Rat) {viewport content : Rat}

theorem maxScroll_ofTrack (h : viewport < content) :
    (ofTrack axis track viewport content).maxScroll = content - viewport := by
  have hpos : 0 ≤ content - viewport := by linarith
  rw [ofTrack, Scalar.larger_rat, Scalar.ofNat_rat, Nat.cast_zero]
  exact max_eq_left hpos

/-- A thumb is never longer than its track. -/
theorem thumbLength_le (length viewport content : Rat) :
    thumbLength length viewport content ≤ length := by
  rw [thumbLength, Scalar.smaller_rat]
  exact min_le_right ..

/-- The scrollbar of a content that is larger than the viewport fits its track. -/
theorem isFitted_ofTrack (h : viewport < content) :
    (ofTrack axis track viewport content).IsFitted where
  length_eq := (add_sub_cancel ..).symm
  thumbTravel_nonneg := sub_nonneg.2 (thumbLength_le ..)
  maxScroll_pos := by
    rw [maxScroll_ofTrack axis track h]
    linarith

/-- The thumb takes the part of the track that the viewport takes of the content, unless that is too
short. -/
theorem thumbSize_ofTrack (hlength : 20 ≤ track.along axis) (hviewport : 0 < viewport)
    (hcontent : viewport < content) :
    (ofTrack axis track viewport content).thumbSize =
      max (track.along axis * (viewport / content)) 20 := by
  have hpos : 0 < content := hviewport.trans hcontent
  have hpart : viewport / content ≤ 1 := (div_le_one hpos).2 hcontent.le
  have hvisible : visiblePart viewport content = viewport / content := by
    rw [visiblePart, if_pos (by simpa [Scalar.ofNat_rat] using hpos), Scalar.smaller_rat]
    exact min_eq_left (by simpa [Scalar.ofNat_rat] using hpart)
  have hle : track.along axis * (viewport / content) ≤ track.along axis :=
    mul_le_of_le_one_right (by linarith) hpart
  show thumbLength (track.along axis) viewport content = _
  rw [thumbLength, hvisible, Scalar.smaller_rat, Scalar.larger_rat]
  exact min_eq_left (max_le hle (by simpa [minThumb, Scalar.ofNat_rat] using hlength))

end OfTrack

/-! ### From scroll offsets to places of the thumb -/

variable {bar : Scrollbar Rat}

/-- The thumb stands where the progress along its way puts it. -/
theorem along_min_thumb (bar : Scrollbar Rat) (scroll : Rat) :
    (bar.thumb scroll).min.along bar.axis =
      bar.track.min.along bar.axis + bar.progress scroll * bar.thumbTravel := by
  unfold thumb
  cases haxis : bar.axis <;> rfl

theorem along_max_thumb (bar : Scrollbar Rat) (scroll : Rat) :
    (bar.thumb scroll).max.along bar.axis =
      (bar.thumb scroll).min.along bar.axis + bar.thumbSize := by
  unfold thumb
  cases haxis : bar.axis <;> rfl

theorem progress_eq (hbar : bar.IsFitted) (scroll : Rat) :
    bar.progress scroll = max 0 (min (scroll / bar.maxScroll) 1) := by
  have hpos : (Scalar.ofNat 0 : Rat) < bar.maxScroll := by
    simpa [Scalar.ofNat_rat] using hbar.maxScroll_pos
  rw [progress, if_pos hpos, Scalar.ofNat_rat, Scalar.ofNat_rat, Nat.cast_zero, Nat.cast_one]
  exact Scalar.clamp_rat zero_le_one _

theorem progress_mem (hbar : bar.IsFitted) (scroll : Rat) :
    0 ≤ bar.progress scroll ∧ bar.progress scroll ≤ 1 := by
  rw [progress_eq hbar]
  exact ⟨le_max_left .., max_le zero_le_one (min_le_right ..)⟩

theorem progress_mono (hbar : bar.IsFitted) {scroll scroll' : Rat} (h : scroll ≤ scroll') :
    bar.progress scroll ≤ bar.progress scroll' := by
  have hpart : scroll / bar.maxScroll ≤ scroll' / bar.maxScroll :=
    div_le_div_of_nonneg_right h hbar.maxScroll_pos.le
  rw [progress_eq hbar, progress_eq hbar]
  exact max_le_max_left 0 (min_le_min_right 1 hpart)

/-- Within the content the progress is the part of the way that has been scrolled. -/
theorem progress_eq_div (hbar : bar.IsFitted) {scroll : Rat} (hscroll : 0 ≤ scroll)
    (hmax : scroll ≤ bar.maxScroll) : bar.progress scroll = scroll / bar.maxScroll := by
  have hpart : scroll / bar.maxScroll ≤ 1 := (div_le_one hbar.maxScroll_pos).2 hmax
  rw [progress_eq hbar, min_eq_left hpart]
  exact max_eq_right (div_nonneg hscroll hbar.maxScroll_pos.le)

/-- **The thumb stays on the track**, whatever the scroll offset is. -/
theorem thumb_mem (hbar : bar.IsFitted) (scroll : Rat) :
    bar.track.min.along bar.axis ≤ (bar.thumb scroll).min.along bar.axis ∧
      (bar.thumb scroll).max.along bar.axis ≤ bar.track.max.along bar.axis := by
  obtain ⟨hnonneg, hle⟩ := progress_mem hbar scroll
  have hway := mul_nonneg hnonneg hbar.thumbTravel_nonneg
  have hway' := mul_le_of_le_one_left hbar.thumbTravel_nonneg hle
  have hlength := hbar.length_eq
  rw [Rect.along_eq] at hlength
  rw [along_max_thumb, along_min_thumb]
  constructor <;> linarith

/-! ### From places of the pointer to scroll offsets -/

/-- The part of the way at which the centre of the thumb is at a place along the track, which the
place may be off. -/
def reach (bar : Scrollbar Rat) (place : Rat) : Rat :=
  (place - bar.track.min.along bar.axis - bar.thumbSize / 2) / max bar.thumbTravel 1

theorem reach_mono (bar : Scrollbar Rat) {place place' : Rat} (h : place ≤ place') :
    bar.reach place ≤ bar.reach place' := by
  have htravel : 0 ≤ max bar.thumbTravel 1 := zero_le_one.trans (le_max_right ..)
  exact div_le_div_of_nonneg_right (by linarith) htravel

theorem scrollAt_eq (bar : Scrollbar Rat) (point : Point Rat) :
    bar.scrollAt point = max 0 (min (bar.reach (point.along bar.axis)) 1) * bar.maxScroll := by
  rw [scrollAt, Scalar.larger_rat, Scalar.ofNat_rat, Scalar.ofNat_rat, Scalar.ofNat_rat,
    Nat.cast_zero, Nat.cast_one, Scalar.clamp_rat zero_le_one]
  rfl

/-- **The pointer leads into the content**, wherever it is. -/
theorem scrollAt_mem (hbar : bar.IsFitted) (point : Point Rat) :
    0 ≤ bar.scrollAt point ∧ bar.scrollAt point ≤ bar.maxScroll := by
  rw [scrollAt_eq]
  have hpos := hbar.maxScroll_pos.le
  exact ⟨mul_nonneg (le_max_left ..) hpos,
    mul_le_of_le_one_left hpos (max_le zero_le_one (min_le_right ..))⟩

theorem scrollAt_mono (hbar : bar.IsFitted) {p q : Point Rat}
    (h : p.along bar.axis ≤ q.along bar.axis) : bar.scrollAt p ≤ bar.scrollAt q := by
  rw [scrollAt_eq, scrollAt_eq]
  exact mul_le_mul_of_nonneg_right (max_le_max_left 0 (min_le_min_right 1 (reach_mono bar h)))
    hbar.maxScroll_pos.le

/-- **The centre of the thumb leads back to the scroll offset**, if the thumb has room to move. -/
theorem scrollAt_center_thumb (hbar : bar.IsFitted) (htravel : 1 ≤ bar.thumbTravel) {scroll : Rat}
    (hscroll : 0 ≤ scroll) (hmax : scroll ≤ bar.maxScroll) :
    bar.scrollAt (bar.thumb scroll).center = scroll := by
  have hpart := progress_eq_div hbar hscroll hmax
  obtain ⟨hnonneg, hle⟩ := progress_mem hbar scroll
  have hreach : bar.reach ((bar.thumb scroll).center.along bar.axis) = bar.progress scroll := by
    have hpos : 0 < bar.thumbTravel := by linarith
    rw [reach, Rect.along_center, along_max_thumb, along_min_thumb, max_eq_left htravel,
      div_eq_iff hpos.ne']
    ring
  rw [scrollAt_eq, hreach, min_eq_left hle, max_eq_right hnonneg, hpart]
  exact div_mul_cancel₀ scroll hbar.maxScroll_pos.ne'

/-- **Thumb and pointer are inverse to each other.** Let the content be larger than the viewport and
the track long enough for a thumb. The thumb takes the part of the track that the viewport takes of
the content, and no less than it needs. It stays on the track whatever the scroll offset is, and
moves on with it. The pointer leads into the content wherever it is, and further on where it is
further on. If the thumb has room to move, its centre leads back to the scroll offset. -/
theorem thumb_scrollAt_inverse {axis : Axis} {track : Rect Rat} {viewport content : Rat}
    (hlength : 20 ≤ track.along axis) (hviewport : 0 < viewport) (hcontent : viewport < content) :
    let bar := ofTrack axis track viewport content
    bar.maxScroll = content - viewport ∧
      (∀ scroll, track.min.along axis ≤ (bar.thumb scroll).min.along axis ∧
        (bar.thumb scroll).max.along axis ≤ track.max.along axis ∧
        (bar.thumb scroll).along axis = max (track.along axis * (viewport / content)) 20) ∧
      (∀ scroll scroll', scroll ≤ scroll' →
        (bar.thumb scroll).min.along axis ≤ (bar.thumb scroll').min.along axis) ∧
      (∀ point, 0 ≤ bar.scrollAt point ∧ bar.scrollAt point ≤ bar.maxScroll) ∧
      (∀ p q : Point Rat, p.along axis ≤ q.along axis → bar.scrollAt p ≤ bar.scrollAt q) ∧
      (1 ≤ bar.thumbTravel → ∀ scroll, 0 ≤ scroll → scroll ≤ bar.maxScroll →
        bar.scrollAt (bar.thumb scroll).center = scroll) := by
  intro bar
  have hbar : bar.IsFitted := isFitted_ofTrack axis track hcontent
  refine ⟨maxScroll_ofTrack axis track hcontent, fun scroll => ?_, fun scroll scroll' hle => ?_,
    scrollAt_mem hbar, fun p q => scrollAt_mono hbar, fun htravel scroll =>
      scrollAt_center_thumb hbar htravel⟩
  · obtain ⟨hmin, hmax⟩ := thumb_mem hbar scroll
    have hsize : (bar.thumb scroll).max.along axis =
        (bar.thumb scroll).min.along axis + bar.thumbSize := along_max_thumb bar scroll
    refine ⟨hmin, hmax, ?_⟩
    rw [Rect.along_eq, hsize, add_sub_cancel_left]
    exact thumbSize_ofTrack axis track hlength hviewport hcontent
  · have hway := mul_le_mul_of_nonneg_right (progress_mono hbar hle) hbar.thumbTravel_nonneg
    have hmin (scroll : Rat) : (bar.thumb scroll).min.along axis =
        track.min.along axis + bar.progress scroll * bar.thumbTravel := along_min_thumb bar scroll
    rw [hmin, hmin]
    linarith

/-- The thumb of a long content is no shorter than a thumb has to be. Halfway through the content it
stands in the middle of the track. -/
theorem thumb_scrollAt_inverse_short_thumb :
    let track : Rect Rat := ⟨⟨0, 386⟩, ⟨200, 400⟩⟩
    let bar := ofTrack .horizontal track 200 4000
    20 ≤ track.along .horizontal ∧ (0 : Rat) < 200 ∧ (200 : Rat) < 4000 ∧
      1 ≤ bar.thumbTravel ∧ (0 : Rat) ≤ 1900 ∧ 1900 ≤ bar.maxScroll ∧
      (bar.thumb 1900).along .horizontal = 20 ∧ (bar.thumb 1900).center.along .horizontal = 100 ∧
      bar.scrollAt (bar.thumb 1900).center = 1900 := by
  intro track bar
  have hlength : 20 ≤ track.along .horizontal := by decide +kernel
  have hviewport : (0 : Rat) < 200 := by norm_num
  have hcontent : (200 : Rat) < 4000 := by norm_num
  have htravel : 1 ≤ bar.thumbTravel := by decide +kernel
  have hscroll : (0 : Rat) ≤ 1900 := by norm_num
  have hmax : 1900 ≤ bar.maxScroll := by decide +kernel
  obtain ⟨-, -, -, -, -, hback⟩ := thumb_scrollAt_inverse hlength hviewport hcontent
  refine ⟨hlength, hviewport, hcontent, htravel, hscroll, hmax, by decide +kernel,
    by decide +kernel, hback htravel 1900 hscroll hmax⟩

end Scrollbar

end CodeBrowser
