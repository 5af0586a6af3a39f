import CodeBrowser.Proofs.Geometry.Order
import CodeBrowser.Scroll.Reveal
import Mathlib.Tactic.Linarith

/-!
# A target scrolled into view

The three cases in which a target is shown are one expression: the scroll offset is raised until the
end of the target comes into view, lowered until its start does, and kept from falling below zero.
From it the offset has a bound on either side, and the bounds say what is seen of the target. They
survive that the offset is then kept within the content, as long as the target is part of it.

Arithmetic is exact here.

## Main definitions

* `InView`: what a viewport shows of a target.

## Main results

* `reveal_eq`: the scroll offset in one expression.
* `InView.of_bounds`: what the bounds of the offset mean for the target.
* `reveal_settles`: a target is shown, and stays where it is from then on.
-/

namespace CodeBrowser

/-- The viewport at a scroll offset shows the start of the target, and the end as well where there
is room for the target and some space on both sides. -/
structure InView (viewport start stop space scroll : Rat) : Prop where
  scroll_le_start : scroll ≤ start
  start_lt : start < scroll + viewport
  stop_le : stop - start + 2 * space ≤ viewport → stop ≤ scroll + viewport

section Target

variable {scroll start stop viewport margin space : Rat}

theorem revealMargin_eq (hviewport : 0 ≤ viewport) (hmargin : 0 ≤ margin) :
    revealMargin viewport margin = min margin (viewport / 2) := by
  have hhalf : 0 ≤ viewport / 2 := by linarith
  rw [revealMargin, Scalar.larger_rat, Scalar.smaller_rat]
  exact max_eq_left (le_min hmargin hhalf)

/-- **The scroll offset in one expression.** It is raised until the end is in view, then lowered
until the start is, and then kept from falling below zero. -/
theorem reveal_eq (hscroll : 0 ≤ scroll) :
    reveal scroll start stop viewport margin =
      max (min (max scroll (stop + revealMargin viewport margin - viewport))
        (start - revealMargin viewport margin)) 0 := by
  generalize hspace : revealMargin viewport margin = space
  simp only [reveal, hspace, Scalar.larger_rat, Scalar.smaller_rat, Scalar.ofNat_rat,
    Nat.cast_zero]
  split_ifs with hstart hstop
  · rw [min_eq_right (hstart.le.trans (le_max_left ..))]
  · have hraised : scroll ≤ stop + space - viewport := by linarith
    rw [max_eq_right hraised]
  · have hkept : stop + space - viewport ≤ scroll := by linarith
    rw [max_eq_left hkept, min_eq_left (not_lt.1 hstart), max_eq_left hscroll]

/-- An offset that leaves the space before the start where it can, and goes as far towards the end
as that allows, shows the target. -/
theorem InView.of_bounds (hstart : 0 ≤ start) (htarget : start < stop) (hspace : 0 ≤ space)
    (hroom : 2 * space ≤ viewport) (hviewport : 0 < viewport)
    (hupper : scroll ≤ max (start - space) 0)
    (hlower : min (stop + space - viewport) (start - space) ≤ scroll) :
    InView viewport start stop space scroll where
  scroll_le_start := hupper.trans (max_le (by linarith) hstart)
  start_lt := by
    have hbefore : start - viewport < min (stop + space - viewport) (start - space) :=
      lt_min (by linarith) (by linarith)
    linarith
  stop_le hfits := by
    have hbehind : stop - viewport ≤ min (stop + space - viewport) (start - space) :=
      le_min (by linarith) (by linarith)
    linarith

/-- What is in view stays in view when the offset is kept within a content that the target is part
of. -/
theorem InView.clamp {content : Rat} (h : InView viewport start stop space scroll)
    (hscroll : 0 ≤ scroll) (htarget : start < stop) (hcontent : stop ≤ content) :
    InView viewport start stop space (Scalar.clamp scroll 0 (max 0 (content - viewport))) := by
  rw [Scalar.clamp_rat (le_max_left ..), max_eq_right (le_min hscroll (le_max_left ..))]
  rcases le_total scroll (max 0 (content - viewport)) with hwithin | hbeyond
  · rwa [min_eq_left hwithin]
  · rw [min_eq_right hbeyond]
    have hend : content - viewport ≤ max 0 (content - viewport) := le_max_right ..
    exact ⟨hbeyond.trans h.scroll_le_start, by linarith, fun _ => by linarith⟩

theorem reveal_nonneg (hscroll : 0 ≤ scroll) : 0 ≤ reveal scroll start stop viewport margin := by
  rw [reveal_eq hscroll]
  exact le_max_right ..

/-- A target is shown. -/
theorem inView_reveal (hscroll : 0 ≤ scroll) (hstart : 0 ≤ start) (htarget : start < stop)
    (hviewport : 0 < viewport) (hmargin : 0 ≤ margin) :
    InView viewport start stop (min margin (viewport / 2))
      (reveal scroll start stop viewport margin) := by
  have hhalf : min margin (viewport / 2) ≤ viewport / 2 := min_le_right ..
  have hspace : 0 ≤ min margin (viewport / 2) := le_min hmargin (by linarith)
  rw [reveal_eq hscroll, revealMargin_eq hviewport.le hmargin]
  generalize min margin (viewport / 2) = space at *
  refine .of_bounds hstart htarget hspace (by linarith) hviewport ?_ ?_
  · exact max_le_max_right 0 (min_le_right ..)
  · exact (min_le_min_right _ (le_max_right ..)).trans (le_max_left ..)

/-- Where the target and the space beside it are in view, nothing moves. -/
theorem reveal_eq_self (hviewport : 0 ≤ viewport) (hmargin : 0 ≤ margin)
    (hbefore : scroll ≤ start - min margin (viewport / 2))
    (hbehind : stop + min margin (viewport / 2) ≤ scroll + viewport) :
    reveal scroll start stop viewport margin = scroll := by
  simp only [reveal, revealMargin_eq hviewport hmargin]
  rw [if_neg (not_lt.2 hbefore), if_neg (not_lt.2 hbehind)]

/-- A target that has been shown is not moved any more. -/
theorem reveal_reveal (hscroll : 0 ≤ scroll) :
    reveal (reveal scroll start stop viewport margin) start stop viewport margin =
      reveal scroll start stop viewport margin := by
  have hshown : 0 ≤ reveal scroll start stop viewport margin := reveal_nonneg hscroll
  rw [reveal_eq hshown, reveal_eq hscroll]
  generalize stop + revealMargin viewport margin - viewport = raised
  generalize start - revealMargin viewport margin = lowered
  have hle : max (min (max scroll raised) lowered) 0 ≤ max scroll raised :=
    max_le (min_le_left ..) (hscroll.trans (le_max_left ..))
  -- The offset that is reached has been raised and lowered as far as either goes.
  refine le_antisymm ?_ (max_le ?_ (le_max_right ..))
  · exact max_le_max_right 0 (min_le_min_right lowered (max_le hle (le_max_right ..)))
  · refine (le_min ?_ (min_le_right ..)).trans (le_max_left ..)
    exact (le_max_left ..).trans (le_max_left ..)

/-- **Scrolling a target into view works and settles.** The offset stays at or above zero and shows
the start of the target, and the end as well where there is room for both and the space beside them.
Where the target is in view with that space, nothing moves, and a second time nothing moves either.
As long as the target is part of the content, it is seen as well as before when the offset is then
kept within the content. -/
theorem reveal_settles (hscroll : 0 ≤ scroll) (hstart : 0 ≤ start) (htarget : start < stop)
    (hviewport : 0 < viewport) (hmargin : 0 < margin) :
    let space := min margin (viewport / 2)
    let shown := reveal scroll start stop viewport margin
    0 ≤ shown ∧ InView viewport start stop space shown ∧
      (scroll ≤ start - space → stop + space ≤ scroll + viewport → shown = scroll) ∧
      reveal shown start stop viewport margin = shown ∧
      ∀ content, stop ≤ content →
        InView viewport start stop space
          (Scalar.clamp shown 0 (max 0 (content - viewport))) := by
  intro space shown
  have hnonneg : 0 ≤ shown := reveal_nonneg hscroll
  have hview : InView viewport start stop space shown :=
    inView_reveal hscroll hstart htarget hviewport hmargin.le
  refine ⟨hnonneg, hview, reveal_eq_self hviewport.le hmargin.le, reveal_reveal hscroll, ?_⟩
  intro content hcontent
  exact hview.clamp hnonneg htarget hcontent

end Target

/-- A line near the end of the content. It is shown with space behind it, of which a part is given
up again to stay within the content, and it stays in view. -/
theorem reveal_settles_near_end :
    (0 : Rat) ≤ 0 ∧ (0 : Rat) ≤ 970 ∧ (970 : Rat) < 990 ∧ (0 : Rat) < 400 ∧ (0 : Rat) < 50 ∧
      reveal (0 : Rat) 970 990 400 50 = 640 ∧
      Scalar.clamp (640 : Rat) 0 (max 0 (1000 - 400)) = 600 ∧
      InView 400 970 990 (min 50 (400 / 2)) 600 := by
  have hscroll : (0 : Rat) ≤ 0 := le_rfl
  have hstart : (0 : Rat) ≤ 970 := by norm_num
  have htarget : (970 : Rat) < 990 := by norm_num
  have hviewport : (0 : Rat) < 400 := by norm_num
  have hmargin : (0 : Rat) < 50 := by norm_num
  have hshown : reveal (0 : Rat) 970 990 400 50 = 640 := by decide +kernel
  have hkept : Scalar.clamp (640 : Rat) 0 (max 0 (1000 - 400)) = 600 := by decide +kernel
  obtain ⟨-, -, -, -, hclamped⟩ := reveal_settles hscroll hstart htarget hviewport hmargin
  have hview := hclamped 1000 (by norm_num)
  rw [hshown, hkept] at hview
  exact ⟨hscroll, hstart, htarget, hviewport, hmargin, hshown, hkept, hview⟩

end CodeBrowser
