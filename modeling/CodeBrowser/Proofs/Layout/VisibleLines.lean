import CodeBrowser.Layout.VisibleLines
import CodeBrowser.Proofs.Geometry.Order
import Mathlib.Tactic.Linarith

/-!
# Which lines are painted

The lines to paint are counted off from the top of the clip rectangle, as if the first line started
at height 0. With exact arithmetic, a line is painted if and only if it exists and the clip
rectangle comes within two lines of where it stands in that count.

## Main results

* `visibleLines_congr`: the width of the clip rectangle does not matter.
* `mem_visibleLineList`: the lines that are painted.
-/

namespace CodeBrowser

section

variable {α : Type} [Scalar α] {clip : Rect α} {spacing : α} {lineCount : Nat}

/-- Where lines are painted at all, there is one. -/
theorem lineSpan_ne_nil {first last : Nat}
    (h : visibleLines clip spacing lineCount = some (first, last)) : lineSpan first last ≠ [] := by
  simp only [visibleLines] at h
  split_ifs at h
  simp only [Option.some.injEq, Prod.mk.injEq] at h
  simp only [lineSpan, ne_eq, List.range'_eq_nil_iff]
  omega

/-- The lines to paint depend on the heights of the clip rectangle only. -/
theorem visibleLines_congr {clip' : Rect α} (hmin : clip'.min.y = clip.min.y)
    (hmax : clip'.max.y = clip.max.y) :
    visibleLines clip' spacing lineCount = visibleLines clip spacing lineCount := by
  rw [visibleLines, visibleLines, hmin, hmax]

theorem pairwise_visibleLineList : (visibleLineList clip spacing lineCount).Pairwise (· < ·) := by
  unfold visibleLineList
  split
  · exact List.pairwise_lt_range'
  · exact List.Pairwise.nil

end

theorem mem_lineSpan {first last line : Nat} :
    line ∈ lineSpan first last ↔ first ≤ line ∧ line ≤ last := by
  rw [lineSpan, List.mem_range'_1]
  omega

/-- **The lines that are painted.** -/
theorem mem_visibleLineList {clip : Rect Rat} {spacing : Rat} (hspacing : 0 < spacing)
    {lineCount line : Nat} : line ∈ visibleLineList clip spacing lineCount ↔
      line < lineCount ∧ clip.min.y < (line + 3) * spacing ∧
        (line - 2 : Rat) * spacing ≤ clip.max.y := by
  have hfirst : (clip.min.y / spacing).floor ≤ line + 2 ↔ clip.min.y < (line + 3) * spacing := by
    rw [← Int.lt_add_one_iff, Rat.floor_lt_iff, div_lt_iff₀ hspacing]
    push_cast
    ring_nf
  have hlast : (line : Int) - 2 ≤ (clip.max.y / spacing).floor ↔
      (line - 2 : Rat) * spacing ≤ clip.max.y := by
    rw [Rat.le_floor_iff, le_div_iff₀ hspacing]
    push_cast
    rfl
  have hpos : ¬ spacing ≤ Scalar.ofNat 0 := by simpa [Scalar.ofNat_rat] using hspacing
  rw [← hfirst, ← hlast, visibleLineList, visibleLines]
  simp only [hpos, or_false, Scalar.toInt_floor_rat, overscan]
  generalize (clip.min.y / spacing).floor = top
  generalize (clip.max.y / spacing).floor = bottom
  by_cases hcount : lineCount = 0
  · simp [hcount]
  rw [if_neg hcount]
  by_cases hnone : min (bottom + 2) (lineCount - 1 : Int) < max (top - 2) 0
  · rw [if_pos hnone]
    refine iff_of_false List.not_mem_nil ?_
    omega
  · rw [if_neg hnone]
    simp only [mem_lineSpan]
    omega

end CodeBrowser
