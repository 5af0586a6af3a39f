import CodeBrowser.Proofs.Layout.VisibleLines
import CodeBrowser.Proofs.View.Pointing

/-!
# Whether all visible text is painted

Lines stand below the top margin, but the lines to paint are counted off as if there were none. Two
lines painted above the clip rectangle make up for that while the margin is no higher than two
lines. With a higher margin, lines at the top of the clip rectangle are left out, although points on
them are found.

Arithmetic is exact here.

## Main definitions

* `Rect.Meets`: the clip rectangle shows a part of a box.

## Main results

* `View.text_mem_paint_iff`: when a visible character is painted.
* `View.paint_visible_iff`: when all visible characters are painted, whatever is clipped.
-/

namespace CodeBrowser

/-- The clip rectangle shows a part of the box of a character. -/
structure Rect.Meets (clip : Rect Rat) (layout : LineLayout Rat) (box : CharBox Rat) : Prop where
  top : layout.top < clip.max.y
  bottom : clip.min.y < layout.top + layout.height
  left : box.left ≤ clip.max.x
  right : clip.min.x < box.right

namespace View

variable {view : View Rat} {metrics : Metrics Rat} {file : SourceFile}

/-- Texts of different lines are drawn at different heights. -/
theorem line_eq_of_textTop (hspacing : 0 < metrics.spacing) {line line' : Nat}
    (h : (view.layout metrics file line).textTop = (view.layout metrics file line').textTop) :
    line = line' := by
  have htop (line : Nat) : (view.layout metrics file line).textTop =
      view.margins.top + line * metrics.spacing + metrics.inset := rfl
  rw [htop, htop] at h
  have hrows : (line : Rat) * metrics.spacing = line' * metrics.spacing := by linarith
  exact_mod_cast mul_right_cancel₀ hspacing.ne' hrows

/-- A visible line is never too far below the clip rectangle. -/
theorem row_le_of_meets {clip : Rect Rat} {line : Nat} {box : CharBox Rat}
    (hspacing : 0 < metrics.spacing) (hmargin : 0 ≤ view.margins.top)
    (h : clip.Meets (view.layout metrics file line) box) :
    (line - 2 : Rat) * metrics.spacing ≤ clip.max.y := by
  have htop := h.top
  rw [layout_top] at htop
  linarith

/-- **When a visible character is painted.** A character that the clip rectangle shows is painted if
and only if the clip rectangle starts less than three lines below the place of its line in the count
without a margin. -/
theorem text_mem_paint_iff (hfile : view.file = some file) (hspacing : 0 < metrics.spacing)
    (hwidths : metrics.NonnegWidths) (hmargin : 0 ≤ view.margins.top) (clip : Rect Rat) {line : Nat}
    {box : CharBox Rat} (hbox : box ∈ (view.layout metrics file line).boxes)
    (htab : (file.lineContent line)[box.column]? ≠ some 9)
    (hmeets : clip.Meets (view.layout metrics file line) box) :
    .text ⟨box.left, (view.layout metrics file line).textTop⟩ box.text ∈ view.paint metrics clip ↔
      clip.min.y < (line + 3) * metrics.spacing := by
  rw [text_mem_paint hfile]
  constructor
  · rintro ⟨line', hline', glyph, hglyph, hpoint, -⟩
    obtain ⟨box', -, hpoint', -⟩ := exists_box_of_mem_lineGlyphs hglyph
    have htop : (view.layout metrics file line').textTop =
        (view.layout metrics file line).textTop :=
      congrArg Point.y (hpoint'.symm.trans hpoint)
    obtain rfl : line' = line := line_eq_of_textTop hspacing htop
    exact ((mem_visibleLineList hspacing).1 hline').2.1
  · intro htop
    have hline : line ∈ visibleLineList clip metrics.spacing file.lineCount :=
      (mem_visibleLineList hspacing).2
        ⟨line_lt_of_mem_layout hbox, htop, row_le_of_meets hspacing hmargin hmeets⟩
    have hshown : box ∈ view.shownBoxes metrics file clip line :=
      List.mem_filter.2 ⟨hbox, decide_eq_true ⟨htab, hmeets.right, hmeets.left⟩⟩
    refine ⟨line, hline, ⟨view.charColor (view.layout metrics file line) line box,
      ⟨box.left, (view.layout metrics file line).textTop⟩, box.text⟩, ?_, rfl, rfl⟩
    rw [lineGlyphs_eq Rat.le_refl Rat.le_refl (edgesAscend_layout hwidths)]
    exact List.mem_map_of_mem hshown

/-- Below a margin higher than two lines, a character is still in sight where the clip rectangle
starts three lines below the place of its line in the count without a margin. -/
theorem exists_meets_of_high_margin (hspacing : 0 < metrics.spacing)
    (hwidths : metrics.NonnegWidths) (hhigh : 2 * metrics.spacing < view.margins.top) {line : Nat}
    {box : CharBox Rat} (hbox : box ∈ (view.layout metrics file line).boxes) :
    ∃ clip : Rect Rat, clip.Meets (view.layout metrics file line) box ∧
      clip.min.y = (line + 3) * metrics.spacing := by
  have hle := left_le_right_of_mem hwidths hbox
  have hheight : (view.layout metrics file line).height = metrics.spacing := rfl
  refine ⟨⟨⟨box.left - 1, (line + 3) * metrics.spacing⟩,
    ⟨box.left, (view.layout metrics file line).top + metrics.spacing⟩⟩, ⟨?_, ?_, le_rfl, ?_⟩, rfl⟩
  · exact lt_add_of_pos_right _ hspacing
  · rw [hheight, layout_top]
    linarith
  · exact (sub_one_lt box.left).trans_le hle

/-- **When all visible text is painted.** A visible character is painted if and only if the clip
rectangle starts less than three lines below the place of its line in the count without a margin.
So all visible characters are painted, whatever is clipped, if and only if the margin is no higher
than two lines or there is nothing to paint. -/
theorem paint_visible_iff (hfile : view.file = some file) (hspacing : 0 < metrics.spacing)
    (hwidths : metrics.NonnegWidths) (hmargin : 0 ≤ view.margins.top) :
    (∀ (clip : Rect Rat) (line : Nat), ∀ box ∈ (view.layout metrics file line).boxes,
      (file.lineContent line)[box.column]? ≠ some 9 →
      clip.Meets (view.layout metrics file line) box →
      (.text ⟨box.left, (view.layout metrics file line).textTop⟩ box.text ∈
          view.paint metrics clip ↔
        clip.min.y < (line + 3) * metrics.spacing)) ∧
    ((∀ (clip : Rect Rat) (line : Nat), ∀ box ∈ (view.layout metrics file line).boxes,
      (file.lineContent line)[box.column]? ≠ some 9 →
      clip.Meets (view.layout metrics file line) box →
      .text ⟨box.left, (view.layout metrics file line).textTop⟩ box.text ∈
        view.paint metrics clip) ↔
      view.margins.top ≤ 2 * metrics.spacing ∨
        ∀ line, ∀ box ∈ (view.layout metrics file line).boxes,
          (file.lineContent line)[box.column]? = some 9) := by
  have hpainted (clip : Rect Rat) (line : Nat) (box : CharBox Rat)
      (hbox : box ∈ (view.layout metrics file line).boxes) :=
    text_mem_paint_iff hfile hspacing hwidths hmargin clip hbox
  refine ⟨hpainted, fun hall => ?_, fun hmargins clip line box hbox htab hmeets => ?_⟩
  · by_contra hnone
    simp only [not_or, not_le, not_forall] at hnone
    obtain ⟨hhigh, line, box, hbox, htab⟩ := hnone
    obtain ⟨clip, hmeets, hmin⟩ := exists_meets_of_high_margin hspacing hwidths hhigh hbox
    have hlt := (hpainted clip line box hbox htab hmeets).1 (hall clip line box hbox htab hmeets)
    exact hlt.ne hmin
  · rcases hmargins with hlow | htabs
    · refine (hpainted clip line box hbox htab hmeets).2 ?_
      have hbottom : clip.min.y < (view.layout metrics file line).top + metrics.spacing :=
        hmeets.bottom
      rw [layout_top] at hbottom
      linarith
    · exact absurd (htabs line box hbox) htab

/-- With the margins that a view starts with, nothing is left out where lines are 20 points high. -/
theorem paint_visible_iff_standard_margins :
    let file : SourceFile := .ofText none ['a', '\n', 'b', '\n']
    let metrics : Metrics Rat := ⟨fun _ => 10, 20, 0⟩
    let view : View Rat := (ofSource .empty .plain).display (some file)
    view.file = some file ∧ 0 < metrics.spacing ∧ metrics.NonnegWidths ∧ 0 ≤ view.margins.top ∧
      ∀ (clip : Rect Rat) (line : Nat), ∀ box ∈ (view.layout metrics file line).boxes,
        (file.lineContent line)[box.column]? ≠ some 9 →
        clip.Meets (view.layout metrics file line) box →
        .text ⟨box.left, (view.layout metrics file line).textTop⟩ box.text ∈
          view.paint metrics clip := by
  intro file metrics view
  have hspacing : 0 < metrics.spacing := by decide +kernel
  have hwidths : metrics.NonnegWidths := fun _ _ => show (0 : Rat) ≤ 10 by decide +kernel
  have hmargin : 0 ≤ view.margins.top := by decide +kernel
  have hlow : view.margins.top ≤ 2 * metrics.spacing := by decide +kernel
  have hfile : view.file = some file := rfl
  exact ⟨hfile, hspacing, hwidths, hmargin,
    (paint_visible_iff hfile hspacing hwidths hmargin).2.2 (Or.inl hlow)⟩

/-- Below a margin of 64 points, the first of two lines that are 20 points high is left out where
the clip rectangle starts 4 points above it. -/
theorem paint_leaves_out_visible_line :
    let file : SourceFile := .ofText none ['a', '\n', 'b', '\n']
    let metrics : Metrics Rat := ⟨fun _ => 10, 20, 0⟩
    let view : View Rat := ((ofSource .empty .plain).display (some file)).setMargins ⟨4, 64, 4, 4⟩
    let clip : Rect Rat := ⟨⟨0, 60⟩, ⟨100, 120⟩⟩
    ∃ box ∈ (view.layout metrics file 0).boxes,
      (file.lineContent 0)[box.column]? ≠ some 9 ∧
        clip.Meets (view.layout metrics file 0) box ∧
        .text ⟨box.left, (view.layout metrics file 0).textTop⟩ box.text ∉
          view.paint metrics clip := by
  intro file metrics view clip
  refine ⟨⟨0, 4, 10, ['a']⟩, ?_, ?_, ⟨?_, ?_, ?_, ?_⟩, ?_⟩
  all_goals decide +kernel

end View

end CodeBrowser
