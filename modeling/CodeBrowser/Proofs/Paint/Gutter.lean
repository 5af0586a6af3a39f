import CodeBrowser.Paint.Gutter
import CodeBrowser.Proofs.Layout.VisibleLines
import CodeBrowser.Proofs.View.Painting
import Mathlib.Tactic.Linarith

/-!
# Line numbers beside their lines

The gutter takes its width from the number of lines, by counting how often that can be divided by
ten, while each label is written digit by digit. Both speak of powers of ten: a number has at most
`k` digits if and only if it is below `10 ^ k`. So the count does not fall as numbers grow, and the
room for the last number is enough for every number.

The gutter and the view find the lines to paint by one rule, from the heights of the clip rectangle
and the number of lines alone, and both count the heights of their lines from their own top margin.

Arithmetic is exact here.

## Main definitions

* `Metrics.EvenPitch`: a text is as wide as its characters side by side, all of one width.

## Main results

* `digitCount_le_iff`: how many digits a number has.
* `Gutter.paint_eq`, `View.paint_eq_lines`: the gutter and the view paint the same lines.
* `Gutter.labels_beside_lines`: the labels fit the gutter and stand beside their lines.
-/

namespace CodeBrowser

/-- A text is as wide as its characters side by side, each of which has the width `w`. -/
def Metrics.EvenPitch (metrics : Metrics Rat) (w : Rat) : Prop :=
  ∀ text : String, metrics.width text = w * text.length

/-! ### Digits -/

theorem log10?.log_le_iff {n k : Nat} : log10?.log n ≤ k ↔ n < 10 ^ (k + 1) := by
  induction k generalizing n with
  | zero =>
    rw [log10?.log]
    split_ifs with h <;> simp [h]
  | succ k ih =>
    rw [log10?.log]
    split_ifs with h
    · have hpow : 10 ≤ 10 ^ (k + 1 + 1) := Nat.le_self_pow (Nat.succ_ne_zero _) 10
      exact iff_of_true (Nat.zero_le _) (h.trans_le hpow)
    · rw [Nat.add_le_add_iff_right, ih, Nat.div_lt_iff_lt_mul (by norm_num), ← pow_succ]

/-- **How many digits a number has.** -/
theorem digitCount_le_iff {n k : Nat} (hk : 0 < k) : digitCount n ≤ k ↔ n < 10 ^ k := by
  obtain ⟨k, rfl⟩ := Nat.exists_eq_succ_of_ne_zero hk.ne'
  by_cases hn : n = 0
  · simp [digitCount, log10?, hn]
  · have hcount : digitCount n = log10?.log n + 1 := by simp [digitCount, log10?, hn]
    rw [hcount, Nat.succ_eq_add_one, Nat.add_le_add_iff_right, log10?.log_le_iff]

theorem digitCount_pos (n : Nat) : 0 < digitCount n := by
  unfold digitCount
  cases log10? n <;> simp

theorem digitCount_mono {m n : Nat} (h : m ≤ n) : digitCount m ≤ digitCount n := by
  have hn : n < 10 ^ digitCount n := (digitCount_le_iff (digitCount_pos n)).1 le_rfl
  exact (digitCount_le_iff (digitCount_pos n)).2 (h.trans_lt hn)

/-- The digits that are counted are those that are written. -/
theorem length_toDigits (n : Nat) : (Nat.toDigits 10 n).length = digitCount n := by
  have hiff {k : Nat} (hk : 0 < k) : (Nat.toDigits 10 n).length ≤ k ↔ digitCount n ≤ k :=
    (Nat.length_toDigits_le_iff (by norm_num) hk).trans (digitCount_le_iff hk).symm
  exact le_antisymm ((hiff (digitCount_pos n)).2 le_rfl)
    ((hiff Nat.length_toDigits_pos).1 le_rfl)

/-! ### The painted lines -/

section Lines

variable {α : Type} [Scalar α]

/-- The gutter paints one label for each of the lines, after taking its pen. -/
theorem Gutter.paint_eq (gutter : Gutter α) (metrics : Metrics α) (clip : Rect α) (width : α)
    (color : Color) :
    let lines := visibleLineList clip metrics.spacing gutter.lineCount
    gutter.paint metrics clip width color =
      if lines = [] then []
      else .pen color :: lines.map fun line =>
        .text (gutter.labelPoint metrics width line) (label line) := by
  intro lines
  cases hlines : visibleLines clip metrics.spacing gutter.lineCount with
  | none => simp [lines, paint, visibleLineList, hlines]
  | some span => simp [lines, paint, visibleLineList, hlines, lineSpan_ne_nil hlines]

/-- The view paints the selection and then the characters of the lines. -/
theorem View.paint_eq_lines {view : View α} {file : SourceFile} (hfile : view.file = some file)
    (metrics : Metrics α) (clip : Rect α) :
    let lines := visibleLineList clip metrics.spacing file.lineCount
    view.paint metrics clip =
      if lines = [] then []
      else view.selectionCalls metrics ++
        drawGlyphs none (lines.flatMap (view.lineGlyphs metrics file clip)) := by
  intro lines
  cases hlines : visibleLines clip metrics.spacing file.lineCount with
  | none => simp [lines, paint, hfile, visibleLineList, hlines]
  | some span => simp [lines, paint, hfile, visibleLineList, hlines, lineSpan_ne_nil hlines]

end Lines

/-! ### The labels -/

namespace Gutter

variable {gutter : Gutter Rat} {metrics : Metrics Rat} {w width : Rat} {line : Nat}

theorem label_eq (line : Nat) : label line = (toString (line + 1)).toList :=
  Nat.toList_repr.symm

theorem ofList_label (line : Nat) : String.ofList (label line) = toString (line + 1) :=
  Nat.repr_eq_ofList_toDigits.symm

theorem length_label_le (hline : line < gutter.lineCount) :
    (label line).length ≤ digitCount gutter.lineCount := by
  rw [label, length_toDigits]
  exact digitCount_mono hline

/-- A label ends at the right margin. -/
theorem right_label (gutter : Gutter Rat) (metrics : Metrics Rat) (width : Rat) (line : Nat) :
    (gutter.labelPoint metrics width line).x + metrics.width (toString (line + 1)) =
      width - gutter.margins.right := by
  rw [labelPoint, ofList_label]
  ring

/-- In a gutter that is wide enough, no label reaches beyond the left margin. -/
theorem left_le_label (hpitch : metrics.EvenPitch w) (hw : 0 < w)
    (hwidth : (gutter.sizeHint metrics).x ≤ width) (hline : line < gutter.lineCount) :
    gutter.margins.left ≤ (gutter.labelPoint metrics width line).x := by
  have hdigit : metrics.width "9" = w := by
    have hlength : "9".length = 1 := rfl
    rw [hpitch, hlength, Nat.cast_one, mul_one]
  have hlabel : metrics.width (String.ofList (label line)) = w * (label line).length := by
    rw [hpitch, String.length_ofList]
  have hfits : w * (label line).length ≤ w * digitCount gutter.lineCount :=
    mul_le_mul_of_nonneg_left (Nat.cast_le.2 (length_label_le hline)) hw.le
  have hhint : (gutter.sizeHint metrics).x = w * digitCount gutter.lineCount +
      (gutter.margins.left + gutter.margins.right) := by
    rw [← hdigit]
    rfl
  rw [hhint] at hwidth
  rw [labelPoint, hlabel]
  linarith

/-- A label and its line are as far apart as the top margins of gutter and view. -/
theorem label_sub_textTop (gutter : Gutter Rat) (view : View Rat) (metrics : Metrics Rat)
    (width : Rat) (file : SourceFile) (line : Nat) :
    (gutter.labelPoint metrics width line).y - (view.layout metrics file line).textTop =
      gutter.margins.top - view.margins.top := by
  simp only [labelPoint, View.layout, SourceFile.layout]
  ring

/-- **The labels fit the gutter and stand beside their lines**, in a font of one width. The gutter
takes its pen and draws the number of each line that comes within two lines of the clip rectangle,
from the top down. In a gutter that is as wide as it asks for, or wider, each label lies between the
margins and ends at the right one. A view of a file of that many lines paints the very same lines if
its clip rectangle has the same heights, and each label is as far from the characters of its line as
the top margin of the gutter is from that of the view. -/
theorem labels_beside_lines (hpitch : metrics.EvenPitch w) (hw : 0 < w)
    (hspacing : 0 < metrics.spacing) (gutter : Gutter Rat) (clip : Rect Rat) (color : Color)
    (hwidth : (gutter.sizeHint metrics).x ≤ width) :
    let lines := visibleLineList clip metrics.spacing gutter.lineCount
    let corner := gutter.labelPoint metrics width
    (lines.Pairwise (· < ·) ∧ ∀ line, line ∈ lines ↔ line < gutter.lineCount ∧
      clip.min.y < (line + 3) * metrics.spacing ∧
        (line - 2 : Rat) * metrics.spacing ≤ clip.max.y) ∧
    (gutter.paint metrics clip width color =
      if lines = [] then []
      else .pen color :: lines.map fun line => .text (corner line) (toString (line + 1)).toList) ∧
    (∀ line ∈ lines, gutter.margins.left ≤ (corner line).x ∧
      (corner line).x + metrics.width (toString (line + 1)) = width - gutter.margins.right) ∧
    ∀ (view : View Rat) (file : SourceFile) (viewClip : Rect Rat), view.file = some file →
      file.lineCount = gutter.lineCount → viewClip.min.y = clip.min.y →
      viewClip.max.y = clip.max.y →
      (view.paint metrics viewClip =
        if lines = [] then []
        else view.selectionCalls metrics ++
          drawGlyphs none (lines.flatMap (view.lineGlyphs metrics file viewClip))) ∧
      ∀ line ∈ lines,
        (corner line).y - (view.layout metrics file line).textTop =
          gutter.margins.top - view.margins.top ∧
        ∀ glyph ∈ view.lineGlyphs metrics file viewClip line,
          glyph.point.y = (view.layout metrics file line).textTop := by
  intro lines corner
  have hmem : ∀ line, line ∈ lines ↔ line < gutter.lineCount ∧
      clip.min.y < (line + 3) * metrics.spacing ∧
        (line - 2 : Rat) * metrics.spacing ≤ clip.max.y := fun line =>
    mem_visibleLineList hspacing
  refine ⟨⟨pairwise_visibleLineList, hmem⟩, ?_, fun line hline => ⟨?_, ?_⟩, ?_⟩
  · rw [gutter.paint_eq]
    simp only [label_eq, lines, corner]
  · exact left_le_label hpitch hw hwidth ((hmem line).1 hline).1
  · exact gutter.right_label metrics width line
  · intro view file viewClip hfile hcount hmin hmax
    have hsame : visibleLineList viewClip metrics.spacing file.lineCount = lines := by
      simp only [lines, visibleLineList, hcount, visibleLines_congr hmin hmax]
    refine ⟨?_, fun line _ => ⟨label_sub_textTop gutter view metrics width file line, ?_⟩⟩
    · rw [View.paint_eq_lines hfile, hsame]
    · intro glyph hglyph
      obtain ⟨box, -, hpoint, -⟩ := View.exists_box_of_mem_lineGlyphs hglyph
      rw [hpoint]

/-- Ten lines need room for two digits; the first nine numbers leave one free on the left. -/
theorem labels_beside_lines_ten :
    let metrics : Metrics Rat := ⟨fun text => 8 * text.length, 20, 3⟩
    let gutter : Gutter Rat := ⟨.gutter, 10⟩
    let clip : Rect Rat := ⟨⟨0, 200⟩, ⟨50, 300⟩⟩
    let file : SourceFile := .ofText none (List.replicate 10 '\n')
    let view : View Rat := (View.ofSource .empty .plain).display (some file)
    metrics.EvenPitch 8 ∧ 0 < metrics.spacing ∧ (gutter.sizeHint metrics).x = 24 ∧
      gutter.paint metrics clip 24 .black =
        [.pen .black, .text ⟨12, 168⟩ ['9'], .text ⟨4, 188⟩ ['1', '0']] ∧
      (4 ≤ (gutter.labelPoint metrics 24 9).x ∧
        (gutter.labelPoint metrics 24 9).x + metrics.width "10" = 24 - 4) ∧
      view.file = some file ∧ file.lineCount = gutter.lineCount ∧
      (gutter.labelPoint metrics 24 9).y - (view.layout metrics file 9).textTop = 5 - 4 := by
  intro metrics gutter clip file view
  have hpitch : metrics.EvenPitch 8 := fun text => rfl
  have hlines : visibleLineList clip metrics.spacing gutter.lineCount = [8, 9] := by decide +kernel
  have hwidth : (gutter.sizeHint metrics).x = 24 := by decide +kernel
  have hcount : file.lineCount = gutter.lineCount := by decide +kernel
  obtain ⟨-, hpaint, hfits, hview⟩ :=
    labels_beside_lines hpitch (by norm_num) (by norm_num) gutter clip .black hwidth.le
  rw [hlines] at hpaint hfits hview
  obtain ⟨-, hbeside⟩ := hview view file clip rfl hcount rfl rfl
  exact ⟨hpitch, by norm_num, hwidth, hpaint.trans (by decide +kernel), hfits 9 (by simp), rfl,
    hcount, (hbeside 9 (by simp)).1⟩

end Gutter

end CodeBrowser
