import CodeBrowser.Proofs.Geometry.Order
import CodeBrowser.Proofs.Layout.Walk
import Mathlib.Tactic.FieldSimp
import Mathlib.Tactic.Linarith
import Mathlib.Tactic.Positivity

/-!
# The boxes of a line side by side

With exact arithmetic, each box of a line starts where the walk has come to, so that no two boxes
overlap and the edges of the boxes move to the right, as long as no character has a negative
width. If every character has a width, so has every box, tabs included.

## Main definitions

* `Metrics.NonnegWidths`, `Metrics.PositiveWidths`: what a measurer has to promise.

## Main results

* `pairwise_right_le_left`: a box ends before the next one starts.
* `left_le_right_of_mem`, `left_lt_right_of_mem`: a box has its edges in order.
* `columnAt?_of_mem`: a point within a box is found at its column.
-/

namespace CodeBrowser

/-! ### Measurers -/

/-- No character has a negative width. -/
def Metrics.NonnegWidths (metrics : Metrics Rat) : Prop :=
  ∀ c, c ≠ '\t' → 0 ≤ metrics.width (String.ofList [c])

/-- Every character, the space among them, has a width. -/
def Metrics.PositiveWidths (metrics : Metrics Rat) : Prop :=
  ∀ c, c ≠ '\t' → 0 < metrics.width (String.ofList [c])

theorem Metrics.PositiveWidths.nonneg {metrics : Metrics Rat} (h : metrics.PositiveWidths) :
    metrics.NonnegWidths :=
  fun c hc => (h c hc).le

theorem Metrics.PositiveWidths.tabWidth_pos {metrics : Metrics Rat} (h : metrics.PositiveWidths)
    {tabStop : Nat} (htab : 1 ≤ tabStop) : 0 < metrics.tabWidth tabStop := by
  have hspace : 0 < metrics.width " " := h ' ' (by decide)
  rw [Metrics.tabWidth, Scalar.ofNat_rat]
  positivity

/-- From anywhere the next tab stop lies further on. -/
theorem tabAdvance_pos {tabWidth : Rat} (htab : 0 < tabWidth) (offset : Rat) :
    0 < tabAdvance tabWidth offset := by
  have hnot : ¬ tabWidth ≤ Scalar.ofNat 0 := by simpa [Scalar.ofNat_rat] using htab
  have hfloor := Rat.lt_floor_add_one ((offset + tabWidth) / tabWidth)
  rw [div_lt_iff₀ htab] at hfloor
  rw [tabAdvance, if_neg hnot, Scalar.floor_rat]
  push_cast at hfloor
  linarith

theorem tabAdvance_nonneg (tabWidth offset : Rat) : 0 ≤ tabAdvance tabWidth offset := by
  rcases le_or_gt tabWidth 0 with htab | htab
  · rw [tabAdvance, if_pos (by simpa [Scalar.ofNat_rat] using htab), Scalar.ofNat_rat]
    simp
  · exact (tabAdvance_pos htab offset).le

/-! ### Edges -/

section Boxes

variable {metrics : Metrics Rat} {tabWidth leftMargin : Rat} {content : List CodeUnit}
  {column : Nat} {offset : Rat} {box : CharBox Rat}

theorem CharBox.Shows.width_nonneg (hwidths : metrics.NonnegWidths)
    (h : box.Shows metrics tabWidth leftMargin content column offset) : 0 ≤ box.width := by
  rcases h.tab_or_char with ⟨-, -, hwidth⟩ | ⟨-, c, hc, -, hwidth⟩
  · exact hwidth ▸ tabAdvance_nonneg tabWidth offset
  · exact hwidth ▸ hwidths c hc

theorem CharBox.Shows.width_pos (hwidths : metrics.PositiveWidths) (htab : 0 < tabWidth)
    (h : box.Shows metrics tabWidth leftMargin content column offset) : 0 < box.width := by
  rcases h.tab_or_char with ⟨-, -, hwidth⟩ | ⟨-, c, hc, -, hwidth⟩
  · exact hwidth ▸ tabAdvance_pos htab offset
  · exact hwidth ▸ hwidths c hc

/-- The walk only moves to the right. -/
theorem left_ge_of_mem (hwidths : metrics.NonnegWidths)
    (h : box ∈ boxesFrom metrics tabWidth leftMargin content column offset) :
    leftMargin + offset ≤ box.left := by
  induction column, offset using walk_induction metrics tabWidth leftMargin content with
  | done column offset hle => simp [boxesFrom_of_length_le _ _ _ _ _ hle] at h
  | step column offset head _ hshows hcons ih =>
    rw [hcons] at h
    rcases List.mem_cons.1 h with rfl | hrest
    · exact hshows.left_eq.ge
    · have := ih hrest
      have := hshows.width_nonneg hwidths
      linarith

/-- **Tiling.** Each box ends before those to its right start. -/
theorem pairwise_right_le_left (hwidths : metrics.NonnegWidths) :
    (boxesFrom metrics tabWidth leftMargin content column offset).Pairwise
      fun a b => a.right ≤ b.left := by
  induction column, offset using walk_induction metrics tabWidth leftMargin content with
  | done column offset hle => simp [boxesFrom_of_length_le _ _ _ _ _ hle]
  | step column offset head _ hshows hcons ih =>
    rw [hcons]
    refine List.Pairwise.cons (fun box hbox => ?_) ih
    have hnext := left_ge_of_mem hwidths hbox
    rw [CharBox.right, hshows.left_eq]
    linarith

end Boxes

/-! ### The layout of a line -/

section Layout

variable {file : SourceFile} {metrics : Metrics Rat} {margins : Margins Rat} {tabStop line : Nat}
  {box : CharBox Rat}

theorem pairwise_right_le_left_layout (hwidths : metrics.NonnegWidths) :
    (file.layout metrics margins tabStop line).boxes.Pairwise fun a b => a.right ≤ b.left := by
  rw [boxes_layout]
  exact pairwise_right_le_left hwidths

theorem left_le_right_of_mem (hwidths : metrics.NonnegWidths)
    (h : box ∈ (file.layout metrics margins tabStop line).boxes) : box.left ≤ box.right := by
  obtain ⟨-, -, offset, hshows⟩ := shows_of_mem_layout h
  have := hshows.width_nonneg hwidths
  rw [CharBox.right]
  linarith

theorem left_lt_right_of_mem (hwidths : metrics.PositiveWidths) (htab : 1 ≤ tabStop)
    (h : box ∈ (file.layout metrics margins tabStop line).boxes) : box.left < box.right := by
  obtain ⟨-, -, offset, hshows⟩ := shows_of_mem_layout h
  have := hshows.width_pos hwidths (hwidths.tabWidth_pos htab)
  rw [CharBox.right]
  linarith

/-- Without negative widths the edges of a line ascend. -/
theorem edgesAscend_layout (hwidths : metrics.NonnegWidths) :
    (file.layout metrics margins tabStop line).EdgesAscend where
  left_le_left := (pairwise_right_le_left_layout hwidths).imp_of_mem fun ha _ hle =>
    (left_le_right_of_mem hwidths ha).trans hle
  left_le_right _ hbox := left_le_right_of_mem hwidths hbox

/-- The column found at a point within a box is that of the box. -/
theorem columnAt?_of_mem (hwidths : metrics.NonnegWidths)
    (h : box ∈ (file.layout metrics margins tabStop line).boxes) {x : Rat} (hleft : box.left ≤ x)
    (hright : x < box.right) :
    (file.layout metrics margins tabStop line).columnAt? x = some box.column := by
  have hfind : (file.layout metrics margins tabStop line).boxes.find? (x < ·.right) = some box :=
    find?_eq_some_of_pairwise (pairwise_right_le_left_layout hwidths) h (by simpa using hright)
      fun a ha => by simpa using ha.trans hleft
  rw [LineLayout.columnAt?, hfind, Option.map_some]

end Layout

end CodeBrowser
