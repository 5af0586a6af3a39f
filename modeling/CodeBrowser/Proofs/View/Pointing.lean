import CodeBrowser.Proofs.Layout.Tiling
import CodeBrowser.Proofs.View.Painting

/-!
# Points and locations

Two walks along a line lead from points to locations and back: one stops at the first character
that reaches beyond the point, the other at the first that starts at the column. On whole
characters they undo each other, because the boxes of a line stand side by side. Vertically, the
line of a point is the quotient of its height by the line spacing.

Arithmetic is exact here.

## Main results

* `floor_row_eq_iff`: the band of points that belong to a line.
* `locationIn_of_mem`: from the box of a character to its location.
* `locationIn_eq_start`, `locationIn_eq_end`, `locationIn_of_band`: where any point leads.
* `locationAt?_pointOf_inverse`: points and locations are inverse to each other.
-/

namespace CodeBrowser

namespace View

variable {view : View Rat} {metrics : Metrics Rat} {file : SourceFile} {line : Nat}

/-- The top of a line. -/
theorem layout_top : (view.layout metrics file line).top =
    view.margins.top + line * metrics.spacing :=
  rfl

/-- The points in the band of a line are those whose row is the line. -/
theorem floor_row_eq_iff (hspacing : 0 < metrics.spacing) {y : Rat} {row : Int} :
    ((y - view.margins.top) / metrics.spacing).floor = row ↔
      view.margins.top + row * metrics.spacing ≤ y ∧
        y < view.margins.top + row * metrics.spacing + metrics.spacing := by
  have hle : row ≤ ((y - view.margins.top) / metrics.spacing).floor ↔
      view.margins.top + row * metrics.spacing ≤ y := by
    rw [Rat.le_floor_iff, le_div_iff₀ hspacing]
    constructor <;> intro h <;> linarith
  have hlt : ((y - view.margins.top) / metrics.spacing).floor < row + 1 ↔
      y < view.margins.top + row * metrics.spacing + metrics.spacing := by
    rw [Rat.floor_lt_iff, div_lt_iff₀ hspacing]
    push_cast
    constructor <;> intro h <;> linarith
  rw [← hle, ← hlt]
  omega

theorem locationIn_eq_start (hspacing : 0 < metrics.spacing) {point : Point Rat}
    (habove : point.y < view.margins.top) : view.locationIn metrics file point = ⟨0, 0⟩ := by
  have hrow : ((point.y - view.margins.top) / metrics.spacing).floor < 0 := by
    rw [Rat.floor_lt_iff, div_lt_iff₀ hspacing]
    push_cast
    linarith
  have hneg : Scalar.floor ((point.y - view.margins.top) / metrics.spacing) <
      (Scalar.ofNat 0 : Rat) := by
    rw [Scalar.floor_rat, Scalar.ofNat_rat]
    exact_mod_cast hrow
  simp only [locationIn, hneg, if_true, ite_self]

/-- A point in the band of a line leads to a place on that line, or below the text. -/
theorem locationIn_of_band (hspacing : 0 < metrics.spacing) {point : Point Rat}
    (htop : (view.layout metrics file line).top ≤ point.y)
    (hbottom : point.y < (view.layout metrics file line).top + metrics.spacing) :
    view.locationIn metrics file point =
      if file.lineCount ≤ line then ⟨file.lineCount, 0⟩
      else ⟨line, ((view.layout metrics file line).columnAt? point.x).getD
        (file.lineLength line)⟩ := by
  have hrow : ((point.y - view.margins.top) / metrics.spacing).floor = line :=
    (floor_row_eq_iff hspacing).2 ⟨by simpa [layout_top] using htop,
      by simpa [layout_top] using hbottom⟩
  have hpos : ¬ metrics.spacing ≤ Scalar.ofNat 0 := by
    simpa [Scalar.ofNat_rat] using hspacing
  have hfloor : Scalar.floor ((point.y - view.margins.top) / metrics.spacing) = (line : Rat) := by
    rw [Scalar.floor_rat, hrow]
    rfl
  have hnonneg : ¬ (line : Rat) < Scalar.ofNat 0 := by simp [Scalar.ofNat_rat]
  have hnat : Scalar.toNat (line : Rat) = line := by
    change ((line : Int) : Rat).floor.toNat = line
    rw [Rat.floor_intCast, Int.toNat_natCast]
  simp only [locationIn, hpos, if_false, hfloor, hnonneg, hnat]
  split_ifs
  · rfl
  · cases (view.layout metrics file line).columnAt? point.x <;> rfl

/-- Below the top margin each point is in the band of some line, be it of the text or not. -/
theorem exists_band (view : View Rat) (file : SourceFile) (hspacing : 0 < metrics.spacing) {y : Rat}
    (hbelow : view.margins.top ≤ y) :
    ∃ line : Nat, (view.layout metrics file line).top ≤ y ∧
      y < (view.layout metrics file line).top + metrics.spacing := by
  have hnonneg : 0 ≤ ((y - view.margins.top) / metrics.spacing).floor := by
    rw [Rat.le_floor_iff, le_div_iff₀ hspacing]
    push_cast
    linarith
  obtain ⟨line, hline⟩ := Int.eq_ofNat_of_zero_le hnonneg
  obtain ⟨htop, hbottom⟩ := (floor_row_eq_iff hspacing).1 hline
  exact ⟨line, by simpa [layout_top] using htop, by simpa [layout_top] using hbottom⟩

theorem locationIn_eq_end (hspacing : 0 < metrics.spacing) {point : Point Rat}
    (hbelow : view.margins.top + file.lineCount * metrics.spacing ≤ point.y) :
    view.locationIn metrics file point = ⟨file.lineCount, 0⟩ := by
  have htext : (0 : Rat) ≤ file.lineCount * metrics.spacing := by positivity
  obtain ⟨line, htop, hbottom⟩ := exists_band view file hspacing
    (show view.margins.top ≤ point.y by linarith)
  have hline : file.lineCount ≤ line := by
    by_contra hlt
    have hsucc : (line : Rat) + 1 ≤ file.lineCount := by exact_mod_cast Nat.lt_of_not_le hlt
    have hrows := mul_le_mul_of_nonneg_right hsucc hspacing.le
    rw [layout_top] at hbottom
    linarith
  rw [locationIn_of_band hspacing htop hbottom, if_pos hline]

/-- **From points to locations.** Each point in the box of a character leads to that character. -/
theorem locationIn_of_mem (hspacing : 0 < metrics.spacing) (hwidths : metrics.NonnegWidths)
    {box : CharBox Rat} (hbox : box ∈ (view.layout metrics file line).boxes) {point : Point Rat}
    (hleft : box.left ≤ point.x) (hright : point.x < box.right)
    (htop : (view.layout metrics file line).top ≤ point.y)
    (hbottom : point.y < (view.layout metrics file line).top + metrics.spacing) :
    view.locationIn metrics file point = ⟨line, box.column⟩ := by
  have hline : ¬ file.lineCount ≤ line := not_le.2 (line_lt_of_mem_layout hbox)
  have hcolumn : (view.layout metrics file line).columnAt? point.x = some box.column :=
    columnAt?_of_mem hwidths hbox hleft hright
  rw [locationIn_of_band hspacing htop hbottom, if_neg hline, hcolumn, Option.getD_some]

/-- Within the text a point leads to a whole character of its line, or to the end of the line. -/
theorem exists_column_of_band (hspacing : 0 < metrics.spacing) (hline : line < file.lineCount)
    {point : Point Rat} (htop : (view.layout metrics file line).top ≤ point.y)
    (hbottom : point.y < (view.layout metrics file line).top + metrics.spacing) :
    ∃ column, view.locationIn metrics file point = ⟨line, column⟩ ∧
      charStart (file.lineContent line) column = column ∧
      ((∃ box ∈ (view.layout metrics file line).boxes, box.column = column) ∨
        column = file.lineLength line) := by
  rw [locationIn_of_band hspacing htop hbottom, if_neg (not_le.2 hline), LineLayout.columnAt?]
  cases hfind : (view.layout metrics file line).boxes.find? (point.x < ·.right) with
  | none => exact ⟨file.lineLength line, rfl, charStart_length _, Or.inr rfl⟩
  | some box =>
    have hbox := List.mem_of_find?_eq_some hfind
    exact ⟨box.column, rfl, (shows_of_mem_layout hbox).2.1, Or.inl ⟨box, hbox, rfl⟩⟩

/-- **Points and locations are inverse to each other.** Each point in the box of a character leads
to the character, and its location back to the corner of the box. A point above the text leads to
its start, one below to the place after the last line, and any other to a whole character of its
line or to the end of it, never between the halves of a surrogate pair. Where a glyph is painted,
there it is found. -/
theorem locationAt?_pointOf_inverse (hfile : view.file = some file) (hspacing : 0 < metrics.spacing)
    (hwidths : metrics.PositiveWidths) (htab : 1 ≤ view.tabStop) :
    (∀ line, ∀ box ∈ (view.layout metrics file line).boxes,
      (∀ point : Point Rat, box.left ≤ point.x → point.x < box.right →
        (view.layout metrics file line).top ≤ point.y →
        point.y < (view.layout metrics file line).top + metrics.spacing →
        view.locationAt? metrics point = some ⟨line, box.column⟩) ∧
      view.pointOf metrics ⟨line, box.column⟩ =
        ⟨box.left, (view.layout metrics file line).top⟩) ∧
    (∀ point : Point Rat,
      (point.y < view.margins.top → view.locationAt? metrics point = some ⟨0, 0⟩) ∧
      (view.margins.top + file.lineCount * metrics.spacing ≤ point.y →
        view.locationAt? metrics point = some ⟨file.lineCount, 0⟩) ∧
      (view.margins.top ≤ point.y →
        point.y < view.margins.top + file.lineCount * metrics.spacing →
        ∃ line column, line < file.lineCount ∧
          (view.layout metrics file line).top ≤ point.y ∧
          point.y < (view.layout metrics file line).top + metrics.spacing ∧
          view.locationAt? metrics point = some ⟨line, column⟩ ∧
          (0 < column → isPairAt (file.lineContent line) (column - 1) = false) ∧
          ((∃ box ∈ (view.layout metrics file line).boxes, box.column = column) ∨
            column = file.lineLength line))) ∧
    (0 ≤ metrics.inset → metrics.inset < metrics.spacing →
      ∀ (clip : Rect Rat) (point : Point Rat) (text : List Char),
        .text point text ∈ view.paint metrics clip →
        ∃ line, ∃ box ∈ (view.layout metrics file line).boxes,
          point = ⟨box.left, (view.layout metrics file line).textTop⟩ ∧ text = box.text ∧
          view.locationAt? metrics point = some ⟨line, box.column⟩) := by
  have hlocation (point : Point Rat) :
      view.locationAt? metrics point = some (view.locationIn metrics file point) := by
    rw [locationAt?, hfile, Option.map_some]
  refine ⟨fun line box hbox =>
      ⟨fun point hleft hright htop hbottom => ?_, pointOf_of_mem hfile hbox⟩,
    fun point => ⟨fun habove => ?_, fun hbelow => ?_, fun htext hend => ?_⟩,
    fun hinset hinset' clip point text hpaint => ?_⟩
  · rw [hlocation, locationIn_of_mem hspacing hwidths.nonneg hbox hleft hright htop hbottom]
  · rw [hlocation, locationIn_eq_start hspacing habove]
  · rw [hlocation, locationIn_eq_end hspacing hbelow]
  · obtain ⟨line, htop, hbottom⟩ := exists_band view file hspacing htext
    have hline : line < file.lineCount := by
      by_contra hle
      have hrows : (file.lineCount : Rat) ≤ line := by exact_mod_cast Nat.le_of_not_lt hle
      have := mul_le_mul_of_nonneg_right hrows hspacing.le
      rw [layout_top] at htop
      linarith
    obtain ⟨column, hcolumn, hstart, hchar⟩ := exists_column_of_band hspacing hline htop hbottom
    exact ⟨line, column, hline, htop, hbottom, by rw [hlocation, hcolumn],
      charStart_eq_iff.1 hstart, hchar⟩
  · obtain ⟨line, -, glyph, hglyph, rfl, rfl⟩ := (text_mem_paint hfile).1 hpaint
    obtain ⟨box, hbox, hpoint, htext⟩ := exists_box_of_mem_lineGlyphs hglyph
    have hright := left_lt_right_of_mem hwidths htab hbox
    have htextTop : (view.layout metrics file line).textTop =
        (view.layout metrics file line).top + metrics.inset := rfl
    refine ⟨line, box, hbox, hpoint, htext, ?_⟩
    rw [hlocation, hpoint, locationIn_of_mem hspacing hwidths.nonneg hbox le_rfl hright]
    · linarith
    · linarith

/-- The box of a surrogate pair behind a tab, found from a point in it and back. -/
theorem locationAt?_pointOf_behind_tab :
    let file : SourceFile := .ofText none ['a', '\t', '😀']
    let view : View Rat := (ofSource .empty .plain).display (some file)
    let metrics : Metrics Rat := ⟨fun _ => 10, 20, 3⟩
    view.file = some file ∧ 0 < metrics.spacing ∧ metrics.PositiveWidths ∧ 1 ≤ view.tabStop ∧
      view.locationAt? metrics ⟨90, 10⟩ = some ⟨0, 2⟩ ∧
      view.pointOf metrics ⟨0, 2⟩ = ⟨84, 4⟩ := by
  intro file view metrics
  have hfile : view.file = some file := rfl
  have hspacing : 0 < metrics.spacing := by decide +kernel
  have hwidths : metrics.PositiveWidths := fun _ _ => show (0 : Rat) < 10 by norm_num
  have htab : 1 ≤ view.tabStop := by decide
  have hbox : ⟨2, 84, 10, ['😀']⟩ ∈ (view.layout metrics file 0).boxes := by decide +kernel
  obtain ⟨hpoint, hback⟩ :=
    (locationAt?_pointOf_inverse hfile hspacing hwidths htab).1 0 _ hbox
  refine ⟨hfile, hspacing, hwidths, htab, hpoint ⟨90, 10⟩ ?_ ?_ ?_ ?_, hback.trans ?_⟩
  all_goals decide +kernel

end View

end CodeBrowser
