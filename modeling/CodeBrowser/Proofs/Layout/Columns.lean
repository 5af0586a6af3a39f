import CodeBrowser.Proofs.Layout.Spelling
import CodeBrowser.Proofs.Text.Characters
import Mathlib.Algebra.Order.Floor.Semiring
import Mathlib.Data.Rat.Floor

/-!
# Columns and pixels in step

The width of a line is known twice. The file counts its columns, where a tab goes on to the next
multiple of the tab stop; the walk along the line adds up widths, where a tab goes on to the next
multiple of the width of a tab stop. In a font of one width both count the same: wherever a
character starts or ends, the walk has come that width times the columns so far, for it does so at
each character.

Arithmetic is exact here.

## Main definitions

* `Metrics.FixedPitch`: every character has the same width.
* `SourceFile.columnBehind`: the column behind a character.

## Main results

* `SourceFile.expandFrom_charUnits_append`: the columns are counted character by character.
* `add_width_charBox`: one character keeps columns and pixels in step.
* `edges_textBoxes`: where the boxes of a text start and end.
* `edges_of_mem_layout`, `right_layout`: the same of the boxes of a line and of its end.
-/

namespace CodeBrowser

/-- Every character has the width `w`. A tab has none of its own. -/
def Metrics.FixedPitch (metrics : Metrics Rat) (w : Rat) : Prop :=
  ∀ c, c ≠ '\t' → metrics.width (String.ofList [c]) = w

theorem Metrics.FixedPitch.positiveWidths {metrics : Metrics Rat} {w : Rat}
    (h : metrics.FixedPitch w) (hw : 0 < w) : metrics.PositiveWidths :=
  fun c hc => (h c hc).symm ▸ hw

theorem Metrics.FixedPitch.tabWidth_eq {metrics : Metrics Rat} {w : Rat}
    (h : metrics.FixedPitch w) (tabStop : Nat) : metrics.tabWidth tabStop = w * tabStop := by
  have hspace : metrics.width " " = w := h ' ' (by decide)
  rw [Metrics.tabWidth, hspace, Scalar.ofNat_rat]

/-! ### Columns -/

namespace SourceFile

variable {tabStop n : Nat}

/-- The column behind a character that stands at column `n`. -/
def columnBehind (tabStop n : Nat) (c : Char) : Nat :=
  if c = '\t' then (n + tabStop) / tabStop * tabStop else n + 1

theorem lt_columnBehind (htab : 1 ≤ tabStop) (n : Nat) (c : Char) :
    n < columnBehind tabStop n c := by
  unfold columnBehind
  split_ifs
  · rw [Nat.add_div_right n htab, mul_comm]
    exact Nat.lt_mul_div_succ n htab
  · exact Nat.lt_succ_self n

/-- **The columns are counted character by character**, whether of one unit or two. -/
theorem expandFrom_charUnits_append (tabStop n : Nat) (c : Char) (units : List CodeUnit) :
    expandFrom tabStop n (charUnits c ++ units) =
      expandFrom tabStop (columnBehind tabStop n c) units := by
  rcases charUnits_cases c with ⟨u, hunits, hnumber, hhigh, -⟩ | ⟨u, v, hunits, hhigh, hlow, hc⟩
  · have hbehind : columnAfter tabStop n u = columnBehind tabStop n c := by
      simp only [columnAfter, columnBehind, beq_iff_eq, eq_nine_iff hnumber]
    rw [hunits, ← hbehind]
    cases units with
    | nil => rfl
    | cons v units => simp [expandFrom, isPair, hhigh]
  · have hbehind : columnBehind tabStop n c = n + 1 := if_neg (hc ▸ pairChar_ne_tab u v)
    rw [hunits, hbehind]
    simp [expandFrom, isPair, hhigh, hlow]

theorem expandFrom_charUnits (tabStop n : Nat) (c : Char) :
    expandFrom tabStop n (charUnits c) = columnBehind tabStop n c := by
  simpa only [List.append_nil, expandFrom] using expandFrom_charUnits_append tabStop n c []

theorem expandFrom_toUnits_append (tabStop n : Nat) (front : List Char) (units : List CodeUnit) :
    expandFrom tabStop n (toUnits front ++ units) =
      expandFrom tabStop (expandFrom tabStop n (toUnits front)) units := by
  induction front generalizing n with
  | nil => rfl
  | cons c front ih =>
    rw [toUnits_cons, List.append_assoc, expandFrom_charUnits_append, ih,
      expandFrom_charUnits_append]

/-- The units of a text only add columns. -/
theorem le_expandFrom_toUnits (htab : 1 ≤ tabStop) (n : Nat) (text : List Char) :
    n ≤ expandFrom tabStop n (toUnits text) := by
  induction text generalizing n with
  | nil => exact Nat.le_refl n
  | cons c text ih =>
    rw [toUnits_cons, expandFrom_charUnits_append]
    exact (lt_columnBehind htab n c).le.trans (ih _)

end SourceFile

open SourceFile (columnBehind expandFrom)

/-! ### The boxes of a text -/

section Boxes

variable {metrics : Metrics Rat} {w : Rat} {tabStop : Nat}

/-- A tab ends at the pixels of the column where it ends. -/
theorem add_tabAdvance (hw : 0 < w) (htab : 1 ≤ tabStop) (n : Nat) :
    w * n + tabAdvance (w * tabStop) (w * n) = w * ((n + tabStop) / tabStop * tabStop : Nat) := by
  have htabStop : (0 : Rat) < tabStop := Nat.cast_pos.2 htab
  have hnot : ¬ w * tabStop ≤ Scalar.ofNat 0 := not_le.2 (mul_pos hw htabStop)
  have hquotient : (w * n + w * tabStop) / (w * tabStop) = ((n + tabStop : Nat) : Rat) / tabStop := by
    rw [← mul_add, mul_div_mul_left _ _ hw.ne', Nat.cast_add]
  have hfloor : (((n + tabStop : Nat) : Rat) / tabStop).floor = ((n + tabStop) / tabStop : Nat) :=
    Rat.floor_natCast_div_natCast (n + tabStop) tabStop
  rw [tabAdvance, if_neg hnot, Scalar.floor_rat, hquotient, hfloor, Int.cast_natCast, Nat.cast_mul]
  ring

variable (hpitch : metrics.FixedPitch w) (hw : 0 < w) (htab : 1 ≤ tabStop)

include hpitch hw htab

/-- **One character keeps columns and pixels in step.** -/
theorem add_width_charBox (leftMargin : Rat) (column n : Nat) (c : Char) :
    w * n + (charBox metrics (metrics.tabWidth tabStop) leftMargin column (w * n) c).width =
      w * columnBehind tabStop n c := by
  rw [hpitch.tabWidth_eq, charBox, columnBehind]
  split_ifs with hc
  · exact add_tabAdvance hw htab n
  · rw [hpitch c hc]
    push_cast
    ring

/-- **Where the boxes of a text start and end.** Each starts at the pixels of the columns in front
of its character, and ends at those of the columns up to its end. -/
theorem edges_textBoxes (leftMargin : Rat) (column n : Nat) (text : List Char) :
    (textBoxes metrics (metrics.tabWidth tabStop) leftMargin column (w * n) text).map
        (fun box => (box.column, box.left, box.right)) =
      (List.range text.length).map fun i =>
        (column + (toUnits (text.take i)).length,
          leftMargin + w * expandFrom tabStop n (toUnits (text.take i)),
          leftMargin + w * expandFrom tabStop n (toUnits (text.take (i + 1)))) := by
  induction text generalizing column n with
  | nil => rfl
  | cons c text ih =>
    have hwidth := add_width_charBox hpitch hw htab leftMargin column n c
    rw [textBoxes, List.map_cons, hwidth, ih, List.length_cons, List.range_succ_eq_map,
      List.map_cons, List.map_map, CharBox.right, left_charBox, column_charBox, add_assoc, hwidth]
    refine congrArg₂ List.cons ?_ (List.map_congr_left fun i _ => ?_)
    · rw [Nat.zero_add, List.take_succ_cons, List.take_zero, List.take_zero, toUnits_singleton,
        SourceFile.expandFrom_charUnits]
      rfl
    · simp [toUnits_cons, SourceFile.expandFrom_charUnits_append, Nat.add_assoc]

end Boxes

/-! ### The layout of a line -/

section Layout

variable {metrics : Metrics Rat} {w : Rat} {tabStop : Nat} (hpitch : metrics.FixedPitch w)
  (hw : 0 < w) (htab : 1 ≤ tabStop)

include hpitch hw htab

variable (file : SourceFile) (margins : Margins Rat) (line : Nat)

theorem edges_layout :
    (file.layout metrics margins tabStop line).boxes.map
        (fun box => (box.column, box.left, box.right)) =
      (List.range (file.lineText line).length).map fun i =>
        ((toUnits ((file.lineText line).take i)).length,
          margins.left + w * expandFrom tabStop 0 (toUnits ((file.lineText line).take i)),
          margins.left + w * expandFrom tabStop 0 (toUnits ((file.lineText line).take (i + 1)))) := by
  have hedges := edges_textBoxes hpitch hw htab margins.left 0 0 (file.lineText line)
  rw [boxes_layout_eq_textBoxes]
  simpa [Scalar.ofNat_rat] using hedges

omit hpitch hw in
/-- The columns of a line are those of its text. -/
theorem expandedColumns_eq :
    file.expandedColumns line tabStop = expandFrom tabStop 0 (toUnits (file.lineText line)) := by
  rw [SourceFile.expandedColumns, max_eq_left htab, (file.toUnits_lineText line).2]

/-- **The end of a line** is at the pixels of its columns. -/
theorem right_layout : (file.layout metrics margins tabStop line).right - margins.left =
    w * file.expandedColumns line tabStop := by
  have hlast := congrArg List.getLast? (edges_layout hpitch hw htab file margins line)
  rw [List.getLast?_map, List.getLast?_map, List.getLast?_range] at hlast
  rw [expandedColumns_eq htab, LineLayout.right]
  cases hbox : (file.layout metrics margins tabStop line).boxes.getLast? with
  | none =>
    rw [hbox] at hlast
    have hempty : file.lineText line = [] := by simpa using hlast
    rw [hempty]
    exact (sub_self margins.left).trans (mul_zero w).symm
  | some box =>
    rw [hbox] at hlast
    split_ifs at hlast with hlength
    · contradiction
    · have hedges := Option.some.inj hlast
      simp only [Prod.mk.injEq] at hedges
      obtain ⟨-, -, hright⟩ := hedges
      rw [Nat.sub_add_cancel (Nat.one_le_iff_ne_zero.2 hlength), List.take_length] at hright
      exact sub_eq_of_eq_add' hright

variable {file margins line}

/-- **The edges of a box.** It starts at the pixels of the columns in front of its character, and
ends behind the left margin and within the columns of the line. -/
theorem edges_of_mem_layout {box : CharBox Rat}
    (hbox : box ∈ (file.layout metrics margins tabStop line).boxes) :
    box.left - margins.left =
        w * expandFrom tabStop 0 ((file.lineContent line).take box.column) ∧
      0 < box.right - margins.left ∧
      box.right - margins.left ≤ w * file.expandedColumns line tabStop := by
  have hmem := List.mem_map_of_mem (f := fun box => (box.column, box.left, box.right)) hbox
  rw [edges_layout hpitch hw htab] at hmem
  obtain ⟨i, -, hedges⟩ := List.mem_map.1 hmem
  simp only [Prod.mk.injEq] at hedges
  obtain ⟨hcolumn, hleft, hright⟩ := hedges
  have hcut (j : Nat) : toUnits (file.lineText line) =
      toUnits ((file.lineText line).take j) ++ toUnits ((file.lineText line).drop j) := by
    rw [← toUnits_append, List.take_append_drop]
  have hstart : box.left - margins.left =
      w * expandFrom tabStop 0 ((file.lineContent line).take box.column) := by
    rw [← (file.toUnits_lineText line).2, hcut i, ← hcolumn, List.take_left, ← hleft,
      add_sub_cancel_left]
  refine ⟨hstart, ?_, ?_⟩
  · have hwidth := left_lt_right_of_mem (hpitch.positiveWidths hw) htab hbox
    have hnonneg : 0 ≤ box.left - margins.left := hstart ▸ by positivity
    linarith
  · have hle := SourceFile.le_expandFrom_toUnits htab
      (expandFrom tabStop 0 (toUnits ((file.lineText line).take (i + 1))))
      ((file.lineText line).drop (i + 1))
    rw [← SourceFile.expandFrom_toUnits_append, ← hcut, ← expandedColumns_eq htab] at hle
    rw [← hright, add_sub_cancel_left]
    exact mul_le_mul_of_nonneg_left (Nat.cast_le.2 hle) hw.le

end Layout

end CodeBrowser
