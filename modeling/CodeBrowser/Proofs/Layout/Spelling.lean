import CodeBrowser.Proofs.Layout.Tiling
import CodeBrowser.Proofs.Text.LinePartition
import Mathlib.Order.Bounds.Basic

/-!
# The boxes of a line spell the line

The walk along a line takes one step for each character of its text, whatever the measures of the
font. So its boxes can be told from the text alone, character by character (`textBoxes`): where they
stand, what is drawn in them, and in exact arithmetic how they join, each where the one before it
ends. A tab fills the line up to the next tab stop.

## Main definitions

* `charBox`, `textBoxes`: the box of a character, and the boxes of a text.
* `CharBox.spelled`: what a box stands for.

## Main results

* `charBoxes_toUnits`: the boxes of the units of a text are those of its characters.
* `columns_textBoxes`, `spelled_textBoxes`, `isChain_textBoxes`: where the boxes of a text stand,
  what they stand for and how they join.
* `isLeast_tabAdvance`: the end of a tab is the next tab stop.
* `boxes_spell_line`: the boxes of a line spell it and tile it.
-/

namespace CodeBrowser

/-! ### The boxes of a text -/

section Boxes

variable {α : Type} [Scalar α] (metrics : Metrics α) (tabWidth leftMargin : α)

/-- The box of a character that stands at a column, `offset` away from the left margin. -/
def charBox (column : Nat) (offset : α) (c : Char) : CharBox α :=
  if c = '\t' then ⟨column, leftMargin + offset, tabAdvance tabWidth offset, []⟩
  else ⟨column, leftMargin + offset, metrics.width (String.ofList [c]), [c]⟩

/-- The boxes of the characters of a text, the first of which stands at a column, `offset` away from
the left margin. -/
def textBoxes (column : Nat) (offset : α) : List Char → List (CharBox α)
  | [] => []
  | c :: text =>
    let box := charBox metrics tabWidth leftMargin column offset c
    box :: textBoxes (column + (charUnits c).length) (offset + box.width) text

/-- What a box stands for. Only a tab draws nothing. -/
def CharBox.spelled (box : CharBox α) : List Char := if box.text = [] then ['\t'] else box.text

variable {metrics tabWidth leftMargin} {column : Nat} {offset : α}

theorem column_charBox (c : Char) :
    (charBox metrics tabWidth leftMargin column offset c).column = column := by
  unfold charBox
  split_ifs <;> rfl

theorem left_charBox (c : Char) :
    (charBox metrics tabWidth leftMargin column offset c).left = leftMargin + offset := by
  unfold charBox
  split_ifs <;> rfl

theorem spelled_charBox (c : Char) :
    (charBox metrics tabWidth leftMargin column offset c).spelled = [c] := by
  unfold charBox
  split_ifs with htab
  · rw [htab]
    rfl
  · rfl

/-- The unit of a character is that of a tab iff the character is one. -/
theorem eq_nine_iff {u : CodeUnit} {c : Char} (hnumber : u.toNat = c.toNat) :
    u = 9 ↔ c = '\t' := by
  rw [← UInt16.toNat_inj, hnumber, ← Char.toNat_inj]
  rfl

/-- **A step of the walk** takes one character, of one unit or two. -/
theorem charBoxes_charUnits_append (c : Char) (units : List CodeUnit) :
    charBoxes metrics tabWidth leftMargin column offset (charUnits c ++ units) =
      charBox metrics tabWidth leftMargin column offset c ::
        charBoxes metrics tabWidth leftMargin (column + (charUnits c).length)
          (offset + (charBox metrics tabWidth leftMargin column offset c).width) units := by
  rcases charUnits_cases c with ⟨u, hunits, hnumber, hhigh, hlow⟩ | ⟨u, v, hunits, hhigh, hlow, hc⟩
  · have htab := eq_nine_iff hnumber
    have hchar : unitChar u = c := by
      rw [unitChar, unitChar?_eq_some hnumber hhigh hlow, Option.getD_some]
    have hbox : charBoxes.box metrics tabWidth leftMargin column offset u =
        charBox metrics tabWidth leftMargin column offset c := by
      unfold charBoxes.box charBox
      simp only [htab, hchar]
    rw [hunits, ← hbox]
    cases units with
    | nil => rfl
    | cons v units => simp [charBoxes, isPair, hhigh]
  · have htab : c ≠ '\t' := hc ▸ pairChar_ne_tab u v
    rw [hunits, charBox, if_neg htab, ← hc]
    simp [charBoxes, isPair, hhigh, hlow]

/-- The boxes of the units of a text are those of its characters. -/
theorem charBoxes_toUnits (text : List Char) :
    charBoxes metrics tabWidth leftMargin column offset (toUnits text) =
      textBoxes metrics tabWidth leftMargin column offset text := by
  induction text generalizing column offset with
  | nil => rfl
  | cons c text ih => rw [toUnits_cons, charBoxes_charUnits_append, ih, textBoxes]

theorem length_textBoxes (text : List Char) :
    (textBoxes metrics tabWidth leftMargin column offset text).length = text.length := by
  induction text generalizing column offset with
  | nil => rfl
  | cons c text ih => rw [textBoxes, List.length_cons, ih, List.length_cons]

/-- The columns of the boxes are those where the characters start. -/
theorem columns_textBoxes (text : List Char) :
    (textBoxes metrics tabWidth leftMargin column offset text).map (·.column) =
      (List.range text.length).map fun i => column + (toUnits (text.take i)).length := by
  induction text generalizing column offset with
  | nil => rfl
  | cons c text ih =>
    rw [textBoxes, List.map_cons, ih, column_charBox, List.length_cons, List.range_succ_eq_map,
      List.map_cons, List.map_map]
    refine congrArg₂ List.cons rfl (List.map_congr_left fun i _ => ?_)
    simp [toUnits_cons, Nat.add_assoc]

/-- What the boxes stand for is the text. -/
theorem spelled_textBoxes (text : List Char) :
    (textBoxes metrics tabWidth leftMargin column offset text).flatMap (·.spelled) = text := by
  induction text generalizing column offset with
  | nil => rfl
  | cons c text ih => rw [textBoxes, List.flatMap_cons, spelled_charBox, ih, List.singleton_append]

end Boxes

/-! ### Side by side -/

section Tiling

variable {metrics : Metrics Rat} {tabWidth leftMargin : Rat} {column : Nat} {offset : Rat}

theorem left_of_head?_textBoxes {text : List Char} {box : CharBox Rat}
    (h : box ∈ (textBoxes metrics tabWidth leftMargin column offset text).head?) :
    box.left = leftMargin + offset := by
  cases text with
  | nil => contradiction
  | cons c text =>
    obtain rfl := Option.some.inj h
    exact left_charBox c

/-- Each box starts where the one before it ends. -/
theorem isChain_textBoxes (text : List Char) :
    (textBoxes metrics tabWidth leftMargin column offset text).IsChain
      fun a b => b.left = a.right := by
  induction text generalizing column offset with
  | nil => exact List.IsChain.nil
  | cons c text ih =>
    refine List.isChain_cons.2 ⟨fun next hnext => ?_, ih⟩
    rw [left_of_head?_textBoxes hnext, CharBox.right, left_charBox, add_assoc]

/-- **The end of a tab is the next tab stop**, the least multiple of the width that lies further
on. -/
theorem isLeast_tabAdvance (htab : 0 < tabWidth) (offset : Rat) :
    IsLeast {x | offset < x ∧ ∃ k : Int, x = k * tabWidth}
      (offset + tabAdvance tabWidth offset) := by
  have hnot : ¬ tabWidth ≤ Scalar.ofNat 0 := not_le.2 htab
  have hadvance : offset + tabAdvance tabWidth offset =
      ((offset + tabWidth) / tabWidth).floor * tabWidth := by
    rw [tabAdvance, if_neg hnot, Scalar.floor_rat]
    ring
  refine ⟨⟨lt_add_of_pos_right offset (tabAdvance_pos htab offset), _, hadvance⟩, ?_⟩
  rintro x ⟨hlt, k, rfl⟩
  have hfloor : (((offset + tabWidth) / tabWidth).floor : Rat) < k + 1 := by
    refine (Rat.floor_le _).trans_lt ((div_lt_iff₀ htab).2 ?_)
    linarith
  rw [hadvance]
  refine mul_le_mul_of_nonneg_right (Int.cast_le.2 (Int.lt_add_one_iff.1 ?_)) htab.le
  exact_mod_cast hfloor

end Tiling

/-! ### The layout of a line -/

section Layout

variable {file : SourceFile} {margins : Margins Rat} {metrics : Metrics Rat} {tabStop line : Nat}

/-- The boxes of a line are those of its text. -/
theorem boxes_layout_eq_textBoxes {α : Type} [Scalar α] (file : SourceFile) (metrics : Metrics α)
    (margins : Margins α) (tabStop line : Nat) :
    (file.layout metrics margins tabStop line).boxes =
      textBoxes metrics (metrics.tabWidth tabStop) margins.left 0 (Scalar.ofNat 0)
        (file.lineText line) := by
  rw [← charBoxes_toUnits, (file.toUnits_lineText line).2]
  rfl

/-- The right edge of a tab is at the next tab stop. -/
theorem isLeast_right_of_tab {box : CharBox Rat} (htab : 0 < metrics.tabWidth tabStop)
    (hbox : box ∈ (file.layout metrics margins tabStop line).boxes) (htext : box.text = []) :
    IsLeast {x | box.left - margins.left < x ∧ ∃ k : Int, x = k * metrics.tabWidth tabStop}
      (box.right - margins.left) := by
  obtain ⟨-, -, offset, hshows⟩ := shows_of_mem_layout hbox
  have hwidth : box.width = tabAdvance (metrics.tabWidth tabStop) offset := by
    rcases hshows.tab_or_char with ⟨-, -, hwidth⟩ | ⟨-, c, -, hchar, -⟩
    · exact hwidth
    · rw [hchar] at htext
      contradiction
  have hleft : box.left - margins.left = offset := by rw [hshows.left_eq, add_sub_cancel_left]
  have hright : box.right - margins.left =
      offset + tabAdvance (metrics.tabWidth tabStop) offset := by
    rw [CharBox.right, hwidth, ← hleft]
    ring
  rw [hleft, hright]
  exact isLeast_tabAdvance htab offset

/-- **The boxes of a line spell it and tile it.** There is one box for each character of the text of
the line. The boxes stand at the columns where the characters start among the units of the line,
each of which is within the file, and what they stand for is that very text, where nothing is drawn
for the tabs. In exact arithmetic the first box starts at the left margin, each other box where the
one before it ends, and a tab ends at the next tab stop if tab stops have a width. -/
theorem boxes_spell_line (file : SourceFile) (tabStop line : Nat) :
    toUnits (file.lineText line) = file.lineContent line ∧
      (∀ {α : Type} [Scalar α] (metrics : Metrics α) (margins : Margins α),
        let layout := file.layout metrics margins tabStop line
        let text := file.lineText line
        layout.boxes.length = text.length ∧
          layout.boxes.map (·.column) =
            (List.range text.length).map (fun i => (toUnits (text.take i)).length) ∧
          layout.boxes.flatMap (·.spelled) = text ∧
          (∀ box ∈ layout.boxes, box.text = [] ↔ (file.lineContent line)[box.column]? = some 9) ∧
          layout.start = file.lineStart line ∧
          ∀ box ∈ layout.boxes, layout.start + box.column < file.unitCount) ∧
      ∀ (metrics : Metrics Rat) (margins : Margins Rat),
        let layout := file.layout metrics margins tabStop line
        let tabWidth := metrics.tabWidth tabStop
        (∀ box ∈ layout.boxes.head?, box.left = margins.left) ∧
          (layout.boxes.IsChain fun a b => b.left = a.right) ∧
          (0 < tabWidth → ∀ box ∈ layout.boxes, box.text = [] →
            IsLeast {x | box.left - margins.left < x ∧ ∃ k : Int, x = k * tabWidth}
              (box.right - margins.left)) := by
  refine ⟨(file.toUnits_lineText line).2, fun {α} _ metrics margins => ?_,
    fun metrics margins => ⟨fun box hbox => ?_, ?_, fun htab box => isLeast_right_of_tab htab⟩⟩
  · have hboxes := boxes_layout_eq_textBoxes file metrics margins tabStop line
    refine ⟨?_, ?_, ?_, fun box hbox => ?_, rfl, fun box hbox => ?_⟩
    · rw [hboxes, length_textBoxes]
    · rw [hboxes, columns_textBoxes]
      simp only [Nat.zero_add]
    · rw [hboxes, spelled_textBoxes]
    · obtain ⟨-, -, offset, hshows⟩ := shows_of_mem_layout hbox
      exact hshows.text_eq_nil_iff
    · exact SourceFile.lineStart_add_lt (shows_of_mem_layout hbox).1
  · rw [boxes_layout_eq_textBoxes] at hbox
    exact (left_of_head?_textBoxes hbox).trans (add_zero margins.left)
  · rw [boxes_layout_eq_textBoxes]
    exact isChain_textBoxes _

/-- Behind a letter a tab of four columns ends at the first tab stop, and the surrogate pair behind
it has one box. -/
theorem boxes_spell_line_tab :
    let file : SourceFile := .ofText none ['a', '\t', '😀']
    let metrics : Metrics Rat := ⟨fun _ => 10, 20, 3⟩
    let layout := file.layout metrics .standard 4 0
    let tab : CharBox Rat := ⟨1, 14, 30, []⟩
    layout.boxes.map (·.column) = [0, 1, 2] ∧ 0 < metrics.tabWidth 4 ∧ tab ∈ layout.boxes ∧
      IsLeast {x | tab.left - 4 < x ∧ ∃ k : Int, x = k * metrics.tabWidth 4} (tab.right - 4) := by
  intro file metrics layout tab
  obtain ⟨-, hspelled, htiled⟩ := boxes_spell_line file 4 0
  obtain ⟨-, hcolumns, -⟩ := hspelled metrics .standard
  obtain ⟨-, -, htab⟩ := htiled metrics .standard
  have hwidth : 0 < metrics.tabWidth 4 := by decide +kernel
  have hbox : tab ∈ layout.boxes := by decide +kernel
  exact ⟨hcolumns.trans (by decide +kernel), hwidth, hbox, htab hwidth tab hbox rfl⟩

end Layout

end CodeBrowser
