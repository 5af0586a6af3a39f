import CodeBrowser.Proofs.Layout.Columns
import CodeBrowser.Proofs.View.Current
import CodeBrowser.View.Geometry

/-!
# The size of the content

The view asks for the room that its file takes: as many lines as there are, and the columns of the
widest line, which it keeps, at the width of a space. In a font of one width this is exactly the
room that the walk along the lines takes up, for columns and pixels stay in step along each line and
the width that is kept is that of the widest one.

## Main definitions

* `View.rightEdges`: where the characters of a file end.

## Main results

* `SourceFile.exists_expandedColumns_eq_max`: some line is the widest.
* `View.isGreatest_rightEdges`: the columns of the widest line are where the last character ends.
* `View.sizeHint_fixedPitch`: the size of the content is that of the walk.
-/

namespace CodeBrowser

/-! ### The widest line -/

namespace SourceFile

variable {file : SourceFile} {tabStop line : Nat}

theorem maxExpandedColumns_eq (file : SourceFile) (tabStop : Nat) :
    file.maxExpandedColumns tabStop =
      ((List.range file.lineCount).map (file.expandedColumns · tabStop)).max?.getD 0 := by
  rw [maxExpandedColumns, List.foldl_max, Nat.zero_max]

theorem expandedColumns_le_max (tabStop : Nat) (h : line < file.lineCount) :
    file.expandedColumns line tabStop ≤ file.maxExpandedColumns tabStop := by
  rw [maxExpandedColumns_eq]
  exact List.le_max?_getD_of_mem (List.mem_map_of_mem (List.mem_range.2 h))

/-- Some line is the widest, unless there is none. -/
theorem exists_expandedColumns_eq_max (file : SourceFile) (tabStop : Nat) :
    file.maxExpandedColumns tabStop = 0 ∨
      ∃ line, file.expandedColumns line tabStop = file.maxExpandedColumns tabStop := by
  rw [maxExpandedColumns_eq]
  cases hmax : ((List.range file.lineCount).map (file.expandedColumns · tabStop)).max? with
  | none => exact Or.inl rfl
  | some widest =>
    obtain ⟨line, -, hline⟩ := List.mem_map.1 (List.max?_mem hmax)
    exact Or.inr ⟨line, hline⟩

end SourceFile

namespace View

variable {view : View Rat} {metrics : Metrics Rat} {w : Rat} {file : SourceFile}

/-- How far from the left margin the characters of the file end. -/
def rightEdges (view : View Rat) (metrics : Metrics Rat) (file : SourceFile) : Set Rat :=
  {x | ∃ line, ∃ box ∈ (view.layout metrics file line).boxes, box.right - view.margins.left = x}

section FixedPitch

variable (hpitch : metrics.FixedPitch w) (hw : 0 < w) (htab : 1 ≤ view.tabStop)

include hpitch hw htab

theorem mem_rightEdges_bounds {x : Rat} (h : x ∈ view.rightEdges metrics file) :
    0 < x ∧ x ≤ w * file.maxExpandedColumns view.tabStop := by
  obtain ⟨line, box, hbox, rfl⟩ := h
  obtain ⟨-, hpos, hle⟩ := edges_of_mem_layout hpitch hw htab hbox
  have hmax := SourceFile.expandedColumns_le_max view.tabStop (line_lt_of_mem_layout hbox)
  exact ⟨hpos, hle.trans (mul_le_mul_of_nonneg_left (Nat.cast_le.2 hmax) hw.le)⟩

/-- A line that has columns has a last character, which ends where the line does. -/
theorem mem_rightEdges_of_pos {line : Nat} (h : 0 < file.expandedColumns line view.tabStop) :
    w * file.expandedColumns line view.tabStop ∈ view.rightEdges metrics file := by
  have hright := right_layout hpitch hw htab file view.margins line
  unfold LineLayout.right at hright
  split at hright
  · next box hbox => exact ⟨line, box, List.mem_of_getLast? hbox, hright⟩
  · have hpos : 0 < w * file.expandedColumns line view.tabStop := mul_pos hw (Nat.cast_pos.2 h)
    exact absurd (hright.symm.trans (sub_self _)) hpos.ne'

/-- **The last character** of a file with any ends at the columns of the widest line. -/
theorem isGreatest_rightEdges : view.rightEdges metrics file = ∅ ∧
      file.maxExpandedColumns view.tabStop = 0 ∨
    IsGreatest (view.rightEdges metrics file) (w * file.maxExpandedColumns view.tabStop) := by
  rcases Nat.eq_zero_or_pos (file.maxExpandedColumns view.tabStop) with hzero | hpos
  · refine Or.inl ⟨Set.eq_empty_of_forall_notMem fun x hx => ?_, hzero⟩
    obtain ⟨hlt, hle⟩ := mem_rightEdges_bounds hpitch hw htab hx
    rw [hzero, Nat.cast_zero, mul_zero] at hle
    exact hlt.not_ge hle
  · refine Or.inr ⟨?_, fun x hx => (mem_rightEdges_bounds hpitch hw htab hx).2⟩
    obtain ⟨line, hline⟩ :=
      (file.exists_expandedColumns_eq_max view.tabStop).resolve_left hpos.ne'
    rw [← hline] at hpos ⊢
    exact mem_rightEdges_of_pos hpitch hw htab hpos

end FixedPitch

/-- The width of an up-to-date view is the columns of its widest line in the width of a space. -/
theorem IsCurrent.sizeHint_eq (h : view.IsCurrent) (hfile : view.file = some file)
    (hpitch : metrics.FixedPitch w) : view.sizeHint metrics =
      ⟨w * file.maxExpandedColumns view.tabStop + view.margins.horizontal,
        file.lineCount * metrics.spacing + view.margins.vertical⟩ := by
  have hspace : metrics.width " " = w := hpitch ' ' (by decide)
  have hcolumns : view.maxColumns = file.maxExpandedColumns view.tabStop := by
    rw [h.maxColumns_eq, currentColumns, hfile]
  rw [sizeHint, hfile, hspace, hcolumns, mul_comm w]
  rfl

/-- **The size of the content is that of the walk along its lines**, in a font of one width. On each
line a character starts at the pixels of the columns in front of it, and the line ends at those of
all its columns. So whatever has been done to the view, it asks for the height of all lines and for
the width up to the end of the character that reaches furthest, if there is any, and for the margins
around them. -/
theorem sizeHint_fixedPitch (hpitch : metrics.FixedPitch w) (hw : 0 < w) :
    (∀ (file : SourceFile) (margins : Margins Rat) (tabStop line : Nat), 1 ≤ tabStop →
      let layout := file.layout metrics margins tabStop line
      (∀ box ∈ layout.boxes, box.left - margins.left =
        w * SourceFile.expandFrom tabStop 0 ((file.lineContent line).take box.column)) ∧
        layout.right - margins.left = w * file.expandedColumns line tabStop) ∧
      ∀ (symbols : SymbolSource) (lexer : Lexer) (operations : List (ViewOperation Rat)),
        let view := (ofSource symbols lexer).run operations
        let size := view.sizeHint metrics
        (view.file = none → size = ⟨view.margins.horizontal, view.margins.vertical⟩) ∧
          ∀ file, view.file = some file →
            size.y = file.lineCount * metrics.spacing + view.margins.vertical ∧
              (view.rightEdges metrics file = ∅ ∧ size.x = view.margins.horizontal ∨
                ∃ x, IsGreatest (view.rightEdges metrics file) x ∧
                  size.x = x + view.margins.horizontal) := by
  refine ⟨fun file margins tabStop line htab => ⟨fun box hbox => ?_, ?_⟩,
    fun symbols lexer operations => ⟨fun hnone => ?_, fun file hfile => ?_⟩⟩
  · exact (edges_of_mem_layout hpitch hw htab hbox).1
  · exact right_layout hpitch hw htab file margins line
  · rw [sizeHint, hnone]
  · have hcurrent := isCurrent_of_run symbols lexer operations
    rw [hcurrent.sizeHint_eq hfile hpitch]
    refine ⟨rfl, ?_⟩
    rcases isGreatest_rightEdges hpitch hw hcurrent.tabStop_pos with ⟨hempty, hzero⟩ | hgreatest
    · refine Or.inl ⟨hempty, ?_⟩
      rw [hzero, Nat.cast_zero, mul_zero, zero_add]
    · exact Or.inr ⟨_, hgreatest, rfl⟩

/-- Behind a letter a tab fills up four columns, so that the letter behind it ends furthest to the
right; the surrogate pair on the next line takes one column. -/
theorem sizeHint_fixedPitch_tab :
    let metrics : Metrics Rat := ⟨fun text => 10 * text.length, 20, 3⟩
    let file : SourceFile := .ofText none ['a', '\t', 'b', '\n', '😀', 'c']
    let view := (ofSource .empty .plain).run [.setTabStop 4, .display (some file)]
    metrics.FixedPitch 10 ∧ view.file = some file ∧
      (view.sizeHint metrics).y = 2 * 20 + 8 ∧ (view.sizeHint metrics).x = 50 + 8 ∧
      IsGreatest (view.rightEdges metrics file) 50 := by
  intro metrics file view
  have hpitch : metrics.FixedPitch 10 := fun c _ => by simp [metrics]
  obtain ⟨-, hsize⟩ := sizeHint_fixedPitch hpitch (by norm_num)
  obtain ⟨-, hfile⟩ := hsize .empty .plain [.setTabStop 4, .display (some file)]
  obtain ⟨hheight, hwidth⟩ := hfile file rfl
  have hx : (view.sizeHint metrics).x = 50 + 8 := by decide +kernel
  refine ⟨hpitch, rfl, hheight.trans (by decide +kernel), hx, ?_⟩
  rcases hwidth with ⟨-, hempty⟩ | ⟨x, hgreatest, hxe⟩
  · exact absurd hempty (by decide +kernel)
  · have hmargins : view.margins.horizontal = 8 := by decide +kernel
    have heq : x + 8 = 50 + 8 := (congrArg (x + ·) hmargins).symm.trans (hxe.symm.trans hx)
    exact add_right_cancel heq ▸ hgreatest

end View

end CodeBrowser
