import CodeBrowser.Proofs.View.Painting

/-!
# What a selection asks to be shown

A view that selects the word at a line and a column asks for the place of the word to be shown. The
place is that of the range that was found there, not that of the line and the column. Where no
character stands, on a blank line or behind the end of a line, nothing is found, and the range that
stands for nothing is empty at the start of the text. It is a location all the same, and so the
start of the text is asked for, whatever the line was.

None of this depends on the arithmetic.

## Main definitions

* `Rect.IsOnLine`: a rectangle of the content reaches from the top of a line to its bottom.
* `View.requestRect`: the rectangle that is asked for with a selection.

## Main results

* `View.isOnLine_requestRect`: what is asked for is on the line where the selection starts.
* `View.selection_start_line`: where the selection starts.
* `View.asks_for_line_iff`: when a line is asked for, at the height of the tops of lines.
* `View.selectIdentifier_asks_for_line_iff`: when a line is asked for by selecting in it.
-/

namespace CodeBrowser

variable {α : Type} [Scalar α]

/-- A rectangle of the content is on a line, counted from 0: it reaches from the top of the line to
its bottom. -/
structure Rect.IsOnLine (margins : Margins α) (metrics : Metrics α) (line : Nat) (rect : Rect α) :
    Prop where
  top : rect.min.y = margins.top + Scalar.ofNat line * metrics.spacing
  bottom : rect.max.y = margins.top + Scalar.ofNat line * metrics.spacing + metrics.spacing

/-- A rectangle is on two lines if they are at one height. -/
theorem Rect.IsOnLine.isOnLine_iff {margins : Margins α} {metrics : Metrics α} {line line' : Nat}
    {rect : Rect α} (h : rect.IsOnLine margins metrics line) :
    rect.IsOnLine margins metrics line' ↔
      margins.top + Scalar.ofNat line' * metrics.spacing =
        margins.top + Scalar.ofNat line * metrics.spacing :=
  ⟨fun h' => h'.top.symm.trans h.top, fun heq => ⟨h.top.trans heq.symm, by rw [heq, h.bottom]⟩⟩

namespace View

/-- The rectangle that is asked for with a selection: the one behind it, whose right edge is not to
the left of its left edge. -/
def requestRect (view : View α) (metrics : Metrics α) : Rect α :=
  let behind := view.selectionRect metrics
  ⟨behind.min, ⟨Scalar.larger behind.max.x behind.min.x, behind.max.y⟩⟩

variable {view : View α} {metrics : Metrics α} {file : SourceFile} {line column : Nat}

theorem scrollRequest_selectIdentifier :
    (view.selectIdentifier metrics line column).scrollRequest =
      some ((view.selectIdentifier metrics line column).requestRect metrics) :=
  rfl

theorem selection_selectIdentifier (hfile : view.file = some file) :
    (view.selectIdentifier metrics line column).selection =
      file.wordAt (.ofOneBased line column) := by
  show view.wordAt (.ofOneBased line column) = _
  rw [wordAt, hfile]

/-- **What is asked for is on the line where the selection starts.** -/
theorem isOnLine_requestRect (hfile : view.file = some file)
    (hstart : view.selection.start.line < file.lineCount) :
    (view.requestRect metrics).IsOnLine view.margins metrics view.selection.start.line := by
  have hpoint : (view.pointOf metrics view.selection.start).y =
      view.margins.top + Scalar.ofNat view.selection.start.line * metrics.spacing := by
    simp only [pointOf, hfile, Nat.not_le_of_lt hstart, if_false]
    rfl
  exact ⟨hpoint, congrArg (· + metrics.spacing) hpoint⟩

/-! ### The start of the selection -/

/-- Whether a character stands at a line and a column, both counted from 1. -/
theorem pointsAtChar_ofOneBased (hone : 1 ≤ line) (hline : line ≤ file.lineCount) :
    (Location.ofOneBased line column).pointsAtChar file = true ↔
      column - 1 < file.lineLength (line - 1) := by
  have hlt : line - 1 < file.lineCount := by omega
  rw [Location.pointsAtChar, Bool.and_eq_true, decide_eq_true_iff, decide_eq_true_iff]
  exact and_iff_right hlt

/-- A selected word starts on the line where it was looked for. -/
theorem selection_start_line (hfile : view.file = some file)
    (hchar : (Location.ofOneBased line column).pointsAtChar file = true) :
    (view.selectIdentifier metrics line column).selection.start.line = line - 1 := by
  rw [selection_selectIdentifier hfile, SourceFile.wordAt_eq_onLine hchar]
  rfl

/-- Where no character stands, nothing is selected. -/
theorem selection_eq_none (hfile : view.file = some file)
    (hchar : ¬ (Location.ofOneBased line column).pointsAtChar file = true) :
    (view.selectIdentifier metrics line column).selection = .none := by
  rw [selection_selectIdentifier hfile]
  exact if_neg hchar

/-- The rectangle that is asked for where nothing is found is an edge at the start of the text. -/
theorem requestRect_of_none (hnone : view.selection = .none) :
    (view.requestRect metrics).min = view.pointOf metrics ⟨0, 0⟩ ∧
      (view.requestRect metrics).max.x = (view.requestRect metrics).min.x := by
  have hpoints : view.selectionRect metrics =
      ⟨view.pointOf metrics ⟨0, 0⟩, ⟨(view.pointOf metrics ⟨0, 0⟩).x,
        (view.pointOf metrics ⟨0, 0⟩).y + metrics.spacing⟩⟩ := by
    rw [selectionRect, hnone]
    rfl
  rw [requestRect, hpoints]
  refine ⟨rfl, ?_⟩
  unfold Scalar.larger
  split_ifs <;> rfl

/-! ### When a line is asked for -/

section Asked

variable (hfile : view.file = some file) (hone : 1 ≤ line) (hline : line ≤ file.lineCount)

include hfile hone hline

theorem isOnLine_of_char (hchar : column - 1 < file.lineLength (line - 1)) :
    ((view.selectIdentifier metrics line column).requestRect metrics).IsOnLine view.margins metrics
      (line - 1) := by
  let selected := view.selectIdentifier metrics line column
  have hselected : selected.file = some file := hfile
  have hstart : selected.selection.start.line = line - 1 :=
    selection_start_line hfile ((pointsAtChar_ofOneBased hone hline).2 hchar)
  rw [← hstart]
  exact isOnLine_requestRect hselected (by omega)

theorem isOnLine_of_not_char (hchar : ¬ column - 1 < file.lineLength (line - 1)) :
    ((view.selectIdentifier metrics line column).requestRect metrics).IsOnLine view.margins metrics
      0 := by
  let selected := view.selectIdentifier metrics line column
  have hselected : selected.file = some file := hfile
  have hnone : selected.selection = .none :=
    selection_eq_none hfile (mt (pointsAtChar_ofOneBased hone hline).1 hchar)
  -- The range that stands for nothing is taken for a place: the start of the text.
  have hstart : selected.selection.start.line = 0 := by rw [hnone]; rfl
  rw [← hstart]
  exact isOnLine_requestRect hselected (by omega)

/-- The line that is asked for, counted from 0: the one with the character, or else the first. -/
theorem isOnLine_selectIdentifier :
    ((view.selectIdentifier metrics line column).requestRect metrics).IsOnLine view.margins metrics
      (if column - 1 < file.lineLength (line - 1) then line - 1 else 0) := by
  split_ifs with hchar
  · exact isOnLine_of_char hfile hone hline hchar
  · exact isOnLine_of_not_char hfile hone hline hchar

/-- A line is asked for if a character stands where it is asked for, or if it is as high up as the
first line. -/
theorem asks_for_line_iff :
    ((view.selectIdentifier metrics line column).requestRect metrics).IsOnLine view.margins metrics
      (line - 1) ↔
    column - 1 < file.lineLength (line - 1) ∨
      view.margins.top + Scalar.ofNat (line - 1) * metrics.spacing =
        view.margins.top + Scalar.ofNat 0 * metrics.spacing := by
  by_cases hchar : column - 1 < file.lineLength (line - 1)
  · exact iff_of_true (isOnLine_of_char hfile hone hline hchar) (Or.inl hchar)
  · rw [or_iff_right hchar]
    exact (isOnLine_of_not_char hfile hone hline hchar).isOnLine_iff

/-- The rectangle behind the word that is selected at a character. -/
theorem spans_selectIdentifier (hchar : column - 1 < file.lineLength (line - 1)) :
    let selected := view.selectIdentifier metrics line column
    (view.layout metrics file (line - 1)).Spans (file.lineLength (line - 1))
      selected.selection.start.column selected.selection.stop.column
      (selected.selectionRect metrics) := by
  intro selected
  have hselected : selected.file = some file := hfile
  have hpoints : (Location.ofOneBased line column).pointsAtChar file = true :=
    (pointsAtChar_ofOneBased hone hline).2 hchar
  have hword : selected.selection = file.wordAt (.ofOneBased line column) :=
    selection_selectIdentifier hfile
  have hsome : selected.selection.isEmpty = false := by
    rw [hword]
    exact SourceFile.isEmpty_wordAt hpoints
  exact (selectionRect_of_word hselected hword hsome).2.2

end Asked

/-- **When a line is asked for by selecting in it.** Take a file on display, one of its lines and
any column, both counted from 1. Where a character stands, the rectangle asked for is the one behind
its word, and so it is on the line. Where none stands, the rectangle is an edge at the start of the
text, and so it is on the first line, whichever line was meant. The line that was meant is asked for
if and only if a character stands there or its top is that of the first line. -/
theorem selectIdentifier_asks_for_line_iff (hfile : view.file = some file) (hone : 1 ≤ line)
    (hline : line ≤ file.lineCount) (column : Nat) :
    let selected := view.selectIdentifier metrics line column
    let behind := selected.selectionRect metrics
    ∃ request, selected.scrollRequest = some request ∧
      (column - 1 < file.lineLength (line - 1) →
        request.IsOnLine view.margins metrics (line - 1) ∧
        request = ⟨behind.min, ⟨Scalar.larger behind.max.x behind.min.x, behind.max.y⟩⟩ ∧
        (view.layout metrics file (line - 1)).Spans (file.lineLength (line - 1))
          selected.selection.start.column selected.selection.stop.column behind) ∧
      (file.lineLength (line - 1) ≤ column - 1 →
        selected.selection = .none ∧ request.IsOnLine view.margins metrics 0 ∧
        request.min = view.pointOf metrics ⟨0, 0⟩ ∧ request.max.x = request.min.x) ∧
      (request.IsOnLine view.margins metrics (line - 1) ↔
        column - 1 < file.lineLength (line - 1) ∨
          view.margins.top + Scalar.ofNat (line - 1) * metrics.spacing =
            view.margins.top + Scalar.ofNat 0 * metrics.spacing) := by
  intro selected behind
  refine ⟨_, scrollRequest_selectIdentifier, fun hchar => ?_, fun hend => ?_, ?_⟩
  · exact ⟨isOnLine_of_char hfile hone hline hchar, rfl,
      spans_selectIdentifier hfile hone hline hchar⟩
  · have hchar := Nat.not_lt_of_le hend
    have hnone : selected.selection = .none :=
      selection_eq_none hfile (mt (pointsAtChar_ofOneBased hone hline).1 hchar)
    exact ⟨hnone, isOnLine_of_not_char hfile hone hline hchar, requestRect_of_none hnone⟩
  · exact asks_for_line_iff hfile hone hline

/-- A word on the last of three lines is asked for, with the tab before it taken into account. -/
theorem selectIdentifier_asks_for_line_iff_word :
    let file : SourceFile := .ofText none ['a', '\n', '\n', '\t', 'b', 'c']
    let metrics : Metrics Float32 := ⟨fun _ => 10, 20, 0⟩
    let view : View Float32 := (ofSource .empty .plain).display (some file)
    view.file = some file ∧ 1 ≤ 3 ∧ 3 ≤ file.lineCount ∧
      3 - 1 < file.lineLength (3 - 1) ∧
      ∃ request : Rect Float32,
        (view.selectIdentifier metrics 3 3).scrollRequest = some request ∧
        request.IsOnLine view.margins metrics 2 := by
  intro file metrics view
  have hline : 3 ≤ file.lineCount := by decide +kernel
  have hchar : 3 - 1 < file.lineLength (3 - 1) := by decide +kernel
  have hfile : view.file = some file := rfl
  have hone : 1 ≤ 3 := by decide
  obtain ⟨request, hrequest, hasked, -⟩ := selectIdentifier_asks_for_line_iff hfile hone hline 3
  exact ⟨hfile, hone, hline, hchar, request, hrequest, (hasked hchar).1⟩

/-- A blank line is not shown: the first line is asked for. -/
theorem selectIdentifier_on_blank_line :
    let file : SourceFile := .ofText none ['a', '\n', '\n', 'b', '\n']
    let metrics : Metrics Float32 := ⟨fun _ => 10, 20, 0⟩
    let view : View Float32 := (ofSource .empty .plain).display (some file)
    view.file = some file ∧ 2 ≤ file.lineCount ∧ 0 < metrics.spacing ∧
      (view.selectIdentifier metrics 2 1).scrollRequest = some ⟨⟨4, 4⟩, ⟨4, 24⟩⟩ ∧
      ¬ ∃ request, (view.selectIdentifier metrics 2 1).scrollRequest = some request ∧
        request.IsOnLine view.margins metrics 1 := by
  intro file metrics view
  have hrequest : (view.selectIdentifier metrics 2 1).scrollRequest =
      some ⟨⟨4, 4⟩, ⟨4, 24⟩⟩ := by decide +kernel
  refine ⟨rfl, by decide +kernel, by decide +kernel, hrequest, ?_⟩
  rintro ⟨request, hsome, hon⟩
  obtain rfl := Option.some.inj (hrequest.symm.trans hsome)
  exact absurd hon.top (by decide +kernel)

end View

end CodeBrowser
