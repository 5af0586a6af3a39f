import CodeBrowser.Proofs.Geometry.Order
import CodeBrowser.Proofs.Layout.Tiling
import CodeBrowser.Proofs.Paint.Pen
import CodeBrowser.Proofs.Text.Words
import CodeBrowser.Proofs.View.Current
import CodeBrowser.View.Painting

/-!
# Painting against a plain painter

The painter leaves a line at the first character to the right of the clip rectangle and takes a pen
only where the colour changes. The plain painter looks at every character of every line and takes
the pen anew each time. Along a line whose edges ascend, the characters behind the first that is
too far to the right are too far to the right as well, and so both paint the same.

No arithmetic is used but the laws of comparison, so that all of this holds of rounded numbers too.

## Main definitions

* `LineLayout.Spans`: a rectangle behind some columns of a line.
* `View.plainPen?`: the pen of a character, from the selection or from the colours of the file.
* `View.shownBoxes`, `View.plainTexts`: what the plain painter shows of a line, and how.

## Main results

* `View.text_mem_paint`: the texts that are painted.
* `View.inked_lineGlyphs`: a line comes out as the plain painter draws it.
* `View.selectionRect_of_word`: the rectangle behind a selected word.
* `View.paint_eq_plain`: painting is equivalent to the plain painter.
-/

namespace CodeBrowser

variable {α : Type} [Scalar α]

/-- The rectangle spans the columns from `start` up to `stop` of a line of `length` units: from the
left edge of the first character to that of the character behind them or, at the end of the line,
to the right edge of the last character. It is as high as the line. -/
structure LineLayout.Spans (layout : LineLayout α) (length start stop : Nat) (rect : Rect α) :
    Prop where
  min : ∃ first ∈ layout.boxes, first.column = start ∧ rect.min = ⟨first.left, layout.top⟩
  right : (∃ next ∈ layout.boxes, next.column = stop ∧ rect.max.x = next.left) ∨
    (stop = length ∧ ∃ last, layout.boxes.getLast? = some last ∧ rect.max.x = last.right)
  bottom : rect.max.y = layout.top + layout.height

namespace View

variable {view : View α} {metrics : Metrics α} {file : SourceFile}
  {clip : Rect α} {line : Nat}

/-! ### What is painted -/

theorem paint_eq (hfile : view.file = some file) {first last : Nat}
    (hlines : visibleLines clip metrics.spacing file.lineCount = some (first, last)) :
    view.paint metrics clip = view.selectionCalls metrics ++
      drawGlyphs none ((lineSpan first last).flatMap (view.lineGlyphs metrics file clip)) := by
  simp only [paint, hfile, hlines]

theorem text_notMem_selectionCalls (point : Point α) (text : List Char) :
    .text point text ∉ view.selectionCalls metrics := by
  unfold selectionCalls
  split <;> simp

/-- The background of the selection takes no pen and draws no text. -/
theorem inked_selectionCalls (pen : Option Color) (rest : List (CanvasCall α)) :
    inked pen (view.selectionCalls metrics ++ rest) = inked pen rest := by
  unfold selectionCalls
  split <;> rfl

/-- The texts that are painted are those of the glyphs of the visible lines. -/
theorem text_mem_paint (hfile : view.file = some file) {point : Point α} {text : List Char} :
    .text point text ∈ view.paint metrics clip ↔
      ∃ line ∈ visibleLineList clip metrics.spacing file.lineCount,
        ∃ glyph ∈ view.lineGlyphs metrics file clip line,
          glyph.point = point ∧ glyph.text = text := by
  cases hlines : visibleLines clip metrics.spacing file.lineCount with
  | none => simp [paint, hfile, hlines, visibleLineList]
  | some lines =>
    obtain ⟨first, last⟩ := lines
    rw [paint_eq hfile hlines, List.mem_append, or_iff_right (text_notMem_selectionCalls _ _),
      text_mem_drawGlyphs]
    simp only [visibleLineList, hlines, List.mem_flatMap]
    constructor
    · rintro ⟨glyph, ⟨line, hline, hglyph⟩, heq⟩
      exact ⟨line, hline, glyph, hglyph, heq⟩
    · rintro ⟨line, hline, glyph, hglyph, heq⟩
      exact ⟨glyph, ⟨line, hline, hglyph⟩, heq⟩

/-- The glyphs of a line are at the places of its boxes. -/
theorem exists_box_of_mem_lineGlyphs {glyph : Glyph α}
    (h : glyph ∈ view.lineGlyphs metrics file clip line) :
    ∃ box ∈ (view.layout metrics file line).boxes,
      glyph.point = ⟨box.left, (view.layout metrics file line).textTop⟩ ∧
      glyph.text = box.text := by
  obtain ⟨box, hbox, rfl⟩ := List.mem_map.1 h
  exact ⟨box, (List.takeWhile_sublist _).mem (List.mem_of_mem_filter hbox), rfl, rfl⟩

/-! ### The background of a word -/

/-- The location of a character leads to the corner of its box. -/
theorem pointOf_of_mem (hfile : view.file = some file) {box : CharBox α}
    (hbox : box ∈ (view.layout metrics file line).boxes) :
    view.pointOf metrics ⟨line, box.column⟩ =
      ⟨box.left, (view.layout metrics file line).top⟩ := by
  have hline : ¬ file.lineCount ≤ line := Nat.not_le_of_lt (line_lt_of_mem_layout hbox)
  have hleft : (view.layout metrics file line).leftOf box.column = box.left :=
    leftOf_column_of_mem hbox
  simp only [pointOf, hfile, hline, if_false, hleft]

/-- The location at the end of a line leads to the right edge of the line. -/
theorem pointOf_lineLength (hfile : view.file = some file) (hline : line < file.lineCount) :
    view.pointOf metrics ⟨line, file.lineLength line⟩ =
      ⟨(view.layout metrics file line).right, (view.layout metrics file line).top⟩ := by
  have hright : (view.layout metrics file line).leftOf (file.lineLength line) =
      (view.layout metrics file line).right :=
    leftOf_of_lineLength_le (Nat.le_refl _)
  simp only [pointOf, hfile, Nat.not_le_of_lt hline, if_false, hright]

/-- **The rectangle behind a word.** It spans the word on the line where the word is. -/
theorem selectionRect_of_word (hfile : view.file = some file) {loc : Location}
    (hword : view.selection = file.wordAt loc) (hsome : view.selection.isEmpty = false) :
    view.selection.start.line = loc.line ∧ view.selection.stop.line = loc.line ∧
      (view.layout metrics file loc.line).Spans (file.lineLength loc.line)
        view.selection.start.column view.selection.stop.column (view.selectionRect metrics) := by
  have hchar : loc.pointsAtChar file = true :=
    SourceFile.pointsAtChar_of_wordAt (by rw [← hword, hsome])
  rw [SourceFile.wordAt_eq_onLine hchar] at hword
  simp only [Location.pointsAtChar, Bool.and_eq_true, decide_eq_true_eq] at hchar
  obtain ⟨hline, hcolumn⟩ := hchar
  obtain ⟨hstart, hstop, hlt, hle⟩ := charStart_wordColumns hcolumn
  generalize (wordColumns (file.lineContent loc.line) loc.column).1 = start at *
  generalize (wordColumns (file.lineContent loc.line) loc.column).2 = stop at *
  obtain ⟨first, hfirst, rfl⟩ : ∃ first ∈ (view.layout metrics file loc.line).boxes,
      first.column = start :=
    exists_box_of_charStart_eq (Nat.zero_le _) (Nat.lt_of_lt_of_le hlt hle) hstart
  have hmin : view.pointOf metrics ⟨loc.line, first.column⟩ = _ := pointOf_of_mem hfile hfirst
  rw [selectionRect, hword]
  refine ⟨rfl, rfl, ⟨first, hfirst, rfl, hmin⟩, ?_, congrArg (Point.y · + metrics.spacing) hmin⟩
  rcases Nat.eq_or_lt_of_le hle with rfl | hlt'
  · have hlast := List.getLast?_eq_some_getLast (List.ne_nil_of_mem hfirst)
    have hend : view.pointOf metrics ⟨loc.line, (file.lineContent loc.line).length⟩ = _ :=
      pointOf_lineLength hfile hline
    refine Or.inr ⟨rfl, _, hlast, ?_⟩
    rw [TextRange.onLine, hend, LineLayout.right, hlast]
  · obtain ⟨next, hnext, rfl⟩ : ∃ next ∈ (view.layout metrics file loc.line).boxes,
        next.column = stop :=
      exists_box_of_charStart_eq (Nat.zero_le _) hlt' hstop
    exact Or.inl ⟨next, hnext, rfl, congrArg Point.x (pointOf_of_mem hfile hnext)⟩

/-! ### The plain painter -/

/-- The pen of the character at a column: that of the selection within it, and else the colour that
the view keeps for its offset. -/
def plainPen? (view : View α) (file : SourceFile) (line column : Nat) : Option Color :=
  if view.selection.contains ⟨line, column⟩ then some view.theme.view.selectionText
  else view.colors.colorAt? (file.lineStart line + column)

/-- What the plain painter shows of a line: every character but the tabs that reaches beyond the
left edge of the clip rectangle and starts no further right than its right edge. -/
def shownBoxes (view : View α) (metrics : Metrics α) (file : SourceFile) (clip : Rect α)
    (line : Nat) : List (CharBox α) :=
  (view.layout metrics file line).boxes.filter fun box =>
    (file.lineContent line)[box.column]? ≠ some 9 ∧ clip.min.x < box.right ∧ box.left ≤ clip.max.x

/-- What the plain painter draws of a line. -/
def plainTexts (view : View α) (metrics : Metrics α) (file : SourceFile) (clip : Rect α)
    (line : Nat) : List (InkedText α) :=
  (view.shownBoxes metrics file clip line).map fun box =>
    ⟨view.plainPen? file line box.column,
      ⟨box.left, (view.layout metrics file line).textTop⟩, box.text⟩

/-- An up-to-date view has a pen for each character. -/
theorem plainPen?_eq_some (hcurrent : view.IsCurrent) (hfile : view.file = some file)
    {box : CharBox α} (hbox : box ∈ (view.layout metrics file line).boxes) :
    view.plainPen? file line box.column =
      some (view.charColor (view.layout metrics file line) line box) := by
  have hstart : (view.layout metrics file line).start = file.lineStart line := rfl
  have hoffset : file.lineStart line + box.column < view.colors.size := by
    rw [hcurrent.size_colors hfile]
    exact SourceFile.lineStart_add_lt (shows_of_mem_layout hbox).1
  obtain ⟨color, hcolor⟩ := ColorBuffer.exists_colorAt?_of_lt hoffset
  rw [plainPen?, charColor, hstart, hcolor]
  split_ifs <;> rfl

variable [LawfulScalar α]

section Clip

variable (hmin : Scalar.IsNumber clip.min.x) (hmax : Scalar.IsNumber clip.max.x)

include hmin hmax

/-- Where the edges ascend, no character behind the first that is too far right is to be drawn. -/
theorem lineGlyphs_eq (hedges : (view.layout metrics file line).EdgesAscend) :
    view.lineGlyphs metrics file clip line =
      (view.shownBoxes metrics file clip line).map fun box =>
        ⟨view.charColor (view.layout metrics file line) line box,
          ⟨box.left, (view.layout metrics file line).textTop⟩, box.text⟩ := by
  have hbreak : (view.layout metrics file line).boxes.Pairwise fun a b =>
      (!decide (clip.max.x < b.left)) = true → (!decide (clip.max.x < a.left)) = true := by
    refine hedges.left_le_left.imp fun {a b} hle hb => ?_
    simp only [Bool.not_eq_true', decide_eq_false_iff_not] at hb ⊢
    exact fun ha => hb (LawfulScalar.lt_of_lt_of_le ha hle)
  rw [lineGlyphs, takeWhile_eq_filter hbreak, List.filter_filter, shownBoxes]
  congr 1
  refine List.filter_congr fun box hbox => ?_
  obtain ⟨hleft, hright⟩ := LawfulScalar.isNumber_of_le (hedges.left_le_right box hbox)
  obtain ⟨-, -, offset, hshows⟩ := shows_of_mem_layout hbox
  rw [Bool.eq_iff_iff]
  simp only [Bool.and_eq_true, Bool.not_eq_true', decide_eq_false_iff_not, decide_eq_true_eq,
    List.isEmpty_eq_false_iff]
  rw [Scalar.not_le_iff_lt hright hmin, Scalar.not_lt_iff_le hleft hmax, ne_eq,
    hshows.text_eq_nil_iff, and_comm (a := clip.min.x < box.right), and_assoc]

/-- **A line as the plain painter draws it.** -/
theorem inked_lineGlyphs (hcurrent : view.IsCurrent) (hfile : view.file = some file)
    (hedges : (view.layout metrics file line).EdgesAscend) :
    (view.lineGlyphs metrics file clip line).map Glyph.inked =
      view.plainTexts metrics file clip line := by
  rw [lineGlyphs_eq hmin hmax hedges, List.map_map, plainTexts]
  refine List.map_congr_left fun box hbox => ?_
  rw [plainPen?_eq_some hcurrent hfile (List.mem_of_mem_filter hbox)]
  rfl

end Clip

/-- **Painting is equivalent to the plain painter.** Take a view that is reached from a new one and
a clip rectangle that lies between numbers and shows some lines. The background of the selection is
painted first, if there is a selection, and then the texts of the plain painter, line after line and
character after character. Of the pens that the plain painter takes, those that are in force already
are left out, and each text comes out in its own pen, which is always that of the selection or one
of the colours that the view keeps. -/
theorem paint_eq_plain {symbols : SymbolSource} {lexer : Lexer}
    {operations : List (ViewOperation α)}
    (hview : view = (ofSource symbols lexer).run operations) (hfile : view.file = some file)
    (hmin : Scalar.IsNumber clip.min.x) (hmax : Scalar.IsNumber clip.max.x)
    (hedges : ∀ line, (view.layout metrics file line).EdgesAscend) {first last : Nat}
    (hlines : visibleLines clip metrics.spacing file.lineCount = some (first, last)) :
    view.paint metrics clip =
      (if view.selection.isEmpty then []
        else [.fill (view.selectionRect metrics) view.theme.view.selectionBackground]) ++
      dropIdlePens none
        (penEach ((lineSpan first last).flatMap (view.plainTexts metrics file clip))) ∧
    inked none (view.paint metrics clip) =
      (lineSpan first last).flatMap (view.plainTexts metrics file clip) ∧
    (∀ line, ∀ text ∈ view.plainTexts metrics file clip line, text.pen.isSome) ∧
    ∀ loc, view.selection = file.wordAt loc → view.selection.isEmpty = false →
      view.selection.start.line = loc.line ∧ view.selection.stop.line = loc.line ∧
        (view.layout metrics file loc.line).Spans (file.lineLength loc.line)
          view.selection.start.column view.selection.stop.column (view.selectionRect metrics) := by
  have hcurrent : view.IsCurrent := by
    rw [hview]
    exact isCurrent_of_run symbols lexer operations
  have hline (line : Nat) : (view.lineGlyphs metrics file clip line).map Glyph.inked =
      view.plainTexts metrics file clip line :=
    inked_lineGlyphs hmin hmax hcurrent hfile (hedges line)
  have htexts :
      ((lineSpan first last).flatMap (view.lineGlyphs metrics file clip)).map Glyph.inked =
      (lineSpan first last).flatMap (view.plainTexts metrics file clip) := by
    rw [List.map_flatMap]
    simp only [hline]
  refine ⟨?_, ?_, ?_, fun loc hword hsome => selectionRect_of_word hfile hword hsome⟩
  · rw [paint_eq hfile hlines, drawGlyphs_eq_dropIdlePens, htexts]
    rfl
  · rw [paint_eq hfile hlines, inked_selectionCalls, inked_drawGlyphs, htexts]
  · intro line text htext
    rw [← hline] at htext
    obtain ⟨glyph, -, rfl⟩ := List.mem_map.1 htext
    rfl

/-- A pressed word before a tab, and a character behind it, as they come out. -/
theorem paint_eq_plain_pressed_word :
    let file : SourceFile := .ofText none ['a', 'b', '\t', 'c']
    let metrics : Metrics Rat := ⟨fun _ => 10, 20, 3⟩
    let clip : Rect Rat := ⟨⟨0, 0⟩, ⟨200, 100⟩⟩
    let view : View Rat :=
      (ofSource .empty .plain).run [.display (some file), .press metrics ⟨5, 10⟩]
    view.file = some file ∧ Scalar.IsNumber clip.min.x ∧ Scalar.IsNumber clip.max.x ∧
      (∀ line, (view.layout metrics file line).EdgesAscend) ∧
      visibleLines clip metrics.spacing file.lineCount = some (0, 0) ∧
      inked none (view.paint metrics clip) =
        [⟨some view.theme.view.selectionText, ⟨4, 7⟩, ['a']⟩,
          ⟨some view.theme.view.selectionText, ⟨14, 7⟩, ['b']⟩,
          ⟨some view.theme.lexical.plain, ⟨84, 7⟩, ['c']⟩] := by
  intro file metrics clip view
  have hmin : Scalar.IsNumber clip.min.x := Rat.le_refl
  have hmax : Scalar.IsNumber clip.max.x := Rat.le_refl
  have hwidths : metrics.NonnegWidths := fun _ _ => show (0 : Rat) ≤ 10 by decide +kernel
  have hedges (line : Nat) : (view.layout metrics file line).EdgesAscend :=
    edgesAscend_layout hwidths
  have hlines : visibleLines clip metrics.spacing file.lineCount = some (0, 0) := by
    decide +kernel
  obtain ⟨-, htexts, -⟩ := paint_eq_plain rfl rfl hmin hmax hedges hlines
  exact ⟨rfl, hmin, hmax, hedges, hlines, htexts.trans (by decide +kernel)⟩

end View

end CodeBrowser
