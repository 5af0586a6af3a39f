import CodeBrowser.Proofs.Font.WidthCache
import CodeBrowser.View.Measuring

/-!
# Geometry through the cache of widths

A walk along a line shows its visitor the boxes of the line one after another until the visitor has
seen enough, and so it comes to what the visitor makes of the whole list of boxes. The visitor that
looks for a column finds what a search of the boxes finds, and so do the others. So the walks
compute the sizes, points, locations and pictures of the view if the metrics of the font answer
them, and then also if a cache does.

## Main definitions

* `visitAll`: what a visitor makes of a list of boxes.

## Main results

* `eval_walkUnits`: walks along code units, and their visitors.
* `View.eval_pointOfM`, `View.eval_locationAtM?`, `View.eval_paintM`: what the walks compute.
* `WidthCache.transparent`: what goes through a cache, and what is measured meanwhile.
-/

namespace CodeBrowser

variable {α β γ σ : Type}

/-! ### Results -/

namespace Measuring

variable (metrics : Metrics α)

@[simp]
theorem eval_pure (result : β) : (pure result : Measuring α β).eval metrics = result := rfl

@[simp]
theorem eval_width (text : String) : (width text).eval metrics = metrics.width text := rfl

@[simp]
theorem eval_bind (computation : Measuring α β) (next : β → Measuring α γ) :
    (computation >>= next).eval metrics = (next (computation.eval metrics)).eval metrics := by
  induction computation with
  | done result => rfl
  | ask text rest ih => exact ih _

instance : LawfulMonad (Measuring α) :=
  LawfulMonad.mk' (Measuring α)
    (fun computation => by
      induction computation with
      | done result => rfl
      | ask text rest ih => exact congrArg (ask text) (funext ih))
    (fun _ _ => rfl)
    (fun computation _ _ => by
      induction computation with
      | done result => rfl
      | ask text rest ih => exact congrArg (ask text) (funext ih))

@[simp]
theorem eval_map (f : β → γ) (computation : Measuring α β) :
    (f <$> computation).eval metrics = f (computation.eval metrics) := by
  rw [map_eq_pure_bind, eval_bind, eval_pure]

@[simp]
theorem eval_mapM (f : γ → Measuring α β) (items : List γ) :
    (items.mapM f).eval metrics = items.map fun item => (f item).eval metrics := by
  induction items with
  | nil => rfl
  | cons item items ih => simp [ih]

end Measuring

/-! ### Walks -/

/-- What a visitor makes of boxes that it is shown until it has seen enough. -/
def visitAll (visit : CharBox α → σ → ForInStep σ) (state : σ) : List (CharBox α) → σ
  | [] => state
  | box :: boxes =>
    match visit box state with
    | .done state => state
    | .yield state => visitAll visit state boxes

theorem eval_visitThen {metrics : Metrics α} {visit : CharBox α → σ → ForInStep σ}
    {box : CharBox α} {state : σ} {next : σ → Measuring α σ} {boxes : List (CharBox α)}
    (hnext : ∀ state, (next state).eval metrics = visitAll visit state boxes) :
    (visitThen visit box state next).eval metrics = visitAll visit state (box :: boxes) := by
  rw [visitThen, visitAll]
  cases visit box state with
  | done state => rfl
  | yield state => exact hnext state

section

variable [Scalar α]

theorem eval_measureUnit (metrics : Metrics α) (tabWidth leftMargin : α) (column : Nat)
    (offset : α) (u : CodeUnit) :
    (measureUnit tabWidth leftMargin column offset u).eval metrics =
      charBoxes.box metrics tabWidth leftMargin column offset u := by
  unfold measureUnit charBoxes.box
  split_ifs <;> rfl

/-- **A walk along code units** comes to what its visitor makes of their boxes. -/
theorem eval_walkUnits (metrics : Metrics α) (visit : CharBox α → σ → ForInStep σ)
    (tabWidth leftMargin : α) (column : Nat) (offset : α) (state : σ) (units : List CodeUnit) :
    (walkUnits visit tabWidth leftMargin column offset state units).eval metrics =
      visitAll visit state (charBoxes metrics tabWidth leftMargin column offset units) := by
  -- The walk takes the same steps as `charBoxes`, and the visitor ends both.
  fun_induction charBoxes metrics tabWidth leftMargin column offset units generalizing state with
  | case1 => rfl
  | case2 column offset u =>
    rw [walkUnits, Measuring.eval_bind, eval_measureUnit]
    exact eval_visitThen fun state => rfl
  | case3 column offset u v rest hpair text width ih =>
    rw [walkUnits, if_pos hpair]
    exact eval_visitThen ih
  | case4 column offset u v rest hpair ih =>
    rw [walkUnits, if_neg hpair, Measuring.eval_bind, eval_measureUnit]
    exact eval_visitThen ih

theorem eval_walkLine (metrics : Metrics α) (file : SourceFile) (margins : Margins α)
    (tabStop line : Nat) (visit : CharBox α → σ → ForInStep σ) (state : σ) :
    (file.walkLine margins tabStop line visit state).eval metrics =
      visitAll visit state (file.layout metrics margins tabStop line).boxes := by
  rw [SourceFile.walkLine, Measuring.eval_bind, eval_walkUnits]
  rfl

end

/-! ### Visitors -/

section

variable [Scalar α]

/-- The search for a column ends at the character that is shown there, or at the end of the line. -/
theorem visitAll_forColumn (layout : LineLayout α) (column : Nat) :
    visitAll (View.visitForColumn column) layout.leftMargin layout.boxes =
      layout.leftOf column := by
  -- The right edge of the boxes so far takes the place of the left margin.
  obtain ⟨start, leftMargin, top, height, textTop, boxes⟩ := layout
  induction boxes generalizing leftMargin with
  | nil => rfl
  | cons box boxes ih =>
    by_cases hcolumn : column ≤ box.column
    · simp [visitAll, View.visitForColumn, LineLayout.leftOf, hcolumn]
    · have hfind : (box :: boxes).find? (column ≤ ·.column) = boxes.find? (column ≤ ·.column) :=
        List.find?_cons_of_neg (by simpa using hcolumn)
      simp only [visitAll, View.visitForColumn, if_neg hcolumn, ih, LineLayout.leftOf, hfind,
        LineLayout.right, List.getLast?_cons]
      cases boxes.getLast? <;> rfl

/-- The search for a point ends at the first character that reaches beyond it. -/
theorem visitAll_forPoint (layout : LineLayout α) (x : α) :
    visitAll (View.visitForPoint x) none layout.boxes = layout.columnAt? x := by
  rw [LineLayout.columnAt?]
  induction layout.boxes with
  | nil => rfl
  | cons box boxes ih =>
    by_cases hx : x < box.right
    · simp [visitAll, View.visitForPoint, hx]
    · simp [visitAll, View.visitForPoint, hx, ih]

/-- The search for glyphs adds those of the boxes that are shown. -/
theorem visitAll_forGlyphs (view : View α) (layout : LineLayout α) (clip : Rect α) (line : Nat)
    (glyphs : List (Glyph α)) (boxes : List (CharBox α)) :
    visitAll (view.visitForGlyphs layout clip line) glyphs boxes =
      glyphs ++ (((boxes.takeWhile fun box => !decide (clip.max.x < box.left)).filter
        fun box => !decide (box.right ≤ clip.min.x) && !box.text.isEmpty).map fun box =>
          ⟨view.charColor layout line box, ⟨box.left, layout.textTop⟩, box.text⟩) := by
  induction boxes generalizing glyphs with
  | nil => simp [visitAll]
  | cons box boxes ih =>
    by_cases hright : clip.max.x < box.left
    · simp [visitAll, View.visitForGlyphs, hright]
    · rw [List.takeWhile_cons_of_pos (by simpa using hright)]
      by_cases hshown : box.right ≤ clip.min.x ∨ box.text.isEmpty
      · have hvisit : view.visitForGlyphs layout clip line box glyphs = .yield glyphs := by
          rw [View.visitForGlyphs, if_neg hright, if_pos hshown]
        rw [visitAll, hvisit, List.filter_cons_of_neg (by simpa [or_iff_not_imp_left] using hshown)]
        exact ih glyphs
      · have hvisit : view.visitForGlyphs layout clip line box glyphs = .yield (glyphs ++
            [⟨view.charColor layout line box, ⟨box.left, layout.textTop⟩, box.text⟩]) := by
          rw [View.visitForGlyphs, if_neg hright, if_neg hshown]
        rw [visitAll, hvisit, List.filter_cons_of_pos (by simpa [not_or] using hshown),
          List.map_cons]
        exact (ih _).trans (List.append_assoc ..)

end

/-! ### The view and the gutter -/

section

variable [Scalar α] (metrics : Metrics α)

namespace View

variable (view : View α)

theorem eval_sizeHintM :
    (view.sizeHintM metrics.lineMetrics).eval metrics = view.sizeHint metrics := by
  unfold sizeHintM sizeHint
  cases view.file <;> rfl

theorem eval_pointOfM (loc : Location) :
    (view.pointOfM metrics.lineMetrics loc).eval metrics = view.pointOf metrics loc := by
  cases hfile : view.file with
  | none => simp [pointOfM, pointOf, hfile]
  | some file =>
    simp only [pointOfM, pointOf, hfile]
    split_ifs with hline
    · rfl
    · rw [Measuring.eval_bind, walkLine, eval_walkLine]
      exact congrArg (Point.mk · _) (visitAll_forColumn (view.layout metrics file loc.line) _)

theorem eval_locationInM (file : SourceFile) (point : Point α) :
    (view.locationInM metrics.lineMetrics file point).eval metrics =
      view.locationIn metrics file point := by
  unfold locationInM locationIn
  rw [Metrics.spacing_lineMetrics]
  dsimp only
  split_ifs with hzero habove hbelow
  · rfl
  · rfl
  · rfl
  · rw [Measuring.eval_bind, walkLine, eval_walkLine, visitAll_forPoint, layout]
    cases LineLayout.columnAt? _ point.x <;> rfl

theorem eval_locationAtM? (point : Point α) :
    (view.locationAtM? metrics.lineMetrics point).eval metrics =
      view.locationAt? metrics point := by
  cases hfile : view.file with
  | none => simp [locationAtM?, locationAt?, hfile]
  | some file => simp [locationAtM?, locationAt?, hfile, eval_locationInM]

theorem eval_lineGlyphsM (file : SourceFile) (clip : Rect α) (line : Nat) :
    (view.lineGlyphsM metrics.lineMetrics file clip line).eval metrics =
      view.lineGlyphs metrics file clip line := by
  rw [lineGlyphsM, walkLine, eval_walkLine, visitAll_forGlyphs]
  rfl

theorem eval_selectionCallsM :
    (view.selectionCallsM metrics.lineMetrics).eval metrics = view.selectionCalls metrics := by
  unfold selectionCallsM selectionCalls
  split_ifs
  · rfl
  · simp only [Measuring.eval_bind, eval_pointOfM]
    rfl

theorem eval_paintM (clip : Rect α) :
    (view.paintM metrics.lineMetrics clip).eval metrics = view.paint metrics clip := by
  cases hfile : view.file with
  | none => simp [paintM, paint, hfile]
  | some file =>
    cases hlines : visibleLines clip metrics.spacing file.lineCount with
    | none => simp [paintM, paint, hfile, hlines]
    | some lines =>
      simp [paintM, paint, hfile, hlines, eval_selectionCallsM, eval_lineGlyphsM,
        List.flatMap_def]

end View

namespace Gutter

variable (gutter : Gutter α)

theorem eval_sizeHintM :
    (gutter.sizeHintM metrics.lineMetrics).eval metrics = gutter.sizeHint metrics := rfl

theorem eval_labelCallM (width : α) (line : Nat) :
    (gutter.labelCallM metrics.lineMetrics width line).eval metrics =
      .text (gutter.labelPoint metrics width line) (label line) := rfl

theorem eval_paintM (clip : Rect α) (width : α) (color : Color) :
    (gutter.paintM metrics.lineMetrics clip width color).eval metrics =
      gutter.paint metrics clip width color := by
  cases hlines : visibleLines clip metrics.spacing gutter.lineCount with
  | none => simp [paintM, paint, hlines]
  | some lines =>
    simp [paintM, paint, hlines, eval_labelCallM]

end Gutter

/-! ### Transparency -/

open WidthCache in
/-- **The cache of widths is transparent.** Take any requests for any fonts, and the cache that they
leave. Every answer is that of the measurer, and nothing is measured but what a request asks for. If
a font has been evicted just now, or nothing has been asked before, then each width of that font is
measured exactly once until the font is evicted again, if it is asked for at all, and else never. An
eviction leaves what is known of the other fonts in place. The view and the gutter come out of the
cache as they come out of the metrics of the font, and every computation that measures leaves the
cache that requests for the widths that it asks for would leave. -/
theorem WidthCache.transparent (measurer : Measurer α) (requests : List Request) :
    let cache := empty.after measurer requests
    List.Forall₂ (fun request served => served.reply = request.answer measurer ∧
      served.measured ⊆ request.asked?.toList) requests (empty.run measurer requests) ∧
    (∀ (font : Font) (text : String) (stretch : List Request),
      (∀ request ∈ requests.getLast?, request.forgets font = true) →
      (∀ request ∈ stretch, request.forgets font = false) →
      ((cache.run measurer stretch).flatMap (·.measured)).count ⟨font.key, text⟩ =
        if some ⟨font.key, text⟩ ∈ stretch.map Request.asked? then 1 else 0) ∧
    (∀ font other : Font, (cache.evict font).known other =
      if other.key = font.key then [] else cache.known other) ∧
    ∀ font : Font,
      let metrics := measurer.metrics font
      (∀ view : View α,
        (∀ point, ((view.locationAtM? metrics.lineMetrics point).through measurer font cache).1 =
          view.locationAt? metrics point) ∧
        (∀ loc, ((view.pointOfM metrics.lineMetrics loc).through measurer font cache).1 =
          view.pointOf metrics loc) ∧
        ((view.sizeHintM metrics.lineMetrics).through measurer font cache).1 =
          view.sizeHint metrics ∧
        ∀ clip, ((view.paintM metrics.lineMetrics clip).through measurer font cache).1 =
          view.paint metrics clip) ∧
      (∀ gutter : Gutter α,
        ((gutter.sizeHintM metrics.lineMetrics).through measurer font cache).1 =
          gutter.sizeHint metrics ∧
        ∀ clip width color,
          ((gutter.paintM metrics.lineMetrics clip width color).through measurer font cache).1 =
            gutter.paint metrics clip width color) ∧
      ∀ (β : Type) (computation : Measuring α β),
        (computation.through measurer font cache).2 =
          empty.after measurer (requests ++ (computation.asks metrics).map (.width font)) := by
  intro cache
  have hsound : cache.Sound measurer := sound_empty.after requests
  refine ⟨sound_empty.answers_run requests, fun font text stretch hlast hstretch => ?_,
    known_evict cache, fun font => ?_⟩
  · rw [count_measured_run hstretch]
    simp only [cache, find?_after_eq_none hlast, true_and]
  · intro metrics
    have hresult {β : Type} (computation : Measuring α β) :
        (computation.through measurer font cache).1 = computation.eval metrics :=
      congrArg Prod.fst (hsound.through_eq font computation)
    refine ⟨fun view => ?_, fun gutter => ?_, fun β computation => ?_⟩
    · simp only [hresult, View.eval_locationAtM?, View.eval_pointOfM, View.eval_sizeHintM,
        View.eval_paintM, implies_true, and_self]
    · simp only [hresult, Gutter.eval_sizeHintM, Gutter.eval_paintM, implies_true, and_self]
    · rw [after_append, hsound.through_eq font computation]

end

/-- One of two fonts is evicted. What is asked of it afterwards is measured anew, once, and a walk
up to a point behind a tab ends where it would end without a cache. -/
theorem WidthCache.transparent_two_fonts :
    let measurer : Measurer Rat := ⟨fun font text =>
      text.length * (if font.family = .monospace then 10 else 8), fun _ => 20, fun _ => 3⟩
    let code : Font := ⟨.monospace, .ofBits 0x41400000⟩
    let prose : Font := ⟨.proportional, .ofBits 0x41400000⟩
    let requests : List WidthCache.Request :=
      [.width code "x", .width prose "x", .width code " ", .evict code]
    let stretch : List WidthCache.Request :=
      [.width code "x", .metrics code, .tabWidth code 4, .width code "x", .width prose "x"]
    let cache := WidthCache.empty.after measurer requests
    let measured := (cache.run measurer stretch).flatMap (·.measured)
    let file : SourceFile := .ofText none ['a', '\t', 'x']
    let view : View Rat := (View.ofSource .empty .plain).display (some file)
    (∀ request ∈ requests.getLast?, request.forgets code = true) ∧
      (∀ request ∈ stretch, request.forgets code = false) ∧
      measured.count ⟨code.key, "x"⟩ = 1 ∧ measured.count ⟨code.key, " "⟩ = 1 ∧
      measured.count ⟨code.key, "y"⟩ = 0 ∧ cache.known prose = [("x", 8)] ∧
      ((view.locationAtM? (measurer.metrics code).lineMetrics ⟨85, 10⟩).through measurer code
        cache).1 = some ⟨0, 2⟩ := by
  intro measurer code prose requests stretch cache measured file view
  have hlast : ∀ request ∈ requests.getLast?, request.forgets code = true := by decide +kernel
  have hstretch : ∀ request ∈ stretch, request.forgets code = false := by decide +kernel
  obtain ⟨-, hcount, -, hgeometry⟩ := WidthCache.transparent measurer requests
  obtain ⟨hview, -, -⟩ := hgeometry code
  refine ⟨hlast, hstretch, (hcount code "x" stretch hlast hstretch).trans (by decide +kernel),
    (hcount code " " stretch hlast hstretch).trans (by decide +kernel),
    (hcount code "y" stretch hlast hstretch).trans (by decide +kernel), by decide +kernel,
    ((hview view).1 ⟨85, 10⟩).trans (by decide +kernel)⟩

end CodeBrowser
