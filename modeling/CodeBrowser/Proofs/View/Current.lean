import CodeBrowser.View.Operation
import CodeBrowser.Proofs.Paint.Coloring

/-!
# What a view keeps is up to date

A view keeps the colours of its file and the width of its widest line. Both follow from the file
and the settings, and each operation that changes one of these computes anew what depends on it.

## Main definitions

* `View.IsCurrent`: what the view keeps is what it would compute.

## Main results

* `View.isCurrent_perform`, `View.isCurrent_run`: operations keep a view up to date.
* `View.isCurrent_of_run`: every view that is reached from a new one is up to date.
* `View.IsCurrent.size_colors`: an up-to-date view has a colour for each unit of its file.
-/

namespace CodeBrowser

namespace View

variable {α : Type} {view : View α}

/-- The view keeps what it would compute, and its tab stops are apart. -/
structure IsCurrent (view : View α) : Prop where
  tabStop_pos : 1 ≤ view.tabStop
  colors_eq : view.colors = view.currentColors
  maxColumns_eq : view.maxColumns = view.currentColumns

namespace IsCurrent

/-! ### What nothing kept depends on -/

theorem setMargins (h : view.IsCurrent) (margins : Margins α) :
    (view.setMargins margins).IsCurrent :=
  ⟨h.tabStop_pos, h.colors_eq, h.maxColumns_eq⟩

theorem select (h : view.IsCurrent) (range : TextRange) : (view.select range).IsCurrent :=
  ⟨h.tabStop_pos, h.colors_eq, h.maxColumns_eq⟩

theorem emit (h : view.IsCurrent) (event : ViewEvent) : (view.emit event).IsCurrent :=
  ⟨h.tabStop_pos, h.colors_eq, h.maxColumns_eq⟩

theorem takeEvents (h : view.IsCurrent) : view.takeEvents.2.IsCurrent :=
  ⟨h.tabStop_pos, h.colors_eq, h.maxColumns_eq⟩

theorem takeScrollRequest (h : view.IsCurrent) : view.takeScrollRequest.2.IsCurrent :=
  ⟨h.tabStop_pos, h.colors_eq, h.maxColumns_eq⟩

theorem activate (h : view.IsCurrent) (word : TextRange) : (view.activate word).IsCurrent := by
  unfold View.activate
  dsimp only
  split
  · split
    · exact (h.emit _).emit _
    · exact h.emit _
  · exact h.emit _

/-! ### What is computed anew -/

theorem setTabStop (h : view.IsCurrent) (tabStop : Nat) : (view.setTabStop tabStop).IsCurrent := by
  unfold View.setTabStop
  split_ifs
  · exact h
  · exact ⟨Nat.le_max_right tabStop 1, h.colors_eq, rfl⟩

theorem setTheme (h : view.IsCurrent) (theme : Theme) : (view.setTheme theme).IsCurrent := by
  unfold View.setTheme
  split_ifs
  · exact h
  · exact ⟨h.tabStop_pos, rfl, h.maxColumns_eq⟩

theorem setSymbols (h : view.IsCurrent) (symbols : SymbolSource) :
    (view.setSymbols symbols).IsCurrent :=
  ⟨h.tabStop_pos, rfl, h.maxColumns_eq⟩

theorem display (h : view.IsCurrent) (file : Option SourceFile) :
    (view.display file).IsCurrent := by
  unfold View.display
  split_ifs
  · exact h
  · exact ⟨h.tabStop_pos, rfl, rfl⟩

/-! ### The pointer -/

variable [Scalar α] (metrics : Metrics α) (point : Point α)

theorem dropUnless (h : view.IsCurrent) : (view.dropUnless metrics point).IsCurrent := by
  unfold View.dropUnless
  split_ifs
  · exact h
  · exact h.select _

theorem release (h : view.IsCurrent) : (view.release metrics point).IsCurrent := by
  unfold View.release
  split_ifs
  · exact h
  · exact (h.select _).activate _
  · exact h.select _

theorem selectIdentifier (h : view.IsCurrent) (line column : Nat) :
    (view.selectIdentifier metrics line column).IsCurrent :=
  ⟨h.tabStop_pos, h.colors_eq, h.maxColumns_eq⟩

end IsCurrent

/-! ### Runs -/

variable [Scalar α]

theorem isCurrent_ofSource (symbols : SymbolSource) (lexer : Lexer) :
    (ofSource symbols lexer : View α).IsCurrent :=
  ⟨show 1 ≤ defaultTabStop by decide, rfl, rfl⟩

/-- Each operation keeps a view up to date. -/
theorem isCurrent_perform (h : view.IsCurrent) (operation : ViewOperation α) :
    (view.perform operation).IsCurrent := by
  cases operation with
  | display file => exact h.display file
  | setTheme theme => exact h.setTheme theme
  | setSymbols symbols => exact h.setSymbols symbols
  | setTabStop tabStop => exact h.setTabStop tabStop
  | setMargins margins => exact h.setMargins margins
  | select range => exact h.select range
  | clearSelection => exact h.select .none
  | press metrics point => exact h.select _
  | move metrics point => exact h.dropUnless metrics point
  | release metrics point => exact h.release metrics point
  | openMenu metrics point => exact h.dropUnless metrics point
  | closeMenu => exact h.select .none
  | pick action => exact h.emit action.event
  | selectIdentifier metrics line column => exact h.selectIdentifier metrics line column
  | takeScrollRequest => exact h.takeScrollRequest
  | takeEvents => exact h.takeEvents

theorem isCurrent_run (h : view.IsCurrent) (operations : List (ViewOperation α)) :
    (view.run operations).IsCurrent := by
  induction operations generalizing view with
  | nil => exact h
  | cons operation rest ih => exact ih (isCurrent_perform h operation)

/-- **Reached views are up to date.** -/
theorem isCurrent_of_run (symbols : SymbolSource) (lexer : Lexer)
    (operations : List (ViewOperation α)) : ((ofSource symbols lexer).run operations).IsCurrent :=
  isCurrent_run (isCurrent_ofSource symbols lexer) operations

omit [Scalar α] in
theorem IsCurrent.size_colors (h : view.IsCurrent) {file : SourceFile}
    (hfile : view.file = some file) : view.colors.size = file.unitCount := by
  rw [h.colors_eq, currentColors, hfile]
  exact ColorBuffer.size_build ..

end View

end CodeBrowser
