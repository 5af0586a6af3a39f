import CodeBrowser.Proofs.View.Current

/-!
# Settings of a view

What a view keeps depends on its settings: the lexer, the file on display, the symbol source, the
theme and the tab stops. Operations change the settings one by one, without a look at what is kept,
and what a view keeps after a run is what the settings give that the run has left, whatever
shortcuts its operations took.

## Main definitions

* `ViewSettings`: the settings.
* `ViewSettings.change`, `ViewSettings.changeAll`: what operations do to the settings.
* `View.settings`: the settings of a view.

## Main results

* `View.settings_perform`, `View.settings_run`: what operations do to the settings of a view.
* `View.run_keeps_current`: what a view keeps after a run.
-/

namespace CodeBrowser

/-- What the colours and the width that a view keeps depend on. -/
structure ViewSettings where
  lexer : Lexer
  file : Option SourceFile
  symbols : SymbolSource
  theme : Theme
  tabStop : Nat

namespace ViewSettings

variable {α : Type} {settings : ViewSettings}

/-- The settings of a new view. -/
def initial (symbols : SymbolSource) (lexer : Lexer) : ViewSettings where
  lexer := lexer
  file := none
  symbols := symbols
  theme := .light
  tabStop := View.defaultTabStop

/-- The settings with another file, or none, on display. The opening of a file that is on display
already stays there. -/
def display (settings : ViewSettings) (file : Option SourceFile) : ViewSettings :=
  if settings.file.map (·.serial) = file.map (·.serial) then settings
  else { settings with file := file }

/-- The settings after an operation. -/
def change (settings : ViewSettings) : ViewOperation α → ViewSettings
  | .display file => settings.display file
  | .setTheme theme => { settings with theme := theme }
  | .setSymbols symbols => { settings with symbols := symbols }
  | .setTabStop tabStop => { settings with tabStop := max tabStop 1 }
  | _ => settings

/-- The settings after a run of operations. -/
def changeAll (settings : ViewSettings) (operations : List (ViewOperation α)) : ViewSettings :=
  operations.foldl change settings

theorem lexer_change (operation : ViewOperation α) :
    (settings.change operation).lexer = settings.lexer := by
  cases operation with
  | display file =>
    show (settings.display file).lexer = settings.lexer
    unfold display
    split_ifs <;> rfl
  | _ => rfl

/-- No operation changes the lexer. -/
theorem lexer_changeAll (operations : List (ViewOperation α)) :
    (settings.changeAll operations).lexer = settings.lexer := by
  induction operations generalizing settings with
  | nil => rfl
  | cons operation operations ih => exact ih.trans (lexer_change operation)

end ViewSettings

namespace View

variable {α : Type} {view : View α}

/-- The settings of a view. -/
def settings (view : View α) : ViewSettings :=
  ⟨view.lexer, view.file, view.symbols, view.theme, view.tabStop⟩

/-! ### What settings do not depend on -/

theorem settings_select (range : TextRange) : (view.select range).settings = view.settings := rfl

theorem settings_emit (event : ViewEvent) : (view.emit event).settings = view.settings := rfl

theorem settings_activate (word : TextRange) : (view.activate word).settings = view.settings := by
  unfold activate
  dsimp only
  split
  · split
    · rw [settings_emit, settings_emit]
    · rw [settings_emit]
  · rw [settings_emit]

variable [Scalar α] (metrics : Metrics α) (point : Point α)

theorem settings_dropUnless : (view.dropUnless metrics point).settings = view.settings := by
  unfold dropUnless
  split_ifs
  · rfl
  · exact settings_select _

theorem settings_release : (view.release metrics point).settings = view.settings := by
  unfold release
  split_ifs
  · rfl
  · exact (settings_activate _).trans (settings_select _)
  · exact settings_select _

/-! ### What settings are -/

omit [Scalar α]

theorem displays_eq_true_iff {file : Option SourceFile} :
    view.displays file = true ↔ view.settings.file.map (·.serial) = file.map (·.serial) := by
  unfold displays settings
  cases view.file <;> cases file <;> simp [SourceFile.isSame]

theorem settings_display (file : Option SourceFile) :
    (view.display file).settings = view.settings.display file := by
  unfold display ViewSettings.display
  by_cases hsame : view.displays file = true
  · rw [if_pos hsame, if_pos (displays_eq_true_iff.1 hsame)]
  · rw [if_neg hsame, if_neg fun h => hsame (displays_eq_true_iff.2 h)]
    rfl

theorem settings_setTheme (theme : Theme) :
    (view.setTheme theme).settings = { view.settings with theme := theme } := by
  unfold setTheme
  split_ifs with hsame
  · subst hsame
    rfl
  · rfl

theorem settings_setTabStop (tabStop : Nat) :
    (view.setTabStop tabStop).settings = { view.settings with tabStop := max tabStop 1 } := by
  unfold setTabStop
  split_ifs with hsame
  · rw [hsame]
    rfl
  · rfl

/-! ### Runs -/

variable [Scalar α]

/-- An operation does to the settings of a view what it does to settings alone. -/
theorem settings_perform (operation : ViewOperation α) :
    (view.perform operation).settings = view.settings.change operation := by
  cases operation with
  | display file => exact settings_display file
  | setTheme theme => exact settings_setTheme theme
  | setSymbols symbols => rfl
  | setTabStop tabStop => exact settings_setTabStop tabStop
  | setMargins margins => rfl
  | select range => exact settings_select range
  | clearSelection => exact settings_select .none
  | press metrics point => exact settings_select _
  | move metrics point => exact settings_dropUnless metrics point
  | release metrics point => exact settings_release metrics point
  | openMenu metrics point history => exact settings_dropUnless metrics point
  | closeMenu => exact settings_select .none
  | pick action => exact settings_emit action.event
  | selectIdentifier metrics line column => rfl
  | takeScrollRequest => rfl
  | takeEvents => rfl

theorem settings_run (operations : List (ViewOperation α)) :
    (view.run operations).settings = view.settings.changeAll operations := by
  induction operations generalizing view with
  | nil => rfl
  | cons operation operations ih =>
    show ((view.perform operation).run operations).settings = _
    rw [ih, settings_perform]
    rfl

/-- **What a view keeps is never stale.** After every run of operations on a new view, the view has
the settings that the operations have left and the lexer that it was made with, its tab stops are
apart, and it keeps the colours and the width that these settings give, with a colour for each unit
of its file. Without a file it keeps no colours and no width. -/
theorem run_keeps_current (symbols : SymbolSource) (lexer : Lexer)
    (operations : List (ViewOperation α)) :
    let view : View α := (ofSource symbols lexer).run operations
    view.settings = (ViewSettings.initial symbols lexer).changeAll operations ∧
      view.lexer = lexer ∧ 1 ≤ view.tabStop ∧
      match view.file with
      | some file =>
        view.colors = .build file lexer view.symbols view.theme ∧
          view.maxColumns = file.maxExpandedColumns view.tabStop ∧
          view.colors.size = file.unitCount
      | none => view.colors = .empty ∧ view.maxColumns = 0 := by
  intro view
  have hcurrent : view.IsCurrent := isCurrent_of_run symbols lexer operations
  have hsettings : view.settings = (ViewSettings.initial symbols lexer).changeAll operations :=
    settings_run operations
  have hlexer : view.lexer = lexer :=
    (congrArg ViewSettings.lexer hsettings).trans (ViewSettings.lexer_changeAll operations)
  refine ⟨hsettings, hlexer, hcurrent.tabStop_pos, ?_⟩
  have hcolors := hcurrent.colors_eq
  have hcolumns := hcurrent.maxColumns_eq
  unfold currentColors at hcolors
  unfold currentColumns at hcolumns
  cases hfile : view.file with
  | none =>
    rw [hfile] at hcolors hcolumns
    exact ⟨hcolors, hcolumns⟩
  | some file =>
    rw [hfile] at hcolors hcolumns
    exact ⟨hlexer ▸ hcolors, hcolumns, hcurrent.size_colors hfile⟩

end View

end CodeBrowser
