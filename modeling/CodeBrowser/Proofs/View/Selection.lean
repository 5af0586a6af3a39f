import CodeBrowser.Proofs.Text.Words
import CodeBrowser.Proofs.View.Settings

/-!
# The selection of a view

Apart from a selection that the host makes by itself, an operation on a view leaves the selection as
it is, gives it up, or selects what it finds at a location of the file. Only another file on display
could turn a word into a range that is none, and whatever is selected is given up with its file. So
the selection is always a word of the file on display, if it is anything.

No metrics matter here: whatever location a point leads to, what is found there is a word.

## Main definitions

* `View.SelectsWord`: the selection is a word of the file on display, or nothing.

## Main results

* `View.selection_perform`: what an operation does to the selection.
* `View.selectsWord_perform`: an operation keeps the selection a word.
* `View.selectsWord_run`: the selection is a word after every run.
-/

namespace CodeBrowser

namespace View

variable {α : Type} {view : View α}

/-- Nothing is selected, or a word of the file on display. -/
def SelectsWord (view : View α) : Prop :=
  view.selection = .none ∨ ∃ file, view.file = some file ∧ file.IsWord view.selection

/-- What is found at a location of a view is a word of its file, if it is anything. -/
theorem wordAt_eq_none_or_isWord (view : View α) (loc : Location) :
    view.wordAt loc = .none ∨ ∃ file, view.file = some file ∧ file.IsWord (view.wordAt loc) := by
  unfold wordAt
  cases view.file with
  | none => exact Or.inl rfl
  | some file => exact (file.wordAt_eq_none_or_isWord loc).imp_right fun h => ⟨file, rfl, h⟩

theorem selection_emit (event : ViewEvent) : (view.emit event).selection = view.selection := rfl

theorem selection_activate (word : TextRange) :
    (view.activate word).selection = view.selection := by
  unfold activate
  dsimp only
  split
  · split
    · rw [selection_emit, selection_emit]
    · rw [selection_emit]
  · rw [selection_emit]

theorem selection_display (view : View α) (file : Option SourceFile) :
    view.display file = view ∨ (view.display file).selection = .none := by
  unfold display
  split_ifs
  · exact Or.inl rfl
  · exact Or.inr rfl

theorem selection_setTheme (theme : Theme) :
    (view.setTheme theme).selection = view.selection := by
  unfold setTheme
  split_ifs <;> rfl

theorem selection_setTabStop (tabStop : Nat) :
    (view.setTabStop tabStop).selection = view.selection := by
  unfold setTabStop
  split_ifs <;> rfl

variable [Scalar α]

/-- The word under a point is what is found at some location, or nothing. -/
theorem wordUnder_eq_none_or_wordAt (view : View α) (metrics : Metrics α) (point : Point α) :
    view.wordUnder metrics point = .none ∨
      ∃ loc, view.wordUnder metrics point = view.wordAt loc := by
  unfold wordUnder
  cases view.locationAt? metrics point with
  | none => exact Or.inl rfl
  | some loc => exact Or.inr ⟨loc, rfl⟩

theorem selection_dropUnless (view : View α) (metrics : Metrics α) (point : Point α) :
    (view.dropUnless metrics point).selection = view.selection ∨
      (view.dropUnless metrics point).selection = .none := by
  unfold dropUnless
  split_ifs
  · exact Or.inl rfl
  · exact Or.inr rfl

theorem selection_release (view : View α) (metrics : Metrics α) (point : Point α) :
    (view.release metrics point).selection = view.selection ∨
      (view.release metrics point).selection = .none := by
  unfold release
  split_ifs
  · exact Or.inl rfl
  · exact Or.inr (selection_activate _)
  · exact Or.inr rfl

/-- An operation on a view gives the selection up, or the file stays on display and the selection
stays as it is or becomes what is found at some location. -/
theorem selection_perform (view : View α) (operation : ViewOperation α)
    (h : ∀ range, operation ≠ .select range) :
    (view.perform operation).selection = .none ∨
      (view.perform operation).file = view.file ∧
        ((view.perform operation).selection = view.selection ∨
          ∃ loc, (view.perform operation).selection = view.wordAt loc) := by
  have hsettings : (view.perform operation).settings = view.settings.change operation :=
    settings_perform operation
  have hfile := congrArg ViewSettings.file hsettings
  cases operation with
  | display file =>
    rcases view.selection_display file with hsame | hnone
    · exact Or.inr ⟨congrArg View.file hsame, Or.inl (congrArg View.selection hsame)⟩
    · exact Or.inl hnone
  | select range => exact absurd rfl (h range)
  | setTheme theme => exact Or.inr ⟨hfile, Or.inl (selection_setTheme theme)⟩
  | setSymbols symbols => exact Or.inr ⟨rfl, Or.inl rfl⟩
  | setTabStop tabStop => exact Or.inr ⟨hfile, Or.inl (selection_setTabStop tabStop)⟩
  | setMargins margins => exact Or.inr ⟨rfl, Or.inl rfl⟩
  | clearSelection => exact Or.inl rfl
  | press metrics point =>
    rcases view.wordUnder_eq_none_or_wordAt metrics point with hnone | hword
    · exact Or.inl hnone
    · exact Or.inr ⟨rfl, Or.inr hword⟩
  | move metrics point =>
    rcases view.selection_dropUnless metrics point with hsame | hnone
    · exact Or.inr ⟨hfile, Or.inl hsame⟩
    · exact Or.inl hnone
  | release metrics point =>
    rcases view.selection_release metrics point with hsame | hnone
    · exact Or.inr ⟨hfile, Or.inl hsame⟩
    · exact Or.inl hnone
  | openMenu metrics point history =>
    rcases view.selection_dropUnless metrics point with hsame | hnone
    · exact Or.inr ⟨hfile, Or.inl hsame⟩
    · exact Or.inl hnone
  | closeMenu => exact Or.inl rfl
  | pick action => exact Or.inr ⟨rfl, Or.inl rfl⟩
  | selectIdentifier metrics line column => exact Or.inr ⟨rfl, Or.inr ⟨_, rfl⟩⟩
  | takeScrollRequest => exact Or.inr ⟨rfl, Or.inl rfl⟩
  | takeEvents => exact Or.inr ⟨rfl, Or.inl rfl⟩

theorem selectsWord_ofSource (symbols : SymbolSource) (lexer : Lexer) :
    (ofSource symbols lexer : View α).SelectsWord :=
  Or.inl rfl

/-- An operation keeps the selection a word of the file on display. -/
theorem selectsWord_perform (hview : view.SelectsWord) (operation : ViewOperation α)
    (h : ∀ range, operation ≠ .select range) : (view.perform operation).SelectsWord := by
  unfold SelectsWord
  rcases view.selection_perform operation h with
    hnone | ⟨hfile, hselection | ⟨loc, hselection⟩⟩
  · exact Or.inl hnone
  · rw [hfile, hselection]
    exact hview
  · rw [hfile, hselection]
    exact view.wordAt_eq_none_or_isWord loc

/-- **The selection is always a word of the file on display**, if it is anything. This holds after
every run of operations on a new view among which the host selects no range by itself, wherever the
pointer goes and whatever the metrics are at each operation. -/
theorem selectsWord_run (symbols : SymbolSource) (lexer : Lexer)
    (operations : List (ViewOperation α)) (h : ∀ range, .select range ∉ operations) :
    let view : View α := (ofSource symbols lexer).run operations
    view.selection = .none ∨
      ∃ file, view.file = some file ∧ file.wordAt view.selection.start = view.selection ∧
        file.IsWord view.selection := by
  have hrun : ((ofSource symbols lexer : View α).run operations).SelectsWord :=
    List.foldlRecOn operations perform (selectsWord_ofSource symbols lexer)
      fun view hview operation hmem =>
        selectsWord_perform hview operation fun range heq => h range (heq ▸ hmem)
  refine hrun.imp_right fun ⟨file, hfile, hword⟩ => ⟨file, hfile, ?_, hword⟩
  exact hword.wordAt_eq _ (Nat.le_refl _) hword.column_lt

/-- A press selects the word under the pointer, and another file gives it up. A surrogate pair of
the other file is then selected whole from its second half. -/
theorem selectsWord_run_other_file :
    let first : SourceFile := .ofText none ['a', 'b', ' ', 'c']
    let second : SourceFile := .ofText none ['a', '😀', 'b'] .utf8 1
    let metrics : Metrics Rat := ⟨fun _ => 10, 20, 0⟩
    let operations : List (ViewOperation Rat) :=
      [.display (some first), .press metrics ⟨5, 10⟩, .move metrics ⟨15, 10⟩,
        .display (some second), .selectIdentifier metrics 1 3]
    let view : View Rat := (ofSource .empty .plain).run operations
    (∀ range, .select range ∉ operations) ∧ view.selection = .onLine 0 1 3 ∧
      ∃ file, view.file = some file ∧ file.wordAt view.selection.start = view.selection ∧
        file.IsWord view.selection := by
  intro first second metrics operations view
  have hselect : ∀ range, .select range ∉ operations := by simp [operations]
  have hselection : view.selection = .onLine 0 1 3 := by decide +kernel
  have hne : view.selection ≠ .none := by rw [hselection]; decide
  exact ⟨hselect, hselection,
    (selectsWord_run .empty .plain operations hselect).resolve_left hne⟩

end View

end CodeBrowser
