import CodeBrowser.Proofs.Navigation.History
import CodeBrowser.Proofs.Widget.Scrolling
import CodeBrowser.Session.Start
import CodeBrowser.Session.Step

/-!
# The stages of a run

A frame does many things one after another, and the places that a user has been at are recorded in
the middle of it. So a run of a session is taken apart into stages, each of which opens one file,
takes one step through the history, or leaves the file on display, the history and the kept files
alone. What a stage preserves, a run preserves.

## Main definitions

* `Session.turn`, `Session.arrive`: a step through the history in one direction or the other, and
  where it ends.
* `Session.IsQuiet`: a change that has nothing to do with files and the history.
* `Stage`, `Session.perform`: a stage and what it does.
* `Session.stages`, `Session.runStages`: the stages of a step and of a run.

## Main results

* `Session.step_eq_performAll`, `Session.run_eq_performAll`: a step is all of its stages, and so is
  a run.
-/

namespace CodeBrowser

namespace Session

/-- Steps through the history in a direction. -/
def turn (session : Session) (disk : Disk) (turn : Turn) : Session :=
  session.stepTo disk (session.currentVisit.bind (session.history.turn? · turn))

/-- The session that has arrived at a place in a file, with the history around it. -/
def arrive (session : Session) (file : SourceFile) (visit : Visit) (history : History Visit) :
    Session :=
  { ((session.display file).mapWidget (·.scrollTo visit.origin)).say .quiet with
    history := history }

/-- A step arrives at the place that it leads to, if the file of the place is found. -/
theorem turn_eq_arrive {session opened : Session} {disk : Disk} {turn : Turn} {left visit : Visit}
    {history : History Visit} {file : SourceFile} (hleft : session.currentVisit = some left)
    (hturn : session.history.turn? left turn = some (visit, history))
    (hopen : session.openFile disk visit.path = (.ok file, opened)) :
    session.turn disk turn = opened.arrive file visit history := by
  simp only [Session.turn, hleft, Option.bind_some, hturn, stepTo, restore, hopen]
  rfl

/-! ### Messages -/

section Messages

variable (session : Session) (around : Surroundings)

/-- Copying the path of the file on display leaves a message, or none, and nothing else. -/
theorem exists_copyPath_eq : ∃ status, session.copyPath around = session.say status := by
  unfold copyPath
  split
  · split_ifs
    · exact ⟨_, rfl⟩
    · exact ⟨session.status, rfl⟩
  · exact ⟨session.status, rfl⟩

/-- So does showing where it is. -/
theorem exists_reveal_eq : ∃ status, session.reveal around = session.say status := by
  unfold reveal
  split
  · exact ⟨_, rfl⟩
  · exact ⟨session.status, rfl⟩

end Messages

/-! ### Quiet changes -/

/-- A change that leaves the file on display, the history and the kept files alone, and after which
the scroll offset is not negative if it was not before. -/
structure IsQuiet (change : Session → Session) : Prop where
  file (session : Session) : (change session).file = session.file
  history (session : Session) : (change session).history = session.history
  files (session : Session) : (change session).files = session.files
  scroll (session : Session) :
    session.widget.scroll.NotNegative → (change session).widget.scroll.NotNegative

variable (around : Surroundings)

/-- A change that leaves a message, or none, and nothing else is quiet. -/
theorem isQuiet_of_says {change : Session → Session}
    (h : ∀ session, ∃ status, change session = session.say status) : IsQuiet change := by
  constructor <;> intro session <;> obtain ⟨status, heq⟩ := h session <;> rw [heq]
  all_goals first | rfl | exact id

theorem isQuiet_id : IsQuiet id := isQuiet_of_says fun session => ⟨session.status, rfl⟩

theorem isQuiet_say (status : Status) : IsQuiet (·.say status) :=
  isQuiet_of_says fun _ => ⟨status, rfl⟩

theorem isQuiet_copyPath : IsQuiet (·.copyPath around) :=
  isQuiet_of_says fun session => session.exists_copyPath_eq around

theorem isQuiet_reveal : IsQuiet (·.reveal around) :=
  isQuiet_of_says fun session => session.exists_reveal_eq around

theorem isQuiet_closeReport : IsQuiet closeReport :=
  ⟨fun _ => rfl, fun _ => rfl, fun _ => rfl, fun _ => id⟩

theorem isQuiet_showReport (symbol : String) : IsQuiet (·.showReport symbol) :=
  ⟨fun _ => rfl, fun _ => rfl, fun _ => rfl, fun _ => id⟩

theorem isQuiet_pick (action : MenuAction) :
    IsQuiet (·.mapWidget fun widget => widget.mapView (·.pick action)) :=
  ⟨fun _ => rfl, fun _ => rfl, fun _ => rfl, fun _ => id⟩

theorem isQuiet_selectIdentifier (measurer : Measurer Float32) (line column : Nat) :
    IsQuiet (·.mapWidget (·.selectIdentifier measurer line column)) :=
  ⟨fun _ => rfl, fun _ => rfl, fun _ => rfl, fun _ => id⟩

theorem isQuiet_withoutEvents : IsQuiet withoutEvents :=
  ⟨fun _ => rfl, fun _ => rfl, fun _ => rfl, fun _ => id⟩

theorem isQuiet_scrollTo (point : Point Float32) : IsQuiet (·.mapWidget (·.scrollTo point)) :=
  ⟨fun _ => rfl, fun _ => rfl, fun _ => rfl, fun _ _ => Point.notNegative_nonneg point⟩

theorem isQuiet_scrollToTop : IsQuiet (·.mapWidget (·.scrollToTop)) :=
  ⟨fun _ => rfl, fun _ => rfl, fun _ => rfl, fun _ h => ⟨h.1, Point.zero_not_lt⟩⟩

theorem isQuiet_scrollToBottom : IsQuiet (·.mapWidget (·.scrollToBottom)) := by
  have hinfinity : ¬ (1 / 0 : Float32) < 0 := by decide +kernel
  exact ⟨fun _ => rfl, fun _ => rfl, fun _ => rfl, fun _ h => ⟨h.1, hinfinity⟩⟩

theorem isQuiet_setShowsNumbers (shows : Bool) : IsQuiet (·.setShowsNumbers shows) :=
  ⟨fun _ => rfl, fun _ => rfl, fun _ => rfl, fun _ => id⟩

theorem isQuiet_setTheme (choice : ThemeChoice) (desktop : Desktop) :
    IsQuiet (·.setTheme choice desktop) where
  file _ := congrArg ViewSettings.file (View.settings_setTheme _)
  history _ := rfl
  files _ := rfl
  scroll _ := id

theorem view_display (widget : Widget Float32) (file : Option SourceFile) :
    (widget.display file).view = widget.view.display file := by
  unfold Widget.display
  dsimp only
  split_ifs <;> rfl

/-- Neither the file on display nor the scroll offset depends on the size of the font. -/
theorem setFontSize_eq (widget : Widget Float32) (size : Float32) :
    (widget.setFontSize size).view = widget.view ∧
      (widget.setFontSize size).scroll = widget.scroll := by
  unfold Widget.setFontSize
  dsimp only
  split_ifs <;> exact ⟨rfl, rfl⟩

theorem isQuiet_setFontSize (size : Float32) : IsQuiet (·.setFontSize size) where
  file session := congrArg View.file (setFontSize_eq session.widget _).1
  history _ := rfl
  files _ := rfl
  scroll session h := (setFontSize_eq session.widget _).2 ▸ h

theorem isQuiet_loadIndexOrReport (disk : Disk) (path : Path) :
    IsQuiet (·.loadIndexOrReport disk path) := by
  unfold loadIndexOrReport loadIndex
  cases SymbolIndex.load disk path with
  | error e => exact isQuiet_say _
  | ok index => exact ⟨fun _ => rfl, fun _ => rfl, fun _ => rfl, fun _ => id⟩

theorem isQuiet_selectPending (measurer : Measurer Float32) :
    IsQuiet (·.selectPending measurer) := by
  constructor <;> intro session <;> unfold selectPending <;> cases session.pendingSelection
  all_goals first | rfl | exact id

theorem isQuiet_showWidget (input : FrameInput) : IsQuiet (·.showWidget around input) where
  file session := by
    refine (Widget.file_frame (session.widgetBefore input) ..).trans ?_
    unfold widgetBefore
    split_ifs <;> rfl
  history _ := rfl
  files _ := rfl
  scroll _ _ := Widget.notNegative_scroll_frame ..

end Session

/-! ### Stages -/

/-- A part of a step. -/
inductive Stage where
  | showFile (path : Path)
  | openAndShow (path : Path)
  | navigate (target : SymbolLocation)
  | turn (turn : Turn)
  | quiet (change : Session → Session) (h : Session.IsQuiet change)

namespace Stage

open Session

variable (around : Surroundings)

/-- The stage in which an event is handled. -/
def ofEvent : ViewEvent → Stage
  | .goBack => .turn .back
  | .goForward => .turn .forward
  | .copyPath => .quiet _ (isQuiet_copyPath around)
  | .reveal => .quiet _ (isQuiet_reveal around)
  | .crossReferences symbol => .quiet _ (isQuiet_showReport symbol)
  | .wordActivated word =>
    .quiet _ (isQuiet_say (if word.isEmpty then .quiet else .selected word.start))
  | .navigate target => .navigate target

/-- The stage in which a shortcut is obeyed. -/
def ofShortcut : Shortcut → Stage
  | .top => .quiet _ isQuiet_scrollToTop
  | .bottom => .quiet _ isQuiet_scrollToBottom
  | .back => .turn .back
  | .forward => .turn .forward

/-- The stage in which the menu bar is obeyed. -/
def ofBar : Option Command → Stage
  | some .goBack => .turn .back
  | some .goForward => .turn .forward
  | some .scrollToTop => .quiet _ isQuiet_scrollToTop
  | some .scrollToBottom => .quiet _ isQuiet_scrollToBottom
  | some (.setShowsNumbers shows) => .quiet _ (isQuiet_setShowsNumbers shows)
  | some (.setFontSize size) => .quiet _ (isQuiet_setFontSize size)
  | some (.setTheme choice) => .quiet _ (isQuiet_setTheme choice around.desktop)
  | _ => .quiet _ isQuiet_id

/-- The stages in which the report of references is obeyed. -/
def ofReport : Option Command → List Stage
  | some (.follow target) => [.quiet _ isQuiet_closeReport, .navigate target]
  | some .closeReport => [.quiet _ isQuiet_closeReport]
  | _ => []

end Stage

namespace Session

/-- The session after a stage in some surroundings. -/
def perform (session : Session) (around : Surroundings) : Stage → Session
  | .showFile path => (session.showFile around.disk path).2
  | .openAndShow path => session.openAndShow around.disk path
  | .navigate target => session.navigate around target
  | .turn turn => session.turn around.disk turn
  | .quiet change _ => change session

/-- The session after stages, each in the surroundings as they are at its time. -/
def performAll (session : Session) (stages : List (Surroundings × Stage)) : Session :=
  stages.foldl (fun session stage => session.perform stage.1 stage.2) session

theorem performAll_append (session : Session) (stages more : List (Surroundings × Stage)) :
    session.performAll (stages ++ more) = (session.performAll stages).performAll more :=
  List.foldl_append

/-- The stages that a list stands for, all in the same surroundings, are performed one after
another. -/
theorem performAll_map {β : Type} (around : Surroundings) (stage : β → Stage) (bs : List β)
    (session : Session) :
    session.performAll (bs.map fun b => (around, stage b)) =
      bs.foldl (fun session b => session.perform around (stage b)) session :=
  List.foldl_map

/-! ### The stages of a frame -/

theorem perform_ofEvent (session : Session) (around : Surroundings) (event : ViewEvent) :
    session.perform around (.ofEvent around event) = session.handle around event := by
  cases event <;> rfl

theorem perform_ofShortcut (session : Session) (around : Surroundings) (shortcut : Shortcut) :
    session.perform around (.ofShortcut shortcut) = session.obey around.disk shortcut := by
  cases shortcut <;> rfl

theorem perform_ofBar (session : Session) (around : Surroundings) (command : Option Command) :
    session.perform around (.ofBar around command) = session.obeyBar around command := by
  rcases command with _ | command
  · rfl
  · cases command <;> rfl

theorem performAll_ofReport (session : Session) (around : Surroundings) (command : Option Command) :
    session.performAll ((Stage.ofReport command).map fun stage => (around, stage)) =
      session.obeyReport around command := by
  rcases command with _ | command
  · rfl
  · cases command <;> rfl

/-- The stages in which the keyboard is obeyed. -/
def keyStages (session : Session) (keys : List KeyPress) : List Stage :=
  if session.widget.menu.isSome then [] else (Shortcut.inOrder keys).map .ofShortcut

theorem performAll_keyStages (session : Session) (around : Surroundings) (keys : List KeyPress) :
    session.performAll ((session.keyStages keys).map fun stage => (around, stage)) =
      session.obeyKeys around.disk keys := by
  unfold keyStages obeyKeys
  split_ifs
  · rfl
  · rw [List.map_map]
    refine (performAll_map around Stage.ofShortcut _ session).trans ?_
    simp only [perform_ofShortcut]

/-- The stages of a frame up to the frame of the widget. -/
def stagesBefore (session : Session) (around : Surroundings) (input : FrameInput) : List Stage :=
  .quiet _ (isQuiet_selectPending around.measurer)
      :: (session.selectPending around.measurer).keyStages input.keys
    ++ [.ofBar around input.command?, .quiet _ (isQuiet_showWidget around input)]

/-- The stages of a frame after the frame of the widget, which has left some events. -/
def stagesAfter (around : Surroundings) (input : FrameInput) (events : List ViewEvent) :
    List Stage :=
  .quiet _ isQuiet_withoutEvents :: events.map (.ofEvent around) ++ Stage.ofReport input.command?

/-- The session after the frame of the widget. -/
def shown (session : Session) (around : Surroundings) (input : FrameInput) : Session :=
  let selected := session.selectPending around.measurer
  ((selected.obeyKeys around.disk input.keys).obeyBar around input.command?).showWidget around input

theorem performAll_stagesBefore (session : Session) (around : Surroundings) (input : FrameInput) :
    session.performAll ((session.stagesBefore around input).map fun stage => (around, stage)) =
      session.shown around input := by
  rw [stagesBefore, List.map_append, performAll_append, List.map_cons]
  show performAll (performAll (session.selectPending around.measurer) _) _ = _
  rw [performAll_keyStages]
  show ((obeyKeys _ around.disk _).perform around (.ofBar around input.command?)).showWidget around
    input = _
  rw [perform_ofBar]
  rfl

theorem performAll_stagesAfter (session : Session) (around : Surroundings) (input : FrameInput) :
    session.performAll
        ((stagesAfter around input session.widget.view.events).map fun stage => (around, stage)) =
      (session.handleEvents around).obeyReport around input.command? := by
  rw [stagesAfter, List.map_append, performAll_append, performAll_ofReport, List.map_cons,
    List.map_map]
  refine congrArg (obeyReport · around input.command?) ?_
  refine (performAll_map around (Stage.ofEvent around) _ session.withoutEvents).trans ?_
  simp only [perform_ofEvent]
  rfl

/-! ### The stages of a run -/

/-- The stages of a step. -/
def stages (session : Session) (around : Surroundings) : SessionStep → List Stage
  | .showFile path => [.showFile path]
  | .openAndShow path => [.openAndShow path]
  | .navigate target => [.navigate target]
  | .goBack => [.turn .back]
  | .goForward => [.turn .forward]
  | .loadIndex path => [.quiet _ (isQuiet_loadIndexOrReport around.disk path)]
  | .handle event => [.ofEvent around event]
  | .pick action => [.quiet _ (isQuiet_pick action)]
  | .scrollTo point => [.quiet _ (isQuiet_scrollTo point)]
  | .setTheme choice => [.quiet _ (isQuiet_setTheme choice around.desktop)]
  | .setFontSize size => [.quiet _ (isQuiet_setFontSize size)]
  | .setShowsNumbers shows => [.quiet _ (isQuiet_setShowsNumbers shows)]
  | .showReport symbol => [.quiet _ (isQuiet_showReport symbol)]
  | .frame input =>
    session.stagesBefore around input
      ++ stagesAfter around input (session.shown around input).widget.view.events

/-- A step is all of its stages. -/
theorem step_eq_performAll (session : Session) (around : Surroundings) (step : SessionStep) :
    session.step around step =
      session.performAll ((session.stages around step).map fun stage => (around, stage)) := by
  cases step with
  | frame input =>
    rw [stages, List.map_append, performAll_append, performAll_stagesBefore,
      performAll_stagesAfter]
    rfl
  | handle event => exact (perform_ofEvent session around event).symm
  | _ => rfl

/-- The stages of a run of steps. -/
def runStages (session : Session) : List (Surroundings × SessionStep) → List (Surroundings × Stage)
  | [] => []
  | (around, step) :: steps =>
    (session.stages around step).map (fun stage => (around, stage))
      ++ (session.step around step).runStages steps

/-- A run is all of its stages. -/
theorem run_eq_performAll (session : Session) (steps : List (Surroundings × SessionStep)) :
    session.run steps = session.performAll (session.runStages steps) := by
  induction steps generalizing session with
  | nil => rfl
  | cons entry steps ih =>
    obtain ⟨around, step⟩ := entry
    rw [runStages, performAll_append, ← step_eq_performAll]
    exact ih (session.step around step)

/-- A stage of a run is performed in the surroundings of a step. -/
theorem exists_step_of_mem_runStages {session : Session} {steps : List (Surroundings × SessionStep)}
    {stage : Surroundings × Stage} (h : stage ∈ session.runStages steps) :
    ∃ step ∈ steps, stage.1 = step.1 := by
  induction steps generalizing session with
  | nil => exact absurd h List.not_mem_nil
  | cons step steps ih =>
    rcases List.mem_append.1 h with h | h
    · obtain ⟨_, -, rfl⟩ := List.mem_map.1 h
      exact ⟨step, List.mem_cons_self, rfl⟩
    · obtain ⟨later, hlater, heq⟩ := ih h
      exact ⟨later, List.mem_cons_of_mem _ hlater, heq⟩

end Session

end CodeBrowser
