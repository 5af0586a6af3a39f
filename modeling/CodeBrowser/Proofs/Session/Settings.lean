import CodeBrowser.Proofs.Preferences.Validity
import CodeBrowser.Proofs.Session.Stages

/-!
# The preferences of a session

The preferences that a session would store are its settings and the path of the index in use. They
change where the user asks for a theme, for a size of the font, for line numbers or for an index,
and nowhere else: files that are opened, steps through the history, and whatever happens to the view
leave them alone. What a run does to them is what the user has asked for in it.

A session starts with valid preferences, and each of them is kept as it is but one. The path of the
index is that of the index in use, so the stored path is forgotten if its index cannot be loaded.

## Main definitions

* `Wish`, `SessionStep.wish?`: what the user asks of the preferences, and with which step.
* `Preferences.grant`, `Preferences.after`, `Preferences.afterAll`: the preferences after that.

## Main results

* `Session.toPreferences_step`, `Session.toPreferences_run`: the preferences of a session are what
  the user has asked for.
* `Session.toPreferences_start`: the preferences of a session that has just started.
* `Session.toPreferences_of_untouched`: what remains of stored preferences that the user does not
  touch.
-/

namespace CodeBrowser

/-! ### What the user asks for -/

/-- What the user can ask of the preferences. -/
inductive Wish where
  | theme (choice : ThemeChoice)
  | fontSize (size : Float32)
  | numbers (shows : Bool)
  | index (path : Path)

/-- What the user asks for with a command. -/
def Command.wish? : Command → Option Wish
  | .setTheme choice => some (.theme choice)
  | .setFontSize size => some (.fontSize size)
  | .setShowsNumbers shows => some (.numbers shows)
  | _ => none

/-- What the user asks for with a step. -/
def SessionStep.wish? : SessionStep → Option Wish
  | .setTheme choice => some (.theme choice)
  | .setFontSize size => some (.fontSize size)
  | .setShowsNumbers shows => some (.numbers shows)
  | .loadIndex path => some (.index path)
  | .frame input => input.command?.bind (·.wish?)
  | _ => none

/-- Preferences write the name that a choice has been read from. -/
theorem ThemeChoice.name_ofName (name : String) : (ofName name).name = name := by
  unfold ofName
  split_ifs with h
  · exact h.symm
  · rfl

namespace Preferences

/-- The preferences after a wish. A theme that is not there gives way to the desktop's, and an index
has to be one that can be loaded. -/
def grant (p : Preferences) (disk : Disk) (desktop : Desktop) : Wish → Preferences
  | .theme choice => { p with themeName := (Session.themeFor p.themes choice desktop).1.name }
  | .fontSize size =>
    { p with fontSize := Scalar.clamp size Session.minFontSize Session.maxFontSize }
  | .numbers shows => { p with showLineNumbers := shows }
  | .index path =>
    if (SymbolIndex.load disk path).isOk then { p with lastIndexPath := path.text } else p

/-- The preferences after a step. -/
def after (p : Preferences) (around : Surroundings) (step : SessionStep) : Preferences :=
  step.wish?.elim p (p.grant around.disk around.desktop)

/-- The preferences after a run. -/
def afterAll (p : Preferences) (steps : List (Surroundings × SessionStep)) : Preferences :=
  steps.foldl (fun p step => p.after step.1 step.2) p

/-- A run in which nothing is asked of the preferences does nothing to them. -/
theorem afterAll_of_no_wish (p : Preferences) {steps : List (Surroundings × SessionStep)}
    (h : ∀ step ∈ steps, step.2.wish? = none) : p.afterAll steps = p := by
  refine List.foldlRecOn steps _ (motive := fun q => q = p) rfl fun q hq step hstep => ?_
  rw [hq, after, h step hstep, Option.elim_none]

end Preferences

namespace Session

variable (session : Session) (disk : Disk) (around : Surroundings)

/-! ### What leaves the preferences alone -/

/-- Whether a file is found or not, only the kept files change. -/
theorem exists_openFile_eq (path : Path) :
    ∃ result files, session.openFile disk path = (result, { session with files := files }) :=
  ⟨_, _, rfl⟩

theorem toPreferences_record (left : Option Visit) :
    (session.record left).toPreferences = session.toPreferences := by
  cases left <;> rfl

theorem toPreferences_showFile (path : Path) :
    (session.showFile disk path).2.toPreferences = session.toPreferences := by
  obtain ⟨result, files, hopen⟩ := session.exists_openFile_eq disk path
  rw [showFile, hopen]
  cases result <;> rfl

theorem toPreferences_openAndShow (path : Path) :
    (session.openAndShow disk path).toPreferences = session.toPreferences := by
  obtain ⟨result, files, hopen⟩ := session.exists_openFile_eq disk path
  rw [openAndShow, showFile, hopen]
  cases result with
  | error e => rfl
  | ok file => exact toPreferences_record _ session.currentVisit

theorem toPreferences_navigate (target : SymbolLocation) :
    (session.navigate around target).toPreferences = session.toPreferences := by
  obtain ⟨result, files, hopen⟩ := session.exists_openFile_eq around.disk target.path
  rw [navigate, hopen]
  cases result with
  | error e => rfl
  | ok file => exact toPreferences_record _ session.currentVisit

theorem toPreferences_stepTo (step : Option (Visit × History Visit)) :
    (session.stepTo disk step).toPreferences = session.toPreferences := by
  rcases step with _ | ⟨visit, history⟩
  · rfl
  · obtain ⟨result, files, hopen⟩ := session.exists_openFile_eq disk visit.path
    simp only [stepTo, restore, hopen]
    cases result <;> rfl

theorem toPreferences_goBack : (session.goBack disk).toPreferences = session.toPreferences :=
  session.toPreferences_stepTo disk _

theorem toPreferences_goForward : (session.goForward disk).toPreferences = session.toPreferences :=
  session.toPreferences_stepTo disk _

theorem toPreferences_handle (event : ViewEvent) :
    (session.handle around event).toPreferences = session.toPreferences := by
  cases event with
  | goBack => exact session.toPreferences_goBack around.disk
  | goForward => exact session.toPreferences_goForward around.disk
  | navigate target => exact session.toPreferences_navigate around target
  | copyPath =>
    obtain ⟨status, heq⟩ := session.exists_copyPath_eq around
    rw [handle, heq]
    rfl
  | reveal =>
    obtain ⟨status, heq⟩ := session.exists_reveal_eq around
    rw [handle, heq]
    rfl
  | _ => rfl

theorem toPreferences_obey (shortcut : Shortcut) :
    (session.obey disk shortcut).toPreferences = session.toPreferences := by
  cases shortcut with
  | back => exact session.toPreferences_goBack disk
  | forward => exact session.toPreferences_goForward disk
  | _ => rfl

/-- Changes that leave the preferences alone do so one after another. -/
theorem toPreferences_foldl {β : Type} {change : Session → β → Session}
    (h : ∀ session b, (change session b).toPreferences = session.toPreferences) (bs : List β)
    (session : Session) : (bs.foldl change session).toPreferences = session.toPreferences := by
  induction bs generalizing session with
  | nil => rfl
  | cons b bs ih => exact (ih (change session b)).trans (h session b)

theorem toPreferences_obeyKeys (keys : List KeyPress) :
    (session.obeyKeys disk keys).toPreferences = session.toPreferences := by
  unfold obeyKeys
  split_ifs
  · rfl
  · exact toPreferences_foldl (fun session => session.toPreferences_obey disk) _ session

theorem toPreferences_handleEvents :
    (session.handleEvents around).toPreferences = session.toPreferences :=
  toPreferences_foldl (fun session => session.toPreferences_handle around) _ session.withoutEvents

theorem toPreferences_obeyReport (command : Option Command) :
    (session.obeyReport around command).toPreferences = session.toPreferences := by
  unfold obeyReport
  split
  · exact session.closeReport.toPreferences_navigate around _
  · rfl
  · rfl

theorem toPreferences_selectPending (measurer : Measurer Float32) :
    (session.selectPending measurer).toPreferences = session.toPreferences := by
  unfold selectPending
  split <;> rfl

theorem toPreferences_showFirst (arguments : StartupArguments) :
    (session.showFirst disk arguments).toPreferences = session.toPreferences := by
  unfold showFirst
  split
  · rfl
  · rename_i path _
    obtain ⟨result, files, hopen⟩ := session.exists_openFile_eq disk path
    rw [showFile, hopen]
    cases result <;> rfl

/-! ### What changes the preferences -/

theorem toPreferences_loadIndexOrReport (desktop : Desktop) (path : Path) :
    (session.loadIndexOrReport disk path).toPreferences =
      session.toPreferences.grant disk desktop (.index path) := by
  simp only [loadIndexOrReport, loadIndex, Preferences.grant]
  cases SymbolIndex.load disk path <;> rfl

theorem toPreferences_obeyBar (command : Option Command) :
    (session.obeyBar around command).toPreferences =
      (command.bind (·.wish?)).elim session.toPreferences
        (session.toPreferences.grant around.disk around.desktop) := by
  rcases command with _ | command
  · rfl
  · cases command with
    | goBack => exact session.toPreferences_goBack around.disk
    | goForward => exact session.toPreferences_goForward around.disk
    | _ => rfl

/-- A frame changes the preferences by what is clicked in the menu bar. -/
theorem toPreferences_frame (input : FrameInput) :
    (session.frame around input).toPreferences =
      session.toPreferences.after around (.frame input) := by
  unfold frame
  dsimp only
  rw [toPreferences_obeyReport, toPreferences_handleEvents]
  refine (toPreferences_obeyBar _ around input.command?).trans ?_
  rw [toPreferences_obeyKeys, toPreferences_selectPending, Preferences.after, SessionStep.wish?]

/-- **A step changes the preferences by what the user asks for with it**, and by nothing else. -/
theorem toPreferences_step (step : SessionStep) :
    (session.step around step).toPreferences = session.toPreferences.after around step := by
  cases step with
  | showFile path => exact session.toPreferences_showFile around.disk path
  | openAndShow path => exact session.toPreferences_openAndShow around.disk path
  | navigate target => exact session.toPreferences_navigate around target
  | goBack => exact session.toPreferences_goBack around.disk
  | goForward => exact session.toPreferences_goForward around.disk
  | handle event => exact session.toPreferences_handle around event
  | loadIndex path =>
    exact session.toPreferences_loadIndexOrReport around.disk around.desktop path
  | frame input => exact session.toPreferences_frame around input
  | _ => rfl

/-- So does a run. -/
theorem toPreferences_run (steps : List (Surroundings × SessionStep)) :
    (session.run steps).toPreferences = session.toPreferences.afterAll steps := by
  induction steps generalizing session with
  | nil => rfl
  | cons entry steps ih =>
    obtain ⟨around, step⟩ := entry
    exact (ih (session.step around step)).trans
      (congrArg (Preferences.afterAll · steps) (session.toPreferences_step around step))

/-! ### From the start on -/

section Start

variable {p : Preferences} (preferencesPath : Path) (desktop : Desktop)

/-- Valid preferences are the settings of the session that begins with them. No index is in use. -/
theorem toPreferences_ofPreferences (h : p.IsValid) :
    (ofPreferences p preferencesPath desktop).toPreferences = { p with lastIndexPath := "" } := by
  obtain ⟨theme, hfind⟩ := h.exists_find?_resolve desktop
  have htheme : themeFor p.themes (.ofName p.themeName) desktop = (.ofName p.themeName, theme) := by
    rw [themeFor, hfind]
  unfold ofPreferences
  rw [htheme]
  show { p with themeName := (ThemeChoice.ofName p.themeName).name, lastIndexPath := "" } = _
  rw [ThemeChoice.name_ofName]

/-- A session starts with valid preferences as they are, but for the index: that is the one that
the user has asked for or else the stored one, and there is none if it cannot be loaded. -/
theorem toPreferences_start (h : p.IsValid) (arguments : StartupArguments) :
    (start disk p preferencesPath arguments desktop).toPreferences =
      ((arguments.index.or p.indexPath?).map Wish.index).elim { p with lastIndexPath := "" }
        ({ p with lastIndexPath := "" }.grant disk desktop) := by
  unfold start
  cases arguments.index.or p.indexPath? with
  | none =>
    refine (toPreferences_showFirst _ disk arguments).trans ?_
    exact toPreferences_ofPreferences preferencesPath desktop h
  | some path =>
    refine (toPreferences_showFirst _ disk arguments).trans ?_
    refine (toPreferences_loadIndexOrReport _ disk desktop path).trans ?_
    rw [toPreferences_ofPreferences preferencesPath desktop h]
    rfl

/-- The index that is stored is loaded at the start, unless nothing is stored or it cannot be
loaded. -/
theorem toPreferences_start_none (h : p.IsValid) :
    (start disk p preferencesPath .none desktop).toPreferences =
      { p with lastIndexPath :=
        if (SymbolIndex.load disk ⟨p.lastIndexPath⟩).isOk then p.lastIndexPath else "" } := by
  have hstart := toPreferences_start disk preferencesPath desktop h .none
  rw [show StartupArguments.none.index.or p.indexPath? = p.indexPath? from rfl,
    Preferences.indexPath?] at hstart
  rw [hstart]
  split_ifs with hempty hload hload
  · rw [String.isEmpty_iff.1 hempty]
    rfl
  · rfl
  · exact if_pos hload
  · exact if_neg hload

end Start

/-- **What remains of stored preferences that the user does not touch.** The user starts without
asking for anything, opens files, moves about in them, searches and clicks, but asks nothing of the
preferences. Then each of them is what it was, but for the path of the index: that remains if
and only if the index can be loaded at the start. -/
theorem toPreferences_of_untouched (stored disk : Disk) (preferencesPath : Path)
    (desktop : Desktop) (steps : List (Surroundings × SessionStep))
    (hsteps : ∀ step ∈ steps, step.2.wish? = none) :
    let p := (Preferences.load stored preferencesPath).1
    let session := (start disk p preferencesPath .none desktop).run steps
    let loads := (SymbolIndex.load disk ⟨p.lastIndexPath⟩).isOk = true
    session.toPreferences = { p with lastIndexPath := if loads then p.lastIndexPath else "" } ∧
      (session.toPreferences = p ↔ p.lastIndexPath = "" ∨ loads) := by
  intro p session loads
  have hsession : session.toPreferences =
      { p with lastIndexPath := if loads then p.lastIndexPath else "" } := by
    refine (toPreferences_run _ steps).trans ?_
    rw [Preferences.afterAll_of_no_wish _ hsteps]
    exact toPreferences_start_none disk preferencesPath desktop
      (Preferences.load_isValid stored preferencesPath)
  have hsame (path : String) : { p with lastIndexPath := path } = p ↔ path = p.lastIndexPath :=
    ⟨congrArg Preferences.lastIndexPath, fun h => by rw [h]⟩
  refine ⟨hsession, ?_⟩
  rw [hsession, hsame]
  by_cases hloads : loads
  · exact iff_of_true (if_pos hloads) (.inr hloads)
  · rw [if_neg hloads, or_iff_left hloads, eq_comm]

/-- The stored path of an index that is gone is lost, though the user has not touched it. -/
theorem toPreferences_start_gone :
    let text := "\x7b\"last_index_path\":\"/gone.json\"\x7d".toList
    let disk : Disk := .of [(["p.json"], .file (Utf8.encode text))] []
    let p := (Preferences.load disk ⟨"/p.json"⟩).1
    let session := start disk p ⟨"/p.json"⟩ .none
    p.lastIndexPath = "/gone.json" ∧ session.toPreferences.lastIndexPath = "" ∧
      session.toPreferences ≠ p := by
  intro text disk p session
  have hstored : p.lastIndexPath = "/gone.json" := by decide +kernel
  have hleft : session.toPreferences.lastIndexPath = "" := by decide +kernel
  refine ⟨hstored, hleft, fun h => ?_⟩
  rw [h, hstored] at hleft
  exact absurd hleft (by decide)

/-- The user opens a file, goes back, and lets a frame pass. The stored index is still there. -/
theorem toPreferences_of_untouched_opening :
    let text := "\x7b\"last_index_path\":\"/i.json\",\"font_size\":18\x7d".toList
    let index := "\x7b\"symbols\":[],\"refs\":[]\x7d".toList
    let disk : Disk := .of [(["p.json"], .file (Utf8.encode text)),
      (["i.json"], .file (Utf8.encode index)), (["a.c"], .file [])] []
    let p := (Preferences.load disk ⟨"/p.json"⟩).1
    let around : Surroundings := { Surroundings.withoutDesktop disk with desktop := .light }
    let steps : List (Surroundings × SessionStep) :=
      [(around, .openAndShow ⟨"/a.c"⟩), (around, .goBack), (around, .frame .idle)]
    (∀ step ∈ steps, step.2.wish? = none) ∧ p.lastIndexPath = "/i.json" ∧ p.fontSize = 18 ∧
      ((start disk p ⟨"/p.json"⟩ .none .light).run steps).toPreferences = p := by
  intro text index disk p around steps
  have hsteps : ∀ step ∈ steps, step.2.wish? = none := by
    simp only [steps, List.forall_mem_cons, List.not_mem_nil, false_imp_iff, forall_true_iff,
      and_true]
    exact ⟨rfl, rfl, rfl⟩
  have hstored : p.lastIndexPath = "/i.json" := by decide +kernel
  have hfont : p.fontSize = 18 := by decide +kernel
  have hloads : (SymbolIndex.load disk ⟨"/i.json"⟩).isOk = true := by decide +kernel
  obtain ⟨-, hkept⟩ := toPreferences_of_untouched disk disk ⟨"/p.json"⟩ .light steps hsteps
  exact ⟨hsteps, hstored, hfont, hkept.2 (.inr (hstored.symm ▸ hloads))⟩

end Session

end CodeBrowser
