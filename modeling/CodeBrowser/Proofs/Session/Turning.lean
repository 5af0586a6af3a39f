import CodeBrowser.Proofs.Session.FileCache
import CodeBrowser.Proofs.Session.Stages
import Mathlib.Data.List.Induction

/-!
# Going back to where one was

Wherever the user has been, the file that was on display there is kept by its path, and it is kept
for good, whatever happens on disk, in the window or on the desktop. The disk may be another one at
every step. As long as the disks have settled what files are read under, a step through the history
finds the file that was left, the very opening of it; it cannot fail, and a step in the other
direction leads back to where one was.

## Main definitions

* `Session.Sound`: the files of the places in the history, and the one on display, are kept.
* `Session.Follows`: what a stage can do to files and places.
* `Session.Passed`: a file was on display at a place in the course of some stages.

## Main results

* `Session.follows_perform`: every stage keeps a session sound, gives up no kept file and records no
  other place than the current one.
* `Session.Sound.turn_eq`: a step through the history is the same on all disks that have settled what
  files are read under.
* `Session.Sound.turn_opposite`: a step in the other direction leads back.
* `Session.turn_of_run`: what a step through the history does after a run.
-/

namespace CodeBrowser

namespace Session

/-- Every place in the history is in a kept file, and so is the current one. -/
structure Sound (session : Session) (disks : Set Disk) : Prop where
  files : session.files.Sound disks
  shown : ∀ file, session.file = some file → ∃ path, session.files.Keeps path file
  places : ∀ visit ∈ session.history.places, ∃ file, session.files.Keeps visit.path file
  origins : ∀ visit ∈ session.history.places, visit.origin.NotNegative
  scroll : session.widget.scroll.NotNegative

/-- A sound session comes after another one: no kept file has been given up, and no place has been
recorded but the one that was left. -/
structure Follows (session next : Session) (disks : Set Disk) : Prop where
  sound : next.Sound disks
  grows : session.files.Grows next.files
  places : ∀ visit ∈ next.history.places,
    visit ∈ session.history.places ∨ session.currentVisit = some visit

variable {session : Session} {disks : Set Disk} {disk : Disk} {around : Surroundings} {path : Path}
  {file : SourceFile}

theorem Sound.follows_self (h : session.Sound disks) : session.Follows session disks :=
  ⟨h, .refl _, fun _ => .inl⟩

/-- The current place of a sound session is in the file on display, which is kept. -/
theorem Sound.exists_keeps_of_currentVisit (h : session.Sound disks) {visit : Visit}
    (hvisit : session.currentVisit = some visit) :
    ∃ file, session.file = some file ∧ session.files.Keeps visit.path file ∧
      visit.origin = session.widget.scroll := by
  obtain ⟨path, hpath, rfl⟩ := Option.map_eq_some_iff.1 hvisit
  obtain ⟨file, hfile, hpath⟩ := Option.bind_eq_some_iff.1 hpath
  obtain ⟨key, hkeeps⟩ := h.shown file hfile
  obtain rfl : key = path := Option.some.inj (hkeeps.path_eq.symm.trans hpath)
  exact ⟨file, hfile, hkeeps, rfl⟩

/-- With a kept file on display there is a current place. -/
theorem currentVisit_of_file (hfile : session.file = some file)
    (hkeeps : session.files.Keeps path file) :
    session.currentVisit = some ⟨path, session.widget.scroll⟩ := by
  rw [currentVisit, displayedPath?, hfile, Option.bind_some, hkeeps.path_eq]
  rfl

/-! ### What the operations are made of -/

/-- Looking for a file, with or without success, only adds to the kept files. -/
theorem Sound.follows_openFile (h : session.Sound disks) (hdisk : disk ∈ disks) (path : Path) :
    session.Follows (session.openFile disk path).2 disks := by
  have hgrows := session.files.grows_openFile disk path
  refine ⟨⟨FileCache.sound_openFile h.files hdisk path, fun file hfile => ?_,
    fun visit hvisit => ?_, h.origins, h.scroll⟩, hgrows, fun _ => .inl⟩
  · obtain ⟨key, hkeeps⟩ := h.shown file hfile
    exact ⟨key, hgrows _ _ hkeeps⟩
  · obtain ⟨file, hkeeps⟩ := h.places visit hvisit
    exact ⟨file, hgrows _ _ hkeeps⟩

/-- A file that has been found is kept. -/
theorem Sound.exists_keeps_of_openFile (h : session.Sound disks)
    (hopen : (session.openFile disk path).1 = .ok file) :
    ∃ key, (session.openFile disk path).2.files.Keeps key file :=
  FileCache.exists_keeps_of_openFile h.files hopen

theorem notNegative_scroll_display {widget : Widget Float32} (h : widget.scroll.NotNegative)
    (file : Option SourceFile) : (widget.display file).scroll.NotNegative := by
  unfold Widget.display
  dsimp only
  split_ifs
  · exact h
  · exact ⟨h.1, Point.zero_not_lt⟩

/-- A kept file that is put on display is on display: if the file that was there before is of the
same opening, it is the same file. -/
theorem Sound.file_display (h : session.Sound disks) (hkeeps : session.files.Keeps path file) :
    (session.display file).file = some file := by
  show (session.widget.display (some file)).view.file = some file
  rw [view_display, View.display]
  split_ifs with hsame
  · obtain ⟨shown, hshown, hserial⟩ :=
      Option.map_eq_some_iff.1 (View.displays_eq_true_iff.1 hsame)
    obtain ⟨key, hkept⟩ := h.shown shown hshown
    rw [← h.files.eq_of_serial_eq hkept hkeeps hserial]
    exact hshown
  · rfl

theorem Sound.display (h : session.Sound disks) (hkeeps : session.files.Keeps path file) :
    (session.display file).Sound disks where
  files := h.files
  shown shown hshown := by
    obtain rfl := Option.some.inj ((h.file_display hkeeps).symm.trans hshown)
    exact ⟨path, hkeeps⟩
  places := h.places
  origins := h.origins
  scroll := notNegative_scroll_display h.scroll (some file)

theorem Sound.say (h : session.Sound disks) (status : Status) : (session.say status).Sound disks :=
  ⟨h.files, h.shown, h.places, h.origins, h.scroll⟩

/-- A place in a kept file can be recorded. -/
theorem Sound.record (h : session.Sound disks) {left : Option Visit}
    (hkept : ∀ visit ∈ left, ∃ file, session.files.Keeps visit.path file)
    (horigin : ∀ visit ∈ left, visit.origin.NotNegative) : (session.record left).Sound disks := by
  cases left with
  | none => exact h
  | some left =>
    refine ⟨h.files, h.shown, fun visit hvisit => ?_, fun visit hvisit => ?_, h.scroll⟩
    · rcases History.mem_places_of_push hvisit with rfl | hvisit
      · exact hkept visit rfl
      · exact h.places visit hvisit
    · rcases History.mem_places_of_push hvisit with rfl | hvisit
      · exact horigin visit rfl
      · exact h.origins visit hvisit

theorem mem_places_of_record {left : Option Visit} {visit : Visit}
    (h : visit ∈ (session.record left).history.places) :
    visit ∈ session.history.places ∨ left = some visit := by
  cases left with
  | none => exact .inl h
  | some left =>
    rcases History.mem_places_of_push h with rfl | h
    · exact .inr rfl
    · exact .inl h

theorem files_record (session : Session) (left : Option Visit) :
    (session.record left).files = session.files := by
  cases left <;> rfl

/-- The current place can be recorded as long as its file is kept. -/
theorem Sound.record_currentVisit {next : Session} (hnext : next.Sound disks)
    (h : session.Sound disks) (hgrows : session.files.Grows next.files) :
    (next.record session.currentVisit).Sound disks := by
  refine hnext.record (fun visit hvisit => ?_) (fun visit hvisit => ?_)
  · obtain ⟨file, -, hkeeps, -⟩ := h.exists_keeps_of_currentVisit hvisit
    exact ⟨file, hgrows _ _ hkeeps⟩
  · obtain ⟨-, -, -, horigin⟩ := h.exists_keeps_of_currentVisit hvisit
    exact horigin ▸ h.scroll

/-- A quiet change keeps a session sound. -/
theorem Sound.quiet (h : session.Sound disks) {change : Session → Session}
    (hquiet : IsQuiet change) : (change session).Sound disks where
  files := hquiet.files session ▸ h.files
  shown file hfile := hquiet.files session ▸ h.shown file (hquiet.file session ▸ hfile)
  places visit hvisit := hquiet.files session ▸ h.places visit (hquiet.history session ▸ hvisit)
  origins visit hvisit := h.origins visit (hquiet.history session ▸ hvisit)
  scroll := hquiet.scroll session h.scroll

/-! ### The stages -/

/-- Showing a file records nothing. -/
theorem Sound.follows_showFile (h : session.Sound disks) (hdisk : disk ∈ disks) (path : Path) :
    session.Follows (session.showFile disk path).2 disks := by
  have hopened := h.follows_openFile hdisk path
  unfold showFile
  split
  · rename_i file opened heq
    rw [heq] at hopened
    obtain ⟨key, hkeeps⟩ := heq ▸ h.exists_keeps_of_openFile (congrArg Prod.fst heq)
    exact ⟨hopened.sound.display hkeeps, hopened.grows, hopened.places⟩
  · rename_i e opened heq
    rw [heq] at hopened
    exact hopened

/-- Opening a file records the place that is left. -/
theorem Sound.follows_openAndShow (h : session.Sound disks) (hdisk : disk ∈ disks) (path : Path) :
    session.Follows (session.openAndShow disk path) disks := by
  have hshown := h.follows_showFile hdisk path
  unfold openAndShow
  dsimp only
  split
  · rename_i shown heq
    rw [heq] at hshown
    refine ⟨(hshown.sound.record_currentVisit h hshown.grows).say _, ?_, fun visit hvisit => ?_⟩
    · exact (files_record shown _).symm ▸ hshown.grows
    · exact (mem_places_of_record hvisit).elim (hshown.places visit) .inr
  · rename_i e shown heq
    rw [heq] at hshown
    exact ⟨hshown.sound.say _, hshown.grows, hshown.places⟩

/-- Going to a symbol records the place that is left. -/
theorem Sound.follows_navigate (h : session.Sound disks) (haround : around.disk ∈ disks)
    (target : SymbolLocation) : session.Follows (session.navigate around target) disks := by
  have hopened := h.follows_openFile haround target.path
  unfold navigate
  split
  · rename_i file opened heq
    have hcurrent : opened.currentVisit = session.currentVisit :=
      congrArg (fun result => result.2.currentVisit) heq.symm
    rw [heq] at hopened
    obtain ⟨key, hkeeps⟩ := heq ▸ h.exists_keeps_of_openFile (congrArg Prod.fst heq)
    rw [← files_record opened opened.currentVisit] at hkeeps
    have hrecorded := hopened.sound.record_currentVisit hopened.sound (.refl _)
    have hselected := (hrecorded.display hkeeps).quiet
      (isQuiet_selectIdentifier around.measurer target.line target.column)
    refine ⟨hselected.say _, ?_, fun visit hvisit => ?_⟩
    · exact (files_record opened _).symm ▸ hopened.grows
    · exact (mem_places_of_record hvisit).elim (hopened.places visit) fun hleft =>
        .inr (hcurrent.symm.trans hleft)
  · rename_i e opened heq
    rw [heq] at hopened
    exact ⟨hopened.sound.say _, hopened.grows, hopened.places⟩

/-- A step through the history leaves a sound session, whatever file it has found. -/
theorem Sound.arrive (h : session.Sound disks) {turn : Turn} {left visit : Visit}
    {history : History Visit} (hleft : session.currentVisit = some left)
    (hturn : session.history.turn? left turn = some (visit, history))
    (hkeeps : session.files.Keeps path file) :
    (session.arrive file visit history).Sound disks := by
  have hplaces := (History.mem_places_of_turn? hturn).2
  obtain ⟨shown, -, hshown, horigin⟩ := h.exists_keeps_of_currentVisit hleft
  have hdisplay := h.display hkeeps
  refine ⟨h.files, hdisplay.shown, fun place hplace => ?_, fun place hplace => ?_,
    Point.notNegative_nonneg _⟩
  · rcases hplaces place hplace with rfl | hplace
    · exact ⟨shown, hshown⟩
    · exact h.places place hplace
  · rcases hplaces place hplace with rfl | hplace
    · exact horigin ▸ h.scroll
    · exact h.origins place hplace

/-- A step through the history records the place that is left. -/
theorem Sound.follows_turn (h : session.Sound disks) (hdisk : disk ∈ disks) (turn : Turn) :
    session.Follows (session.turn disk turn) disks := by
  cases hleft : session.currentVisit with
  | none =>
    rw [Session.turn, hleft]
    exact h.follows_self
  | some left =>
    cases hturn : session.history.turn? left turn with
    | none =>
      rw [Session.turn, hleft, Option.bind_some, hturn]
      exact h.follows_self
    | some target =>
      obtain ⟨visit, history⟩ := target
      have hopened := h.follows_openFile hdisk visit.path
      cases hfound : session.files.openFile disk visit.path with
      | mk result files =>
        have hopen : session.openFile disk visit.path = (result, { session with files := files }) := by
          rw [openFile, hfound]
        rw [hopen] at hopened
        cases result with
        | error e =>
          have hfailed : session.turn disk turn =
              ({ session with files := files } : Session).say (.reopenFailed e) := by
            simp only [Session.turn, hleft, Option.bind_some, hturn, stepTo, restore, hopen]
          rw [hfailed]
          exact ⟨hopened.sound.say _, hopened.grows, fun _ => .inl⟩
        | ok file =>
          obtain ⟨key, hkeeps⟩ := h.exists_keeps_of_openFile (congrArg Prod.fst hopen)
          rw [hopen] at hkeeps
          rw [turn_eq_arrive hleft hturn hopen]
          refine ⟨hopened.sound.arrive hleft hturn hkeeps, hopened.grows, fun place hplace => ?_⟩
          rcases (History.mem_places_of_turn? hturn).2 place hplace with rfl | hplace
          · exact .inr hleft
          · exact .inl hplace

/-- **What a stage does.** It keeps a sound session sound, gives up no kept file, and the only place
that it may add to the history is the one that was current before it. -/
theorem follows_perform (h : session.Sound disks) (haround : around.disk ∈ disks)
    (stage : Stage) :
    session.Follows (session.perform around stage) disks := by
  cases stage with
  | showFile path => exact h.follows_showFile haround path
  | openAndShow path => exact h.follows_openAndShow haround path
  | navigate target => exact h.follows_navigate haround target
  | turn turn => exact h.follows_turn haround turn
  | quiet change hquiet =>
    exact ⟨h.quiet hquiet, hquiet.files session ▸ .refl _,
      fun visit hvisit => .inl (hquiet.history session ▸ hvisit)⟩

/-! ### Runs -/

section Runs

variable {start : Session} (h : start.Sound disks)
include h

/-- A sound session stays sound. -/
theorem sound_performAll {stages : List (Surroundings × Stage)}
    (hstages : ∀ stage ∈ stages, stage.1.disk ∈ disks) : (start.performAll stages).Sound disks :=
  List.foldlRecOn (motive := fun session : Session => session.Sound disks) stages _ h
    fun _ hsound stage hstage =>
      (follows_perform hsound (hstages stage hstage) stage.2).sound

/-- What is kept is kept for good. -/
theorem grows_performAll {stages : List (Surroundings × Stage)}
    (hstages : ∀ stage ∈ stages, stage.1.disk ∈ disks) :
    start.files.Grows (start.performAll stages).files := by
  induction stages generalizing start with
  | nil => exact .refl _
  | cons stage stages ih =>
    obtain ⟨hstage, hstages⟩ := List.forall_mem_cons.1 hstages
    have hfollows := follows_perform h hstage stage.2
    exact hfollows.grows.trans (ih hfollows.sound hstages)

end Runs

variable {start : Session}

/-- In the course of some stages, between one of them and the next, a place was the current one and
a file was on display there. -/
def Passed (start : Session) (stages : List (Surroundings × Stage)) (visit : Visit) (file : SourceFile) :
    Prop :=
  ∃ before after, stages = before ++ after ∧
    (start.performAll before).currentVisit = some visit ∧ (start.performAll before).file = some file

theorem Passed.append {stages : List (Surroundings × Stage)} {visit : Visit}
    (h : start.Passed stages visit file) (more : List (Surroundings × Stage)) :
    start.Passed (stages ++ more) visit file := by
  obtain ⟨before, after, rfl, hvisit, hfile⟩ := h
  exact ⟨before, after ++ more, List.append_assoc .., hvisit, hfile⟩

/-- A file that was on display at a place is kept by the path of the place. -/
theorem Passed.keeps (h : start.Sound disks) {stages : List (Surroundings × Stage)}
    (hstages : ∀ stage ∈ stages, stage.1.disk ∈ disks) {visit : Visit}
    (hpassed : start.Passed stages visit file) :
    (start.performAll stages).files.Keeps visit.path file := by
  obtain ⟨before, after, rfl, hvisit, hfile⟩ := hpassed
  obtain ⟨hbefore, hafter⟩ := List.forall_mem_append.1 hstages
  have hsound := sound_performAll h hbefore
  obtain ⟨shown, hshown, hkeeps, -⟩ := hsound.exists_keeps_of_currentVisit hvisit
  obtain rfl := Option.some.inj (hshown.symm.trans hfile)
  rw [performAll_append]
  exact grows_performAll hsound hafter _ _ hkeeps

/-- Every place in the history has been passed, if the history was empty at first. -/
theorem exists_passed (h : start.Sound disks) (hempty : start.history.places = [])
    {stages : List (Surroundings × Stage)}
    (hstages : ∀ stage ∈ stages, stage.1.disk ∈ disks) :
    ∀ visit ∈ (start.performAll stages).history.places, ∃ file, start.Passed stages visit file := by
  induction stages using List.reverseRecOn with
  | nil =>
    intro visit hvisit
    exact absurd (hempty ▸ hvisit) List.not_mem_nil
  | append_singleton stages stage ih =>
    intro visit hvisit
    obtain ⟨hstages, hstage⟩ := List.forall_mem_append.1 hstages
    have hsound := sound_performAll h hstages
    have hfollows := follows_perform hsound (hstage stage List.mem_cons_self) stage.2
    rw [performAll_append] at hvisit
    rcases hfollows.places visit hvisit with hvisit | hvisit
    · obtain ⟨file, hpassed⟩ := ih hstages visit hvisit
      exact ⟨file, hpassed.append [stage]⟩
    · obtain ⟨file, hfile, -⟩ := hsound.exists_keeps_of_currentVisit hvisit
      exact ⟨file, stages, [stage], rfl, hvisit, hfile⟩

/-! ### From the start -/

theorem file_startWidget (settings : Preferences) (theme : Theme) :
    (startWidget settings theme).view.file = none := by
  unfold startWidget
  refine (congrArg ViewSettings.file (View.settings_setTabStop _)).trans ?_
  show (Widget.setFontSize _ _).view.file = none
  rw [(setFontSize_eq _ _).1]
  exact congrArg ViewSettings.file (View.settings_setTheme theme)

theorem scroll_startWidget (settings : Preferences) (theme : Theme) :
    (startWidget settings theme).scroll = .origin := by
  show (Widget.setFontSize _ _).scroll = .origin
  exact (setFontSize_eq _ _).2

/-- A session in which nothing has been asked for shows nothing and remembers nothing. -/
theorem sound_ofPreferences (preferences : Preferences) (preferencesPath : Path) :
    (ofPreferences preferences preferencesPath).Sound disks ∧
      (ofPreferences preferences preferencesPath).history.places = [] := by
  unfold ofPreferences
  obtain ⟨choice, theme⟩ := themeFor preferences.themes (.ofName preferences.themeName)
  refine ⟨⟨FileCache.sound_empty, fun file hfile => ?_, fun _ hvisit => ?_, fun _ hvisit => ?_,
    ?_⟩, rfl⟩
  · exact absurd ((file_startWidget preferences theme).symm.trans hfile) (by simp)
  · exact absurd hvisit List.not_mem_nil
  · exact absurd hvisit List.not_mem_nil
  · exact (scroll_startWidget preferences theme).symm ▸ Point.notNegative_origin

theorem history_showFile (session : Session) (disk : Disk) (path : Path) :
    (session.showFile disk path).2.history = session.history := by
  unfold showFile
  split
  · rename_i heq
    exact congrArg (fun result => result.2.history) heq.symm
  · rename_i heq
    exact congrArg (fun result => result.2.history) heq.symm

/-- Showing the first file leaves a session sound, and its history as it is. -/
theorem sound_showFirst (h : session.Sound disks) (hdisk : disk ∈ disks)
    (arguments : StartupArguments) :
    (session.showFirst disk arguments).Sound disks ∧
      (session.showFirst disk arguments).history = session.history := by
  unfold showFirst
  split
  · exact ⟨h, rfl⟩
  · rename_i path _
    have hshown := (h.follows_showFile hdisk path).sound
    have hhistory := history_showFile session disk path
    split
    · rename_i heq
      rw [heq] at hshown hhistory
      exact ⟨⟨hshown.files, hshown.shown, hshown.places, hshown.origins, hshown.scroll⟩, hhistory⟩
    · rename_i heq
      rw [heq] at hshown hhistory
      exact ⟨hshown.say _, hhistory⟩

/-- The session that the program starts with is sound and has an empty history. -/
theorem sound_start (hdisk : disk ∈ disks) (preferences : Preferences) (preferencesPath : Path)
    (arguments : StartupArguments) :
    (Session.start disk preferences preferencesPath arguments).Sound disks ∧
      (Session.start disk preferences preferencesPath arguments).history.places = [] := by
  obtain ⟨hsound, hempty⟩ := sound_ofPreferences preferences preferencesPath
  unfold Session.start
  dsimp only
  split
  · rename_i path _
    have hquiet := isQuiet_loadIndexOrReport disk path
    have hfirst := sound_showFirst (hsound.quiet hquiet) hdisk arguments
    exact ⟨hfirst.1, by rw [hfirst.2, hquiet.history, hempty]⟩
  · have hfirst := sound_showFirst hsound hdisk arguments
    exact ⟨hfirst.1, by rw [hfirst.2, hempty]⟩

/-! ### Turning after a run -/

/-- A step through the history arrives at the nearest place that lies ahead, in the file that is
kept by its path, and does not depend on what is on disk. -/
theorem Sound.turn_eq (h : session.Sound disks) (hdisks : Disk.Settled disks) {turn : Turn}
    {left visit : Visit} {rest : List Visit} (hleft : session.currentVisit = some left)
    (hahead : session.history.ahead turn = visit :: rest) :
    ∃ file history, session.files.Keeps visit.path file ∧
      session.history.turn? left turn = some (visit, history) ∧
      ∀ disk ∈ disks, session.turn disk turn = session.arrive file visit history := by
  obtain ⟨history, hturn, -, -⟩ := History.turn?_eq hahead left
  obtain ⟨file, hkeeps⟩ := h.places visit (History.mem_places_of_turn? hturn).1
  refine ⟨file, history, hkeeps, hturn, fun disk hdisk => ?_⟩
  have hopen : session.openFile disk visit.path = (.ok file, session) := by
    rw [openFile, h.files.openFile_eq hkeeps hdisks hdisk]
  exact turn_eq_arrive hleft hturn hopen

/-- Turning round leads back: the place that was left now lies nearest in the other direction. -/
theorem Sound.turn_opposite (h : session.Sound disks) (hdisks : Disk.Settled disks) {turn : Turn}
    {left visit : Visit} {rest : List Visit} {history : History Visit} {shown : SourceFile}
    (hleft : session.currentVisit = some left) (hahead : session.history.ahead turn = visit :: rest)
    (hturn : session.history.turn? left turn = some (visit, history))
    (hkeeps : session.files.Keeps visit.path file) (hshown : session.files.Keeps left.path shown)
    (hdisk : disk ∈ disks) :
    let returned := (session.arrive file visit history).turn disk turn.opposite
    returned.file = some shown ∧ returned.status = .quiet ∧
      returned.widget.scroll = left.origin.nonneg := by
  intro returned
  obtain ⟨next, hnext, -, hback⟩ := History.turn?_eq hahead left
  obtain rfl : next = history := (Prod.mk.inj (Option.some.inj (hnext.symm.trans hturn))).2
  have harrived := h.arrive hleft hturn hkeeps
  have harrivedFile : (session.arrive file visit next).file = some file := h.file_display hkeeps
  have hcurrent := currentVisit_of_file harrivedFile hkeeps
  obtain ⟨kept, _, hkept, -, hreturn⟩ := harrived.turn_eq hdisks hcurrent hback
  obtain rfl : kept = shown := hkept.eq hshown
  have hreturned : returned = _ := hreturn disk hdisk
  rw [hreturned]
  exact ⟨harrived.file_display hkept, rfl, rfl⟩

/-- **Steps through the history succeed and give back the same file.** After any run from the start,
in surroundings that may be other ones at every step, the file on display is kept by its path. So is
a file for each place in the history: the one that was on display when the user was there, which is
the only one that ever was on display under that path.

Let the disks have settled what files are read under: no path that was found to be canonical, and
none that a file was read under as it was given, has another canonical path on any of them. Then a
step through the history, in either direction, with a file on display and a place ahead, does the
same on each of the disks: it shows the file of that place, and reports nothing. The scroll offset
is the one that was left, where a coordinate that is not a number counts as zero, and a step in the
other direction leads back to the file and the offset before. -/
theorem turn_of_run (disks : Set Disk) (disk : Disk) (hdisk : disk ∈ disks)
    (preferences : Preferences) (preferencesPath : Path) (arguments : StartupArguments)
    (steps : List (Surroundings × SessionStep)) (hsteps : ∀ step ∈ steps, step.1.disk ∈ disks) :
    let start := Session.start disk preferences preferencesPath arguments
    let session := start.run steps
    let passed := start.Passed (start.runStages steps)
    (∀ file, session.file = some file → ∃ path, session.files.Keeps path file) ∧
      (∀ visit ∈ session.history.places, ∃ file, session.files.Keeps visit.path file ∧
        passed visit file ∧
        ∀ place other, place.path = visit.path → passed place other → other = file) ∧
      (Disk.Settled disks →
        ∀ (turn : Turn) (shown : SourceFile) (visit : Visit) (rest : List Visit),
          session.file = some shown → session.history.ahead turn = visit :: rest →
          ∃ file, session.files.Keeps visit.path file ∧ passed visit file ∧
            ∃ turned, (∀ now ∈ disks, session.turn now turn = turned) ∧
              turned.file = some file ∧ turned.status = .quiet ∧ turned.files = session.files ∧
              turned.widget.scroll = visit.origin.nonneg ∧
              (visit.origin.IsNumber → turned.widget.scroll = visit.origin) ∧
              ∀ now ∈ disks, (turned.turn now turn.opposite).file = some shown ∧
                (turned.turn now turn.opposite).status = .quiet ∧
                (session.widget.scroll.IsNumber →
                  (turned.turn now turn.opposite).widget.scroll = session.widget.scroll)) := by
  intro start session passed
  obtain ⟨hstart, hempty⟩ := sound_start hdisk preferences preferencesPath arguments
  have hrun : session = start.performAll (start.runStages steps) := run_eq_performAll start steps
  have hstages : ∀ stage ∈ start.runStages steps, stage.1.disk ∈ disks := by
    intro stage hstage
    obtain ⟨step, hstep, heq⟩ := exists_step_of_mem_runStages hstage
    exact heq ▸ hsteps step hstep
  have hsound : session.Sound disks := hrun ▸ sound_performAll hstart hstages
  have hplaces : ∀ visit ∈ session.history.places, ∃ file, session.files.Keeps visit.path file ∧
      passed visit file ∧
      ∀ place other, place.path = visit.path → passed place other → other = file := by
    intro visit hvisit
    obtain ⟨file, hpassed⟩ := exists_passed hstart hempty hstages visit (hrun ▸ hvisit)
    have hkeeps (place : Visit) (other : SourceFile) (h : passed place other) :
        session.files.Keeps place.path other := hrun ▸ h.keeps hstart hstages
    refine ⟨file, hkeeps visit file hpassed, hpassed, fun place other hplace hother => ?_⟩
    exact (hplace ▸ hkeeps place other hother).eq (hkeeps visit file hpassed)
  refine ⟨hsound.shown, hplaces, fun hdisks turn shown visit rest hshown hahead => ?_⟩
  obtain ⟨path, hpath⟩ := hsound.shown shown hshown
  have hleft := currentVisit_of_file hshown hpath
  obtain ⟨file, history, hkeeps, hturn, heq⟩ := hsound.turn_eq hdisks hleft hahead
  have hvisit := (History.mem_places_of_turn? hturn).1
  obtain ⟨recorded, hrecorded, hpassed, -⟩ := hplaces visit hvisit
  obtain rfl : recorded = file := hrecorded.eq hkeeps
  refine ⟨recorded, hkeeps, hpassed, session.arrive recorded visit history, heq,
    hsound.file_display hkeeps, rfl, rfl, rfl, Point.nonneg_eq (hsound.origins visit hvisit),
    fun now hnow => ?_⟩
  obtain ⟨hfile, hstatus, hscroll⟩ :=
    hsound.turn_opposite hdisks hleft hahead hturn hkeeps hpath hnow
  exact ⟨hfile, hstatus, fun hnumber => hscroll.trans (Point.nonneg_eq hsound.scroll hnumber)⟩

/-- Two files are opened one after the other, the first one by way of a link, and the second one
under the path as it is given, since its canonical path is not told. Both are deleted. The step back
still shows the first one, and the step forward again the second one. -/
theorem turn_of_run_deleted_files :
    let links : List (Place × Path) := [(["link.c"], ⟨"a.c"⟩)]
    let disk : Disk :=
      { nodes := [(["w"], .directory), (["a.c"], .file [120]), (["w", "b.c"], .file [121])]
        links := links, home := ["w"], withholds := (· == ⟨"b.c"⟩) }
    let now : Disk := { disk with nodes := [(["w"], .directory)] }
    let around := Surroundings.withoutDesktop disk
    let start := Session.start disk .standard ⟨""⟩ .none
    let session := start.run [(around, .openAndShow ⟨"/link.c"⟩), (around, .openAndShow ⟨"b.c"⟩)]
    ∃ shown visit rest file, session.file = some shown ∧ shown.path = some ⟨"/w/b.c"⟩ ∧
      session.history.ahead .back = visit :: rest ∧ file.path = some ⟨"/a.c"⟩ ∧
      (session.turn now .back).file = some file ∧
      ((session.turn now .back).turn now .forward).file = some shown := by
  intro links disk now around start session
  have hfile : session.file.map (·.path) = some (some ⟨"/w/b.c"⟩) := by decide +kernel
  have hback : (session.history.ahead .back).map (·.path) = [⟨"/a.c"⟩] := by decide +kernel
  obtain ⟨shown, hshown, hpath⟩ := Option.map_eq_some_iff.1 hfile
  obtain ⟨visit, rest, hahead, hvisit, -⟩ := List.map_eq_cons_iff.1 hback
  have hhome : Disk.IsPlain links ["w"] :=
    Disk.isPlain_nil.concat ⟨by decide, by decide, by decide, by decide⟩ rfl
  have hgiven : Disk.IsPlain links ["w", "b.c"] :=
    hhome.concat ⟨by decide, by decide, by decide, by decide⟩ rfl
  -- both disks have the links and the working directory, and withhold nothing but the second path
  have hdisk : disk ∈ Disk.withLinks links :=
    ⟨rfl, hhome, fun path hpath => ⟨_, hgiven, by rw [eq_of_beq hpath]; decide +kernel⟩⟩
  have hnow : now ∈ Disk.withLinks links :=
    ⟨rfl, hhome, fun path hpath => ⟨_, hgiven, by rw [eq_of_beq hpath]; decide +kernel⟩⟩
  obtain ⟨-, -, hturn⟩ := turn_of_run _ disk hdisk .standard ⟨""⟩ .none
    [(around, .openAndShow ⟨"/link.c"⟩), (around, .openAndShow ⟨"b.c"⟩)]
    (List.forall_mem_cons.2 ⟨hdisk, List.forall_mem_cons.2 ⟨hdisk, by simp⟩⟩)
  obtain ⟨file, hkeeps, -, turned, heq, hturned, -, -, -, -, hreturn⟩ :=
    hturn (Disk.settled_withLinks links) .back shown visit rest hshown hahead
  refine ⟨shown, visit, rest, file, hshown, hpath, hahead, hvisit ▸ hkeeps.path_eq, ?_, ?_⟩
  · rw [heq now hnow, hturned]
  · rw [heq now hnow]
    exact (hreturn now hnow).1

end Session

end CodeBrowser
