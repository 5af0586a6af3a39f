import CodeBrowser.Session.Start
import CodeBrowser.Session.Step

/-!
# Failed steps of a session

A file that is not kept yet has to be read and decoded, and an index has to be read, decoded and
parsed. Whichever of these fails, it fails before the session has changed anything: what is on
display, how far it is scrolled, what is selected or still to be shown, the colours, the history,
the kept files and the index are what they were, and only the status tells of the attempt. Showing a
file without a word about it leaves even the status alone.

## Main definitions

* `FileCache.Refuses`, `SymbolIndex.Refuses`: why a file cannot be opened, or an index not loaded.
* `Session.Fails`: the steps that fail, each with the status that it leaves.

## Main results

* `FileCache.openFile_eq_error_iff`, `SymbolIndex.load_eq_error_iff`: these are all the ways to
  fail.
* `Session.fails_changes_status_only`: a step that fails changes the status at most.
* `Session.run_of_fails`: nor does a run of failing steps change anything else.
-/

namespace CodeBrowser

/-! ### Files -/

/-- Why the file at a path cannot be opened: it is not among the kept files, and cannot be read or
cannot be decoded. -/
inductive FileCache.Refuses (cache : FileCache) (disk : Disk) (path : Path) : OpenError → Prop
  | unreadable {cause : DiskError} (hnew : cache.find? (disk.normalize path) = none)
      (hread : disk.read (disk.normalize path) = .error cause) :
      cache.Refuses disk path (.unreadable (disk.normalize path) cause)
  | undecodable {bytes : List UInt8} {cause : DecodeError}
      (hnew : cache.find? (disk.normalize path) = none)
      (hread : disk.read (disk.normalize path) = .ok bytes)
      (hdecode : (TextEncoding.detect bytes).decode bytes = .error cause) :
      cache.Refuses disk path (.undecodable (disk.normalize path) cause)

namespace FileCache

variable {cache : FileCache} {disk : Disk} {path : Path} {e : OpenError}

/-- Looking for a file that is refused leaves the kept files as they are. -/
theorem openFile_of_refuses (h : cache.Refuses disk path e) :
    cache.openFile disk path = (.error e, cache) := by
  cases h with
  | unreadable hnew hread => simp only [openFile, hnew, SourceFile.load, hread]
  | undecodable hnew hread hdecode => simp only [openFile, hnew, SourceFile.load, hread, hdecode]

/-- A file is refused exactly if opening it ends in an error. -/
theorem openFile_eq_error_iff :
    (cache.openFile disk path).1 = .error e ↔ cache.Refuses disk path e := by
  refine ⟨fun h => ?_, fun h => by rw [openFile_of_refuses h]⟩
  unfold openFile at h
  cases hnew : cache.find? (disk.normalize path) with
  | some file => simp [hnew] at h
  | none =>
    simp only [hnew, SourceFile.load] at h
    cases hread : disk.read (disk.normalize path) with
    | error cause =>
      simp only [hread, Except.error.injEq] at h
      exact h ▸ .unreadable hnew hread
    | ok bytes =>
      cases hdecode : (TextEncoding.detect bytes).decode bytes with
      | error cause =>
        simp only [hread, hdecode, Except.error.injEq] at h
        exact h ▸ .undecodable hnew hread hdecode
      | ok text => simp [hread, hdecode] at h

end FileCache

/-! ### Indexes -/

/-- Why an index cannot be loaded: its file cannot be read, holds no text, or holds no index. -/
inductive SymbolIndex.Refuses (disk : Disk) (path : Path) : IndexError → Prop
  | unreadable {cause : DiskError} (hread : disk.read path = .error cause) :
      Refuses disk path (.unreadable path)
  | undecodable {bytes : List UInt8} {fault : Utf8.Fault} (hread : disk.read path = .ok bytes)
      (hdecode : Utf8.decode bytes = .error fault) : Refuses disk path (.unreadable path)
  | invalid {bytes : List UInt8} {text : List Char} {fault : Json.Fault}
      (hread : disk.read path = .ok bytes) (hdecode : Utf8.decode bytes = .ok text)
      (hparse : Json.read IndexData.readJson (String.ofList text) = .error fault) :
      Refuses disk path (.invalid path fault)

/-- An index is refused exactly if loading it ends in an error. -/
theorem SymbolIndex.load_eq_error_iff {disk : Disk} {path : Path} {e : IndexError} :
    load disk path = .error e ↔ Refuses disk path e := by
  constructor
  · intro h
    unfold load at h
    cases hread : disk.read path with
    | error cause =>
      simp only [hread, Except.error.injEq] at h
      exact h ▸ .unreadable hread
    | ok bytes =>
      cases hdecode : Utf8.decode bytes with
      | error fault =>
        simp only [hread, hdecode, Except.error.injEq] at h
        exact h ▸ .undecodable hread hdecode
      | ok text =>
        cases hparse : Json.read IndexData.readJson (String.ofList text) with
        | error fault =>
          simp only [hread, hdecode, hparse, Except.error.injEq] at h
          exact h ▸ .invalid hread hdecode hparse
        | ok data => simp [hread, hdecode, hparse] at h
  · intro h
    cases h with
    | unreadable hread => simp only [load, hread]
    | undecodable hread hdecode => simp only [load, hread, hdecode]
    | invalid hread hdecode hparse => simp only [load, hread, hdecode, hparse]

namespace Session

/-! ### Operations -/

variable {session : Session} {disk : Disk} {around : Surroundings}

theorem openFile_of_refuses {path : Path} {e : OpenError}
    (h : session.files.Refuses disk path e) : session.openFile disk path = (.error e, session) := by
  simp only [openFile, FileCache.openFile_of_refuses h]

theorem showFile_of_refuses {path : Path} {e : OpenError}
    (h : session.files.Refuses disk path e) : session.showFile disk path = (.error e, session) := by
  simp only [showFile, openFile_of_refuses h]

theorem openAndShow_of_refuses {path : Path} {e : OpenError}
    (h : session.files.Refuses disk path e) :
    session.openAndShow disk path = session.say (.openFailed e) := by
  simp only [openAndShow, showFile_of_refuses h]

theorem navigate_of_refuses {target : SymbolLocation} {e : OpenError}
    (h : session.files.Refuses around.disk target.path e) :
    session.navigate around target = session.say (.definitionFailed e) := by
  simp only [navigate, openFile_of_refuses h]

theorem stepTo_of_refuses {visit : Visit} {history : History Visit} {e : OpenError}
    (h : session.files.Refuses disk visit.path e) :
    session.stepTo disk (some (visit, history)) = session.say (.reopenFailed e) := by
  simp only [stepTo, restore, openFile_of_refuses h]

theorem loadIndex_of_refuses {path : Path} {e : IndexError} (h : SymbolIndex.Refuses disk path e) :
    session.loadIndex disk path = (.error e, session) := by
  simp only [loadIndex, SymbolIndex.load_eq_error_iff.2 h]

theorem loadIndexOrReport_of_refuses {path : Path} {e : IndexError}
    (h : SymbolIndex.Refuses disk path e) :
    session.loadIndexOrReport disk path = session.say (.indexFailed e) := by
  simp only [loadIndexOrReport, loadIndex_of_refuses h]

/-! ### Steps -/

/-- The steps that fail in a session on a disk, each with the status that it leaves. A step through
the history can fail only if a file is on display and there is a place to go to. -/
inductive Fails (session : Session) (disk : Disk) : SessionStep → Status → Prop
  | showFile {path : Path} {e : OpenError} (h : session.files.Refuses disk path e) :
      session.Fails disk (.showFile path) session.status
  | openAndShow {path : Path} {e : OpenError} (h : session.files.Refuses disk path e) :
      session.Fails disk (.openAndShow path) (.openFailed e)
  | navigate {target : SymbolLocation} {e : OpenError}
      (h : session.files.Refuses disk target.path e) :
      session.Fails disk (.navigate target) (.definitionFailed e)
  | goBack {left visit : Visit} {e : OpenError} (hleft : session.currentVisit = some left)
      (hvisit : session.history.peekBack? = some visit)
      (h : session.files.Refuses disk visit.path e) :
      session.Fails disk .goBack (.reopenFailed e)
  | goForward {left visit : Visit} {e : OpenError} (hleft : session.currentVisit = some left)
      (hvisit : session.history.peekForward? = some visit)
      (h : session.files.Refuses disk visit.path e) :
      session.Fails disk .goForward (.reopenFailed e)
  | loadIndex {path : Path} {e : IndexError} (h : SymbolIndex.Refuses disk path e) :
      session.Fails disk (.loadIndex path) (.indexFailed e)

variable {step : SessionStep} {status : Status}

theorem step_of_fails (h : session.Fails around.disk step status) :
    session.step around step = session.say status := by
  cases h with
  | showFile h => simp only [Session.step, showFile_of_refuses h, say]
  | openAndShow h => exact openAndShow_of_refuses h
  | navigate h => exact navigate_of_refuses h
  | goBack hleft hvisit h =>
    obtain ⟨back, hback⟩ := List.head?_eq_some_iff.1 hvisit
    simp only [Session.step, goBack, hleft, Option.bind_some, History.goBack?, hback]
    exact stepTo_of_refuses h
  | goForward hleft hvisit h =>
    obtain ⟨forward, hforward⟩ := List.head?_eq_some_iff.1 hvisit
    simp only [Session.step, goForward, hleft, Option.bind_some, History.goForward?, hforward]
    exact stepTo_of_refuses h
  | loadIndex h => exact loadIndexOrReport_of_refuses h

/-- **A failed step changes nothing but the status.** Where reading, decoding or parsing fails, the
session after the step is the one before it with another status. The operations that hand their
error to the caller hand over that very error, and then not even the status is another. -/
theorem fails_changes_status_only (around : Surroundings)
    (h : session.Fails around.disk step status) :
    session.step around step = { session with status := status } ∧
      (∀ path, step = .showFile path → status = session.status ∧
        ∃ e, session.files.Refuses around.disk path e ∧
          session.showFile around.disk path = (.error e, session)) ∧
      (∀ path, step = .loadIndex path → ∃ e, status = .indexFailed e ∧
        SymbolIndex.Refuses around.disk path e ∧
          session.loadIndex around.disk path = (.error e, session)) := by
  refine ⟨step_of_fails h, ?_, ?_⟩
  · rintro path rfl
    obtain ⟨h⟩ := h
    exact ⟨rfl, _, h, showFile_of_refuses h⟩
  · rintro path rfl
    cases h with
    | loadIndex h => exact ⟨_, rfl, h, loadIndex_of_refuses h⟩

/-- A session that shows one file and remembers a place in another one, which is not kept. -/
def remembering (shown remembered : Path) : Session :=
  { (ofPreferences .standard ⟨""⟩).display (.ofText (some shown) []) with
    history := ⟨[⟨remembered, .origin⟩], []⟩ }

/-- The remembered file is not on the empty disk, so the step back fails. -/
theorem goBack_on_empty_disk :
    (remembering ⟨"/a.c"⟩ ⟨"/gone.c"⟩).Fails .empty .goBack
        (.reopenFailed (.unreadable ⟨"/gone.c"⟩ .notFound)) ∧
      (remembering ⟨"/a.c"⟩ ⟨"/gone.c"⟩).step (.withoutDesktop .empty) .goBack =
        { remembering ⟨"/a.c"⟩ ⟨"/gone.c"⟩ with
          status := .reopenFailed (.unreadable ⟨"/gone.c"⟩ .notFound) } := by
  have hrefuses : FileCache.empty.Refuses .empty ⟨"/gone.c"⟩
      (.unreadable (Disk.normalize .empty ⟨"/gone.c"⟩) .notFound) :=
    .unreadable rfl rfl
  have hfails : (remembering ⟨"/a.c"⟩ ⟨"/gone.c"⟩).Fails .empty .goBack
      (.reopenFailed (.unreadable ⟨"/gone.c"⟩ .notFound)) := .goBack rfl rfl hrefuses
  exact ⟨hfails, (fails_changes_status_only (.withoutDesktop .empty) hfails).1⟩

/-! ### Runs -/

/-- Whether a step fails does not depend on the status. -/
theorem Fails.say (h : session.Fails disk step status) (said : Status) :
    ∃ status, (session.say said).Fails disk step status := by
  cases h with
  | showFile h => exact ⟨_, .showFile h⟩
  | openAndShow h => exact ⟨_, .openAndShow h⟩
  | navigate h => exact ⟨_, .navigate h⟩
  | goBack hleft hvisit h => exact ⟨_, .goBack hleft hvisit h⟩
  | goForward hleft hvisit h => exact ⟨_, .goForward hleft hvisit h⟩
  | loadIndex h => exact ⟨_, .loadIndex h⟩

/-- A run of steps that all fail, each in the surroundings of its time, changes nothing but the
status. -/
theorem run_of_fails : (steps : List (Surroundings × SessionStep)) → (session : Session) →
    (∀ entry ∈ steps, ∃ status, session.Fails entry.1.disk entry.2 status) →
    ∃ status, session.run steps = { session with status := status }
  | [], session, _ => ⟨session.status, rfl⟩
  | (around, step) :: steps, session, h => by
      obtain ⟨status, hfirst⟩ := h _ (List.mem_cons_self ..)
      have hrest (entry) (hentry : entry ∈ steps) :
          ∃ status', (session.say status).Fails entry.1.disk entry.2 status' := by
        obtain ⟨_, hfails⟩ := h entry (List.mem_cons_of_mem _ hentry)
        exact hfails.say status
      obtain ⟨last, hlast⟩ := run_of_fails steps (session.say status) hrest
      refine ⟨last, ?_⟩
      rw [run, List.foldl_cons, step_of_fails hfirst]
      exact hlast

end Session

end CodeBrowser
