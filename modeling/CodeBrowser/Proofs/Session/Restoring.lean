import CodeBrowser.Proofs.Session.Stages
import CodeBrowser.Proofs.Widget.Still

/-!
# The frame after a step through the history

A step through the history sets the scroll offset, but it is the next frame that decides what is on
the screen, and a frame first of all shows what it has been asked to show. What has been asked for
is forgotten with the file that it is in. So a step from one file to another restores the offset
that was left, and so does any step before which a frame has shown everything. A step within one
file leaves what no frame has shown yet where it is, and the next frame moves away from the restored
offset until it is in view. The word that is to be selected when the session starts has the same
effect. All this holds in windows of any size and with any fonts, which may be other ones in the
frame than they were at the step.

## Main definitions

* `Session.AtRest`: no button is held, and what the view has asked for is done.
* `Session.arrangement`, `Session.request`: how the next frame arranges the widget, and what it is
  asked to show.

## Main results

* `Session.AtRest.frame`: what a frame without input does.
* `Session.request_arrive`: what is still asked for after a step through the history.
* `Session.frame_after_turn`: the scroll offset in the frame after a step.
-/

namespace CodeBrowser

namespace Session

/-- No button is held, and all that the view has asked for is done. A button that is still held from
an earlier frame may go on dragging a scroll bar, so without it nothing moves but what is asked
for. -/
structure AtRest (session : Session) : Prop where
  down : session.pointer.down = []
  events : session.widget.view.events = []

/-- How the next frame arranges the widget. -/
def arrangement (session : Session) (around : Surroundings) : Arrangement Float32 :=
  session.widget.arrange (session.widget.metrics around.measurer) around.rect

/-- What the next frame is asked to show: the word that is to be selected when the session starts,
or else what has been asked for since the last frame. -/
def request (session : Session) (measurer : Measurer Float32) : Option (Rect Float32) :=
  (session.selectPending measurer).widget.view.scrollRequest

variable {session : Session}

/-- Selecting the word that is to be selected at the start changes nothing but what is asked for. -/
theorem AtRest.selectPending (h : session.AtRest) (around : Surroundings) :
    let selected := session.selectPending around.measurer
    selected.AtRest ∧ selected.arrangement around = session.arrangement around ∧
      selected.widget.scroll = session.widget.scroll ∧ selected.pendingSelection = none := by
  unfold Session.selectPending
  split
  · exact ⟨h, rfl, rfl, ‹_›⟩
  · exact ⟨⟨h.down, h.events⟩, rfl, rfl, rfl⟩

theorem request_eq (h : session.pendingSelection = none) (measurer : Measurer Float32) :
    session.request measurer = session.widget.view.scrollRequest := by
  rw [request, Session.selectPending, h]

/-- The frame of the widget, without input, shows what it is asked to show and nothing else. -/
theorem AtRest.showWidget (h : session.AtRest) (around : Surroundings) :
    let shown := session.showWidget around .idle
    shown.widget.scroll =
        settled (session.arrangement around) session.widget.view.scrollRequest
          session.widget.scroll ∧
      shown.widget.view.scrollRequest = none ∧ shown.AtRest := by
  intro shown
  have hstill := Pointer.isStill_frame h.down around.rect
  have hscroll := Widget.scroll_frame_of_isStill hstill session.widget around.measurer around.rect
    session.history.availability none
  obtain ⟨selection, hview⟩ := Widget.view_frame_of_isStill hstill session.widget around.measurer
    around.rect session.history.availability
  have hshown : shown.widget.view = session.widget.view.takeScrollRequest.2.select selection :=
    hview
  refine ⟨hscroll, ?_, ⟨h.down, ?_⟩⟩
  · rw [hshown]
    rfl
  · rw [hshown]
    exact h.events

theorem AtRest.handleEvents_eq (h : session.AtRest) (around : Surroundings) :
    session.handleEvents around = session := by
  have hview : { session.widget.view with events := [] } = session.widget.view := by
    rw [← h.events]
  rw [handleEvents, View.takeEvents, h.events]
  exact congrArg (fun view => session.mapWidget (·.mapView fun _ => view)) hview

/-- **A frame without input** selects the word that is to be selected at the start and shows what it
is asked to show, from the scroll offset as it is. After that nothing is left to be shown. -/
theorem AtRest.frame (h : session.AtRest) (around : Surroundings) :
    let next := session.frame around .idle
    next.widget.scroll =
        settled (session.arrangement around) (session.request around.measurer)
          session.widget.scroll ∧
      (∀ measurer, next.request measurer = none) ∧ next.AtRest := by
  intro next
  obtain ⟨hselected, harrangement, hscroll, hpending⟩ := h.selectPending around
  obtain ⟨hscroll', hrequest, hshown⟩ := hselected.showWidget around
  let selected := session.selectPending around.measurer
  have hnext : next = selected.showWidget around .idle := by
    have hkeys : selected.obeyKeys around.disk [] = selected := ite_self _
    show (((selected.obeyKeys around.disk []).showWidget around .idle).handleEvents around) = _
    rw [hkeys, hshown.handleEvents_eq]
  have hnothing : (selected.showWidget around .idle).pendingSelection = none := hpending
  rw [hnext, hscroll', harrangement, hscroll]
  exact ⟨rfl, fun measurer => (request_eq hnothing measurer).trans hrequest, hshown⟩

/-! ### The frame after a step through the history -/

/-- The greatest scroll offset is not negative. -/
theorem notNegative_maxScroll (session : Session) (around : Surroundings) :
    (session.arrangement around).maxScroll.NotNegative :=
  Point.notNegative_nonneg _

section Arriving

variable {file : SourceFile} {visit : Visit} {history : History Visit}

theorem AtRest.arrive (h : session.AtRest) (file : SourceFile) (visit : Visit)
    (history : History Visit) : (session.arrive file visit history).AtRest := by
  refine ⟨h.down, ?_⟩
  show (session.widget.display (some file)).view.events = []
  rw [view_display, View.display]
  split_ifs <;> exact h.events

/-- What has been asked for is forgotten with the file that it is in, and only with it. -/
theorem request_arrive (hpending : session.pendingSelection = none)
    (measurer : Measurer Float32) :
    ((session.arrive file visit history).file = session.file ∧
        (session.arrive file visit history).request measurer = session.request measurer) ∨
      ((session.arrive file visit history).file ≠ session.file ∧
        (session.arrive file visit history).request measurer = none) := by
  have hpending' : (session.arrive file visit history).pendingSelection = none := hpending
  have hview : (session.arrive file visit history).widget.view =
      session.widget.view.display (some file) := view_display session.widget (some file)
  rw [request_eq hpending, request_eq hpending']
  show ((session.arrive file visit history).widget.view.file = session.widget.view.file ∧ _) ∨
    ((session.arrive file visit history).widget.view.file ≠ session.widget.view.file ∧ _)
  rw [hview, View.display]
  split_ifs with hsame
  · exact .inl ⟨rfl, rfl⟩
  · refine .inr ⟨fun hfile => hsame (View.displays_eq_true_iff.2 ?_), rfl⟩
    have hfile : some file = session.widget.view.settings.file := hfile
    rw [← hfile]

end Arriving

variable {turn : Turn} {left visit : Visit} {history : History Visit} {disk : Disk}

/-- A step that succeeds arrives at the place that it leads to. What it may have read on the way is
kept. -/
theorem exists_turn_eq_arrive (hleft : session.currentVisit = some left)
    (hturn : session.history.turn? left turn = some (visit, history))
    (hopen : (session.restore disk visit).1 = .ok ()) :
    ∃ files file,
      session.turn disk turn = { session with files := files }.arrive file visit history := by
  cases hfile : session.files.openFile disk visit.path with
  | mk result files =>
    have hopened :
        session.openFile disk visit.path = (result, { session with files := files }) := by
      rw [openFile, hfile]
    cases result with
    | ok file => exact ⟨files, file, turn_eq_arrive hleft hturn hopened⟩
    | error e =>
      rw [restore, hopened] at hopen
      contradiction

/-- **A step through the history restores what was left, unless something is still to be shown.**
Let a step that succeeds, from a session at rest, be followed by a frame without input. The frame
starts from the offset that was left, brings what it is asked to show into view, and stays within
the content. It is asked for the word to be selected at the start if there is one, and else for what
was asked for before the step, but only if the step stays in the file. So if the step leads to
another file, or nothing was asked for, the offset is the one that was left, kept within the
content. Where a coordinate that was left is not a number, it counts as zero. A session at rest is
one in which no button is held: with a held button the frame may go on dragging. -/
theorem frame_after_turn (hrest : session.AtRest) (hleft : session.currentVisit = some left)
    (hturn : session.history.turn? left turn = some (visit, history))
    (hopen : (session.restore disk visit).1 = .ok ()) (around : Surroundings) :
    let turned := session.turn disk turn
    let next := turned.frame around .idle
    let arrangement := turned.arrangement around
    let restored := visit.origin.nonneg.clampTo arrangement.maxScroll
    let asked := session.request around.measurer
    let stillAsked := turned.request around.measurer
    (visit.origin.IsNumber → restored = visit.origin.clampTo arrangement.maxScroll) ∧
      next.widget.scroll = settled arrangement stillAsked visit.origin.nonneg ∧
      (session.pendingSelection = none →
        (turned.file = session.file ∧ stillAsked = asked ∨
          turned.file ≠ session.file ∧ stillAsked = none) ∧
        (turned.file ≠ session.file ∨ asked = none → next.widget.scroll = restored)) := by
  intro turned next arrangement restored asked stillAsked
  obtain ⟨files, file, heq⟩ := exists_turn_eq_arrive hleft hturn hopen
  have hturned : turned = { session with files := files }.arrive file visit history := heq
  have hfiles : { session with files := files }.AtRest := ⟨hrest.down, hrest.events⟩
  have hscroll : next.widget.scroll = settled arrangement stillAsked visit.origin.nonneg := by
    obtain ⟨hframe, -⟩ := (hfiles.arrive file visit history).frame around
    show (turned.frame around .idle).widget.scroll =
      settled (turned.arrangement around) (turned.request around.measurer) visit.origin.nonneg
    rw [hturned]
    exact hframe
  refine ⟨fun hnumber => Point.clampTo_nonneg hnumber (notNegative_maxScroll ..), hscroll,
    fun hpending => ?_⟩
  have hrequest : turned.file = session.file ∧ stillAsked = asked ∨
      turned.file ≠ session.file ∧ stillAsked = none := by
    have hpending' : { session with files := files }.pendingSelection = none := hpending
    have hsame : { session with files := files }.request around.measurer = asked :=
      (request_eq hpending' _).trans (request_eq hpending _).symm
    show turned.file = session.file ∧ turned.request around.measurer = asked ∨
      turned.file ≠ session.file ∧ turned.request around.measurer = none
    rw [hturned, ← hsame]
    exact request_arrive hpending' around.measurer
  refine ⟨hrequest, fun hnothing => ?_⟩
  have hnone : stillAsked = none := by
    rcases hrequest with ⟨hsame, hrequest⟩ | ⟨-, hrequest⟩
    · exact hrequest.trans (hnothing.resolve_left (not_not_intro hsame))
    · exact hrequest
  rw [hscroll, hnone]
  rfl

/-- Something was asked for in one file, and the step leads to another one, where the offset that
was left is restored. -/
theorem frame_after_turn_to_other_file :
    let text := List.replicate 40 10 ++ [120]
    let disk : Disk := .of [(["a.c"], .file text), (["b.c"], .file text)] []
    let around := Surroundings.withoutDesktop disk
    let session := (Session.start disk .standard ⟨""⟩ .none).run
      [(around, .openAndShow ⟨"/a.c"⟩), (around, .scrollTo ⟨0, 30⟩),
        (around, .navigate ⟨⟨"/b.c"⟩, 41, 1⟩)]
    session.AtRest ∧ (session.request around.measurer).isSome = true ∧
      ((session.turn disk .back).frame around .idle).widget.scroll = ⟨0, 30⟩ := by
  intro text disk around session
  have hrest : session.AtRest := ⟨by decide +kernel, by decide +kernel⟩
  have hleft : session.currentVisit.isSome = true := by decide +kernel
  have hback : (session.history.ahead .back).map (fun visit => (visit.path, visit.origin)) =
      [(⟨"/a.c"⟩, ⟨0, 30⟩)] := by decide +kernel
  have hpending : session.pendingSelection = none := by decide +kernel
  have hpaths : (session.turn disk .back).file.map (·.path) ≠ session.file.map (·.path) := by
    decide +kernel
  have hother : (session.turn disk .back).file ≠ session.file := ne_of_apply_ne _ hpaths
  obtain ⟨left, hleft⟩ := Option.isSome_iff_exists.1 hleft
  obtain ⟨⟨path, origin⟩, rest, hahead, hvisit, -⟩ := List.map_eq_cons_iff.1 hback
  obtain ⟨rfl, rfl⟩ := Prod.mk.inj hvisit
  obtain ⟨history, hturn, -, -⟩ := History.turn?_eq hahead left
  have hopen : (session.restore disk ⟨⟨"/a.c"⟩, ⟨0, 30⟩⟩).1 = .ok () := by decide +kernel
  obtain ⟨-, -, hnone⟩ := frame_after_turn hrest hleft hturn hopen around
  have hrequest : (session.request around.measurer).isSome = true := by decide +kernel
  have hclamp : (Point.nonneg ⟨0, 30⟩).clampTo
      ((session.turn disk .back).arrangement around).maxScroll = ⟨0, 30⟩ := by decide +kernel
  exact ⟨hrest, hrequest, ((hnone hpending).2 (.inl hother)).trans hclamp⟩

/-- The step back stays in a file in which the last word has just been asked for. What was left is
the top of the file, but the next frame shows its end. -/
theorem frame_after_turn_in_one_file :
    let disk : Disk := .of [(["a.c"], .file (List.replicate 40 10 ++ [120]))] []
    let around := Surroundings.withoutDesktop disk
    let session := (Session.start disk .standard ⟨""⟩ .none).run
      [(around, .openAndShow ⟨"/a.c"⟩), (around, .frame .idle),
        (around, .navigate ⟨⟨"/a.c"⟩, 41, 1⟩)]
    let turned := session.turn disk .back
    let next := turned.frame around .idle
    session.AtRest ∧
      (session.history.ahead .back).map (fun visit => (visit.path, visit.origin)) =
        [(⟨"/a.c"⟩, .origin)] ∧
      turned.status = .quiet ∧ turned.widget.scroll = .origin ∧
      next.widget.scroll = ⟨0, 110⟩ ∧
      next.widget.scroll ≠ Point.origin.clampTo (turned.arrangement around).maxScroll := by
  refine ⟨⟨by decide +kernel, by decide +kernel⟩, ?_⟩
  decide +kernel

end Session

end CodeBrowser
