import CodeBrowser.Widget.Routing
import Mathlib.Data.List.Basic

/-!
# Clicks

A click is a press and a release on one word that the pointer was never seen to leave in between.
The view does not look back at the frames between the two. It knows whether a press is going on and
which word is selected, and that is enough: while a press is going on, a word is selected if and
only if the pointer has been on it ever since the press started.

## Main definitions

* `Throughout`: what holds of all frames between two of them.
* `LatestStart`: the last frame in which a press starts.
* `IsClick`: a frame ends a click on a word.
* `View.holding`: a view with another selection and other events.
* `Tracks`: what is known from the selection about the frames so far.

## Main results

* `tracks_routePrimary`, `tracks_routeAll`: what is known is kept up, frame after frame.
* `routeAll_clicks`: a frame activates a word if and only if it ends a click on the word.
-/

namespace CodeBrowser

variable {α : Type}

/-! ### Frames -/

/-- Whether a press starts on the text. -/
def PrimaryFrame.starts (frame : PrimaryFrame α) : Bool :=
  frame.pressed && frame.canStart && frame.position.isSome

/-- All frames from `i` up to, and without, `n` have a property. -/
def Throughout (frames : List (PrimaryFrame α)) (i n : Nat) (p : PrimaryFrame α → Prop) : Prop :=
  ∀ k frame, i ≤ k → k < n → frames[k]? = some frame → p frame

/-- The last frame before `n` in which a press starts is frame `i`. -/
structure LatestStart (frames : List (PrimaryFrame α)) (i n : Nat) : Prop where
  lt : i < n
  starts : ∃ frame, frames[i]? = some frame ∧ frame.starts = true
  latest : Throughout frames (i + 1) n fun frame => frame.starts = false

section Frames

variable {frames : List (PrimaryFrame α)} {i n : Nat} {frame : PrimaryFrame α}
  (hframe : frames[n]? = some frame)

theorem throughout_self (p : PrimaryFrame α → Prop) : Throughout frames n n p :=
  fun _ _ hle hlt => absurd hlt (Nat.not_lt_of_le hle)

include hframe

theorem throughout_succ {p : PrimaryFrame α → Prop} (hle : i ≤ n) :
    Throughout frames i (n + 1) p ↔ Throughout frames i n p ∧ p frame := by
  constructor
  · intro h
    exact ⟨fun k f hik hkn => h k f hik (by omega), h n frame hle (by omega) hframe⟩
  · rintro ⟨h, hp⟩ k f hik hkn hf
    rcases Nat.lt_or_eq_of_le (Nat.le_of_lt_succ hkn) with hlt | rfl
    · exact h k f hik hlt hf
    · obtain rfl : frame = f := Option.some.inj (hframe.symm.trans hf)
      exact hp

theorem latestStart_self (hstarts : frame.starts = true) : LatestStart frames n (n + 1) :=
  ⟨Nat.lt_succ_self n, ⟨frame, hframe, hstarts⟩, throughout_self _⟩

/-- A frame in which no press starts leaves the last start where it is. -/
theorem latestStart_succ (hstarts : frame.starts = false) :
    LatestStart frames i (n + 1) ↔ LatestStart frames i n := by
  constructor
  · rintro ⟨hlt, hstart, hlatest⟩
    have hne : i ≠ n := by
      rintro rfl
      obtain ⟨f, hf, hfstarts⟩ := hstart
      obtain rfl : frame = f := Option.some.inj (hframe.symm.trans hf)
      rw [hstarts] at hfstarts
      exact Bool.false_ne_true hfstarts
    exact ⟨by omega, hstart, ((throughout_succ hframe (by omega)).1 hlatest).1⟩
  · rintro ⟨hlt, hstart, hlatest⟩
    exact ⟨by omega, hstart, (throughout_succ hframe (by omega)).2 ⟨hlatest, hstarts⟩⟩

end Frames

/-- There is one last start. -/
theorem LatestStart.eq {frames : List (PrimaryFrame α)} {i i' n : Nat}
    (h : LatestStart frames i n) (h' : LatestStart frames i' n) : i = i' := by
  have hnot {a b : Nat} (ha : LatestStart frames a n) (hb : LatestStart frames b n) : ¬ a < b := by
    intro hlt
    obtain ⟨frame, hframe, hstarts⟩ := hb.starts
    have hno : frame.starts = false := ha.latest b frame hlt hb.lt hframe
    rw [hstarts] at hno
    exact Bool.false_ne_true hno.symm
  have := hnot h h'
  have := hnot h' h
  omega

/-! ### The events of a click -/

namespace View

/-- A view of the same text with another selection and other events. -/
def holding (view : View α) (selection : TextRange) (events : List ViewEvent) : View α :=
  { view with selection := selection, events := events }

/-- Where the only definition of the only symbol of a word is. -/
def target? (view : View α) (word : TextRange) : Option SymbolLocation :=
  match view.symbolsAt word.start with
  | [symbol] => view.symbols.definition? symbol
  | _ => none

theorem target?_eq_some_iff {view : View α} {word : TextRange} {place : SymbolLocation} :
    view.target? word = some place ↔ ∃ symbol,
      view.symbolsAt word.start = [symbol] ∧ view.symbols.definition? symbol = some place := by
  unfold target?
  split
  · next symbol hsymbols =>
    constructor
    · exact fun h => ⟨symbol, hsymbols, h⟩
    · rintro ⟨symbol', hsymbols', h⟩
      obtain rfl : symbol = symbol' := List.singleton_injective (hsymbols.symm.trans hsymbols')
      exact h
  · next hsymbols =>
    refine iff_of_false nofun ?_
    rintro ⟨symbol, hsymbol, -⟩
    exact hsymbols symbol hsymbol

/-- The events of a click on a word. -/
def clickEvents (view : View α) (word : TextRange) : List ViewEvent :=
  .wordActivated word :: (view.target? word).toList.map .navigate

/-- A click activates no other word. -/
theorem wordActivated_mem_clickEvents {view : View α} {word word' : TextRange} :
    .wordActivated word' ∈ view.clickEvents word ↔ word' = word := by
  simp [clickEvents]

theorem activate_eq (view : View α) (word : TextRange) :
    view.activate word = view.holding view.selection (view.events ++ view.clickEvents word) := by
  have hsymbols : (view.emit (.wordActivated word)).symbolsAt word.start =
      view.symbolsAt word.start := rfl
  have hsource : (view.emit (.wordActivated word)).symbols = view.symbols := rfl
  unfold activate clickEvents target?
  dsimp only
  rw [hsymbols, hsource]
  cases view.symbolsAt word.start with
  | nil => rfl
  | cons symbol rest =>
    cases rest with
    | nil =>
      cases hplace : view.symbols.definition? symbol with
      | none => simp [hplace, emit, holding]
      | some place => simp [hplace, emit, holding]
    | cons _ _ => rfl

end View

/-! ### The view while frames pass -/

variable [Scalar α]

namespace PrimaryFrame

/-- The word under the pointer, if it is known where the pointer is. -/
def word? (frame : PrimaryFrame α) (view : View α) (metrics : Metrics α) : Option TextRange :=
  frame.position.map fun point => view.wordUnder metrics (point - frame.origin)

/-- The pointer is not seen elsewhere than on the word. -/
def IsOn (frame : PrimaryFrame α) (view : View α) (metrics : Metrics α) (word : TextRange) : Prop :=
  ∀ under, frame.word? view metrics = some under → under = word

theorem word?_of_position {frame : PrimaryFrame α} {view : View α} {metrics : Metrics α}
    {point : Point α} (h : frame.position = some point) :
    frame.word? view metrics = some (view.wordUnder metrics (point - frame.origin)) := by
  rw [word?, h, Option.map_some]

theorem isOn_of_word? {frame : PrimaryFrame α} {view : View α} {metrics : Metrics α}
    {under word : TextRange} (h : frame.word? view metrics = some under) :
    frame.IsOn view metrics word ↔ under = word := by
  simp [IsOn, h]

end PrimaryFrame

namespace View

variable {view : View α} {metrics : Metrics α} {selection : TextRange} {events : List ViewEvent}
  {frame : PrimaryFrame α}

/-- A press that starts selects the word under the pointer. -/
theorem startPress_of_starts {state : Pressing α}
    (hview : state.view = view.holding selection events) (hstarts : frame.starts = true) :
    ∃ word, frame.word? view metrics = some word ∧
      startPress state metrics frame = ⟨view.holding word events, true⟩ := by
  simp only [PrimaryFrame.starts, Bool.and_eq_true] at hstarts
  obtain ⟨hpress, hposition⟩ := hstarts
  obtain ⟨point, hpoint⟩ := Option.isSome_iff_exists.1 hposition
  refine ⟨_, PrimaryFrame.word?_of_position hpoint, ?_⟩
  simp only [startPress, hpoint, hpress, Bool.and_self, if_true, hview]
  rfl

theorem startPress_of_not_starts (hstarts : frame.starts = false) (state : Pressing α) :
    startPress state metrics frame = state := by
  unfold startPress
  split
  · next point hpoint =>
    rw [PrimaryFrame.starts, hpoint, Option.isSome_some, Bool.and_true] at hstarts
    rw [hstarts]
    rfl
  · rfl

theorem move_holding (point : Point α) : (view.holding selection events).move metrics point =
    if selection.isEmpty = true ∨ view.wordUnder metrics point = selection then
      view.holding selection events
    else view.holding .none events := by
  have hunder : (view.holding selection events).wordUnder metrics point =
      view.wordUnder metrics point := rfl
  have hselection : (view.holding selection events).selection = selection := rfl
  simp only [move, dropUnless, hunder, hselection, Bool.or_eq_true, beq_iff_eq]
  rfl

theorem release_holding (point : Point α) : (view.holding selection events).release metrics point =
    if selection.isEmpty = true then view.holding selection events
    else view.holding .none (events ++
      if view.wordUnder metrics point = selection then view.clickEvents selection else []) := by
  have hunder : (view.holding selection events).wordUnder metrics point =
      view.wordUnder metrics point := rfl
  have hselection : (view.holding selection events).selection = selection := rfl
  simp only [release, hunder, hselection, beq_iff_eq, activate_eq]
  split_ifs
  · rfl
  · rfl
  · rw [List.append_nil]
    rfl

section Follow

variable (view metrics selection events)

/-- While the button is down, the selection stays on a word that the pointer is not seen to
leave. -/
theorem followPress_of_down (hdown : frame.released = false) :
    ∃ selection', followPress (view.holding selection events) metrics frame =
        view.holding selection' events ∧
      ∀ word, word.isEmpty = false →
        (selection' = word ↔ selection = word ∧ frame.IsOn view metrics word) := by
  unfold followPress
  cases hposition : frame.position with
  | none =>
    have hword : frame.word? view metrics = none := by
      rw [PrimaryFrame.word?, hposition, Option.map_none]
    refine ⟨selection, by simp [hdown], fun word _ => ⟨fun h => ⟨h, ?_⟩, And.left⟩⟩
    simp [PrimaryFrame.IsOn, hword]
  | some point =>
    simp only [hdown, Bool.false_eq_true, if_false, move_holding,
      PrimaryFrame.isOn_of_word? (PrimaryFrame.word?_of_position hposition)]
    by_cases hkeep : selection.isEmpty = true ∨
        view.wordUnder metrics (point - frame.origin) = selection
    · rw [if_pos hkeep]
      refine ⟨selection, rfl, fun word hsome => ⟨?_, And.left⟩⟩
      rintro rfl
      exact ⟨rfl, hkeep.resolve_left (by simp [hsome])⟩
    · rw [if_neg hkeep]
      refine ⟨.none, rfl, fun word hsome => iff_of_false ?_ ?_⟩
      · rintro rfl
        exact Bool.false_ne_true hsome.symm
      · rintro ⟨rfl, hunder⟩
        exact hkeep (Or.inr hunder)

/-- A release ends the selection. It is a click if the pointer is on the selected word. -/
theorem followPress_of_released (hreleased : frame.released = true) :
    ∃ selection', selection'.isEmpty = true ∧
      followPress (view.holding selection events) metrics frame =
        view.holding selection' (events ++
          if selection.isEmpty = false ∧ frame.word? view metrics = some selection then
            view.clickEvents selection
          else []) := by
  unfold followPress
  cases hposition : frame.position with
  | none =>
    have hword : frame.word? view metrics = none := by
      rw [PrimaryFrame.word?, hposition, Option.map_none]
    refine ⟨.none, rfl, ?_⟩
    simp only [hreleased, if_true, hword, reduceCtorEq, and_false, if_false, List.append_nil]
    rfl
  | some point =>
    simp only [hreleased, if_true, PrimaryFrame.word?_of_position hposition, Option.some.injEq,
      release_holding]
    by_cases hempty : selection.isEmpty = true
    · refine ⟨selection, hempty, ?_⟩
      rw [if_pos hempty, if_neg (by simp [hempty]), List.append_nil]
    · refine ⟨.none, rfl, ?_⟩
      rw [if_neg hempty, eq_false_of_ne_true hempty]
      simp only [true_and]

end Follow

/-! ### What the selection says about the frames -/

section Tracks

variable (view metrics) (frames : List (PrimaryFrame α))

/-- Frame `j` ends a click on a word. It releases the button at a known place, no frame has released
it since the last press started, and the pointer has not been seen elsewhere than on the word. -/
structure IsClick (j : Nat) (word : TextRange) : Prop where
  nonempty : word.isEmpty = false
  released : ∃ frame, frames[j]? = some frame ∧ frame.released = true ∧
    frame.position.isSome = true
  pressed : ∃ i, LatestStart frames i (j + 1) ∧
    (Throughout frames i j fun frame => frame.released = false) ∧
    Throughout frames i (j + 1) fun frame => frame.IsOn view metrics word

/-- What is known before frame `n`. While a press is going on, a word is selected if and only if the
pointer has not been seen elsewhere since the press started. Otherwise nothing is selected, and the
last press has been released. -/
structure Tracks (n : Nat) (state : Pressing α) : Prop where
  view_eq : state.view = view.holding state.view.selection state.view.events
  pressed : state.pressing = true → ∃ i, LatestStart frames i n ∧
    (Throughout frames i n fun frame => frame.released = false) ∧
    ∀ word, word.isEmpty = false → (state.view.selection = word ↔
      Throughout frames i n fun frame => frame.IsOn view metrics word)
  idle : state.pressing = false → state.view.selection.isEmpty = true ∧
    ∀ i, LatestStart frames i n → ¬ Throughout frames i n fun frame => frame.released = false

/-- What is known in frame `n` when a press is going on that started in frame `i`, be it the same
one, before the view hears where the pointer is. -/
structure Follows (n i : Nat) (frame : PrimaryFrame α) (selection : TextRange) : Prop where
  latest : LatestStart frames i (n + 1)
  down : Throughout frames i n fun frame => frame.released = false
  word_iff : ∀ word, word.isEmpty = false →
    (selection = word ∧ frame.IsOn view metrics word ↔
      Throughout frames i (n + 1) fun frame => frame.IsOn view metrics word)

end Tracks

variable {frames : List (PrimaryFrame α)} {n i : Nat} {state : Pressing α}

/-- A frame ends a click on one word only. -/
theorem IsClick.eq {word word' : TextRange} (h : IsClick view metrics frames n word)
    (h' : IsClick view metrics frames n word') : word = word' := by
  obtain ⟨f, hf, -, hposition⟩ := h.released
  obtain ⟨point, hpoint⟩ := Option.isSome_iff_exists.1 hposition
  have hunder {w : TextRange} (hw : IsClick view metrics frames n w) :
      view.wordUnder metrics (point - f.origin) = w := by
    obtain ⟨i, hlatest, -, hon⟩ := hw.pressed
    exact hon n f (Nat.le_of_lt_succ hlatest.lt) (Nat.lt_succ_self n) hf _
      (PrimaryFrame.word?_of_position hpoint)
  rw [← hunder h, hunder h']

variable (hframe : frames[n]? = some frame)

include hframe

theorem exists_follows (h : Tracks view metrics frames n state)
    (hpressing : (startPress state metrics frame).pressing = true) :
    ∃ i selection, startPress state metrics frame =
        ⟨view.holding selection state.view.events, true⟩ ∧
      Follows view metrics frames n i frame selection := by
  cases hstarts : frame.starts with
  | true =>
    obtain ⟨word, hword, hstart⟩ := startPress_of_starts h.view_eq hstarts
    refine ⟨n, word, hstart, latestStart_self hframe hstarts, throughout_self _, fun word' _ => ?_⟩
    rw [throughout_succ hframe (Nat.le_refl n), and_iff_right (throughout_self _),
      PrimaryFrame.isOn_of_word? hword, and_self]
  | false =>
    rw [startPress_of_not_starts hstarts] at hpressing ⊢
    obtain ⟨i, hlatest, hdown, hword⟩ := h.pressed hpressing
    refine ⟨i, state.view.selection, by rw [← h.view_eq, ← hpressing],
      (latestStart_succ hframe hstarts).2 hlatest, hdown, fun word hsome => ?_⟩
    rw [throughout_succ hframe (Nat.le_of_lt hlatest.lt), hword word hsome]

/-- A release ends a click if and only if the pointer is on the selected word. -/
theorem Follows.isClick_iff (h : Follows view metrics frames n i frame selection)
    (hreleased : frame.released = true) {word : TextRange} :
    IsClick view metrics frames n word ↔
      word = selection ∧ selection.isEmpty = false ∧ frame.word? view metrics = some selection := by
  constructor
  · rintro ⟨hsome, ⟨f, hf, -, hposition⟩, i', hlatest, -, hon⟩
    obtain rfl : frame = f := Option.some.inj (hframe.symm.trans hf)
    obtain rfl : i = i' := h.latest.eq hlatest
    obtain ⟨rfl, hword⟩ := (h.word_iff word hsome).2 hon
    obtain ⟨point, hpoint⟩ := Option.isSome_iff_exists.1 hposition
    have hunder : frame.word? view metrics = some _ := PrimaryFrame.word?_of_position hpoint
    exact ⟨rfl, hsome, by rw [hunder, hword _ hunder]⟩
  · rintro ⟨rfl, hsome, hunder⟩
    have hposition : frame.position.isSome = true := by
      rw [PrimaryFrame.word?] at hunder
      rw [← Option.isSome_map, hunder, Option.isSome_some]
    have hon : frame.IsOn view metrics word := (PrimaryFrame.isOn_of_word? hunder).2 rfl
    exact ⟨hsome, ⟨frame, hframe, hreleased, hposition⟩, i, h.latest, h.down,
      (h.word_iff word hsome).1 ⟨rfl, hon⟩⟩

/-- While the button is down, nothing is clicked. -/
theorem not_isClick_of_down (hdown : frame.released = false) (word : TextRange) :
    ¬ IsClick view metrics frames n word := by
  rintro ⟨-, ⟨f, hf, hreleased, -⟩, -⟩
  obtain rfl : frame = f := Option.some.inj (hframe.symm.trans hf)
  rw [hdown] at hreleased
  exact Bool.false_ne_true hreleased

/-- What a frame can do: nothing where no press is going on, follow the press, or end it. -/
theorem routePrimary_cases (h : Tracks view metrics frames n state) :
    (state.pressing = false ∧ frame.starts = false ∧ routePrimary metrics state frame = state) ∨
    (∃ i selection selection', Follows view metrics frames n i frame selection ∧
      frame.released = false ∧
      (∀ word, word.isEmpty = false →
        (selection' = word ↔ selection = word ∧ frame.IsOn view metrics word)) ∧
      routePrimary metrics state frame = ⟨view.holding selection' state.view.events, true⟩) ∨
    (∃ i selection selection', Follows view metrics frames n i frame selection ∧
      frame.released = true ∧ selection'.isEmpty = true ∧
      routePrimary metrics state frame = ⟨view.holding selection' (state.view.events ++
        if selection.isEmpty = false ∧ frame.word? view metrics = some selection then
          view.clickEvents selection
        else []), false⟩) := by
  unfold routePrimary
  cases hpressing : (startPress state metrics frame).pressing with
  | false =>
    have hstarts : frame.starts = false := by
      refine eq_false_of_ne_true fun hstarts => ?_
      obtain ⟨word, -, hstart⟩ := startPress_of_starts h.view_eq hstarts
      rw [hstart] at hpressing
      exact Bool.false_ne_true hpressing.symm
    rw [startPress_of_not_starts hstarts] at hpressing ⊢
    refine Or.inl ⟨hpressing, hstarts, ?_⟩
    simp only [hpressing, Bool.false_eq_true, if_false]
  | true =>
    obtain ⟨i, selection, hstart, hfollows⟩ := exists_follows hframe h hpressing
    rw [hstart]
    simp only [if_true]
    cases hreleased : frame.released with
    | false =>
      obtain ⟨selection', hfollow, hword⟩ :=
        followPress_of_down view metrics selection state.view.events hreleased
      refine Or.inr (Or.inl ⟨i, selection, selection', hfollows, rfl, hword, ?_⟩)
      rw [hfollow, Bool.not_false]
    | true =>
      obtain ⟨selection', hempty, hfollow⟩ :=
        followPress_of_released view metrics selection state.view.events hreleased
      refine Or.inr (Or.inr ⟨i, selection, selection', hfollows, rfl, hempty, ?_⟩)
      rw [hfollow, Bool.not_true]

/-- **A step of what is known.** -/
theorem tracks_routePrimary (h : Tracks view metrics frames n state) :
    Tracks view metrics frames (n + 1) (routePrimary metrics state frame) := by
  rcases routePrimary_cases hframe h with
    ⟨hidle, hstarts, hroute⟩ | ⟨i, selection, selection', hfollows, hdown, hword, hroute⟩ |
      ⟨i, selection, selection', hfollows, hreleased, hempty, hroute⟩
  · rw [hroute]
    obtain ⟨hempty, hno⟩ := h.idle hidle
    refine ⟨h.view_eq, fun hpressing => absurd (hidle.symm.trans hpressing) Bool.false_ne_true,
      fun _ => ⟨hempty, fun i hlatest hdown => ?_⟩⟩
    have hlatest' := (latestStart_succ hframe hstarts).1 hlatest
    exact hno i hlatest' ((throughout_succ hframe (Nat.le_of_lt hlatest'.lt)).1 hdown).1
  · rw [hroute]
    have hle : i ≤ n := Nat.le_of_lt_succ hfollows.latest.lt
    have hdown' := (throughout_succ hframe hle).2 ⟨hfollows.down, hdown⟩
    refine ⟨rfl, fun _ => ⟨i, hfollows.latest, hdown', fun word hsome => ?_⟩, nofun⟩
    exact (hword word hsome).trans (hfollows.word_iff word hsome)
  · rw [hroute]
    refine ⟨rfl, nofun, fun _ => ⟨hempty, fun i' hlatest hdown => ?_⟩⟩
    have hle : i' ≤ n := Nat.le_of_lt_succ hlatest.lt
    have hup : frame.released = false := ((throughout_succ hframe hle).1 hdown).2
    rw [hreleased] at hup
    exact Bool.false_ne_true hup.symm

/-- A frame that ends a click adds its events. -/
theorem events_of_isClick (h : Tracks view metrics frames n state) {word : TextRange}
    (hclick : IsClick view metrics frames n word) :
    (routePrimary metrics state frame).view.events =
      state.view.events ++ view.clickEvents word := by
  rcases routePrimary_cases hframe h with
    ⟨hidle, hstarts, -⟩ | ⟨i, selection, selection', hfollows, hdown, -, hroute⟩ |
      ⟨i, selection, selection', hfollows, hreleased, -, hroute⟩
  · obtain ⟨-, -, i, hlatest, hdown, -⟩ := hclick
    exact absurd hdown ((h.idle hidle).2 i ((latestStart_succ hframe hstarts).1 hlatest))
  · exact absurd hclick (not_isClick_of_down hframe hdown word)
  · obtain ⟨rfl, hon⟩ := (hfollows.isClick_iff hframe hreleased).1 hclick
    rw [hroute, if_pos hon]
    rfl

/-- Any other frame adds no event. -/
theorem events_of_not_isClick (h : Tracks view metrics frames n state)
    (hnone : ∀ word, ¬ IsClick view metrics frames n word) :
    (routePrimary metrics state frame).view.events = state.view.events := by
  rcases routePrimary_cases hframe h with
    ⟨-, -, hroute⟩ | ⟨i, selection, selection', -, -, -, hroute⟩ |
      ⟨i, selection, selection', hfollows, hreleased, -, hroute⟩
  · rw [hroute]
  · rw [hroute]
    rfl
  · have hoff : ¬ (selection.isEmpty = false ∧ frame.word? view metrics = some selection) :=
      fun hon => hnone selection ((hfollows.isClick_iff hframe hreleased).2 ⟨rfl, hon⟩)
    rw [hroute, if_neg hoff, List.append_nil]
    rfl

/-- A release ends the press and the selection. -/
theorem routePrimary_of_released (h : Tracks view metrics frames n state)
    (hreleased : frame.released = true) (hpressing : state.pressing = true ∨ frame.starts = true) :
    (routePrimary metrics state frame).view.selection.isEmpty = true ∧
      (routePrimary metrics state frame).pressing = false := by
  rcases routePrimary_cases hframe h with
    ⟨hidle, hstarts, -⟩ | ⟨i, selection, selection', -, hdown, -, -⟩ |
      ⟨i, selection, selection', -, -, hempty, hroute⟩
  · simp [hidle, hstarts] at hpressing
  · exact absurd (hdown.symm.trans hreleased) Bool.false_ne_true
  · rw [hroute]
    exact ⟨hempty, rfl⟩

/-! ### Runs of frames -/

theorem routeAll_take_succ (state : Pressing α) :
    routeAll metrics state (frames.take (n + 1)) =
      routePrimary metrics (routeAll metrics state (frames.take n)) frame := by
  rw [routeAll, List.take_add_one, hframe, List.foldl_append]
  rfl

omit hframe

/-- **What is known after any number of frames.** -/
theorem tracks_routeAll (hselection : view.selection.isEmpty = true) (hle : n ≤ frames.length) :
    Tracks view metrics frames n (routeAll metrics ⟨view, false⟩ (frames.take n)) := by
  induction n with
  | zero =>
    exact ⟨rfl, nofun, fun _ => ⟨hselection, fun i h => absurd h.lt (Nat.not_lt_zero i)⟩⟩
  | succ n ih =>
    have hframe : frames[n]? = some frames[n] := List.getElem?_eq_getElem hle
    rw [routeAll_take_succ hframe]
    exact tracks_routePrimary hframe (ih (Nat.le_of_lt hle))

/-- **Clicks.** In any run of frames on a view of a file with nothing selected, a frame adds the
event that a word is activated if and only if it ends a click on the word. Behind that event it adds
the one that leads to the only definition of the only symbol of the word, if there is such a
definition, and it adds no others. A release in the course of a press ends the press and the
selection. -/
theorem routeAll_clicks (metrics : Metrics α) {file : SourceFile} (hfile : view.file = some file)
    (hselection : view.selection.isEmpty = true) {j : Nat} {frame : PrimaryFrame α}
    (hframe : frames[j]? = some frame) :
    let before := routeAll metrics ⟨view, false⟩ (frames.take j)
    let after := routeAll metrics ⟨view, false⟩ (frames.take (j + 1))
    (∃ added, after.view.events = before.view.events ++ added ∧
      (∀ word, .wordActivated word ∈ added ↔ IsClick view metrics frames j word) ∧
      (∀ word, IsClick view metrics frames j word → ∃ target : Option SymbolLocation,
        added = .wordActivated word :: target.toList.map .navigate ∧
        ∀ place, target = some place ↔ ∃ symbol,
          view.symbols.symbolsAt file (word.start.line + 1) (word.start.column + 1) = [symbol] ∧
            view.symbols.definition? symbol = some place) ∧
      ((∀ word, ¬ IsClick view metrics frames j word) → added = [])) ∧
    (frame.released = true → before.pressing = true ∨ frame.starts = true →
      after.view.selection.isEmpty = true ∧ after.pressing = false) := by
  intro before after
  have hj : j < frames.length := (List.getElem?_eq_some_iff.1 hframe).1
  have htracks : Tracks view metrics frames j before := tracks_routeAll hselection (Nat.le_of_lt hj)
  have hafter : after = routePrimary metrics before frame := routeAll_take_succ hframe _
  have hsymbols (word : TextRange) : view.symbolsAt word.start =
      view.symbols.symbolsAt file (word.start.line + 1) (word.start.column + 1) := by
    rw [symbolsAt, hfile]
  rw [hafter]
  refine ⟨?_, routePrimary_of_released hframe htracks⟩
  by_cases hclick : ∃ word, IsClick view metrics frames j word
  · obtain ⟨word, hword⟩ := hclick
    refine ⟨view.clickEvents word, events_of_isClick hframe htracks hword, fun word' => ?_,
      fun word' hword' => ?_, fun hnone => absurd hword (hnone word)⟩
    · rw [wordActivated_mem_clickEvents]
      exact ⟨fun h => h ▸ hword, fun h => h.eq hword⟩
    · obtain rfl : word' = word := hword'.eq hword
      refine ⟨view.target? word', rfl, fun place => ?_⟩
      rw [target?_eq_some_iff, hsymbols]
  · have hnone : ∀ word, ¬ IsClick view metrics frames j word := not_exists.1 hclick
    refine ⟨[], ?_, fun word => ?_, fun word hword => absurd hword (hnone word), fun _ => rfl⟩
    · rw [events_of_not_isClick hframe htracks hnone, List.append_nil]
    · exact iff_of_false List.not_mem_nil (hnone word)

/-- A click on the first word of a text that moves under the pointer between press and release. -/
theorem routeAll_clicks_moved_text :
    let file : SourceFile := .ofText none ['a', 'b', ' ', 'c']
    let metrics : Metrics Rat := ⟨fun _ => 10, 20, 3⟩
    let view : View Rat := (ofSource .empty .plain).display (some file)
    let press : PrimaryFrame Rat := ⟨true, false, some ⟨5, 10⟩, true, ⟨0, 0⟩⟩
    let release : PrimaryFrame Rat := ⟨false, true, some ⟨18, 30⟩, true, ⟨0, 10⟩⟩
    view.file = some file ∧ view.selection.isEmpty = true ∧ [press, release][1]? = some release ∧
      IsClick view metrics [press, release] 1 (.onLine 0 0 2) := by
  intro file metrics view press release
  have hfile : view.file = some file := rfl
  have hselection : view.selection.isEmpty = true := rfl
  have hframe : [press, release][1]? = some release := rfl
  obtain ⟨⟨added, hadded, hclick, -⟩, -⟩ :=
    routeAll_clicks metrics hfile hselection hframe
  have hafter : (routeAll metrics ⟨view, false⟩ [press, release]).view.events =
      [.wordActivated (.onLine 0 0 2)] := by decide +kernel
  have hbefore : (routeAll metrics ⟨view, false⟩ ([press, release].take 1)).view.events = [] := by
    decide +kernel
  have hwords := hadded.symm.trans hafter
  rw [hbefore, List.nil_append] at hwords
  refine ⟨hfile, hselection, hframe, (hclick _).1 ?_⟩
  rw [hwords]
  exact List.mem_singleton_self _

end View

end CodeBrowser
