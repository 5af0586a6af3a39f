import CodeBrowser.Proofs.Text.Utf16
import CodeBrowser.Text.Line

/-!
# Lines as pieces of their text

The line index counts units from the start of the text, and takes off the length of each terminator.
Here the text is cut into its lines and their terminators instead, and the pieces are placed one
behind the other. Nothing in the content of a piece ends a line, so the length of the terminator is
found at the end of the whole, and both ways lead to the same lines.

## Main definitions

* `splitLines`: each line of a text with its terminator.
* `placeLines`: the lines of consecutive pieces.
* `IsPiece`: a content and what ends it.

## Main results

* `textLines_eq`: the lines with their terminators are the pieces, and one empty line at times.
* `terminatorLength_wholePiece`: what ends a piece has the length that is taken off.
* `lineSpans_eq`: the spans of a text are those of its pieces.
* `lineIndex_eq_placeLines`: the line index places the pieces of the text.
-/

namespace CodeBrowser

/-- The lines of a text in order, each as its content and its terminator. -/
def splitLines : List Char → List (List Char × List Char)
  | [] => []
  | '\r' :: '\n' :: rest => ([], ['\r', '\n']) :: splitLines rest
  | c :: rest =>
    if isLineBreak c then ([], [c]) :: splitLines rest
    else
      match splitLines rest with
      | [] => [([c], [])]
      | (content, terminator) :: more => (c :: content, terminator) :: more

/-- The lines of consecutive pieces of text, the first of which starts at offset `start`. -/
def placeLines (start : Nat) : List (List Char × List Char) → List Line
  | [] => []
  | (content, terminator) :: rest =>
    let units := toUnits content
    ⟨start, units⟩ :: placeLines (start + units.length + (toUnits terminator).length) rest

/-- A piece as it stands in the text. -/
def wholePiece (piece : List Char × List Char) : List Char := piece.1 ++ piece.2

/-- Nothing in a content ends a line, and what follows it does, unless it is the end of the text. -/
structure IsPiece (piece : List Char × List Char) : Prop where
  plain : ∀ c ∈ piece.1, isLineBreak c = false
  ended : piece.2 = ['\r', '\n'] ∨ (∃ c, isLineBreak c = true ∧ piece.2 = [c]) ∨
    piece.2 = [] ∧ piece.1 ≠ []

/-! ### The pieces of a text -/

theorem isPiece_of_mem_splitLines (text : List Char) :
    ∀ piece ∈ splitLines text, IsPiece piece := by
  have hplain : ∀ c ∈ ([] : List Char), isLineBreak c = false := fun _ h => absurd h List.not_mem_nil
  fun_induction splitLines text with
  | case1 => exact fun _ h => absurd h List.not_mem_nil
  | case2 rest ih => exact List.forall_mem_cons.2 ⟨⟨hplain, .inl rfl⟩, ih⟩
  | case3 c rest hcrlf hbreak ih =>
    exact List.forall_mem_cons.2 ⟨⟨hplain, .inr (.inl ⟨c, hbreak, rfl⟩)⟩, ih⟩
  | case4 c rest hcrlf hbreak hnil ih =>
    refine List.forall_mem_cons.2 ⟨⟨?_, .inr (.inr ⟨rfl, List.cons_ne_nil c []⟩)⟩, by simp⟩
    simpa using hbreak
  | case5 c rest hcrlf hbreak content terminator more hcons ih =>
    rw [hcons] at ih
    obtain ⟨⟨hcontent, hended⟩, hmore⟩ := List.forall_mem_cons.1 ih
    refine List.forall_mem_cons.2 ⟨⟨List.forall_mem_cons.2 ⟨by simpa using hbreak, hcontent⟩, ?_⟩,
      hmore⟩
    exact hended.imp_right (.imp_right fun h => ⟨h.1, List.cons_ne_nil c content⟩)

/-- The pieces make up the text. -/
theorem flatMap_wholePiece (text : List Char) : (splitLines text).flatMap wholePiece = text := by
  fun_induction splitLines text with
  | case1 => rfl
  | case2 rest ih => rw [List.flatMap_cons, ih]; rfl
  | case3 c rest hcrlf hbreak ih => rw [List.flatMap_cons, ih]; rfl
  | case4 c rest hcrlf hbreak hnil ih =>
    rw [hnil] at ih
    rw [← ih]
    rfl
  | case5 c rest hcrlf hbreak content terminator more hcons ih =>
    rw [hcons, List.flatMap_cons] at ih
    rw [List.flatMap_cons, ← ih]
    rfl

/-- **The lines with their terminators are the pieces.** Behind them stands one more line, an empty
one, unless the last piece has no terminator. -/
theorem textLines_eq (text : List Char) : ∃ behind,
    textLines text = (splitLines text).map wholePiece ++ behind ∧
      (behind = [[]] ∨ behind = [] ∧ ∃ content, (splitLines text).getLast? = some (content, [])) := by
  fun_induction splitLines text with
  | case1 => exact ⟨[[]], rfl, .inl rfl⟩
  | case2 rest ih =>
    obtain ⟨behind, hlines, hbehind⟩ := ih
    refine ⟨behind, by rw [textLines, hlines]; rfl, hbehind.imp_right fun ⟨hnil, content, hlast⟩ => ?_⟩
    exact ⟨hnil, content, by rw [List.getLast?_cons, hlast]; rfl⟩
  | case3 c rest hcrlf hbreak ih =>
    obtain ⟨behind, hlines, hbehind⟩ := ih
    refine ⟨behind, ?_, hbehind.imp_right fun ⟨hnil, content, hlast⟩ => ?_⟩
    · rw [textLines, if_pos hbreak, hlines]
      · rfl
      · exact hcrlf
    · exact ⟨hnil, content, by rw [List.getLast?_cons, hlast]; rfl⟩
  | case4 c rest hcrlf hbreak hnil ih =>
    obtain ⟨behind, hlines, hbehind⟩ := ih
    rw [hnil] at hlines hbehind
    obtain rfl : behind = [[]] := hbehind.resolve_right fun ⟨_, _, hlast⟩ => by simp at hlast
    refine ⟨[], ?_, .inr ⟨rfl, [c], rfl⟩⟩
    rw [textLines, if_neg hbreak, hlines]
    · rfl
    · exact hcrlf
  | case5 c rest hcrlf hbreak content terminator more hcons ih =>
    obtain ⟨behind, hlines, hbehind⟩ := ih
    rw [hcons] at hlines hbehind
    refine ⟨behind, ?_, hbehind.imp_right fun ⟨hnil, last, hlast⟩ => ⟨hnil, ?_⟩⟩
    · rw [textLines, if_neg hbreak, hlines]
      · rfl
      · exact hcrlf
    · cases more with
      | nil =>
        obtain ⟨rfl, rfl⟩ := Prod.mk.inj (Option.some.inj hlast)
        exact ⟨c :: content, rfl⟩
      | cons piece more => exact ⟨last, hlast⟩

/-! ### Terminators -/

theorem length_toUnits_lineBreak {c : Char} (h : isLineBreak c = true) :
    (toUnits [c]).length = 1 := by
  simp only [isLineBreak, decide_eq_true_eq, List.mem_cons, List.not_mem_nil, or_false] at h
  rcases h with rfl | rfl | rfl | rfl | rfl | rfl | rfl <;> decide

/-- One character at the end of a line, unless it completes CR LF. -/
theorem terminatorLength_append_singleton {front : List Char} {c : Char}
    (h : c = '\n' → '\r' ∉ front) :
    terminatorLength (front ++ [c]) = if isLineBreak c then 1 else 0 := by
  have hreverse : (front ++ [c]).reverse = c :: front.reverse := by simp
  unfold terminatorLength
  rw [hreverse]
  split
  · rename_i heq
    exact absurd heq (List.cons_ne_nil c _)
  · rename_i heq
    obtain ⟨hc, hfront⟩ := List.cons.inj heq
    have hcr : '\r' ∈ front := by
      rw [← List.mem_reverse, hfront]
      exact List.mem_cons_self
    exact absurd hcr (h hc)
  · rename_i heq
    rw [(List.cons.inj heq).1]

/-- The terminator of a piece has the length that is found at the end of the piece. -/
theorem terminatorLength_wholePiece {piece : List Char × List Char} (h : IsPiece piece) :
    terminatorLength (wholePiece piece) = (toUnits piece.2).length := by
  obtain ⟨content, terminator⟩ := piece
  have hcr : '\r' ∉ content := fun hcr => absurd (h.plain _ hcr) (by decide)
  rcases h.ended with hcrlf | ⟨c, hbreak, hterminator⟩ | ⟨hnil, hne⟩
  · obtain rfl : terminator = ['\r', '\n'] := hcrlf
    rw [wholePiece, terminatorLength, List.reverse_append]
    rfl
  · obtain rfl : terminator = [c] := hterminator
    exact (terminatorLength_append_singleton fun _ => hcr).trans
      ((if_pos hbreak).trans (length_toUnits_lineBreak hbreak).symm)
  · obtain rfl : terminator = [] := hnil
    obtain ⟨front, last, rfl⟩ := (List.eq_nil_or_concat content).resolve_left hne
    have hlast : isLineBreak last = false := h.plain last (by simp)
    have hplain : last ≠ '\n' := fun heq => absurd (heq ▸ hlast) (by decide)
    rw [wholePiece, List.append_nil, List.concat_eq_append,
      terminatorLength_append_singleton fun heq => absurd heq hplain, hlast]
    rfl

/-- What is left of a piece without its terminator is its content. -/
theorem length_wholePiece_sub {piece : List Char × List Char} (h : IsPiece piece) :
    (toUnits (wholePiece piece)).length - terminatorLength (wholePiece piece) =
      (toUnits piece.1).length := by
  rw [terminatorLength_wholePiece h, wholePiece, toUnits_append, List.length_append,
    Nat.add_sub_cancel]

/-! ### The line index -/

theorem spansFrom_append (start : Nat) (lines more : List (List Char)) :
    spansFrom start (lines ++ more) =
      spansFrom start lines ++ spansFrom (start + (toUnits lines.flatten).length) more := by
  induction lines generalizing start with
  | nil => rfl
  | cons line lines ih =>
    rw [List.cons_append, spansFrom, spansFrom, ih, List.flatten_cons, toUnits_append,
      List.length_append, ← Nat.add_assoc]
    rfl

/-- The spans of a text are those of its pieces. -/
theorem lineSpans_eq (text : List Char) :
    lineSpans text = spansFrom 0 ((splitLines text).map wholePiece) := by
  obtain ⟨behind, hlines, rfl | ⟨rfl, content, hlast⟩⟩ := textLines_eq text
  · rw [lineSpans, hlines, spansFrom_append]
    simp [spansFrom, toUnits]
  · obtain ⟨front, hfront⟩ := List.getLast?_eq_some_iff.1 hlast
    have hpiece : IsPiece (content, []) :=
      isPiece_of_mem_splitLines text _ (hfront ▸ List.mem_append_right _ List.mem_cons_self)
    have hne : content ≠ [] := by
      rcases hpiece.ended with h | ⟨_, -, h⟩ | ⟨-, h⟩
      · exact absurd h (by simp)
      · exact absurd h (by simp)
      · exact h
    have hlength : toUnits content ≠ [] := toUnits_ne_nil hne
    rw [lineSpans, hlines, List.append_nil, hfront, List.map_append, spansFrom_append]
    simp [spansFrom, length_wholePiece_sub hpiece, hlength]

theorem extract_append_append (before part rest : List CodeUnit) :
    (before ++ part ++ rest).extract before.length (before.length + part.length) = part := by
  simp [List.extract]

/-- The lines at the spans of consecutive pieces, which stand behind some units. -/
theorem map_line_spansFrom (pieces : List (List Char × List Char))
    (hpieces : ∀ piece ∈ pieces, IsPiece piece) (before : List CodeUnit) :
    (spansFrom before.length (pieces.map wholePiece)).map
        (·.line (before ++ toUnits (pieces.flatMap wholePiece))) =
      placeLines before.length pieces := by
  induction pieces generalizing before with
  | nil => rfl
  | cons piece pieces ih =>
    obtain ⟨hpiece, hpieces⟩ := List.forall_mem_cons.1 hpieces
    have hunits : before ++ toUnits ((piece :: pieces).flatMap wholePiece) =
        before ++ toUnits piece.1 ++ (toUnits piece.2 ++ toUnits (pieces.flatMap wholePiece)) := by
      simp only [List.flatMap_cons, wholePiece, toUnits_append, List.append_assoc]
    have hrest := ih hpieces (before ++ toUnits (wholePiece piece))
    have hline : LineSpan.line ⟨before.length, (toUnits piece.1).length⟩
        (before ++ toUnits ((piece :: pieces).flatMap wholePiece)) =
          ⟨before.length, toUnits piece.1⟩ := by
      rw [LineSpan.line, hunits, extract_append_append]
    rw [List.append_assoc, ← toUnits_append, ← List.flatMap_cons, List.length_append] at hrest
    rw [List.map_cons, spansFrom, length_wholePiece_sub hpiece, List.map_cons, hline, hrest,
      placeLines, wholePiece, toUnits_append, List.length_append, ← Nat.add_assoc]

/-- **The line index places the pieces of the text.** -/
theorem lineIndex_eq_placeLines (text : List Char) :
    lineIndex text = placeLines 0 (splitLines text) := by
  have hlines := map_line_spansFrom (splitLines text) (isPiece_of_mem_splitLines text) []
  rw [List.nil_append, flatMap_wholePiece] at hlines
  rw [lineIndex, lineSpans_eq]
  exact hlines

end CodeBrowser
