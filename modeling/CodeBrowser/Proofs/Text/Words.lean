import CodeBrowser.Proofs.Layout.Walk

/-!
# Words

A word is a run of identifier characters that goes on at neither end, or a single other character.
No half of a surrogate pair is an identifier character, so that a word consists of whole characters
of its line either way.

## Main definitions

* `isIdentifierAt`: whether an identifier character stands at a column.
* `IdentifierRun`: the columns of a run of identifier characters that goes on at neither end.
* `SourceFile.IsWord`: a range is a word of a file.

## Main results

* `identifierRun_wordColumns`, `wordColumns_eq_char`: the columns of a word in both cases.
* `charStart_wordColumns`: a word starts and ends between characters, and within its line.
* `wordColumns_of_mem`: every column of a word leads to the word.
* `SourceFile.wordAt_eq_onLine`: the word at a place where a character stands.
* `SourceFile.wordAt_eq_none_or_isWord`: what is found at a place is a word, if it is anything.
-/

namespace CodeBrowser

/-! ### Identifier characters -/

theorem isHighSurrogate_eq_false_of_isIdentifierUnit {u : CodeUnit}
    (h : isIdentifierUnit u = true) : isHighSurrogate u = false := by
  simp only [isIdentifierUnit, isHighSurrogate, Bool.or_eq_true, Bool.and_eq_true,
    decide_eq_true_eq, beq_iff_eq, UInt16.le_iff_toNat_le, Bool.and_eq_false_iff,
    decide_eq_false_iff_not, ← UInt16.toNat_inj, UInt16.reduceToNat] at h ⊢
  omega

theorem isLowSurrogate_eq_false_of_isIdentifierUnit {u : CodeUnit}
    (h : isIdentifierUnit u = true) : isLowSurrogate u = false := by
  simp only [isIdentifierUnit, isLowSurrogate, Bool.or_eq_true, Bool.and_eq_true,
    decide_eq_true_eq, beq_iff_eq, UInt16.le_iff_toNat_le, Bool.and_eq_false_iff,
    decide_eq_false_iff_not, ← UInt16.toNat_inj, UInt16.reduceToNat] at h ⊢
  omega

/-- Whether an identifier character stands at the column. -/
def isIdentifierAt (content : List CodeUnit) (column : Nat) : Bool :=
  content[column]?.any isIdentifierUnit

theorem lt_length_of_isIdentifierAt {content : List CodeUnit} {column : Nat}
    (h : isIdentifierAt content column = true) : column < content.length := by
  by_contra hle
  rw [isIdentifierAt, List.getElem?_eq_none (Nat.le_of_not_lt hle)] at h
  exact Bool.false_ne_true h

/-- Characters begin at an identifier character and behind it. -/
theorem charStart_of_isIdentifierAt {content : List CodeUnit} {column : Nat}
    (h : isIdentifierAt content column = true) :
    charStart content column = column ∧ charStart content (column + 1) = column + 1 := by
  obtain ⟨u, hu, hident⟩ := (Option.any_eq_true _ _).1 h
  constructor
  · refine charStart_eq_iff.2 fun hpos => ?_
    rw [isPairAt, Nat.sub_add_cancel hpos, hu, Option.any_some,
      isLowSurrogate_eq_false_of_isIdentifierUnit hident, Bool.and_false]
  · refine charStart_eq_iff.2 fun _ => ?_
    rw [Nat.add_sub_cancel, isPairAt, hu, Option.any_some,
      isHighSurrogate_eq_false_of_isIdentifierUnit hident, Bool.false_and]

/-! ### Runs -/

/-- The columns from `start` up to `stop` are a run of identifier characters that goes on at
neither end. -/
structure IdentifierRun (content : List CodeUnit) (start stop : Nat) : Prop where
  isIdentifierAt_of_mem : ∀ c, start ≤ c → c < stop → isIdentifierAt content c = true
  before : 0 < start → isIdentifierAt content (start - 1) = false
  behind : isIdentifierAt content stop = false

/-- A run contains each run that it meets. -/
theorem IdentifierRun.le_and_le {content : List CodeUnit} {start stop start' stop' column : Nat}
    (h : IdentifierRun content start stop) (h' : IdentifierRun content start' stop')
    (hle : start ≤ column) (hlt : column < stop) (hle' : start' ≤ column) (hlt' : column < stop') :
    start ≤ start' ∧ stop' ≤ stop := by
  constructor
  · by_contra hnot
    have hident := h'.isIdentifierAt_of_mem (start - 1) (by omega) (by omega)
    rw [h.before (by omega)] at hident
    exact Bool.false_ne_true hident
  · by_contra hnot
    have hident := h'.isIdentifierAt_of_mem stop (by omega) (by omega)
    rw [h.behind] at hident
    exact Bool.false_ne_true hident

/-- Runs that meet are one run. -/
theorem IdentifierRun.unique {content : List CodeUnit} {start stop start' stop' column : Nat}
    (h : IdentifierRun content start stop) (h' : IdentifierRun content start' stop')
    (hle : start ≤ column) (hlt : column < stop) (hle' : start' ≤ column) (hlt' : column < stop') :
    (start', stop') = (start, stop) := by
  obtain ⟨hstart, hstop⟩ := h.le_and_le h' hle hlt hle' hlt'
  obtain ⟨hstart', hstop'⟩ := h'.le_and_le h hle' hlt' hle hlt
  rw [Nat.le_antisymm hstart hstart', Nat.le_antisymm hstop hstop']

/-- What a search passes over has the property searched for, and what it stops at has not. -/
theorem any_getElem?_takeWhile {β : Type} (p : β → Bool) : (l : List β) →
    (∀ i < (l.takeWhile p).length, l[i]?.any p = true) ∧
      l[(l.takeWhile p).length]?.any p = false
  | [] => by simp
  | a :: l => by
      obtain ⟨hpass, hstop⟩ := any_getElem?_takeWhile p l
      rw [List.takeWhile_cons]
      split_ifs with ha
      · refine ⟨fun i hi => ?_, by simpa using hstop⟩
        cases i with
        | zero => simpa using ha
        | succ i => simpa using hpass i (by simpa using hi)
      · simpa using ha

variable {content : List CodeUnit} {column : Nat}

/-- The units from a column on, up to the first that is not an identifier character. -/
theorem isIdentifierAt_forward (content : List CodeUnit) (column : Nat) :
    let after := ((content.drop column).takeWhile isIdentifierUnit).length
    (∀ c, column ≤ c → c < column + after → isIdentifierAt content c = true) ∧
      isIdentifierAt content (column + after) = false := by
  intro after
  obtain ⟨hpass, hstop⟩ := any_getElem?_takeWhile isIdentifierUnit (content.drop column)
  constructor
  · intro c hle hlt
    have hc := hpass (c - column) (by omega)
    rwa [List.getElem?_drop, Nat.add_sub_cancel' hle] at hc
  · rwa [List.getElem?_drop] at hstop

/-- The units before a column, back to the first that is not an identifier character. -/
theorem isIdentifierAt_backward (h : column ≤ content.length) :
    let before := ((content.take column).reverse.takeWhile isIdentifierUnit).length
    (∀ c, column - before ≤ c → c < column → isIdentifierAt content c = true) ∧
      (0 < column - before → isIdentifierAt content (column - before - 1) = false) := by
  intro before
  obtain ⟨hpass, hstop⟩ := any_getElem?_takeWhile isIdentifierUnit (content.take column).reverse
  have hback (i : Nat) (hi : i < column) :
      (content.take column).reverse[i]? = content[column - 1 - i]? := by
    have hlength : (content.take column).length = column := List.length_take_of_le h
    rw [List.getElem?_reverse (by omega), hlength, List.getElem?_take_of_lt (by omega)]
  constructor
  · intro c hle hlt
    have hc := hpass (column - 1 - c) (by omega)
    rwa [hback _ (by omega), show column - 1 - (column - 1 - c) = c by omega] at hc
  · intro hpos
    rwa [hback _ (by omega), show column - 1 - before = column - before - 1 by omega] at hstop

/-! ### The columns of a word -/

/-- The word at an identifier character is the run around it. -/
theorem identifierRun_wordColumns
    (h : isIdentifierAt content (charStart content column) = true) :
    IdentifierRun content (wordColumns content column).1 (wordColumns content column).2 ∧
      (wordColumns content column).1 ≤ charStart content column ∧
      charStart content column < (wordColumns content column).2 := by
  have hlt := lt_length_of_isIdentifierAt h
  obtain ⟨hforward, hbehind⟩ := isIdentifierAt_forward content (charStart content column)
  obtain ⟨hbackward, hbefore⟩ := isIdentifierAt_backward (Nat.le_of_lt hlt)
  have hword : wordColumns content column =
      (charStart content column - ((content.take (charStart content column)).reverse.takeWhile
          isIdentifierUnit).length,
        charStart content column + ((content.drop (charStart content column)).takeWhile
          isIdentifierUnit).length) :=
    if_pos h
  rw [hword]
  refine ⟨⟨fun c hle hc => ?_, hbefore, hbehind⟩, Nat.sub_le _ _, ?_⟩
  · rcases Nat.lt_or_ge c (charStart content column) with hc' | hc'
    · exact hbackward c hle hc'
    · exact hforward c hc' hc
  · by_contra hle
    have hzero : ((content.drop (charStart content column)).takeWhile
        isIdentifierUnit).length = 0 := by omega
    rw [hzero, Nat.add_zero, h] at hbehind
    exact Bool.false_ne_true hbehind.symm

/-- The word at any other character is the character alone. -/
theorem wordColumns_eq_char (h : isIdentifierAt content (charStart content column) = false) :
    wordColumns content column = (charStart content column,
      charStart content column + charLength content (charStart content column)) :=
  if_neg (by rw [← isIdentifierAt, h]; exact Bool.false_ne_true)

/-- **A word consists of whole characters.** It starts and ends between characters, and within its
line. -/
theorem charStart_wordColumns (h : column < content.length) :
    charStart content (wordColumns content column).1 = (wordColumns content column).1 ∧
      charStart content (wordColumns content column).2 = (wordColumns content column).2 ∧
      (wordColumns content column).1 < (wordColumns content column).2 ∧
      (wordColumns content column).2 ≤ content.length := by
  have hchar := charStart_le content column
  cases hident : isIdentifierAt content (charStart content column) with
  | true =>
    obtain ⟨hrun, hle, hlt⟩ := identifierRun_wordColumns hident
    have hfirst := hrun.isIdentifierAt_of_mem _ (Nat.le_refl _) (by omega)
    have hlast := hrun.isIdentifierAt_of_mem ((wordColumns content column).2 - 1) (by omega)
      (by omega)
    have hend := (charStart_of_isIdentifierAt hlast).2
    rw [Nat.sub_add_cancel (by omega)] at hend
    have := lt_length_of_isIdentifierAt hlast
    exact ⟨(charStart_of_isIdentifierAt hfirst).1, hend, by omega, by omega⟩
  | false =>
    rw [wordColumns_eq_char hident]
    have := charLength_pos content (charStart content column)
    exact ⟨charStart_charStart content column, charStart_add_charLength .., by omega,
      add_charLength_le (by omega)⟩

/-- The columns of a character belong to it. -/
theorem charStart_of_mem_char {start c : Nat} (hstart : charStart content start = start)
    (hle : start ≤ c) (hlt : c < start + charLength content start) :
    charStart content c = start := by
  rcases Nat.eq_or_lt_of_le hle with rfl | hsecond
  · exact hstart
  · unfold charLength at hlt
    split_ifs at hlt with hpair
    · obtain rfl : c = start + 1 := by omega
      simp [charStart, hpair]
    · omega

/-- **A word is the word at each of its columns.** -/
theorem wordColumns_of_mem {c : Nat} (hle : (wordColumns content column).1 ≤ c)
    (hlt : c < (wordColumns content column).2) :
    wordColumns content c = wordColumns content column := by
  cases hident : isIdentifierAt content (charStart content column) with
  | true =>
    obtain ⟨hrun, -, -⟩ := identifierRun_wordColumns hident
    have hc := hrun.isIdentifierAt_of_mem c hle hlt
    have hstart : charStart content c = c := (charStart_of_isIdentifierAt hc).1
    obtain ⟨hrun', hle', hlt'⟩ := identifierRun_wordColumns (hstart.symm ▸ hc)
    rw [hstart] at hle' hlt'
    exact hrun.unique hrun' hle hlt hle' hlt'
  | false =>
    rw [wordColumns_eq_char hident] at hle hlt ⊢
    have hstart := charStart_of_mem_char (charStart_charStart content column) hle hlt
    rw [wordColumns_eq_char (hstart.symm ▸ hident), hstart]

namespace SourceFile

variable {file : SourceFile} {loc : Location}

/-- The range is a word of the file: it is on one line of the file and not empty, it starts and ends
between characters, and each location in it leads to it. -/
structure IsWord (file : SourceFile) (range : TextRange) : Prop where
  line_lt : range.start.line < file.lineCount
  line_eq : range.stop.line = range.start.line
  column_lt : range.start.column < range.stop.column
  column_le : range.stop.column ≤ file.lineLength range.start.line
  start_whole : 0 < range.start.column →
    isPairAt (file.lineContent range.start.line) (range.start.column - 1) = false
  stop_whole : isPairAt (file.lineContent range.start.line) (range.stop.column - 1) = false
  wordAt_eq : ∀ column, range.start.column ≤ column → column < range.stop.column →
    file.wordAt ⟨range.start.line, column⟩ = range

/-- The word at a place where a character stands is on the line of the place. -/
theorem wordAt_eq_onLine (h : loc.pointsAtChar file = true) :
    file.wordAt loc = .onLine loc.line (wordColumns (file.lineContent loc.line) loc.column).1
      (wordColumns (file.lineContent loc.line) loc.column).2 := by
  rw [wordAt, if_pos h]

/-- **What is found at a place is a word**, if it is anything. -/
theorem wordAt_eq_none_or_isWord (file : SourceFile) (loc : Location) :
    file.wordAt loc = .none ∨ file.IsWord (file.wordAt loc) := by
  by_cases h : loc.pointsAtChar file = true
  · right
    rw [wordAt_eq_onLine h]
    simp only [Location.pointsAtChar, Bool.and_eq_true, decide_eq_true_eq] at h
    obtain ⟨hline, hcolumn⟩ := h
    obtain ⟨hstart, hstop, hlt, hle⟩ := charStart_wordColumns hcolumn
    refine ⟨hline, rfl, hlt, hle, charStart_eq_iff.1 hstart,
      charStart_eq_iff.1 hstop (Nat.zero_lt_of_lt hlt), fun column hfrom hto => ?_⟩
    have hchar : Location.pointsAtChar ⟨loc.line, column⟩ file = true := by
      simp only [Location.pointsAtChar, Bool.and_eq_true, decide_eq_true_eq]
      exact ⟨hline, Nat.lt_of_lt_of_le hto hle⟩
    exact (wordAt_eq_onLine hchar).trans (by rw [wordColumns_of_mem hfrom hto])
  · exact Or.inl (if_neg h)

/-- A word that is not empty is at a place where a character stands. -/
theorem pointsAtChar_of_wordAt (h : (file.wordAt loc).isEmpty = false) :
    loc.pointsAtChar file = true := by
  by_contra hnot
  rw [wordAt, if_neg hnot] at h
  exact Bool.false_ne_true h.symm

/-- The word at a place where a character stands is not empty. -/
theorem isEmpty_wordAt (h : loc.pointsAtChar file = true) : (file.wordAt loc).isEmpty = false := by
  rw [wordAt_eq_onLine h]
  simp only [Location.pointsAtChar, Bool.and_eq_true, decide_eq_true_eq] at h
  obtain ⟨-, -, hlt, -⟩ := charStart_wordColumns h.2
  simp [TextRange.isEmpty, TextRange.onLine, hlt.ne]

end SourceFile

end CodeBrowser
