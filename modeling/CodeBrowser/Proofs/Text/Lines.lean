import CodeBrowser.Proofs.Text.Pieces
import CodeBrowser.SourceFile
import Mathlib.Order.Monotone.Basic

/-!
# Lines as parts of their text

The code units of a text fall into lines, each with what ends it. How they may do so is written down
by itself (`FallsInto`), without the splitting of the text into characters: the lines stand one
behind the other, nothing inside a line ends one, and only a line that is not empty may end with the
text. The line index of every text is such a list of lines, so the offsets that it gives lead to the
lines, and no two lines share a unit.

## Main definitions

* `lineTerminators`, `isTerminatorUnit`: what ends a line.
* `EndsLine`, `FallsInto`: some units fall into some lines.

## Main results

* `fallsInto_placeLines`: a text falls into the lines of its index.
* `SourceFile.exists_units_eq`: the units of a file before, on and behind a line.
* `SourceFile.lineStart_add_lt`: the offsets of a line are offsets of the file.
* `SourceFile.lineStart_add_lineLength_le`: lines do not overlap.
-/

namespace CodeBrowser

/-- What can end a line, in code units. -/
def lineTerminators : List (List CodeUnit) :=
  [[0x0A], [0x0D, 0x0A], [0x0D], [0x0B], [0x0C], [0x85], [0x2028], [0x2029]]

/-- Whether a unit ends a line, alone or as a half of CR LF. -/
def isTerminatorUnit (u : CodeUnit) : Bool := u ∈ [0x0A, 0x0D, 0x0B, 0x0C, 0x85, 0x2028, 0x2029]

/-- Between its content and what comes after it, a line ends as it should: with a terminator, which
is not the first half of CR LF, or else with the text, if the line is not empty. -/
def EndsLine (content terminator rest : List CodeUnit) : Prop :=
  (terminator ∈ lineTerminators ∧ (terminator = [0x0D] → rest.head? ≠ some 0x0A)) ∨
    (terminator = [] ∧ rest = [] ∧ content ≠ [])

/-- The units of a text from an offset on fall into lines that stand one behind the other. -/
inductive FallsInto : Nat → List CodeUnit → List Line → Prop
  | nil (start : Nat) : FallsInto start [] []
  | cons {start : Nat} {content terminator rest : List CodeUnit} {lines : List Line}
      (hplain : ∀ u ∈ content, isTerminatorUnit u = false)
      (hend : EndsLine content terminator rest)
      (hrest : FallsInto (start + content.length + terminator.length) rest lines) :
      FallsInto start (content ++ terminator ++ rest) (⟨start, content⟩ :: lines)

/-! ### Terminators -/

theorem charUnits_mem_lineTerminators {c : Char} (h : isLineBreak c = true) :
    charUnits c ∈ lineTerminators := by
  simp only [isLineBreak, decide_eq_true_eq, List.mem_cons, List.not_mem_nil, or_false] at h
  rcases h with rfl | rfl | rfl | rfl | rfl | rfl | rfl <;> decide

/-- No unit of any other character ends a line. -/
theorem isTerminatorUnit_eq_false_of_mem {c : Char} {u : CodeUnit} (h : isLineBreak c = false)
    (hu : u ∈ charUnits c) : isTerminatorUnit u = false := by
  by_contra hterm
  simp only [isTerminatorUnit, Bool.not_eq_false, decide_eq_true_eq, List.mem_cons,
    List.not_mem_nil, or_false] at hterm
  rcases charUnits_cases c with ⟨v, hunits, hnumber, -, -⟩ | ⟨v, w, hunits, hhigh, hlow, -⟩
  · rw [hunits, List.mem_singleton] at hu
    subst hu
    have hbreak : isLineBreak c = true := by
      rw [← Char.ofNat_toNat c, ← hnumber]
      rcases hterm with rfl | rfl | rfl | rfl | rfl | rfl | rfl <;> decide
    rw [h] at hbreak
    exact Bool.false_ne_true hbreak
  · rw [hunits] at hu
    simp only [List.mem_cons, List.not_mem_nil, or_false] at hu
    rcases hu with rfl | rfl
    · rcases hterm with rfl | rfl | rfl | rfl | rfl | rfl | rfl <;> exact absurd hhigh (by decide)
    · rcases hterm with rfl | rfl | rfl | rfl | rfl | rfl | rfl <;> exact absurd hlow (by decide)

/-- A text that starts with the unit of a line feed starts with a line feed. -/
theorem eq_lineFeed_of_head? {text : List Char} (h : (toUnits text).head? = some 0x0A) :
    ∃ rest, text = '\n' :: rest := by
  cases text with
  | nil => exact absurd h (by decide)
  | cons c rest =>
    rw [toUnits_cons] at h
    rcases charUnits_cases c with ⟨u, hunits, -⟩ | ⟨u, v, hunits, hhigh, -⟩
    · rw [hunits, List.singleton_append, List.head?_cons, Option.some.injEq] at h
      subst h
      exact ⟨rest, by rw [charUnits_injective (hunits.trans (show _ = charUnits '\n' by decide))]⟩
    · rw [hunits, List.cons_append, List.head?_cons, Option.some.injEq] at h
      subst h
      exact absurd hhigh (by decide)

/-! ### Falling into lines -/

namespace FallsInto

variable {start : Nat} {units : List CodeUnit} {lines : List Line}

theorem units_eq_nil (h : FallsInto start units []) : units = [] := by
  cases h
  rfl

/-- The first line stands in front of the others. -/
theorem exists_of_cons {line : Line} (h : FallsInto start units (line :: lines)) :
    ∃ terminator rest, line.start = start ∧ units = line.content ++ terminator ++ rest ∧
      (∀ u ∈ line.content, isTerminatorUnit u = false) ∧
      EndsLine line.content terminator rest ∧
      FallsInto (start + line.content.length + terminator.length) rest lines := by
  cases h with
  | cons hplain hend hrest => exact ⟨_, _, rfl, rfl, hplain, hend, hrest⟩

/-- More text in front of the first line is a part of it, as long as nothing in it ends a line. -/
theorem prepend {front : List CodeUnit} {line : Line}
    (hfront : ∀ u ∈ front, isTerminatorUnit u = false)
    (h : FallsInto (start + front.length) units (line :: lines)) :
    FallsInto start (front ++ units) (⟨start, front ++ line.content⟩ :: lines) := by
  cases h with
  | @cons _ content terminator rest _ hplain hend hrest =>
    rw [← List.append_assoc, ← List.append_assoc]
    refine .cons ?_ ?_ ?_
    · intro u hu
      rcases List.mem_append.1 hu with hu | hu
      · exact hfront u hu
      · exact hplain u hu
    · rcases hend with hterm | ⟨hterm, hrest, hne⟩
      · exact Or.inl hterm
      · exact Or.inr ⟨hterm, hrest, by simp [hne]⟩
    · rwa [List.length_append, ← Nat.add_assoc]

/-- What stands before, on and behind a line. -/
theorem exists_split (h : FallsInto start units lines) :
    ∀ {i : Nat} {line : Line}, lines[i]? = some line →
      ∃ before terminator rest, units = before ++ line.content ++ terminator ++ rest ∧
        line.start = start + before.length ∧
        (∀ u ∈ line.content, isTerminatorUnit u = false) ∧
        EndsLine line.content terminator rest ∧
        FallsInto (line.start + line.content.length + terminator.length) rest
          (lines.drop (i + 1)) := by
  induction h with
  | nil start => simp
  | @cons start content terminator rest lines hplain hend hrest ih =>
    intro i line hline
    cases i with
    | zero =>
      obtain rfl : ⟨start, content⟩ = line := by simpa using hline
      exact ⟨[], terminator, rest, rfl, rfl, hplain, hend, hrest⟩
    | succ i =>
      obtain ⟨before, terminator', rest', hunits, hstart, hplain', hend', hrest'⟩ :=
        ih (by simpa using hline)
      refine ⟨content ++ terminator ++ before, terminator', rest', ?_, ?_, hplain', hend', hrest'⟩
      · rw [hunits]
        simp only [List.append_assoc]
      · rw [hstart, List.length_append, List.length_append]
        omega

end FallsInto

/-- **A text falls into its lines**, wherever it is placed. -/
theorem fallsInto_placeLines (text : List Char) (start : Nat) :
    FallsInto start (toUnits text) (placeLines start (splitLines text)) := by
  have hempty : ∀ u ∈ toUnits [], isTerminatorUnit u = false := by simp [toUnits]
  fun_induction splitLines text generalizing start with
  | case1 => exact .nil start
  | case2 rest ih =>
    have hunits : toUnits ('\r' :: '\n' :: rest) =
        toUnits [] ++ toUnits ['\r', '\n'] ++ toUnits rest := by simp [toUnits]
    rw [hunits, placeLines]
    exact .cons hempty (Or.inl ⟨by decide, fun h => absurd h (by decide)⟩) (ih _)
  | case3 c rest hcrlf hbreak ih =>
    have hunits : toUnits (c :: rest) = toUnits [] ++ toUnits [c] ++ toUnits rest := by
      simp [toUnits]
    rw [hunits, placeLines]
    refine .cons hempty (Or.inl ⟨?_, fun hcr hlf => ?_⟩) (ih _)
    · rw [toUnits_singleton]
      exact charUnits_mem_lineTerminators hbreak
    · obtain ⟨rest', rfl⟩ := eq_lineFeed_of_head? hlf
      rw [toUnits_singleton] at hcr
      exact hcrlf rest' (charUnits_injective (hcr.trans (show _ = charUnits '\r' by decide))) rfl
  | case4 c rest hcrlf hbreak hnil ih =>
    have hrest : toUnits rest = [] := (hnil ▸ ih start).units_eq_nil
    have hunits : toUnits (c :: rest) = toUnits [c] ++ toUnits [] ++ [] := by
      rw [toUnits_cons, hrest, toUnits_singleton]
      simp [toUnits]
    have hne : toUnits [c] ≠ [] := toUnits_ne_nil (List.cons_ne_nil c [])
    rw [hunits, placeLines, placeLines]
    refine .cons (fun u hu => ?_) (Or.inr ⟨rfl, rfl, hne⟩) (.nil _)
    rw [toUnits_singleton] at hu
    exact isTerminatorUnit_eq_false_of_mem (eq_false_of_ne_true hbreak) hu
  | case5 c rest hcrlf hbreak content terminator more hcons ih =>
    have hline := ih (start + (charUnits c).length)
    rw [hcons, placeLines] at hline
    rw [toUnits_cons, placeLines, toUnits_cons, List.length_append, ← Nat.add_assoc]
    exact hline.prepend fun u hu =>
      isTerminatorUnit_eq_false_of_mem (eq_false_of_ne_true hbreak) hu

/-! ### The lines of a file -/

namespace SourceFile

variable {file : SourceFile} {line : Nat}

/-- The units of a file fall into the lines of the file. -/
theorem fallsInto_lines (file : SourceFile) : FallsInto 0 file.units file.lines.toList := by
  rw [file.units_eq, file.lines_eq, lineIndex_eq_placeLines]
  exact fallsInto_placeLines file.text 0

theorem lineStart_of_lineCount_le (h : file.lineCount ≤ line) :
    file.lineStart line = file.unitCount := by
  rw [lineStart, Array.getElem?_eq_none h]

theorem lineLength_of_lineCount_le (h : file.lineCount ≤ line) : file.lineLength line = 0 := by
  rw [lineLength, lineContent, Array.getElem?_eq_none h]
  rfl

theorem lineStart_zero (file : SourceFile) : file.lineStart 0 = 0 := by
  have hlines := file.fallsInto_lines
  cases htoList : file.lines.toList with
  | nil =>
    rw [htoList] at hlines
    have hempty : file.lineCount = 0 := by rw [lineCount, ← Array.length_toList, htoList]; rfl
    rw [lineStart_of_lineCount_le (Nat.le_of_eq hempty), unitCount, hlines.units_eq_nil]
    rfl
  | cons line lines =>
    rw [htoList] at hlines
    obtain ⟨-, -, hstart, -⟩ := hlines.exists_of_cons
    have hget : file.lines[0]? = some line := by rw [← Array.getElem?_toList, htoList]; rfl
    rw [lineStart, hget]
    exact hstart

/-- What stands before, on and behind a line of a file. The next line starts behind its
terminator. -/
theorem exists_units_eq (h : line < file.lineCount) :
    ∃ before terminator rest,
      file.units = before ++ file.lineContent line ++ terminator ++ rest ∧
      file.lineStart line = before.length ∧
      file.lineStart (line + 1) = before.length + file.lineLength line + terminator.length ∧
      (∀ u ∈ file.lineContent line, isTerminatorUnit u = false) ∧
      EndsLine (file.lineContent line) terminator rest := by
  have hget : file.lines[line]? = some file.lines[line] := Array.getElem?_eq_getElem h
  have hcontent : file.lineContent line = file.lines[line].content := by rw [lineContent, hget]
  have hlineStart : file.lineStart line = file.lines[line].start := by rw [lineStart, hget]
  obtain ⟨before, terminator, rest, hunits, hstart, hplain, hend, hrest⟩ :=
    file.fallsInto_lines.exists_split ((Array.getElem?_toList ..).trans hget)
  rw [Nat.zero_add] at hstart
  refine ⟨before, terminator, rest, hcontent ▸ hunits, hlineStart.trans hstart, ?_,
    hcontent ▸ hplain, hcontent ▸ hend⟩
  rw [lineLength, hcontent, ← hstart]
  rcases Nat.lt_or_ge (line + 1) file.lineCount with hnext | hnext
  · have hsize : line + 1 < file.lines.toList.length := hnext
    rw [List.drop_eq_getElem_cons hsize] at hrest
    obtain ⟨-, -, hnextStart, -⟩ := hrest.exists_of_cons
    rwa [lineStart, Array.getElem?_eq_getElem hnext]
  · rw [List.drop_eq_nil_of_le hnext] at hrest
    rw [lineStart_of_lineCount_le hnext, unitCount, hunits, hrest.units_eq_nil, hstart]
    simp only [List.length_append, List.append_nil]

/-- A line that has units is a line of the file. -/
theorem lt_lineCount_of_lt_lineLength {column : Nat} (h : column < file.lineLength line) :
    line < file.lineCount := by
  by_contra hle
  rw [lineLength_of_lineCount_le (Nat.le_of_not_lt hle)] at h
  exact Nat.not_lt_zero _ h

/-- The next line starts behind the units of a line. -/
theorem lineStart_add_lineLength_le_succ (file : SourceFile) (line : Nat) :
    file.lineStart line + file.lineLength line ≤ file.lineStart (line + 1) := by
  rcases Nat.lt_or_ge line file.lineCount with h | h
  · obtain ⟨before, terminator, rest, -, hstart, hnext, -⟩ := exists_units_eq h
    omega
  · rw [lineStart_of_lineCount_le h, lineLength_of_lineCount_le h,
      lineStart_of_lineCount_le (Nat.le_succ_of_le h)]
    rfl

theorem lineStart_mono (file : SourceFile) : Monotone file.lineStart :=
  monotone_nat_of_le_succ fun line => by
    have := file.lineStart_add_lineLength_le_succ line
    omega

theorem lineStart_le_unitCount (file : SourceFile) (line : Nat) :
    file.lineStart line ≤ file.unitCount := by
  rw [← lineStart_of_lineCount_le (Nat.le_max_right line file.lineCount)]
  exact file.lineStart_mono (Nat.le_max_left ..)

/-- A line ends no later than its file. -/
theorem lineStart_add_lineLength_le_unitCount (file : SourceFile) (line : Nat) :
    file.lineStart line + file.lineLength line ≤ file.unitCount :=
  (file.lineStart_add_lineLength_le_succ line).trans (file.lineStart_le_unitCount _)

/-- The units of a line are units of the file. -/
theorem lineStart_add_lt {column : Nat} (h : column < file.lineLength line) :
    file.lineStart line + column < file.unitCount :=
  (Nat.add_lt_add_left h _).trans_le (file.lineStart_add_lineLength_le_unitCount line)

/-- **Lines do not overlap.** -/
theorem lineStart_add_lineLength_le {later : Nat} (h : line < later) :
    file.lineStart line + file.lineLength line ≤ file.lineStart later :=
  (file.lineStart_add_lineLength_le_succ line).trans (file.lineStart_mono h)

/-- A unit is on one line only. -/
theorem line_eq_of_lineStart_add_eq {line' column column' : Nat}
    (hcolumn : column < file.lineLength line) (hcolumn' : column' < file.lineLength line')
    (h : file.lineStart line + column = file.lineStart line' + column') : line = line' := by
  rcases Nat.lt_trichotomy line line' with hlt | heq | hlt
  · have := file.lineStart_add_lineLength_le hlt
    omega
  · exact heq
  · have := file.lineStart_add_lineLength_le hlt
    omega

end SourceFile

end CodeBrowser
