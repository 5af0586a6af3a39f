import CodeBrowser.Proofs.Text.Lines

/-!
# The line index as a partition

The units of a file are the contents of its lines, in order, each followed by one terminator. There
is no other way to cut the units so, hence the line index is determined by the units alone.

## Main definitions

* `SourceFile.lineTerminator`: the units between the content of a line and the next line.
* `SourceFile.LineStands`: a line stands at its place in the units.

## Main results

* `FallsInto.unique`: units fall into lines in one way only.
* `SourceFile.lines_partition_units`: the lines of a file are an exact partition of its units.
-/

namespace CodeBrowser

/-! ### One way to fall into lines -/

/-- A terminator is CR LF or one unit. -/
theorem terminator_cases {terminator : List CodeUnit} (h : terminator ∈ lineTerminators) :
    terminator = [0x0D, 0x0A] ∨ ∃ u, terminator = [u] ∧ isTerminatorUnit u = true := by
  simp only [lineTerminators, List.mem_cons, List.not_mem_nil, or_false] at h
  rcases h with rfl | rfl | rfl | rfl | rfl | rfl | rfl | rfl
  · exact Or.inr ⟨_, rfl, rfl⟩
  · exact Or.inl rfl
  all_goals exact Or.inr ⟨_, rfl, rfl⟩

namespace EndsLine

variable {content terminator rest : List CodeUnit}

/-- What comes after the content of a line starts with a unit that ends a line. -/
theorem isTerminatorUnit_of_head? (h : EndsLine content terminator rest) {u : CodeUnit}
    (hu : (terminator ++ rest).head? = some u) : isTerminatorUnit u = true := by
  rcases h with ⟨hmem, -⟩ | ⟨rfl, rfl, -⟩
  · rcases terminator_cases hmem with rfl | ⟨v, rfl, hv⟩
    · obtain rfl : 0x0D = u := Option.some.inj hu
      rfl
    · obtain rfl : v = u := Option.some.inj hu
      exact hv
  · exact absurd hu (by simp)

/-- Two terminators that the same units start with are one. -/
theorem terminator_eq {terminator' rest' : List CodeUnit} (h : EndsLine content terminator rest)
    (h' : EndsLine content terminator' rest')
    (heq : terminator ++ rest = terminator' ++ rest') : terminator = terminator' := by
  rcases h with ⟨hmem, hcr⟩ | ⟨rfl, rfl, -⟩
  · rcases h' with ⟨hmem', hcr'⟩ | ⟨rfl, rfl, -⟩
    · rcases terminator_cases hmem with rfl | ⟨u, rfl, -⟩ <;>
        rcases terminator_cases hmem' with rfl | ⟨v, rfl, -⟩
      · rfl
      · obtain ⟨rfl, rfl⟩ : 0x0D = v ∧ 0x0A :: rest = rest' := by simpa using heq
        exact absurd rfl (hcr' rfl)
      · obtain ⟨rfl, rfl⟩ : u = 0x0D ∧ rest = 0x0A :: rest' := by simpa using heq
        exact absurd rfl (hcr rfl)
      · obtain ⟨rfl, -⟩ : u = v ∧ rest = rest' := by simpa using heq
        rfl
    · obtain ⟨rfl, -⟩ := List.append_eq_nil_iff.1 heq
      exact absurd hmem (by decide)
  · rcases h' with ⟨hmem', -⟩ | ⟨rfl, -, -⟩
    · obtain ⟨rfl, -⟩ := List.append_eq_nil_iff.1 heq.symm
      exact absurd hmem' (by decide)
    · rfl

/-- No line is without units. -/
theorem append_ne_nil (h : EndsLine content terminator rest) :
    content ++ terminator ++ rest ≠ [] := by
  rcases h with ⟨hmem, -⟩ | ⟨-, -, hne⟩
  · rcases terminator_cases hmem with rfl | ⟨u, rfl, -⟩ <;> simp
  · simp [hne]

/-- The content of a line is what comes before the first unit that ends a line. -/
theorem takeWhile_eq (h : EndsLine content terminator rest)
    (hplain : ∀ u ∈ content, isTerminatorUnit u = false) :
    (content ++ terminator ++ rest).takeWhile (fun u => !isTerminatorUnit u) = content := by
  have hstop : (terminator ++ rest).takeWhile (fun u => !isTerminatorUnit u) = [] := by
    cases hrest : terminator ++ rest with
    | nil => rfl
    | cons u units =>
      have hu : isTerminatorUnit u = true := h.isTerminatorUnit_of_head? (by rw [hrest]; rfl)
      simp [hu]
  rw [List.append_assoc, List.takeWhile_append_of_pos (by simpa using hplain), hstop,
    List.append_nil]

end EndsLine

/-- **One way only.** Units fall into no other lines. -/
theorem FallsInto.unique : {lines lines' : List Line} → {start : Nat} → {units : List CodeUnit} →
    FallsInto start units lines → FallsInto start units lines' → lines = lines'
  | [], [], _, _, _, _ => rfl
  | [], _ :: _, _, _, h, h' => by
      obtain ⟨terminator, rest, -, hunits, -, hend, -⟩ := h'.exists_of_cons
      exact absurd (hunits.symm.trans h.units_eq_nil) hend.append_ne_nil
  | _ :: _, [], _, _, h, h' => by
      obtain ⟨terminator, rest, -, hunits, -, hend, -⟩ := h.exists_of_cons
      exact absurd (hunits.symm.trans h'.units_eq_nil) hend.append_ne_nil
  | line :: lines, line' :: lines', start, units, h, h' => by
      obtain ⟨terminator, rest, hstart, hunits, hplain, hend, hrest⟩ := h.exists_of_cons
      obtain ⟨terminator', rest', hstart', hunits', hplain', hend', hrest'⟩ := h'.exists_of_cons
      have hcontent : line.content = line'.content := by
        rw [← hend.takeWhile_eq hplain, ← hunits, hunits', hend'.takeWhile_eq hplain']
      have hline : line = line' := by
        cases line
        cases line'
        simp_all
      have hbehind : terminator ++ rest = terminator' ++ rest' := by
        rw [hunits, hcontent, List.append_assoc, List.append_assoc] at hunits'
        exact List.append_cancel_left hunits'
      have hterminator : terminator = terminator' :=
        hend.terminator_eq (hcontent ▸ hend') hbehind
      subst hterminator hline
      rw [List.append_cancel_left hbehind] at hrest
      rw [FallsInto.unique hrest hrest']

/-! ### The lines of a file -/

namespace SourceFile

variable {file : SourceFile} {line : Nat}

/-- The units between the content of a line and the next line. -/
def lineTerminator (file : SourceFile) (line : Nat) : List CodeUnit :=
  file.units.extract (file.lineStart line + file.lineLength line) (file.lineStart (line + 1))

/-- A line with its terminator. -/
def wholeLine (file : SourceFile) (line : Nat) : List CodeUnit :=
  file.lineContent line ++ file.lineTerminator line

/-- A line stands at its place in the units: behind the lines before it with their terminators, and
before the end of the text. Nothing in its content ends a line, and its terminator does, in full.
Only the last line may do without one, if it is not empty. -/
structure LineStands (file : SourceFile) (line : Nat) : Prop where
  lineStart_eq : file.lineStart line = ((List.range line).flatMap file.wholeLine).length
  lineStart_lt : file.lineStart line < file.unitCount
  content_eq : file.lineContent line =
    file.units.extract (file.lineStart line) (file.lineStart line + file.lineLength line)
  content_plain : ∀ u ∈ file.lineContent line, isTerminatorUnit u = false
  terminator_mem : file.lineTerminator line ∈ lineTerminators ∨
    (file.lineTerminator line = [] ∧ line + 1 = file.lineCount ∧ file.lineContent line ≠ [])
  terminator_full : file.lineTerminator line = [0x0D] →
    file.units[file.lineStart (line + 1)]? ≠ some 0x0A

/-- What stands before, on and behind a line of a file, the terminator being that of the line. -/
theorem exists_units_eq_wholeLine (h : line < file.lineCount) :
    ∃ before rest, file.units = before ++ file.wholeLine line ++ rest ∧
      file.lineStart line = before.length ∧
      file.lineStart (line + 1) = before.length + (file.wholeLine line).length ∧
      (∀ u ∈ file.lineContent line, isTerminatorUnit u = false) ∧
      EndsLine (file.lineContent line) (file.lineTerminator line) rest := by
  obtain ⟨before, terminator, rest, hunits, hstart, hnext, hplain, hend⟩ := exists_units_eq h
  have hterminator : file.lineTerminator line = terminator := by
    rw [lineTerminator, hunits, hnext, hstart, lineLength, ← List.length_append]
    exact extract_append_append (before ++ file.lineContent line) terminator rest
  refine ⟨before, rest, ?_, hstart, ?_, hplain, hterminator ▸ hend⟩
  · rw [wholeLine, hterminator, hunits]
    simp only [List.append_assoc]
  · rw [hnext, wholeLine, hterminator, lineLength, List.length_append, Nat.add_assoc]

/-- The units before a line are the lines before it. -/
theorem take_lineStart : (line : Nat) → line ≤ file.lineCount →
    file.units.take (file.lineStart line) = (List.range line).flatMap file.wholeLine
  | 0, _ => by rw [lineStart_zero]; rfl
  | line + 1, h => by
      obtain ⟨before, rest, hunits, hstart, hnext, -⟩ := exists_units_eq_wholeLine h
      have hbefore := take_lineStart line (Nat.le_of_succ_le h)
      rw [hstart, hunits, List.append_assoc, List.take_left] at hbefore
      rw [List.range_succ, List.flatMap_append, ← hbefore, List.flatMap_singleton, hnext, hunits,
        ← List.length_append, List.take_left]

/-- No line starts at the end of the text. -/
theorem lineStart_lt_unitCount (h : line < file.lineCount) :
    file.lineStart line < file.unitCount := by
  obtain ⟨before, rest, hunits, hstart, -, -, hend⟩ := exists_units_eq_wholeLine h
  have hpos : 0 < (file.wholeLine line ++ rest).length := List.length_pos_iff.2 hend.append_ne_nil
  rw [unitCount, hunits, hstart, List.append_assoc, List.length_append]
  omega

/-- Each line stands at its place. -/
theorem lineStands (h : line < file.lineCount) : file.LineStands line := by
  obtain ⟨before, rest, hunits, hstart, hnext, hplain, hend⟩ := exists_units_eq_wholeLine h
  refine ⟨?_, lineStart_lt_unitCount h, ?_, hplain, ?_, ?_⟩
  · rw [← take_lineStart line (Nat.le_of_lt h),
      List.length_take_of_le (Nat.le_of_lt (lineStart_lt_unitCount h))]
  · have hsplit : file.units =
        before ++ file.lineContent line ++ (file.lineTerminator line ++ rest) := by
      rw [hunits, wholeLine]
      simp only [List.append_assoc]
    rw [hsplit, hstart, lineLength, extract_append_append]
  · rcases hend with ⟨hmem, -⟩ | ⟨hnil, hrest, hne⟩
    · exact Or.inl hmem
    · refine Or.inr ⟨hnil, ?_, hne⟩
      by_contra hnot
      have hlt := lineStart_lt_unitCount (show line + 1 < file.lineCount by omega)
      rw [hnext, unitCount, hunits, hrest, List.append_nil, List.length_append] at hlt
      omega
  · intro hcr hlf
    rcases hend with ⟨-, hfull⟩ | ⟨hnil, -⟩
    · refine hfull hcr ?_
      rw [List.head?_eq_getElem?, ← hlf, hunits, hnext, ← List.length_append,
        List.getElem?_append_right (Nat.le_refl _), Nat.sub_self]
    · rw [hnil] at hcr
      exact List.cons_ne_nil _ _ hcr.symm

/-- The content of a line is that of a piece of the text. -/
theorem exists_toUnits_eq_of_mem_placeLines {line : Line} :
    (start : Nat) → (pieces : List (List Char × List Char)) → line ∈ placeLines start pieces →
      ∃ content, toUnits content = line.content
  | _, [], h => absurd h List.not_mem_nil
  | _, (content, _) :: pieces, h => by
      rcases List.mem_cons.1 h with rfl | h
      · exact ⟨content, rfl⟩
      · exact exists_toUnits_eq_of_mem_placeLines _ pieces h

/-- The content of a line is well-formed and spells the text of the line. -/
theorem toUnits_lineText (file : SourceFile) (line : Nat) :
    ofUnits? (file.lineContent line) = some (file.lineText line) ∧
      toUnits (file.lineText line) = file.lineContent line := by
  obtain ⟨content, hcontent⟩ : ∃ content, toUnits content = file.lineContent line := by
    unfold lineContent
    split
    · next l hget =>
      rw [file.lines_eq, lineIndex_eq_placeLines, List.getElem?_toArray] at hget
      exact exists_toUnits_eq_of_mem_placeLines 0 _ (List.mem_of_getElem? hget)
    · exact ⟨[], rfl⟩
  rw [lineText, ← hcontent, ofUnits?_toUnits, ofUnitsLossy_toUnits]
  exact ⟨rfl, rfl⟩

/-- **The lines are an exact partition.** The units of a file are the contents of its lines, in
order, each with its terminator, and each line stands at its place. Only the empty text has no
lines. The content of a line is well-formed and spells the text of the line. The units fall into no
other lines. -/
theorem lines_partition_units (file : SourceFile) :
    file.units = (List.range file.lineCount).flatMap file.wholeLine ∧
      (∀ line < file.lineCount, file.LineStands line) ∧
      (file.lineCount = 0 ↔ file.text = []) ∧
      (∀ line, ofUnits? (file.lineContent line) = some (file.lineText line) ∧
        toUnits (file.lineText line) = file.lineContent line) ∧
      ∀ lines, FallsInto 0 file.units lines ↔ lines = file.lines.toList := by
  refine ⟨?_, fun _ h => lineStands h, ⟨?_, ?_⟩, file.toUnits_lineText, fun lines => ⟨?_, ?_⟩⟩
  · rw [← take_lineStart file.lineCount (Nat.le_refl _), lineStart_of_lineCount_le (Nat.le_refl _),
      unitCount, List.take_length]
  · intro hzero
    have hunits := file.fallsInto_lines
    rw [List.eq_nil_of_length_eq_zero hzero] at hunits
    have hspelt := ofUnits?_toUnits file.text
    rw [← file.units_eq, hunits.units_eq_nil] at hspelt
    exact (Option.some.inj hspelt).symm
  · intro htext
    rw [lineCount, file.lines_eq, htext]
    rfl
  · exact fun h => h.unique file.fallsInto_lines
  · rintro rfl
    exact file.fallsInto_lines

/-- CR LF behind a surrogate pair is one terminator, and LF and CR behind it are two. -/
theorem lines_partition_units_mixed :
    let file : SourceFile := .ofText none ['a', '😀', '\r', '\n', '\n', '\r', '\u2028', 'b']
    file.lineCount = 5 ∧ 0 < file.lineCount ∧ 2 < file.lineCount ∧
      file.LineStands 0 ∧ file.lineTerminator 0 = [0x0D, 0x0A] ∧ file.lineLength 0 = 3 ∧
      file.LineStands 2 ∧ file.lineTerminator 2 = [0x0D] ∧ file.lineTerminator 4 = [] := by
  intro file
  have hfirst : 0 < file.lineCount := by decide
  have hthird : 2 < file.lineCount := by decide
  obtain ⟨-, hstands, -⟩ := lines_partition_units file
  exact ⟨by decide, hfirst, hthird, hstands 0 hfirst, by decide, by decide, hstands 2 hthird,
    by decide, by decide⟩

end SourceFile

end CodeBrowser
