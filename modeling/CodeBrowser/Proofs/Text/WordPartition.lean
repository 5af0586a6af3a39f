import CodeBrowser.Proofs.Text.Characters
import CodeBrowser.Proofs.Text.LinePartition

/-!
# Words as a partition of a line

Each unit of a line belongs to one word. The word is a run of ASCII letters, digits and underscores
that goes on at neither end, or any other character alone, and it is found from each of its units.
So the words of a line are side by side, without gaps, and no character is cut in two. Where no unit
stands, there is no word.

## Main results

* `isIdentifierUnit_iff`: the characters that identifiers consist of.
* `SourceFile.exists_wordAt_eq`: the word at a unit of a line.
* `SourceFile.wordAt_of_contains`: a word is found from everywhere in it.
* `SourceFile.words_partition_line`: the words of a line are an exact partition of its units.
-/

namespace CodeBrowser

/-! ### Ranges on a line -/

theorem compareOfLessAndEq_eq_eq_iff {m n : Nat} : compareOfLessAndEq m n = .eq ↔ m = n :=
  compareOfLessAndEq_eq_eq Nat.le_refl Nat.not_le

theorem Location.compare_eq_lt_iff {a b : Location} :
    a.compare b = .lt ↔ a.line < b.line ∨ a.line = b.line ∧ a.column < b.column := by
  rw [Location.compare, Ordering.then_eq_lt, compareOfLessAndEq_eq_lt, compareOfLessAndEq_eq_lt,
    compareOfLessAndEq_eq_eq_iff]

theorem Location.compare_eq_eq_iff {a b : Location} :
    a.compare b = .eq ↔ a.line = b.line ∧ a.column = b.column := by
  rw [Location.compare, Ordering.then_eq_eq, compareOfLessAndEq_eq_eq_iff,
    compareOfLessAndEq_eq_eq_iff]

theorem TextRange.contains_onLine_iff {line start stop : Nat} {loc : Location} :
    (onLine line start stop).contains loc = true ↔
      loc.line = line ∧ start ≤ loc.column ∧ loc.column < stop := by
  simp only [contains, onLine, Bool.and_eq_true, Ordering.isLE_iff_eq_lt_or_eq_eq,
    Ordering.isLT_iff_eq_lt, Location.compare_eq_lt_iff, Location.compare_eq_eq_iff]
  omega

theorem TextRange.contains_none (loc : Location) : none.contains loc = false := by
  refine eq_false_of_ne_true fun h => ?_
  have := contains_onLine_iff.1 (show (onLine 0 0 0).contains loc = true from h)
  omega

/-! ### Identifier characters -/

theorem isIdentifierUnit_eq_true_iff {c : Char} {u : CodeUnit} (hu : u.toNat = c.toNat) :
    isIdentifierUnit u = true ↔ c.isAlphanum = true ∨ c = '_' := by
  have hunderscore : c = '_' ↔ c.val.toNat = 0x5F := Char.toNat_inj.symm
  rw [hunderscore]
  delta Char.isAlphanum Char.isAlpha Char.isUpper Char.isLower Char.isDigit
  simp only [isIdentifierUnit, Bool.or_eq_true, Bool.and_eq_true, decide_eq_true_eq, beq_iff_eq,
    ge_iff_le, UInt16.le_iff_toNat_le, ← UInt16.toNat_inj, hu, UInt16.reduceToNat,
    UInt32.le_iff_toNat_le, UInt32.reduceToNat, Char.reduceVal, Char.toNat]
  omega

/-- **Identifiers consist of ASCII letters, digits and underscores.** -/
theorem isIdentifierUnit_iff {u : CodeUnit} :
    isIdentifierUnit u = true ↔
      ∃ c : Char, (c.isAlphanum = true ∨ c = '_') ∧ charUnits c = [u] := by
  constructor
  · intro h
    have hlow : u.toNat < 0x80 := by
      simp only [isIdentifierUnit, Bool.or_eq_true, Bool.and_eq_true, decide_eq_true_eq,
        beq_iff_eq, UInt16.le_iff_toNat_le, ← UInt16.toNat_inj, UInt16.reduceToNat] at h
      omega
    have hvalid : u.toNat.isValidChar := Or.inl (by omega)
    have hu : (Char.ofNat u.toNat).toNat = u.toNat := by
      rw [Char.ofNat, dif_pos hvalid]
      rfl
    refine ⟨Char.ofNat u.toNat, (isIdentifierUnit_eq_true_iff hu.symm).1 h, ?_⟩
    rw [charUnits, if_pos (by omega), hu]
    exact congrArg (· :: []) (UInt16.ofNat_toNat)
  · rintro ⟨c, hc, hunits⟩
    rcases charUnits_cases c with ⟨v, hv, hnumber, -⟩ | ⟨v, w, hv, -⟩
    · obtain rfl : v = u := by simpa [hunits] using hv.symm
      exact (isIdentifierUnit_eq_true_iff hnumber).2 hc
    · simp [hunits] at hv

/-- Neither half of a surrogate pair is an identifier character. -/
theorem isIdentifierAt_charStart (content : List CodeUnit) (column : Nat) :
    isIdentifierAt content (charStart content column) = isIdentifierAt content column := by
  by_cases hstart : charStart content column = column
  · rw [hstart]
  · have hsecond : isIdentifierAt content column = false :=
      eq_false_of_ne_true fun h => hstart (charStart_of_isIdentifierAt h).1
    rw [hsecond]
    refine eq_false_of_ne_true fun h => ?_
    have hend := (charStart_of_isIdentifierAt h).2
    rw [charStart_add_one hstart] at hend
    exact hstart hend

namespace SourceFile

variable {file : SourceFile} {line column : Nat}

/-- A location names a unit of a line or none at all. -/
theorem pointsAtChar_iff_lt_lineLength {loc : Location} :
    loc.pointsAtChar file = true ↔ loc.column < file.lineLength loc.line := by
  simp only [Location.pointsAtChar, Bool.and_eq_true, decide_eq_true_eq]
  exact and_iff_right_of_imp lt_lineCount_of_lt_lineLength

/-- The word at a unit of a text: the run of identifier characters around it, or another character
alone. -/
theorem exists_wordColumns_eq {text : List Char} {column : Nat}
    (h : column < (toUnits text).length) :
    ∃ before word behind, text = before ++ word ++ behind ∧
      wordColumns (toUnits text) column =
        ((toUnits before).length, (toUnits (before ++ word)).length) ∧
      (toUnits before).length ≤ column ∧ column < (toUnits (before ++ word)).length ∧
      if isIdentifierAt (toUnits text) column then
        IdentifierRun (toUnits text) (toUnits before).length (toUnits (before ++ word)).length
      else ∃ c, word = [c] := by
  have hchar := charStart_le (toUnits text) column
  cases hident : isIdentifierAt (toUnits text) column with
  | true =>
    have hcolumn : charStart (toUnits text) column = column :=
      (charStart_of_isIdentifierAt hident).1
    obtain ⟨hrun, hle, hlt⟩ := identifierRun_wordColumns (hcolumn.symm ▸ hident)
    obtain ⟨hstart, hstop, hne, hlength⟩ := charStart_wordColumns h
    obtain ⟨before, word, behind, htext, hbefore, hend⟩ :=
      exists_between_of_charStart_eq hstart hne hstop hlength
    rw [hcolumn] at hle hlt
    rw [← hbefore, ← hend] at hrun
    exact ⟨before, word, behind, htext, by rw [hbefore, hend], hbefore ▸ hle, hend ▸ hlt, hrun⟩
  | false =>
    rw [← isIdentifierAt_charStart] at hident
    have hword := wordColumns_eq_char hident
    obtain ⟨before, c, behind, htext, hstart, hlength⟩ := exists_char_of_lt text h
    have hend : (toUnits (before ++ [c])).length =
        (toUnits before).length + (charUnits c).length := by
      rw [toUnits_append, toUnits_singleton, List.length_append]
    rw [hstart, hlength] at hword
    refine ⟨before, [c], behind, ?_, ?_, hstart ▸ hchar, ?_, c, rfl⟩
    · rw [htext, List.append_assoc, List.singleton_append]
    · rw [hword, hend]
    · have hlt := lt_charStart_add_charLength (toUnits text) column
      rwa [hstart, hlength, ← hend] at hlt

/-- The word at a unit of a line: the run of identifier characters around it, or another character
alone. -/
theorem exists_wordAt_eq (h : column < file.lineLength line) :
    ∃ before word behind, file.lineText line = before ++ word ++ behind ∧
      file.wordAt ⟨line, column⟩ =
        .onLine line (toUnits before).length (toUnits (before ++ word)).length ∧
      (toUnits before).length ≤ column ∧ column < (toUnits (before ++ word)).length ∧
      if isIdentifierAt (file.lineContent line) column then
        IdentifierRun (file.lineContent line) (toUnits before).length
          (toUnits (before ++ word)).length
      else ∃ c, word = [c] := by
  have hchar : Location.pointsAtChar ⟨line, column⟩ file = true :=
    pointsAtChar_iff_lt_lineLength.2 h
  have hword := wordAt_eq_onLine hchar
  have htext : toUnits (file.lineText line) = file.lineContent line :=
    (file.toUnits_lineText line).2
  rw [lineLength, ← htext] at h
  obtain ⟨before, word, behind, hsplit, hcolumns, hspec⟩ := exists_wordColumns_eq h
  rw [← htext, hcolumns] at hword
  rw [← htext]
  exact ⟨before, word, behind, hsplit, hword, hspec⟩

/-- Where no unit stands there is no word. -/
theorem wordAt_eq_none {loc : Location} (h : loc.pointsAtChar file = false) :
    file.wordAt loc = .none :=
  if_neg (ne_true_of_eq_false h)

/-- **A word is found from everywhere in it.** -/
theorem wordAt_of_contains {loc inner : Location} (h : (file.wordAt loc).contains inner = true) :
    file.wordAt inner = file.wordAt loc := by
  rcases file.wordAt_eq_none_or_isWord loc with hnone | hword
  · rw [hnone, TextRange.contains_none] at h
    contradiction
  · have honLine : file.wordAt loc = .onLine (file.wordAt loc).start.line
        (file.wordAt loc).start.column (file.wordAt loc).stop.column := by
      show _ = (⟨(file.wordAt loc).start, ⟨_, (file.wordAt loc).stop.column⟩⟩ : TextRange)
      rw [← hword.line_eq]
    rw [honLine, TextRange.contains_onLine_iff] at h
    obtain ⟨hline, hstart, hstop⟩ := h
    rw [← hword.wordAt_eq inner.column hstart hstop, ← hline]

/-- A word consists of units of the file. -/
theorem pointsAtChar_of_contains {loc inner : Location}
    (h : (file.wordAt loc).contains inner = true) : inner.pointsAtChar file = true := by
  refine eq_true_of_ne_false fun hnone => ?_
  rw [← wordAt_of_contains h, wordAt_eq_none hnone, TextRange.contains_none] at h
  exact Bool.false_ne_true h

theorem wordAt_contains_self (h : column < file.lineLength line) :
    (file.wordAt ⟨line, column⟩).contains ⟨line, column⟩ = true := by
  obtain ⟨before, word, -, -, hword, hstart, hstop, -⟩ := exists_wordAt_eq h
  rw [hword]
  exact TextRange.contains_onLine_iff.2 ⟨rfl, hstart, hstop⟩

/-- **The words of a line are an exact partition of its units.** At each unit there is a word, which
consists of whole characters of the line: the run of ASCII letters, digits and underscores around
the unit that goes on at neither end, or else the one character that the unit belongs to. A word is
found from everywhere in it, so that two words are one or have nothing in common, and together they
cover the line. Where no unit stands there is no word. -/
theorem words_partition_line (file : SourceFile) :
    (∀ u, isIdentifierUnit u = true ↔
        ∃ c : Char, (c.isAlphanum = true ∨ c = '_') ∧ charUnits c = [u]) ∧
      (∀ line column, column < file.lineLength line →
        ∃ before word behind, file.lineText line = before ++ word ++ behind ∧
          file.wordAt ⟨line, column⟩ =
            .onLine line (toUnits before).length (toUnits (before ++ word)).length ∧
          (toUnits before).length ≤ column ∧ column < (toUnits (before ++ word)).length ∧
          if isIdentifierAt (file.lineContent line) column then
            IdentifierRun (file.lineContent line) (toUnits before).length
              (toUnits (before ++ word)).length
          else ∃ c, word = [c]) ∧
      (∀ loc inner, (file.wordAt loc).contains inner = true →
        file.wordAt inner = file.wordAt loc) ∧
      (∀ loc loc', file.wordAt loc = file.wordAt loc' ∨
        ∀ inner, (file.wordAt loc).contains inner = true →
          (file.wordAt loc').contains inner = false) ∧
      (∀ line c, (∃ column, (file.wordAt ⟨line, column⟩).contains ⟨line, c⟩ = true) ↔
        c < file.lineLength line) ∧
      ∀ loc, loc.pointsAtChar file = false → file.wordAt loc = .none := by
  refine ⟨fun _ => isIdentifierUnit_iff, fun _ _ => exists_wordAt_eq, fun _ _ => wordAt_of_contains,
    fun loc loc' => ?_, fun line c => ⟨?_, fun h => ⟨c, wordAt_contains_self h⟩⟩,
    fun _ => wordAt_eq_none⟩
  · refine or_iff_not_imp_left.2 fun hne inner hinner => eq_false_of_ne_true fun hinner' => ?_
    exact hne ((wordAt_of_contains hinner).symm.trans (wordAt_of_contains hinner'))
  · rintro ⟨_, h⟩
    exact pointsAtChar_iff_lt_lineLength.1 (pointsAtChar_of_contains h)

/-- From either half of its surrogate pair a character is found whole, next to an identifier. -/
theorem words_partition_line_pair :
    let file := ofText none ['x', '😀', 'y', '1']
    file.wordAt ⟨0, 2⟩ = .onLine 0 1 3 ∧ file.wordAt ⟨0, 1⟩ = file.wordAt ⟨0, 2⟩ ∧
      (file.wordAt ⟨0, 4⟩).contains ⟨0, 2⟩ = false := by
  intro file
  obtain ⟨-, -, hinner, hapart, -, -⟩ := words_partition_line file
  have hword : file.wordAt ⟨0, 2⟩ = .onLine 0 1 3 := by decide +kernel
  have hfirst : file.wordAt ⟨0, 1⟩ = file.wordAt ⟨0, 2⟩ :=
    hinner ⟨0, 2⟩ ⟨0, 1⟩ (by rw [hword]; decide)
  have hother : file.wordAt ⟨0, 2⟩ ≠ file.wordAt ⟨0, 4⟩ := by decide +kernel
  exact ⟨hword, hfirst, (hapart ⟨0, 2⟩ ⟨0, 4⟩).resolve_left hother _ (by rw [hword]; decide)⟩

end SourceFile

end CodeBrowser
