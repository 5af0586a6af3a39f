import CodeBrowser.Proofs.Text.Words
import CodeBrowser.Proofs.Text.Utf16

/-!
# The characters of a text among its units

The units of a text are those of its characters, one character after another. Each unit belongs to
one of them, and where a character starts, the text falls into two: no half of a surrogate pair is
taken for a character, and no two characters for a pair.

## Main results

* `charStart_charUnits_append`: a character in front only moves the others.
* `exists_char_of_lt`: the character that a unit belongs to.
* `exists_append_of_charStart_eq`: where a character starts, the text can be cut.
-/

namespace CodeBrowser

theorem length_charUnits_pos (c : Char) : 0 < (charUnits c).length := by
  rcases charUnits_cases c with ⟨u, hunits, -⟩ | ⟨u, v, hunits, -⟩ <;> simp [hunits]

/-! ### Both halves of a pair -/

/-- A unit that starts no character is the second of its character. -/
theorem charStart_add_one {content : List CodeUnit} {column : Nat}
    (h : charStart content column ≠ column) : charStart content column + 1 = column := by
  unfold charStart at h ⊢
  split_ifs at h ⊢ with hpair
  · simp only [Bool.and_eq_true, decide_eq_true_eq] at hpair
    omega
  · exact absurd rfl h

/-- A unit is one of those of its character. -/
theorem lt_charStart_add_charLength (content : List CodeUnit) (column : Nat) :
    column < charStart content column + charLength content (charStart content column) := by
  by_cases hstart : charStart content column = column
  · rw [hstart]
    exact Nat.lt_add_of_pos_right (charLength_pos content column)
  · have hnext := charStart_add_one hstart
    have hpair : isPairAt content (charStart content column) = true := by
      by_contra hnot
      refine hstart (charStart_eq_iff.2 fun _ => ?_)
      rw [← hnext, Nat.add_sub_cancel]
      exact eq_false_of_ne_true hnot
    rw [charLength, if_pos hpair]
    omega

/-! ### A character in front -/

theorem isPairAt_append (front units : List CodeUnit) (i : Nat) :
    isPairAt (front ++ units) (front.length + i) = isPairAt units i := by
  rw [← isPairAt_drop, List.drop_left]

theorem charLength_append (front units : List CodeUnit) (column : Nat) :
    charLength (front ++ units) (front.length + column) = charLength units column := by
  rw [charLength, charLength, isPairAt_append]

variable (c : Char) (units : List CodeUnit)

/-- No surrogate pair starts at the last unit of a character. -/
theorem isPairAt_pred_length_charUnits :
    isPairAt (charUnits c ++ units) ((charUnits c).length - 1) = false := by
  rcases charUnits_cases c with ⟨u, hunits, -, hhigh, -⟩ | ⟨u, v, hunits, -, hlow, -⟩
  · simp [hunits, isPairAt, hhigh]
  · simp [hunits, isPairAt, isHighSurrogate_eq_false_of_isLowSurrogate hlow]

theorem charLength_charUnits : charLength (charUnits c ++ units) 0 = (charUnits c).length := by
  rcases charUnits_cases c with ⟨u, hunits, -, hhigh, -⟩ | ⟨u, v, hunits, hhigh, hlow, -⟩
  · simp [hunits, charLength, isPairAt, hhigh]
  · simp [hunits, charLength, isPairAt, hhigh, hlow]

/-- Each unit of the first character leads to its start. -/
theorem charStart_charUnits_of_lt {column : Nat} (h : column < (charUnits c).length) :
    charStart (charUnits c ++ units) column = 0 := by
  refine charStart_of_mem_char ?_ (Nat.zero_le column) ?_
  · exact charStart_eq_iff.2 fun hpos => absurd hpos (Nat.lt_irrefl 0)
  · rwa [charLength_charUnits, Nat.zero_add]

/-- A character in front only moves the others. -/
theorem charStart_charUnits_append (column : Nat) :
    charStart (charUnits c ++ units) ((charUnits c).length + column) =
      (charUnits c).length + charStart units column := by
  have hpos := length_charUnits_pos c
  rcases Nat.eq_zero_or_pos column with rfl | hcolumn
  · have hfirst := isPairAt_pred_length_charUnits c units
    simp [charStart, hfirst]
  · have hpair : isPairAt (charUnits c ++ units) ((charUnits c).length + column - 1) =
        isPairAt units (column - 1) := by
      rw [Nat.add_sub_assoc hcolumn, isPairAt_append]
    cases hhalf : isPairAt units (column - 1) with
    | true =>
      simp [charStart, hpair, hhalf, hcolumn, Nat.add_pos_left hpos]
      omega
    | false => simp [charStart, hpair, hhalf]

/-! ### Where the characters stand -/

/-- Each unit belongs to a character of the text. -/
theorem exists_char_of_lt : (text : List Char) → {column : Nat} → column < (toUnits text).length →
    ∃ before c behind, text = before ++ c :: behind ∧
      charStart (toUnits text) column = (toUnits before).length ∧
      charLength (toUnits text) (toUnits before).length = (charUnits c).length
  | [], _, h => absurd h (Nat.not_lt_zero _)
  | c :: text, column, h => by
      rw [toUnits_cons] at h ⊢
      rcases Nat.lt_or_ge column (charUnits c).length with hin | hout
      · exact ⟨[], c, text, rfl, charStart_charUnits_of_lt c _ hin, charLength_charUnits c _⟩
      · obtain ⟨rest, rfl⟩ := Nat.exists_eq_add_of_le hout
        rw [List.length_append, Nat.add_lt_add_iff_left] at h
        obtain ⟨before, d, behind, rfl, hstart, hlength⟩ := exists_char_of_lt text h
        refine ⟨c :: before, d, behind, rfl, ?_, ?_⟩
        · rw [charStart_charUnits_append, hstart, toUnits_cons, List.length_append]
        · rw [toUnits_cons c before, List.length_append, charLength_append, hlength]

/-- Where a character starts, and at the end, the text can be cut. -/
theorem exists_append_of_charStart_eq {text : List Char} {column : Nat}
    (hstart : charStart (toUnits text) column = column) (hle : column ≤ (toUnits text).length) :
    ∃ before behind, text = before ++ behind ∧ (toUnits before).length = column := by
  rcases Nat.eq_or_lt_of_le hle with rfl | hlt
  · exact ⟨text, [], (List.append_nil text).symm, rfl⟩
  · obtain ⟨before, c, behind, htext, hbefore, -⟩ := exists_char_of_lt text hlt
    exact ⟨before, c :: behind, htext, hbefore.symm.trans hstart⟩

/-- Between two places where characters start there are whole characters. -/
theorem exists_between_of_charStart_eq {text : List Char} {start stop : Nat}
    (hstart : charStart (toUnits text) start = start) (hlt : start < stop)
    (hstop : charStart (toUnits text) stop = stop) (hlength : stop ≤ (toUnits text).length) :
    ∃ before word behind, text = before ++ word ++ behind ∧ (toUnits before).length = start ∧
      (toUnits (before ++ word)).length = stop := by
  obtain ⟨front, behind, rfl, hfront⟩ := exists_append_of_charStart_eq hstop hlength
  obtain ⟨before, rest, htext, hbefore⟩ :=
    exists_append_of_charStart_eq hstart (hlt.le.trans hlength)
  rcases List.append_eq_append_iff.1 htext with ⟨more, hmore, -⟩ | ⟨word, hword, -⟩
  · have hunits : (toUnits front).length ≤ start := by
      rw [← hbefore, hmore, toUnits_append, List.length_append]
      exact Nat.le_add_right _ _
    omega
  · exact ⟨before, word, behind, by rw [hword], hbefore, by rw [← hword, hfront]⟩

end CodeBrowser
