import CodeBrowser.Layout.Line
import CodeBrowser.Proofs.Text.Lines
import CodeBrowser.Word
import Mathlib.Data.List.Basic

/-!
# The walk along a line

The boxes of a line are laid out by a walk over its code units, one character at a step. This file
says once what a step does (`CharBox.Shows`) and turns it into an induction along the walk
(`walk_induction`). What holds of all boxes of a line, whatever the arithmetic of the screen, then
follows case by case.

## Main definitions

* `CharBox.Shows`: a box shows the character that starts at a column.
* `LineLayout.EdgesAscend`: no left edge is to the left of an earlier one.

## Main results

* `walk_induction`: induction along the walk.
* `charStart_column_of_mem`: no box stands on the second half of a surrogate pair.
* `exists_box_of_charStart_eq`: every character of the line has a box.
* `pairwise_column_lt`: the columns of the boxes increase.
-/

namespace CodeBrowser

/-! ### Surrogate pairs -/

theorem isPairAt_drop (units : List CodeUnit) (i j : Nat) :
    isPairAt (units.drop i) j = isPairAt units (i + j) := by
  simp only [isPairAt, List.getElem?_drop, Nat.add_assoc]

theorem isPairAt_eq_false_of_length_le {units : List CodeUnit} {i : Nat}
    (h : units.length ≤ i + 1) : isPairAt units i = false := by
  simp [isPairAt, List.getElem?_eq_none h]

theorem isHighSurrogate_eq_false_of_isLowSurrogate {u : CodeUnit} (h : isLowSurrogate u = true) :
    isHighSurrogate u = false := by
  simp only [isLowSurrogate, isHighSurrogate, Bool.and_eq_true, decide_eq_true_eq,
    UInt16.le_iff_toNat_le, Bool.and_eq_false_iff, decide_eq_false_iff_not] at h ⊢
  right
  have h1 : (56320 : CodeUnit).toNat = 56320 := rfl
  have h2 : (56319 : CodeUnit).toNat = 56319 := rfl
  omega

/-- Two surrogate pairs do not overlap. -/
theorem isPairAt_succ_eq_false {units : List CodeUnit} {i : Nat} (h : isPairAt units i = true) :
    isPairAt units (i + 1) = false := by
  simp only [isPairAt, Bool.and_eq_true, Option.any_eq_true] at h
  obtain ⟨-, v, hv, hlow⟩ := h
  simp [isPairAt, hv, isHighSurrogate_eq_false_of_isLowSurrogate hlow]

/-- A character starts at a column that is not the second half of a surrogate pair. -/
theorem charStart_eq_iff {content : List CodeUnit} {column : Nat} :
    charStart content column = column ↔ (0 < column → isPairAt content (column - 1) = false) := by
  unfold charStart
  by_cases hpos : 0 < column
  · cases hpair : isPairAt content (column - 1) with
    | true => simp [hpos]; omega
    | false => simp
  · simp [hpos]

theorem charStart_le (content : List CodeUnit) (column : Nat) :
    charStart content column ≤ column := by
  unfold charStart
  split <;> omega

/-- Where a character starts, it starts. -/
theorem charStart_charStart (content : List CodeUnit) (column : Nat) :
    charStart content (charStart content column) = charStart content column := by
  refine charStart_eq_iff.2 fun hpos => ?_
  unfold charStart at hpos ⊢
  split at hpos
  · next hpair =>
    rw [if_pos hpair]
    by_contra hbefore
    have hnext := isPairAt_succ_eq_false (eq_true_of_ne_false hbefore)
    rw [Nat.sub_add_cancel hpos] at hnext
    simp [hnext] at hpair
  · next hpair =>
    rw [if_neg hpair]
    simpa [hpos] using hpair

theorem charStart_length (content : List CodeUnit) :
    charStart content content.length = content.length :=
  charStart_eq_iff.2 fun hpos => isPairAt_eq_false_of_length_le (by omega)

theorem charLength_pos (content : List CodeUnit) (column : Nat) :
    0 < charLength content column := by
  unfold charLength
  split <;> omega

/-- A character ends within its line. -/
theorem add_charLength_le {content : List CodeUnit} {column : Nat} (h : column < content.length) :
    column + charLength content column ≤ content.length := by
  unfold charLength
  split
  · next hpair =>
    by_contra hlt
    rw [isPairAt_eq_false_of_length_le (by omega)] at hpair
    exact Bool.false_ne_true hpair
  · omega

/-- Behind a character the next one starts. -/
theorem charStart_add_charLength (content : List CodeUnit) (column : Nat) :
    charStart content (column + charLength content column) =
      column + charLength content column := by
  unfold charStart charLength
  cases hpair : isPairAt content column with
  | true => simp [isPairAt_succ_eq_false hpair]
  | false => simp [hpair]

/-- The columns of a character are those from its start up to its end. -/
theorem charStart_eq_of_lt {content : List CodeUnit} {column c : Nat} (hc : column < c)
    (hlt : c < column + charLength content column) : charStart content c ≠ c := by
  unfold charLength at hlt
  split at hlt
  · next hpair =>
    obtain rfl : c = column + 1 := by omega
    simp [charStart, hpair]
  · omega

/-- What stands in a row from a column on, unit by unit. -/
theorem drop_eq_cons_iff {units rest : List CodeUnit} {column : Nat} {u : CodeUnit} :
    units.drop column = u :: rest ↔
      column < units.length ∧ units[column]? = some u ∧ units.drop (column + 1) = rest := by
  constructor
  · intro h
    have hlt : column < units.length := by
      by_contra hle
      rw [List.drop_eq_nil_of_le (by omega)] at h
      exact List.cons_ne_nil _ _ h.symm
    rw [List.drop_eq_getElem_cons hlt, List.cons.injEq] at h
    exact ⟨hlt, by rw [List.getElem?_eq_getElem hlt, h.1], h.2⟩
  · rintro ⟨hlt, hu, hrest⟩
    rw [List.drop_eq_getElem_cons hlt, hrest]
    rw [List.getElem?_eq_getElem hlt] at hu
    rw [Option.some.inj hu]

theorem charLength_eq_of_drop {content rest : List CodeUnit} {column : Nat} {u v : CodeUnit}
    (h : content.drop column = u :: v :: rest) :
    charLength content column = if isPair u v then 2 else 1 := by
  rw [charLength, ← Nat.add_zero column, ← isPairAt_drop, h]
  rfl

/-! ### Steps of the walk -/

variable {α : Type} [Scalar α]

/-- The box shows the character of the line that starts at the column, `offset` away from the left
margin: a tab as the way to the next tab stop, any other character as its text. -/
structure CharBox.Shows (metrics : Metrics α) (tabWidth leftMargin : α) (content : List CodeUnit)
    (column : Nat) (offset : α) (box : CharBox α) : Prop where
  column_eq : box.column = column
  left_eq : box.left = leftMargin + offset
  tab_or_char :
    (content[column]? = some 9 ∧ box.text = [] ∧ box.width = tabAdvance tabWidth offset) ∨
    (content[column]? ≠ some 9 ∧ ∃ c, c ≠ '\t' ∧ box.text = [c] ∧
      box.width = metrics.width (String.ofList [c]))

/-- Nothing is drawn for a tab, and for nothing else. -/
theorem CharBox.Shows.text_eq_nil_iff {metrics : Metrics α} {tabWidth leftMargin offset : α}
    {content : List CodeUnit} {column : Nat} {box : CharBox α}
    (h : box.Shows metrics tabWidth leftMargin content column offset) :
    box.text = [] ↔ content[column]? = some 9 := by
  rcases h.tab_or_char with ⟨htab, htext, -⟩ | ⟨htab, c, -, htext, -⟩
  · exact iff_of_true htext htab
  · exact iff_of_false (by simp [htext]) htab

theorem ofNat_ne_tab {n : Nat} (hn : n ≠ 9) : Char.ofNat n ≠ '\t' := by
  intro h
  by_cases hvalid : n.isValidChar
  · rw [Char.ofNat, dif_pos hvalid] at h
    have hval : n = 9 := congrArg Char.toNat h
    exact hn hval
  · rw [Char.ofNat, dif_neg hvalid] at h
    exact absurd h (by decide)

theorem unitChar_ne_tab {u : CodeUnit} (hu : u ≠ 9) : unitChar u ≠ '\t' := by
  have hnat : u.toNat ≠ 9 := fun h => hu (UInt16.toNat_inj.1 h)
  unfold unitChar unitChar?
  split
  · decide
  · simpa using ofNat_ne_tab hnat

theorem pairChar_ne_tab (u v : CodeUnit) : pairChar u v ≠ '\t' :=
  ofNat_ne_tab (by omega)

section Walk

variable (metrics : Metrics α) (tabWidth leftMargin : α) (content : List CodeUnit)

theorem shows_box {column : Nat} (offset : α) {u : CodeUnit} (hu : content[column]? = some u) :
    (charBoxes.box metrics tabWidth leftMargin column offset u).Shows metrics tabWidth leftMargin
      content column offset := by
  unfold charBoxes.box
  split
  · next h =>
    subst h
    exact ⟨rfl, rfl, Or.inl ⟨hu, rfl, rfl⟩⟩
  · next h =>
    exact ⟨rfl, rfl, Or.inr ⟨by simpa [hu] using h, unitChar u, unitChar_ne_tab h, rfl, rfl⟩⟩

/-- The boxes of the characters of the line from a column on, the first of which is `offset` away
from the left margin. -/
def boxesFrom (column : Nat) (offset : α) : List (CharBox α) :=
  charBoxes metrics tabWidth leftMargin column offset (content.drop column)

theorem boxesFrom_of_length_le {column : Nat} (offset : α) (h : content.length ≤ column) :
    boxesFrom metrics tabWidth leftMargin content column offset = [] := by
  rw [boxesFrom, List.drop_eq_nil_of_le h, charBoxes]

/-- A step of the walk: the box of one character, then those behind it. -/
theorem boxesFrom_eq_cons {column : Nat} (offset : α) (h : column < content.length) :
    ∃ box : CharBox α, box.Shows metrics tabWidth leftMargin content column offset ∧
      boxesFrom metrics tabWidth leftMargin content column offset =
        box :: boxesFrom metrics tabWidth leftMargin content
          (column + charLength content column) (offset + box.width) := by
  have hne : content.drop column ≠ [] := fun hnil => by
    have := List.drop_eq_nil_iff.1 hnil
    omega
  obtain ⟨u, units, hunits⟩ := List.exists_cons_of_ne_nil hne
  obtain ⟨-, hu, hrest⟩ := drop_eq_cons_iff.1 hunits
  cases units with
  | nil =>
    refine ⟨_, shows_box metrics tabWidth leftMargin content offset hu, ?_⟩
    have hend : content.length ≤ column + charLength content column := by
      have := charLength_pos content column
      have := List.drop_eq_nil_iff.1 hrest
      omega
    rw [boxesFrom_of_length_le _ _ _ _ _ hend, boxesFrom, hunits, charBoxes]
  | cons v rest =>
    obtain ⟨-, -, hrest'⟩ := drop_eq_cons_iff.1 hrest
    have hlength := charLength_eq_of_drop hunits
    by_cases hpair : isPair u v
    · have htab : u ≠ 9 := by
        rintro rfl
        simp [isPair, isHighSurrogate] at hpair
      refine ⟨⟨column, leftMargin + offset, metrics.width (String.ofList [pairChar u v]),
        [pairChar u v]⟩, ⟨rfl, rfl, Or.inr ⟨by simpa [hu] using htab, _, pairChar_ne_tab u v,
        rfl, rfl⟩⟩, ?_⟩
      rw [if_pos hpair] at hlength
      rw [boxesFrom, boxesFrom, hlength, hunits, hrest', charBoxes, if_pos hpair]
    · refine ⟨_, shows_box metrics tabWidth leftMargin content offset hu, ?_⟩
      rw [if_neg hpair] at hlength
      rw [boxesFrom, boxesFrom, hlength, hunits, hrest, charBoxes, if_neg hpair]

/-- **Induction along the walk.** What holds at the end of the line, and from a character on if it
holds from the next one on, holds from any column on. -/
theorem walk_induction {motive : Nat → α → Prop}
    (done : ∀ column offset, content.length ≤ column → motive column offset)
    (step : ∀ column offset (box : CharBox α), column < content.length →
      box.Shows metrics tabWidth leftMargin content column offset →
      boxesFrom metrics tabWidth leftMargin content column offset =
        box :: boxesFrom metrics tabWidth leftMargin content
          (column + charLength content column) (offset + box.width) →
      motive (column + charLength content column) (offset + box.width) → motive column offset)
    (column : Nat) (offset : α) : motive column offset := by
  induction hn : content.length - column using Nat.strongRecOn generalizing column offset with
  | ind n ih =>
    rcases Nat.lt_or_ge column content.length with hlt | hle
    · obtain ⟨box, hshows, hcons⟩ :=
        boxesFrom_eq_cons metrics tabWidth leftMargin content offset hlt
      have := charLength_pos content column
      exact step column offset box hlt hshows hcons (ih _ (by omega) _ _ rfl)
    · exact done column offset hle

end Walk

/-! ### The boxes of a line -/

section Boxes

variable {metrics : Metrics α} {tabWidth leftMargin : α} {content : List CodeUnit}
  {column : Nat} {offset : α} {box : CharBox α}

/-- Each box shows a whole character that starts within the line, from the given column on. -/
theorem shows_of_mem (hstart : charStart content column = column)
    (h : box ∈ boxesFrom metrics tabWidth leftMargin content column offset) :
    column ≤ box.column ∧ box.column < content.length ∧
      charStart content box.column = box.column ∧
      ∃ offset', box.Shows metrics tabWidth leftMargin content box.column offset' := by
  induction column, offset using walk_induction metrics tabWidth leftMargin content with
  | done column offset hle => simp [boxesFrom_of_length_le _ _ _ _ _ hle] at h
  | step column offset head hlt hshows hcons ih =>
    rw [hcons] at h
    rcases List.mem_cons.1 h with rfl | hrest
    · obtain rfl := hshows.column_eq
      exact ⟨Nat.le_refl _, hlt, hstart, offset, hshows⟩
    · obtain ⟨hle, hcolumn⟩ := ih (charStart_add_charLength content column) hrest
      exact ⟨by omega, hcolumn⟩

/-- Every character that starts at or after the given column has a box. -/
theorem exists_box_of_charStart_eq {c : Nat} (hle : column ≤ c) (hlt : c < content.length)
    (hc : charStart content c = c) :
    ∃ box ∈ boxesFrom metrics tabWidth leftMargin content column offset, box.column = c := by
  induction column, offset using walk_induction metrics tabWidth leftMargin content with
  | done column => omega
  | step column offset head _ hshows hcons ih =>
    rw [hcons]
    rcases Nat.eq_or_lt_of_le hle with rfl | hgt
    · exact ⟨head, List.mem_cons_self, hshows.column_eq⟩
    · have hnext : column + charLength content column ≤ c := by
        by_contra hin
        exact charStart_eq_of_lt hgt (by omega) hc
      obtain ⟨box, hbox, rfl⟩ := ih hnext
      exact ⟨box, List.mem_cons_of_mem _ hbox, rfl⟩

/-- The columns of the boxes increase from left to right. -/
theorem pairwise_column_lt :
    (boxesFrom metrics tabWidth leftMargin content column offset).Pairwise
      fun a b => a.column < b.column := by
  induction column, offset using walk_induction metrics tabWidth leftMargin content with
  | done column offset hle => simp [boxesFrom_of_length_le _ _ _ _ _ hle]
  | step column offset head _ hshows hcons ih =>
    rw [hcons]
    refine List.Pairwise.cons (fun box hbox => ?_) ih
    have := (shows_of_mem (charStart_add_charLength content column) hbox).1
    have := charLength_pos content column
    have := hshows.column_eq
    omega

end Boxes

/-! ### The layout of a line -/

/-- The left edges never decrease along the line, and no box has a negative width. -/
structure LineLayout.EdgesAscend (layout : LineLayout α) : Prop where
  left_le_left : layout.boxes.Pairwise fun a b => a.left ≤ b.left
  left_le_right : ∀ box ∈ layout.boxes, box.left ≤ box.right

/-- In a list that a relation orders, a search finds the element whose predecessors all fail. -/
theorem find?_eq_some_of_pairwise {β : Type} {r : β → β → Prop} {p : β → Bool} {b : β} :
    {l : List β} → l.Pairwise r → b ∈ l → p b = true → (∀ a, r a b → p a = false) →
      l.find? p = some b
  | [], _, hb, _, _ => absurd hb List.not_mem_nil
  | a :: l, hl, hb, hp, hbefore => by
      rcases List.mem_cons.1 hb with rfl | hb
      · exact List.find?_cons_of_pos hp
      · have ha : p a = false := hbefore a (List.rel_of_pairwise_cons hl hb)
        rw [List.find?_cons_of_neg (by simp [ha])]
        exact find?_eq_some_of_pairwise hl.of_cons hb hp hbefore

/-- What holds of an element only if it holds of those before it, holds of the elements up to the
first that fails. -/
theorem takeWhile_eq_filter {β : Type} {p : β → Bool} :
    {l : List β} → l.Pairwise (fun a b => p b = true → p a = true) → l.takeWhile p = l.filter p
  | [], _ => rfl
  | a :: l, hl => by
      by_cases ha : p a
      · rw [List.takeWhile_cons_of_pos ha, List.filter_cons_of_pos ha,
          takeWhile_eq_filter hl.of_cons]
      · rw [List.takeWhile_cons_of_neg ha, List.filter_cons_of_neg ha, eq_comm,
          List.filter_eq_nil_iff]
        exact fun b hb hpb => ha (List.rel_of_pairwise_cons hl hb hpb)

section Layout

variable {file : SourceFile} {metrics : Metrics α} {margins : Margins α} {tabStop line : Nat}
  {box : CharBox α}

theorem boxes_layout : (file.layout metrics margins tabStop line).boxes =
    boxesFrom metrics (metrics.tabWidth tabStop) margins.left (file.lineContent line) 0
      (Scalar.ofNat 0) :=
  rfl

/-- Each box of a line shows a whole character of the line. -/
theorem shows_of_mem_layout (h : box ∈ (file.layout metrics margins tabStop line).boxes) :
    box.column < file.lineLength line ∧
      charStart (file.lineContent line) box.column = box.column ∧
      ∃ offset, box.Shows metrics (metrics.tabWidth tabStop) margins.left (file.lineContent line)
        box.column offset := by
  rw [boxes_layout] at h
  exact (shows_of_mem (by simp [charStart]) h).2

/-- Only lines of the file have characters. -/
theorem line_lt_of_mem_layout (h : box ∈ (file.layout metrics margins tabStop line).boxes) :
    line < file.lineCount :=
  SourceFile.lt_lineCount_of_lt_lineLength (shows_of_mem_layout h).1

/-- The left edge of the character at a column is that of its box. -/
theorem leftOf_column_of_mem (h : box ∈ (file.layout metrics margins tabStop line).boxes) :
    (file.layout metrics margins tabStop line).leftOf box.column = box.left := by
  have hordered : (file.layout metrics margins tabStop line).boxes.Pairwise
      fun a b => a.column < b.column := by
    rw [boxes_layout]
    exact pairwise_column_lt
  have hfind : (file.layout metrics margins tabStop line).boxes.find? (box.column ≤ ·.column) =
      some box :=
    find?_eq_some_of_pairwise hordered h (by simp) fun a ha => by simpa using ha
  rw [LineLayout.leftOf, hfind]

/-- A column at or beyond the end of a line stands for the right edge of the line. -/
theorem leftOf_of_lineLength_le {column : Nat} (h : file.lineLength line ≤ column) :
    (file.layout metrics margins tabStop line).leftOf column =
      (file.layout metrics margins tabStop line).right := by
  have hfind :
      (file.layout metrics margins tabStop line).boxes.find? (column ≤ ·.column) = none := by
    refine List.find?_eq_none.2 fun box hbox => ?_
    have := (shows_of_mem_layout hbox).1
    simp
    omega
  rw [LineLayout.leftOf, hfind]

end Layout

end CodeBrowser
