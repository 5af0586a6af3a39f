import CodeBrowser.Proofs.Json.RoundTrip
import Mathlib.Tactic.SplitIfs

/-!
# The texts that write a colour

A colour is written as a hash sign with three digits, each standing for a doubled one, or with two
digits for each of three or four channels. `Color.Written` is this grammar, with the spelling of a
channel left open: `Color.DigitPair` is the one meant, two hexadecimal digits.

The reader accepts a little more. Pairs are read as small numbers, and a number may have a plus sign
in front, so a pair may also be a plus sign and one digit. Nothing else is accepted, and a text
without a plus sign is read exactly by the grammar that is meant. The three digits of the short form
are read one by one and admit no sign.

## Main definitions

* `Color.IsDigit`: hexadecimal digits and their values.
* `Color.DigitPair`, `Color.SignedDigit`: two digits, or a plus sign and a digit, as a channel.
* `Color.Written`: the colour that the characters behind the hash sign write.

## Main results

* `Color.parseDigits?_eq_some_iff`: what is accepted, and as which colour.
* `Color.written_hex`: the text of a colour writes it.
* `Color.parse?_accepts_written`: the texts that are read as a colour, with and without plus signs.
-/

namespace CodeBrowser.Color

/-! ### Digits -/

/-- The decimal digits and the six that follow them, in capitals. -/
def capitalDigits : List Char :=
  ['0', '1', '2', '3', '4', '5', '6', '7', '8', '9', 'A', 'B', 'C', 'D', 'E', 'F']

/-- The decimal digits and the six that follow them, in small letters. -/
def smallDigits : List Char :=
  ['0', '1', '2', '3', '4', '5', '6', '7', '8', '9', 'a', 'b', 'c', 'd', 'e', 'f']

/-- The character is the hexadecimal digit of the value, in either case. -/
def IsDigit (c : Char) (value : Nat) : Prop :=
  capitalDigits[value]? = some c ∨ smallDigits[value]? = some c

instance (c : Char) (value : Nat) : Decidable (IsDigit c value) :=
  inferInstanceAs (Decidable (_ ∨ _))

variable {c d : Char} {value : Nat} {v : UInt8}

theorem IsDigit.lt (h : IsDigit c value) : value < 16 := by
  rcases h with h | h
  · exact (List.getElem?_eq_some_iff.1 h).1
  · exact (List.getElem?_eq_some_iff.1 h).1

/-- What is read as a digit is one of the first 128 characters. -/
theorem toNat_lt_of_digit? (h : digit? c = some value) : c.toNat < 128 := by
  unfold digit? at h
  split_ifs at h with h0 ha hA
  · exact lt_of_le_of_lt (show c.toNat ≤ 57 from h0.2) (by decide)
  · exact lt_of_le_of_lt (show c.toNat ≤ 102 from ha.2) (by decide)
  · exact lt_of_le_of_lt (show c.toNat ≤ 70 from hA.2) (by decide)

/-- The reader knows the hexadecimal digits. -/
theorem digit?_eq_some_iff : digit? c = some value ↔ IsDigit c value := by
  constructor
  · intro h
    have hall : ∀ n < 128, ∀ value ∈ digit? (Char.ofNat n), IsDigit (Char.ofNat n) value := by
      decide
    have hdigit := hall c.toNat (toNat_lt_of_digit? h)
    rw [Char.ofNat_toNat] at hdigit
    exact hdigit value h
  · intro h
    have hcapital : ∀ n < 16, capitalDigits[n]?.bind digit? = some n := by decide
    have hsmall : ∀ n < 16, smallDigits[n]?.bind digit? = some n := by decide
    rcases h with hc | hc
    · have hdigit := hcapital value (IsDigit.lt (Or.inl hc))
      rwa [hc] at hdigit
    · have hdigit := hsmall value (IsDigit.lt (Or.inr hc))
      rwa [hc] at hdigit

theorem IsDigit.ne_plus (h : IsDigit c value) : c ≠ '+' := by
  rintro rfl
  rw [← digit?_eq_some_iff] at h
  exact absurd h (by decide +revert)

/-! ### Channels -/

/-- Two hexadecimal digits, as the number that they write. -/
def DigitPair (c d : Char) (v : UInt8) : Prop :=
  ∃ high low, IsDigit c high ∧ IsDigit d low ∧ v.toNat = 16 * high + low

/-- A plus sign and a hexadecimal digit, as the number that the digit writes. -/
def SignedDigit (c d : Char) (v : UInt8) : Prop := c = '+' ∧ IsDigit d v.toNat

theorem toNat_toUInt8_eq_iff {n : Nat} (h : n < 256) : n.toUInt8 = v ↔ v.toNat = n := by
  rw [← UInt8.toNat_inj, Nat.toUInt8_eq, UInt8.toNat_ofNat_of_lt' h, eq_comm]

/-- A single digit stands for a doubled one. -/
theorem single?_eq_some_iff : single? c = some v ↔ DigitPair c c v := by
  simp only [single?, Option.map_eq_some_iff, digit?_eq_some_iff]
  constructor
  · rintro ⟨value, hc, hv⟩
    have hlt := hc.lt
    rw [toNat_toUInt8_eq_iff (by omega)] at hv
    exact ⟨value, value, hc, hc, by omega⟩
  · rintro ⟨high, low, hhigh, hlow, hv⟩
    have hlt := hhigh.lt
    have heq : high = low :=
      Option.some.inj ((digit?_eq_some_iff.2 hhigh).symm.trans (digit?_eq_some_iff.2 hlow))
    exact ⟨high, hhigh, (toNat_toUInt8_eq_iff (by omega)).2 (by omega)⟩

/-- **What is accepted as a channel**: two digits, or a plus sign and a digit. -/
theorem pair?_eq_some_iff : pair? c d = some v ↔ DigitPair c d v ∨ SignedDigit c d v := by
  unfold pair?
  split_ifs with hplus
  · have hnot : ¬ DigitPair c d v := fun ⟨_, _, hc, _⟩ => hc.ne_plus hplus
    rw [or_iff_right hnot, SignedDigit, Option.map_eq_some_iff]
    constructor
    · rintro ⟨value, hd, hv⟩
      rw [digit?_eq_some_iff] at hd
      have hlt := hd.lt
      rw [toNat_toUInt8_eq_iff (by omega)] at hv
      exact ⟨hplus, hv ▸ hd⟩
    · rintro ⟨-, hd⟩
      have hlt := hd.lt
      exact ⟨v.toNat, digit?_eq_some_iff.2 hd, (toNat_toUInt8_eq_iff (by omega)).2 rfl⟩
  · rw [or_iff_left fun h : SignedDigit c d v => hplus h.1]
    constructor
    · intro h
      split at h
      · next high low hhigh hlow =>
        rw [digit?_eq_some_iff] at hhigh hlow
        have hlt := hhigh.lt
        have hlt' := hlow.lt
        rw [Option.some_inj, toNat_toUInt8_eq_iff (by omega)] at h
        exact ⟨high, low, hhigh, hlow, h⟩
      · cases h
    · rintro ⟨high, low, hhigh, hlow, hv⟩
      have hlt := hhigh.lt
      have hlt' := hlow.lt
      rw [digit?_eq_some_iff.2 hhigh, digit?_eq_some_iff.2 hlow, Option.some_inj,
        toNat_toUInt8_eq_iff (by omega)]
      exact hv

/-! ### The grammar -/

/-- The characters behind the hash sign write the colour, where `pair` says which two characters
write a channel. -/
inductive Written (pair : Char → Char → UInt8 → Prop) : List Char → Color → Prop where
  /-- A digit for each channel but alpha, to be doubled. -/
  | single {r g b : Char} {vr vg vb : UInt8} : DigitPair r r vr → DigitPair g g vg →
      DigitPair b b vb → Written pair [r, g, b] ⟨vr, vg, vb, 255⟩
  /-- A pair for each channel but alpha. -/
  | pairs {r r' g g' b b' : Char} {vr vg vb : UInt8} : pair r r' vr → pair g g' vg →
      pair b b' vb → Written pair [r, r', g, g', b, b'] ⟨vr, vg, vb, 255⟩
  /-- A pair for each channel. -/
  | alpha {r r' g g' b b' a a' : Char} {vr vg vb va : UInt8} : pair r r' vr → pair g g' vg →
      pair b b' vb → pair a a' va → Written pair [r, r', g, g', b, b', a, a'] ⟨vr, vg, vb, va⟩

/-- The spelling of a channel that is accepted. -/
def AcceptedPair (c d : Char) (v : UInt8) : Prop := DigitPair c d v ∨ SignedDigit c d v

theorem parseDigits?_eq_some_iff {digits : List Char} {color : Color} :
    parseDigits? digits = some color ↔ Written AcceptedPair digits color := by
  constructor
  · intro h
    unfold parseDigits? at h
    split at h
    · split at h
      · next hr hg hb =>
        cases h
        rw [single?_eq_some_iff] at hr hg hb
        exact .single hr hg hb
      · cases h
    · split at h
      · next hr hg hb =>
        cases h
        rw [pair?_eq_some_iff] at hr hg hb
        exact .pairs hr hg hb
      · cases h
    · split at h
      · next hr hg hb ha =>
        cases h
        rw [pair?_eq_some_iff] at hr hg hb ha
        exact .alpha hr hg hb ha
      · cases h
    · cases h
  · intro h
    cases h with
    | single hr hg hb =>
      simp only [parseDigits?, single?_eq_some_iff.2 hr, single?_eq_some_iff.2 hg,
        single?_eq_some_iff.2 hb, rgb]
    | pairs hr hg hb =>
      simp only [parseDigits?, pair?_eq_some_iff.2 hr, pair?_eq_some_iff.2 hg,
        pair?_eq_some_iff.2 hb, rgb]
    | alpha hr hg hb ha =>
      simp only [parseDigits?, pair?_eq_some_iff.2 hr, pair?_eq_some_iff.2 hg,
        pair?_eq_some_iff.2 hb, pair?_eq_some_iff.2 ha]

theorem parse?_eq_some_iff {s : String} {color : Color} : parse? s = some color ↔
    ∃ digits, s.toList = '#' :: digits ∧ Written AcceptedPair digits color := by
  unfold parse?
  constructor
  · intro h
    split at h
    · next digits hs => exact ⟨digits, hs, parseDigits?_eq_some_iff.1 h⟩
    · cases h
  · rintro ⟨digits, hs, hwritten⟩
    rw [hs]
    exact parseDigits?_eq_some_iff.2 hwritten

/-! ### Plus signs -/

theorem DigitPair.ne_plus (h : DigitPair c d v) : c ≠ '+' ∧ d ≠ '+' := by
  obtain ⟨high, low, hhigh, hlow, -⟩ := h
  exact ⟨hhigh.ne_plus, hlow.ne_plus⟩

theorem AcceptedPair.digitPair (h : AcceptedPair c d v) (hc : c ≠ '+') : DigitPair c d v :=
  h.resolve_right fun hsigned => hc hsigned.1

/-- The grammar that is meant is the accepted one without plus signs. -/
theorem written_digitPair_iff {digits : List Char} {color : Color} :
    Written DigitPair digits color ↔ Written AcceptedPair digits color ∧ '+' ∉ digits := by
  constructor
  · intro h
    cases h with
    | single hr hg hb =>
      refine ⟨.single hr hg hb, ?_⟩
      simp [hr.ne_plus.1.symm, hg.ne_plus.1.symm, hb.ne_plus.1.symm]
    | pairs hr hg hb =>
      refine ⟨.pairs (Or.inl hr) (Or.inl hg) (Or.inl hb), ?_⟩
      simp [hr.ne_plus.1.symm, hr.ne_plus.2.symm, hg.ne_plus.1.symm, hg.ne_plus.2.symm,
        hb.ne_plus.1.symm, hb.ne_plus.2.symm]
    | alpha hr hg hb ha =>
      refine ⟨.alpha (Or.inl hr) (Or.inl hg) (Or.inl hb) (Or.inl ha), ?_⟩
      simp [hr.ne_plus.1.symm, hr.ne_plus.2.symm, hg.ne_plus.1.symm, hg.ne_plus.2.symm,
        hb.ne_plus.1.symm, hb.ne_plus.2.symm, ha.ne_plus.1.symm, ha.ne_plus.2.symm]
  · rintro ⟨h, hplus⟩
    have hne {x : Char} (hx : x ∈ digits) : x ≠ '+' := fun heq => hplus (heq ▸ hx)
    cases h with
    | single hr hg hb => exact .single hr hg hb
    | pairs hr hg hb =>
      exact .pairs (hr.digitPair (hne (by simp))) (hg.digitPair (hne (by simp)))
        (hb.digitPair (hne (by simp)))
    | alpha hr hg hb ha =>
      exact .alpha (hr.digitPair (hne (by simp))) (hg.digitPair (hne (by simp)))
        (hb.digitPair (hne (by simp))) (ha.digitPair (hne (by simp)))

/-! ### The text of a colour -/

theorem isDigit_hexDigit {n : Nat} (h : n < 16) : IsDigit (hexDigit n) n :=
  digit?_eq_some_iff.1 (digit?_hexDigit n h)

theorem digitPair_hexPair (v : UInt8) :
    DigitPair (hexDigit (v.toNat / 16)) (hexDigit (v.toNat % 16)) v := by
  have hv : v.toNat < 256 := v.toNat_lt
  exact ⟨_, _, isDigit_hexDigit (by omega), isDigit_hexDigit (by omega), by omega⟩

theorem hexPair_subset (v : UInt8) : ∀ x ∈ hexPair v, x ∈ capitalDigits := by
  have hdigit : ∀ n < 16, hexDigit n ∈ capitalDigits := by decide
  have hv : v.toNat < 256 := v.toNat_lt
  simp only [hexPair, List.mem_cons, List.not_mem_nil, or_false, forall_eq_or_imp, forall_eq]
  exact ⟨hdigit _ (by omega), hdigit _ (by omega)⟩

/-- **The text of a colour** is a hash sign and six digits in capitals, or eight if the colour is
not opaque, that write the colour. -/
theorem written_hex (color : Color) : ∃ digits, color.hex.toList = '#' :: digits ∧
    digits.length = (if color.a = 255 then 6 else 8) ∧ (∀ x ∈ digits, x ∈ capitalDigits) ∧
    Written DigitPair digits color := by
  obtain ⟨r, g, b, a⟩ := color
  unfold hex
  split_ifs with ha
  · subst ha
    refine ⟨hexPair r ++ hexPair g ++ hexPair b, String.toList_ofList, rfl, ?_, ?_⟩
    · simp only [List.forall_mem_append]
      exact ⟨⟨hexPair_subset r, hexPair_subset g⟩, hexPair_subset b⟩
    · exact .pairs (digitPair_hexPair r) (digitPair_hexPair g) (digitPair_hexPair b)
  · refine ⟨hexPair r ++ hexPair g ++ hexPair b ++ hexPair a, String.toList_ofList, rfl, ?_, ?_⟩
    · simp only [List.forall_mem_append]
      exact ⟨⟨⟨hexPair_subset r, hexPair_subset g⟩, hexPair_subset b⟩, hexPair_subset a⟩
    · exact .alpha (digitPair_hexPair r) (digitPair_hexPair g) (digitPair_hexPair b)
        (digitPair_hexPair a)

/-! ### Texts -/

/-- **The texts that are read as a colour.** A text is read as a colour if and only if it is a hash
sign with characters that write the colour, where a pair may also be a plus sign and a digit. Among
the texts without a plus sign these are exactly the texts with three, six or eight digits that write
the colour. The text that is written of a colour is one of them, in capitals, and is read as the
colour again. -/
theorem parse?_accepts_written (s : String) (color : Color) :
    (parse? s = some color ↔
      ∃ digits, s.toList = '#' :: digits ∧ Written AcceptedPair digits color) ∧
    (parse? s = some color ∧ '+' ∉ s.toList ↔
      ∃ digits, s.toList = '#' :: digits ∧ Written DigitPair digits color) ∧
    parse? color.hex = some color ∧
    ∃ digits, color.hex.toList = '#' :: digits ∧
      digits.length = (if color.a = 255 then 6 else 8) ∧ (∀ x ∈ digits, x ∈ capitalDigits) ∧
      Written DigitPair digits color := by
  refine ⟨parse?_eq_some_iff, ?_, parse?_hex color, written_hex color⟩
  rw [parse?_eq_some_iff]
  constructor
  · rintro ⟨⟨digits, hs, hwritten⟩, hplus⟩
    refine ⟨digits, hs, written_digitPair_iff.2 ⟨hwritten, fun hmem => hplus ?_⟩⟩
    rw [hs]
    exact List.mem_cons_of_mem _ hmem
  · rintro ⟨digits, hs, hwritten⟩
    obtain ⟨haccepted, hplus⟩ := written_digitPair_iff.1 hwritten
    refine ⟨⟨digits, hs, haccepted⟩, ?_⟩
    rw [hs, List.mem_cons]
    exact not_or.2 ⟨by decide, hplus⟩

/-- Plus signs are accepted in front of single digits, which the grammar does not write. -/
theorem not_forall_parse?_iff_written : ¬ ∀ (s : String) (color : Color),
    parse? s = some color ↔
      ∃ digits, s.toList = '#' :: digits ∧ Written DigitPair digits color := by
  intro h
  have hread : parse? "#+F+F+F" = some ⟨15, 15, 15, 255⟩ := by decide
  obtain ⟨digits, hs, hwritten⟩ := (h "#+F+F+F" ⟨15, 15, 15, 255⟩).1 hread
  have hdigits : digits = ['+', 'F', '+', 'F', '+', 'F'] := (List.cons.inj hs).2.symm
  exact (written_digitPair_iff.1 hwritten).2 (hdigits ▸ List.mem_cons_self)

end CodeBrowser.Color
