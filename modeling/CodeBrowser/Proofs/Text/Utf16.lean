import CodeBrowser.Text.Utf16
import Mathlib.Data.List.Basic

/-!
# Text as code units and back

A character is one unit or a surrogate pair (`charUnits_cases`), so the units of a text tell its
characters apart: reading them gives the text back.

## Main results

* `charUnits_cases`: the units of a character.
* `ofUnits?_toUnits`, `ofUnitsLossy_toUnits`: the units of a text spell the text.
-/

namespace CodeBrowser

theorem toUnits_cons (c : Char) (text : List Char) :
    toUnits (c :: text) = charUnits c ++ toUnits text :=
  List.flatMap_cons

theorem toUnits_append (front text : List Char) :
    toUnits (front ++ text) = toUnits front ++ toUnits text :=
  List.flatMap_append

theorem toUnits_singleton (c : Char) : toUnits [c] = charUnits c := by
  simp [toUnits]

/-- A character is one unit that is no surrogate and has its number, or the surrogate pair that
spells it. -/
theorem charUnits_cases (c : Char) :
    (∃ u, charUnits c = [u] ∧ u.toNat = c.toNat ∧ isHighSurrogate u = false ∧
      isLowSurrogate u = false) ∨
    (∃ u v, charUnits c = [u, v] ∧ isHighSurrogate u = true ∧ isLowSurrogate v = true ∧
      pairChar u v = c) := by
  have hvalid : c.toNat < 0xD800 ∨ 0xDFFF < c.toNat ∧ c.toNat < 0x110000 := c.valid
  unfold charUnits
  split_ifs with hbasic
  · left
    have hu : c.toNat.toUInt16.toNat = c.toNat := UInt16.toNat_ofNat_of_lt' hbasic
    refine ⟨_, rfl, hu, ?_, ?_⟩
    · simp only [isHighSurrogate, Bool.and_eq_false_iff, decide_eq_false_iff_not,
        UInt16.le_iff_toNat_le, hu, UInt16.reduceToNat]
      omega
    · simp only [isLowSurrogate, Bool.and_eq_false_iff, decide_eq_false_iff_not,
        UInt16.le_iff_toNat_le, hu, UInt16.reduceToNat]
      omega
  · right
    have hu : (0xD800 + (c.toNat - 0x10000) / 0x400).toUInt16.toNat =
        0xD800 + (c.toNat - 0x10000) / 0x400 :=
      UInt16.toNat_ofNat_of_lt' (by rw [UInt16.size]; omega)
    have hv : (0xDC00 + (c.toNat - 0x10000) % 0x400).toUInt16.toNat =
        0xDC00 + (c.toNat - 0x10000) % 0x400 :=
      UInt16.toNat_ofNat_of_lt' (by rw [UInt16.size]; omega)
    refine ⟨_, _, rfl, ?_, ?_, ?_⟩
    · simp only [isHighSurrogate, Bool.and_eq_true, decide_eq_true_eq, UInt16.le_iff_toNat_le, hu,
        UInt16.reduceToNat]
      omega
    · simp only [isLowSurrogate, Bool.and_eq_true, decide_eq_true_eq, UInt16.le_iff_toNat_le, hv,
        UInt16.reduceToNat]
      omega
    · rw [pairChar, hu, hv]
      have hnumber : 0x10000 + (0xD800 + (c.toNat - 0x10000) / 0x400 - 0xD800) * 0x400 +
          (0xDC00 + (c.toNat - 0x10000) % 0x400 - 0xDC00) = c.toNat := by omega
      rw [hnumber, Char.ofNat_toNat]

theorem unitChar?_eq_some {u : CodeUnit} {c : Char} (hnumber : u.toNat = c.toNat)
    (hhigh : isHighSurrogate u = false) (hlow : isLowSurrogate u = false) :
    unitChar? u = some c := by
  rw [unitChar?, hhigh, hlow, hnumber, Char.ofNat_toNat]
  rfl

theorem ofUnits?_charUnits_append (c : Char) (rest : List CodeUnit) :
    ofUnits? (charUnits c ++ rest) = (ofUnits? rest).map (c :: ·) := by
  rcases charUnits_cases c with ⟨u, hunits, hnumber, hhigh, hlow⟩ | ⟨u, v, hunits, hhigh, hlow, hc⟩
  · have hchar := unitChar?_eq_some hnumber hhigh hlow
    rw [hunits]
    cases rest with
    | nil => simp [ofUnits?, hchar]
    | cons v rest => simp [ofUnits?, isPair, hhigh, hchar]
  · simp [hunits, ofUnits?, isPair, hhigh, hlow, hc]

theorem ofUnitsLossy_charUnits_append (c : Char) (rest : List CodeUnit) :
    ofUnitsLossy (charUnits c ++ rest) = c :: ofUnitsLossy rest := by
  rcases charUnits_cases c with ⟨u, hunits, hnumber, hhigh, hlow⟩ | ⟨u, v, hunits, hhigh, hlow, hc⟩
  · have hchar : unitChar u = c := by
      rw [unitChar, unitChar?_eq_some hnumber hhigh hlow, Option.getD_some]
    rw [hunits]
    cases rest with
    | nil => simp [ofUnitsLossy, hchar]
    | cons v rest => simp [ofUnitsLossy, isPair, hhigh, hchar]
  · simp [hunits, ofUnitsLossy, isPair, hhigh, hlow, hc]

/-- **The units of a text spell the text.** -/
theorem ofUnits?_toUnits : (text : List Char) → ofUnits? (toUnits text) = some text
  | [] => rfl
  | c :: text => by
      rw [toUnits_cons, ofUnits?_charUnits_append, ofUnits?_toUnits text, Option.map_some]

theorem ofUnitsLossy_toUnits : (text : List Char) → ofUnitsLossy (toUnits text) = text
  | [] => rfl
  | c :: text => by
      rw [toUnits_cons, ofUnitsLossy_charUnits_append, ofUnitsLossy_toUnits text]

/-- A text that is not empty has units. -/
theorem toUnits_ne_nil {text : List Char} (h : text ≠ []) : toUnits text ≠ [] := by
  intro hnil
  have hspelt := ofUnits?_toUnits text
  rw [hnil] at hspelt
  exact h (Option.some.inj hspelt).symm

/-- Different characters have different units. -/
theorem charUnits_injective : Function.Injective charUnits := by
  intro c d h
  have hc := ofUnits?_toUnits [c]
  have hd := ofUnits?_toUnits [d]
  rw [toUnits_singleton] at hc hd
  rw [h, hd] at hc
  simpa using hc.symm

end CodeBrowser
