import CodeBrowser.Text.Utf8
import Mathlib.Tactic.SplitIfs

/-!
# Text as UTF-8 and back

A character of two bytes or more begins with a byte that says how many are to come and how the next
one is bounded; the bounds leave out exactly what has a shorter form or is no character. So the
bytes of a character are cut into one piece, whatever comes after them, and the bytes of a text are
cut into its characters.

## Main results

* `Utf8.encode_eq_utf8Encode`: the bytes of a text are those of the standard encoder.
* `Utf8.lead?_two`, `Utf8.lead?_three`, `Utf8.lead?_four`: what the first byte of a character says.
* `Utf8.piecesFrom_charBytes_append`: the bytes of a character are one piece.
* `Utf8.decode_encode`: decoding undoes encoding.
-/

namespace CodeBrowser.Utf8

/-! ### The standard encoder -/

/-- The bytes of a character are those of the standard encoder. -/
theorem charBytes_eq_utf8EncodeChar (c : Char) : charBytes c = String.utf8EncodeChar c := by
  have hvalid : c.toNat < 0xD800 ∨ 0xDFFF < c.toNat ∧ c.toNat < 0x110000 := c.valid
  have hval : c.val.toNat = c.toNat := rfl
  unfold charBytes String.utf8EncodeChar
  dsimp only
  rw [hval]
  generalize c.toNat = n at hvalid
  by_cases h1 : n < 0x80
  · rw [if_pos h1, if_pos (by omega)]
  by_cases h2 : n < 0x800
  · rw [if_neg h1, if_pos h2, if_neg (by omega), if_pos (by omega), Nat.add_comm 0xC0,
      Nat.add_comm 0x80, Nat.mod_eq_of_lt (show n / 64 < 32 by omega)]
  by_cases h3 : n < 0x10000
  · rw [if_neg h1, if_neg h2, if_pos h3, if_neg (by omega), if_neg (by omega), if_pos (by omega),
      Nat.add_comm 0xE0, Nat.add_comm 0x80, Nat.add_comm 0x80,
      Nat.mod_eq_of_lt (show n / 4096 < 16 by omega)]
  · rw [if_neg h1, if_neg h2, if_neg h3, if_neg (by omega), if_neg (by omega), if_neg (by omega),
      Nat.add_comm 0xF0, Nat.add_comm 0x80, Nat.add_comm 0x80, Nat.add_comm 0x80,
      Nat.mod_eq_of_lt (show n / 262144 < 8 by omega)]

/-- The bytes of a text are those of the standard encoder. -/
theorem encode_eq_utf8Encode (text : List Char) : encode text = text.utf8Encode.data.toList := by
  rw [List.utf8Encode, List.data_toByteArray, encode, funext charBytes_eq_utf8EncodeChar]

/-! ### The first byte of a character -/

theorem toNat_toUInt8 {n : Nat} (h : n < 256) : n.toUInt8.toNat = n :=
  UInt8.toNat_ofNat_of_lt' h

/-- The first of two bytes. -/
theorem lead?_two {n : Nat} (hmin : 0x80 ≤ n) (hmax : n < 0x800) :
    lead? (0xC0 + n / 0x40).toUInt8 = some ⟨n / 0x40, 1, 0, 0x80, 0xBF⟩ := by
  have hb : (0xC0 + n / 0x40).toUInt8.toNat = 0xC0 + n / 0x40 := toNat_toUInt8 (by omega)
  simp only [lead?, Bool.and_eq_true, decide_eq_true_eq, UInt8.le_iff_toNat_le, hb,
    UInt8.reduceToNat]
  rw [if_pos (by omega), Nat.add_sub_cancel_left]

/-- The first of three bytes bounds the second one. -/
theorem lead?_three {n : Nat} (hmin : 0x800 ≤ n) (hmax : n < 0x10000)
    (hchar : n < 0xD800 ∨ 0xDFFF < n) :
    ∃ low high, lead? (0xE0 + n / 0x1000).toUInt8 = some ⟨n / 0x1000, 1, 1, low, high⟩ ∧
      low.toNat ≤ 0x80 + n / 0x40 % 0x40 ∧ 0x80 + n / 0x40 % 0x40 ≤ high.toNat := by
  have hb : (0xE0 + n / 0x1000).toUInt8.toNat = 0xE0 + n / 0x1000 := toNat_toUInt8 (by omega)
  simp only [lead?, Bool.and_eq_true, decide_eq_true_eq, beq_iff_eq, UInt8.le_iff_toNat_le,
    ← UInt8.toNat_inj, hb, UInt8.reduceToNat]
  rw [if_neg (by omega)]
  by_cases hfirst : n / 0x1000 = 0
  · rw [hfirst, if_pos rfl]
    exact ⟨0xA0, 0xBF, rfl, show 0xA0 ≤ _ by omega, show _ ≤ 0xBF by omega⟩
  rw [if_neg (by omega)]
  by_cases hsurrogate : n / 0x1000 = 0xD
  · rw [hsurrogate, if_pos rfl]
    exact ⟨0x80, 0x9F, rfl, show 0x80 ≤ _ by omega, show _ ≤ 0x9F by omega⟩
  · rw [if_neg (by omega), if_pos (by omega), Nat.add_sub_cancel_left]
    exact ⟨0x80, 0xBF, rfl, show 0x80 ≤ _ by omega, show _ ≤ 0xBF by omega⟩

/-- The first of four bytes bounds the second one. -/
theorem lead?_four {n : Nat} (hmin : 0x10000 ≤ n) (hmax : n < 0x110000) :
    ∃ low high, lead? (0xF0 + n / 0x40000).toUInt8 = some ⟨n / 0x40000, 1, 2, low, high⟩ ∧
      low.toNat ≤ 0x80 + n / 0x1000 % 0x40 ∧ 0x80 + n / 0x1000 % 0x40 ≤ high.toNat := by
  have hb : (0xF0 + n / 0x40000).toUInt8.toNat = 0xF0 + n / 0x40000 := toNat_toUInt8 (by omega)
  simp only [lead?, Bool.and_eq_true, decide_eq_true_eq, beq_iff_eq, UInt8.le_iff_toNat_le,
    ← UInt8.toNat_inj, hb, UInt8.reduceToNat]
  rw [if_neg (by omega), if_neg (by omega), if_neg (by omega), if_neg (by omega)]
  by_cases hfirst : n / 0x40000 = 0
  · rw [hfirst, if_pos rfl]
    exact ⟨0x90, 0xBF, rfl, show 0x90 ≤ _ by omega, show _ ≤ 0xBF by omega⟩
  rw [if_neg (by omega)]
  by_cases hlast : n / 0x40000 = 4
  · rw [hlast, if_neg (by omega), if_pos rfl]
    exact ⟨0x80, 0x8F, rfl, show 0x80 ≤ _ by omega, show _ ≤ 0x8F by omega⟩
  · rw [if_pos (by omega), Nat.add_sub_cancel_left]
    exact ⟨0x80, 0xBF, rfl, show 0x80 ≤ _ by omega, show _ ≤ 0xBF by omega⟩

/-! ### Pieces -/

variable {rest : List UInt8} {value seen owed m : Nat} {low high : UInt8}

/-- A byte of 128 or more that begins a character. -/
theorem piecesFrom_lead {n : Nat} {p : Pending} (hn : 0x80 ≤ n) (hmax : n < 256)
    (h : lead? n.toUInt8 = some p) :
    piecesFrom none (n.toUInt8 :: rest) = piecesFrom (some p) rest := by
  have hbegin : begin n.toUInt8 = (none, some p) := by
    have hle : ¬ n.toUInt8 < 0x80 := by
      rw [UInt8.lt_iff_toNat_lt, toNat_toUInt8 hmax]
      exact Nat.not_lt.2 hn
    rw [begin, if_neg hle, h]
  rw [piecesFrom, hbegin]
  rfl

/-- A byte within its bounds adds its last six bits, be it the last one of a character or not. -/
theorem piecesFrom_tail (hm : m < 0x40) (hlow : low.toNat ≤ 0x80 + m)
    (hhigh : 0x80 + m ≤ high.toNat) :
    piecesFrom (some ⟨value, seen, owed, low, high⟩) ((0x80 + m).toUInt8 :: rest) =
      match owed with
      | 0 => .char (Char.ofNat (value * 0x40 + m)) :: piecesFrom none rest
      | owed + 1 => piecesFrom (some ⟨value * 0x40 + m, seen + 1, owed, 0x80, 0xBF⟩) rest := by
  have hb : (0x80 + m).toUInt8.toNat = 0x80 + m := toNat_toUInt8 (by omega)
  have hbounds : (low ≤ (0x80 + m).toUInt8 && (0x80 + m).toUInt8 ≤ high) = true := by
    simp only [Bool.and_eq_true, decide_eq_true_eq, UInt8.le_iff_toNat_le, hb]
    exact ⟨hlow, hhigh⟩
  cases owed with
  | zero => simp only [piecesFrom, if_pos hbounds, hb, Nat.add_sub_cancel_left]
  | succ owed => simp only [piecesFrom, if_pos hbounds, hb, Nat.add_sub_cancel_left]

/-- A byte that is not the last one of a character. -/
theorem piecesFrom_more (hm : m < 0x40) (hlow : low.toNat ≤ 0x80 + m)
    (hhigh : 0x80 + m ≤ high.toNat) :
    piecesFrom (some ⟨value, seen, owed + 1, low, high⟩) ((0x80 + m).toUInt8 :: rest) =
      piecesFrom (some ⟨value * 0x40 + m, seen + 1, owed, 0x80, 0xBF⟩) rest :=
  piecesFrom_tail hm hlow hhigh

/-- The last byte of a character. -/
theorem piecesFrom_last (hm : m < 0x40) :
    piecesFrom (some ⟨value, seen, 0, 0x80, 0xBF⟩) ((0x80 + m).toUInt8 :: rest) =
      .char (Char.ofNat (value * 0x40 + m)) :: piecesFrom none rest :=
  piecesFrom_tail hm (show 0x80 ≤ _ by omega) (show _ ≤ 0xBF by omega)

/-- **The bytes of a character are one piece**, whatever comes after them. -/
theorem piecesFrom_charBytes_append (c : Char) (rest : List UInt8) :
    piecesFrom none (charBytes c ++ rest) = .char c :: piecesFrom none rest := by
  have hvalid : c.toNat < 0xD800 ∨ 0xDFFF < c.toNat ∧ c.toNat < 0x110000 := c.valid
  have hchar : Char.ofNat c.toNat = c := Char.ofNat_toNat c
  unfold charBytes
  dsimp only
  generalize c.toNat = n at hvalid hchar
  split_ifs with h1 h2 h3
  · have hlt : n.toUInt8 < 0x80 := by
      rw [UInt8.lt_iff_toNat_lt, toNat_toUInt8 (by omega)]
      exact h1
    rw [List.singleton_append, piecesFrom, begin, if_pos hlt, toNat_toUInt8 (by omega), hchar]
    rfl
  · have hnumber : n / 0x40 * 0x40 + n % 0x40 = n := by omega
    simp only [List.cons_append, List.nil_append]
    rw [piecesFrom_lead (by omega) (by omega) (lead?_two (by omega) h2),
      piecesFrom_last (by omega), hnumber, hchar]
  · obtain ⟨low, high, hlead, hlow, hhigh⟩ := lead?_three (by omega) h3 (by omega)
    have hnumber : (n / 0x1000 * 0x40 + n / 0x40 % 0x40) * 0x40 + n % 0x40 = n := by omega
    simp only [List.cons_append, List.nil_append]
    rw [piecesFrom_lead (by omega) (by omega) hlead, piecesFrom_more (by omega) hlow hhigh,
      piecesFrom_last (by omega), hnumber, hchar]
  · obtain ⟨low, high, hlead, hlow, hhigh⟩ :=
      lead?_four (n := n) (by omega) (by omega)
    have hnumber : ((n / 0x40000 * 0x40 + n / 0x1000 % 0x40) * 0x40 + n / 0x40 % 0x40) * 0x40 +
        n % 0x40 = n := by omega
    simp only [List.cons_append, List.nil_append]
    rw [piecesFrom_lead (by omega) (by omega) hlead, piecesFrom_more (by omega) hlow hhigh,
      piecesFrom_more (by omega) (show 0x80 ≤ _ by omega) (show _ ≤ 0xBF by omega),
      piecesFrom_last (by omega), hnumber, hchar]

/-! ### Texts -/

/-- The bytes of a text are cut into its characters. -/
theorem pieces_encode : (text : List Char) → pieces (encode text) = text.map .char
  | [] => rfl
  | c :: text => by
      rw [encode, List.flatMap_cons, pieces, piecesFrom_charBytes_append, List.map_cons]
      exact congrArg _ (pieces_encode text)

theorem join_map_char : (offset : Nat) → (text : List Char) →
    join offset (text.map .char) = .ok text
  | _, [] => rfl
  | offset, c :: text => by
      rw [List.map_cons, join, join_map_char (offset + c.utf8Size) text]

/-- **Decoding undoes encoding.** -/
theorem decode_encode (text : List Char) : decode (encode text) = .ok text := by
  rw [decode, pieces_encode, join_map_char]

end CodeBrowser.Utf8
