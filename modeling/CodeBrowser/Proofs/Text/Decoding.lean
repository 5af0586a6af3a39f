import CodeBrowser.Proofs.Text.Opening

/-!
# Only what was encoded is decoded

The decoders of the Unicode encodings are strict: a text comes out only of bytes that encode it. For
UTF-8 this is so because the bounds that the first byte of a character sets to the second one leave
no two ways to write a number, so that the pieces of some bytes tell the bytes. A surrogate pair and
its number tell each other in the same way, and so do a code unit and its two bytes.

One thing slips through. UTF-16 is read two bytes at a time, and a single byte behind the last pair
is not looked at. So UTF-16 bytes are read as a text if they encode it, and also if one more byte
follows.

## Main results

* `Utf8.lead?_eq_some`: what begins a character, and how it bounds the next byte.
* `Utf8.exists_append_of_piecesFrom`: bytes that are cut into a character begin with its bytes.
* `Utf8.decode_eq_ok_iff`: UTF-8 is read as the text that it encodes, and as no other.
* `ofUnits?_eq_some_iff`: so are code units.
* `TextEncoding.decodeUtf16?_eq_some_iff`: so are UTF-16 bytes, up to a byte left over.
* `TextEncoding.decode_accepts_encoded`: the bytes that each Unicode encoding accepts, and as what.
-/

namespace CodeBrowser

theorem toNat_ofNat_of_isValidChar {n : Nat} (h : n.isValidChar) : (Char.ofNat n).toNat = n := by
  rw [Char.ofNat, dif_pos h]
  rfl

namespace Utf8

variable {bytes : List UInt8} {c : Char} {pieces : List Piece}

/-! ### The first byte of a character -/

/-- What begins a character: the first of two, of three or of four bytes. The second of three or
four is bounded so that no number below 0x800 or 0x10000, no surrogate and no number past 0x10FFFF
can be written. -/
theorem lead?_eq_some {b : UInt8} {p : Pending} (h : lead? b = some p) :
    (∃ value, p = ⟨value, 1, 0, 0x80, 0xBF⟩ ∧ b.toNat = 0xC0 + value ∧ 2 ≤ value ∧ value < 0x20) ∨
    (∃ value low high, p = ⟨value, 1, 1, low, high⟩ ∧ b.toNat = 0xE0 + value ∧ value < 0x10 ∧
      0x80 ≤ low.toNat ∧ high.toNat ≤ 0xBF ∧ (value = 0 → 0xA0 ≤ low.toNat) ∧
      (value = 0xD → high.toNat ≤ 0x9F)) ∨
    (∃ value low high, p = ⟨value, 1, 2, low, high⟩ ∧ b.toNat = 0xF0 + value ∧ value ≤ 4 ∧
      0x80 ≤ low.toNat ∧ high.toNat ≤ 0xBF ∧ (value = 0 → 0x90 ≤ low.toNat) ∧
      (value = 4 → high.toNat ≤ 0x8F)) := by
  simp only [lead?, Bool.and_eq_true, decide_eq_true_eq, beq_iff_eq, UInt8.le_iff_toNat_le,
    ← UInt8.toNat_inj, UInt8.reduceToNat] at h
  split_ifs at h with h2 hE0 hED h3 hF0 h4 hF4
  all_goals obtain rfl := Option.some.inj h
  · refine Or.inl ⟨b.toNat - 0xC0, rfl, ?_⟩
    omega
  · exact Or.inr (Or.inl ⟨0, 0xA0, 0xBF, rfl, by omega, by decide⟩)
  · exact Or.inr (Or.inl ⟨0xD, 0x80, 0x9F, rfl, by omega, by decide⟩)
  · refine Or.inr (Or.inl ⟨b.toNat - 0xE0, 0x80, 0xBF, rfl, ?_⟩)
    simp only [UInt8.reduceToNat]
    omega
  · exact Or.inr (Or.inr ⟨0, 0x90, 0xBF, rfl, by omega, by decide⟩)
  · refine Or.inr (Or.inr ⟨b.toNat - 0xF0, 0x80, 0xBF, rfl, ?_⟩)
    simp only [UInt8.reduceToNat]
    omega
  · exact Or.inr (Or.inr ⟨4, 0x80, 0x8F, rfl, by omega, by decide⟩)

/-! ### Pieces that are characters -/

/-- A character that has begun goes on with a byte within its bounds. -/
theorem exists_tail_of_piecesFrom {value seen owed : Nat} {low high : UInt8}
    (hlow : 0x80 ≤ low.toNat) (hhigh : high.toNat ≤ 0xBF)
    (h : piecesFrom (some ⟨value, seen, owed, low, high⟩) bytes = .char c :: pieces) :
    ∃ m rest, m < 0x40 ∧ low.toNat ≤ 0x80 + m ∧ 0x80 + m ≤ high.toNat ∧
      bytes = (0x80 + m).toUInt8 :: rest := by
  cases bytes with
  | nil => simp [piecesFrom] at h
  | cons b rest =>
    by_cases hbounds : (low ≤ b && b ≤ high) = true
    · simp only [Bool.and_eq_true, decide_eq_true_eq, UInt8.le_iff_toNat_le] at hbounds
      have hb : 0x80 + (b.toNat - 0x80) = b.toNat := by omega
      refine ⟨b.toNat - 0x80, rest, by omega, by omega, by omega, ?_⟩
      rw [hb, Nat.toUInt8_eq, UInt8.ofNat_toNat]
    · rw [piecesFrom, if_neg hbounds] at h
      simp at h

/-- A character that has begun takes up some of the pieces, whatever follows. -/
theorem piecesFrom_some_ne_nil (bytes : List UInt8) (p : Pending) :
    piecesFrom (some p) bytes ≠ [] := by
  induction bytes generalizing p with
  | nil => simp [piecesFrom]
  | cons b rest ih =>
    rw [piecesFrom]
    split_ifs
    · split
      · exact List.cons_ne_nil _ _
      · exact ih _
    · exact List.cons_ne_nil _ _

theorem eq_nil_of_piecesFrom (h : piecesFrom none bytes = []) : bytes = [] := by
  cases bytes with
  | nil => rfl
  | cons b rest =>
    rw [piecesFrom, begin] at h
    split_ifs at h
    · cases h
    · cases hlead : lead? b with
      | none => simp [hlead] at h
      | some p => exact absurd (by simpa [hlead] using h) (piecesFrom_some_ne_nil rest p)

/-- The bytes of a number, where it is that of a character. -/
theorem charBytes_ofNat {n : Nat} (h : n.isValidChar) : charBytes (Char.ofNat n) =
    if n < 0x80 then [n.toUInt8]
    else if n < 0x800 then [(0xC0 + n / 0x40).toUInt8, (0x80 + n % 0x40).toUInt8]
    else if n < 0x10000 then
      [(0xE0 + n / 0x1000).toUInt8, (0x80 + n / 0x40 % 0x40).toUInt8, (0x80 + n % 0x40).toUInt8]
    else
      [(0xF0 + n / 0x40000).toUInt8, (0x80 + n / 0x1000 % 0x40).toUInt8,
        (0x80 + n / 0x40 % 0x40).toUInt8, (0x80 + n % 0x40).toUInt8] := by
  rw [charBytes, toNat_ofNat_of_isValidChar h]

/-- Two bytes of a character, from the bits that they carry. -/
theorem charBytes_two {v m : Nat} (hmin : 2 ≤ v) (hmax : v < 0x20) (hm : m < 0x40) :
    charBytes (Char.ofNat (v * 0x40 + m)) = [(0xC0 + v).toUInt8, (0x80 + m).toUInt8] := by
  rw [charBytes_ofNat (show Nat.isValidChar _ by unfold Nat.isValidChar; omega),
    if_neg (by omega), if_pos (by omega), show (v * 0x40 + m) / 0x40 = v by omega,
    show (v * 0x40 + m) % 0x40 = m by omega]

/-- Three bytes of a character, from the bits that they carry. -/
theorem charBytes_three {v m k : Nat} (hmin : 0x20 ≤ v * 0x40 + m) (hmax : v < 0x10)
    (hchar : v * 0x40 + m < 0x360 ∨ 0x380 ≤ v * 0x40 + m) (hm : m < 0x40) (hk : k < 0x40) :
    charBytes (Char.ofNat ((v * 0x40 + m) * 0x40 + k)) =
      [(0xE0 + v).toUInt8, (0x80 + m).toUInt8, (0x80 + k).toUInt8] := by
  rw [charBytes_ofNat (show Nat.isValidChar _ by unfold Nat.isValidChar; omega),
    if_neg (by omega), if_neg (by omega), if_pos (by omega),
    show ((v * 0x40 + m) * 0x40 + k) / 0x1000 = v by omega,
    show ((v * 0x40 + m) * 0x40 + k) / 0x40 % 0x40 = m by omega,
    show ((v * 0x40 + m) * 0x40 + k) % 0x40 = k by omega]

/-- Four bytes of a character, from the bits that they carry. -/
theorem charBytes_four {v m k l : Nat} (hmin : 0x10 ≤ v * 0x40 + m) (hmax : v * 0x40 + m < 0x110)
    (hm : m < 0x40) (hk : k < 0x40) (hl : l < 0x40) :
    charBytes (Char.ofNat (((v * 0x40 + m) * 0x40 + k) * 0x40 + l)) =
      [(0xF0 + v).toUInt8, (0x80 + m).toUInt8, (0x80 + k).toUInt8, (0x80 + l).toUInt8] := by
  rw [charBytes_ofNat (show Nat.isValidChar _ by unfold Nat.isValidChar; omega),
    if_neg (by omega), if_neg (by omega), if_neg (by omega),
    show (((v * 0x40 + m) * 0x40 + k) * 0x40 + l) / 0x40000 = v by omega,
    show (((v * 0x40 + m) * 0x40 + k) * 0x40 + l) / 0x1000 % 0x40 = m by omega,
    show (((v * 0x40 + m) * 0x40 + k) * 0x40 + l) / 0x40 % 0x40 = k by omega,
    show (((v * 0x40 + m) * 0x40 + k) * 0x40 + l) % 0x40 = l by omega]

/-- Bytes whose first piece is a character begin with the bytes of some character. -/
theorem exists_charBytes_append (h : piecesFrom none bytes = .char c :: pieces) :
    ∃ d rest, bytes = charBytes d ++ rest := by
  cases bytes with
  | nil => simp [piecesFrom] at h
  | cons b rest =>
    have hb : b = b.toNat.toUInt8 := by rw [Nat.toUInt8_eq, UInt8.ofNat_toNat]
    rw [piecesFrom, begin] at h
    split_ifs at h with hlt
    · -- A byte below 128 is a character by itself.
      have hlt : b.toNat < 0x80 := UInt8.lt_iff_toNat_lt.1 hlt
      refine ⟨Char.ofNat b.toNat, rest, ?_⟩
      rw [charBytes_ofNat (Or.inl (by omega)), if_pos hlt, ← hb]
      rfl
    · cases hlead : lead? b with
      | none => simp [hlead] at h
      | some p =>
        simp only [hlead, Option.toList_none, List.nil_append] at h
        rcases lead?_eq_some hlead with ⟨v, rfl, hv, hmin, hmax⟩ |
          ⟨v, low, high, rfl, hv, hmax, hlow, hhigh, hfirst, hsurrogate⟩ |
          ⟨v, low, high, rfl, hv, hmax, hlow, hhigh, hfirst, hlast⟩
        · obtain ⟨m, rest, hm, -, -, rfl⟩ :=
            exists_tail_of_piecesFrom (by decide) (by decide) h
          refine ⟨Char.ofNat (v * 0x40 + m), rest, ?_⟩
          rw [charBytes_two hmin hmax hm, hb, hv]
          rfl
        · obtain ⟨m, rest, hm, hlow', hhigh', rfl⟩ := exists_tail_of_piecesFrom hlow hhigh h
          rw [piecesFrom_more hm hlow' hhigh'] at h
          obtain ⟨k, rest, hk, -, -, rfl⟩ :=
            exists_tail_of_piecesFrom (by decide) (by decide) h
          refine ⟨Char.ofNat ((v * 0x40 + m) * 0x40 + k), rest, ?_⟩
          rw [charBytes_three (by omega) hmax (by omega) hm hk, hb, hv]
          rfl
        · obtain ⟨m, rest, hm, hlow', hhigh', rfl⟩ := exists_tail_of_piecesFrom hlow hhigh h
          rw [piecesFrom_more hm hlow' hhigh'] at h
          obtain ⟨k, rest, hk, hlow'', hhigh'', rfl⟩ :=
            exists_tail_of_piecesFrom (by decide) (by decide) h
          rw [piecesFrom_more hk hlow'' hhigh''] at h
          obtain ⟨l, rest, hl, -, -, rfl⟩ :=
            exists_tail_of_piecesFrom (by decide) (by decide) h
          refine ⟨Char.ofNat (((v * 0x40 + m) * 0x40 + k) * 0x40 + l), rest, ?_⟩
          rw [charBytes_four (by omega) (by omega) hm hk hl, hb, hv]
          rfl

/-- **Bytes that are cut into a character begin with its bytes.** -/
theorem exists_append_of_piecesFrom (h : piecesFrom none bytes = .char c :: pieces) :
    ∃ rest, bytes = charBytes c ++ rest ∧ piecesFrom none rest = pieces := by
  obtain ⟨d, rest, rfl⟩ := exists_charBytes_append h
  rw [piecesFrom_charBytes_append, List.cons.injEq, Piece.char.injEq] at h
  obtain ⟨rfl, hrest⟩ := h
  exact ⟨rest, rfl, hrest⟩

theorem eq_encode_of_pieces (text : List Char) (h : piecesFrom none bytes = text.map .char) :
    bytes = encode text := by
  induction text generalizing bytes with
  | nil => exact eq_nil_of_piecesFrom h
  | cons c text ih =>
    obtain ⟨rest, rfl, hrest⟩ := exists_append_of_piecesFrom h
    rw [encode, List.flatMap_cons, ih hrest, encode]

theorem eq_map_char_of_join {offset : Nat} {text : List Char}
    (h : join offset pieces = .ok text) : pieces = text.map .char := by
  induction pieces generalizing offset text with
  | nil =>
    cases h
    rfl
  | cons piece pieces ih =>
    cases piece with
    | char c =>
      rw [join] at h
      split at h
      · next rest hrest =>
        cases h
        rw [ih hrest, List.map_cons]
      · cases h
    | malformed n => cases h
    | truncated n => cases h

/-- **UTF-8 is read as the text that it encodes**, and as no other. -/
theorem decode_eq_ok_iff {text : List Char} : decode bytes = .ok text ↔ bytes = encode text := by
  constructor
  · intro h
    exact eq_encode_of_pieces text (eq_map_char_of_join h)
  · rintro rfl
    exact decode_encode text

end Utf8

/-! ### Code units -/

theorem charUnits_of_unitChar? {u : CodeUnit} {c : Char} (h : unitChar? u = some c) :
    charUnits c = [u] := by
  have hu : u.toNat < 65536 := u.toNat_lt
  rw [unitChar?] at h
  split_ifs at h with hsurrogate
  cases h
  have hvalid : u.toNat.isValidChar := by
    simp only [isHighSurrogate, isLowSurrogate, Bool.or_eq_true, Bool.and_eq_true,
      decide_eq_true_eq, UInt16.le_iff_toNat_le, UInt16.reduceToNat] at hsurrogate
    unfold Nat.isValidChar
    omega
  rw [charUnits, toNat_ofNat_of_isValidChar hvalid, if_pos hu, Nat.toUInt16_eq,
    UInt16.ofNat_toNat]

theorem charUnits_pairChar {u v : CodeUnit} (h : isPair u v) :
    charUnits (pairChar u v) = [u, v] := by
  simp only [isPair, isHighSurrogate, isLowSurrogate, Bool.and_eq_true, decide_eq_true_eq,
    UInt16.le_iff_toNat_le, UInt16.reduceToNat] at h
  have hnumber : (pairChar u v).toNat =
      0x10000 + (u.toNat - 0xD800) * 0x400 + (v.toNat - 0xDC00) :=
    toNat_ofNat_of_isValidChar (by unfold Nat.isValidChar; omega)
  have hhigh : 0xD800 + ((pairChar u v).toNat - 0x10000) / 0x400 = u.toNat := by omega
  have hlow : 0xDC00 + ((pairChar u v).toNat - 0x10000) % 0x400 = v.toNat := by omega
  rw [charUnits, if_neg (by omega)]
  dsimp only
  rw [hhigh, hlow, Nat.toUInt16_eq, Nat.toUInt16_eq, UInt16.ofNat_toNat, UInt16.ofNat_toNat]

/-- **Code units are read as the text that they encode**, and as no other. -/
theorem ofUnits?_eq_some_iff {units : List CodeUnit} {text : List Char} :
    ofUnits? units = some text ↔ units = toUnits text := by
  constructor
  · intro h
    induction units using ofUnits?.induct generalizing text with
    | case1 =>
      cases h
      rfl
    | case2 u =>
      obtain ⟨c, hc, rfl⟩ := Option.map_eq_some_iff.1 h
      rw [toUnits_singleton, charUnits_of_unitChar? hc]
    | case3 u v rest hpair ih =>
      rw [ofUnits?, if_pos hpair] at h
      obtain ⟨text, htext, rfl⟩ := Option.map_eq_some_iff.1 h
      rw [toUnits_cons, charUnits_pairChar hpair, ← ih htext]
      rfl
    | case4 u v rest hpair c hc ih =>
      rw [ofUnits?, if_neg hpair, hc] at h
      obtain ⟨text, htext, rfl⟩ := Option.map_eq_some_iff.1 h
      rw [toUnits_cons, charUnits_of_unitChar? hc, ← ih htext]
      rfl
    | case5 u v rest hpair hnone =>
      rw [ofUnits?, if_neg hpair, hnone] at h
      cases h
  · rintro rfl
    exact ofUnits?_toUnits text

/-! ### UTF-16 bytes -/

theorem toNat_unitOfBytes (a b : UInt8) :
    (Charset.unitOfBytes a b).toNat = a.toNat * 0x100 + b.toNat := by
  have ha : a.toNat < 256 := a.toNat_lt
  have hb : b.toNat < 256 := b.toNat_lt
  have hshift : (UInt16.toNat 8) % 16 = 8 := rfl
  rw [Charset.unitOfBytes, UInt16.toNat_or, UInt16.toNat_shiftLeft, UInt8.toNat_toUInt16,
    UInt8.toNat_toUInt16, hshift, Nat.mod_eq_of_lt (by rw [Nat.shiftLeft_eq]; omega),
    ← Nat.shiftLeft_add_eq_or_of_lt (by omega), Nat.shiftLeft_eq]

/-- Two bytes come back from the code unit that they make. -/
theorem unitBytes_unitOfBytes (bigEndian : Bool) (a b : UInt8) :
    unitBytes bigEndian (if bigEndian then Charset.unitOfBytes a b else Charset.unitOfBytes b a) =
      [a, b] := by
  have hhigh (a b : UInt8) : (Charset.unitOfBytes a b >>> 8).toUInt8 = a := by
    have ha : a.toNat < 256 := a.toNat_lt
    have hb : b.toNat < 256 := b.toNat_lt
    have hshift : (UInt16.toNat 8) % 16 = 8 := rfl
    rw [← UInt8.toNat_inj, UInt16.toNat_toUInt8, UInt16.toNat_shiftRight, toNat_unitOfBytes,
      hshift, Nat.shiftRight_eq_div_pow]
    omega
  have hlow (a b : UInt8) : (Charset.unitOfBytes a b).toUInt8 = b := by
    have hb : b.toNat < 256 := b.toNat_lt
    rw [← UInt8.toNat_inj, UInt16.toNat_toUInt8, toNat_unitOfBytes]
    omega
  cases bigEndian with
  | true => simp [unitBytes, hhigh, hlow]
  | false => simp [unitBytes, hhigh, hlow]

/-- The bytes are those of the code units and at most one more. -/
theorem exists_stray_of_unitsOfBytes (bigEndian : Bool) : (bytes : List UInt8) →
    ∃ stray : Option UInt8, bytes =
      (Charset.unitsOfBytes bigEndian bytes).1.flatMap (unitBytes bigEndian) ++ stray.toList
  | [] => ⟨none, rfl⟩
  | [b] => ⟨some b, rfl⟩
  | a :: b :: rest => by
      obtain ⟨stray, hrest⟩ := exists_stray_of_unitsOfBytes bigEndian rest
      refine ⟨stray, ?_⟩
      rw [Charset.unitsOfBytes, List.flatMap_cons, unitBytes_unitOfBytes, List.append_assoc,
        ← hrest]
      rfl

/-- A byte behind the last code unit is not looked at. -/
theorem unitsOfBytes_append_stray (bigEndian : Bool) (stray : Option UInt8) :
    (units : List CodeUnit) →
    (Charset.unitsOfBytes bigEndian
      (units.flatMap (unitBytes bigEndian) ++ stray.toList)).1 = units
  | [] => by cases stray <;> rfl
  | u :: units => by
      have hunits := unitsOfBytes_append_stray bigEndian stray units
      rw [List.flatMap_cons]
      cases bigEndian with
      | true => simp [unitBytes, Charset.unitsOfBytes, hunits, unitOfBytes_shiftRight]
      | false => simp [unitBytes, Charset.unitsOfBytes, hunits, unitOfBytes_shiftRight]

theorem length_encodeUtf16 (bigEndian : Bool) (text : List Char) :
    (encodeUtf16 bigEndian text).length = 2 * (toUnits text).length := by
  have htwo (u : CodeUnit) : (unitBytes bigEndian u).length = 2 := by
    cases bigEndian <;> rfl
  rw [encodeUtf16, List.length_flatMap]
  simp only [htwo, List.map_const', List.sum_replicate_nat, Nat.mul_comm]

namespace TextEncoding

/-- **UTF-16 bytes are read as the text that they encode**, up to a byte left over. -/
theorem decodeUtf16?_eq_some_iff {bigEndian : Bool} {bytes : List UInt8} {text : List Char} :
    decodeUtf16? bigEndian bytes = some text ↔
      ∃ stray : Option UInt8, bytes = encodeUtf16 bigEndian text ++ stray.toList := by
  rw [decodeUtf16?, ofUnits?_eq_some_iff]
  constructor
  · intro h
    obtain ⟨stray, hbytes⟩ := exists_stray_of_unitsOfBytes bigEndian bytes
    rw [h] at hbytes
    exact ⟨stray, hbytes⟩
  · rintro ⟨stray, rfl⟩
    exact unitsOfBytes_append_stray bigEndian stray (toUnits text)

/-- An even number of UTF-16 bytes leaves none over. -/
theorem decodeUtf16?_of_even {bigEndian : Bool} {bytes : List UInt8} {text : List Char}
    (h : bytes.length % 2 = 0) :
    decodeUtf16? bigEndian bytes = some text ↔ bytes = encodeUtf16 bigEndian text := by
  rw [decodeUtf16?_eq_some_iff]
  constructor
  · rintro ⟨_ | stray, rfl⟩
    · exact List.append_nil _
    · rw [List.length_append, length_encodeUtf16, Option.toList_some, List.length_singleton] at h
      omega
  · rintro rfl
    exact ⟨none, (List.append_nil _).symm⟩

/-! ### Encodings -/

theorem length_dropMark_mod_two {mark bytes : List UInt8} (hmark : mark.length = 2)
    (h : bytes.length % 2 = 0) : (dropMark mark bytes).length % 2 = 0 := by
  rw [dropMark]
  split_ifs
  · rw [List.length_drop, hmark]
    omega
  · exact h

theorem mapError_eq_ok_iff {ε ε' β : Type} {f : ε → ε'} {x : Except ε β} {b : β} :
    x.mapError f = .ok b ↔ x = .ok b := by
  cases x <;> simp [Except.mapError]

theorem decode_utf16le_eq_ok_iff {bytes : List UInt8} {text : List Char} :
    decode .utf16le bytes = .ok text ↔
      decodeUtf16? false (dropMark [0xFF, 0xFE] bytes) = some text := by
  rw [decode]
  cases decodeUtf16? false (dropMark [0xFF, 0xFE] bytes) <;> simp

theorem decode_utf16be_eq_ok_iff {bytes : List UInt8} {text : List Char} :
    decode .utf16be bytes = .ok text ↔
      decodeUtf16? true (dropMark [0xFE, 0xFF] bytes) = some text := by
  rw [decode]
  cases decodeUtf16? true (dropMark [0xFE, 0xFF] bytes) <;> simp

/-- **Only what was encoded is decoded.** Bytes are read as a text in UTF-8 if and only if they are
its UTF-8 bytes, behind one mark or none if a mark is looked for. They are read as a text in UTF-16
if and only if they are its UTF-16 bytes in that order, behind one mark or none, with at most one
byte after them; where the number of bytes is even, there is none. All other bytes are refused. -/
theorem decode_accepts_encoded (bytes : List UInt8) (text : List Char) :
    (decode .utf8 bytes = .ok text ↔ bytes = Utf8.encode text) ∧
    (decode .ascii bytes = .ok text ↔ bytes = Utf8.encode text) ∧
    (decode .utf8Bom bytes = .ok text ↔
      dropMark [0xEF, 0xBB, 0xBF] bytes = Utf8.encode text) ∧
    (decode .utf16le bytes = .ok text ↔ ∃ stray : Option UInt8,
      dropMark [0xFF, 0xFE] bytes = encodeUtf16 false text ++ stray.toList) ∧
    (decode .utf16be bytes = .ok text ↔ ∃ stray : Option UInt8,
      dropMark [0xFE, 0xFF] bytes = encodeUtf16 true text ++ stray.toList) ∧
    (bytes.length % 2 = 0 →
      (decode .utf16le bytes = .ok text ↔
        dropMark [0xFF, 0xFE] bytes = encodeUtf16 false text) ∧
      (decode .utf16be bytes = .ok text ↔
        dropMark [0xFE, 0xFF] bytes = encodeUtf16 true text)) := by
  refine ⟨?_, ?_, ?_, ?_, ?_, fun heven => ⟨?_, ?_⟩⟩
  · rw [decode, mapError_eq_ok_iff, Utf8.decode_eq_ok_iff]
  · rw [decode, mapError_eq_ok_iff, Utf8.decode_eq_ok_iff]
  · rw [decode, mapError_eq_ok_iff, Utf8.decode_eq_ok_iff]
  · rw [decode_utf16le_eq_ok_iff, decodeUtf16?_eq_some_iff]
  · rw [decode_utf16be_eq_ok_iff, decodeUtf16?_eq_some_iff]
  · rw [decode_utf16le_eq_ok_iff, decodeUtf16?_of_even (length_dropMark_mod_two rfl heven)]
  · rw [decode_utf16be_eq_ok_iff, decodeUtf16?_of_even (length_dropMark_mod_two rfl heven)]

/-- Of two marks only the first is dropped, and a surrogate pair behind them is read. -/
theorem decode_accepts_encoded_two_marks :
    let bytes : List UInt8 := [0xFF, 0xFE, 0xFF, 0xFE, 0x3D, 0xD8, 0x00, 0xDE]
    bytes.length % 2 = 0 ∧ decode .utf16le bytes = .ok ['\uFEFF', '😀'] := by
  intro bytes
  have heven : bytes.length % 2 = 0 := by decide
  obtain ⟨-, -, -, -, -, hexact⟩ := decode_accepts_encoded bytes ['\uFEFF', '😀']
  exact ⟨heven, (hexact heven).1.2 (by decide)⟩

/-- A byte that is left over is not refused: three bytes are read as the one character that the
first two encode. -/
theorem not_forall_decode_utf16le_iff : ¬ ∀ (bytes : List UInt8) (text : List Char),
    decode .utf16le bytes = .ok text ↔
      dropMark [0xFF, 0xFE] bytes = encodeUtf16 false text := by
  intro h
  have hread : decode .utf16le [0x61, 0x00, 0x62] = .ok ['a'] := by decide
  exact absurd ((h [0x61, 0x00, 0x62] ['a']).1 hread) (by decide)

end TextEncoding

end CodeBrowser
