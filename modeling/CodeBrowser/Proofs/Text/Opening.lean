import CodeBrowser.Proofs.Text.Utf16
import CodeBrowser.Proofs.Text.Utf8
import CodeBrowser.SourceFile.Store

/-!
# Opening undoes encoding

A text can be written as UTF-8, with or without a byte-order mark, or as UTF-16 behind a mark in
either byte order. Which of these it was is read off the bytes again: a mark says so, and UTF-8
without a mark starts like one only if the text itself starts with U+FEFF. So a file opens as the
text that was written.

## Main definitions

* `encodeUtf16`: the UTF-16 bytes of a text in a byte order.
* `TextEncoding.Reads`: bytes are found to be a text in an encoding.

## Main results

* `decodeUtf16?_encodeUtf16`: reading UTF-16 bytes undoes writing them.
* `TextEncoding.detect_encode`: UTF-8 without a mark is detected as such.
* `TextEncoding.reads_encoded`: opening undoes encoding.
-/

namespace CodeBrowser

/-! ### UTF-16 bytes -/

/-- The two bytes of a code unit, the more significant one first or last. -/
def unitBytes (bigEndian : Bool) (u : CodeUnit) : List UInt8 :=
  if bigEndian then [(u >>> 8).toUInt8, u.toUInt8] else [u.toUInt8, (u >>> 8).toUInt8]

/-- The UTF-16 bytes of a text. -/
def encodeUtf16 (bigEndian : Bool) (text : List Char) : List UInt8 :=
  (toUnits text).flatMap (unitBytes bigEndian)

/-- A code unit is put together again from its bytes. -/
theorem unitOfBytes_shiftRight (u : CodeUnit) :
    Charset.unitOfBytes (u >>> 8).toUInt8 u.toUInt8 = u := by
  have hu : u.toNat < 65536 := u.toNat_lt
  have hhigh : (u >>> 8).toUInt8.toNat = u.toNat / 256 := by
    simp [Nat.shiftRight_eq_div_pow]
    omega
  have hlow : u.toUInt8.toNat = u.toNat % 256 := by simp
  have hshift : (UInt16.toNat 8) % 16 = 8 := rfl
  rw [← UInt16.toNat_inj, Charset.unitOfBytes, UInt16.toNat_or, UInt16.toNat_shiftLeft,
    UInt8.toNat_toUInt16, UInt8.toNat_toUInt16, hhigh, hlow, hshift,
    Nat.mod_eq_of_lt (by rw [Nat.shiftLeft_eq]; omega),
    ← Nat.shiftLeft_add_eq_or_of_lt (by omega), Nat.shiftLeft_eq]
  omega

theorem unitsOfBytes_flatMap_unitBytes (bigEndian : Bool) : (units : List CodeUnit) →
    Charset.unitsOfBytes bigEndian (units.flatMap (unitBytes bigEndian)) = (units, false)
  | [] => rfl
  | u :: units => by
      have hunits := unitsOfBytes_flatMap_unitBytes bigEndian units
      rw [List.flatMap_cons]
      cases bigEndian with
      | true => simp [unitBytes, Charset.unitsOfBytes, hunits, unitOfBytes_shiftRight]
      | false => simp [unitBytes, Charset.unitsOfBytes, hunits, unitOfBytes_shiftRight]

namespace TextEncoding

/-- **Reading UTF-16 bytes undoes writing them.** -/
theorem decodeUtf16?_encodeUtf16 (bigEndian : Bool) (text : List Char) :
    decodeUtf16? bigEndian (encodeUtf16 bigEndian text) = some text := by
  rw [decodeUtf16?, encodeUtf16, unitsOfBytes_flatMap_unitBytes, ofUnits?_toUnits]

/-- The bytes are found to be the text in the encoding, and a file of these bytes opens as the
text. -/
structure Reads (bytes : List UInt8) (encoding : TextEncoding) (text : List Char) : Prop where
  detect_eq : detect bytes = encoding
  decode_eq : (detect bytes).decode bytes = .ok text
  load_eq : ∀ (disk : Disk) (path : Path) (serial : Nat), disk.read path = .ok bytes →
    SourceFile.load disk path serial = .ok (.ofText (some path) text encoding serial)

/-- What opens a file is the decoder of the encoding that is detected. -/
theorem reads_of_detect {bytes : List UInt8} {encoding : TextEncoding} {text : List Char}
    (hdetect : detect bytes = encoding) (hdecode : encoding.decode bytes = .ok text) :
    Reads bytes encoding text := by
  refine ⟨hdetect, hdetect.symm ▸ hdecode, fun disk path serial hread => ?_⟩
  unfold SourceFile.load
  rw [hread]
  dsimp only
  rw [hdetect, hdecode]

/-! ### Detection -/

theorem dropMark_append (mark bytes : List UInt8) : dropMark mark (mark ++ bytes) = bytes := by
  rw [dropMark, if_pos (List.isPrefixOf_iff_prefix.2 (List.prefix_append mark bytes)),
    List.drop_left]

/-- No text begins with a byte that begins no character. -/
theorem encode_ne_cons_of_malformed {b : UInt8} {rest : List UInt8} {text : List Char}
    (h : Utf8.begin b = (some (.malformed 1), none)) : Utf8.encode text ≠ b :: rest := by
  intro heq
  have hpieces := Utf8.pieces_encode text
  rw [heq, Utf8.pieces, Utf8.piecesFrom, h] at hpieces
  cases text with
  | nil => exact List.cons_ne_nil _ _ hpieces
  | cons c text => exact absurd (List.cons.inj hpieces).1 (by simp)

/-- Only a text that starts with U+FEFF has bytes that start with the mark of UTF-8. -/
theorem head?_eq_of_encode_eq {rest : List UInt8} {text : List Char}
    (h : Utf8.encode text = 0xEF :: 0xBB :: 0xBF :: rest) : text.head? = some '\uFEFF' := by
  have hmark : Utf8.charBytes '\uFEFF' = [0xEF, 0xBB, 0xBF] := by decide
  have hpieces := Utf8.pieces_encode text
  rw [h, Utf8.pieces, show 0xEF :: 0xBB :: 0xBF :: rest = Utf8.charBytes '\uFEFF' ++ rest by
    rw [hmark]; rfl, Utf8.piecesFrom_charBytes_append] at hpieces
  cases text with
  | nil => exact absurd hpieces (List.cons_ne_nil _ _)
  | cons c text => simpa using (List.cons.inj hpieces).1.symm

/-- The bytes of a character are below 128 iff the character is. -/
theorem all_charBytes (c : Char) : (Utf8.charBytes c).all (· < 0x80) = decide (c.toNat < 0x80) := by
  have hvalid : c.toNat < 0xD800 ∨ 0xDFFF < c.toNat ∧ c.toNat < 0x110000 := c.valid
  have hlt {n : Nat} (hn : n < 256) : decide (n.toUInt8 < 0x80) = decide (n < 0x80) := by
    rw [decide_eq_decide, UInt8.lt_iff_toNat_lt, Utf8.toNat_toUInt8 hn]
    rfl
  unfold Utf8.charBytes
  dsimp only
  split_ifs with h1 h2 h3
  · rw [List.all_cons, List.all_nil, Bool.and_true, hlt (by omega)]
  all_goals
    rw [List.all_cons, hlt (by omega), decide_eq_false (by omega), Bool.false_and,
      decide_eq_false h1]

/-- The bytes of a text are below 128 iff its characters are. -/
theorem all_encode (text : List Char) :
    (Utf8.encode text).all (· < 0x80) = text.all (·.toNat < 0x80) := by
  rw [Utf8.encode, List.all_flatMap]
  simp only [all_charBytes]

/-- **UTF-8 without a mark is detected as such**, or as ASCII. -/
theorem detect_encode {text : List Char} (h : text.head? ≠ some '\uFEFF') :
    detect (Utf8.encode text) = if text.all (·.toNat < 0x80) then .ascii else .utf8 := by
  unfold detect
  split
  · next heq => exact absurd (head?_eq_of_encode_eq heq) h
  · next heq => exact absurd heq (encode_ne_cons_of_malformed (by decide))
  · next heq => exact absurd heq (encode_ne_cons_of_malformed (by decide))
  · rw [Utf8.isValid, Utf8.decode_encode, all_encode]
    rfl

/-- **Opening undoes encoding.** A text comes back from its UTF-8 bytes, unless it starts with
U+FEFF, and from each of its encodings behind a byte-order mark, whatever it starts with. The
encoding that is found is the one that was used, or ASCII for a text of such characters only. -/
theorem reads_encoded (text : List Char) :
    Utf8.encode text = text.utf8Encode.data.toList ∧
      (text.head? ≠ some '\uFEFF' → Reads (Utf8.encode text)
        (if text.all (·.toNat < 0x80) then .ascii else .utf8) text) ∧
      Reads ([0xEF, 0xBB, 0xBF] ++ Utf8.encode text) .utf8Bom text ∧
      Reads ([0xFF, 0xFE] ++ encodeUtf16 false text) .utf16le text ∧
      Reads ([0xFE, 0xFF] ++ encodeUtf16 true text) .utf16be text := by
  have hutf8 : Utf8.decode (Utf8.encode text) = .ok text := Utf8.decode_encode text
  refine ⟨Utf8.encode_eq_utf8Encode text, fun hhead => reads_of_detect (detect_encode hhead) ?_,
    reads_of_detect rfl ?_, reads_of_detect rfl ?_, reads_of_detect rfl ?_⟩
  · split_ifs
    · rw [decode, hutf8]
      rfl
    · rw [decode, hutf8]
      rfl
  · rw [decode, dropMark_append, hutf8]
    rfl
  · rw [decode, dropMark_append, decodeUtf16?_encodeUtf16]
  · rw [decode, dropMark_append, decodeUtf16?_encodeUtf16]

/-- A file of U+FFFE and a surrogate pair opens as such. Its UTF-8 bytes start as a mark does, and
its UTF-16 bytes in one order start with the mark of the other. -/
theorem reads_encoded_like_mark :
    let text : List Char := ['\uFFFE', '😀']
    let disk : Disk := Disk.empty.put ["a.c"] (.file (Utf8.encode text))
    text.head? ≠ some '\uFEFF' ∧ disk.read ⟨"/a.c"⟩ = .ok (Utf8.encode text) ∧
      encodeUtf16 false text = [0xFE, 0xFF, 0x3D, 0xD8, 0x00, 0xDE] ∧
      SourceFile.load disk ⟨"/a.c"⟩ 0 = .ok (.ofText (some ⟨"/a.c"⟩) text .utf8 0) ∧
      decode .utf16le (0xFF :: 0xFE :: encodeUtf16 false text) = .ok text := by
  intro text disk
  have hhead : text.head? ≠ some '\uFEFF' := by decide
  have hread : disk.read ⟨"/a.c"⟩ = .ok (Utf8.encode text) := by decide +kernel
  obtain ⟨-, hutf8, -, hutf16, -⟩ := reads_encoded text
  exact ⟨hhead, hread, by decide, (hutf8 hhead).load_eq disk ⟨"/a.c"⟩ 0 hread, hutf16.decode_eq⟩

end TextEncoding

end CodeBrowser
