import CodeBrowser.Index.Json
import CodeBrowser.Proofs.Json.Reading
import CodeBrowser.Theme.Json
import Mathlib.Data.List.Forall2

/-!
# Themes and indexes read back

What is written of a theme or of an index is read as that theme or that index again, in whatever
layout it is written. A colour keeps its alpha, which is written only where it is not 255; a
category without a colour is written as `null` and does not turn into the colour of the light theme;
numbers are read back if they fit 64 bits.

## Main definitions

* `SymbolLocation.FitsWords`, `RefRecord.FitsWords`, `IndexData.FitsWords`: lines and columns fit
  64 bits.

## Main results

* `Color.parse?_hex`: the text of a colour is read as that colour.
* `understands_theme`, `understands_indexData`: every layout is read back.
* `read_pretty_themes`: so is the text of themes over several lines.
* `read_compact_theme_and_indexData`: so is the text without blanks.
-/

namespace CodeBrowser

open Json (Understands Denotes Fills Reader RecordShape Value understands_field)

/-! ### Colours -/

namespace Color

theorem digit?_hexDigit : ∀ n < 16, digit? (hexDigit n) = some n := by decide

theorem hexDigit_ne_plus : ∀ n < 16, hexDigit n ≠ '+' := by decide

/-- The two digits of a channel are read as that channel. -/
theorem pair?_hexPair (v : UInt8) :
    pair? (hexDigit (v.toNat / 16)) (hexDigit (v.toNat % 16)) = some v := by
  have hhigh : v.toNat / 16 < 16 := Nat.div_lt_of_lt_mul v.toNat_lt
  have hlow : v.toNat % 16 < 16 := Nat.mod_lt _ (by decide)
  rw [pair?, if_neg (hexDigit_ne_plus _ hhigh), digit?_hexDigit _ hhigh, digit?_hexDigit _ hlow]
  simp only [Nat.div_add_mod, Nat.toUInt8_eq, UInt8.ofNat_toNat]

/-- The text of a colour is read as that colour. -/
theorem parse?_hex (c : Color) : parse? c.hex = some c := by
  unfold hex
  split_ifs with ha
  · simp only [parse?, String.toList_ofList, hexPair, List.cons_append, List.nil_append,
      parseDigits?, pair?_hexPair, rgb, ← ha]
  · simp only [parse?, hex8, String.toList_ofList, hexPair, List.cons_append, List.nil_append,
      parseDigits?, pair?_hexPair]

end Color

theorem understands_color (c : Color) : Understands Color.readJson c.toJson c :=
  Json.understands_text c.parse?_hex

/-- A missing colour stays missing. -/
theorem understands_optionColor (c : Option Color) :
    Understands SymbolColors.readColor (Color.optionToJson c) c := by
  cases c with
  | none => exact Json.understands_none _
  | some c => exact Json.understands_some (understands_color c) Json.head_ne_null_of_str

/-! ### Themes -/

theorem understands_viewColors (t : ViewColors) :
    Understands (Json.readRecord ViewColors.jsonShape) t.toJson t :=
  Json.understands_record ⟨by decide, by decide⟩ <|
    .cons (understands_field (understands_color t.background) _) <|
    .cons (understands_field (understands_color t.text) _) <|
    .cons (understands_field (understands_color t.selectionBackground) _) <|
    .cons (understands_field (understands_color t.selectionText) _) <|
    .cons (understands_field (understands_color t.lineNumber) _) <|
    .cons (understands_field (understands_color t.gutterBackground) _) <|
    .cons (understands_field (understands_color t.gutterSeparator) _) <|
    .nil _

theorem understands_lexicalColors (t : LexicalColors) :
    Understands (Json.readRecord LexicalColors.jsonShape) t.toJson t :=
  Json.understands_record ⟨by decide, by decide⟩ <|
    .cons (understands_field (understands_color t.plain) _) <|
    .cons (understands_field (understands_color t.comment) _) <|
    .cons (understands_field (understands_color t.quoted) _) <|
    .cons (understands_field (understands_color t.number) _) <|
    .cons (understands_field (understands_color t.directive) _) <|
    .cons (understands_field (understands_color t.keyword) _) <|
    .nil _

theorem understands_symbolColors (t : SymbolColors) :
    Understands (Json.readRecord SymbolColors.jsonShape) t.toJson t :=
  Json.understands_record ⟨by decide, by decide⟩ <|
    .cons (understands_field (understands_optionColor t.globalVariable) _) <|
    .cons (understands_field (understands_optionColor t.field) _) <|
    .cons (understands_field (understands_optionColor t.nameSpace) _) <|
    .cons (understands_field (understands_optionColor t.structType) _) <|
    .cons (understands_field (understands_optionColor t.classType) _) <|
    .cons (understands_field (understands_optionColor t.unionType) _) <|
    .cons (understands_field (understands_optionColor t.enumType) _) <|
    .cons (understands_field (understands_optionColor t.typedef) _) <|
    .nil _

/-- Every layout of a theme is read as that theme. -/
theorem understands_theme (t : Theme) : Understands Theme.readJson t.toJson t :=
  Json.understands_record ⟨by decide, by decide⟩ <|
    .cons (understands_field (Json.understands_string t.name) _) <|
    .cons (understands_field (Json.understands_bool t.isDark) _) <|
    .cons (understands_field (understands_viewColors t.view) _) <|
    .cons (understands_field (understands_lexicalColors t.lexical) _) <|
    .cons (understands_field (understands_symbolColors t.symbols) _) <|
    .nil _

/-! ### Indexes -/

/-- The line and the column fit 64 bits. -/
def SymbolLocation.FitsWords (t : SymbolLocation) : Prop := t.line < 2 ^ 64 ∧ t.column < 2 ^ 64

/-- The line and the columns fit 64 bits. -/
def RefRecord.FitsWords (t : RefRecord) : Prop :=
  t.line < 2 ^ 64 ∧ t.column < 2 ^ 64 ∧ t.endColumn < 2 ^ 64

/-- All lines and columns fit 64 bits. -/
structure IndexData.FitsWords (t : IndexData) : Prop where
  symbols : ∀ record ∈ t.symbols, ∀ place ∈ record.definition, place.FitsWords
  refs : ∀ record ∈ t.refs, record.FitsWords

theorem understands_word {n : Nat} (hn : n < 2 ^ 64) : Understands Json.readNat (.nat n) n :=
  Json.understands_nat (Nat.le_of_lt_succ hn)

theorem understands_symbolLocation {t : SymbolLocation} (h : t.FitsWords) :
    Understands (Json.readRecord SymbolLocation.jsonShape) t.toJson t :=
  Json.understands_record ⟨by decide, by decide⟩ <|
    .cons (understands_field (Json.understands_string t.path.text) _) <|
    .cons (understands_field (understands_word h.1) _) <|
    .cons (understands_field (understands_word h.2) _) <|
    .nil _

theorem SymbolCategory.ofName?_name (c : SymbolCategory) : ofName? c.name = some c := by
  cases c <;> decide

theorem understands_category (c : Option SymbolCategory) :
    Understands (Json.readOption (Json.readName SymbolCategory.ofName?))
      (SymbolRecord.categoryToJson c) c := by
  cases c with
  | none => exact Json.understands_none _
  | some c =>
    exact Json.understands_some (Json.understands_name c.ofName?_name) Json.head_ne_null_of_str

theorem understands_definition {d : Option SymbolLocation} (h : ∀ place ∈ d, place.FitsWords) :
    Understands (Json.readOption (Json.readRecord SymbolLocation.jsonShape))
      (SymbolRecord.definitionToJson d) d := by
  cases d with
  | none => exact Json.understands_none _
  | some place =>
    exact Json.understands_some (understands_symbolLocation (h place rfl)) Json.head_ne_null_of_obj

theorem understands_symbolRecord {t : SymbolRecord} (h : ∀ place ∈ t.definition, place.FitsWords) :
    Understands (Json.readRecord SymbolRecord.jsonShape) t.toJson t :=
  Json.understands_record ⟨by decide, by decide⟩ <|
    .cons (understands_field (Json.understands_string t.name) _) <|
    .cons (understands_field (understands_category t.category) _) <|
    .cons (understands_field (understands_definition h) _) <|
    .nil _

theorem understands_refRecord {t : RefRecord} (h : t.FitsWords) :
    Understands (Json.readRecord RefRecord.jsonShape) t.toJson t :=
  Json.understands_record ⟨by decide, by decide⟩ <|
    .cons (understands_field (Json.understands_string t.path.text) _) <|
    .cons (understands_field (understands_word h.1) _) <|
    .cons (understands_field (understands_word h.2.1) _) <|
    .cons (understands_field (understands_word h.2.2) _) <|
    .cons (understands_field (Json.understands_string t.symbol) _) <|
    .nil _

/-- Items that are understood one by one are understood as an array. -/
theorem understands_map {β : Type} {item : Reader β} {toJson : β → Value} {bs : List β}
    (h : ∀ b ∈ bs, Understands item (toJson b) b) :
    Understands (Json.readList item) (.arr (bs.map toJson)) bs :=
  Json.understands_list <| List.forall₂_map_left_iff.2 <|
    List.forall₂_same.2 h

/-- Every layout of an index is read as that index, if its numbers fit 64 bits. -/
theorem understands_indexData {t : IndexData} (h : t.FitsWords) :
    Understands IndexData.readJson t.toJson t :=
  Json.understands_record ⟨by decide, by decide⟩ <|
    .cons (understands_field
      (understands_map fun record hr => understands_symbolRecord (h.symbols record hr)) _) <|
    .cons (understands_field
      (understands_map fun record hr => understands_refRecord (h.refs record hr)) _) <|
    .nil _

/-! ### Texts -/

/-- The themes that preferences are stored with are written over several lines. They are read
back. -/
theorem read_pretty_themes (themes : List Theme) :
    Json.read (Json.readList Theme.readJson) (Value.arr (themes.map Theme.toJson)).pretty =
      .ok themes :=
  Json.read_pretty (understands_map fun theme _ => understands_theme theme)

/-- **Themes and indexes are read back.** The text without blanks that is written of a theme is read
as that theme, and the one that is written of an index as that index, if its lines and columns fit
64 bits. -/
theorem read_compact_theme_and_indexData (theme : Theme) (data : IndexData) (h : data.FitsWords) :
    Json.read Theme.readJson theme.toJson.compact = .ok theme ∧
      Json.read IndexData.readJson data.toJson.compact = .ok data :=
  ⟨Json.read_compact (understands_theme theme), Json.read_compact (understands_indexData h)⟩

/-- A theme with a translucent colour and a missing one, whose name needs escapes, and an index with
the greatest numbers there are. -/
theorem read_compact_of_dim_theme :
    let theme : Theme :=
      { Theme.dark with
        name := "dim \"\n\u0001\\"
        view := { Theme.dark.view with background := ⟨1, 2, 3, 4⟩ }
        symbols := { Theme.dark.symbols with field := none } }
    let data : IndexData :=
      ⟨[⟨"f", some .function, some ⟨⟨"/é.c"⟩, 2 ^ 64 - 1, 0⟩⟩, ⟨"g", none, none⟩],
        [⟨⟨"/é.c"⟩, 1, 1, 2 ^ 64 - 1, "f"⟩]⟩
    data.FitsWords ∧ Json.read Theme.readJson theme.toJson.compact = .ok theme ∧
      Json.read IndexData.readJson data.toJson.compact = .ok data := by
  intro theme data
  have hfits : data.FitsWords := by
    refine ⟨?_, ?_⟩
    · simp [data, SymbolLocation.FitsWords]
    · simp [data, RefRecord.FitsWords]
  exact ⟨hfits, read_compact_theme_and_indexData theme data hfits⟩

end CodeBrowser
