import CodeBrowser.Index.Json
import CodeBrowser.Proofs.Index.Table
import CodeBrowser.Proofs.Paint.Compositing

/-!
# Colours and clicks

Two paths lead from a unit of a file to the references of an index that cover it. The colours of a
file follow the spans of the references, in which a 0 counts as 1; a click asks for the names at a
line and column and compares the numbers as they are recorded. Both find the same references, except
on the first line, where only the colours follow a reference recorded on line 0.

## Main definitions

* `SymbolIndex.nameColor?`: the colour of the symbol with a name.
* `SymbolIndex.NamesColor`: a name at a line and column has a colour.
* `SymbolIndex.AgreesAt`: colours and clicks agree at a location.

## Main results

* `SymbolIndex.span_covers_iff`: the two ways to look at a reference.
* `SymbolIndex.WellFormed.mem_overrides_iff`: which names the colours of a unit stand for.
* `SymbolIndex.agreesAt_iff`: where exactly colours and clicks agree.
-/

namespace CodeBrowser

namespace SymbolIndex

/-- The colour that a theme gives to the category of the symbol with the name. -/
def nameColor? (index : SymbolIndex) (theme : Theme) (name : String) : Option Color :=
  ((index.symbols.find? (·.name == name)).bind (·.category)).bind theme.categoryColor

/-- One of the names at a line and column, counted from 1, has the colour. -/
def NamesColor (index : SymbolIndex) (theme : Theme) (file : SourceFile) (line column : Nat)
    (color : Color) : Prop :=
  ∃ name ∈ index.symbolsAt file line column, index.nameColor? theme name = some color

/-- A reference colours the unit at the location iff one of the names that a click there finds has a
colour, and what the unit is coloured with is the colour of one of these names. -/
structure AgreesAt (index : SymbolIndex) (theme : Theme) (file : SourceFile) (lexer : Lexer)
    (loc : Location) : Prop where
  overridden_iff : index.source.overrides theme file loc ≠ [] ↔
    ∃ color, index.NamesColor theme file (loc.line + 1) (loc.column + 1) color
  color_of_overridden : index.source.overrides theme file loc ≠ [] →
    ∃ color, index.NamesColor theme file (loc.line + 1) (loc.column + 1) color ∧
      (ColorBuffer.build file lexer index.source theme).colorAt? (file.offsetOf loc) = some color

variable {index : SymbolIndex} {theme : Theme} {file : SourceFile} {loc : Location} {color : Color}
  {ref : Ref}

/-! ### One reference -/

/-- A span covers a location iff the reference covers it as it is recorded, or is recorded on line 0
and the location is on the first line. Columns need no such exception: a first column of 0 covers
what a first column of 1 covers. -/
theorem span_covers_iff : ref.span.Covers loc ↔
    covers (loc.line + 1) (loc.column + 1) ref = true ∨
      (loc.line = 0 ∧ covers 0 (loc.column + 1) ref = true) := by
  simp only [RefSpan.Covers, Ref.span, covers, Bool.and_eq_true, beq_iff_eq, decide_eq_true_eq]
  omega

/-- The category of a symbol is one that the index lists. -/
theorem WellFormed.hasCategory_of_category (h : index.WellFormed) {id : SymbolId}
    {category : SymbolCategory} (hcategory : index.source.category id = some category) :
    index.source.hasCategory category = true := by
  obtain ⟨entry, hentry, hsome⟩ := Option.bind_eq_some_iff.1 hcategory
  exact List.contains_iff_mem.2 (h.category_mem entry (List.mem_of_getElem? hentry) category hsome)

/-- No symbol loses the colour of its category because the index does not list the category. -/
theorem WellFormed.colorOf?_eq (h : index.WellFormed) (theme : Theme) (id : SymbolId) :
    index.source.colorOf? theme id = (index.source.category id).bind theme.categoryColor := by
  unfold SymbolSource.colorOf?
  cases hcategory : index.source.category id with
  | none => rfl
  | some category => rw [Option.filter_some, if_pos (h.hasCategory_of_category hcategory)]

/-- The symbol of a reference has the colour of its name. -/
theorem WellFormed.colorOf?_source (h : index.WellFormed) {id : SymbolId} {entry : SymbolEntry}
    (hentry : index.symbol? id = some entry) :
    index.source.colorOf? theme id = index.nameColor? theme entry.name := by
  have hcategory : index.source.category id = entry.category := by
    simp only [source, hentry, Option.bind_some]
  rw [h.colorOf?_eq, hcategory, nameColor?, h.find?_name (List.mem_of_getElem? hentry),
    Option.bind_some]

theorem override?_eq_some_iff : index.source.override? theme loc ref = some color ↔
    ref.span.Covers loc ∧ index.source.colorOf? theme ref.symbol = some color := by
  simp [SymbolSource.override?]

/-- The colours of the names at a line and column are those of the references recorded there. -/
theorem WellFormed.namesColor_iff (h : index.WellFormed) {line column : Nat} :
    index.NamesColor theme file line column color ↔ ∃ ref ∈ index.refsFor file,
      covers line column ref = true ∧ index.source.colorOf? theme ref.symbol = some color := by
  constructor
  · rintro ⟨name, hname, hcolor⟩
    obtain ⟨ref, href, hcovers, entry, hentry, rfl⟩ := mem_symbolsAt.1 hname
    exact ⟨ref, href, hcovers, (h.colorOf?_source hentry).trans hcolor⟩
  · rintro ⟨ref, href, hcovers, hcolor⟩
    obtain ⟨entry, hentry⟩ := h.exists_symbol?_eq href
    exact ⟨entry.name, mem_symbolsAt.2 ⟨ref, href, hcovers, entry, hentry, rfl⟩,
      (h.colorOf?_source hentry).symm.trans hcolor⟩

/-! ### All references -/

/-- **What the colours of a unit stand for.** They are the colours of the names at its line and
column and, on the first line, of those on line 0. -/
theorem WellFormed.mem_overrides_iff (h : index.WellFormed) :
    color ∈ index.source.overrides theme file loc ↔
      index.NamesColor theme file (loc.line + 1) (loc.column + 1) color ∨
        (loc.line = 0 ∧ index.NamesColor theme file 0 (loc.column + 1) color) := by
  rw [SymbolSource.overrides, List.mem_filterMap, h.namesColor_iff, h.namesColor_iff]
  constructor
  · rintro ⟨ref, href, hoverride⟩
    obtain ⟨hspan, hcolor⟩ := override?_eq_some_iff.1 hoverride
    rcases span_covers_iff.1 hspan with hcovers | ⟨hline, hcovers⟩
    · exact Or.inl ⟨ref, href, hcovers, hcolor⟩
    · exact Or.inr ⟨hline, ref, href, hcovers, hcolor⟩
  · rintro (⟨ref, href, hcovers, hcolor⟩ | ⟨hline, ref, href, hcovers, hcolor⟩)
    · exact ⟨ref, href, override?_eq_some_iff.2 ⟨span_covers_iff.2 (Or.inl hcovers), hcolor⟩⟩
    · exact ⟨ref, href,
        override?_eq_some_iff.2 ⟨span_covers_iff.2 (Or.inr ⟨hline, hcovers⟩), hcolor⟩⟩

/-- Among references in order, the last one that says something is on no earlier line than the
others that do. -/
theorem exists_of_getLast?_filterMap {β : Type} {f : Ref → Option β} {b : β} {refs : List Ref}
    (hsorted : refs.Pairwise fun a b => startsBefore a b)
    (h : (refs.filterMap f).getLast? = some b) :
    ∃ last ∈ refs, f last = some b ∧ ∀ ref ∈ refs, (f ref).isSome → ref.line ≤ last.line := by
  obtain ⟨said, hsaid⟩ := List.getLast?_eq_some_iff.1 h
  obtain ⟨before, behind, rfl, -, hbehind⟩ := List.filterMap_eq_append_iff.1 hsaid
  obtain ⟨skipped, last, rest, rfl, -, hlast, hsilent⟩ := List.filterMap_eq_cons_iff.1 hbehind
  rw [← List.append_assoc] at hsorted ⊢
  refine ⟨last, List.mem_append_right _ List.mem_cons_self, hlast, fun ref href hsome => ?_⟩
  rcases List.mem_append.1 href with hearlier | hlater
  · exact line_le_of_startsBefore
      ((List.pairwise_append.1 hsorted).2.2 ref hearlier last List.mem_cons_self)
  · rcases List.mem_cons.1 hlater with rfl | hrest
    · exact Nat.le_refl _
    · rw [List.filterMap_eq_nil_iff.1 hsilent ref hrest] at hsome
      exact absurd hsome (by simp)

/-- The last colour of a unit is that of a name at its line and column, if any of them has a colour:
references on line 0 come first. -/
theorem namesColor_of_getLast? (data : IndexData) (base : Option Path)
    (hsome : ∃ color,
      (ofData data base).NamesColor theme file (loc.line + 1) (loc.column + 1) color)
    (hlast : ((ofData data base).source.overrides theme file loc).getLast? = some color) :
    (ofData data base).NamesColor theme file (loc.line + 1) (loc.column + 1) color := by
  have hwell := wellFormed_ofData data base
  obtain ⟨last, hmem, hoverride, hle⟩ :=
    exists_of_getLast?_filterMap (pairwise_startsBefore_refsFor data base file) hlast
  obtain ⟨hspan, hcolor⟩ := override?_eq_some_iff.1 hoverride
  rcases span_covers_iff.1 hspan with hcovers | ⟨-, hcovers⟩
  · exact hwell.namesColor_iff.2 ⟨last, hmem, hcovers, hcolor⟩
  · obtain ⟨other, hother⟩ := hsome
    obtain ⟨ref, href, hrefCovers, hrefColor⟩ := hwell.namesColor_iff.1 hother
    have hrefOverride :=
      override?_eq_some_iff.2 ⟨span_covers_iff.2 (Or.inl hrefCovers), hrefColor⟩
    have hline := hle ref href (by rw [hrefOverride]; rfl)
    simp only [covers, Bool.and_eq_true, beq_iff_eq] at hcovers hrefCovers
    omega

/-- **Where colours and clicks agree.** The colour of a unit is that of its last override, if it has
any. For every index, colours and clicks agree at the unit iff it is not on the first line with a
coloured name recorded for it on line 0 and none on line 1. -/
theorem agreesAt_iff (data : IndexData) (base : Option Path) (file : SourceFile) (lexer : Lexer)
    (theme : Theme) (loc : Location) (hloc : loc.pointsAtChar file = true) :
    let index := ofData data base
    (ColorBuffer.build file lexer index.source theme).colorAt? (file.offsetOf loc) =
        some ((index.source.overrides theme file loc).getLast?.getD
          (theme.lexicalColor ((lexer file)[file.offsetOf loc]?.getD .plain))) ∧
      (index.AgreesAt theme file lexer loc ↔
        (loc.line = 0 → (∃ color, index.NamesColor theme file 0 (loc.column + 1) color) →
          ∃ color, index.NamesColor theme file 1 (loc.column + 1) color)) := by
  intro index
  have hwell : index.WellFormed := wellFormed_ofData data base
  have hbuild := ColorBuffer.colorAt?_build lexer index.source theme hloc
  refine ⟨hbuild, fun hagrees hline ⟨color, hcolor⟩ => ?_, fun hcond => ?_⟩
  · have hmem : color ∈ index.source.overrides theme file loc :=
      hwell.mem_overrides_iff.2 (Or.inr ⟨hline, hcolor⟩)
    have hfound := hagrees.overridden_iff.1 (List.ne_nil_of_mem hmem)
    rwa [hline] at hfound
  · have hfound : index.source.overrides theme file loc ≠ [] →
        ∃ color, index.NamesColor theme file (loc.line + 1) (loc.column + 1) color := fun hne => by
      obtain ⟨color, hmem⟩ := List.exists_mem_of_ne_nil _ hne
      rcases hwell.mem_overrides_iff.1 hmem with hcolor | ⟨hline, hcolor⟩
      · exact ⟨color, hcolor⟩
      · rw [hline]
        exact hcond hline ⟨color, hcolor⟩
    refine ⟨⟨hfound, fun ⟨color, hcolor⟩ => ?_⟩, fun hne => ?_⟩
    · exact List.ne_nil_of_mem (hwell.mem_overrides_iff.2 (Or.inl hcolor))
    · have hlast := List.getLast?_eq_some_getLast hne
      refine ⟨_, namesColor_of_getLast? data base (hfound hne) hlast, ?_⟩
      rw [hbuild, hlast, Option.getD_some]

/-- A reference from column 0 on to behind the end of its line colours the units of the line, and a
click there finds its name. -/
theorem agreesAt_iff_overlong :
    let data : IndexData := ⟨[⟨"x", some .structType, none⟩], [⟨⟨"a.c"⟩, 1, 0, 9, "x"⟩]⟩
    let file : SourceFile := .ofText (some ⟨"a.c"⟩) ['x', '\n']
    let index := ofData data none
    Location.pointsAtChar ⟨0, 0⟩ file = true ∧
      (ColorBuffer.build file .plain index.source .light).colorAt? (file.offsetOf ⟨0, 0⟩) =
        Theme.light.symbols.structType ∧
      index.AgreesAt .light file .plain ⟨0, 0⟩ := by
  intro data file index
  have hloc : Location.pointsAtChar ⟨0, 0⟩ file = true := by decide
  obtain ⟨hcolor, hagrees⟩ := agreesAt_iff data none file .plain .light ⟨0, 0⟩ hloc
  have hname : index.NamesColor .light file 1 1 (.rgb 128 0 128) :=
    ⟨"x", by decide +kernel, by decide +kernel⟩
  exact ⟨hloc, hcolor.trans (by decide +kernel), hagrees.2 fun _ _ => ⟨_, hname⟩⟩

/-- A reference recorded on line 0 colours a unit of the first line, and a click there finds no
name. -/
theorem not_agreesAt_line_zero :
    let data : IndexData := ⟨[⟨"x", some .globalVariable, none⟩], [⟨⟨"a.c"⟩, 0, 1, 2, "x"⟩]⟩
    let file : SourceFile := .ofText (some ⟨"a.c"⟩) ['x', '\n']
    (Json.read IndexData.readJson
        ("\x7b\"symbols\": [\x7b\"name\": \"x\", \"category\": \"GlobalVariable\"\x7d], " ++
          "\"refs\": [\x7b\"path\": \"a.c\", \"line\": 0, \"column\": 1, \"end_column\": 2, " ++
          "\"symbol\": \"x\"\x7d]\x7d")).toOption = some data ∧
      Location.pointsAtChar ⟨0, 0⟩ file = true ∧
      (ColorBuffer.build file .plain (ofData data none).source .light).colorAt? 0 =
        Theme.light.symbols.globalVariable ∧
      (ofData data none).symbolsAt file 1 1 = [] ∧
      ¬(ofData data none).AgreesAt .light file .plain ⟨0, 0⟩ := by
  intro data file
  have hnone : (ofData data none).symbolsAt file 1 1 = [] := by decide +kernel
  have hoverridden : (ofData data none).source.overrides .light file ⟨0, 0⟩ ≠ [] := by
    decide +kernel
  refine ⟨by decide +kernel, by decide, by decide +kernel, hnone, fun hagrees => ?_⟩
  obtain ⟨color, name, hname, -⟩ := hagrees.overridden_iff.1 hoverridden
  exact absurd (hnone ▸ hname) List.not_mem_nil

end SymbolIndex

end CodeBrowser
