import CodeBrowser.Location
import CodeBrowser.Proofs.Paint.Coloring
import CodeBrowser.Proofs.Text.Lines

/-!
# Compositing colours

The colours of a file are those of the lexical kinds, painted over reference after reference. What
comes out at a unit is told here without any painting: the colour of the last reference that covers
the unit and has a colour, and else the colour of the lexical kind.

## Main definitions

* `SymbolSource.colorOf?`: the colour of a symbol under a theme.
* `SymbolSource.overrides`: the colours that references give to a unit.
* `ColorBuffer.buildChecked?`: the colours of a file, all references visited, all bounds checked.

## Main results

* `ColorBuffer.build_eq_foldl`: no reference is left out.
* `ColorBuffer.colorAt?_paintRef`: what one reference paints.
* `ColorBuffer.colorAt?_foldl_visit`: the last reference wins.
* `ColorBuffer.colorAt?_build`: the colour of a unit on a line.
* `ColorBuffer.build_composites`: the colours of a file.
-/

namespace CodeBrowser

/-! ### What a reference says -/

/-- The span has the column of the location on the line of the location. -/
def RefSpan.Covers (span : RefSpan) (loc : Location) : Prop :=
  span.line = loc.line ∧ span.start ≤ loc.column ∧ loc.column < span.stop

instance (span : RefSpan) (loc : Location) : Decidable (span.Covers loc) :=
  inferInstanceAs (Decidable (_ ∧ _ ∧ _))

/-- The colour that a theme gives to the category of a symbol, if the source knows the category. -/
def SymbolSource.colorOf? (symbols : SymbolSource) (theme : Theme) (id : SymbolId) :
    Option Color :=
  ((symbols.category id).filter symbols.hasCategory).bind theme.categoryColor

/-- The colour that a reference gives to a location, if it covers the location and has one. -/
def SymbolSource.override? (symbols : SymbolSource) (theme : Theme) (loc : Location) (ref : Ref) :
    Option Color :=
  if ref.span.Covers loc then symbols.colorOf? theme ref.symbol else none

/-- The colours that the references in a file give to a location, in the order of the references. -/
def SymbolSource.overrides (symbols : SymbolSource) (theme : Theme) (file : SourceFile)
    (loc : Location) : List Color :=
  (symbols.fileRefs file).filterMap (symbols.override? theme loc)

/-- The offset of a location. -/
def SourceFile.offsetOf (file : SourceFile) (loc : Location) : Nat :=
  file.lineStart loc.line + loc.column

namespace SourceFile

variable {file : SourceFile} {loc loc' : Location}

theorem pointsAtChar_iff : loc.pointsAtChar file = true ↔
    loc.line < file.lineCount ∧ loc.column < file.lineLength loc.line := by
  simp [Location.pointsAtChar]

theorem offsetOf_lt_unitCount (hloc : loc.pointsAtChar file = true) :
    file.offsetOf loc < file.unitCount :=
  lineStart_add_lt (pointsAtChar_iff.1 hloc).2

/-- Units at different locations have different offsets. -/
theorem eq_of_offsetOf_eq (hloc : loc.pointsAtChar file = true)
    (hloc' : loc'.pointsAtChar file = true) (h : file.offsetOf loc = file.offsetOf loc') :
    loc = loc' := by
  obtain ⟨line, column⟩ := loc
  obtain ⟨line', column'⟩ := loc'
  have hline : line = line' :=
    line_eq_of_lineStart_add_eq (pointsAtChar_iff.1 hloc).2 (pointsAtChar_iff.1 hloc').2 h
  subst hline
  obtain rfl : column = column' := Nat.add_left_cancel h
  rfl

/-- The units between the end of a line and the start of the next one are on no line. -/
theorem offsetOf_ne_of_terminator {line offset : Nat}
    (hend : file.lineStart line + file.lineLength line ≤ offset)
    (hnext : offset < file.lineStart (line + 1)) (hloc : loc.pointsAtChar file = true) :
    file.offsetOf loc ≠ offset := by
  have hcolumn := (pointsAtChar_iff.1 hloc).2
  unfold offsetOf
  rcases Nat.lt_trichotomy loc.line line with hbefore | hsame | hbehind
  · have := file.lineStart_add_lineLength_le hbefore
    omega
  · rw [hsame] at hcolumn ⊢
    omega
  · have := file.lineStart_mono (show line + 1 ≤ loc.line from hbehind)
    omega

end SourceFile

/-! ### Palettes -/

theorem SymbolCategory.mem_all (category : SymbolCategory) : category ∈ all := by
  cases category <;> decide

namespace CategoryPalette

/-- Looking up a key in a list of keys with their values. -/
theorem lookup_filterMap {β γ : Type} [DecidableEq β] (f : β → Option γ) (key : β) :
    (keys : List β) → (keys.filterMap fun k => (f k).map (k, ·)).lookup key =
      if key ∈ keys then f key else none
  | [] => rfl
  | k :: keys => by
      have ih := lookup_filterMap f key keys
      by_cases hkey : key = k
      · subst hkey
        cases hf : f key with
        | none => simp [hf, ih]
        | some value => simp [hf]
      · cases hf : f k with
        | none => simp [hf, ih, hkey]
        | some value => simp [hf, ih, hkey, List.lookup_cons, beq_eq_false_iff_ne.2 hkey]

/-- A palette has the colours of the categories that the source knows. -/
theorem colorOf_ofSource (symbols : SymbolSource) (theme : Theme) (ref : Ref) :
    (ofSource symbols theme).colorOf symbols ref = symbols.colorOf? theme ref.symbol := by
  unfold colorOf SymbolSource.colorOf?
  cases symbols.category ref.symbol with
  | none => rfl
  | some category =>
    have hmem : category ∈ SymbolCategory.all.filter symbols.hasCategory ↔
        symbols.hasCategory category = true := by
      simp [SymbolCategory.mem_all]
    simp only [Option.bind_some, find?, ofSource, lookup_filterMap, hmem, Option.filter]
    split <;> simp_all

end CategoryPalette

namespace ColorBuffer

variable {file : SourceFile} {symbols : SymbolSource} {theme : Theme} {buffer : ColorBuffer}
  {loc : Location} {ref : Ref} {color : Color} {offset : Nat}

/-! ### Painting one reference -/

/-- A reference paints the units that its span covers. -/
theorem colorAt?_paintRef_of_covers (hsize : buffer.size = file.unitCount)
    (hloc : loc.pointsAtChar file = true) (hcovers : ref.span.Covers loc) (color : Color) :
    (buffer.paintRef file ref color).colorAt? (file.offsetOf loc) = some color := by
  obtain ⟨hline, hcolumn⟩ := SourceFile.pointsAtChar_iff.1 hloc
  obtain ⟨hsame, hstart, hstop⟩ := hcovers
  have hlt := SourceFile.offsetOf_lt_unitCount hloc
  unfold paintRef
  dsimp only
  rw [hsame, if_pos hline, colorAt?_fill, if_pos]
  rw [hsize]
  unfold SourceFile.offsetOf at hlt ⊢
  omega

/-- A reference paints no other units, whether its span reaches beyond its line or the file, or is
upside down. -/
theorem colorAt?_paintRef_of_forall_ne
    (h : ∀ loc : Location, loc.pointsAtChar file = true → ref.span.Covers loc →
      file.offsetOf loc ≠ offset) (color : Color) :
    (buffer.paintRef file ref color).colorAt? offset = buffer.colorAt? offset := by
  unfold paintRef
  dsimp only
  by_cases hline : ref.span.line < file.lineCount
  · rw [if_pos hline, colorAt?_fill, if_neg]
    rintro ⟨hfrom, hto, -⟩
    obtain ⟨column, hcolumn⟩ : ∃ column, offset = file.lineStart ref.span.line + column :=
      Nat.exists_eq_add_of_le (by omega)
    subst hcolumn
    refine h ⟨ref.span.line, column⟩ ?_ ⟨rfl, ?_, ?_⟩ rfl
    · exact SourceFile.pointsAtChar_iff.2
        ⟨hline, show column < file.lineLength ref.span.line by omega⟩
    · show ref.span.start ≤ column
      omega
    · show column < ref.span.stop
      omega
  · rw [if_neg hline]

/-- What one reference does to a unit. -/
theorem colorAt?_paintRef (hsize : buffer.size = file.unitCount)
    (hloc : loc.pointsAtChar file = true) (ref : Ref) (color : Color) :
    (buffer.paintRef file ref color).colorAt? (file.offsetOf loc) =
      if ref.span.Covers loc then some color else buffer.colorAt? (file.offsetOf loc) := by
  split_ifs with hcovers
  · exact colorAt?_paintRef_of_covers hsize hloc hcovers color
  · refine colorAt?_paintRef_of_forall_ne (fun loc' hloc' hcovers' heq => ?_) color
    exact hcovers (SourceFile.eq_of_offsetOf_eq hloc' hloc heq ▸ hcovers')

/-! ### Painting all references -/

/-- The buffer after a visit to a reference. -/
def visit (file : SourceFile) (symbols : SymbolSource) (theme : Theme) (buffer : ColorBuffer)
    (ref : Ref) : ColorBuffer :=
  match symbols.colorOf? theme ref.symbol with
  | some color => buffer.paintRef file ref color
  | none => buffer

theorem size_visit (buffer : ColorBuffer) (ref : Ref) :
    (buffer.visit file symbols theme ref).size = buffer.size := by
  unfold visit
  split
  · exact size_paintRef ..
  · rfl

/-- **No reference is left out.** All references are visited in order. Where the palette is empty, a
visit would change nothing. -/
theorem build_eq_foldl (file : SourceFile) (lexer : Lexer) (symbols : SymbolSource)
    (theme : Theme) : build file lexer symbols theme =
      (symbols.fileRefs file).foldl (visit file symbols theme) (lexical file lexer theme) := by
  unfold build
  dsimp only
  split_ifs with hempty
  · have hnone (ref : Ref) : symbols.colorOf? theme ref.symbol = none := by
      rw [← CategoryPalette.colorOf_ofSource]
      unfold CategoryPalette.colorOf CategoryPalette.find?
      rw [List.isEmpty_iff.1 hempty]
      cases symbols.category ref.symbol <;> rfl
    have hidle (buffer : ColorBuffer) (ref : Ref) :
        buffer.visit file symbols theme ref = buffer := by
      rw [visit, hnone]
    exact (List.foldl_fixed' (hidle _) _).symm
  · congr 1
    funext buffer ref
    cases hcolor : symbols.colorOf? theme ref.symbol <;>
      simp only [visit, CategoryPalette.colorOf_ofSource, hcolor]

/-- What a visit does to a unit. -/
theorem colorAt?_visit (hsize : buffer.size = file.unitCount)
    (hloc : loc.pointsAtChar file = true) (ref : Ref) :
    (buffer.visit file symbols theme ref).colorAt? (file.offsetOf loc) =
      (symbols.override? theme loc ref).or (buffer.colorAt? (file.offsetOf loc)) := by
  unfold visit SymbolSource.override?
  cases symbols.colorOf? theme ref.symbol with
  | none => simp
  | some color =>
    dsimp only
    rw [colorAt?_paintRef hsize hloc]
    split_ifs <;> rfl

/-- A visit leaves a unit that no line has, such as one of a terminator. -/
theorem colorAt?_visit_of_forall_ne
    (h : ∀ loc : Location, loc.pointsAtChar file = true → file.offsetOf loc ≠ offset) (ref : Ref) :
    (buffer.visit file symbols theme ref).colorAt? offset = buffer.colorAt? offset := by
  unfold visit
  split
  · exact colorAt?_paintRef_of_forall_ne (fun loc hloc _ => h loc hloc) _
  · rfl

/-- **The last reference wins.** -/
theorem colorAt?_foldl_visit (hloc : loc.pointsAtChar file = true) {color : Color} :
    (refs : List Ref) → (buffer : ColorBuffer) → buffer.size = file.unitCount →
      buffer.colorAt? (file.offsetOf loc) = some color →
      (refs.foldl (visit file symbols theme) buffer).colorAt? (file.offsetOf loc) =
        some ((refs.filterMap (symbols.override? theme loc)).getLast?.getD color)
  | [], _, _, hcolor => hcolor
  | ref :: refs, buffer, hsize, hcolor => by
      have hsize' : (buffer.visit file symbols theme ref).size = file.unitCount :=
        (size_visit buffer ref).trans hsize
      have hvisit : (buffer.visit file symbols theme ref).colorAt? (file.offsetOf loc) = _ :=
        colorAt?_visit hsize hloc ref
      rw [List.foldl_cons]
      cases hoverride : symbols.override? theme loc ref with
      | none =>
        rw [hoverride, hcolor, Option.none_or] at hvisit
        rw [colorAt?_foldl_visit hloc refs _ hsize' hvisit, List.filterMap_cons_none hoverride]
      | some painted =>
        rw [hoverride, Option.some_or] at hvisit
        rw [colorAt?_foldl_visit hloc refs _ hsize' hvisit, List.filterMap_cons_some hoverride,
          List.getLast?_cons, Option.getD_some]

theorem colorAt?_foldl_visit_of_forall_ne
    (h : ∀ loc : Location, loc.pointsAtChar file = true → file.offsetOf loc ≠ offset) :
    (refs : List Ref) → (buffer : ColorBuffer) →
      (refs.foldl (visit file symbols theme) buffer).colorAt? offset = buffer.colorAt? offset
  | [], _ => rfl
  | ref :: refs, buffer => by
      rw [List.foldl_cons, colorAt?_foldl_visit_of_forall_ne h refs, colorAt?_visit_of_forall_ne h]

/-! ### Lexical colours -/

/-- A unit for which the lexer has no kind is plain. -/
theorem colorAt?_lexical (lexer : Lexer) (theme : Theme) (h : offset < file.unitCount) :
    (lexical file lexer theme).colorAt? offset =
      some (theme.lexicalColor ((lexer file)[offset]?.getD .plain)) := by
  have hkind : (fitKinds file lexer)[offset]? = some ((lexer file)[offset]?.getD .plain) := by
    unfold fitKinds
    rcases Nat.lt_or_ge offset (lexer file).length with hlt | hge
    · rw [List.getElem?_append_left (by simp; omega), List.getElem?_take_of_lt h,
        List.getElem?_eq_getElem hlt, Option.getD_some]
    · rw [List.getElem?_append_right (by simp; omega),
        List.getElem?_replicate_of_lt (by simp; omega), List.getElem?_eq_none hge, Option.getD_none]
  rw [lexical, colorAt?, List.getElem?_toArray, List.getElem?_map, hkind, Option.map_some]

/-- **The colour of a unit on a line** is that of the last override, and else that of the unit's
lexical kind. -/
theorem colorAt?_build (lexer : Lexer) (symbols : SymbolSource) (theme : Theme)
    (hloc : loc.pointsAtChar file = true) :
    (build file lexer symbols theme).colorAt? (file.offsetOf loc) =
      some ((symbols.overrides theme file loc).getLast?.getD
        (theme.lexicalColor ((lexer file)[file.offsetOf loc]?.getD .plain))) := by
  rw [build_eq_foldl]
  exact colorAt?_foldl_visit hloc _ _ (size_lexical ..)
    (colorAt?_lexical lexer theme (SourceFile.offsetOf_lt_unitCount hloc))

/-- A unit that is on no line keeps the colour of its lexical kind. -/
theorem colorAt?_build_of_forall_ne (lexer : Lexer) (symbols : SymbolSource) (theme : Theme)
    (hlt : offset < file.unitCount)
    (h : ∀ loc : Location, loc.pointsAtChar file = true → file.offsetOf loc ≠ offset) :
    (build file lexer symbols theme).colorAt? offset =
      some (theme.lexicalColor ((lexer file)[offset]?.getD .plain)) := by
  rw [build_eq_foldl, colorAt?_foldl_visit_of_forall_ne h]
  exact colorAt?_lexical lexer theme hlt

/-! ### Bounds -/

/-- The buffer with the units from `start` up to `stop` in one colour; `none` if these are not a
range of units. -/
def fillChecked? (buffer : ColorBuffer) (start stop : Nat) (color : Color) : Option ColorBuffer :=
  if start ≤ stop ∧ stop ≤ buffer.size then some (buffer.fill start (stop - start) color) else none

/-- The buffer after a visit to a reference; `none` if a bound is violated. -/
def visitChecked? (file : SourceFile) (symbols : SymbolSource) (theme : Theme)
    (buffer : ColorBuffer) (ref : Ref) : Option ColorBuffer :=
  match symbols.colorOf? theme ref.symbol with
  | some color =>
    let span := ref.span
    if span.line < file.lineCount then
      let length := file.lineLength span.line
      buffer.fillChecked? (file.lineStart span.line + min span.start length)
        (file.lineStart span.line + min span.stop length) color
    else some buffer
  | none => some buffer

/-- The colours of a file, all references visited; `none` if a bound is violated. -/
def buildChecked? (file : SourceFile) (lexer : Lexer) (symbols : SymbolSource) (theme : Theme) :
    Option ColorBuffer :=
  (symbols.fileRefs file).foldlM (visitChecked? file symbols theme) (lexical file lexer theme)

/-- No reference violates a bound. -/
theorem visitChecked?_eq (hsize : buffer.size = file.unitCount) (ref : Ref) :
    buffer.visitChecked? file symbols theme ref = some (buffer.visit file symbols theme ref) := by
  unfold visitChecked? visit
  cases symbols.colorOf? theme ref.symbol with
  | none => rfl
  | some color =>
    unfold paintRef
    dsimp only
    split_ifs with hline
    · have hend := file.lineStart_add_lineLength_le_unitCount ref.span.line
      have hspan : ref.span.start ≤ ref.span.stop := Nat.le_max_right _ _
      rw [fillChecked?, if_pos (by omega), Nat.add_sub_add_left]
    · rfl

theorem foldlM_visitChecked? : (refs : List Ref) → (buffer : ColorBuffer) →
    buffer.size = file.unitCount → refs.foldlM (visitChecked? file symbols theme) buffer =
      some (refs.foldl (visit file symbols theme) buffer)
  | [], _, _ => rfl
  | ref :: refs, buffer, hsize => by
      rw [List.foldlM_cons, visitChecked?_eq hsize]
      exact foldlM_visitChecked? refs _ ((size_visit buffer ref).trans hsize)

/-! ### The colours of a file -/

/-- **Colour compositing.** For every file, lexer, source and theme there is one colour for each
unit. On a line it is the colour of the last reference, in the order of the source, that covers the
unit and whose symbol has a category that the source knows and the theme colours; where there is no
such reference, it is the colour of the unit's lexical kind, which is plain behind the end of what
the lexer says. Off the lines, so on every terminator, it is that of the lexical kind. Visiting all
references, with or without a coloured category, and checking all bounds gives the same colours and
never fails. -/
theorem build_composites (file : SourceFile) (lexer : Lexer) (symbols : SymbolSource)
    (theme : Theme) :
    let buffer := build file lexer symbols theme
    let lexicalColor (offset : Nat) := theme.lexicalColor ((lexer file)[offset]?.getD .plain)
    buffer.size = file.unitCount ∧
      (∀ loc : Location, loc.pointsAtChar file = true →
        buffer.colorAt? (file.offsetOf loc) =
          some ((symbols.overrides theme file loc).getLast?.getD
            (lexicalColor (file.offsetOf loc)))) ∧
      (∀ offset < file.unitCount,
        (∀ loc : Location, loc.pointsAtChar file = true → file.offsetOf loc ≠ offset) →
        buffer.colorAt? offset = some (lexicalColor offset)) ∧
      (∀ line offset, file.lineStart line + file.lineLength line ≤ offset →
        offset < file.lineStart (line + 1) →
        buffer.colorAt? offset = some (lexicalColor offset)) ∧
      buildChecked? file lexer symbols theme = some buffer := by
  intro buffer lexicalColor
  refine ⟨size_build .., fun loc hloc => colorAt?_build lexer symbols theme hloc,
    fun offset hlt hnone => colorAt?_build_of_forall_ne lexer symbols theme hlt hnone,
    fun line offset hend hnext => ?_, ?_⟩
  · have hlt : offset < file.unitCount := hnext.trans_le (file.lineStart_le_unitCount _)
    exact colorAt?_build_of_forall_ne lexer symbols theme hlt fun _ hloc =>
      SourceFile.offsetOf_ne_of_terminator hend hnext hloc
  · rw [show buffer = _ from build_eq_foldl file lexer symbols theme]
    exact foldlM_visitChecked? _ _ (size_lexical ..)

/-- Of two references to a unit the last one wins, an overlong one does not reach the terminator of
its line, and those upside down or behind the end of the file reach nothing. -/
theorem build_composites_overlapping :
    let file : SourceFile := .ofText none ['a', 'b', '\r', '\n', 'c']
    let symbols : SymbolSource :=
      { SymbolSource.empty with
        fileRefs := fun _ => [⟨1, 1, 9, 0⟩, ⟨1, 2, 3, 1⟩, ⟨2, 2, 1, 1⟩, ⟨7, 1, 2, 0⟩]
        category := fun id => if id = 0 then some .globalVariable else some .structType
        hasCategory := fun _ => true }
    let buffer := build file (fun _ => [.keyword, .keyword, .keyword]) symbols .light
    Location.pointsAtChar ⟨0, 0⟩ file ∧
      buffer.colorAt? (file.offsetOf ⟨0, 0⟩) = Theme.light.symbols.globalVariable ∧
      Location.pointsAtChar ⟨0, 1⟩ file ∧
      buffer.colorAt? (file.offsetOf ⟨0, 1⟩) = Theme.light.symbols.structType ∧
      Location.pointsAtChar ⟨1, 0⟩ file ∧
      buffer.colorAt? (file.offsetOf ⟨1, 0⟩) = some Theme.light.lexical.plain ∧
      file.lineStart 0 + file.lineLength 0 ≤ 2 ∧ 2 < file.lineStart 1 ∧
      buffer.colorAt? 2 = some Theme.light.lexical.keyword := by
  intro file symbols buffer
  obtain ⟨-, hcolor, -, hterminator, -⟩ :=
    build_composites file (fun _ => [.keyword, .keyword, .keyword]) symbols .light
  have hfirst : Location.pointsAtChar ⟨0, 0⟩ file := by decide
  have hsecond : Location.pointsAtChar ⟨0, 1⟩ file := by decide
  have hthird : Location.pointsAtChar ⟨1, 0⟩ file := by decide
  have hend : file.lineStart 0 + file.lineLength 0 ≤ 2 := by decide
  have hnext : 2 < file.lineStart 1 := by decide
  exact ⟨hfirst, (hcolor _ hfirst).trans (by decide), hsecond, (hcolor _ hsecond).trans (by decide),
    hthird, (hcolor _ hthird).trans (by decide), hend, hnext,
    (hterminator 0 2 hend hnext).trans (by decide)⟩

end ColorBuffer

end CodeBrowser
