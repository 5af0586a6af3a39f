import CodeBrowser.Proofs.Index.Agreement
import CodeBrowser.Proofs.Index.Scan

/-!
# What an index tells of its symbols

Symbol records with one name are put together: their definitions are kept in order, and of their
categories the last one counts. Here this is said of each name by itself, without numbers and
without the records of other names, and it is the same whether a name is met first in a symbol
record or in a reference. It takes a number for each name: where the numbers have begun again, what a
record tells of its name is put down to another one. The categories that some record names are kept
apart; the colours of references go through them, and no symbol loses its colour there.

## Main definitions

* `lastCategory?`: the category of the last record of a name that has one.
* `definitionsOf`: the definitions that the records of a name carry.
* `SymbolEntry.ofRecords`: what records tell of a name.
* `SymbolIndex.Tells`: the symbols of an index are what records tell of their names.

## Main results

* `SymbolIndex.Tells.addSymbol`: one more symbol record.
* `SymbolIndex.tells_ofData`: the symbols of an index are told by its records.
* `SymbolIndex.source_definition?_iff`: which symbols have a definition.
* `SymbolIndex.symbols_follow_records`: definitions, categories and colours by the symbol records.
* `SymbolIndex.symbols_beyond_records`: what happens where there are more names than numbers.
-/

namespace CodeBrowser

open SymbolIndex (resolveLocation)

/-- The category of the last record of a name that has one. -/
def lastCategory? (records : List SymbolRecord) (name : String) : Option SymbolCategory :=
  ((records.filter (·.name == name)).filterMap (·.category)).getLast?

/-- The definitions that the records of a name carry, in order. -/
def definitionsOf (records : List SymbolRecord) (name : String) : List SymbolLocation :=
  (records.filter (·.name == name)).filterMap (·.definition)

/-- What records tell of a name. -/
def SymbolEntry.ofRecords (base : Option Path) (records : List SymbolRecord) (name : String) :
    SymbolEntry :=
  ⟨name, lastCategory? records name, (definitionsOf records name).map (resolveLocation base)⟩

/-- A list yields one value iff one element alone yields any, and yields that one. -/
theorem filterMap_eq_singleton_iff {β γ : Type} {f : β → Option γ} {b : γ} : {l : List β} →
    (l.filterMap f = [b] ↔ ∃ a, l.filter (fun a => (f a).isSome) = [a] ∧ f a = some b)
  | [] => by simp
  | a :: l => by
      cases ha : f a with
      | none =>
        rw [List.filterMap_cons_none ha, List.filter_cons_of_neg (by simp [ha])]
        exact filterMap_eq_singleton_iff
      | some c =>
        have hempty : l.filterMap f = [] ↔ l.filter (fun a => (f a).isSome) = [] := by
          simp [List.filterMap_eq_nil_iff, List.filter_eq_nil_iff]
        rw [List.filterMap_cons_some ha, List.filter_cons_of_pos (by simp [ha])]
        simp only [List.cons.injEq, hempty]
        constructor
        · rintro ⟨rfl, hrest⟩
          exact ⟨a, ⟨rfl, hrest⟩, ha⟩
        · rintro ⟨_, ⟨rfl, hrest⟩, hb⟩
          exact ⟨Option.some.inj (ha.symm.trans hb), hrest⟩

/-- In a list of values by names, changing the value of one name changes the values of no others. -/
theorem modify_idxOf_map {β : Type} {names : List String} {name : String} {f f' : String → β}
    {change : β → β} (hnodup : names.Nodup) (hself : f' name = change (f name))
    (hothers : ∀ other, other ≠ name → f' other = f other) :
    (names.map f).modify (names.idxOf name) change = names.map f' := by
  refine List.ext_getElem? fun i => ?_
  rw [List.getElem?_modify, List.getElem?_map, List.getElem?_map]
  cases hother : names[i]? with
  | none => rfl
  | some other =>
    obtain ⟨hi, rfl⟩ := List.getElem?_eq_some_iff.1 hother
    by_cases hname : names.idxOf name = i
    · subst hname
      simp [hself]
    · have hne : names[i] ≠ name := fun heq => hname (heq ▸ hnodup.idxOf_getElem i hi)
      simp [hname, hothers _ hne]

section Records

variable {base : Option Path} {records : List SymbolRecord} {record : SymbolRecord} {name : String}

theorem filter_append_self (records : List SymbolRecord) (record : SymbolRecord) :
    (records ++ [record]).filter (·.name == record.name) =
      records.filter (·.name == record.name) ++ [record] := by
  simp

theorem filter_append_of_ne (h : record.name ≠ name) :
    (records ++ [record]).filter (·.name == name) = records.filter (·.name == name) := by
  simp [h]

namespace SymbolEntry

/-- Nothing is known of a name without records. -/
theorem ofRecords_of_forall_ne (h : ∀ record ∈ records, record.name ≠ name) :
    ofRecords base records name = ⟨name, none, []⟩ := by
  have hnone : records.filter (·.name == name) = [] :=
    List.filter_eq_nil_iff.2 fun record hrecord heq => h record hrecord (eq_of_beq heq)
  rw [ofRecords, lastCategory?, definitionsOf, hnone]
  rfl

/-- One more record of a name updates what is known of it. -/
theorem ofRecords_append_self (base : Option Path) (records : List SymbolRecord)
    (record : SymbolRecord) : ofRecords base (records ++ [record]) record.name =
      SymbolIndex.SymbolEntry.update base record (ofRecords base records record.name) := by
  rw [ofRecords, lastCategory?, definitionsOf, filter_append_self, List.filterMap_append,
    List.filterMap_append, List.map_append, List.getLast?_append]
  cases hcategory : record.category <;> cases hdefinition : record.definition <;>
    simp [SymbolIndex.SymbolEntry.update, ofRecords, lastCategory?, definitionsOf, hcategory,
      hdefinition]

/-- Records of other names tell nothing of a name. -/
theorem ofRecords_append_of_ne (h : record.name ≠ name) :
    ofRecords base (records ++ [record]) name = ofRecords base records name := by
  rw [ofRecords, lastCategory?, definitionsOf, filter_append_of_ne h]
  rfl

end SymbolEntry

end Records

namespace SymbolIndex

variable {index : SymbolIndex} {base : Option Path} {records : List SymbolRecord} {name : String}

/-- Each symbol of the index is what the records tell of its name, and each record is of the name of
a symbol. -/
structure Tells (base : Option Path) (records : List SymbolRecord) (index : SymbolIndex) :
    Prop where
  wellFormed : index.WellFormed
  symbols_eq : index.symbols = index.names.map (SymbolEntry.ofRecords base records)
  name_mem : ∀ record ∈ records, record.name ∈ index.names

namespace Tells

theorem empty (base : Option Path) : Tells base [] empty :=
  ⟨wellFormed_empty, rfl, fun _ h => absurd h List.not_mem_nil⟩

/-- A name that is not taken up has no records. -/
theorem ofRecords_of_notMem (h : Tells base records index) (hname : name ∉ index.names) :
    SymbolEntry.ofRecords base records name = ⟨name, none, []⟩ :=
  SymbolEntry.ofRecords_of_forall_ne fun record hrecord heq =>
    hname (heq ▸ h.name_mem record hrecord)

/-- Taking up a name that no record has tells nothing new. -/
theorem intern (h : Tells base records index) (name : String) :
    Tells base records (index.intern name).1 where
  wellFormed := h.wellFormed.intern name
  symbols_eq := by
    rw [names_intern]
    by_cases hname : name ∈ index.names
    · rw [addName_of_mem hname, SymbolIndex.intern, idOf?_of_mem hname]
      exact h.symbols_eq
    · rw [addName_of_notMem hname, SymbolIndex.intern, idOf?_of_notMem hname, List.map_append,
        List.map_singleton, h.ofRecords_of_notMem hname, ← h.symbols_eq]
  name_mem record hrecord := by
    rw [names_intern]
    exact (prefix_addName ..).mem (h.name_mem record hrecord)

/-- **One more symbol record.** If there are numbers for all names, only the symbol of its name is
changed, and to what the records then tell of the name. -/
theorem addSymbol (h : Tells base records index) (record : SymbolRecord)
    (hcount : (SymbolIndex.addSymbol base index record).names.length ≤ UInt32.size) :
    Tells base (records ++ [record]) (SymbolIndex.addSymbol base index record) where
  wellFormed := h.wellFormed.addSymbol record
  symbols_eq := by
    have hinterned := h.intern record.name
    rw [names_addSymbol] at hcount
    have hid : (index.intern record.name).2.toNat =
        (index.intern record.name).1.names.idxOf record.name := by
      rw [names_intern, intern_snd, toNat_numberIn hcount (mem_addName_self ..)]
    rw [names_addSymbol, ← names_intern]
    -- From here on, the index in which the name has been taken up is all that matters.
    unfold SymbolIndex.addSymbol
    generalize index.intern record.name = interned at hinterned hid
    obtain ⟨index, id⟩ := interned
    dsimp only at hinterned hid ⊢
    rw [hid, hinterned.symbols_eq]
    exact modify_idxOf_map hinterned.wellFormed.nodup_names
      (SymbolEntry.ofRecords_append_self base records record)
      fun other hother => SymbolEntry.ofRecords_append_of_ne hother.symm
  name_mem other hother := by
    rw [names_addSymbol]
    rcases List.mem_append.1 hother with hold | hnew
    · exact (prefix_addName ..).mem (h.name_mem other hold)
    · rw [List.mem_singleton.1 hnew]
      exact mem_addName_self ..

/-- A reference record tells nothing of its symbol but the name. -/
theorem addRef (h : Tells base records index) (record : RefRecord) :
    Tells base records (SymbolIndex.addRef base index record) where
  wellFormed := h.wellFormed.addRef record
  symbols_eq := (h.intern record.symbol).symbols_eq
  name_mem := (h.intern record.symbol).name_mem

end Tells

/-- The symbols of symbol records are told by them. -/
theorem tells_foldl_addSymbol (records : List SymbolRecord)
    (hcount : (records.foldl (addSymbol base) empty).names.length ≤ UInt32.size) :
    Tells base records (records.foldl (addSymbol base) empty) := by
  induction records using List.reverseRecOn with
  | nil => exact Tells.empty base
  | append_singleton records record ih =>
    rw [List.foldl_append, List.foldl_cons, List.foldl_nil] at hcount ⊢
    have hprefix : (records.foldl (addSymbol base) empty).names <+:
        (addSymbol base (records.foldl (addSymbol base) empty) record).names := by
      rw [names_addSymbol]
      exact prefix_addName ..
    exact (ih (Nat.le_trans hprefix.length_le hcount)).addSymbol record hcount

/-- **The symbols of an index are told by its records**, name by name, if there are numbers for all
names. -/
theorem tells_ofData {data : IndexData} (hcount : data.names.eraseDups.length ≤ UInt32.size)
    (base : Option Path) : Tells base data.symbols (ofData data base) := by
  have hnames : (data.symbols.foldl (addSymbol base) empty).names.length ≤ UInt32.size := by
    have heq : (data.symbols.foldl (addSymbol base) empty).names =
        (data.symbols.map (·.name)).eraseDups :=
      (names_foldl names_addSymbol data.symbols empty).trans (foldl_addName_nil _)
    rw [IndexData.names, List.eraseDups_append, List.length_append, ← heq] at hcount
    exact Nat.le_of_add_right_le hcount
  have hrefs : Tells base data.symbols (data.refs.foldl (addRef base)
      (data.symbols.foldl (addSymbol base) empty)) :=
    List.foldlRecOn data.refs _ (tells_foldl_addSymbol data.symbols hnames)
      fun _ h record _ => h.addRef record
  exact ⟨wellFormed_ofData data base, hrefs.symbols_eq, hrefs.name_mem⟩

/-! ### Looking up by name and by number -/

theorem definition?_eq_some_iff {place : SymbolLocation} : index.definition? name = some place ↔
    ((index.idOf? name).bind index.symbol?).map (·.definitions) = some [place] := by
  unfold definition?
  split
  · next definition hdefinitions => simp [hdefinitions]
  · next hmany => exact ⟨fun hnone => absurd hnone (by simp), fun hone => absurd hone (hmany place)⟩

theorem definition?_congr {other : String} (h : index.idOf? name = index.idOf? other) :
    index.definition? name = index.definition? other := by
  rw [definition?, definition?, h]

namespace Tells

section Numbers

variable (h : Tells base records index) (hcount : index.names.length ≤ UInt32.size)
include h hcount

/-- The symbol that goes by the number of a name. -/
theorem symbol?_numberIn (hname : name ∈ index.names) :
    index.symbol? (numberIn index.names name) = some (SymbolEntry.ofRecords base records name) := by
  rw [SymbolIndex.symbol?_numberIn hcount hname, h.symbols_eq, List.getElem?_map,
    List.getElem?_idxOf hname, Option.map_some]

/-- A definition is the one of a name if the records of the name carry no other. -/
theorem definition?_iff {place : SymbolLocation} :
    index.definition? name = some place ↔
      (definitionsOf records name).map (resolveLocation base) = [place] := by
  rw [definition?_eq_some_iff]
  by_cases hname : name ∈ index.names
  · rw [idOf?_of_mem hname, Option.bind_some, h.symbol?_numberIn hcount hname, Option.map_some,
      Option.some_inj]
    rfl
  · have hnone : (definitionsOf records name).map (resolveLocation base) = [] :=
      congrArg SymbolEntry.definitions (h.ofRecords_of_notMem hname)
    rw [idOf?_of_notMem hname, hnone]
    simp

/-- The category that goes by the number of a name. -/
theorem category_numberIn (hname : name ∈ index.names) :
    index.source.category (numberIn index.names name) = lastCategory? records name := by
  show (index.symbol? (numberIn index.names name)).bind (·.category) = _
  rw [h.symbol?_numberIn hcount hname]
  rfl

end Numbers

end Tells

/-! ### Indexes of records -/

section Numbers

variable {data : IndexData} (hcount : data.names.eraseDups.length ≤ UInt32.size)
include hcount

/-- **A symbol has a definition if exactly one of its records carries one.** -/
theorem source_definition?_iff {place : SymbolLocation} :
    (ofData data base).source.definition? name = some place ↔ ∃ record,
      data.symbols.filter (fun r => r.name == name && r.definition.isSome) = [record] ∧
        record.definition.map (resolveLocation base) = some place := by
  have hfilter : data.symbols.filter (fun r => r.name == name && r.definition.isSome) =
      (data.symbols.filter (·.name == name)).filter (fun r => r.definition.isSome) := by
    rw [List.filter_filter]
    simp only [Bool.and_comm]
  have hmap : (definitionsOf data.symbols name).map (resolveLocation base) =
      (data.symbols.filter (·.name == name)).filterMap fun r =>
        r.definition.map (resolveLocation base) :=
    List.map_filterMap ..
  have hdefinition : (ofData data base).source.definition? name = some place ↔
      (definitionsOf data.symbols name).map (resolveLocation base) = [place] :=
    (tells_ofData hcount base).definition?_iff (length_names_ofData_le hcount)
  rw [hdefinition, hmap, hfilter, filterMap_eq_singleton_iff]
  simp only [Option.isSome_map]

/-- A name of the records has a number, and what has the number is in the category of the name. -/
theorem exists_idOf?_category (hname : name ∈ data.names) : ∃ id : SymbolId,
    id.toNat < data.names.eraseDups.length ∧ (ofData data base).idOf? name = some id ∧
      (ofData data base).source.category id = lastCategory? data.symbols name := by
  have hmem : name ∈ (ofData data base).names := by
    rwa [names_ofData, List.mem_eraseDups]
  have hnames : (ofData data base).names.length ≤ UInt32.size := length_names_ofData_le hcount
  refine ⟨numberIn (ofData data base).names name, ?_, idOf?_of_mem hmem,
    (tells_ofData hcount base).category_numberIn hnames hmem⟩
  rw [toNat_numberIn hnames hmem, ← names_ofData data base]
  exact List.idxOf_lt_length_of_mem hmem

/-- Every reference of the index stands for a record, whose symbol has its category. -/
theorem exists_standsFor {file : Path × List Ref} (hfile : file ∈ (ofData data base).files)
    {ref : Ref} (href : ref ∈ file.2) : ∃ record ∈ data.refs,
      (ofData data base).StandsFor ref record ∧
        (ofData data base).source.category ref.symbol =
          lastCategory? data.symbols record.symbol := by
  rw [refs_eq_of_mem_files hfile] at href
  obtain ⟨record, hvisited, rfl⟩ := List.mem_map.1 href
  have hrecord := mem_refs_of_mem_visited hvisited
  exact ⟨record, hrecord, standsFor_toRef hcount hrecord,
    (tells_ofData hcount base).category_numberIn (length_names_ofData_le hcount)
      (symbol_mem_names data base hrecord)⟩

end Numbers

/-- **Definitions, categories and colours follow the symbol records.** Every category that a number
stands for is one that the index lists, so the palette of the index gives each reference the colour
of its symbol's category, and leaves out none. If there are numbers for all names, a place is the
definition of a name iff exactly one record of the name carries a definition, and it is that
definition with its path resolved; each name of a symbol record or a reference has a number, and
what has the number is in the category of the last record of the name that has one; and so is the
symbol of a reference, by the name in its record. -/
theorem symbols_follow_records (data : IndexData) (base : Option Path) :
    let index := ofData data base
    (∀ id category, index.source.category id = some category →
        index.source.hasCategory category = true) ∧
      (∀ theme, ∀ file ∈ index.files, ∀ ref ∈ file.2,
        (CategoryPalette.ofSource index.source theme).colorOf index.source ref =
          (index.source.category ref.symbol).bind theme.categoryColor) ∧
      (data.names.eraseDups.length ≤ UInt32.size →
        (∀ name place, index.source.definition? name = some place ↔ ∃ record,
          data.symbols.filter (fun r => r.name == name && r.definition.isSome) = [record] ∧
            record.definition.map (resolveLocation base) = some place) ∧
        (∀ name ∈ data.names, ∃ id : SymbolId, id.toNat < data.names.eraseDups.length ∧
          index.idOf? name = some id ∧
            index.source.category id = lastCategory? data.symbols name) ∧
        ∀ file ∈ index.files, ∀ ref ∈ file.2, ∃ record ∈ data.refs, index.StandsFor ref record ∧
          index.source.category ref.symbol = lastCategory? data.symbols record.symbol) := by
  have hwell := wellFormed_ofData data base
  refine ⟨fun id category => hwell.hasCategory_of_category, fun theme file _ ref _ => ?_,
    fun hcount => ⟨fun name place => source_definition?_iff hcount,
      fun name => exists_idOf?_category hcount,
      fun file hfile ref => exists_standsFor hcount hfile⟩⟩
  rw [CategoryPalette.colorOf_ofSource, hwell.colorOf?_eq]

/-- A function becomes a field by a later record and keeps its only definition, a type has two
definitions and so none to go to, and a name met in a reference has no category. A reference to what
is a field now has the colour of fields. -/
theorem symbols_follow_records_repeated :
    let data : IndexData :=
      ⟨[⟨"f", some .function, some ⟨⟨"f.c"⟩, 1, 1⟩⟩, ⟨"T", some .structType, some ⟨⟨"t.h"⟩, 1, 1⟩⟩,
          ⟨"f", some .field, none⟩, ⟨"T", none, some ⟨⟨"t.h"⟩, 9, 1⟩⟩],
        [⟨⟨"a.c"⟩, 3, 1, 2, "x"⟩, ⟨⟨"b.c"⟩, 3, 1, 2, "f"⟩]⟩
    let index := ofData data (some ⟨"/p"⟩)
    let file : Path × List Ref := ⟨⟨"/p/b.c"⟩, [⟨3, 1, 2, 0⟩]⟩
    data.names.eraseDups.length ≤ UInt32.size ∧
      index.source.definition? "f" = some ⟨⟨"/p/f.c"⟩, 1, 1⟩ ∧
      index.source.definition? "T" ≠ some ⟨⟨"/p/t.h"⟩, 1, 1⟩ ∧
      "x" ∈ data.names ∧ index.idOf? "x" = some 2 ∧ index.source.category 2 = none ∧
      index.source.category 0 = some .field ∧ index.source.hasCategory .field = true ∧
      file ∈ index.files ∧
      (CategoryPalette.ofSource index.source .light).colorOf index.source ⟨3, 1, 2, 0⟩ =
        Theme.light.symbols.field := by
  intro data index file
  have hcount : data.names.eraseDups.length ≤ UInt32.size := by decide
  obtain ⟨hlisted, hcolor, hrecords⟩ := symbols_follow_records data (some ⟨"/p"⟩)
  obtain ⟨hdefinition, hnumber, -⟩ := hrecords hcount
  have hname : "x" ∈ data.names := by decide
  have hx : index.idOf? "x" = some 2 := by decide +kernel
  have hfield : index.source.category 0 = some .field := by decide +kernel
  have hfile : file ∈ index.files := by decide +kernel
  obtain ⟨id, -, hid, hcategory⟩ := hnumber "x" hname
  obtain rfl : 2 = id := Option.some.inj (hx.symm.trans hid)
  refine ⟨hcount, (hdefinition _ _).2 ⟨data.symbols[0], by decide, by decide +kernel⟩,
    fun htype => ?_, hname, hx, hcategory.trans (by decide), hfield, hlisted 0 _ hfield, hfile, ?_⟩
  · obtain ⟨record, hone, -⟩ := (hdefinition _ _).1 htype
    have hlength : (data.symbols.filter fun r => r.name == "T" && r.definition.isSome).length = 1 :=
      congrArg List.length hone
    exact absurd hlength (by decide)
  · rw [hcolor .light file hfile _ (List.mem_singleton_self _), hfield]
    rfl

/-! ### More names than numbers -/

/-- So many symbol records, each of a name of its own and with a definition on a line of its own. -/
def decimalSymbols (count : Nat) : List SymbolRecord :=
  (List.range count).map fun place => ⟨place.repr, none, some ⟨⟨"a.c"⟩, place + 1, 1⟩⟩

theorem names_decimalSymbols (count : Nat) :
    (ofData ⟨decimalSymbols count, []⟩ base).names = decimalNames count := by
  rw [names_ofData, ← eraseDups_decimalNames, IndexData.names, decimalSymbols, List.map_nil,
    List.append_nil, List.map_map]
  rfl

/-- Each of the names has one record. -/
theorem filter_decimalSymbols {place count : Nat} (h : place < count) :
    (decimalSymbols count).filter (fun r => r.name == place.repr && r.definition.isSome) =
      [⟨place.repr, none, some ⟨⟨"a.c"⟩, place + 1, 1⟩⟩] := by
  have hone : (List.range count).filter (· == place) = [place] := by
    rw [List.filter_beq, List.count_eq_one_of_mem List.nodup_range (List.mem_range.2 h),
      List.replicate_one]
  rw [decimalSymbols, List.filter_map]
  have hname : ∀ other ∈ List.range count,
      ((fun r : SymbolRecord => r.name == place.repr && r.definition.isSome) ∘ fun place =>
        ⟨place.repr, none, some ⟨⟨"a.c"⟩, place + 1, 1⟩⟩) other = (other == place) := by
    intro other _
    rw [Function.comp_apply, Option.isSome_some, Bool.and_true, Bool.eq_iff_iff, beq_iff_eq,
      beq_iff_eq]
    exact repr_injective.eq_iff
  rw [List.filter_congr hname, hone, List.map_singleton]

/-- With more names than numbers, the first name too many goes to what the first name of all goes to,
if that goes to its definition. -/
theorem not_definition?_iff {count : Nat} (hcount : UInt32.size < count) (base : Option Path) :
    let data : IndexData := ⟨decimalSymbols count, []⟩
    ¬ ∀ name place, (ofData data base).source.definition? name = some place ↔ ∃ record,
      data.symbols.filter (fun r => r.name == name && r.definition.isSome) = [record] ∧
        record.definition.map (resolveLocation base) = some place := by
  intro data hdefinition
  have hsame : (ofData data base).source.definition? (Nat.repr UInt32.size) =
      (ofData data base).source.definition? (Nat.repr 0) :=
    definition?_congr (idOf?_repr_size hcount (names_decimalSymbols count))
  have hfirst := (hdefinition _ _).2
    ⟨_, filter_decimalSymbols (Nat.zero_lt_of_lt hcount), rfl⟩
  obtain ⟨last, hlast, hplace⟩ := (hdefinition _ _).1 (hsame.trans hfirst)
  obtain rfl := List.singleton_inj.1 ((filter_decimalSymbols hcount).symm.trans hlast)
  have hline := congrArg SymbolLocation.line (Option.some.inj hplace)
  exact absurd (Nat.succ.inj hline) (by decide)

/-- One name too many for the numbers: a name has a definition that is not its own, or not the one
that it has. And a path is resolved by writing it behind the directory, with a `..` left in it. -/
theorem symbols_beyond_records :
    let many : IndexData := ⟨decimalSymbols (UInt32.size + 1), []⟩
    let one : IndexData := ⟨[⟨"f", none, some ⟨⟨"../a.h"⟩, 1, 1⟩⟩], []⟩
    (¬ ∀ name place, (ofData many none).source.definition? name = some place ↔ ∃ record,
        many.symbols.filter (fun r => r.name == name && r.definition.isSome) = [record] ∧
          record.definition.map (resolveLocation none) = some place) ∧
      (ofData one (some ⟨"/p/q"⟩)).source.definition? "f" = some ⟨⟨"/p/q/../a.h"⟩, 1, 1⟩ := by
  intro many one
  exact ⟨not_definition?_iff (Nat.lt_succ_self UInt32.size) none, by decide +kernel⟩

end SymbolIndex

end CodeBrowser
