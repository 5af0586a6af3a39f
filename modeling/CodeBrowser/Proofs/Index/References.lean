import CodeBrowser.Proofs.Index.Answering
import Mathlib.Data.List.Perm.Basic

/-!
# The references to a symbol

A report on a symbol lists every record that refers to it. The records lie in different files of the
index, and the files may be gone through in any order: gathered together they are the records that
there are, each once, and sorted by path, line and column they stand in an order that leaves no
choice. Two entries that compare equal are in one file, which goes by one path, and so they are
equal.

What the report lists can be found again. In a file of that path a record with any columns is among
the names at its start, for the path is indexed and no other one is asked.

All this needs a number for each name. Where the numbers have begun again, a report lists what refers
to any of the names with one number. It is in order all the same.

## Main definitions

* `IndexData.placeOf`: the place of a record, under the path that its file goes by.
* `SymbolIndex.placesOf`: the references to a symbol, file by file.

## Main results

* `perm_flatMap_filter`: the groups of a list are the list in another order.
* `SymbolIndex.locationLE_iff`: the order of places.
* `SymbolIndex.placesOf_perm`: the references to a symbol are those of its records.
* `SymbolIndex.references_eq_of_perm`: the order of the files does not matter.
* `SymbolIndex.references_report_records`: what a report lists, and that a lookup finds it.
* `SymbolIndex.references_beyond_records`: two ways in which a report may say something else.
-/

namespace CodeBrowser

open Std (TransCmp OrientedCmp LawfulEqCmp)
open RefRecord (isIn)

/-- If just one of the keys fits each element of a list, the elements that fit the first key, those
that fit the second one and so on are the list in another order. -/
theorem perm_flatMap_filter {κ β : Type} {fits : κ → β → Bool} : (keys : List κ) →
    (values : List β) → keys.Pairwise (fun a b => ∀ x, fits a x = true → fits b x = false) →
      (∀ x ∈ values, ∃ key ∈ keys, fits key x = true) →
        (keys.flatMap fun key => values.filter (fits key)).Perm values
  | [], values, _, hcovered => by
      have hnil : values = [] := List.eq_nil_iff_forall_not_mem.2 fun x hx => by
        obtain ⟨key, hkey, -⟩ := hcovered x hx
        exact List.not_mem_nil hkey
      rw [hnil]
      exact List.Perm.nil
  | key :: keys, values, hapart, hcovered => by
      obtain ⟨hkey, hkeys⟩ := List.pairwise_cons.1 hapart
      have hothers : ∀ other ∈ keys, values.filter (fits other) =
          (values.filter fun x => !fits key x).filter (fits other) := fun other hother => by
        rw [List.filter_filter]
        refine List.filter_congr fun x _ => ?_
        cases hfits : fits key x with
        | true => simp [hkey other hother x hfits]
        | false => simp
      have hrest : ∀ x ∈ values.filter fun x => !fits key x,
          ∃ other ∈ keys, fits other x = true := fun x hx => by
        obtain ⟨hmem, hnot⟩ := List.mem_filter.1 hx
        obtain ⟨other, hother, hfits⟩ := hcovered x hmem
        rcases List.mem_cons.1 hother with rfl | hother
        · simp [hfits] at hnot
        · exact ⟨other, hother, hfits⟩
      rw [List.flatMap_cons, List.flatMap_congr hothers]
      exact ((perm_flatMap_filter keys _ hkeys hrest).append_left _).trans
        (List.filter_append_perm (fits key) values)

/-! ### Places -/

namespace IndexData

/-- The path that the file of a record goes by, which is that of the first record of the file. -/
def fileOf (data : IndexData) (base : Option Path) (record : RefRecord) : Path :=
  let path := SymbolIndex.resolve base record.path
  ((data.refs.find? (isIn base path)).map (SymbolIndex.resolve base ·.path)).getD path

/-- The place of a record. -/
def placeOf (data : IndexData) (base : Option Path) (record : RefRecord) : SymbolLocation :=
  ⟨data.fileOf base record, record.line, record.column⟩

theorem fileOf_eq {data : IndexData} {base : Option Path} {record : RefRecord} {path : Path}
    (hindexed : Indexes base data.refs path) (hin : isIn base path record = true) :
    data.fileOf base record = path := by
  unfold fileOf
  dsimp only
  rw [isIn_congr hin, hindexed, Option.getD_some]

end IndexData

namespace SymbolIndex

variable {index : SymbolIndex} {data : IndexData} {base : Option Path} {name : String}
  {a b : SymbolLocation}

/-! ### The order of places -/

/-- The order of places by their paths. -/
def comparePaths (a b : SymbolLocation) : Ordering := a.path.compare b.path

instance : TransCmp comparePaths where
  eq_swap {a b} := Path.compare_swap a.path b.path
  isLE_trans {a b c} := by
    simp only [comparePaths]
    exact TransCmp.isLE_trans

/-- Places are ordered by path, then by line and then by column. -/
def comparePlaces : SymbolLocation → SymbolLocation → Ordering :=
  compareLex comparePaths (compareLex (compareOn (·.line)) (compareOn (·.column)))

instance : TransCmp comparePlaces := by
  unfold comparePlaces
  infer_instance

theorem locationLE_eq (a b : SymbolLocation) : locationLE a b = (comparePlaces a b).isLE := rfl

theorem locationLE_trans (a b c : SymbolLocation) (hab : locationLE a b = true)
    (hbc : locationLE b c = true) : locationLE a c = true := by
  rw [locationLE_eq] at hab hbc ⊢
  exact TransCmp.isLE_trans hab hbc

theorem locationLE_total (a b : SymbolLocation) : (locationLE a b || locationLE b a) = true := by
  have hswap : comparePlaces a b = (comparePlaces b a).swap := OrientedCmp.eq_swap
  rw [locationLE_eq, locationLE_eq, hswap]
  cases comparePlaces b a <;> rfl

/-- **The order of places.** One comes before another by its path, or in the same file by line and
column. -/
theorem locationLE_iff : locationLE a b = true ↔ a.path.compare b.path = .lt ∨
    a.path.same b.path = true ∧ (a.line < b.line ∨ a.line = b.line ∧ a.column ≤ b.column) := by
  rw [← Path.compare_eq_eq_iff, locationLE_eq, comparePlaces]
  simp only [compareLex, comparePaths, compareOn, Ordering.isLE_then_iff_or, Nat.compare_eq_lt,
    Nat.compare_eq_eq, Nat.isLE_compare]

/-- Places that come before each other are in one file and at one line and column. -/
theorem same_of_locationLE (hab : locationLE a b = true) (hba : locationLE b a = true) :
    a.path.same b.path = true ∧ a.line = b.line ∧ a.column = b.column := by
  rw [locationLE_eq] at hab hba
  have heq : comparePlaces a b = .eq := OrientedCmp.isLE_antisymm hab hba
  rwa [comparePlaces, compareLex, compareLex, Ordering.then_eq_eq, Ordering.then_eq_eq,
    comparePaths, Path.compare_eq_eq_iff, compareOn, compareOn, Nat.compare_eq_eq,
    Nat.compare_eq_eq] at heq

/-! ### File by file -/

/-- The references to a symbol, file by file. -/
def placesOf (index : SymbolIndex) (id : SymbolId) : List SymbolLocation :=
  index.files.flatMap fun (path, refs) =>
    (refs.filter (·.symbol == id)).map fun r => ⟨path, r.line, r.column⟩

theorem references_of_idOf? {id : SymbolId} (h : index.idOf? name = some id) :
    index.references name = (index.placesOf id).mergeSort locationLE := by
  rw [references, h]
  rfl

theorem references_of_idOf?_eq_none (h : index.idOf? name = none) :
    index.references name = [] := by
  rw [references, h]

theorem hasPath_of_mem_placesOf {id : SymbolId} (h : a ∈ index.placesOf id) :
    index.HasPath a.path := by
  obtain ⟨file, hfile, hmem⟩ := List.mem_flatMap.1 h
  obtain ⟨ref, -, rfl⟩ := List.mem_map.1 hmem
  exact List.mem_map_of_mem hfile

/-- In files of which no two are at the same path, places that come before each other are equal. -/
theorem eq_of_locationLE (hdistinct : index.files.Pairwise Elsewhere) (ha : index.HasPath a.path)
    (hb : index.HasPath b.path) (hab : locationLE a b = true) (hba : locationLE b a = true) :
    a = b := by
  obtain ⟨hsame, hline, hcolumn⟩ := same_of_locationLE hab hba
  obtain ⟨path, line, column⟩ := a
  obtain ⟨path', line', column'⟩ := b
  obtain ⟨file, hfile, rfl⟩ := List.mem_map.1 ha
  obtain ⟨file', hfile', rfl⟩ := List.mem_map.1 hb
  obtain rfl := eq_of_elsewhere hdistinct hfile hfile' hsame
  exact congrArg₂ (SymbolLocation.mk _) hline hcolumn

theorem hasPath_of_mem_references (h : a ∈ index.references name) : index.HasPath a.path := by
  cases hid : index.idOf? name with
  | none =>
    rw [references_of_idOf?_eq_none hid] at h
    exact absurd h List.not_mem_nil
  | some id =>
    rw [references_of_idOf? hid, List.mem_mergeSort] at h
    exact hasPath_of_mem_placesOf h

/-- **A report is in order**: by path, and in each file by line and column. -/
theorem pairwise_references (hdistinct : index.files.Pairwise Elsewhere) (name : String) :
    (index.references name).Pairwise fun a b => a.path.compare b.path = .lt ∨
      a.path = b.path ∧ (a.line < b.line ∨ a.line = b.line ∧ a.column ≤ b.column) := by
  have hordered : (index.references name).Pairwise fun a b => locationLE a b = true := by
    cases hid : index.idOf? name with
    | none => exact references_of_idOf?_eq_none hid ▸ List.Pairwise.nil
    | some id =>
      rw [references_of_idOf? hid]
      exact List.pairwise_mergeSort locationLE_trans locationLE_total _
  refine hordered.imp_of_mem fun {a b} ha hb hle => ?_
  refine (locationLE_iff.1 hle).imp_right fun ⟨hsame, hrest⟩ => ⟨?_, hrest⟩
  obtain ⟨file, hfile, hpath⟩ := List.mem_map.1 (hasPath_of_mem_references ha)
  obtain ⟨file', hfile', hpath'⟩ := List.mem_map.1 (hasPath_of_mem_references hb)
  rw [← hpath, ← hpath'] at hsame ⊢
  rw [eq_of_elsewhere hdistinct hfile hfile' hsame]

/-- **The order in which the files are gone through does not matter.** -/
theorem references_eq_of_perm {files : List (Path × List Ref)}
    (hdistinct : index.files.Pairwise Elsewhere) (hperm : files.Perm index.files) (name : String) :
    ({ index with files := files } : SymbolIndex).references name = index.references name := by
  cases hid : index.idOf? name with
  | none =>
    rw [references_of_idOf?_eq_none hid]
    exact references_of_idOf?_eq_none hid
  | some id =>
    have hplaces : (placesOf { index with files := files } id).Perm (index.placesOf id) :=
      hperm.flatMap fun _ _ => List.Perm.refl _
    have hsorted (places : List SymbolLocation) :
        (places.mergeSort locationLE).Pairwise fun a b => locationLE a b = true :=
      List.pairwise_mergeSort locationLE_trans locationLE_total places
    have hid' : idOf? { index with files := files } name = some id := hid
    rw [references_of_idOf? hid, references_of_idOf? hid']
    refine List.Perm.eq_of_pairwise (fun a b ha hb => ?_) (hsorted _) (hsorted _)
      ((List.mergeSort_perm ..).trans (hplaces.trans (List.mergeSort_perm ..).symm))
    have ha : a ∈ index.placesOf id := hplaces.mem_iff.1 (List.mem_mergeSort.1 ha)
    exact eq_of_locationLE hdistinct (hasPath_of_mem_placesOf ha)
      (hasPath_of_mem_placesOf (List.mem_mergeSort.1 hb))

/-! ### Record by record -/

section Numbers

variable (hcount : data.names.eraseDups.length ≤ UInt32.size)
include hcount

/-- What a file holds of a symbol are the places of its records. -/
theorem perm_places_of_file {file : Path × List Ref} (hfile : file ∈ (ofData data base).files)
    (hname : name ∈ (ofData data base).names) :
    ((file.2.filter (·.symbol == numberIn (ofData data base).names name)).map fun r =>
        (⟨file.1, r.line, r.column⟩ : SymbolLocation)).Perm
      (((data.refs.filter (·.symbol == name)).filter (isIn base file.1)).map
        (data.placeOf base)) := by
  have hindexed := ((gathers_ofData data base).mem_paths file.1).1 (List.mem_map_of_mem hfile)
  have hnamed : (data.visited base file.1).filter
      ((·.symbol == numberIn (ofData data base).names name) ∘
        RefRecord.toRef (ofData data base).names) =
      (data.visited base file.1).filter (·.symbol == name) :=
    List.filter_congr fun record hrecord => by
      have hmem := symbol_mem_names data base (mem_refs_of_mem_visited hrecord)
      rw [Bool.eq_iff_iff, Function.comp_apply, beq_iff_eq, beq_iff_eq]
      exact numberIn_inj (length_names_ofData_le hcount) hmem hname
  have hplaces : ((data.visited base file.1).filter (·.symbol == name)).map
      ((fun r => (⟨file.1, r.line, r.column⟩ : SymbolLocation)) ∘
        RefRecord.toRef (ofData data base).names) =
      ((data.visited base file.1).filter (·.symbol == name)).map (data.placeOf base) :=
    List.map_congr_left fun record hrecord => by
      have hin := (List.mem_filter.1 (List.mem_mergeSort.1 (List.mem_of_mem_filter hrecord))).2
      rw [IndexData.placeOf, IndexData.fileOf_eq hindexed hin]
      rfl
  rw [refs_eq_of_mem_files hfile, List.filter_map, List.map_map, hnamed, hplaces, List.filter_comm]
  exact ((List.mergeSort_perm ..).filter _).map _

/-- **The references to a symbol are those of its records**, in whatever order. -/
theorem placesOf_perm (hname : name ∈ (ofData data base).names) :
    ((ofData data base).placesOf (numberIn (ofData data base).names name)).Perm
      ((data.refs.filter (·.symbol == name)).map (data.placeOf base)) := by
  have hgathers := gathers_ofData data base
  have hgroups : ((ofData data base).files.flatMap fun file =>
      (data.refs.filter (·.symbol == name)).filter (isIn base file.1)).Perm
        (data.refs.filter (·.symbol == name)) := by
    refine perm_flatMap_filter _ _ (hgathers.distinct.imp fun {a b} hab record hin => ?_)
      fun record hrecord => ?_
    · rw [isIn, Path.same_comm, Path.same_congr_right hin, Path.same_comm]
      exact hab
    · obtain ⟨path, hindexed, hin⟩ :=
        exists_indexes_of_mem base (List.mem_of_mem_filter hrecord)
      obtain ⟨file, hfile, rfl⟩ := List.mem_map.1 ((hgathers.mem_paths path).2 hindexed)
      exact ⟨file, hfile, hin⟩
  refine (List.Perm.flatMap_left _ fun file hfile => perm_places_of_file hcount hfile hname).trans ?_
  rw [← List.map_flatMap]
  exact hgroups.map _

/-- A report on a symbol lists the places of its records. -/
theorem references_perm (base : Option Path) (name : String) :
    ((ofData data base).references name).Perm
      ((data.refs.filter (·.symbol == name)).map (data.placeOf base)) := by
  by_cases hname : name ∈ (ofData data base).names
  · rw [references_of_idOf? (idOf?_of_mem hname)]
    exact (List.mergeSort_perm ..).trans (placesOf_perm hcount hname)
  · have hnone : data.refs.filter (·.symbol == name) = [] :=
      List.filter_eq_nil_iff.2 fun record hrecord heq => by
        rw [← eq_of_beq heq] at hname
        exact hname (symbol_mem_names data base hrecord)
    rw [references_of_idOf?_eq_none (idOf?_of_notMem hname), hnone]
    exact List.Perm.nil

/-! ### Finding a record again -/

/-- **A record is found at its start** in a file of its path. -/
theorem symbol_mem_symbolsAt {record : RefRecord} {file : SourceFile} {displayed : Path}
    (hrecord : record ∈ data.refs) (hcolumns : record.column < record.endColumn)
    (hfile : file.path = some displayed)
    (hsame : displayed.same (resolve base record.path) = true) :
    record.symbol ∈ (ofData data base).symbolsAt file record.line record.column := by
  obtain ⟨path, hindexed, hin⟩ := exists_indexes_of_mem base hrecord
  have hpath : path.same displayed = true := by
    rw [Path.same_congr_right hsame, Path.same_comm]
    exact hin
  have hanswers : (ofData data base).answeringPath? file = some path := by
    rw [answeringPath?_eq_some_iff (gathers_ofData data base).distinct, hasPath_ofData]
    exact ⟨displayed, hfile, .same hindexed hpath⟩
  have hvisited : record ∈ data.visited base path :=
    List.mem_mergeSort.2 (List.mem_filter.2 ⟨hrecord, hin⟩)
  have hcovers : record.covers record.line record.column = true := by
    simp [RefRecord.covers, hcolumns]
  rw [symbolsAt_eq hcount hanswers, List.mem_eraseDups]
  exact List.mem_map_of_mem (List.mem_filter.2 ⟨hvisited, hcovers⟩)

end Numbers

/-- **A report lists the records of its symbol.** The entries are sorted by path, line and column, and
they are the same in whatever order the files of the index are gone through. If there are numbers
for all names, there is an entry for each record that refers to the symbol and no other, with the
line and column of the record and the path that the first record of its file is written with; and in
a file of the path of a record a lookup at the start of the record finds its symbol, if the record
has any columns. -/
theorem references_report_records (data : IndexData) (base : Option Path) :
    let index := ofData data base
    (∀ name,
      ((index.source.references name).Pairwise fun a b => a.path.compare b.path = .lt ∨
          a.path = b.path ∧ (a.line < b.line ∨ a.line = b.line ∧ a.column ≤ b.column)) ∧
        ∀ files : List (Path × List Ref), files.Perm index.files →
          ({ index with files := files } : SymbolIndex).source.references name =
            index.source.references name) ∧
      (data.names.eraseDups.length ≤ UInt32.size →
        (∀ name, (index.source.references name).Perm
          ((data.refs.filter (·.symbol == name)).map (data.placeOf base))) ∧
        ∀ record ∈ data.refs, record.column < record.endColumn →
          ∀ (file : SourceFile) (displayed : Path), file.path = some displayed →
            displayed.same (resolve base record.path) = true →
              record.symbol ∈ index.source.symbolsAt file record.line record.column) := by
  have hdistinct := (gathers_ofData data base).distinct
  refine ⟨fun name => ⟨pairwise_references hdistinct name,
    fun files hperm => references_eq_of_perm hdistinct hperm name⟩,
    fun hcount => ⟨references_perm hcount base,
      fun record hrecord hcolumns file displayed hfile hsame => ?_⟩⟩
  exact symbol_mem_symbolsAt hcount hrecord hcolumns hfile hsame

/-- Two records of one file write its path in two ways, and the report has the first one for both.
Going through the files backwards changes nothing, and the record that is written in the second way
is found in a file whose path is written in a third one. -/
theorem references_report_records_two_spellings :
    let late : RefRecord := ⟨⟨"src//a.c"⟩, 2, 1, 2, "g"⟩
    let early : RefRecord := ⟨⟨"src/./a.c"⟩, 1, 5, 6, "g"⟩
    let data : IndexData := ⟨[], [late, ⟨⟨"b.c"⟩, 1, 1, 2, "g"⟩, ⟨⟨"b.c"⟩, 1, 1, 2, "f"⟩, early]⟩
    let index := ofData data (some ⟨"/p"⟩)
    let backwards : SymbolIndex := { index with files := index.files.reverse }
    let file : SourceFile := .ofText (some ⟨"/p/src/a.c"⟩) ['f', '(', 'x', ')', 'g']
    data.names.eraseDups.length ≤ UInt32.size ∧
      (index.source.references "g").Perm
        [⟨⟨"/p/src//a.c"⟩, 2, 1⟩, ⟨⟨"/p/b.c"⟩, 1, 1⟩, ⟨⟨"/p/src//a.c"⟩, 1, 5⟩] ∧
      backwards.source.references "g" = index.source.references "g" ∧
      early ∈ data.refs ∧ early.column < early.endColumn ∧
      (⟨"/p/src/a.c"⟩ : Path).same (resolve (some ⟨"/p"⟩) early.path) = true ∧
      "g" ∈ index.source.symbolsAt file 1 5 := by
  intro late early data index backwards file
  have hcount : data.names.eraseDups.length ≤ UInt32.size := by decide
  obtain ⟨hordered, hreport⟩ := references_report_records data (some ⟨"/p"⟩)
  obtain ⟨hperm, hfound⟩ := hreport hcount
  have hplaces : (data.refs.filter (·.symbol == "g")).map (data.placeOf (some ⟨"/p"⟩)) =
      [⟨⟨"/p/src//a.c"⟩, 2, 1⟩, ⟨⟨"/p/b.c"⟩, 1, 1⟩, ⟨⟨"/p/src//a.c"⟩, 1, 5⟩] := by
    decide +kernel
  have hrecord : early ∈ data.refs := by decide
  have hcolumns : early.column < early.endColumn := by decide
  have hsame : (⟨"/p/src/a.c"⟩ : Path).same (resolve (some ⟨"/p"⟩) early.path) = true := by
    decide +kernel
  exact ⟨hcount, hplaces ▸ hperm "g", (hordered "g").2 _ (List.reverse_perm _), hrecord, hcolumns,
    hsame, hfound early hrecord hcolumns file _ rfl hsame⟩

/-! ### More names than numbers -/

theorem references_congr {other : String} (h : index.idOf? name = index.idOf? other) :
    index.references name = index.references other := by
  rw [references, references, h]

/-- So many records in a file, each on a line of its own and of a name of its own. -/
def decimalRefs (count : Nat) : List RefRecord :=
  (List.range count).map fun place => ⟨⟨"a.c"⟩, place + 1, 1, 2, place.repr⟩

theorem names_decimalRefs (count : Nat) :
    (ofData ⟨[], decimalRefs count⟩ base).names = decimalNames count := by
  rw [names_ofData, ← eraseDups_decimalNames, IndexData.names, decimalRefs, List.map_nil,
    List.nil_append, List.map_map]
  rfl

/-- With more names than numbers, the report on the first name too many lists the record of the first
name of all. -/
theorem not_references_perm {count : Nat} (hcount : UInt32.size < count) (base : Option Path) :
    let data : IndexData := ⟨[], decimalRefs count⟩
    ¬ ∀ name, ((ofData data base).source.references name).Perm
      ((data.refs.filter (·.symbol == name)).map (data.placeOf base)) := by
  intro data hperm
  let first : RefRecord := ⟨⟨"a.c"⟩, 0 + 1, 1, 2, Nat.repr 0⟩
  have hrange : 0 ∈ List.range count := List.mem_range.2 (Nat.zero_lt_of_lt hcount)
  have hfirst : first ∈ decimalRefs count := List.mem_map.2 ⟨0, hrange, rfl⟩
  have hlisted := (hperm (Nat.repr 0)).mem_iff.2
    (List.mem_map_of_mem (List.mem_filter.2 ⟨hfirst, beq_self_eq_true _⟩))
  have hsame : (ofData data base).source.references (Nat.repr UInt32.size) =
      (ofData data base).source.references (Nat.repr 0) :=
    references_congr (idOf?_repr_size hcount (names_decimalRefs count))
  rw [← hsame] at hlisted
  obtain ⟨last, hlast, hplace⟩ := List.mem_map.1 ((hperm _).mem_iff.1 hlisted)
  obtain ⟨hlast, hname⟩ := List.mem_filter.1 hlast
  obtain ⟨place, -, rfl⟩ := List.mem_map.1 hlast
  have hzero : place = 0 := Nat.succ.inj (congrArg SymbolLocation.line hplace)
  have hsize : place = UInt32.size := repr_injective (eq_of_beq hname)
  exact absurd (hsize.symm.trans hzero) (by decide)

/-- One record too many for the numbers: not every report lists the records of its symbol. And a
record may be missed in a file that goes by the path that the record is written with, where that
path is relative to the directory of the index and another record's path ends with it. -/
theorem references_beyond_records :
    let many : IndexData := ⟨[], decimalRefs (UInt32.size + 1)⟩
    let two : IndexData := ⟨[], [⟨⟨"a.c"⟩, 1, 1, 2, "f"⟩, ⟨⟨"/y/a.c"⟩, 1, 1, 2, "g"⟩]⟩
    (¬ ∀ name, ((ofData many none).source.references name).Perm
        ((many.refs.filter (·.symbol == name)).map (many.placeOf none))) ∧
      (ofData two (some ⟨"/z"⟩)).source.symbolsAt (.ofText (some ⟨"a.c"⟩) ['f']) 1 1 = ["g"] := by
  intro many two
  exact ⟨not_references_perm (Nat.lt_succ_self UInt32.size) none, by decide +kernel⟩

end SymbolIndex

end CodeBrowser
