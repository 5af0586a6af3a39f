import CodeBrowser.Proofs.Index.Files

/-!
# Indexes as a scan of their records

What an index says of a file could be found without the index, by going through the records: leave
out those of other files, sort the rest by line and column, and read their names off. Numbering the
names and gathering the references by files changes nothing of that.

## Main definitions

* `RefRecord.covers`: whether a record covers a line and column.
* `IndexData.visited`: the records of a path, in the order in which they are visited.
* `Visits`: what that order is.
* `SymbolIndex.StandsFor`: a reference says what a record says.

## Main results

* `visits_mergeSort`: records are visited by line and column, and as recorded where these agree.
* `SymbolIndex.refsFor_eq`, `SymbolIndex.symbolsAt_eq`: what an index says, by the records visited.
* `SymbolIndex.source_scans_records`: an index answers as a scan of its records does.
-/

namespace CodeBrowser

namespace RefRecord

/-- Whether a record covers a line and column. -/
def covers (line column : Nat) (record : RefRecord) : Bool :=
  record.line == line && record.column ≤ column && column < record.endColumn

/-- Whether a record starts at a line and column. -/
def startsAt (line column : Nat) (record : RefRecord) : Bool :=
  record.line == line && record.column == column

theorem startsBefore_iff {a b : RefRecord} :
    a.startsBefore b = true ↔ a.line < b.line ∨ a.line = b.line ∧ a.column ≤ b.column := by
  rw [startsBefore, SymbolIndex.startsBefore, Bool.or_eq_true, Bool.and_eq_true,
    decide_eq_true_eq, decide_eq_true_eq, beq_iff_eq]
  rfl

theorem startsBefore_trans (a b c : RefRecord) :
    a.startsBefore b = true → b.startsBefore c = true → a.startsBefore c = true :=
  SymbolIndex.startsBefore_trans _ _ _

theorem startsBefore_total (a b : RefRecord) : (a.startsBefore b || b.startsBefore a) = true :=
  SymbolIndex.startsBefore_total _ _

theorem startsBefore_of_startsAt {line column : Nat} {a b : RefRecord}
    (ha : a.startsAt line column = true) (hb : b.startsAt line column = true) :
    a.startsBefore b = true := by
  simp only [startsAt, Bool.and_eq_true, beq_iff_eq] at ha hb
  rw [startsBefore_iff]
  omega

end RefRecord

open RefRecord (isIn)

/-- The records of a path, in the order in which they are visited. -/
def IndexData.visited (data : IndexData) (base : Option Path) (path : Path) : List RefRecord :=
  (data.refs.filter (isIn base path)).mergeSort RefRecord.startsBefore

/-- The records are visited one by one: by line and column, and in the given order where these
agree. -/
structure Visits (records visited : List RefRecord) : Prop where
  perm : visited.Perm records
  ordered : visited.Pairwise fun a b => a.line < b.line ∨ a.line = b.line ∧ a.column ≤ b.column
  ties : ∀ line column, visited.filter (RefRecord.startsAt line column) =
    records.filter (RefRecord.startsAt line column)

/-- Sorting the records leaves those of one start as they are. -/
theorem filter_startsAt_mergeSort (records : List RefRecord) (line column : Nat) :
    (records.mergeSort RefRecord.startsBefore).filter (RefRecord.startsAt line column) =
      records.filter (RefRecord.startsAt line column) := by
  have hpairwise : (records.filter (RefRecord.startsAt line column)).Pairwise
      fun a b => a.startsBefore b = true :=
    List.pairwise_of_forall_mem_list fun a ha b hb =>
      RefRecord.startsBefore_of_startsAt (List.mem_filter.1 ha).2 (List.mem_filter.1 hb).2
  -- They are in order as they stand, so sorting does not move them past each other; and it moves no
  -- other record among them.
  have hsublist := List.sublist_mergeSort RefRecord.startsBefore_trans
    RefRecord.startsBefore_total hpairwise List.filter_sublist
  have hfilter := hsublist.filter (RefRecord.startsAt line column)
  simp only [List.filter_filter, Bool.and_self] at hfilter
  exact (hfilter.eq_of_length ((List.mergeSort_perm ..).filter _).length_eq.symm).symm

/-- **Sorted records are visited in order.** -/
theorem visits_mergeSort (records : List RefRecord) :
    Visits records (records.mergeSort RefRecord.startsBefore) where
  perm := List.mergeSort_perm ..
  ordered := (List.pairwise_mergeSort RefRecord.startsBefore_trans RefRecord.startsBefore_total
    records).imp RefRecord.startsBefore_iff.1
  ties := filter_startsAt_mergeSort records

namespace SymbolIndex

variable {base : Option Path} {file : SourceFile} {path : Path}

/-- A reference says what a record says, and its symbol is one of the index. -/
structure StandsFor (index : SymbolIndex) (ref : Ref) (record : RefRecord) : Prop where
  line_eq : ref.line = record.line
  column_eq : ref.column = record.column
  endColumn_eq : ref.endColumn = record.endColumn
  symbol_lt : ref.symbol.toNat < index.symbolCount
  name_eq : (index.symbol? ref.symbol).map (·.name) = some record.symbol

/-- The references of an indexed file are those of the records visited. -/
theorem refs_eq_of_mem_files {data : IndexData} {indexed : Path × List Ref}
    (h : indexed ∈ (ofData data base).files) :
    indexed.2 = (data.visited base indexed.1).map (RefRecord.toRef (ofData data base).names) :=
  (gathers_ofData data base).refs_eq indexed h

/-- The references in a file are those of the records visited. -/
theorem refsFor_eq (data : IndexData) (h : (ofData data base).answeringPath? file = some path) :
    (ofData data base).refsFor file =
      (data.visited base path).map (RefRecord.toRef (ofData data base).names) :=
  refs_eq_of_mem_files (mem_files_of_answeringPath? h)

theorem symbol_mem_names (data : IndexData) (base : Option Path) {record : RefRecord}
    (h : record ∈ data.refs) : record.symbol ∈ (ofData data base).names := by
  rw [names_ofData, List.mem_eraseDups]
  exact List.mem_append_right _ (List.mem_map_of_mem h)

/-- A record of the visited ones is a record. -/
theorem mem_refs_of_mem_visited {data : IndexData} {record : RefRecord}
    (h : record ∈ data.visited base path) : record ∈ data.refs :=
  List.mem_of_mem_filter (List.mem_mergeSort.1 h)

theorem symbolsAt_of_answeringPath?_eq_none {index : SymbolIndex}
    (h : index.answeringPath? file = none) (line column : Nat) :
    index.symbolsAt file line column = [] := by
  simp [symbolsAt, refsFor_of_answeringPath?_eq_none h]

theorem symbol_lt_of_mem_refsFor (data : IndexData) {ref : Ref}
    (h : ref ∈ (ofData data base).refsFor file) :
    ref.symbol.toNat < (ofData data base).symbolCount := by
  obtain ⟨entry, hentry⟩ := (wellFormed_ofData data base).exists_symbol?_eq h
  exact (List.getElem?_eq_some_iff.1 hentry).1

/-! ### With numbers for all names -/

section Numbers

variable {data : IndexData} (hcount : data.names.eraseDups.length ≤ UInt32.size)
include hcount

theorem length_names_ofData_le : (ofData data base).names.length ≤ UInt32.size := by
  rwa [names_ofData]

/-- A name is found again by its number. -/
theorem name_symbol?_numberIn {name : String} (h : name ∈ (ofData data base).names) :
    ((ofData data base).symbol? (numberIn (ofData data base).names name)).map (·.name) =
      some name := by
  rw [symbol?_numberIn (length_names_ofData_le hcount) h]
  exact (List.getElem?_map ..).symm.trans (List.getElem?_idxOf h)

theorem standsFor_toRef {record : RefRecord} (h : record ∈ data.refs) :
    (ofData data base).StandsFor (record.toRef (ofData data base).names) record where
  line_eq := rfl
  column_eq := rfl
  endColumn_eq := rfl
  symbol_lt := by
    have hname := symbol_mem_names data base h
    rw [RefRecord.toRef, toNat_numberIn (length_names_ofData_le hcount) hname, ← length_names]
    exact List.idxOf_lt_length_of_mem hname
  name_eq := name_symbol?_numberIn hcount (symbol_mem_names data base h)

/-- The names at a line and column are those of the visited records that cover them. -/
theorem symbolsAt_eq (h : (ofData data base).answeringPath? file = some path)
    (line column : Nat) :
    (ofData data base).symbolsAt file line column =
      (((data.visited base path).filter (RefRecord.covers line column)).map
        (·.symbol)).eraseDups := by
  have hcovers : covers line column ∘ RefRecord.toRef (ofData data base).names =
      RefRecord.covers line column := rfl
  rw [symbolsAt, foldl_addName_nil, refsFor_eq data h, List.filter_map, List.filterMap_map, hcovers]
  congr 1
  rw [← List.filterMap_eq_map]
  refine List.filterMap_congr fun record hrecord => ?_
  have hmem := mem_refs_of_mem_visited (List.mem_of_mem_filter hrecord)
  exact (standsFor_toRef hcount hmem).name_eq

/-- The references in a file stand for the records visited, one by one. -/
theorem forall₂_standsFor (h : (ofData data base).answeringPath? file = some path) :
    List.Forall₂ (ofData data base).StandsFor ((ofData data base).refsFor file)
      (data.visited base path) := by
  rw [refsFor_eq data h, List.forall₂_map_left_iff, List.forall₂_same]
  exact fun record hrecord => standsFor_toRef hcount (mem_refs_of_mem_visited hrecord)

end Numbers

/-- **An index answers as a scan of its records does.** Let there be fewer names than numbers. For a
file that some path answers for, the references are one for each record of that path and no other,
by line and column and as recorded where these agree, and say what the records say; the names at a
line and column are those of the records that cover them, each where it is first met. Every number
in a reference is that of a symbol, and each name has a number by which its own symbol is found. A
file that no path answers for has neither references nor names. -/
theorem source_scans_records (data : IndexData) (base : Option Path) (file : SourceFile)
    (h : data.names.eraseDups.length < UInt32.size) :
    let index := ofData data base
    (∀ path, index.answeringPath? file = some path →
      ∃ visited, Visits (data.refs.filter (isIn base path)) visited ∧
        List.Forall₂ index.StandsFor (index.source.fileRefs file) visited ∧
        ∀ line column, index.source.symbolsAt file line column =
          ((visited.filter (RefRecord.covers line column)).map (·.symbol)).eraseDups) ∧
      (∀ ref ∈ index.source.fileRefs file, ref.symbol.toNat < index.symbolCount) ∧
      (∀ name ∈ data.names, ∃ id, index.idOf? name = some id ∧
        (index.symbol? id).map (·.name) = some name) ∧
      (index.answeringPath? file = none → index.source.fileRefs file = [] ∧
        ∀ line column, index.source.symbolsAt file line column = []) := by
  have hcount : data.names.eraseDups.length ≤ UInt32.size := Nat.le_of_lt h
  refine ⟨fun path hpath => ?_, fun ref => symbol_lt_of_mem_refsFor data, fun name hname => ?_,
    fun hnone => ?_⟩
  · exact ⟨data.visited base path, visits_mergeSort _, forall₂_standsFor hcount hpath,
      symbolsAt_eq hcount hpath⟩
  · have hmem : name ∈ (ofData data base).names := by
      rwa [names_ofData, List.mem_eraseDups]
    exact ⟨_, idOf?_of_mem hmem, name_symbol?_numberIn hcount hmem⟩
  · exact ⟨refsFor_of_answeringPath?_eq_none hnone, symbolsAt_of_answeringPath?_eq_none hnone⟩

/-- The records of one file may write its path in several ways. The first way is the one that the
file goes by, and a file displayed by an ending of the path has the references of them all. -/
theorem source_scans_records_two_spellings :
    let data : IndexData :=
      ⟨[⟨"f", some .function, none⟩],
        [⟨⟨"src//a.c"⟩, 2, 1, 2, "g"⟩, ⟨⟨"b.c"⟩, 1, 1, 2, "g"⟩, ⟨⟨"src/./a.c"⟩, 1, 5, 6, "f"⟩]⟩
    let index := ofData data (some ⟨"/p"⟩)
    let file : SourceFile := .ofText (some ⟨"a.c"⟩) ['g']
    data.names.eraseDups.length < UInt32.size ∧ index.answeringPath? file = some ⟨"/p/src//a.c"⟩ ∧
      ∃ visited, Visits [data.refs[0], data.refs[2]] visited ∧
        List.Forall₂ index.StandsFor (index.source.fileRefs file) visited ∧
        ∀ line column, index.source.symbolsAt file line column =
          ((visited.filter (RefRecord.covers line column)).map (·.symbol)).eraseDups := by
  intro data index file
  have hnames : data.names.eraseDups.length < UInt32.size := by decide
  have hpath : index.answeringPath? file = some ⟨"/p/src//a.c"⟩ := by decide +kernel
  have hrecords : data.refs.filter (isIn (some ⟨"/p"⟩) ⟨"/p/src//a.c"⟩) =
      [data.refs[0], data.refs[2]] := by decide +kernel
  have hscan := (source_scans_records data (some ⟨"/p"⟩) file hnames).1 _ hpath
  rw [hrecords] at hscan
  exact ⟨hnames, hpath, hscan⟩

end SymbolIndex

end CodeBrowser
