import CodeBrowser.Proofs.Index.Names
import CodeBrowser.Proofs.Path.Components
import Mathlib.Data.List.Pairwise

/-!
# The files of an index

References are gathered by the files that they are in. A file goes by the path of its first record,
and the records with the same components are its records however they are written. No record is
lost, repeated or put into another file: what a file holds is what is left of all records when those
of other files are left out.

## Main definitions

* `RefRecord.isIn`, `Indexes`: the file of a record, and the paths that files go by.
* `RefRecord.toRef`: the reference of a record, its symbol numbered by some names.
* `Gathers`: some files hold the records of some list.
* `SymbolIndex.answeringPath?`: the path of the indexed file that answers for a file.

## Main results

* `Gathers.addToFile`: adding a reference adds its record.
* `gathers_foldl_addRef`, `gathers_ofData`: the files of an index hold its records.
-/

namespace CodeBrowser

namespace RefRecord

/-- Whether a record is of the file at a path. -/
def isIn (base : Option Path) (path : Path) (record : RefRecord) : Bool :=
  (SymbolIndex.resolve base record.path).same path

/-- The reference of a record, its symbol numbered by its place among some names. -/
def toRef (names : List String) (record : RefRecord) : Ref :=
  ⟨record.line, record.column, record.endColumn, SymbolIndex.numberIn names record.symbol⟩

/-- Whether a record stands at or before the start of another. -/
def startsBefore (a b : RefRecord) : Bool := SymbolIndex.startsBefore (a.toRef []) (b.toRef [])

end RefRecord

open RefRecord SymbolIndex

variable {base : Option Path} {records : List RefRecord} {record : RefRecord} {path : Path}

/-- The records have a file at the path, which is written as in the first of its records. -/
def Indexes (base : Option Path) (records : List RefRecord) (path : Path) : Prop :=
  (records.find? (isIn base path)).map (resolve base ·.path) = some path

/-- Two files are at different paths. -/
def Elsewhere (a b : Path × List Ref) : Prop := a.1.same b.1 = false

instance : Std.Symm Elsewhere :=
  ⟨fun a b h => (Path.same_comm b.1 a.1).trans h⟩

theorem eq_of_elsewhere {files : List (Path × List Ref)} (h : files.Pairwise Elsewhere)
    {a b : Path × List Ref} (ha : a ∈ files) (hb : b ∈ files) (hsame : a.1.same b.1 = true) :
    a = b := by
  by_contra hne
  exact Bool.noConfusion (hsame.symm.trans (h.forall ha hb hne))

/-- The files hold the records: each holds what is made of the records that are of its path, no two
are at the same path, and there is one for each path of the records. -/
structure Gathers (base : Option Path) (refsOf : List RefRecord → List Ref)
    (records : List RefRecord) (files : List (Path × List Ref)) : Prop where
  refs_eq : ∀ file ∈ files, file.2 = refsOf (records.filter (isIn base file.1))
  distinct : files.Pairwise Elsewhere
  mem_paths : ∀ path, path ∈ files.map (·.1) ↔ Indexes base records path

/-! ### The paths of records -/

/-- Records are of the same path however it is written. -/
theorem isIn_congr {p q : Path} (h : p.same q = true) : isIn base p = isIn base q :=
  funext fun _ => Path.same_congr_right h _

/-- The file of each record has a path. -/
theorem exists_indexes_of_mem (base : Option Path) (h : record ∈ records) :
    ∃ path, Indexes base records path ∧ isIn base path record = true := by
  have hself : isIn base (resolve base record.path) record = true := Path.same_self _
  obtain ⟨first, hfirst⟩ := Option.isSome_iff_exists.1 (List.find?_isSome.2 ⟨record, h, hself⟩)
  have hsame := List.find?_some hfirst
  refine ⟨resolve base first.path, ?_, ?_⟩
  · rw [Indexes, isIn_congr hsame, hfirst]
    rfl
  · rwa [isIn_congr hsame]

theorem Indexes.exists_isIn (h : Indexes base records path) :
    ∃ record ∈ records, isIn base path record = true := by
  obtain ⟨first, hfirst, -⟩ := Option.map_eq_some_iff.1 h
  exact ⟨first, List.mem_of_find?_eq_some hfirst, List.find?_some hfirst⟩

/-- Another record is of a path of the records before it, or it has a path of its own. -/
theorem indexes_append_singleton :
    Indexes base (records ++ [record]) path ↔
      Indexes base records path ∨
        (∀ earlier ∈ records, isIn base path earlier = false) ∧
          resolve base record.path = path := by
  unfold Indexes
  rw [List.find?_append]
  cases hfind : records.find? (isIn base path) with
  | some first =>
    refine ⟨Or.inl, fun h => h.elim id fun ⟨hnone, _⟩ => ?_⟩
    have hfirst := List.find?_some hfind
    exact absurd (hnone first (List.mem_of_find?_eq_some hfind)) (by simp [hfirst])
  | none =>
    have hnone : ∀ earlier ∈ records, isIn base path earlier = false := by
      simpa using List.find?_eq_none.1 hfind
    rw [Option.none_or, List.find?_singleton]
    split_ifs with hrecord
    · simpa using fun _ => hnone
    · have hne : resolve base record.path ≠ path := fun heq => hrecord (heq ▸ Path.same_self _)
      simp [hne]

/-! ### Adding a reference -/

/-- A reference put behind those of a file, if it is of the path of the file. -/
def appendRef (path : Path) (r : Ref) (file : Path × List Ref) : Path × List Ref :=
  if file.1.same path then (file.1, file.2 ++ [r]) else file

theorem appendRef_fst (path : Path) (r : Ref) (file : Path × List Ref) :
    (appendRef path r file).1 = file.1 := by
  unfold appendRef
  split_ifs <;> rfl

theorem map_appendRef_of_forall {path : Path} {r : Ref} {files : List (Path × List Ref)}
    (h : ∀ file ∈ files, file.1.same path = false) : files.map (appendRef path r) = files :=
  (List.map_congr_left fun file hfile => if_neg (by simp [h file hfile])).trans (List.map_id files)

theorem addToFile_of_forall (path : Path) (r : Ref) : (files : List (Path × List Ref)) →
    (∀ file ∈ files, file.1.same path = false) → addToFile path r files = files ++ [(path, [r])]
  | [], _ => rfl
  | (p, refs) :: files, h => by
      obtain ⟨hfirst, hrest⟩ := List.forall_mem_cons.1 h
      rw [addToFile, if_neg (by simp [hfirst]), addToFile_of_forall path r files hrest]
      rfl

/-- If no two files are at the same path, then one file at most gets the reference. -/
theorem addToFile_of_exists (path : Path) (r : Ref) : (files : List (Path × List Ref)) →
    files.Pairwise Elsewhere → (∃ file ∈ files, file.1.same path = true) →
      addToFile path r files = files.map (appendRef path r)
  | [], _, h => by simp at h
  | (p, refs) :: files, hdistinct, h => by
      obtain ⟨hfirst, hrest⟩ := List.pairwise_cons.1 hdistinct
      rw [addToFile, List.map_cons, appendRef]
      split_ifs with hsame
      · have hother : ∀ file ∈ files, file.1.same path = false := fun file hfile => by
          rw [← Path.same_congr_right hsame, Path.same_comm]
          exact hfirst file hfile
        rw [map_appendRef_of_forall hother]
      · have hlater : ∃ file ∈ files, file.1.same path = true := by
          simpa [hsame] using h
        rw [addToFile_of_exists path r files hrest hlater]

namespace Gathers

variable {refsOf : List RefRecord → List Ref} {toRef : RefRecord → Ref}
  {files : List (Path × List Ref)}

theorem nil (base : Option Path) (toRef : RefRecord → Ref) :
    Gathers base (List.map toRef) [] [] where
  refs_eq _ h := absurd h List.not_mem_nil
  distinct := List.Pairwise.nil
  mem_paths _ := by simp [Indexes]

/-- A path that no file is at is not that of a record. -/
theorem isIn_eq_false (h : Gathers base refsOf records files)
    (hnew : ∀ file ∈ files, file.1.same path = false) :
    ∀ earlier ∈ records, isIn base path earlier = false := by
  intro earlier hearlier
  obtain ⟨indexed, hindexed, hin⟩ := exists_indexes_of_mem base hearlier
  obtain ⟨file, hfile, rfl⟩ := List.mem_map.1 ((h.mem_paths indexed).2 hindexed)
  rw [isIn, Path.same_comm, Path.same_congr_right hin, Path.same_comm]
  exact hnew file hfile

/-- Adding a reference to a file that is there adds its record. -/
theorem map_appendRef (h : Gathers base (List.map toRef) records files) (record : RefRecord)
    (hknown : ∃ file ∈ files, file.1.same (resolve base record.path) = true) :
    Gathers base (List.map toRef) (records ++ [record])
      (files.map (appendRef (resolve base record.path) (toRef record))) where
  refs_eq := List.forall_mem_map.2 fun file hfile => by
    rw [appendRef_fst, List.filter_append, List.map_append, ← h.refs_eq file hfile, appendRef]
    split_ifs with hsame
    · simp [isIn, Path.same_comm _ file.1, hsame]
    · simp [isIn, Path.same_comm _ file.1, hsame]
  distinct := List.pairwise_map.2 <| h.distinct.imp fun {a b} hab => by
    rwa [Elsewhere, appendRef_fst, appendRef_fst]
  mem_paths path := by
    have hpaths : (files.map (appendRef (resolve base record.path) (toRef record))).map (·.1) =
        files.map (·.1) := by
      rw [List.map_map]
      exact List.map_congr_left fun file _ => appendRef_fst ..
    -- A file has a record already, so a path that is the same as its path is no new one.
    obtain ⟨file, hfile, hsame⟩ := hknown
    obtain ⟨earlier, hearlier, hin⟩ :=
      ((h.mem_paths file.1).1 (List.mem_map_of_mem hfile)).exists_isIn
    rw [hpaths, h.mem_paths, indexes_append_singleton]
    refine ⟨Or.inl, fun hor => hor.elim id fun ⟨hnone, hpath⟩ => ?_⟩
    rw [isIn_congr (hpath ▸ hsame), hnone earlier hearlier] at hin
    exact Bool.noConfusion hin

/-- Adding a reference to a file that is not there yet adds the file with its record. -/
theorem append_singleton (h : Gathers base (List.map toRef) records files) (record : RefRecord)
    (hnew : ∀ file ∈ files, file.1.same (resolve base record.path) = false) :
    Gathers base (List.map toRef) (records ++ [record])
      (files ++ [(resolve base record.path, [toRef record])]) where
  refs_eq := by
    refine List.forall_mem_append.2 ⟨fun file hfile => ?_, List.forall_mem_singleton.2 ?_⟩
    · have hother : isIn base file.1 record = false := (Path.same_comm ..).trans (hnew file hfile)
      simp [h.refs_eq file hfile, hother]
    · have hnone := List.filter_eq_nil_iff.2 fun earlier hearlier =>
        Bool.eq_false_iff.1 (h.isIn_eq_false hnew earlier hearlier)
      rw [List.filter_append, hnone]
      simp [isIn, Path.same_self]
  distinct := List.pairwise_append.2
    ⟨h.distinct, List.pairwise_singleton .., fun file hfile other hother =>
      List.mem_singleton.1 hother ▸ hnew file hfile⟩
  mem_paths path := by
    rw [List.map_append, List.mem_append, h.mem_paths, indexes_append_singleton]
    refine or_congr_right ⟨fun hpath => ?_, fun ⟨_, hpath⟩ => by simp [hpath]⟩
    obtain rfl : path = resolve base record.path := by simpa using hpath
    exact ⟨h.isIn_eq_false hnew, rfl⟩

/-- **Adding a reference adds its record** to the file that the record is of. -/
theorem addToFile (h : Gathers base (List.map toRef) records files) (record : RefRecord) :
    Gathers base (List.map toRef) (records ++ [record])
      (addToFile (resolve base record.path) (toRef record) files) := by
  by_cases hknown : ∃ file ∈ files, file.1.same (resolve base record.path) = true
  · rw [addToFile_of_exists _ _ files h.distinct hknown]
    exact h.map_appendRef record hknown
  · have hnew : ∀ file ∈ files, file.1.same (resolve base record.path) = false := by
      simpa using hknown
    rw [addToFile_of_forall _ _ files hnew]
    exact h.append_singleton record hnew

/-- Changing the references of each file in one way changes what is made of its records. -/
theorem map_refs (h : Gathers base refsOf records files) (change : List Ref → List Ref) :
    Gathers base (change ∘ refsOf) records (files.map fun file => (file.1, change file.2)) where
  refs_eq := List.forall_mem_map.2 fun file hfile => congrArg change (h.refs_eq file hfile)
  distinct := List.pairwise_map.2 h.distinct
  mem_paths path := by
    rw [← h.mem_paths, List.map_map]
    rfl

end Gathers

/-! ### Gathering all records -/

namespace SymbolIndex

variable {index : SymbolIndex} {names : List String}

/-- The files once a record is added, its symbol numbered as at the end. -/
theorem files_addRef (h : (addRef base index record).names <+: names) :
    (addRef base index record).files =
      addToFile (resolve base record.path) (record.toRef names) index.files := by
  have hid : (index.intern record.symbol).2 = numberIn names record.symbol := by
    rw [names_addRef] at h
    rw [intern_snd]
    exact numberIn_eq_of_prefix h (mem_addName_self ..)
  rw [RefRecord.toRef, ← hid, ← files_intern index record.symbol]
  rfl

/-- The files of the records added one by one to an index without files. -/
theorem gathers_foldl_addRef (hfiles : index.files = []) (records : List RefRecord)
    (h : (records.foldl (addRef base) index).names <+: names) :
    Gathers base (List.map (RefRecord.toRef names)) records
      (records.foldl (addRef base) index).files := by
  -- Names are only put behind others, so the names at each record are a prefix of those at the end
  -- and the number that a symbol gets is its number there.
  induction records using List.reverseRecOn with
  | nil =>
    rw [List.foldl_nil, hfiles]
    exact Gathers.nil ..
  | append_singleton records record ih =>
    rw [List.foldl_append, List.foldl_cons, List.foldl_nil] at h ⊢
    rw [files_addRef h]
    rw [names_addRef] at h
    exact (ih ((prefix_addName ..).trans h)).addToFile record

theorem files_foldl_addSymbol (records : List SymbolRecord) (index : SymbolIndex) :
    (records.foldl (addSymbol base) index).files = index.files :=
  List.foldlRecOn records (addSymbol base) (motive := fun later => later.files = index.files) rfl
    fun later hlater record _ => (files_addSymbol later record).trans hlater

/-- **The files of an index hold its records**, those of each file sorted by line and column. -/
theorem gathers_ofData (data : IndexData) (base : Option Path) :
    Gathers base
      (fun records => (records.mergeSort RefRecord.startsBefore).map
        (RefRecord.toRef (ofData data base).names))
      data.refs (ofData data base).files := by
  have hunsorted : Gathers base (List.map (RefRecord.toRef (ofData data base).names)) data.refs
      (data.refs.foldl (addRef base) (data.symbols.foldl (addSymbol base) empty)).files :=
    gathers_foldl_addRef (files_foldl_addSymbol data.symbols empty) data.refs List.prefix_rfl
  have hsort : (fun records => (records.mergeSort RefRecord.startsBefore).map
      (RefRecord.toRef (ofData data base).names)) =
      (List.mergeSort · SymbolIndex.startsBefore) ∘
        List.map (RefRecord.toRef (ofData data base).names) :=
    funext fun records => List.map_mergeSort fun _ _ _ _ => rfl
  rw [hsort]
  exact hunsorted.map_refs _

/-! ### The file that answers -/

/-- The path of the indexed file that answers for a file. -/
def answeringPath? (index : SymbolIndex) (file : SourceFile) : Option Path :=
  (file.path.bind index.answering?).map (·.1)

variable {file : SourceFile}

/-- The references in a file are those of the file that answers for it. -/
theorem mem_files_of_answeringPath? (h : index.answeringPath? file = some path) :
    (path, index.refsFor file) ∈ index.files := by
  obtain ⟨answering, hanswering, rfl⟩ := Option.map_eq_some_iff.1 h
  rw [refsFor, hanswering]
  obtain ⟨displayed, -, hindexed⟩ := Option.bind_eq_some_iff.1 hanswering
  exact mem_files_of_answering? hindexed

theorem refsFor_of_answeringPath?_eq_none (h : index.answeringPath? file = none) :
    index.refsFor file = [] := by
  rw [refsFor, Option.map_eq_none_iff.1 h]

end SymbolIndex

end CodeBrowser
