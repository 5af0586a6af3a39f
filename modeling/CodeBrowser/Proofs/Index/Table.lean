import CodeBrowser.Index.Table
import Mathlib.Data.List.Nodup

/-!
# Gathered indexes

An index is gathered record by record. Each record leaves the symbols with one number for each name,
the categories with those of all symbols and the references with symbols that the index has. Sorting
at the end puts the references of each file in the order of their lines.

## Main definitions

* `SymbolIndex.WellFormed`: what every gathered index satisfies.

## Main results

* `SymbolIndex.wellFormed_ofData`: an index is well-formed, whatever its records.
* `SymbolIndex.pairwise_startsBefore_refsFor`: the references in a file are in order.
* `SymbolIndex.mem_symbolsAt`: the names at a line and column.
-/

namespace CodeBrowser

namespace SymbolIndex

/-- No two symbols of the index have one name, it lists every category that a symbol has, and its
references are to its own symbols. -/
structure WellFormed (index : SymbolIndex) : Prop where
  nodup_names : (index.symbols.map (·.name)).Nodup
  category_mem : ∀ entry ∈ index.symbols, ∀ category, entry.category = some category →
    category ∈ index.categories
  symbol_lt : ∀ indexed ∈ index.files, ∀ ref ∈ indexed.2, ref.symbol.toNat < index.symbols.length

variable {index : SymbolIndex} {base : Option Path} {file : SourceFile}

/-! ### Names -/

/-- A place cut down to a number of 32 bits is no later place. -/
theorem toNat_ofNat_le (place : Nat) : (UInt32.ofNat place).toNat ≤ place := by
  rw [UInt32.toNat_ofNat']
  exact Nat.mod_le ..

/-- A name either has a number already or gets that of the next place. -/
theorem intern_cases (index : SymbolIndex) (name : String) :
    (∃ id : SymbolId, id.toNat < index.symbols.length ∧ index.intern name = (index, id)) ∨
      (name ∉ index.symbols.map (·.name) ∧ index.intern name =
        ({ index with symbols := index.symbols ++ [⟨name, none, []⟩] },
          UInt32.ofNat index.symbols.length)) := by
  unfold intern idOf?
  cases hid : index.symbols.findIdx? (·.name == name) with
  | some place =>
    have hplace := (List.findIdx?_eq_some_iff_findIdx_eq.1 hid).1
    exact Or.inl ⟨UInt32.ofNat place, Nat.lt_of_le_of_lt (toNat_ofNat_le place) hplace, rfl⟩
  | none =>
    refine Or.inr ⟨fun hmem => ?_, rfl⟩
    obtain ⟨entry, hentry, hname⟩ := List.mem_map.1 hmem
    have hne := List.findIdx?_eq_none_iff.1 hid entry hentry
    exact absurd hname (beq_eq_false_iff_ne.1 hne)

/-- The number of a name is that of a symbol. -/
theorem intern_lt (index : SymbolIndex) (name : String) :
    (index.intern name).2.toNat < (index.intern name).1.symbols.length := by
  rcases index.intern_cases name with ⟨id, hid, hintern⟩ | ⟨-, hintern⟩
  · rwa [hintern]
  · rw [hintern, List.length_append, List.length_singleton]
    exact Nat.lt_succ_of_le (toNat_ofNat_le _)

theorem WellFormed.intern (h : index.WellFormed) (name : String) :
    (index.intern name).1.WellFormed := by
  rcases index.intern_cases name with ⟨id, -, hintern⟩ | ⟨hnew, hintern⟩
  · rwa [hintern]
  · rw [hintern]
    refine ⟨?_, fun entry hentry category hcategory => ?_, fun indexed hindexed ref href => ?_⟩
    · rw [List.map_append]
      exact List.Nodup.append h.nodup_names (List.nodup_singleton name)
        (List.disjoint_singleton.2 hnew)
    · rcases List.mem_append.1 hentry with hold | hadded
      · exact h.category_mem entry hold category hcategory
      · rw [List.mem_singleton.1 hadded] at hcategory
        exact absurd hcategory (by simp)
    · rw [List.length_append]
      exact Nat.lt_add_right _ (h.symbol_lt indexed hindexed ref href)

/-- A symbol is found again by its name. -/
theorem WellFormed.find?_name (h : index.WellFormed) {entry : SymbolEntry}
    (hentry : entry ∈ index.symbols) :
    index.symbols.find? (·.name == entry.name) = some entry := by
  cases hfind : index.symbols.find? (·.name == entry.name) with
  | none => exact absurd (List.find?_eq_none.1 hfind entry hentry) (by simp)
  | some found =>
    have hname : found.name = entry.name := by simpa using List.find?_some hfind
    rw [List.inj_on_of_nodup_map h.nodup_names (List.mem_of_find?_eq_some hfind) hentry hname]

/-! ### Symbol records -/

theorem map_name_modify_update (base : Option Path) (record : SymbolRecord) (place : Nat)
    (entries : List SymbolEntry) :
    (entries.modify place (SymbolEntry.update base record)).map (·.name) =
      entries.map (·.name) := by
  refine List.ext_getElem? fun i => ?_
  rw [List.getElem?_map, List.getElem?_map, List.getElem?_modify]
  cases entries[i]? with
  | none => rfl
  | some entry =>
    by_cases hplace : place = i
    · simp [hplace, SymbolEntry.update]
    · simp [hplace]

theorem WellFormed.addSymbol (h : index.WellFormed) (record : SymbolRecord) :
    (index.addSymbol base record).WellFormed := by
  have hintern := h.intern record.name
  unfold SymbolIndex.addSymbol
  generalize index.intern record.name = interned at hintern
  obtain ⟨index, id⟩ := interned
  refine ⟨?_, fun entry hentry category hcategory => ?_, fun indexed hindexed ref href => ?_⟩
  · dsimp only
    rw [map_name_modify_update]
    exact hintern.nodup_names
  · obtain ⟨i, hi⟩ := List.mem_iff_getElem?.1 hentry
    rw [List.getElem?_modify] at hi
    obtain ⟨old, hold, rfl⟩ := Option.map_eq_some_iff.1 hi
    have hmem := hintern.category_mem old (List.mem_of_getElem? hold) category
    rw [List.mem_append]
    split_ifs at hcategory
    · cases hrecord : record.category with
      | none => exact Or.inl (hmem (by simpa [SymbolEntry.update, hrecord] using hcategory))
      | some stated =>
        exact Or.inr (by simpa [SymbolEntry.update, hrecord, eq_comm] using hcategory)
    · exact Or.inl (hmem hcategory)
  · dsimp only
    rw [List.length_modify]
    exact hintern.symbol_lt indexed hindexed ref href

/-! ### References -/

/-- What the files have once a reference is added. -/
theorem mem_addToFile {path : Path} {added ref : Ref} {indexed : Path × List Ref} :
    {files : List (Path × List Ref)} → indexed ∈ addToFile path added files → ref ∈ indexed.2 →
      ref = added ∨ ∃ old ∈ files, ref ∈ old.2
  | [], hindexed, href => by
      rw [addToFile, List.mem_singleton] at hindexed
      subst hindexed
      exact Or.inl (List.mem_singleton.1 href)
  | first :: files, hindexed, href => by
      rw [addToFile] at hindexed
      split_ifs at hindexed with hsame
      · rcases List.mem_cons.1 hindexed with rfl | hrest
        · rcases List.mem_append.1 href with hold | hnew
          · exact Or.inr ⟨first, List.mem_cons_self, hold⟩
          · exact Or.inl (List.mem_singleton.1 hnew)
        · exact Or.inr ⟨indexed, List.mem_cons_of_mem _ hrest, href⟩
      · rcases List.mem_cons.1 hindexed with rfl | hrest
        · exact Or.inr ⟨first, List.mem_cons_self, href⟩
        · rcases mem_addToFile hrest href with hadded | ⟨old, hold, hmem⟩
          · exact Or.inl hadded
          · exact Or.inr ⟨old, List.mem_cons_of_mem _ hold, hmem⟩

theorem WellFormed.addRef (h : index.WellFormed) (record : RefRecord) :
    (index.addRef base record).WellFormed := by
  have hintern := h.intern record.symbol
  have hlt := index.intern_lt record.symbol
  unfold SymbolIndex.addRef
  generalize index.intern record.symbol = interned at hintern hlt
  obtain ⟨index, id⟩ := interned
  refine ⟨hintern.nodup_names, hintern.category_mem, fun indexed hindexed ref href => ?_⟩
  rcases mem_addToFile hindexed href with rfl | ⟨old, hold, hmem⟩
  · exact hlt
  · exact hintern.symbol_lt old hold ref hmem

theorem WellFormed.sortFiles (h : index.WellFormed) : index.sortFiles.WellFormed := by
  refine ⟨h.nodup_names, h.category_mem, fun indexed hindexed ref href => ?_⟩
  obtain ⟨old, hold, rfl⟩ := List.mem_map.1 hindexed
  exact h.symbol_lt old hold ref (List.mem_mergeSort.1 href)

theorem wellFormed_empty : empty.WellFormed :=
  ⟨List.nodup_nil, fun _ h => absurd h List.not_mem_nil, fun _ h => absurd h List.not_mem_nil⟩

/-- **Every index is well-formed**, whatever its records. -/
theorem wellFormed_ofData (data : IndexData) (base : Option Path) :
    (ofData data base).WellFormed := by
  have hsymbols : (data.symbols.foldl (addSymbol base) empty).WellFormed :=
    List.foldlRecOn data.symbols _ wellFormed_empty fun _ h record _ => h.addSymbol record
  have hrefs : (data.refs.foldl (addRef base)
      (data.symbols.foldl (addSymbol base) empty)).WellFormed :=
    List.foldlRecOn data.refs _ hsymbols fun _ h record _ => h.addRef record
  exact hrefs.sortFiles

/-! ### The references of a file -/

/-- The best of some candidates is one of them. -/
theorem mem_of_foldl_better {best : Nat × Path × List Ref} :
    (candidates : List (Nat × Path × List Ref)) → {start : Option (Nat × Path × List Ref)} →
      candidates.foldl better start = some best → start = some best ∨ best ∈ candidates
  | [], _, h => Or.inl h
  | next :: candidates, start, h => by
      rcases mem_of_foldl_better candidates h with hbetter | hmem
      · unfold better at hbetter
        split at hbetter
        · exact Or.inr (Option.some.inj hbetter ▸ List.mem_cons_self)
        · split_ifs at hbetter
          · exact Or.inr (Option.some.inj hbetter ▸ List.mem_cons_self)
          · exact Or.inl hbetter
      · exact Or.inr (List.mem_cons_of_mem _ hmem)

/-- The file that answers for a path is one of the index. -/
theorem mem_files_of_answering? {path : Path} {indexed : Path × List Ref}
    (h : index.answering? path = some indexed) : indexed ∈ index.files := by
  unfold answering? at h
  split at h
  · next found hfind =>
    rw [← Option.some.inj h]
    exact List.mem_of_find?_eq_some hfind
  · obtain ⟨best, hbest, rfl⟩ := Option.map_eq_some_iff.1 h
    rcases mem_of_foldl_better _ hbest with hnone | hmem
    · exact absurd hnone (by simp)
    · obtain ⟨candidate, hcandidate, hshared⟩ := List.mem_filterMap.1 hmem
      obtain ⟨count, -, rfl⟩ := Option.map_eq_some_iff.1 hshared
      exact hcandidate

/-- The references in a file are those of some file of the index, if there are any. -/
theorem refsFor_eq_nil_or_mem (index : SymbolIndex) (file : SourceFile) :
    index.refsFor file = [] ∨ ∃ path, (path, index.refsFor file) ∈ index.files := by
  unfold refsFor
  split
  · next path refs hanswer =>
    obtain ⟨displayed, -, hanswer⟩ := Option.bind_eq_some_iff.1 hanswer
    exact Or.inr ⟨path, mem_files_of_answering? hanswer⟩
  · exact Or.inl rfl

theorem WellFormed.exists_symbol?_eq (h : index.WellFormed) {ref : Ref}
    (href : ref ∈ index.refsFor file) : ∃ entry, index.symbol? ref.symbol = some entry := by
  rcases index.refsFor_eq_nil_or_mem file with hnil | ⟨path, hmem⟩
  · rw [hnil] at href
    exact absurd href List.not_mem_nil
  · exact ⟨_, List.getElem?_eq_getElem (h.symbol_lt _ hmem ref href)⟩

theorem startsBefore_trans (a b c : Ref) (hab : startsBefore a b = true)
    (hbc : startsBefore b c = true) : startsBefore a c = true := by
  simp only [startsBefore, Bool.or_eq_true, Bool.and_eq_true, decide_eq_true_eq,
    beq_iff_eq] at hab hbc ⊢
  omega

theorem startsBefore_total (a b : Ref) : (startsBefore a b || startsBefore b a) = true := by
  simp only [startsBefore, Bool.or_eq_true, Bool.and_eq_true, decide_eq_true_eq, beq_iff_eq]
  omega

theorem line_le_of_startsBefore {a b : Ref} (h : startsBefore a b = true) : a.line ≤ b.line := by
  simp only [startsBefore, Bool.or_eq_true, Bool.and_eq_true, decide_eq_true_eq, beq_iff_eq] at h
  omega

/-- **The references in a file are in order.** -/
theorem pairwise_startsBefore_refsFor (data : IndexData) (base : Option Path) (file : SourceFile) :
    ((ofData data base).refsFor file).Pairwise fun a b => startsBefore a b := by
  rcases (ofData data base).refsFor_eq_nil_or_mem file with hnil | ⟨path, hmem⟩
  · rw [hnil]
    exact List.Pairwise.nil
  · obtain ⟨⟨_, unsorted⟩, -, hsorted⟩ := List.mem_map.1 hmem
    have hrefs : unsorted.mergeSort startsBefore = (ofData data base).refsFor file :=
      congrArg Prod.snd hsorted
    rw [← hrefs]
    exact List.pairwise_mergeSort startsBefore_trans startsBefore_total unsorted

/-! ### The names at a column -/

theorem mem_foldl_addName {name : String} : (added : List String) → (names : List String) →
    (name ∈ added.foldl addName names ↔ name ∈ names ∨ name ∈ added)
  | [], names => by simp
  | first :: added, names => by
      have hfirst : name ∈ addName names first ↔ name ∈ names ∨ name = first := by
        unfold addName
        split_ifs with hcontains
        · have hmem : first ∈ names := by simpa using hcontains
          exact ⟨Or.inl, fun h => h.elim id fun heq => heq ▸ hmem⟩
        · simp
      rw [List.foldl_cons, mem_foldl_addName added, hfirst, List.mem_cons, or_assoc]

/-- A name is at a line and column iff a reference to its symbol covers them. -/
theorem mem_symbolsAt {line column : Nat} {name : String} :
    name ∈ index.symbolsAt file line column ↔
      ∃ ref ∈ index.refsFor file, covers line column ref = true ∧
        ∃ entry, index.symbol? ref.symbol = some entry ∧ entry.name = name := by
  simp [symbolsAt, mem_foldl_addName, and_assoc]

end SymbolIndex

end CodeBrowser
