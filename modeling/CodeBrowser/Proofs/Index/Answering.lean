import CodeBrowser.Proofs.Index.Scan

/-!
# The file that answers

A file is displayed by a path, and some indexed path answers for it: the same one if it is indexed,
and otherwise, of the indexed paths that end with it or that it ends with, the one that shares most
of its components. Of several that share equally many the smallest one answers. This leaves no
choice, for no two indexed paths have the same components. So it does not matter in which order the
indexed paths are gone through, nor in which order the records of different files were gathered. The
symbols may have other numbers then, and it takes a number for each of them that their names stay.

## Main definitions

* `Path.CloserThan`: one path is preferred to another for a displayed one.
* `Answers`: a path answers for a displayed one among some indexed paths.
* `Ref.extent`: where a reference stands.

## Main results

* `Answers.unique`: no two indexed paths answer.
* `SymbolIndex.components_resolve`: what the paths of records are indexed as.
* `SymbolIndex.exists_foldl_better`: there is a best one of some candidates, and it is found.
* `SymbolIndex.answering?_eq_some_iff`: what an index answers with is the file that answers.
* `SymbolIndex.answeringPath?_chosen`: which indexed path answers, whatever the order.
-/

namespace CodeBrowser

open Std (TransCmp)
open RefRecord (isIn)

namespace Path

/-- For a displayed path the first path is preferred to the second: it shares more of its last
components, or as many and comes first. -/
def CloserThan (displayed path other : Path) : Prop :=
  displayed.sharedTrailing other < displayed.sharedTrailing path ∨
    displayed.sharedTrailing other = displayed.sharedTrailing path ∧ path.compare other = .lt

variable {displayed p q : Path}

theorem CloserThan.asymm (h : displayed.CloserThan p q) : ¬ displayed.CloserThan q p := by
  rintro (hless | ⟨hequal, hqp⟩)
  · rcases h with hmore | ⟨hequal, -⟩ <;> omega
  · rcases h with hmore | ⟨-, hpq⟩
    · omega
    · rw [compare_swap, hqp] at hpq
      exact absurd hpq (by decide)

/-- A path is compatible with itself, however it is written. -/
theorem compatible_of_same (h : p.same q = true) : q.Compatible p :=
  Or.inl (same_iff.1 h ▸ List.suffix_rfl)

end Path

/-- A path answers for a displayed one among the indexed paths. -/
inductive Answers (indexed : Path → Prop) (displayed : Path) : Path → Prop
  /-- The path is the displayed one. -/
  | same {path : Path} (hindexed : indexed path) (hsame : path.same displayed = true) :
      Answers indexed displayed path
  /-- The displayed path is not indexed, and of those compatible with it this is the closest. -/
  | closest {path : Path} (hindexed : indexed path)
      (hnone : ∀ other, indexed other → other.same displayed = false)
      (hcompatible : displayed.Compatible path)
      (hclosest : ∀ other, indexed other → displayed.Compatible other → other ≠ path →
        displayed.CloserThan path other) :
      Answers indexed displayed path

namespace Answers

variable {indexed : Path → Prop} {displayed p q : Path}

theorem indexed_of (h : Answers indexed displayed p) : indexed p := by
  cases h with
  | same hindexed _ => exact hindexed
  | closest hindexed _ _ _ => exact hindexed

theorem compatible (h : Answers indexed displayed p) : displayed.Compatible p := by
  cases h with
  | same _ hsame => exact Path.compatible_of_same hsame
  | closest _ _ hcompatible _ => exact hcompatible

/-- **No two indexed paths answer** if no two of them are the same. -/
theorem unique (hdistinct : ∀ p q, indexed p → indexed q → p.same q = true → p = q)
    (hp : Answers indexed displayed p) (hq : Answers indexed displayed q) : p = q := by
  cases hp with
  | same hindexed hsame =>
    cases hq with
    | same hindexed' hsame' =>
      refine hdistinct p q hindexed hindexed' ?_
      rwa [Path.same_congr_right hsame']
    | closest _ hnone _ _ => exact absurd hsame (by simp [hnone p hindexed])
  | closest hindexed hnone hcompatible hclosest =>
    cases hq with
    | same hindexed' hsame' => exact absurd hsame' (by simp [hnone q hindexed'])
    | closest hindexed' _ hcompatible' hclosest' =>
      -- of two different ones each would have to be preferred to the other
      by_contra hne
      exact (hclosest q hindexed' hcompatible' (Ne.symm hne)).asymm
        (hclosest' p hindexed hcompatible hne)

end Answers

/-- Where a reference stands: its line, and its columns. -/
def Ref.extent (r : Ref) : Nat × Nat × Nat := (r.line, r.column, r.endColumn)

namespace SymbolIndex

/-! ### The paths of records -/

/-- **What the paths of records are indexed as.** Without a directory they stay as they are written,
and so do absolute paths. The components of a relative path come behind those of the directory. -/
theorem components_resolve (path : Path) :
    resolve none path = path ∧
      ∀ dir : Path, (path.isAbsolute = true → resolve (some dir) path = path) ∧
        (path.isAbsolute = false → dir.text ≠ "" → (resolve (some dir) path).components =
          dir.components ++ path.components.filter (· != .current)) := by
  refine ⟨rfl, fun dir => ⟨fun habsolute => if_pos habsolute, fun hrelative hdir => ?_⟩⟩
  show (dir.join path).components = _
  rw [Path.components_join dir path hdir, hrelative]
  rfl

/-! ### The best of some candidates -/

theorem preferred_eq_false_iff {a b : Nat × Path × List Ref} :
    preferred a b = false ↔
      a.1 < b.1 ∨ a.1 = b.1 ∧ (b.2.1.compare a.2.1).isLE = true := by
  rw [Path.compare_swap]
  cases hcompare : a.2.1.compare b.2.1 <;> simp [preferred, hcompare] <;> omega

theorem preferred_self (a : Nat × Path × List Ref) : preferred a a = false :=
  preferred_eq_false_iff.2 (Or.inr ⟨rfl, Std.ReflCmp.isLE_rfl⟩)

theorem preferred_eq_false_trans {a b c : Nat × Path × List Ref} (hab : preferred a b = false)
    (hbc : preferred b c = false) : preferred a c = false := by
  rw [preferred_eq_false_iff] at hab hbc ⊢
  rcases hab with hab | ⟨hab, hle⟩
  · exact Or.inl (by omega)
  · rcases hbc with hbc | ⟨hbc, hle'⟩
    · exact Or.inl (by omega)
    · exact Or.inr ⟨hab.trans hbc, TransCmp.isLE_trans hle' hle⟩

theorem preferred_asymm {a b : Nat × Path × List Ref} (h : preferred a b = true) :
    preferred b a = false := by
  rw [preferred_eq_false_iff]
  simp only [preferred, Bool.or_eq_true, Bool.and_eq_true, decide_eq_true_eq, beq_iff_eq] at h
  exact h.imp_right fun ⟨hequal, hlt⟩ =>
    ⟨hequal.symm, Ordering.isLE_of_eq_lt (Ordering.isLT_iff_eq_lt.1 hlt)⟩

/-- Neither of two candidates is preferred to the better one. -/
theorem exists_better (best next : Nat × Path × List Ref) :
    ∃ winner, better (some best) next = some winner ∧ preferred best winner = false ∧
      preferred next winner = false := by
  cases hnext : preferred next best with
  | true => exact ⟨next, if_pos hnext, preferred_asymm hnext, preferred_self next⟩
  | false => exact ⟨best, if_neg (by simp [hnext]), preferred_self best, hnext⟩

/-- **No candidate is preferred to the best one.** -/
theorem exists_foldl_better : (candidates : List (Nat × Path × List Ref)) →
    (start : Nat × Path × List Ref) →
      ∃ best, candidates.foldl better (some start) = some best ∧
        preferred start best = false ∧ ∀ c ∈ candidates, preferred c best = false
  | [], start => ⟨start, rfl, preferred_self start, fun _ h => absurd h List.not_mem_nil⟩
  | next :: candidates, start => by
      obtain ⟨winner, hwinner, hstart, hnext⟩ := exists_better start next
      obtain ⟨best, hbest, hover, hrest⟩ := exists_foldl_better candidates winner
      refine ⟨best, ?_, preferred_eq_false_trans hstart hover, ?_⟩
      · rw [List.foldl_cons, hwinner, hbest]
      · exact List.forall_mem_cons.2 ⟨preferred_eq_false_trans hnext hover, hrest⟩

/-! ### The answer of an index -/

variable {index : SymbolIndex} {displayed path : Path} {file : SourceFile}
  {indexed : Path × List Ref}

/-- An indexed path is a candidate iff it is compatible, and is judged by what it shares. -/
theorem shared?_eq_some_iff {count : Nat} :
    shared? displayed path = some count ↔
      displayed.Compatible path ∧ displayed.sharedTrailing path = count := by
  unfold shared?
  split_ifs with hends hended
  · have hcompatible : displayed.Compatible path := Or.inl (Path.endsWith_iff.1 hends)
    rw [Path.sharedTrailing_of_endsWith hends, Option.some_inj, and_iff_right hcompatible]
  · have hcompatible : displayed.Compatible path := Or.inr (Path.endsWith_iff.1 hended)
    rw [Path.sharedTrailing_comm, Path.sharedTrailing_of_endsWith hended, Option.some_inj,
      and_iff_right hcompatible]
  · rw [Path.endsWith_iff] at hends hended
    simp [Path.Compatible, hends, hended]

/-- The files that might answer for a displayed path, each with the number of components shared. -/
def candidates (index : SymbolIndex) (displayed : Path) : List (Nat × Path × List Ref) :=
  index.files.filterMap fun file => (shared? displayed file.1).map (·, file)

theorem mem_candidates {count : Nat} :
    (count, indexed) ∈ index.candidates displayed ↔
      indexed ∈ index.files ∧ displayed.Compatible indexed.1 ∧
        displayed.sharedTrailing indexed.1 = count := by
  rw [← shared?_eq_some_iff]
  simp only [candidates, List.mem_filterMap, Option.map_eq_some_iff, Prod.mk.injEq]
  constructor
  · rintro ⟨found, hfound, shared, hshared, rfl, rfl⟩
    exact ⟨hfound, hshared⟩
  · rintro ⟨hindexed, hshared⟩
    exact ⟨indexed, hindexed, count, hshared, rfl, rfl⟩

theorem answering?_eq (index : SymbolIndex) (displayed : Path) :
    index.answering? displayed = (index.files.find? (·.1.same displayed)).or
      (((index.candidates displayed).foldl better none).map (·.2)) := by
  unfold answering? candidates
  cases index.files.find? (·.1.same displayed) <;> rfl

/-- Either the displayed path is indexed, or the best candidate answers if there is one. -/
theorem answering?_cases (index : SymbolIndex) (displayed : Path) :
    (∃ indexed ∈ index.files, indexed.1.same displayed = true ∧
      index.answering? displayed = some indexed) ∨
    (∀ indexed ∈ index.files, indexed.1.same displayed = false) ∧
      (index.candidates displayed = [] ∧ index.answering? displayed = none ∨
        ∃ best ∈ index.candidates displayed, index.answering? displayed = some best.2 ∧
          ∀ c ∈ index.candidates displayed, preferred c best = false) := by
  rw [answering?_eq]
  cases hfind : index.files.find? (·.1.same displayed) with
  | some found =>
    have hsame := List.find?_some hfind
    exact Or.inl ⟨found, List.mem_of_find?_eq_some hfind, hsame, rfl⟩
  | none =>
    refine Or.inr ⟨by simpa using List.find?_eq_none.1 hfind, ?_⟩
    rw [Option.none_or]
    cases hcandidates : index.candidates displayed with
    | nil => exact Or.inl ⟨rfl, rfl⟩
    | cons first rest =>
      obtain ⟨best, hbest, hfirst, hrest⟩ := exists_foldl_better rest first
      have hfold : (first :: rest).foldl better none = some best := hbest
      rw [hfold]
      refine Or.inr ⟨best, ?_, rfl, List.forall_mem_cons.2 ⟨hfirst, hrest⟩⟩
      exact (mem_of_foldl_better _ hfold).resolve_left (by simp)

/-- Some file of the index goes by the path. -/
def HasPath (index : SymbolIndex) (path : Path) : Prop := path ∈ index.files.map (·.1)

/-- The best candidate is the closest of the compatible paths. -/
theorem closerThan_of_preferred_eq_false (h : index.files.Pairwise Elsewhere)
    {other : Path × List Ref} (hindexed : indexed ∈ index.files) (hother : other ∈ index.files)
    (hne : other.1 ≠ indexed.1)
    (hbest : preferred (displayed.sharedTrailing other.1, other)
      (displayed.sharedTrailing indexed.1, indexed) = false) :
    displayed.CloserThan indexed.1 other.1 := by
  -- Candidates that share as many components are told apart, for no two paths compare equal.
  refine (preferred_eq_false_iff.1 hbest).imp_right fun ⟨hequal, hle⟩ => ⟨hequal, ?_⟩
  have hnotSame : indexed.1.compare other.1 ≠ .eq := fun heq =>
    hne (congrArg Prod.fst (eq_of_elsewhere h hindexed hother (Path.compare_eq_eq_iff.1 heq))).symm
  exact (Ordering.isLE_iff_eq_lt_or_eq_eq.1 hle).resolve_right hnotSame

/-- What an index answers with is a file that answers. -/
theorem answers_of_answering? (h : index.files.Pairwise Elsewhere)
    (hanswering : index.answering? displayed = some indexed) :
    Answers index.HasPath displayed indexed.1 := by
  have hindexed := mem_files_of_answering? hanswering
  rcases index.answering?_cases displayed with
    ⟨found, hfound, hsame, hsome⟩ | ⟨hnone, ⟨-, habsent⟩ | ⟨⟨count, found⟩, hfound, hsome, hbest⟩⟩
  · obtain rfl := Option.some.inj (hanswering.symm.trans hsome)
    exact .same (List.mem_map_of_mem hindexed) hsame
  · exact absurd (hanswering.symm.trans habsent) (by simp)
  · obtain rfl : indexed = found := Option.some.inj (hanswering.symm.trans hsome)
    obtain ⟨-, hcompatible, rfl⟩ := mem_candidates.1 hfound
    refine .closest (List.mem_map_of_mem hindexed) (List.forall_mem_map.2 hnone) hcompatible ?_
    refine List.forall_mem_map.2 fun other hother hcompatible' hne => ?_
    exact closerThan_of_preferred_eq_false h hindexed hother hne
      (hbest _ (mem_candidates.2 ⟨hother, hcompatible', rfl⟩))

/-- An index has an answer if some indexed path is compatible. -/
theorem exists_answering?_of_compatible (hindexed : indexed ∈ index.files)
    (hcompatible : displayed.Compatible indexed.1) :
    ∃ found, index.answering? displayed = some found := by
  rcases index.answering?_cases displayed with
    ⟨found, -, -, hsome⟩ | ⟨-, ⟨hnil, -⟩ | ⟨best, -, hsome, -⟩⟩
  · exact ⟨found, hsome⟩
  · have hmem := mem_candidates.2 ⟨hindexed, hcompatible, rfl⟩
    rw [hnil] at hmem
    exact absurd hmem List.not_mem_nil
  · exact ⟨best.2, hsome⟩

/-- **The answer of an index** is the file that answers. -/
theorem answering?_eq_some_iff (h : index.files.Pairwise Elsewhere) :
    index.answering? displayed = some indexed ↔
      indexed ∈ index.files ∧ Answers index.HasPath displayed indexed.1 := by
  refine ⟨fun hsome => ⟨mem_files_of_answering? hsome, answers_of_answering? h hsome⟩, ?_⟩
  rintro ⟨hindexed, hanswers⟩
  -- There is an answer, it answers too, and no two files do.
  obtain ⟨found, hfound⟩ := exists_answering?_of_compatible hindexed hanswers.compatible
  have hdistinct : ∀ p q, index.HasPath p → index.HasPath q → p.same q = true → p = q := by
    intro p q hp hq hsame
    obtain ⟨a, ha, rfl⟩ := List.mem_map.1 hp
    obtain ⟨b, hb, rfl⟩ := List.mem_map.1 hq
    exact congrArg Prod.fst (eq_of_elsewhere h ha hb hsame)
  have hpath := (answers_of_answering? h hfound).unique hdistinct hanswers
  rw [hfound,
    eq_of_elsewhere h (mem_files_of_answering? hfound) hindexed (hpath ▸ Path.same_self _)]

/-- The order in which the files are gone through does not matter. -/
theorem answering?_perm {files : List (Path × List Ref)} (h : index.files.Pairwise Elsewhere)
    (hperm : files.Perm index.files) :
    ({ index with files := files } : SymbolIndex).answering? = index.answering? := by
  have hfiles : files.Pairwise Elsewhere := hperm.symm.pairwise h (Std.Symm.symm _ _)
  have hpaths : HasPath { index with files := files } = index.HasPath :=
    funext fun path => propext (hperm.map _).mem_iff
  funext displayed
  refine Option.ext fun indexed => ?_
  rw [answering?_eq_some_iff h, answering?_eq_some_iff hfiles, hpaths, hperm.mem_iff]

/-! ### The answering path -/

theorem answeringPath?_eq_some_iff (h : index.files.Pairwise Elsewhere) :
    index.answeringPath? file = some path ↔
      ∃ displayed, file.path = some displayed ∧ Answers index.HasPath displayed path := by
  simp only [answeringPath?, Option.map_eq_some_iff, Option.bind_eq_some_iff]
  constructor
  · rintro ⟨indexed, ⟨displayed, hdisplayed, hanswering⟩, rfl⟩
    exact ⟨displayed, hdisplayed, answers_of_answering? h hanswering⟩
  · rintro ⟨displayed, hdisplayed, hanswers⟩
    obtain ⟨indexed, hindexed, rfl⟩ := List.mem_map.1 hanswers.indexed_of
    exact ⟨indexed, ⟨displayed, hdisplayed, (answering?_eq_some_iff h).2 ⟨hindexed, hanswers⟩⟩, rfl⟩

theorem answeringPath?_eq_none_iff (h : index.files.Pairwise Elsewhere) :
    index.answeringPath? file = none ↔ ∀ displayed, file.path = some displayed →
      ∀ path, index.HasPath path → ¬ displayed.Compatible path := by
  simp only [answeringPath?, Option.map_eq_none_iff, Option.bind_eq_none_iff]
  refine forall₂_congr fun displayed _ => ⟨fun hnone path hpath hcompatible => ?_, fun hnone => ?_⟩
  · obtain ⟨indexed, hindexed, rfl⟩ := List.mem_map.1 hpath
    obtain ⟨found, hfound⟩ := exists_answering?_of_compatible hindexed hcompatible
    exact absurd (hnone.symm.trans hfound) (by simp)
  · by_contra hsome
    obtain ⟨found, hfound⟩ := Option.ne_none_iff_exists'.1 hsome
    have hanswers := answers_of_answering? h hfound
    exact hnone found.1 hanswers.indexed_of hanswers.compatible

theorem hasPath_ofData (data : IndexData) (base : Option Path) :
    (ofData data base).HasPath = Indexes base data.refs :=
  funext fun path => propext ((gathers_ofData data base).mem_paths path)

/-- Records of other files may stand anywhere among the records of a path. -/
theorem indexes_congr {base : Option Path} {records records' : List RefRecord}
    (h : ∀ path, records'.filter (isIn base path) = records.filter (isIn base path)) :
    Indexes base records' = Indexes base records := by
  funext path
  rw [Indexes, Indexes, ← List.head?_filter, ← List.head?_filter, h path]

variable {data : IndexData} {base : Option Path} {records : List RefRecord}

/-- Records of other files may stand anywhere among those of the file that answers. -/
theorem answeringPath?_reordered
    (h : ∀ path, records.filter (isIn base path) = data.refs.filter (isIn base path)) :
    (ofData { data with refs := records } base).answeringPath? file =
      (ofData data base).answeringPath? file := by
  refine Option.ext fun path => ?_
  rw [answeringPath?_eq_some_iff (gathers_ofData _ base).distinct,
    answeringPath?_eq_some_iff (gathers_ofData data base).distinct, hasPath_ofData, hasPath_ofData,
    indexes_congr h]

/-- The references stand where they did, though their symbols may have other numbers. -/
theorem extents_reordered
    (h : ∀ path, records.filter (isIn base path) = data.refs.filter (isIn base path)) :
    ((ofData { data with refs := records } base).refsFor file).map Ref.extent =
      ((ofData data base).refsFor file).map Ref.extent := by
  have hanswering : (ofData { data with refs := records } base).answeringPath? file =
      (ofData data base).answeringPath? file := answeringPath?_reordered h
  cases hpath : (ofData data base).answeringPath? file with
  | none =>
    rw [hpath] at hanswering
    rw [refsFor_of_answeringPath?_eq_none hpath, refsFor_of_answeringPath?_eq_none hanswering]
  | some path =>
    rw [hpath] at hanswering
    rw [refsFor_eq data hpath, refsFor_eq _ hanswering, List.map_map, List.map_map,
      IndexData.visited, IndexData.visited, h path]
    rfl

/-- Reordered records have the same names. -/
theorem length_names_reordered
    (h : ∀ path, records.filter (isIn base path) = data.refs.filter (isIn base path)) :
    ({ data with refs := records } : IndexData).names.eraseDups.length =
      data.names.eraseDups.length := by
  have hmem (record : RefRecord) : record ∈ records ↔ record ∈ data.refs := by
    have hself : isIn base (resolve base record.path) record = true := Path.same_self _
    have hfilter : record ∈ records.filter (isIn base (resolve base record.path)) ↔
        record ∈ data.refs.filter (isIn base (resolve base record.path)) := by rw [h]
    rwa [List.mem_filter, List.mem_filter, and_iff_left hself, and_iff_left hself] at hfilter
  have hnodup (data : IndexData) : data.names.eraseDups.Nodup := by
    rw [← names_ofData data base]
    exact (wellFormed_ofData data base).nodup_names
  refine ((List.perm_ext_iff_of_nodup (hnodup _) (hnodup _)).2 fun name => ?_).length_eq
  simp only [List.mem_eraseDups, IndexData.names, List.mem_append, List.mem_map, hmem]

/-- The names at a line and column stay if there are numbers for all names. -/
theorem symbolsAt_reordered (hcount : data.names.eraseDups.length ≤ UInt32.size)
    (h : ∀ path, records.filter (isIn base path) = data.refs.filter (isIn base path)) :
    (ofData { data with refs := records } base).symbolsAt file =
      (ofData data base).symbolsAt file := by
  have hanswering : (ofData { data with refs := records } base).answeringPath? file =
      (ofData data base).answeringPath? file := answeringPath?_reordered h
  have hcount' := Nat.le_trans (Nat.le_of_eq (length_names_reordered h)) hcount
  funext line column
  cases hpath : (ofData data base).answeringPath? file with
  | none =>
    rw [hpath] at hanswering
    rw [symbolsAt_of_answeringPath?_eq_none hpath, symbolsAt_of_answeringPath?_eq_none hanswering]
  | some path =>
    rw [hpath] at hanswering
    rw [symbolsAt_eq hcount hpath, symbolsAt_eq hcount' hanswering, IndexData.visited,
      IndexData.visited, h path]

/-- **Which indexed path answers for a file.** It is the displayed path where that is indexed, and
otherwise, of the indexed paths that are compatible with it, the one that shares most of its last
components, the smallest where several share as many; there is none iff the file has no path or none
is compatible. The references are those of the answering path. Neither the order in which the files
are gone through nor that of the records of different files changes the answer or where its
references stand, nor, if there are numbers for all names, the names at any line and column. -/
theorem answeringPath?_chosen (data : IndexData) (base : Option Path) (file : SourceFile) :
    let index := ofData data base
    (∀ path, index.answeringPath? file = some path ↔
      ∃ displayed, file.path = some displayed ∧
        Answers (Indexes base data.refs) displayed path) ∧
      (index.answeringPath? file = none ↔ ∀ displayed, file.path = some displayed →
        ∀ path, Indexes base data.refs path → ¬ displayed.Compatible path) ∧
      (∀ path, index.answeringPath? file = some path →
        (path, index.source.fileRefs file) ∈ index.files) ∧
      (index.answeringPath? file = none → index.source.fileRefs file = []) ∧
      (∀ files : List (Path × List Ref), files.Perm index.files →
        let reordered : SymbolIndex := { index with files := files }
        reordered.answeringPath? file = index.answeringPath? file ∧
          reordered.source.fileRefs file = index.source.fileRefs file) ∧
      ∀ records : List RefRecord,
        (∀ path, records.filter (isIn base path) = data.refs.filter (isIn base path)) →
          let reordered := ofData { data with refs := records } base
          reordered.answeringPath? file = index.answeringPath? file ∧
            (reordered.source.fileRefs file).map Ref.extent =
              (index.source.fileRefs file).map Ref.extent ∧
            (data.names.eraseDups.length ≤ UInt32.size →
              reordered.source.symbolsAt file = index.source.symbolsAt file) := by
  have hdistinct := (gathers_ofData data base).distinct
  refine ⟨fun path => ?_, ?_, fun path => mem_files_of_answeringPath?,
    refsFor_of_answeringPath?_eq_none, fun files hperm => ?_, fun records hrecords => ?_⟩
  · rw [answeringPath?_eq_some_iff hdistinct, hasPath_ofData]
  · rw [answeringPath?_eq_none_iff hdistinct, hasPath_ofData]
  · have hanswering := answering?_perm hdistinct hperm
    simp only [answeringPath?, source, refsFor, hanswering, and_self]
  · exact ⟨answeringPath?_reordered hrecords, extents_reordered hrecords,
      fun hcount => symbolsAt_reordered hcount hrecords⟩

/-- Of two paths that share two components with the displayed one the smaller one answers, though it
is recorded last; a path that shares one does not. Recording the two the other way round and going
through the files backwards changes nothing, and there are numbers for the three names. -/
theorem answeringPath?_chosen_tie :
    let b : RefRecord := ⟨⟨"/b/src/x.c"⟩, 1, 1, 2, "f"⟩
    let x : RefRecord := ⟨⟨"x.c"⟩, 1, 1, 2, "g"⟩
    let a : RefRecord := ⟨⟨"./src/x.c"⟩, 1, 1, 2, "h"⟩
    let base : Option Path := some ⟨"/a"⟩
    let index := ofData ⟨[], [b, x, a]⟩ base
    let reordered := ofData ⟨[], [b, a, x]⟩ base
    let backwards : SymbolIndex := { index with files := index.files.reverse }
    let file : SourceFile := .ofText (some ⟨"src//x.c"⟩) ['h']
    index.answeringPath? file = some ⟨"/a/./src/x.c"⟩ ∧
      Answers (Indexes base [b, x, a]) ⟨"src//x.c"⟩ ⟨"/a/./src/x.c"⟩ ∧
      backwards.answeringPath? file = some ⟨"/a/./src/x.c"⟩ ∧
      (∀ path, [b, a, x].filter (isIn base path) = [b, x, a].filter (isIn base path)) ∧
      reordered.answeringPath? file = some ⟨"/a/./src/x.c"⟩ ∧
      reordered.source.symbolsAt file = index.source.symbolsAt file := by
  intro b x a base index reordered backwards file
  obtain ⟨hsome, -, -, -, hfiles, hrecords⟩ := answeringPath?_chosen ⟨[], [b, x, a]⟩ base file
  have hpath : index.answeringPath? file = some ⟨"/a/./src/x.c"⟩ := by decide +kernel
  have hapart : ∀ path, isIn base path x = true → isIn base path a = true → False := by
    intro path hx ha
    have hsame : (resolve base x.path).same (resolve base a.path) = true :=
      (Path.same_congr_right ha _).trans hx
    exact absurd hsame (by decide +kernel)
  have hreordered : ∀ path,
      [b, a, x].filter (isIn base path) = [b, x, a].filter (isIn base path) := by
    intro path
    cases hx : isIn base path x with
    | false => simp [List.filter_cons, hx]
    | true =>
      have ha : isIn base path a = false := Bool.eq_false_iff.2 (hapart path hx)
      simp [List.filter_cons, ha]
  have hcount : (IndexData.names ⟨[], [b, x, a]⟩).eraseDups.length ≤ UInt32.size := by decide
  obtain ⟨displayed, hdisplayed, hanswers⟩ := (hsome _).1 hpath
  obtain rfl : ⟨"src//x.c"⟩ = displayed := Option.some.inj hdisplayed
  obtain ⟨hpath', -, hnames⟩ := hrecords _ hreordered
  exact ⟨hpath, hanswers, (hfiles _ (List.reverse_perm _)).1.trans hpath, hreordered,
    hpath'.trans hpath, hnames hcount⟩

end SymbolIndex

end CodeBrowser
