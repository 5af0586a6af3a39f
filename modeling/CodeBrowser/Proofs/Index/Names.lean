import CodeBrowser.Proofs.Index.Table
import Mathlib.Data.List.Basic
import Mathlib.Data.List.Induction

/-!
# The numbers of names

An index numbers the names of its records in the order of their first record, symbol records before
references. A number stays with its name while more records come: a name that is new is put behind
those already numbered, and one that is not new changes nothing. As long as there are no more names
than numbers, no two names have one number, and each finds its symbol. The first name too many has
the number of the first name of all.

## Main definitions

* `SymbolIndex.names`: the names of the symbols, in the order in which they were taken up.
* `SymbolIndex.numberIn`: the number of a name by its place among some names.
* `IndexData.names`: the names of all records, in order.

## Main results

* `SymbolIndex.names_intern`, `SymbolIndex.intern_snd`: what taking a name up does.
* `SymbolIndex.toNat_numberIn`, `SymbolIndex.numberIn_inj`: what a bound on the names is good for.
* `SymbolIndex.idOf?_repr_size`: two names with one number.
* `SymbolIndex.names_ofData`: the names of an index are those of its records, each once.
-/

namespace CodeBrowser

/-- The names of the records, symbol records before references. -/
def IndexData.names (data : IndexData) : List String :=
  data.symbols.map (·.name) ++ data.refs.map (·.symbol)

namespace SymbolIndex

/-- The names of the symbols, in the order in which they were taken up. -/
def names (index : SymbolIndex) : List String := index.symbols.map (·.name)

variable {index : SymbolIndex} {base : Option Path}

theorem length_names (index : SymbolIndex) : index.names.length = index.symbolCount :=
  List.length_map ..

/-! ### Adding a name -/

theorem addName_of_mem {names : List String} {name : String} (h : name ∈ names) :
    addName names name = names :=
  if_pos (List.contains_iff_mem.2 h)

theorem addName_of_notMem {names : List String} {name : String} (h : name ∉ names) :
    addName names name = names ++ [name] :=
  if_neg fun hcontains => h (List.contains_iff_mem.1 hcontains)

theorem mem_addName_self (names : List String) (name : String) : name ∈ addName names name := by
  by_cases h : name ∈ names
  · rwa [addName_of_mem h]
  · simp [addName_of_notMem h]

theorem prefix_addName (names : List String) (name : String) : names <+: addName names name := by
  by_cases h : name ∈ names
  · exact (addName_of_mem h).symm ▸ List.prefix_rfl
  · rw [addName_of_notMem h]
    exact List.prefix_append ..

/-- Names added one by one are the names without repetitions. -/
theorem foldl_addName_nil (names : List String) : names.foldl addName [] = names.eraseDups := by
  induction names using List.reverseRecOn with
  | nil => rfl
  | append_singleton names last ih =>
    rw [List.foldl_append, ih, List.foldl_cons, List.foldl_nil, List.eraseDups_append]
    by_cases h : last ∈ names
    · simp [addName_of_mem (List.mem_eraseDups.2 h), List.removeAll, h]
    · simp [addName_of_notMem (mt List.mem_eraseDups.1 h), List.removeAll, h, List.eraseDups_cons]

/-! ### Numbers -/

/-- The number of a name by its place among some names. -/
def numberIn (names : List String) (name : String) : SymbolId := UInt32.ofNat (names.idxOf name)

section Numbers

variable {names : List String} (hcount : names.length ≤ UInt32.size) {name : String}

include hcount in
/-- A number is the place of its name if there are numbers for all names. -/
theorem toNat_numberIn (hname : name ∈ names) :
    (numberIn names name).toNat = names.idxOf name := by
  have hplace := List.idxOf_lt_length_of_mem hname
  exact UInt32.toNat_ofNat_of_lt' (Nat.lt_of_lt_of_le hplace hcount)

include hcount in
/-- Then no two names have one number. -/
theorem numberIn_inj (hname : name ∈ names) {other : String} (hother : other ∈ names) :
    numberIn names name = numberIn names other ↔ name = other := by
  rw [← UInt32.toNat_inj, toNat_numberIn hcount hname, toNat_numberIn hcount hother,
    List.idxOf_inj hname]

end Numbers

/-- A name has the same number among more names. -/
theorem numberIn_eq_of_prefix {names more : List String} (h : names <+: more) {name : String}
    (hname : name ∈ names) : numberIn names name = numberIn more name := by
  rw [numberIn, numberIn, h.idxOf_eq_of_mem hname]

/-! ### Taking a name up -/

theorem idOf?_of_mem {name : String} (h : name ∈ index.names) :
    index.idOf? name = some (numberIn index.names name) := by
  have hfound : index.names.findIdx? (· == name) = some (index.names.idxOf name) :=
    List.findIdx?_eq_some_of_exists ⟨name, h, beq_self_eq_true name⟩
  rw [names, List.findIdx?_map] at hfound
  exact congrArg (Option.map UInt32.ofNat) hfound

theorem idOf?_of_notMem {name : String} (h : name ∉ index.names) : index.idOf? name = none := by
  have hnone : index.symbols.findIdx? (·.name == name) = none :=
    List.findIdx?_eq_none_iff.2 fun entry hentry => beq_eq_false_iff_ne.2 fun hname =>
      h (hname ▸ List.mem_map_of_mem hentry)
  rw [idOf?, hnone, Option.map_none]

theorem names_intern (index : SymbolIndex) (name : String) :
    (index.intern name).1.names = addName index.names name := by
  by_cases h : name ∈ index.names
  · rw [addName_of_mem h, intern, idOf?_of_mem h]
  · rw [addName_of_notMem h, intern, idOf?_of_notMem h]
    exact List.map_append ..

/-- A name is numbered by its place among the names. -/
theorem intern_snd (index : SymbolIndex) (name : String) :
    (index.intern name).2 = numberIn (addName index.names name) name := by
  by_cases h : name ∈ index.names
  · rw [addName_of_mem h, intern, idOf?_of_mem h]
  · rw [addName_of_notMem h, intern, idOf?_of_notMem h, numberIn, List.idxOf_append_of_notMem h]
    simp [names]

/-- The symbol of a name, if there are numbers for all names, is the one at the place of the name. -/
theorem symbol?_numberIn (hcount : index.names.length ≤ UInt32.size) {name : String}
    (h : name ∈ index.names) :
    index.symbol? (numberIn index.names name) = index.symbols[index.names.idxOf name]? := by
  rw [symbol?, toNat_numberIn hcount h]

theorem files_intern (index : SymbolIndex) (name : String) :
    (index.intern name).1.files = index.files := by
  rcases index.intern_cases name with ⟨id, -, hintern⟩ | ⟨-, hintern⟩ <;> rw [hintern]

/-! ### More names than numbers -/

/-- So many names, each the decimal writing of its place. -/
def decimalNames (count : Nat) : List String := (List.range count).map Nat.repr

theorem repr_injective : Function.Injective Nat.repr := fun a b h => by
  rw [Nat.repr_eq_ofList_toDigits, Nat.repr_eq_ofList_toDigits, String.ofList_inj] at h
  rw [← Nat.ofDigitChars_ten_toDigits (n := a), h, Nat.ofDigitChars_ten_toDigits]

theorem nodup_decimalNames (count : Nat) : (decimalNames count).Nodup :=
  List.nodup_range.map repr_injective

theorem eraseDups_decimalNames (count : Nat) :
    (decimalNames count).eraseDups = decimalNames count := by
  induction count with
  | zero => rfl
  | succ count ih =>
    have hnew : count.repr ∉ decimalNames count := fun hmem => by
      obtain ⟨place, hplace, hrepr⟩ := List.mem_map.1 hmem
      rw [repr_injective hrepr, List.mem_range] at hplace
      exact Nat.lt_irrefl _ hplace
    have hsucc : decimalNames (count + 1) = decimalNames count ++ [count.repr] := by
      rw [decimalNames, List.range_succ, List.map_append]
      rfl
    rw [hsucc, ← foldl_addName_nil, List.foldl_append, foldl_addName_nil, ih, List.foldl_cons,
      List.foldl_nil, addName_of_notMem hnew]

theorem repr_mem_decimalNames {place count : Nat} (h : place < count) :
    place.repr ∈ decimalNames count :=
  List.mem_map_of_mem (List.mem_range.2 h)

theorem idxOf_decimalNames {place count : Nat} (h : place < count) :
    (decimalNames count).idxOf place.repr = place := by
  have hlength : place < (decimalNames count).length := by
    rwa [decimalNames, List.length_map, List.length_range]
  have hget : (decimalNames count)[place] = place.repr := by
    simp only [decimalNames, List.getElem_map, List.getElem_range]
  rw [← hget]
  exact (nodup_decimalNames count).idxOf_getElem place hlength

/-- **Behind as many names as there are numbers the next name has the number of the first one.** -/
theorem idOf?_repr_size {count : Nat} (hcount : UInt32.size < count)
    (h : index.names = decimalNames count) :
    index.idOf? (Nat.repr UInt32.size) = index.idOf? (Nat.repr 0) := by
  have hpos : 0 < count := Nat.zero_lt_of_lt hcount
  rw [idOf?_of_mem (h ▸ repr_mem_decimalNames hcount),
    idOf?_of_mem (h ▸ repr_mem_decimalNames hpos), h, numberIn, numberIn,
    idxOf_decimalNames hcount, idxOf_decimalNames hpos]
  rfl

/-! ### Adding records -/

theorem names_addSymbol (index : SymbolIndex) (record : SymbolRecord) :
    (addSymbol base index record).names = addName index.names record.name :=
  (map_name_modify_update base record _ _).trans (index.names_intern record.name)

theorem files_addSymbol (index : SymbolIndex) (record : SymbolRecord) :
    (addSymbol base index record).files = index.files :=
  index.files_intern record.name

theorem names_addRef (index : SymbolIndex) (record : RefRecord) :
    (addRef base index record).names = addName index.names record.symbol :=
  index.names_intern record.symbol

/-- Records that each add a name add their names in order. -/
theorem names_foldl {β : Type} {add : SymbolIndex → β → SymbolIndex} {name : β → String}
    (h : ∀ index record, (add index record).names = addName index.names (name record))
    (records : List β) (index : SymbolIndex) :
    (records.foldl add index).names = (records.map name).foldl addName index.names := by
  rw [List.foldl_map]
  exact (List.foldl_hom names fun index record => (h index record).symm).symm

/-- **The names of an index are those of its records**, each where it first occurs. -/
theorem names_ofData (data : IndexData) (base : Option Path) :
    (ofData data base).names = data.names.eraseDups := by
  rw [← foldl_addName_nil, IndexData.names, List.foldl_append]
  refine (names_foldl names_addRef data.refs _).trans ?_
  rw [names_foldl names_addSymbol]
  rfl

end SymbolIndex

end CodeBrowser
