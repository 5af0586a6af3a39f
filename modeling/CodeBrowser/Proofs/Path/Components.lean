import CodeBrowser.Path
import Mathlib.Data.Ordering.Basic
import Mathlib.Data.List.Basic

/-!
# Paths by their components

Paths are ordered by their components, and components by rank and then by name. This is a total
order up to the way in which a path is written: of two paths neither of which comes before the
other, both have the same components. Seen from behind, one of two paths may go on where the other
ends, and then the shorter one is what they share.

## Main definitions

* `Component.label`: the name of a component that has one.
* `commonPrefixLength`, `Path.sharedTrailing`: how many last components two paths share.
* `Path.Compatible`: one of two paths ends with the other.

## Main results

* `Component.compare_eq_compareLex`, `Path.compareComponents_eq_compareLex`: the orders are
  lexicographic, and so they are total.
* `Path.same_iff`, `Path.compare_eq_eq_iff`: what it means for two paths to be the same.
* `Path.components_join`: the components of a path seen from a directory.
* `Path.sharedTrailing_of_endsWith`: what compatible paths share.
-/

namespace CodeBrowser

open Std (TransCmp LawfulEqCmp OrientedCmp)

namespace Component

/-- The name of a component that has one. -/
def label : Component → String
  | .normal name => name
  | _ => ""

/-- Components are ordered by rank and then by name. -/
theorem compare_eq_compareLex :
    Component.compare = compareLex (compareOn rank) (compareOn label) := by
  funext a b
  cases a <;> cases b <;> rfl

instance : TransCmp Component.compare := by
  rw [compare_eq_compareLex]
  infer_instance

instance : LawfulEqCmp Component.compare where
  eq_of_compare {a b} h := by
    rw [compare_eq_compareLex, compareLex, Ordering.then_eq_eq] at h
    obtain ⟨hrank, hlabel⟩ := h
    have hrank : a.rank = b.rank := Nat.compare_eq_eq.1 hrank
    have hlabel : a.label = b.label := Std.compare_eq_iff_eq.1 hlabel
    cases a <;> cases b <;> simp_all [rank, label]

end Component

namespace Path

/-- The order of lists of components is the lexicographic one. -/
theorem compareComponents_eq_compareLex : (as bs : List Component) →
    compareComponents as bs = List.compareLex Component.compare as bs
  | [], [] => rfl
  | [], _ :: _ => rfl
  | _ :: _, [] => rfl
  | a :: as, b :: bs => by
      rw [compareComponents, List.compareLex_cons_cons, compareComponents_eq_compareLex as bs]

instance : TransCmp Path.compare where
  eq_swap {p q} := by
    simp only [compare, compareComponents_eq_compareLex]
    exact OrientedCmp.eq_swap
  isLE_trans {p q r} := by
    simp only [compare, compareComponents_eq_compareLex]
    exact TransCmp.isLE_trans

/-- Compared the other way round, two paths compare the other way. -/
theorem compare_swap (p q : Path) : p.compare q = (q.compare p).swap :=
  OrientedCmp.eq_swap

variable {p q : Path}

/-- Two paths are the same iff they have the same components. -/
theorem same_iff : p.same q = true ↔ p.components = q.components :=
  beq_iff_eq

theorem same_self (p : Path) : p.same p = true :=
  same_iff.2 rfl

/-- Paths that are the same are the same as the same paths. -/
theorem same_congr_right (h : p.same q = true) (r : Path) : r.same p = r.same q := by
  rw [same, same, same_iff.1 h]

theorem same_comm (p q : Path) : p.same q = q.same p :=
  Bool.eq_iff_iff.2 (by rw [same_iff, same_iff, eq_comm])

/-- Of two paths that are not the same, one comes before the other. -/
theorem compare_eq_eq_iff : p.compare q = .eq ↔ p.same q = true := by
  rw [compare, compareComponents_eq_compareLex, LawfulEqCmp.compare_eq_iff_eq, same_iff]

/-! ### Joined paths -/

theorem splitSlashes_ne_nil (s : List Char) : splitSlashes s ≠ [] := by
  unfold splitSlashes
  split
  · exact List.cons_ne_nil _ _
  · exact List.cons_ne_nil _ _
  · split <;> exact List.cons_ne_nil _ _

/-- A slash between two texts keeps their pieces apart. -/
theorem splitSlashes_append_slash (t : List Char) : (s : List Char) →
    splitSlashes (s ++ '/' :: t) = splitSlashes s ++ splitSlashes t
  | [] => rfl
  | c :: s => by
      by_cases hc : c = '/'
      · subst hc
        rw [List.cons_append, splitSlashes, splitSlashes, splitSlashes_append_slash t s]
        rfl
      · obtain ⟨piece, more, hpieces⟩ := List.exists_cons_of_ne_nil (splitSlashes_ne_nil s)
        rw [List.cons_append, splitSlashes, splitSlashes_append_slash t s, splitSlashes, hpieces]
        · rfl
        · exact hc
        · exact hc

/-- What a path without the slash or the `.` at its start has for components. -/
theorem filterMap_pieceComponent?_splitSlashes (h : p.isAbsolute = false) :
    (splitSlashes p.text.toList).filterMap pieceComponent? =
      p.components.filter (· != .current) := by
  have hpieces : ((splitSlashes p.text.toList).filterMap pieceComponent?).filter (· != .current) =
      (splitSlashes p.text.toList).filterMap pieceComponent? := by
    refine List.filter_eq_self.2 fun component hcomponent => ?_
    obtain ⟨piece, -, hpiece⟩ := List.mem_filterMap.1 hcomponent
    unfold pieceComponent? at hpiece
    split_ifs at hpiece <;> cases hpiece <;> rfl
  rw [components, if_neg (by simp [h]), List.filter_append, hpieces]
  split_ifs <;> rfl

/-- What stands before a slash, and what behind it. -/
theorem components_of_slash {s t : List Char} (hp : p.text.toList = s ++ '/' :: t)
    (hq : q.text.toList = s ++ ['/']) :
    p.components = q.components ++ (splitSlashes t).filterMap pieceComponent? := by
  have habsolute : p.isAbsolute = q.isAbsolute := by
    rw [isAbsolute, isAbsolute, hp, hq, List.head?_append, List.head?_append]
    rfl
  have hhead (more : List (List Char)) : (splitSlashes s ++ more).head? = (splitSlashes s).head? :=
    List.head?_append_of_ne_nil _ (splitSlashes_ne_nil s)
  have hnil : List.filterMap pieceComponent? (splitSlashes []) = [] := rfl
  simp only [components, habsolute, hp, hq, hhead, splitSlashes_append_slash,
    List.filterMap_append, hnil, List.append_nil, List.append_assoc]

/-- A slash at the end of a path that has any other text adds no component. -/
theorem components_append_slash (hp : p.text.toList ≠ [])
    (hq : q.text.toList = p.text.toList ++ ['/']) : q.components = p.components := by
  have habsolute : q.isAbsolute = p.isAbsolute := by
    rw [isAbsolute, isAbsolute, hq, List.head?_append_of_ne_nil _ hp]
  have hnil : List.filterMap pieceComponent? (splitSlashes []) = [] := rfl
  simp only [components, habsolute, hq, splitSlashes_append_slash, hnil, List.filterMap_append,
    List.append_nil, List.head?_append_of_ne_nil _ (splitSlashes_ne_nil _)]

/-- **The components of a path seen from a directory.** An absolute path stands for itself; the
components of another one come behind those of the directory, without a `.` at its start. -/
theorem components_join (base path : Path) (hbase : base.text ≠ "") :
    (base.join path).components =
      if path.isAbsolute then path.components
      else base.components ++ path.components.filter (· != .current) := by
  have hne : base.text.toList ≠ [] := by simpa using hbase
  have hempty : base.text.isEmpty = false := by simpa [String.isEmpty_iff] using hbase
  rw [join]
  split_ifs with habsolute hslash
  · rfl
  · obtain ⟨s, hs⟩ : ∃ s, base.text.toList = s ++ ['/'] :=
      List.getLast?_eq_some_iff.1 (by simpa [hempty] using hslash)
    rw [← filterMap_pieceComponent?_splitSlashes (by simpa using habsolute)]
    refine components_of_slash (s := s) ?_ hs
    rw [String.toList_append, hs, List.append_assoc]
    rfl
  · rw [← filterMap_pieceComponent?_splitSlashes (by simpa using habsolute)]
    have htext : (⟨base.text ++ "/"⟩ : Path).text.toList = base.text.toList ++ ['/'] :=
      String.toList_append ..
    rw [← components_append_slash hne htext]
    refine components_of_slash (s := base.text.toList) ?_ htext
    rw [String.toList_append, String.toList_append, List.append_assoc]
    rfl

/-! ### Endings -/

/-- One of the paths ends with the other. -/

def Compatible (p q : Path) : Prop :=
  q.components <:+ p.components ∨ p.components <:+ q.components

end Path

/-- How many first elements two lists share. -/
def commonPrefixLength {β : Type} [DecidableEq β] : List β → List β → Nat
  | a :: as, b :: bs => if a = b then commonPrefixLength as bs + 1 else 0
  | _, _ => 0

theorem commonPrefixLength_comm {β : Type} [DecidableEq β] : (as bs : List β) →
    commonPrefixLength as bs = commonPrefixLength bs as
  | [], [] => rfl
  | [], _ :: _ => rfl
  | _ :: _, [] => rfl
  | a :: as, b :: bs => by
      rw [commonPrefixLength, commonPrefixLength, commonPrefixLength_comm as bs]
      exact if_congr eq_comm rfl rfl

theorem commonPrefixLength_append {β : Type} [DecidableEq β] (rest : List β) : (as : List β) →
    commonPrefixLength as (as ++ rest) = as.length
  | [] => by cases rest <;> rfl
  | a :: as => by
      rw [List.cons_append, commonPrefixLength, if_pos rfl, commonPrefixLength_append rest as]
      rfl

namespace Path

/-- How many last components two paths share. -/
def sharedTrailing (p q : Path) : Nat :=
  commonPrefixLength p.components.reverse q.components.reverse

theorem sharedTrailing_comm (p q : Path) : p.sharedTrailing q = q.sharedTrailing p :=
  commonPrefixLength_comm ..

theorem endsWith_iff {p q : Path} : p.endsWith q = true ↔ q.components <:+ p.components :=
  List.isSuffixOf_iff_suffix

/-- A path shares all its components with a path that ends with it. -/
theorem sharedTrailing_of_endsWith {p q : Path} (h : p.endsWith q = true) :
    p.sharedTrailing q = q.components.length := by
  obtain ⟨front, hfront⟩ := endsWith_iff.1 h
  rw [sharedTrailing_comm, sharedTrailing, ← hfront, List.reverse_append,
    commonPrefixLength_append, List.length_reverse]

end Path

end CodeBrowser
