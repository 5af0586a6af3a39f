import CodeBrowser.Proofs.Path.Components
import CodeBrowser.Session.FileCache
import Mathlib.Data.Set.Operations
import Mathlib.Tactic.SplitIfs

/-!
# Canonical paths

The path of a place names every step of the way from the root and nothing else. If none of the steps
is a link, such a path leads to that very place wherever it leads anywhere. So disks with the same
links settle what is a canonical path, whatever files come and go: such a path stays what it is when
it is normalized.

Where the canonical path is not told, a file is read under the path as it is given. Such a path may
have links on the way, and it stays what it is only as long as no other path is told for it. Of what
is given in canonical form this can be said again: disks that withhold nothing else settle that too.

## Main definitions

* `Disk.IsName`: a name of a file or a directory.
* `Disk.IsPlain`, `Disk.IsCanonical`: a place without links on the way, and the path of one.
* `Disk.Leaves`: a path is its own canonical path, as far as one is told.
* `Disk.Settled`: some disks have settled what files are read under.
* `Disk.withLinks`: the disks with some links.
* `Disk.IsNormal`: a path that a file has been read under, after normalizing, on one of some disks.

## Main results

* `Disk.find_of_find_asGiven`: a path as it is given leads nowhere else than the path.
* `Disk.settled_withLinks`: disks with the same links have settled what files are read under, if they
  withhold only what is given in canonical form.
* `Disk.IsNormal.normalize_eq`: what a file has been read under is its own normal form where that is
  settled.
-/

namespace CodeBrowser

/-! ### Pieces of a text -/

namespace Path

/-- No piece contains a slash. -/
theorem slash_notMem_of_mem_splitSlashes (s : List Char) :
    ∀ piece ∈ splitSlashes s, '/' ∉ piece := by
  induction s with
  | nil => simp [splitSlashes]
  | cons c s ih =>
    by_cases hc : c = '/'
    · subst hc
      simpa [splitSlashes] using ih
    · rw [splitSlashes]
      · cases hsplit : splitSlashes s with
        | nil => simp [Ne.symm hc]
        | cons piece more =>
          rw [hsplit] at ih
          simpa [Ne.symm hc] using ih
      · exact hc

/-- A text without slashes is one piece. -/
theorem splitSlashes_of_notMem : (piece : List Char) → '/' ∉ piece → splitSlashes piece = [piece]
  | [], _ => rfl
  | c :: piece, h => by
      rw [List.mem_cons, not_or] at h
      rw [splitSlashes, splitSlashes_of_notMem piece h.2]
      exact fun hc => h.1 hc.symm

/-- Pieces with slashes between them are told apart again. -/
theorem splitSlashes_intercalate : (pieces : List (List Char)) → pieces ≠ [] →
    (∀ piece ∈ pieces, '/' ∉ piece) → splitSlashes (['/'].intercalate pieces) = pieces
  | [], h, _ => absurd rfl h
  | [piece], _, h => by
      rw [List.intercalate_singleton]
      exact splitSlashes_of_notMem piece (h piece (List.mem_cons_self ..))
  | piece :: next :: pieces, _, h => by
      rw [List.intercalate_cons_cons, List.append_assoc, List.singleton_append,
        splitSlashes_append_slash _ piece, splitSlashes_of_notMem piece (h piece List.mem_cons_self),
        splitSlashes_intercalate (next :: pieces) (List.cons_ne_nil _ _)
          fun piece hpiece => h piece (List.mem_cons_of_mem _ hpiece)]
      rfl

end Path

namespace Disk

variable {disk : Disk} {place : Place} {path : Path}

/-! ### Names and places -/

/-- A name of a file or a directory: a piece of a path that a walk does not read as a detour. -/
structure IsName (name : String) : Prop where
  ne_nil : name.toList ≠ []
  ne_current : name.toList ≠ ['.']
  ne_parent : name.toList ≠ ['.', '.']
  slash_notMem : '/' ∉ name.toList

/-- A place that a walk can get to: every step of the way has a name, and none is a link. -/
structure IsPlain (links : List (Place × Path)) (place : Place) : Prop where
  isName : ∀ name ∈ place, IsName name
  unlinked : ∀ step, step <+: place → step ≠ [] → links.lookup step = none

/-- The path of a place without links on the way. -/
def IsCanonical (links : List (Place × Path)) (path : Path) : Prop :=
  ∃ place, IsPlain links place ∧ path = pathOf place

section Plain

variable {links : List (Place × Path)}

theorem isPlain_nil : IsPlain links [] :=
  ⟨fun _ hname => absurd hname List.not_mem_nil,
    fun _ hstep hne => absurd (List.prefix_nil.1 hstep) hne⟩

theorem IsPlain.above {above : Place} (h : IsPlain links place) (habove : above <+: place) :
    IsPlain links above :=
  ⟨fun name hname => h.isName name (habove.subset hname),
    fun step hstep => h.unlinked step (hstep.trans habove)⟩

theorem IsPlain.concat {name : String} (h : IsPlain links place) (hname : IsName name)
    (hlink : links.lookup (place ++ [name]) = none) : IsPlain links (place ++ [name]) := by
  refine ⟨fun other hother => ?_, fun step hstep hne => ?_⟩
  · rcases List.mem_append.1 hother with hother | hother
    · exact h.isName other hother
    · obtain rfl := List.mem_singleton.1 hother
      exact hname
  · rcases List.prefix_concat_iff.1 hstep with rfl | hstep
    · exact hlink
    · exact h.unlinked step hstep hne

end Plain

/-! ### Walks -/

/-- A leg ends at a place without links on the way, and what is left to walk comes in pieces. -/
def Leg.IsPlain (links : List (Place × Path)) : Leg → Prop
  | .arrived place => Disk.IsPlain links place
  | .linked place pieces => Disk.IsPlain links place ∧ ∀ piece ∈ pieces, '/' ∉ piece

theorem isPlain_stride {leg : Leg} : (pieces : List (List Char)) → (place : Place) →
    (∀ piece ∈ pieces, '/' ∉ piece) → IsPlain disk.links place →
    disk.stride place pieces = .ok leg → leg.IsPlain disk.links
  | [], place, _, hplace, h => by
      rw [stride] at h
      exact Except.ok.inj h ▸ hplace
  | piece :: pieces, place, hpieces, hplace, h => by
      have hrest := fun piece hpiece => hpieces piece (List.mem_cons_of_mem _ hpiece)
      rw [stride] at h
      split at h
      · contradiction
      split_ifs at h with hstay hup
      · exact isPlain_stride pieces place hrest hplace h
      · exact isPlain_stride pieces place.dropLast hrest
          (hplace.above (List.dropLast_prefix place)) h
      · rw [not_or] at hstay
        have hname : IsName (String.ofList piece) :=
          ⟨by simpa using hstay.1, by simpa using hstay.2, by simpa using hup,
            by simpa using hpieces piece (List.mem_cons_self ..)⟩
        split at h
        · rename_i hlink
          exact isPlain_stride pieces _ hrest (hplace.concat hname hlink) h
        · obtain rfl := Except.ok.inj h
          refine ⟨?_, fun piece hpiece => ?_⟩
          · split_ifs
            · exact isPlain_nil
            · exact hplace
          · exact (List.mem_append.1 hpiece).elim
              (Path.slash_notMem_of_mem_splitSlashes _ piece) (hrest piece)

/-- A walk gets only to places without links on the way. -/
theorem isPlain_walk {target : Place} (links : Nat) {pieces : List (List Char)}
    (hpieces : ∀ piece ∈ pieces, '/' ∉ piece) (hplace : IsPlain disk.links place)
    (h : disk.walk links place pieces = .ok target) : IsPlain disk.links target := by
  fun_induction walk disk links place pieces with
  | case1 => contradiction
  | case2 links place pieces found hstride =>
    obtain rfl := Except.ok.inj h
    exact isPlain_stride pieces place hpieces hplace hstride
  | case3 => contradiction
  | case4 place pieces next left hstride links ih =>
    obtain ⟨hnext, hleft⟩ := isPlain_stride pieces place hpieces hplace hstride
    exact ih hleft hnext h

/-- A leg along names, without links on the way, goes one step further with each. -/
theorem stride_names {leg : Leg} {rest : List (List Char)} : (names : List String) →
    (place : Place) → IsPlain disk.links (place ++ names) →
      disk.stride place (names.map (·.toList) ++ rest) = .ok leg →
        disk.stride (place ++ names) rest = .ok leg
  | [], place, _, h => by
      rwa [List.append_nil]
  | name :: names, place, hplain, h => by
      have hname := hplain.isName name (by simp)
      have hlink : disk.links.lookup (place ++ [name]) = none :=
        hplain.unlinked _ ⟨names, by simp⟩ (by simp)
      rw [List.map_cons, List.cons_append, stride] at h
      split at h
      · contradiction
      rw [if_neg (not_or.2 ⟨hname.ne_nil, hname.ne_current⟩), if_neg hname.ne_parent,
        String.ofList_toList, hlink] at h
      rw [List.append_cons] at hplain ⊢
      exact stride_names names _ hplain h

/-- So does a walk that starts with such a leg. -/
theorem walk_names {target : Place} (links : Nat) {names : List String} {rest : List (List Char)}
    (hplain : IsPlain disk.links (place ++ names))
    (h : disk.walk links place (names.map (·.toList) ++ rest) = .ok target) :
    disk.walk links (place ++ names) rest = .ok target := by
  rw [walk] at h ⊢
  cases hstride : disk.stride place (names.map (·.toList) ++ rest) with
  | error e => simp [hstride] at h
  | ok leg =>
    rw [hstride] at h
    rwa [stride_names names place hplain hstride]

/-- The piece in front of the first slash of an absolute path is empty and leads to the root. -/
theorem walk_root (links : Nat) (pieces : List (List Char)) :
    disk.walk links [] ([] :: pieces) = disk.walk links [] pieces := by
  have hstride : disk.stride [] ([] :: pieces) = disk.stride [] pieces := rfl
  rw [walk, hstride, ← walk]

/-! ### The path of a place -/

theorem toList_pathOf (place : Place) :
    (pathOf place).text.toList = '/' :: ['/'].intercalate (place.map (·.toList)) := by
  rw [pathOf, String.toList_append, String.toList_intercalate]
  rfl

theorem isAbsolute_pathOf (place : Place) : (pathOf place).isAbsolute = true := by
  rw [Path.isAbsolute, toList_pathOf]
  rfl

/-- The pieces of the path of a place, other than the root, are the names on the way. -/
theorem splitSlashes_pathOf (hplace : ∀ name ∈ place, IsName name) (hne : place ≠ []) :
    Path.splitSlashes (pathOf place).text.toList = [] :: place.map (·.toList) := by
  rw [toList_pathOf, Path.splitSlashes, Path.splitSlashes_intercalate]
  · simpa using hne
  · rintro piece hpiece
    obtain ⟨name, hname, rfl⟩ := List.mem_map.1 hpiece
    exact (hplace name hname).slash_notMem

/-- The path of a place, other than the root, does not end in a slash. -/
theorem getLast?_pathOf (hplace : ∀ name ∈ place, IsName name) (hne : place ≠ []) :
    (pathOf place).text.toList.getLast? ≠ some '/' := by
  intro hslash
  obtain ⟨front, hfront⟩ := List.getLast?_eq_some_iff.1 hslash
  have hpieces := splitSlashes_pathOf hplace hne
  rw [hfront, Path.splitSlashes_append_slash] at hpieces
  -- A slash at the end has an empty piece behind it, but the last piece is a name.
  have hlast : (place.map (·.toList)).getLast? = some [] := by
    have hends := congrArg List.getLast? hpieces
    rw [List.getLast?_append, List.getLast?_cons_of_ne_nil (by simpa using hne)] at hends
    exact hends.symm
  obtain ⟨name, hname, hnil⟩ := List.mem_map.1 (List.mem_of_getLast? hlast)
  exact (hplace name hname).ne_nil hnil

/-- The pieces of what is written behind the path of a place follow the names on the way. -/
theorem splitSlashes_pathOf_join (hplace : ∀ name ∈ place, IsName name)
    (h : path.isAbsolute = false) :
    Path.splitSlashes ((pathOf place).join path).text.toList =
      [] :: (place.map (·.toList) ++ Path.splitSlashes path.text.toList) := by
  by_cases hne : place = []
  · subst hne
    have hroot : (pathOf []).text = "/" := by decide
    rw [Path.join, if_neg (by simp [h]), hroot, if_pos (by decide), String.toList_append]
    rfl
  · have hempty : (pathOf place).text.isEmpty = false := by
      rw [Bool.eq_false_iff, ne_eq, String.isEmpty_iff, ← String.toList_eq_nil_iff, toList_pathOf]
      exact List.cons_ne_nil _ _
    have hslash : ¬ ((pathOf place).text.isEmpty ||
        (pathOf place).text.toList.getLast? == some '/') = true := by
      simpa [hempty] using getLast?_pathOf hplace hne
    have htext : ((pathOf place).text ++ "/" ++ path.text).toList =
        (pathOf place).text.toList ++ '/' :: path.text.toList := by
      rw [String.toList_append, String.toList_append, List.append_assoc]
      rfl
    rw [Path.join, if_neg (by simp [h]), if_neg hslash, htext, Path.splitSlashes_append_slash,
      splitSlashes_pathOf hplace hne, List.cons_append]

/-- The path of a place leads there if it leads anywhere. -/
theorem locate_pathOf (hplace : IsPlain disk.links place) {target : Place}
    (h : disk.locate (pathOf place) = .ok target) : target = place := by
  rw [locate, startOf, if_pos (isAbsolute_pathOf place)] at h
  by_cases hne : place = []
  · subst hne
    exact (Except.ok.inj h).symm
  · rw [splitSlashes_pathOf hplace.isName hne, walk_root] at h
    have hwalk : disk.walk maxLinks place [] = .ok target :=
      walk_names maxLinks hplace (by rwa [List.append_nil])
    exact (Except.ok.inj hwalk).symm

/-! ### Canonical paths -/

/-- What a path leads to has the path of its place. -/
theorem exists_find_of_canonical? {canonical : Path} (h : disk.canonical? path = some canonical) :
    ∃ place node, disk.find path = .ok (place, node) ∧ canonical = pathOf place := by
  unfold canonical? at h
  split_ifs at h
  cases hfind : disk.find path with
  | error e => simp [hfind] at h
  | ok target =>
    rw [hfind] at h
    exact ⟨target.1, target.2, rfl, (Option.some.inj h).symm⟩

theorem locate_of_find {target : Place × Node} (h : disk.find path = .ok target) :
    disk.locate path = .ok target.1 := by
  unfold find at h
  cases hlocate : disk.locate path with
  | error e => simp [hlocate] at h
  | ok place =>
    rw [hlocate] at h
    dsimp only at h
    split at h
    · rw [← Except.ok.inj h]
    · contradiction

theorem find_eq_find {other : Path} (h : disk.locate path = disk.locate other) :
    disk.find path = disk.find other := by
  rw [find, find, h]

/-- What is not told or leads nowhere has no canonical path, and nothing else. -/
theorem canonical?_eq_none_iff :
    disk.canonical? path = none ↔ disk.withholds path = true ∨ ∃ e, disk.find path = .error e := by
  unfold canonical?
  split_ifs with hwithheld
  · simp [hwithheld]
  · cases disk.find path <;> simp [hwithheld]

theorem isAbsolute_of_canonical? {canonical : Path} (h : disk.canonical? path = some canonical) :
    canonical.isAbsolute = true := by
  obtain ⟨place, -, -, rfl⟩ := exists_find_of_canonical? h
  exact isAbsolute_pathOf place

/-- The working directory, if it is told, is the place that relative paths start from. -/
theorem workingDirectory?_eq {directory : Path} (h : disk.workingDirectory? = some directory) :
    directory = pathOf disk.home := by
  obtain ⟨place, node, hfind, rfl⟩ := exists_find_of_canonical? h
  have hlocate : disk.walk maxLinks disk.home [['.']] = .ok place := locate_of_find hfind
  rw [walk] at hlocate
  cases henter : disk.enter disk.home with
  | error e => simp [stride, henter] at hlocate
  | ok _ =>
    simp only [stride, henter, or_true, if_true] at hlocate
    exact congrArg pathOf (Except.ok.inj hlocate).symm

theorem isAbsolute_pathOf_join (place : Place) (path : Path) :
    ((pathOf place).join path).isAbsolute = true := by
  rw [Path.join]
  split_ifs with habsolute
  · exact habsolute
  · rw [Path.isAbsolute, String.toList_append, toList_pathOf]
    rfl
  · rw [Path.isAbsolute, String.toList_append, String.toList_append, toList_pathOf]
    rfl

section Home

variable (hhome : IsPlain disk.links disk.home)
include hhome

/-- The path without detours to what a path leads to has no links on the way. -/
theorem isCanonical_of_canonical? {canonical : Path} (h : disk.canonical? path = some canonical) :
    IsCanonical disk.links canonical := by
  obtain ⟨place, node, hfind, rfl⟩ := exists_find_of_canonical? h
  have hstart : IsPlain disk.links (disk.startOf path) := by
    unfold startOf
    split_ifs
    · exact isPlain_nil
    · exact hhome
  exact ⟨place, isPlain_walk _ (Path.slash_notMem_of_mem_splitSlashes _) hstart
    (locate_of_find hfind), rfl⟩

/-- **A path as it is given leads nowhere else than the path.** -/
theorem find_of_find_asGiven {target : Place × Node}
    (h : disk.find (disk.asGiven path) = .ok target) : disk.find path = .ok target := by
  unfold asGiven at h
  split_ifs at h with habsolute
  · exact h
  have hrelative : path.isAbsolute = false := by simpa using habsolute
  cases hdirectory : disk.workingDirectory? with
  | none =>
    have hempty : (⟨""⟩ : Path).join path = path := by
      rw [Path.join, if_neg habsolute, if_pos (by decide), String.empty_append]
    rwa [hdirectory, Option.getD_none, hempty] at h
  | some directory =>
    rw [hdirectory, Option.getD_some, workingDirectory?_eq hdirectory] at h
    -- The walk from the root comes by the working directory and goes on from there.
    have hwalk := locate_of_find h
    rw [locate, startOf, if_pos (isAbsolute_pathOf_join ..),
      splitSlashes_pathOf_join hhome.isName hrelative, walk_root] at hwalk
    have hlocate : disk.locate path = .ok target.1 := by
      rw [locate, startOf, if_neg habsolute]
      exact walk_names maxLinks hhome hwalk
    rwa [find_eq_find (hlocate.trans (locate_of_find h).symm)]

end Home

/-! ### Normal forms -/

/-- Making a path canonical gives the path again, or fails. -/
def Leaves (disk : Disk) (path : Path) : Prop :=
  disk.canonical? path = some path ∨ disk.canonical? path = none

/-- A path without links on the way is its own canonical path, if it has one. -/
theorem IsCanonical.leaves (h : IsCanonical disk.links path) : disk.Leaves path := by
  obtain ⟨place, hplace, rfl⟩ := h
  cases hcanonical : disk.canonical? (pathOf place) with
  | none => exact .inr hcanonical
  | some canonical =>
    obtain ⟨target, node, hfind, rfl⟩ := exists_find_of_canonical? hcanonical
    have htarget : target = place := locate_pathOf hplace (locate_of_find hfind)
    exact .inl (htarget ▸ hcanonical)

theorem IsCanonical.isAbsolute {links : List (Place × Path)} (h : IsCanonical links path) :
    path.isAbsolute = true := by
  obtain ⟨place, -, rfl⟩ := h
  exact isAbsolute_pathOf place

/-- Some disks have settled what files are read under: making such a path canonical, on whichever of
the disks, gives the path again or fails. This is asked of two kinds of paths. A path may have been
found to be canonical; and where no canonical path was told, a file may have been read under the
path as it was given, which then has to be an absolute one. Both are needed: as soon as another path
is told for one that a file was read under, the file is not found by that path any more. -/
structure Settled (disks : Set Disk) : Prop where
  canonical : ∀ disk ∈ disks, ∀ path canonical, disk.canonical? path = some canonical →
    ∀ now ∈ disks, now.Leaves canonical
  given : ∀ disk ∈ disks, ∀ path bytes, disk.canonical? path = none →
    disk.read (disk.asGiven path) = .ok bytes →
      (disk.asGiven path).isAbsolute = true ∧ ∀ now ∈ disks, now.Leaves (disk.asGiven path)

/-- A path that a file has been read under, after normalizing, on one of some disks. -/
def IsNormal (disks : Set Disk) (path : Path) : Prop :=
  ∃ disk ∈ disks, ∃ other bytes, disk.normalize other = path ∧ disk.read path = .ok bytes

/-- The disks with some links that withhold nothing but what is given in canonical form. -/
def withLinks (links : List (Place × Path)) : Set Disk :=
  {disk | disk.links = links ∧ IsPlain links disk.home ∧
    ∀ path, disk.withholds path = true → IsCanonical links (disk.asGiven path)}

/-- **Disks with the same links have settled what files are read under**, whatever is on them, if
they withhold only what is given in canonical form. -/
theorem settled_withLinks (links : List (Place × Path)) : Settled (withLinks links) where
  canonical := by
    rintro disk ⟨rfl, hhome, -⟩ path canonical h now ⟨hnow, -, -⟩
    exact (hnow ▸ isCanonical_of_canonical? hhome h).leaves
  given := by
    rintro disk ⟨rfl, hhome, hwithheld⟩ path bytes hnone hread
    rcases canonical?_eq_none_iff.1 hnone with hpath | ⟨e, hfind⟩
    · have hcanonical := hwithheld path hpath
      exact ⟨hcanonical.isAbsolute, fun now hnow => (hnow.1 ▸ hcanonical).leaves⟩
    · -- What leads nowhere cannot be read as it is given either.
      exfalso
      cases hgiven : disk.find (disk.asGiven path) with
      | error e => simp [read, hgiven] at hread
      | ok target =>
        rw [find_of_find_asGiven hhome hgiven] at hfind
        contradiction

/-- **What a file has been read under is its own normal form** on every disk, where that is
settled. -/
theorem IsNormal.normalize_eq {disks : Set Disk} (h : IsNormal disks path)
    (hdisks : Settled disks) (hdisk : disk ∈ disks) : disk.normalize path = path := by
  obtain ⟨found, hfound, other, bytes, hnormal, hread⟩ := h
  have hkept : path.isAbsolute = true ∧ disk.Leaves path := by
    unfold normalize at hnormal
    cases hcanonical : found.canonical? other with
    | some canonical =>
      rw [hcanonical] at hnormal
      subst hnormal
      exact ⟨isAbsolute_of_canonical? hcanonical,
        hdisks.canonical found hfound other _ hcanonical disk hdisk⟩
    | none =>
      rw [hcanonical] at hnormal
      subst hnormal
      obtain ⟨habsolute, hleaves⟩ := hdisks.given found hfound other bytes hcanonical hread
      exact ⟨habsolute, hleaves disk hdisk⟩
  unfold normalize
  rcases hkept.2 with hcanonical | hcanonical
  · simp only [hcanonical]
  · simp only [hcanonical, asGiven, hkept.1, if_true]

end Disk

end CodeBrowser
