import CodeBrowser.Proofs.Disk.Canonical
import CodeBrowser.Proofs.Path.Components
import Mathlib.Data.List.Nodup

/-!
# Kept files

Every file that has been opened is kept by the path that it was read under, which is a normal form.
So the file is found again by that path whatever files are on disk by then, and nothing is read for
it. The kept files only ever become more, and no two of them are the same opening.

## Main definitions

* `FileCache.Keeps`: a file is kept by its own path.
* `FileCache.Sound`: what holds of the kept files at any time.
* `FileCache.Grows`: what was kept is still kept.

## Main results

* `FileCache.Sound.openFile_eq`: a kept file is opened without reading it.
* `FileCache.sound_openFile`, `FileCache.grows_openFile`, `FileCache.exists_keeps_of_openFile`: what
  opening a file does to the kept files.
* `FileCache.Sound.eq_of_serial_eq`: kept files of one opening are equal.
-/

namespace CodeBrowser

/-- What a file that has been opened knows of its opening. -/
theorem SourceFile.load_eq_ok {disk : Disk} {path : Path} {serial : Nat} {file : SourceFile}
    (h : load disk path serial = .ok file) :
    file.path = some path ∧ file.serial = serial ∧ ∃ bytes, disk.read path = .ok bytes := by
  unfold load at h
  cases hread : disk.read path with
  | error e => simp [hread] at h
  | ok bytes =>
    simp only [hread] at h
    split at h
    · contradiction
    · obtain rfl := Except.ok.inj h
      exact ⟨rfl, rfl, bytes, rfl⟩

namespace FileCache

/-- A cache keeps a file by the file's own path. -/
structure Keeps (cache : FileCache) (path : Path) (file : SourceFile) : Prop where
  find?_eq : cache.find? path = some file
  path_eq : file.path = some path

/-- Every kept file is kept by its own path, which it was read under on one of the disks, and no two
are of one opening. -/
structure Sound (cache : FileCache) (disks : Set Disk) : Prop where
  path_eq : ∀ entry ∈ cache.entries, entry.2.path = some entry.1
  isNormal : ∀ entry ∈ cache.entries, Disk.IsNormal disks entry.1
  serial_lt : ∀ entry ∈ cache.entries, entry.2.serial < cache.nextSerial
  serials_nodup : (cache.entries.map (·.2.serial)).Nodup

/-- What one cache keeps, the other one keeps too. -/
def Grows (cache next : FileCache) : Prop :=
  ∀ path file, cache.Keeps path file → next.Keeps path file

variable {cache : FileCache} {disks : Set Disk} {disk : Disk} {path : Path} {file : SourceFile}

theorem Grows.refl (cache : FileCache) : cache.Grows cache := fun _ _ h => h

theorem Grows.trans {middle next : FileCache} (h : cache.Grows middle) (h' : middle.Grows next) :
    cache.Grows next :=
  fun path file hkeeps => h' path file (h path file hkeeps)

theorem sound_empty : empty.Sound disks where
  path_eq _ h := absurd h List.not_mem_nil
  isNormal _ h := absurd h List.not_mem_nil
  serial_lt _ h := absurd h List.not_mem_nil
  serials_nodup := List.nodup_nil

/-- A path by which a file is kept determines the file. -/
theorem Keeps.eq {other : SourceFile} (h : cache.Keeps path file) (h' : cache.Keeps path other) :
    file = other :=
  Option.some.inj (h.find?_eq.symm.trans h'.find?_eq)

/-- Paths that are the same find the same file. -/
theorem find?_congr {p q : Path} (h : p.same q = true) : cache.find? p = cache.find? q := by
  simp only [find?, Path.same_congr_right h]

theorem Sound.exists_keeps (h : cache.Sound disks) (hfind : cache.find? path = some file) :
    ∃ key, cache.Keeps key file ∧ (key, file) ∈ cache.entries := by
  obtain ⟨⟨key, found⟩, hentry, rfl⟩ := Option.map_eq_some_iff.1 hfind
  have hmem := List.mem_of_find?_eq_some hentry
  have hsame : key.same path = true := by simpa using List.find?_some hentry
  exact ⟨key, ⟨(find?_congr hsame).trans hfind, h.path_eq _ hmem⟩, hmem⟩

/-- A kept file is opened without reading it, whatever has become of it on disk. -/
theorem Sound.openFile_eq (h : cache.Sound disks) (hkeeps : cache.Keeps path file)
    (hdisks : Disk.Settled disks) (hdisk : disk ∈ disks) :
    cache.openFile disk path = (.ok file, cache) := by
  obtain ⟨key, hkey, hmem⟩ := h.exists_keeps hkeeps.find?_eq
  obtain rfl : key = path := Option.some.inj (hkey.path_eq.symm.trans hkeeps.path_eq)
  simp only [openFile, (h.isNormal _ hmem).normalize_eq hdisks hdisk, hkeeps.find?_eq]

/-- Kept files of one opening are equal. -/
theorem Sound.eq_of_serial_eq (h : cache.Sound disks) {p q : Path} {other : SourceFile}
    (hfile : cache.Keeps p file) (hother : cache.Keeps q other)
    (hserial : file.serial = other.serial) : file = other := by
  obtain ⟨_, -, hmem⟩ := h.exists_keeps hfile.find?_eq
  obtain ⟨_, -, hmem'⟩ := h.exists_keeps hother.find?_eq
  exact congrArg Prod.snd (List.inj_on_of_nodup_map h.serials_nodup hmem hmem' hserial)

/-! ### Opening a file -/

section Insert

variable (h : cache.Sound disks) (hnew : cache.find? path = none)
  (hload : SourceFile.load disk path cache.nextSerial = .ok file) (hpath : Disk.IsNormal disks path)

include h hload hpath in
/-- A file that is read is kept by the path that it was read under. -/
theorem sound_insert : (cache.insert path file).Sound disks := by
  obtain ⟨hfile, hserial, -⟩ := SourceFile.load_eq_ok hload
  refine ⟨?_, ?_, ?_, ?_⟩
  · exact List.forall_mem_cons.2 ⟨hfile, h.path_eq⟩
  · exact List.forall_mem_cons.2 ⟨hpath, h.isNormal⟩
  · refine List.forall_mem_cons.2 ⟨?_, fun entry hentry => ?_⟩
    · exact hserial ▸ Nat.lt_succ_self _
    · exact Nat.lt_succ_of_lt (h.serial_lt entry hentry)
  · refine List.nodup_cons.2 ⟨fun hmem => ?_, h.serials_nodup⟩
    obtain ⟨entry, hentry, heq⟩ := List.mem_map.1 hmem
    exact Nat.ne_of_lt (h.serial_lt entry hentry) (heq.trans hserial)

include hload in
theorem keeps_insert : (cache.insert path file).Keeps path file := by
  refine ⟨?_, (SourceFile.load_eq_ok hload).1⟩
  simp only [find?, insert, List.find?_cons, Path.same_self, Option.map_some]

include hnew in
theorem grows_insert : cache.Grows (cache.insert path file) := by
  intro other kept hkept
  refine ⟨?_, hkept.path_eq⟩
  have hother : path.same other = false := by
    rw [Bool.eq_false_iff]
    intro hsame
    rw [find?_congr hsame, hkept.find?_eq] at hnew
    contradiction
  simp only [find?, insert, List.find?_cons, hother]
  exact hkept.find?_eq

end Insert

/-- What opening a file can do: find a kept file, read one that is kept from then on, or fail. -/
theorem openFile_cases (cache : FileCache) (disk : Disk) (path : Path) :
    (∃ file, cache.find? (disk.normalize path) = some file ∧
      cache.openFile disk path = (.ok file, cache)) ∨
    (∃ file, cache.find? (disk.normalize path) = none ∧
      SourceFile.load disk (disk.normalize path) cache.nextSerial = .ok file ∧
      cache.openFile disk path = (.ok file, cache.insert (disk.normalize path) file)) ∨
    ∃ e, cache.openFile disk path = (.error e, cache) := by
  cases hfind : cache.find? (disk.normalize path) with
  | some file => exact .inl ⟨file, rfl, by simp only [openFile, hfind]⟩
  | none =>
    cases hload : SourceFile.load disk (disk.normalize path) cache.nextSerial with
    | ok file => exact .inr (.inl ⟨file, rfl, rfl, by simp only [openFile, hfind, hload]⟩)
    | error e => exact .inr (.inr ⟨e, by simp only [openFile, hfind, hload]⟩)

/-- Opening a file, with or without success, keeps the cache sound. -/
theorem sound_openFile (h : cache.Sound disks) (hdisk : disk ∈ disks) (path : Path) :
    (cache.openFile disk path).2.Sound disks := by
  obtain ⟨file, -, heq⟩ | ⟨file, -, hload, heq⟩ | ⟨e, heq⟩ := cache.openFile_cases disk path
  · exact heq ▸ h
  · obtain ⟨-, -, bytes, hread⟩ := SourceFile.load_eq_ok hload
    exact heq ▸ sound_insert h hload ⟨disk, hdisk, path, bytes, rfl, hread⟩
  · exact heq ▸ h

/-- Opening a file, with or without success, gives up no kept file. -/
theorem grows_openFile (cache : FileCache) (disk : Disk) (path : Path) :
    cache.Grows (cache.openFile disk path).2 := by
  obtain ⟨file, -, heq⟩ | ⟨file, hnew, -, heq⟩ | ⟨e, heq⟩ := cache.openFile_cases disk path
  · exact heq ▸ .refl cache
  · exact heq ▸ grows_insert hnew
  · exact heq ▸ .refl cache

/-- A file that has been opened is kept. -/
theorem exists_keeps_of_openFile (h : cache.Sound disks)
    (hopen : (cache.openFile disk path).1 = .ok file) :
    ∃ key, (cache.openFile disk path).2.Keeps key file := by
  obtain ⟨found, hfind, heq⟩ | ⟨found, -, hload, heq⟩ | ⟨e, heq⟩ := cache.openFile_cases disk path
  · rw [heq] at hopen ⊢
    obtain rfl := Except.ok.inj hopen
    obtain ⟨key, hkeeps, -⟩ := h.exists_keeps hfind
    exact ⟨key, hkeeps⟩
  · rw [heq] at hopen ⊢
    obtain rfl := Except.ok.inj hopen
    exact ⟨_, keeps_insert hload⟩
  · rw [heq] at hopen
    contradiction

end FileCache

end CodeBrowser
