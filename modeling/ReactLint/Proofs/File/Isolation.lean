import ReactLint.FileTree
import ReactLint.Proofs.Finding.Category
import ReactLint.Proofs.List.Distinct

/-!
# Files are checked apart

A check of many files goes through the paths one by one and keeps an entry for each path.  A path
that stands there again, in the same or in another spelling, sets its entry anew in its place.

**Entries.**  What is set anew is what was there, so the loop has an entry for each distinct path,
in the order in which the paths are first seen (`checkEach_eq`).

**Reading.**  A path is read by going through the places on its way.  It leads to a file when all of
them but the last are directories and the last is a file (`read_eq_ok_iff`); in all other cases it
is reported by itself.

**Frame.**  Reading looks at nothing else, and of the files on the way only at the contents of the
last (`read_eq_of_sameFor`).  So no other file and no other path has a say in an entry.
-/

namespace ReactLint

open Text

/-! ## Reading -/

namespace FileTree

/-- The places that names lead through, from the place where they start. -/
def passed (place : List Text) : List Text → List (List Text)
  | [] => [place]
  | name :: rest => place :: passed (next place name) rest

/-- The places on the way of a path. -/
def way (f : FileTree) (p : Path) : List (List Text) := passed (f.start p) p.names

/-- A path leads to a file with these bytes: it goes through directories only, a file stands at its
end, and neither the path nor a name is too long. -/
structure LeadsToFile (f : FileTree) (p : Path) (bytes : List UInt8) : Prop where
  path_fits : (encode p.toText).length ≤ maxPathBytes
  names_fit : ∀ n ∈ p.names, (encode n).length ≤ maxNameBytes
  directories : ∀ q ∈ (f.way p).dropLast, f.node? q = some .directory
  file : f.node? (f.target p) = some (.file bytes)

/-- Why a path leads to no file. -/
inductive Unreadable (f : FileTree) (p : Path) : Prop where
  | missing : f.node? (f.target p) = none → Unreadable f p
  | directory : f.node? (f.target p) = some .directory → Unreadable f p
  /-- The way goes through a file, or through nothing. -/
  | below {q : List Text} : q ∈ (f.way p).dropLast → f.node? q ≠ some .directory → Unreadable f p
  | longPath : maxPathBytes < (encode p.toText).length → Unreadable f p
  | longName {n : Text} : n ∈ p.names → maxNameBytes < (encode n).length → Unreadable f p

/-- Whether a file stands at a place. -/
def hasFile (f : FileTree) (place : List Text) : Bool :=
  match f.node? place with
  | some (.file _) => true
  | _ => false

/-- Two trees look the same to a path: what stands on its way is the same in both, the contents of
files other than the one at its end apart. -/
structure SameFor (f : FileTree) (p : Path) (f' : FileTree) : Prop where
  workingDirectory : f'.workingDirectory = f.workingDirectory
  nodes : ∀ q ∈ f.way p, f'.node? q = f.node? q ∨
    q ≠ f.target p ∧ f.hasFile q = true ∧ f'.hasFile q = true

instance (f : FileTree) (p : Path) (f' : FileTree) : Decidable (f.SameFor p f') :=
  decidable_of_iff (f'.workingDirectory = f.workingDirectory ∧
    ∀ q ∈ f.way p, f'.node? q = f.node? q ∨
      q ≠ f.target p ∧ f.hasFile q = true ∧ f'.hasFile q = true)
    ⟨fun h => ⟨h.1, h.2⟩, fun h => ⟨h.workingDirectory, h.nodes⟩⟩

variable {f f' : FileTree}

lemma passed_ne_nil (place : List Text) (names : List Text) : passed place names ≠ [] := by
  cases names <;> simp [passed]

lemma foldl_next_mem_passed (place : List Text) (names : List Text) :
    names.foldl next place ∈ passed place names := by
  induction names generalizing place with
  | nil => exact List.mem_singleton_self place
  | cons name rest ih => exact List.mem_cons_of_mem _ (ih (next place name))

/-- **One walk.**  It arrives when no name is too long and every place but the last is a
directory. -/
lemma walk_eq_ok_iff {place last : List Text} {names : List Text} :
    f.walk place names = .ok last ↔
      (∀ n ∈ names, (encode n).length ≤ maxNameBytes) ∧
        (∀ q ∈ (passed place names).dropLast, f.node? q = some .directory) ∧
        names.foldl next place = last := by
  induction names generalizing place with
  | nil => simp [walk, passed]
  | cons name rest ih =>
      rw [walk, passed, List.dropLast_cons_of_ne_nil (passed_ne_nil _ _), List.forall_mem_cons,
        List.forall_mem_cons, List.foldl_cons]
      cases hnode : f.node? place with
      | none => simp
      | some n =>
          cases n with
          | file bytes => simp
          | directory =>
              by_cases hfits : (encode name).length ≤ maxNameBytes
              · simp [Nat.not_lt.mpr hfits, hfits, ih]
              · simp [Nat.not_le.mp hfits, hfits]

lemma placeOf_eq_ok_iff {p : Path} {place : List Text} :
    f.placeOf p = .ok place ↔
      (encode p.toText).length ≤ maxPathBytes ∧ f.walk (f.start p) p.names = .ok place := by
  rw [placeOf]
  split_ifs with hlong
  · simp [Nat.not_le.mpr hlong]
  · simp [Nat.not_lt.mp hlong]

lemma find_eq_ok_iff {p : Path} {n : FileNode} :
    f.find p = .ok n ↔ ∃ place, f.placeOf p = .ok place ∧ f.node? place = some n := by
  rw [find]
  cases f.placeOf p with
  | error e => simp
  | ok place => cases hnode : f.node? place <;> simp [hnode]

/-- **Reading succeeds** just when the path leads to a file. -/
lemma read_eq_ok_iff {p : Path} {bytes : List UInt8} :
    f.read p = .ok bytes ↔ f.LeadsToFile p bytes := by
  have hread : f.read p = .ok bytes ↔ f.find p = .ok (.file bytes) := by
    rw [read]
    split <;> simp [*]
  rw [hread, find_eq_ok_iff]
  constructor
  · rintro ⟨place, hplace, hfile⟩
    obtain ⟨hpath, hwalk⟩ := placeOf_eq_ok_iff.mp hplace
    obtain ⟨hnames, hdirectories, rfl⟩ := walk_eq_ok_iff.mp hwalk
    exact ⟨hpath, hnames, hdirectories, hfile⟩
  · intro h
    refine ⟨f.target p, placeOf_eq_ok_iff.mpr ⟨h.path_fits, ?_⟩, h.file⟩
    exact walk_eq_ok_iff.mpr ⟨h.names_fit, h.directories, rfl⟩

/-- The reasons are all there are. -/
lemma unreadable_iff {p : Path} : f.Unreadable p ↔ ∀ bytes, f.read p ≠ .ok bytes := by
  constructor
  · intro h bytes hread
    have hfile := read_eq_ok_iff.mp hread
    cases h with
    | missing hnone => exact absurd (hnone.symm.trans hfile.file) (by simp)
    | directory hdirectory => exact absurd (hdirectory.symm.trans hfile.file) (by simp)
    | below hq hother => exact hother (hfile.directories _ hq)
    | longPath hlong => exact Nat.not_lt.mpr hfile.path_fits hlong
    | longName hn hlong => exact Nat.not_lt.mpr (hfile.names_fit _ hn) hlong
  · intro h
    by_contra hnot
    have hfile : ∃ bytes, f.node? (f.target p) = some (.file bytes) := by
      cases hnode : f.node? (f.target p) with
      | none => exact absurd (.missing hnode) hnot
      | some n =>
          cases n with
          | directory => exact absurd (.directory hnode) hnot
          | file bytes => exact ⟨bytes, rfl⟩
    obtain ⟨bytes, hfile⟩ := hfile
    refine h bytes (read_eq_ok_iff.mpr ⟨?_, fun n hn => ?_, fun q hq => ?_, hfile⟩)
    · exact Nat.not_lt.mp fun hlong => hnot (.longPath hlong)
    · exact Nat.not_lt.mp fun hlong => hnot (.longName hn hlong)
    · by_contra hother
      exact hnot (.below hq hother)

lemma hasFile_iff {place : List Text} :
    f.hasFile place = true ↔ ∃ bytes, f.node? place = some (.file bytes) := by
  cases hnode : f.node? place with
  | none => simp [hasFile, hnode]
  | some n => cases n <;> simp [hasFile, hnode]

/-- A walk does not look into files. -/
lemma walk_eq_of_kinds {place : List Text} {names : List Text}
    (h : ∀ q ∈ passed place names,
      f'.node? q = f.node? q ∨ f.hasFile q = true ∧ f'.hasFile q = true) :
    f'.walk place names = f.walk place names := by
  induction names generalizing place with
  | nil => rfl
  | cons name rest ih =>
      rw [passed, List.forall_mem_cons] at h
      rw [walk, walk, ih h.2]
      rcases h.1 with hsame | ⟨hfile, hfile'⟩
      · rw [hsame]
      · obtain ⟨b, hb⟩ := hasFile_iff.mp hfile
        obtain ⟨b', hb'⟩ := hasFile_iff.mp hfile'
        rw [hb, hb']

/-- **Frame**: trees that look the same to a path are read alike. -/
lemma read_eq_of_sameFor {p : Path} (h : f.SameFor p f') : f'.read p = f.read p := by
  have hstart : f'.start p = f.start p := by rw [start, start, h.workingDirectory]
  have hplace : f'.placeOf p = f.placeOf p := by
    rw [placeOf, placeOf, hstart, walk_eq_of_kinds fun q hq => (h.nodes q hq).imp_right And.right]
  have hend : f'.node? (f.target p) = f.node? (f.target p) :=
    (h.nodes _ (foldl_next_mem_passed _ _)).resolve_right fun hother => hother.1 rfl
  have hfind : f'.find p = f.find p := by
    rw [find, find, hplace]
    cases hok : f.placeOf p with
    | error e => rfl
    | ok place =>
        obtain ⟨-, -, rfl⟩ := walk_eq_ok_iff.mp (placeOf_eq_ok_iff.mp hok).2
        rw [← target]
        simp only [hend]
  rw [read, read, hfind]

end FileTree

namespace Linter

variable (l : Linter) (f : FileTree)

/-! ## One file -/

lemma checkFile_of_leadsToFile {p : Path} {bytes : List UInt8} (h : f.LeadsToFile p bytes) :
    (l.checkFile f p).issues = l.issues ⟨p.toText, ofFileBytes bytes⟩ := by
  rw [checkFile, FileTree.read_eq_ok_iff.mpr h]
  rfl

/-- A path that leads to no file is reported by itself. -/
lemma checkFile_of_unreadable {p : Path} (h : f.Unreadable p) :
    ∃ e, f.read p = .error e ∧ (l.checkFile f p).issues = [unreadable e p.toText] := by
  cases hread : f.read p with
  | ok bytes => exact absurd hread (FileTree.unreadable_iff.mp h bytes)
  | error e => exact ⟨e, rfl, by rw [checkFile, hread]⟩

/-- No rule reports that a file cannot be read. -/
lemma category_ne_of_mem_issues {s : Source} {i : Issue} (h : i ∈ l.issues s) :
    i.category ≠ "file-read" := by
  obtain ⟨r, -, hi⟩ := List.mem_flatMap.mp h
  have hmem := (check_categories l.thresholds s r).subset (List.mem_map_of_mem hi)
  intro hread
  rw [hread] at hmem
  revert hmem
  cases r <;> decide

/-- What is reported tells whether the path leads to a file. -/
lemma exists_fileRead_iff {p : Path} :
    (∃ i ∈ (l.checkFile f p).issues, i.category = "file-read") ↔ f.Unreadable p := by
  constructor
  · rintro ⟨i, hi, hcategory⟩
    refine FileTree.unreadable_iff.mpr fun bytes hread => ?_
    rw [checkFile, hread] at hi
    exact l.category_ne_of_mem_issues hi hcategory
  · intro h
    obtain ⟨e, -, hissues⟩ := l.checkFile_of_unreadable f h
    exact ⟨unreadable e p.toText, by rw [hissues]; exact List.mem_singleton_self _, rfl⟩

/-! ## All files -/

/-- Sets the entry of a path, in its place when there is one and at the end otherwise. -/
def setEntry (p : Path) (issues : List Issue) : List (Path × List Issue) → List (Path × List Issue)
  | [] => [(p, issues)]
  | e :: rest => if e.1 = p then (p, issues) :: rest else e :: setEntry p issues rest

/-- The entries after the paths have been checked one by one. -/
def checkEach (ps : List Path) : List (Path × List Issue) :=
  ps.foldl (fun entries p => setEntry p (l.checkFile f p).issues entries) []

lemma setEntry_of_mem {p : Path} {ps : List Path} (issues : Path → List Issue) (hp : p ∈ ps) :
    setEntry p (issues p) (ps.map fun p => (p, issues p)) = ps.map fun p => (p, issues p) := by
  induction ps with
  | nil => cases hp
  | cons q ps ih =>
      rw [List.map_cons, setEntry]
      split_ifs with hq
      · obtain rfl : q = p := hq
        rfl
      · rw [ih ((List.mem_cons.mp hp).resolve_left (Ne.symm hq))]

lemma setEntry_of_notMem {p : Path} {ps : List Path} (issues : Path → List Issue) (hp : p ∉ ps) :
    setEntry p (issues p) (ps.map fun p => (p, issues p))
      = (ps ++ [p]).map fun p => (p, issues p) := by
  induction ps with
  | nil => rfl
  | cons q ps ih =>
      rw [List.mem_cons, not_or] at hp
      rw [List.map_cons, setEntry, if_neg (Ne.symm hp.1), ih hp.2, List.cons_append, List.map_cons]

/-- **The loop** has one entry for each distinct path, at the place where the path is first seen. -/
lemma checkEach_eq (ps : List Path) :
    l.checkEach f ps = ps.eraseDups.map fun p => (p, (l.checkFile f p).issues) := by
  induction ps using List.reverseRecOn with
  | nil => simp [checkEach]
  | append_singleton ps p ih =>
      rw [checkEach, List.foldl_concat, ← checkEach, ih, eraseDups_concat]
      split_ifs with hp
      · exact setEntry_of_mem (fun p => (l.checkFile f p).issues) (List.mem_eraseDups.mpr hp)
      · exact setEntry_of_notMem (fun p => (l.checkFile f p).issues) (mt List.mem_eraseDups.mp hp)

lemma entry_of_mem_checkEach {f : FileTree} {ps : List Path} {e : Path × List Issue}
    (he : e ∈ l.checkEach f ps) : e.2 = (l.checkFile f e.1).issues := by
  rw [checkEach_eq] at he
  obtain ⟨p, -, rfl⟩ := List.mem_map.mp he
  rfl

lemma isFirstSeen_checkEach (ps : List Path) :
    IsFirstSeen ps ((l.checkEach f ps).map Prod.fst) := by
  have hpaths : (l.checkEach f ps).map Prod.fst = ps.eraseDups := by
    rw [checkEach_eq, List.map_map]
    exact List.map_id _
  rw [hpaths]
  exact isFirstSeen_eraseDups ps

/-- Paths that are left out take their entries with them and nothing else. -/
lemma checkEach_filter (keep : Path → Bool) (ps : List Path) :
    l.checkEach f (ps.filter keep) = (l.checkEach f ps).filter fun e => keep e.1 := by
  rw [checkEach_eq, checkEach_eq, eraseDups_filter, List.filter_map]
  rfl

lemma checkFiles_eq_ok_iff {paths : List Text} {entries : List (Path × List Issue)} :
    l.checkFiles f paths = .ok entries ↔
      (∀ t ∈ paths, '\x00' ∉ t) ∧ l.checkEach f (paths.map Path.ofText) = entries := by
  rw [checkFiles, checkEach_eq]
  split_ifs with hnul
  · simp only [List.any_eq_true, List.contains_iff_mem] at hnul
    obtain ⟨t, ht, hmem⟩ := hnul
    exact iff_of_false (by simp) fun h => h.1 t ht hmem
  · simp only [List.any_eq_true, List.contains_iff_mem, not_exists, not_and] at hnul
    rw [Except.ok.injEq]
    exact ⟨fun h => ⟨hnul, h⟩, And.right⟩

/-- **Files are checked apart.**  For paths without a NUL, the check goes through.  It gives what
checking them one by one gives: an entry for each distinct path, in the order in which the paths are
first seen, with what the check of that path alone reports.  In any other check, of other paths and
of a tree in which other files differ, the path has the same entry; and leaving out paths leaves out
their entries and nothing else.  A path that leads to a file has the issues of its text; one that
leads to none has one error about the file as a whole and nothing else, and only such a path is
reported as unreadable. -/
theorem files_checked_apart (paths : List Text) (h : ∀ t ∈ paths, '\x00' ∉ t) :
    ∃ entries, l.checkFiles f paths = .ok entries ∧
      l.checkEach f (paths.map Path.ofText) = entries ∧
      IsFirstSeen (paths.map Path.ofText) (entries.map Prod.fst) ∧
      (∀ e ∈ entries, e.2 = (l.checkFile f e.1).issues) ∧
      (∀ f' paths' entries', l.checkFiles f' paths' = .ok entries' →
        ∀ e ∈ entries, ∀ e' ∈ entries', e'.1 = e.1 → f.SameFor e.1 f' → e'.2 = e.2) ∧
      (∀ keep : Path → Bool,
        l.checkFiles f (paths.filter fun t => keep (Path.ofText t))
          = .ok (entries.filter fun e => keep e.1)) ∧
      ∀ e ∈ entries,
        (∀ bytes, f.LeadsToFile e.1 bytes →
          e.2 = l.issues ⟨e.1.toText, ofFileBytes bytes⟩) ∧
        ((∃ i ∈ e.2, i.category = "file-read") ↔ f.Unreadable e.1) ∧
        (f.Unreadable e.1 → ∃ error, f.read e.1 = .error error ∧
          e.2 = [⟨1, "Could not read file: " ++ error.message e.1.toText, .error, "file-read",
            true⟩]) := by
  refine ⟨l.checkEach f (paths.map Path.ofText), (l.checkFiles_eq_ok_iff f).mpr ⟨h, rfl⟩, rfl,
    l.isFirstSeen_checkEach f _, fun e he => l.entry_of_mem_checkEach he,
    fun f' paths' entries' hother e he e' he' hpath hsame => ?_, fun keep => ?_, fun e he => ?_⟩
  · obtain ⟨-, rfl⟩ := (l.checkFiles_eq_ok_iff f').mp hother
    rw [l.entry_of_mem_checkEach he, l.entry_of_mem_checkEach he', hpath, checkFile, checkFile,
      FileTree.read_eq_of_sameFor hsame]
  · rw [checkFiles_eq_ok_iff, ← checkEach_filter, List.filter_map]
    exact ⟨fun t ht => h t (List.mem_filter.mp ht).1, rfl⟩
  · rw [l.entry_of_mem_checkEach he]
    exact ⟨fun bytes => l.checkFile_of_leadsToFile f, l.exists_fileRead_iff f,
      l.checkFile_of_unreadable f⟩

/-- A path in two spellings and one that goes through a file.  Other contents of that file and
another order of the paths change no entry. -/
theorem files_checked_apart_other_contents :
    let l := full .default
    let f : FileTree := ⟨[], [(["a.ts".toList], .file []),
      (["b.ts".toList], .file (encode "console.log(1)".toList))]⟩
    let f' := f.write (Path.ofText "a.ts".toList) (.file (encode "// note".toList))
    let paths := ["b.ts".toList, "a.ts/x".toList, "./b.ts".toList]
    (∀ t ∈ paths, '\x00' ∉ t) ∧ (∀ p ∈ paths.map Path.ofText, f.SameFor p f') ∧
      f.Unreadable (Path.ofText "a.ts/x".toList) ∧
      ∃ entries entries', l.checkFiles f paths = .ok entries ∧
        l.checkFiles f' paths.reverse = .ok entries' ∧
        (entries.map fun e => e.2.map Issue.category) = [["console-log"], ["file-read"]] ∧
        ∀ e ∈ entries, ∀ e' ∈ entries', e'.1 = e.1 → e'.2 = e.2 := by
  intro l f f' paths
  have hnul : ∀ t ∈ paths, '\x00' ∉ t := by decide
  have hsame : ∀ p ∈ paths.map Path.ofText, f.SameFor p f' := by decide
  obtain ⟨entries, hcheck, rfl, hseen, -, hother, -⟩ := files_checked_apart l f paths hnul
  obtain ⟨entries', hcheck', -⟩ := files_checked_apart l f' paths.reverse (by decide)
  refine ⟨hnul, hsame, .below (q := ["a.ts".toList]) (by decide) (by decide), _, entries', hcheck,
    hcheck', by decide +kernel, ?_⟩
  intro e he e' he' hpath
  have hmem := (hseen.mem_iff e.1).mp (List.mem_map_of_mem he)
  exact hother f' paths.reverse entries' hcheck' e he e' he' hpath (hsame e.1 hmem)

end Linter

end ReactLint
