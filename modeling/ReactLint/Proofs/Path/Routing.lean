import Mathlib.Data.List.Basic
import Mathlib.Data.List.Induction
import Mathlib.Tactic.Common
import ReactLint.Linter

/-!
# What a rule reads off a path

The path of a file decides which rules look at it, and for one rule also what it says.  Apart from
the name of the file, this takes seven folders by their names, and whether the file stands directly
in `components`.  Any two paths that agree on these lead to the same report.

**Written paths.**  A `WrittenPath` is the path as it is put together: names and what separates
them, a slash or a backslash each time, with one more in front when the path is absolute.  Reading
it gives its names back (`names_toText`).

**Routing.**  `SameRouting` lists the questions that rules ask about a path.  A report does not go
beyond them (`lint_of_sameRouting`), and written paths that agree on the above answer them alike
(`sameRouting_of_agree`).
-/

namespace ReactLint

open Text

/-! ## Written paths -/

/-- What stands between the names of a path. -/
inductive Separator where
  | slash
  | backslash
  deriving DecidableEq, Repr

/-- The character of a separator. -/
def Separator.char : Separator → Char
  | slash => '/'
  | backslash => '\\'

/-- A name that is not dropped from a path and holds no separator. -/
def IsPlainName (n : Text) : Prop := n ≠ [] ∧ n ≠ ['.'] ∧ '/' ∉ n ∧ '\\' ∉ n

instance (n : Text) : Decidable (IsPlainName n) := inferInstanceAs (Decidable (_ ∧ _))

/-- A path as it is written: the separator in front when it is absolute, the folders, each with the
separator behind it, and the file. -/
structure WrittenPath where
  root : Option Separator
  folders : List (Text × Separator)
  file : Text
  folders_plain : ∀ f ∈ folders, IsPlainName f.1
  file_plain : IsPlainName file

namespace WrittenPath

/-- The names of the folders. -/
def folderNames (p : WrittenPath) : List Text := p.folders.map Prod.fst

/-- The path as text. -/
def toText (p : WrittenPath) : Text :=
  p.root.toList.map Separator.char ++ p.folders.flatMap (fun f => f.1 ++ [f.2.char]) ++ p.file

/-- What stands before, between and behind the separators. -/
def pieces (p : WrittenPath) : List Text :=
  p.root.toList.map (fun _ => []) ++ p.folderNames ++ [p.file]

variable (p : WrittenPath)

lemma isPlainName_of_mem {n : Text} (h : n ∈ p.folderNames ++ [p.file]) : IsPlainName n := by
  rcases List.mem_append.mp h with hfolder | hfile
  · obtain ⟨f, hf, rfl⟩ := List.mem_map.mp hfolder
    exact p.folders_plain f hf
  · rw [List.mem_singleton.mp hfile]
    exact p.file_plain

lemma slash_notMem_pieces {n : Text} (h : n ∈ p.pieces) : '/' ∉ n := by
  rw [pieces, List.append_assoc, List.mem_append] at h
  rcases h with hroot | hname
  · obtain ⟨_, -, rfl⟩ := List.mem_map.mp hroot
    exact List.not_mem_nil
  · exact (p.isPlainName_of_mem hname).2.2.1

/-! ### Reading a written path -/

lemma withSlashes_append (s t : Text) : withSlashes (s ++ t) = withSlashes s ++ withSlashes t :=
  List.map_append

lemma withSlashes_of_isPlainName {n : Text} (h : IsPlainName n) : withSlashes n = n := by
  rw [withSlashes, replaceChar]
  conv_rhs => rw [← List.map_id n]
  refine List.map_congr_left ?_
  intro c hc
  rw [if_neg, id]
  rintro rfl
  exact h.2.2.2 hc

lemma withSlashes_char (sep : Separator) : withSlashes [sep.char] = ['/'] := by
  cases sep <;> rfl

lemma withSlashes_separators (seps : List Separator) :
    withSlashes (seps.map Separator.char) = (seps.map fun _ => []).flatMap (· ++ ['/']) := by
  induction seps with
  | nil => rfl
  | cons sep seps ih =>
      rw [List.map_cons, ← List.singleton_append, withSlashes_append, withSlashes_char, ih]
      rfl

lemma withSlashes_folders {fs : List (Text × Separator)} (h : ∀ f ∈ fs, IsPlainName f.1) :
    withSlashes (fs.flatMap fun f => f.1 ++ [f.2.char])
      = (fs.map Prod.fst).flatMap (· ++ ['/']) := by
  induction fs with
  | nil => rfl
  | cons f fs ih =>
      rw [List.flatMap_cons, withSlashes_append, withSlashes_append, withSlashes_char,
        withSlashes_of_isPlainName (h f List.mem_cons_self),
        ih fun f' hf' => h f' (List.mem_cons_of_mem _ hf')]
      rfl

lemma intercalate_concat (sep : Text) (ls : List Text) (l : Text) :
    sep.intercalate (ls ++ [l]) = ls.flatMap (· ++ sep) ++ l := by
  induction ls with
  | nil => exact List.intercalate_singleton
  | cons l' ls ih =>
      obtain ⟨first, rest, hrest⟩ : ∃ first rest, ls ++ [l] = first :: rest :=
        List.exists_cons_of_ne_nil (by simp)
      rw [List.cons_append, hrest, List.intercalate_cons_cons, ← hrest, ih]
      simp

/-- With slashes only, a written path is what stands before its file and the file. -/
lemma withSlashes_toText :
    withSlashes p.toText
      = (p.root.toList.map (fun _ => []) ++ p.folderNames).flatMap (· ++ ['/']) ++ p.file := by
  rw [toText, withSlashes_append, withSlashes_append, withSlashes_separators,
    withSlashes_folders p.folders_plain, withSlashes_of_isPlainName p.file_plain,
    List.flatMap_append, folderNames]

/-- **The pieces of a written path are read back from it.** -/
lemma splitOn_toText : (withSlashes p.toText).splitOn '/' = p.pieces := by
  rw [withSlashes_toText, ← intercalate_concat]
  exact List.splitOn_intercalate '/' (fun _ hn => p.slash_notMem_pieces hn) (by simp)

lemma names_toText : (Path.ofText (withSlashes p.toText)).names = p.folderNames ++ [p.file] := by
  have hroot : (p.root.toList.map fun _ => ([] : Text)).filter Path.isName = [] := by
    cases p.root <;> rfl
  have hnames : (p.folderNames ++ [p.file]).filter Path.isName = p.folderNames ++ [p.file] := by
    rw [List.filter_eq_self]
    intro n hn
    obtain ⟨hempty, hdot, -⟩ := p.isPlainName_of_mem hn
    simp [Path.isName, hempty, hdot]
  rw [Path.ofText, splitOn_toText, pieces, List.append_assoc, List.filter_append, hroot, hnames,
    List.nil_append]

lemma rootOf_mem (t : Text) : Path.rootOf t ∈ [[], ['/'], ['/', '/']] := by
  unfold Path.rootOf
  split <;> simp

/-- A folder of a written path is one of its folder names; no root mark is taken for one. -/
lemma inFolder_toText {folder : String} (h : folder.toList ∉ [[], ['/'], ['/', '/']]) :
    inFolder p.toText folder = decide (folder.toList ∈ p.folderNames) := by
  have hroot : folder.toList ≠ (Path.ofText (withSlashes p.toText)).root := by
    intro heq
    exact h (heq ▸ rootOf_mem _)
  have hne : p.folderNames ++ [p.file] ≠ [] := by simp
  rw [inFolder, isInFolder, Path.folders, Path.parts, names_toText, List.contains_eq_mem,
    decide_eq_decide]
  split_ifs
  · rw [List.dropLast_concat]
  · rw [List.dropLast_cons_of_ne_nil hne, List.dropLast_concat, List.mem_cons]
    exact or_iff_right hroot

lemma fileNameOf_toText : fileNameOf p.toText = p.file := by
  rw [fileNameOf, Path.fileName, names_toText, List.getLastD_concat]

lemma suffix_append_slash_iff {w t : Text} (h : '/' ∉ w) (a : Text) :
    w <:+ a ++ '/' :: t ↔ w <:+ t := by
  constructor
  · intro hw
    rcases List.suffix_or_suffix_of_suffix hw (List.suffix_append a ('/' :: t)) with hin | hover
    · rcases List.suffix_cons_iff.mp hin with rfl | ht
      · exact absurd List.mem_cons_self h
      · exact ht
    · exact absurd (hover.subset List.mem_cons_self) h
  · intro hw
    exact List.suffix_append_of_suffix (hw.trans (List.suffix_cons '/' t))

/-- An ending without a slash is looked for in the name of the file only. -/
lemma endsIn_toText {w : String} (h : '/' ∉ w.toList) :
    endsIn w (withSlashes p.toText) = endsIn w p.file := by
  rw [endsIn, endsIn, Bool.eq_iff_iff, List.isSuffixOf_iff_suffix, List.isSuffixOf_iff_suffix,
    withSlashes_toText]
  rcases List.eq_nil_or_concat (p.root.toList.map (fun _ => []) ++ p.folderNames) with hnil | hlast
  · rw [hnil, List.flatMap_nil, List.nil_append]
  · obtain ⟨front, last, hfront⟩ := hlast
    rw [hfront, List.concat_eq_append, List.flatMap_append, List.flatMap_singleton,
      List.append_assoc, List.append_assoc, List.singleton_append, ← List.append_assoc]
    exact suffix_append_slash_iff h _

lemma isDirectComponent_toText :
    isDirectComponent p.toText = (decide (p.folderNames.getLast? = some "components".toList) &&
      hasComponentExtension p.file && decide (4 < p.file.length)) := by
  rw [isDirectComponent, splitOn_toText, pieces, List.reverse_append]
  rcases List.eq_nil_or_concat p.folderNames with hnil | ⟨front, last, hfront⟩
  · rw [hnil]
    cases p.root <;> simp
  · rw [hfront, List.concat_eq_append]
    simp [beq_eq_decide]

end WrittenPath

/-! ## Routing -/

/-- The folders that some rule asks for. -/
def routingFolders : List String :=
  ["hooks", "consts", "constants", "types", "interfaces", "lib", "ui"]

/-- The endings that some rule asks for. -/
def routingEndings : List String := [".types.ts", ".d.ts", ".tsx"]

/-- Paths about which rules learn the same. -/
structure SameRouting (path path' : Text) : Prop where
  folder : ∀ f ∈ routingFolders, inFolder path f = inFolder path' f
  ending : ∀ w ∈ routingEndings, endsIn w (withSlashes path) = endsIn w (withSlashes path')
  fileName : fileNameOf path = fileNameOf path'
  direct : isDirectComponent path = isDirectComponent path'

open Rule in
/-- **A rule finds the same under paths about which it learns the same.** -/
lemma diagnose_of_sameRouting {path path' : Text} (h : SameRouting path path') (t : Thresholds)
    (content : Text) (r : Rule) : r.diagnose t ⟨path, content⟩ = r.diagnose t ⟨path', content⟩ := by
  have hlines : Source.lines ⟨path, content⟩ = Source.lines ⟨path', content⟩ := rfl
  have hhooks := h.folder "hooks" (by decide)
  have hcomponent : isComponentFile path = isComponentFile path' := by
    simp only [isComponentFile, h.fileName, hhooks]
  have htypes : isTypeFile path = isTypeFile path' := by
    simp only [isTypeFile, h.folder "types" (by decide), h.folder "interfaces" (by decide),
      h.ending ".types.ts" (by decide), h.ending ".d.ts" (by decide)]
  have hdata : avoidsDataAccess path = avoidsDataAccess path' := by
    simp only [avoidsDataAccess, h.folder "lib" (by decide), h.ending ".tsx" (by decide)]
  cases r with
  | fileSize | unusedImports | consoleCalls | comments | functions | tryBlocks => rfl
  | hookPlacement => simp only [diagnose, diagnoseHooks, hlines, hhooks, hcomponent]
  | stateCount => simp only [diagnose, diagnoseStates, hlines, hcomponent]
  | constants =>
      simp only [diagnose, diagnoseConstants, hlines, h.folder "consts" (by decide),
        h.folder "constants" (by decide)]
  | components => simp only [diagnose, diagnoseComponents, hlines, hcomponent]
  | inlineTypes => simp only [diagnose, diagnoseTypes, hlines, hcomponent, htypes]
  | markupSize => simp only [diagnose, diagnoseMarkup, hlines, hcomponent]
  | atomicDesign =>
      simp only [diagnose, diagnoseAtomic, hcomponent, h.direct, h.fileName,
        h.folder "ui" (by decide)]
  | queries => simp only [diagnose, diagnoseQueries, hlines, hdata]
  | fetches => simp only [diagnose, diagnoseFetches, hlines, hdata]

lemma lint_of_sameRouting {path path' : Text} (h : SameRouting path path') (t : Thresholds)
    (content : Text) : lint t ⟨path, content⟩ = lint t ⟨path', content⟩ := by
  simp only [lint, Linter.issues, Rule.check, Linter.full, diagnose_of_sameRouting h]

namespace WrittenPath

/-- Written paths that lead to a file of the same name, through the same of the folders that rules
ask for, and both or neither directly from `components`. -/
structure Agree (p q : WrittenPath) : Prop where
  file : p.file = q.file
  folder : ∀ f ∈ routingFolders, f.toList ∈ p.folderNames ↔ f.toList ∈ q.folderNames
  components : p.folderNames.getLast? = some "components".toList ↔
    q.folderNames.getLast? = some "components".toList

lemma sameRouting_of_agree {p q : WrittenPath} (h : p.Agree q) :
    SameRouting p.toText q.toText where
  folder f hf := by
    have hroots : ∀ f ∈ routingFolders, f.toList ∉ [[], ['/'], ['/', '/']] := by decide
    rw [inFolder_toText p (hroots f hf), inFolder_toText q (hroots f hf), decide_eq_decide]
    exact h.folder f hf
  ending w hw := by
    have hslash : ∀ w ∈ routingEndings, '/' ∉ w.toList := by decide
    rw [endsIn_toText p (hslash w hw), endsIn_toText q (hslash w hw), h.file]
  fileName := by rw [fileNameOf_toText, fileNameOf_toText, h.file]
  direct := by
    rw [isDirectComponent_toText, isDirectComponent_toText, h.file,
      decide_eq_decide.mpr h.components]

end WrittenPath

/-- **A report depends on the path no further than rules have to know.**  Take two written paths,
absolute or relative and with any separators, to a file of the same name.  If they pass the same of
the seven folders that rules ask for, and both or neither end in `components` before the file, every
content has the same issues under both, with the same messages. -/
theorem lint_depends_on_routing (t : Thresholds) (content : Text) (p q : WrittenPath)
    (h : p.Agree q) : lint t ⟨p.toText, content⟩ = lint t ⟨q.toText, content⟩ :=
  lint_of_sameRouting (WrittenPath.sameRouting_of_agree h) t content

/-- A component below the root of a server and the same component below a project, with a backslash
in its path: both are asked to move to another level. -/
theorem lint_depends_on_routing_card :
    let p : WrittenPath := ⟨some .slash, [("srv".toList, .slash), ("components".toList, .slash)],
      "Card.tsx".toList, by decide, by decide⟩
    let q : WrittenPath := ⟨none, [("components".toList, .backslash)], "Card.tsx".toList, by decide,
      by decide⟩
    p.Agree q ∧ p.toText = "/srv/components/Card.tsx".toList ∧
      q.toText = "components\\Card.tsx".toList ∧
      lint .default ⟨p.toText, "fetch(1)".toList⟩ = lint .default ⟨q.toText, "fetch(1)".toList⟩ ∧
      (lint .default ⟨q.toText, "fetch(1)".toList⟩).map Issue.category
        = ["atomic-design", "direct-fetch"] := by
  intro p q
  have hagree : p.Agree q := ⟨rfl, by decide, by decide⟩
  exact ⟨hagree, by decide, by decide, lint_depends_on_routing .default _ p q hagree,
    by decide +kernel⟩

end ReactLint
