import Mathlib.Data.List.Basic
import Mathlib.Tactic.Common
import ReactLint.Linter

/-!
# Lines of findings

Every rule finds things from the top of the file to its end.  The lines of what it finds are
therefore in order, and they are lines of the file.

**One step.**  All scans have the same shape: what is found on a line comes first, with that line's
number, and then what is found below it (`InOrder.step`).  Each scan gets one lemma by induction
over the lines.

**All diagnoses.**  Filtering and naming keep the lines in order, so the lines that a diagnosis
lists are in order and inside the file, whatever rule made it (`lines_of_mem_diagnose`).
-/

namespace ReactLint

open Text

/-- The numbers do not decrease, and they lie between `lo` and `hi`, the latter excluded. -/
structure InOrder (lo hi : Nat) (ns : List Nat) : Prop where
  bounds : ∀ n ∈ ns, lo ≤ n ∧ n < hi
  sorted : ns.Pairwise (· ≤ ·)

namespace InOrder

variable {lo hi n : Nat} {ns ms : List Nat}

lemma nil (lo hi : Nat) : InOrder lo hi [] := ⟨by simp, List.Pairwise.nil⟩

lemma sublist (h : InOrder lo hi ns) (hsub : ms.Sublist ns) : InOrder lo hi ms :=
  ⟨fun n hn => h.bounds n (hsub.subset hn), h.sorted.sublist hsub⟩

/-- **One step of a scan**: what is found on line `n`, and then what is found on the `k` lines below
it. -/
lemma step {k : Nat} (hhere : ∀ m ∈ ms, m = n) (hbelow : InOrder (n + 1) (n + 1 + k) ns) :
    InOrder n (n + (k + 1)) (ms ++ ns) := by
  constructor
  · intro m hm
    rcases List.mem_append.mp hm with hm | hm
    · have := hhere m hm
      omega
    · have := hbelow.bounds m hm
      omega
  · rw [List.pairwise_append]
    refine ⟨List.pairwise_of_forall_mem_list fun m hm k hk => ?_, hbelow.sorted,
      fun m hm k hk => ?_⟩
    · exact Nat.le_of_eq ((hhere m hm).trans (hhere k hk).symm)
    · have := hhere m hm
      have := hbelow.bounds k hk
      omega

/-- One step of a scan that finds one thing at most on each line. -/
lemma strict_step {k : Nat} (hhere : ∀ m ∈ ms, m = n) (hone : ms.length ≤ 1)
    (hbelow : InOrder (n + 1) (n + 1 + k) ns) (hstrict : ns.Pairwise (· < ·)) :
    (ms ++ ns).Pairwise (· < ·) := by
  refine List.pairwise_append.mpr ⟨?_, hstrict, ?_⟩
  · match ms, hone with
    | [], _ => exact List.Pairwise.nil
    | [m], _ => exact List.pairwise_singleton _ m
  · intro m hm m' hm'
    have := hhere m hm
    have := hbelow.bounds m' hm'
    omega

/-- Several findings on each line of a list keep its order. -/
lemma flatMap {α : Type} {xs : List α} {f : α → Nat} {g : α → List Nat}
    (h : InOrder lo hi (xs.map f)) (hg : ∀ x ∈ xs, ∀ m ∈ g x, m = f x) :
    InOrder lo hi (xs.flatMap g) := by
  constructor
  · intro m hm
    obtain ⟨x, hx, hmx⟩ := List.mem_flatMap.mp hm
    rw [hg x hx m hmx]
    exact h.bounds _ (List.mem_map_of_mem hx)
  · rw [List.pairwise_flatMap]
    refine ⟨fun x hx => List.pairwise_of_forall_mem_list fun m hm k hk => ?_, ?_⟩
    · exact Nat.le_of_eq ((hg x hx m hm).trans (hg x hx k hk).symm)
    · have hsorted := List.pairwise_map.mp h.sorted
      refine hsorted.imp_of_mem fun {x y} hx hy hle m hm k hk => ?_
      rw [hg x hx m hm, hg y hy k hk]
      exact hle

end InOrder

/-! ## The scans -/

lemma locateFrom_inOrder {α : Type} (look : Text → List Text → List α) (n : Nat)
    (ls : List Text) :
    InOrder n (n + ls.length) ((locateFrom look n ls).map Located.line) := by
  induction ls generalizing n with
  | nil => exact InOrder.nil _ _
  | cons l ls ih =>
      rw [locateFrom, List.map_append]
      exact InOrder.step (by simp) (ih (n + 1))

lemma locate_inOrder {α : Type} (look : Text → List Text → List α) (ls : List Text) :
    InOrder 1 (1 + ls.length) ((locate look ls).map Located.line) :=
  locateFrom_inOrder look 1 ls

lemma consoleCallsFrom_inOrder (above : List Text) (n : Nat) (ls : List Text) :
    InOrder n (n + ls.length) ((consoleCallsFrom above n ls).map Located.line) := by
  induction ls generalizing above n with
  | nil => exact InOrder.nil _ _
  | cons l ls ih =>
      rw [consoleCallsFrom, List.map_append]
      exact InOrder.step (by simp +contextual) (ih (l :: above) (n + 1))

lemma scanFrom_inOrder (state : Comment.State) (n : Nat) (ls : List Text) :
    InOrder n (n + ls.length) ((Comment.scanFrom state n ls).map Located.line) := by
  induction ls generalizing state n with
  | nil => exact InOrder.nil _ _
  | cons l ls ih =>
      rw [Comment.scanFrom, List.map_append]
      exact InOrder.step (by simp) (ih _ (n + 1))

lemma coverFrom_inOrder (isStart : Text → Bool) (d : Delimiter) (n skip : Nat) (ls : List Text) :
    InOrder n (n + ls.length) ((coverFrom isStart d n skip ls).map Located.line) := by
  induction ls generalizing n skip with
  | nil => exact InOrder.nil _ _
  | cons l ls ih =>
      have hnone (skip : Nat) := InOrder.step (fun m hm => absurd hm List.not_mem_nil)
        (ih (n + 1) skip)
      cases skip with
      | succ skip => exact hnone skip
      | zero =>
          rw [coverFrom]
          split_ifs
          · exact InOrder.step (fun m hm => List.mem_singleton.mp hm) (ih (n + 1) _)
          · exact hnone 0

lemma collectFrom_inOrder (i skip : Nat) (ls : List Text) :
    InOrder (i + 1) (i + 1 + ls.length)
      ((ImportStatement.collectFrom i skip ls).map ImportStatement.line) := by
  induction ls generalizing i skip with
  | nil => exact InOrder.nil _ _
  | cons l ls ih =>
      have hnone (skip : Nat) := InOrder.step (fun m hm => absurd hm List.not_mem_nil)
        (ih (i + 1) skip)
      cases skip with
      | succ skip => exact hnone skip
      | zero =>
          rw [ImportStatement.collectFrom]
          split_ifs
          · exact InOrder.step (fun m hm => List.mem_singleton.mp hm) (ih (i + 1) _)
          · exact hnone 0

lemma unused_inOrder (ls : List Text) :
    InOrder 1 (1 + ls.length) ((Import.unused ls).map Located.line) := by
  have hstatements : InOrder 1 (1 + ls.length)
      ((ImportStatement.collect ls).map ImportStatement.line) := collectFrom_inOrder 0 0 ls
  rw [Import.unused, List.map_flatMap]
  exact hstatements.flatMap (by simp +contextual)

/-! ## The diagnoses -/

/-- Leaving findings out and describing the others anew keeps their lines in order. -/
lemma InOrder.filter_map {α β : Type} {lo hi : Nat} {found : List (Located α)}
    (h : InOrder lo hi (found.map Located.line)) (keep : Located α → Bool)
    {describe : Located α → Located β} (hline : ∀ f, (describe f).line = f.line) :
    InOrder lo hi (((found.filter keep).map describe).map Located.line) := by
  rw [List.map_map, show Located.line ∘ describe = Located.line from funext hline]
  exact h.sublist (List.filter_sublist.map _)

open Rule in
/-- **Every diagnosis lists lines of the file, in order.**  By cases on the rule: what it can
diagnose is read off its definition, and the scan that it rests on is in order. -/
lemma lines_of_mem_diagnose {t : Thresholds} {s : Source} {r : Rule} {d : Diagnosis}
    (h : d ∈ r.diagnose t s) : InOrder 1 (1 + s.lineCount) d.lines := by
  cases r with
  | fileSize =>
      simp only [diagnose, diagnoseFileSize, List.mem_ite_nil_left, List.mem_singleton] at h
      obtain ⟨-, rfl⟩ := h
      exact InOrder.nil _ _
  | unusedImports =>
      obtain rfl := List.mem_singleton.mp h
      exact unused_inOrder s.lines
  | consoleCalls =>
      obtain rfl := List.mem_singleton.mp h
      exact consoleCallsFrom_inOrder [] 1 s.lines
  | comments =>
      have hkept (keep : Comment.Kind → Bool) :
          InOrder 1 (1 + s.lineCount) (Comment.linesOf keep (Comment.scan s.lines)) :=
        (scanFrom_inOrder .code 1 s.lines).sublist (List.filter_sublist.map _)
      simp only [diagnose, diagnoseComments, List.mem_cons, List.not_mem_nil, or_false] at h
      rcases h with rfl | rfl | rfl
      all_goals rw [Diagnosis.lines]
      all_goals exact hkept _
  | functions =>
      have hfs : InOrder 1 (1 + s.lineCount) ((FunctionBlock.collect s.lines).map Located.line) :=
        locate_inOrder _ s.lines
      simp only [diagnose, diagnoseFunctions, List.mem_cons, List.not_mem_nil, or_false] at h
      rcases h with rfl | rfl | rfl
      · exact hfs.filter_map _ fun _ => rfl
      · rw [Diagnosis.lines, similarHandlers]
        split_ifs
        · exact hfs.filter_map _ fun _ => rfl
        · exact InOrder.nil _ _
      · rw [Diagnosis.lines, manyParams]
        refine InOrder.sublist ?_ (List.filter_sublist.map _)
        rw [List.map_map]
        exact hfs
  | tryBlocks =>
      simp only [diagnose, diagnoseTry, List.mem_ite_nil_left, List.mem_singleton] at h
      obtain ⟨-, rfl⟩ := h
      exact coverFrom_inOrder _ _ 1 0 s.lines
  | hookPlacement =>
      simp only [diagnose, diagnoseHooks, List.mem_ite_nil_left, List.mem_ite_nil_right,
        List.mem_cons, List.not_mem_nil, or_false] at h
      obtain ⟨-, rfl | ⟨-, rfl⟩⟩ := h
      · exact locate_inOrder _ s.lines
      · exact locate_inOrder _ s.lines
  | stateCount =>
      simp only [diagnose, diagnoseStates, List.mem_ite_nil_right, List.mem_singleton] at h
      obtain ⟨-, rfl⟩ := h
      exact locate_inOrder _ s.lines
  | constants =>
      simp only [diagnose, diagnoseConstants, List.mem_ite_nil_left] at h
      obtain ⟨-, h⟩ := h
      split_ifs at h
      · obtain rfl := List.mem_singleton.mp h
        exact (locate_inOrder _ s.lines).sublist (List.filter_sublist.map _)
      · simp at h
      · obtain rfl := List.mem_singleton.mp h
        exact locate_inOrder _ s.lines
  | components =>
      simp only [diagnose, diagnoseComponents, List.mem_ite_nil_right, List.mem_singleton] at h
      obtain ⟨-, rfl⟩ := h
      exact locate_inOrder _ s.lines
  | inlineTypes =>
      have htypes : InOrder 1 (1 + s.lineCount) ((Declaration.types s.lines).map Located.line) :=
        locate_inOrder _ s.lines
      simp only [diagnose, diagnoseTypes, List.mem_ite_nil_left] at h
      obtain ⟨-, h⟩ := h
      split_ifs at h
      · obtain rfl := List.mem_singleton.mp h
        exact htypes.filter_map _ fun _ => rfl
      · obtain rfl := List.mem_singleton.mp h
        rw [Diagnosis.lines, namesOf, List.map_map]
        exact htypes
      · simp at h
  | markupSize =>
      simp only [diagnose, diagnoseMarkup, List.mem_ite_nil_right, List.mem_singleton] at h
      obtain ⟨-, rfl⟩ := h
      exact (coverFrom_inOrder _ _ 1 0 s.lines).sublist (List.filter_sublist.map _)
  | atomicDesign =>
      simp only [diagnose, diagnoseAtomic, List.mem_ite_nil_right, List.mem_singleton] at h
      obtain ⟨-, rfl⟩ := h
      exact InOrder.nil _ _
  | queries =>
      simp only [diagnose, diagnoseQueries, List.mem_ite_nil_right, List.mem_singleton] at h
      obtain ⟨-, rfl⟩ := h
      exact locate_inOrder _ s.lines
  | fetches =>
      simp only [diagnose, diagnoseFetches, List.mem_ite_nil_right, List.mem_singleton] at h
      obtain ⟨-, rfl⟩ := h
      exact locate_inOrder _ s.lines

end ReactLint
