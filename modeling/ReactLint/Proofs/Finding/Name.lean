import ReactLint.Proofs.Block.Span
import ReactLint.Proofs.Hook.Name
import ReactLint.Proofs.Import.Name
import ReactLint.Proofs.Text.Token
import ReactLint.Rule

/-!
# The names of findings

A message lists its findings by name, with commas between them.  What keeps such a list readable is
that the names hold none of the characters that it is read by.

**Runs.**  A declared name is a run of a class of characters which has none of these
(`unmarked_of_run?`).  A hook name to take is such a name with its first letter raised.

**Imports.**  A name between braces may hold anything but a comma: it is what stands between two of
them (`comma_notMem_of_mem_unused`).

**All diagnoses.**  So the names that a diagnosis lists are legible, whatever rule made it
(`legible_of_mem_diagnose`).
-/

namespace ReactLint

open Text

/-! ## Marks -/

/-- The characters that a list is read by: a comma ends an entry, and a blank or an opening
parenthesis may stand before a line. -/
def listMarks : List Char := [',', ' ', '(']

/-- A text without such characters. -/
def Unmarked (t : Text) : Prop := ∀ c ∈ t, c ∉ listMarks

lemma Unmarked.comma_notMem {t : Text} (h : Unmarked t) : ',' ∉ t :=
  fun hmem => h _ hmem List.mem_cons_self

/-- For words that are written out this is decided. -/
lemma unmarked_of_contains {t : Text} (h : t.any listMarks.contains = false) : Unmarked t := by
  simpa [Unmarked] using h

/-- A run of a class that has none of the marks. -/
lemma unmarked_of_run? {p : Char → Bool} {t w r : Text} (h : run? p t = some (w, r))
    (hp : listMarks.all fun c => !p c) : Unmarked w := by
  intro c hc hmark
  have hnot := List.all_eq_true.mp hp c hmark
  rw [(run?_eq_some_iff.mp h).2.2.1 c hc] at hnot
  exact absurd hnot (by decide)

/-- An identifier has no marks. -/
lemma unmarked_of_identifier? {t w r : Text} (h : identifier? t = some (w, r)) : Unmarked w :=
  unmarked_of_run? h (by decide)

/-! ## Declared names -/

namespace FunctionBlock

/-- A function is named by a declaration or by the constant that an arrow function is bound to. -/
lemma unmarked_of_headerName? {l name : Text} (h : headerName? l = some name) : Unmarked name := by
  rcases Option.or_eq_some_iff.mp h with h | ⟨-, h⟩
  · split_ifs at h
    simp only [arrowName?, Option.bind_eq_bind, Option.bind_eq_some_iff] at h
    obtain ⟨t, -, ⟨found, u⟩, hfound, v, -, hname⟩ := h
    split_ifs at hname
    obtain rfl := Option.some.inj hname
    exact unmarked_of_identifier? hfound
  · obtain ⟨t, -, hname⟩ := Option.bind_eq_some_iff.mp h
    obtain ⟨⟨found, u⟩, hfound, hname⟩ := Option.bind_eq_some_iff.mp hname
    obtain ⟨v, -, rfl⟩ := Option.map_eq_some_iff.mp hname
    exact unmarked_of_identifier? hfound

end FunctionBlock

namespace Hook

lemma unmarked_of_declaredName? {l name : Text} (h : declaredName? l = some name) :
    Unmarked name := by
  obtain ⟨⟨found, u⟩, hfound, rfl⟩ := Option.map_eq_some_iff.mp h
  obtain ⟨t, -, hfound⟩ := Option.bind_eq_some_iff.mp hfound
  exact unmarked_of_identifier? hfound

/-- A hook name to take is made of the letters of the old name, the first of them raised. -/
lemma unmarked_nameFor {name : Text} (h : Unmarked name) : Unmarked (nameFor name) := by
  intro c hc
  rcases mem_nameFor hc with huse | hold | hraised
  · exact unmarked_of_contains (t := "use".toList) rfl c huse
  · exact h c hold
  · exact hraised.notMem (by decide)

lemma unmarked_of_misplaced? {l : Text} {ls : List Text} {m : Misplaced}
    (h : misplaced? l ls = some m) : Unmarked m.name ∧ ∀ rename ∈ m.rename, Unmarked rename := by
  obtain ⟨name, hname, hm⟩ := Option.bind_eq_some_iff.mp h
  have hunmarked := unmarked_of_declaredName? hname
  split_ifs at hm
  · obtain rfl := Option.some.inj hm
    exact ⟨hunmarked, by simp⟩
  · obtain rfl := Option.some.inj hm
    refine ⟨hunmarked, fun rename hrename => ?_⟩
    obtain rfl := Option.some.inj hrename
    exact unmarked_nameFor hunmarked

/-- A state without a name is called `state`. -/
lemma unmarked_stateName (l : Text) : Unmarked ((stateName? l).getD "state".toList) := by
  cases hname : stateName? l with
  | none => exact unmarked_of_contains rfl
  | some name =>
      obtain ⟨p, -, hbound⟩ := List.exists_of_findSome?_eq_some hname
      obtain ⟨t, -, hbound⟩ := Option.bind_eq_some_iff.mp hbound
      obtain ⟨⟨found, u⟩, hfound, rfl⟩ := Option.map_eq_some_iff.mp hbound
      exact unmarked_of_identifier? hfound

end Hook

namespace Declaration

lemma unmarked_of_constantName? {l name : Text} (h : constantName? l = some name) :
    Unmarked name := by
  simp only [constantName?, Option.bind_eq_bind, Option.bind_eq_some_iff] at h
  obtain ⟨t, -, ⟨found, u⟩, hfound, hname⟩ := h
  split_ifs at hname
  obtain rfl := Option.some.inj hname
  exact unmarked_of_run? hfound (by decide)

lemma unmarked_of_plainConstantName? {l name : Text} (h : plainConstantName? l = some name) :
    Unmarked name := by
  simp only [plainConstantName?, Option.bind_eq_bind, Option.bind_eq_some_iff] at h
  obtain ⟨t, -, ⟨found, u⟩, hfound, hname⟩ := h
  split_ifs at hname
  obtain rfl := Option.some.inj hname
  exact unmarked_of_run? hfound (by decide)

lemma unmarked_of_componentName? {t name rest : Text} (h : componentName? t = some (name, rest)) :
    Unmarked name := by
  obtain ⟨⟨found, u⟩, hfound, hname⟩ := Option.bind_eq_some_iff.mp h
  dsimp only at hname
  split_ifs at hname
  obtain ⟨rfl, -⟩ := Prod.mk.inj (Option.some.inj hname)
  exact unmarked_of_run? hfound (by decide)

/-- A component is declared as a function or as a value. -/
lemma unmarked_of_component? {l name : Text} (h : component? l = some name) : Unmarked name := by
  rcases Option.or_eq_some_iff.mp h with h | ⟨-, h⟩
  · obtain ⟨t, -, h⟩ := Option.bind_eq_some_iff.mp h
    obtain ⟨⟨found, u⟩, hfound, hname⟩ := Option.bind_eq_some_iff.mp h
    obtain ⟨v, -, rfl⟩ := Option.map_eq_some_iff.mp hname
    exact unmarked_of_componentName? hfound
  · simp only [valueComponent?, Option.bind_eq_bind, Option.bind_eq_some_iff] at h
    obtain ⟨t, -, ⟨found, u⟩, hfound, v, -, hname⟩ := h
    split_ifs at hname
    obtain rfl := Option.some.inj hname
    exact unmarked_of_componentName? hfound

lemma unmarked_of_typeName? {l name : Text} (h : typeName? l = some name) : Unmarked name := by
  obtain ⟨⟨found, u⟩, hfound, rfl⟩ := Option.map_eq_some_iff.mp h
  obtain ⟨t, -, hfound⟩ := Option.bind_eq_some_iff.mp hfound
  exact unmarked_of_run? hfound (by decide)

end Declaration

/-! ## Imported names -/

namespace Import

/-- **An unused name holds no comma**: it was cut at commas, or is an identifier. -/
lemma comma_notMem_of_mem_unused {lines : List Text} {f : Located Text} (h : f ∈ unused lines) :
    ',' ∉ f.item := by
  obtain ⟨s, -, hf⟩ := List.mem_flatMap.mp h
  obtain ⟨name, hname, rfl⟩ := List.mem_map.mp hf
  rcases exists_of_mem_names (List.mem_of_mem_filter hname) with
    ⟨part, -, hcomma, rfl, -⟩ | ⟨u, rest, hname⟩
  · exact fun hmem => hcomma (trim_subset part hmem)
  · exact (unmarked_of_identifier? hname).comma_notMem

end Import

/-! ## The diagnoses -/

/-- The names in the list can be told from what stands around them. -/
def Diagnosis.Legible : Diagnosis → Prop
  | unusedImports found => ∀ f ∈ found, ',' ∉ f.item
  | similarHandlers found | manyStates found _ | scatteredConstants found | manyComponents found
  | longTypes found | manyTypes found => ∀ f ∈ found, Unmarked f.item
  | longFunctions found | manyParams found | largeConstants found _ =>
    ∀ f ∈ found, Unmarked f.item.name
  | misplacedHooks found =>
    ∀ f ∈ found, Unmarked f.item.name ∧ ∀ rename ∈ f.item.rename, Unmarked rename
  | _ => True

/-- What holds of every find of a look at a line holds of all that are located. -/
lemma forall_mem_locate {α : Type} {look : Text → List Text → List α} {P : α → Prop}
    (h : ∀ l ls, ∀ a ∈ look l ls, P a) (lines : List Text) :
    ∀ f ∈ locate look lines, P f.item := by
  intro f hf
  obtain ⟨i, hi, -, hitem⟩ := mem_locateFrom.mp hf
  exact h _ _ _ hitem

open Rule in
/-- **The names that a diagnosis lists are legible.**  By cases on the rule, as for the lines. -/
lemma legible_of_mem_diagnose {t : Thresholds} {s : Source} {r : Rule} {d : Diagnosis}
    (h : d ∈ r.diagnose t s) : d.Legible := by
  cases r with
  | unusedImports =>
      obtain rfl := List.mem_singleton.mp h
      exact fun f hf => Import.comma_notMem_of_mem_unused hf
  | functions =>
      have hfs : ∀ f ∈ FunctionBlock.collect s.lines, Unmarked f.item.name := by
        refine forall_mem_locate (P := fun f : FunctionBlock => Unmarked f.name)
          (fun l ls f hf => ?_) s.lines
        obtain ⟨name, hname, rfl⟩ := Option.map_eq_some_iff.mp (Option.mem_toList.mp hf)
        exact FunctionBlock.unmarked_of_headerName? hname
      simp only [diagnose, diagnoseFunctions, List.mem_cons, List.not_mem_nil, or_false] at h
      rcases h with rfl | rfl | rfl
      · intro f hf
        obtain ⟨g, hg, rfl⟩ := List.mem_map.mp hf
        exact hfs g (List.mem_of_mem_filter hg)
      · intro f hf
        rw [similarHandlers] at hf
        split_ifs at hf
        · obtain ⟨g, hg, rfl⟩ := List.mem_map.mp hf
          exact hfs g (List.mem_of_mem_filter hg)
        · exact absurd hf List.not_mem_nil
      · intro f hf
        obtain ⟨g, hg, rfl⟩ := List.mem_map.mp (List.mem_of_mem_filter hf)
        exact hfs g hg
  | hookPlacement =>
      simp only [diagnose, diagnoseHooks, List.mem_ite_nil_left, List.mem_ite_nil_right,
        List.mem_cons, List.not_mem_nil, or_false] at h
      obtain ⟨-, rfl | ⟨-, rfl⟩⟩ := h
      · refine forall_mem_locate (P := fun m : Hook.Misplaced =>
          Unmarked m.name ∧ ∀ rename ∈ m.rename, Unmarked rename) (fun l ls m hm => ?_) s.lines
        exact Hook.unmarked_of_misplaced? (Option.mem_toList.mp hm)
      · trivial
  | stateCount =>
      simp only [diagnose, diagnoseStates, List.mem_ite_nil_right, List.mem_singleton] at h
      obtain ⟨-, rfl⟩ := h
      refine forall_mem_locate (fun l ls name hname => ?_) s.lines
      rw [List.eq_of_mem_replicate hname]
      exact Hook.unmarked_stateName l
  | constants =>
      simp only [diagnose, diagnoseConstants, List.mem_ite_nil_left] at h
      obtain ⟨-, h⟩ := h
      split_ifs at h
      · obtain rfl := List.mem_singleton.mp h
        intro f hf
        refine forall_mem_locate (P := fun m : Measured => Unmarked m.name) (fun l ls m hm => ?_)
          s.lines f (List.mem_of_mem_filter hf)
        obtain ⟨name, hname, rfl⟩ := Option.map_eq_some_iff.mp (Option.mem_toList.mp hm)
        exact Declaration.unmarked_of_constantName? hname
      · simp at h
      · obtain rfl := List.mem_singleton.mp h
        refine forall_mem_locate (fun l ls name hname => ?_) s.lines
        exact Declaration.unmarked_of_plainConstantName? (Option.mem_toList.mp hname)
  | components =>
      simp only [diagnose, diagnoseComponents, List.mem_ite_nil_right, List.mem_singleton] at h
      obtain ⟨-, rfl⟩ := h
      refine forall_mem_locate (fun l ls name hname => ?_) s.lines
      exact Declaration.unmarked_of_component? (Option.mem_toList.mp hname)
  | inlineTypes =>
      have htypes : ∀ f ∈ Declaration.types s.lines, Unmarked f.item.name := by
        refine forall_mem_locate (P := fun m : Measured => Unmarked m.name) (fun l ls m hm => ?_)
          s.lines
        obtain ⟨name, hname, rfl⟩ := Option.map_eq_some_iff.mp (Option.mem_toList.mp hm)
        exact Declaration.unmarked_of_typeName? hname
      simp only [diagnose, diagnoseTypes, List.mem_ite_nil_left] at h
      obtain ⟨-, h⟩ := h
      split_ifs at h
      · obtain rfl := List.mem_singleton.mp h
        intro f hf
        obtain ⟨g, hg, rfl⟩ := List.mem_map.mp hf
        exact htypes g (List.mem_of_mem_filter hg)
      · obtain rfl := List.mem_singleton.mp h
        intro f hf
        obtain ⟨g, hg, rfl⟩ := List.mem_map.mp hf
        exact htypes g hg
      · simp at h
  | consoleCalls =>
      obtain rfl := List.mem_singleton.mp h
      trivial
  | comments =>
      simp only [diagnose, diagnoseComments, List.mem_cons, List.not_mem_nil, or_false] at h
      rcases h with rfl | rfl | rfl <;> trivial
  | fileSize | tryBlocks | markupSize | atomicDesign | queries | fetches =>
      simp only [diagnose, diagnoseFileSize, diagnoseTry, diagnoseMarkup, diagnoseAtomic,
        diagnoseQueries, diagnoseFetches, List.mem_ite_nil_left, List.mem_ite_nil_right,
        List.mem_singleton] at h
      obtain ⟨-, rfl⟩ := h
      trivial

end ReactLint
