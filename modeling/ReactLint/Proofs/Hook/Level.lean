import Mathlib.Algebra.BigOperators.Group.List.Basic
import ReactLint.Proofs.Finding.Category
import ReactLint.Proofs.Text.Trim

/-!
# State hooks and levels

State hooks are counted twice: line by line, for a component that has too many of them, and in the
text as a whole, for the level that a component belongs on.  The two counts can differ, as a call
may go on in the next line.

**Persistence.**  A construct that was found in a text is still found when more text follows, and
what starts a text may as well start a line (`Persistent`).  So nothing that is counted is lost when
text is appended (`countPlaces_append_le`) or when lines are put together
(`sum_countPlaces_lines_le`).

**Levels.**  The level for some counts rises with each of them (`height_ofCounts_le`).  A component
with too many state hooks therefore has a level above the lowest.
-/

namespace ReactLint

namespace Text

/-- A construct that is still found when more text follows, and behind a newline when it is found
where a text starts. -/
structure Persistent (f : Place → Bool) : Prop where
  append {x : Option Char} {s : Text} (t : Text) : f ⟨x, s⟩ = true → f ⟨x, s ++ t⟩ = true
  newline {s : Text} : f ⟨none, s⟩ = true → f ⟨some '\n', s⟩ = true

section Persistent

variable {f : Place → Bool}

/-- The first place of a text that follows `x`, and the places behind it. -/
lemma exists_placesAfter (t : Text) : ∃ ps, ∀ x, placesAfter x t = ⟨x, t⟩ :: ps := by
  cases t with
  | nil => exact ⟨[], fun _ => rfl⟩
  | cons c t => exact ⟨placesAfter (some c) t, fun _ => rfl⟩

/-- Where the construct stands at the first place of both lists or only of the second, a bound on
the counts goes over to the lists with these places. -/
lemma countP_cons_add_le {p q : Place} {ps qs : List Place} {n : Nat}
    (hfirst : f p = true → f q = true) (h : ps.countP f + n ≤ qs.countP f) :
    (p :: ps).countP f + n ≤ (q :: qs).countP f := by
  rw [List.countP_cons, List.countP_cons]
  by_cases hp : f p = true
  · rw [if_pos hp, if_pos (hfirst hp)]
    omega
  · rw [if_neg hp]
    omega

lemma countP_placesAfter_append (hf : Persistent f) (x : Option Char) (s t : Text) :
    (placesAfter x s).countP f ≤ (placesAfter x (s ++ t)).countP f := by
  induction s generalizing x with
  | nil =>
      obtain ⟨ps, hps⟩ := exists_placesAfter t
      rw [List.nil_append, hps]
      exact countP_cons_add_le (n := 0) (hf.append t) (Nat.zero_le _)
  | cons c s ih => exact countP_cons_add_le (n := 0) (hf.append t) (ih (some c))

lemma countP_placesAfter_newline (hf : Persistent f) (x : Option Char) (s t : Text) :
    (placesAfter x s).countP f + countPlaces f t ≤ (placesAfter x (s ++ '\n' :: t)).countP f := by
  induction s generalizing x with
  | nil =>
      refine countP_cons_add_le (hf.append ('\n' :: t)) ?_
      obtain ⟨ps, hps⟩ := exists_placesAfter t
      rw [List.countP_nil, Nat.zero_add, countPlaces, places, hps, hps]
      exact countP_cons_add_le (n := 0) hf.newline (Nat.le_refl _)
  | cons c s ih => exact countP_cons_add_le (hf.append ('\n' :: t)) (ih (some c))

/-- **Nothing is lost when text is appended.** -/
lemma countPlaces_append_le (hf : Persistent f) (s t : Text) :
    countPlaces f s ≤ countPlaces f (s ++ t) :=
  countP_placesAfter_append hf none s t

lemma sum_countPlaces_le_unlines (hf : Persistent f) (ls : List Text) :
    (ls.map (countPlaces f)).sum ≤ countPlaces f (unlines ls) := by
  induction ls with
  | nil => exact Nat.zero_le _
  | cons l ls ih =>
      cases ls with
      | nil => simp [unlines]
      | cons l' ls =>
          rw [unlines_cons, List.map_cons, List.sum_cons]
          exact Nat.le_trans (Nat.add_le_add_left ih _) (countP_placesAfter_newline hf none l _)

/-- **Nothing is lost when lines are put together.** -/
lemma sum_countPlaces_lines_le (hf : Persistent f) (t : Text) :
    ((lines t).map (countPlaces f)).sum ≤ countPlaces f t := by
  have h := sum_countPlaces_le_unlines hf (lines t)
  rwa [unlines_lines] at h

end Persistent

/-! ## Constructs that persist -/

lemma skip?_append {w : String} {s r : Text} (h : skip? w s = some r) (t : Text) :
    skip? w (s ++ t) = some (r ++ t) := by
  obtain rfl := after?_eq_some_iff.mp h
  rw [List.append_assoc]
  exact after?_append w.toList (r ++ t)

/-- The blanks at the start end before the second part when something follows them in the first. -/
lemma trimStart_append {s : Text} (h : trimStart s ≠ []) (t : Text) :
    trimStart (s ++ t) = trimStart s ++ t := by
  rw [trimStart] at h
  rw [trimStart, List.dropWhile_append, if_neg (mt List.isEmpty_iff.mp h), trimStart]

lemma head?_append_of_any {s : Text} {p : Char → Bool} (h : s.head?.any p = true) (t : Text) :
    (s ++ t).head? = s.head? := by
  cases s with
  | nil => cases h
  | cons c s => rfl

/-- What is told from the text behind a whole word persists when it is told from longer texts
too. -/
lemma persistent_word? {w : String} {k : Text → Bool}
    (hk : ∀ r t, k r = true → k (r ++ t) = true) : Persistent fun p => (p.word? w).any k where
  append {x s} t h := by
    simp only [Place.word?] at h ⊢
    split_ifs at h ⊢ with hx
    · cases h
    · obtain ⟨r, hr, hkr⟩ := (Option.any_eq_true _ _).mp h
      rw [skip?_append hr, Option.any_some]
      exact hk r t hkr
  newline {s} h := h

/-- One of several constructs. -/
lemma persistent_any {ι : Type} {ws : List ι} {g : ι → Place → Bool}
    (hg : ∀ w, Persistent (g w)) : Persistent fun p => ws.any fun w => g w p where
  append {x s} t h := by
    obtain ⟨w, hw, hfound⟩ := List.any_eq_true.mp h
    exact List.any_eq_true.mpr ⟨w, hw, (hg w).append t hfound⟩
  newline {s} h := by
    obtain ⟨w, hw, hfound⟩ := List.any_eq_true.mp h
    exact List.any_eq_true.mpr ⟨w, hw, (hg w).newline hfound⟩

end Text

open Text

lemma Hook.persistent_isStateCall : Persistent Hook.isStateCall := by
  refine persistent_word? fun r t h => ?_
  rw [Bool.and_eq_true] at h ⊢
  obtain ⟨hends, hopens⟩ := h
  have hblanks : trimStart r ≠ [] := by
    intro hnil
    rw [hnil] at hopens
    cases hopens
  have hword : r ≠ [] := fun hnil => hblanks (by rw [hnil]; rfl)
  constructor
  · rw [endsWord, List.head?_append_of_ne_nil _ hword]
    exact hends
  · rw [trimStart_append hblanks, head?_append_of_any hopens]
    exact hopens

lemma Hook.persistent_isCallOf (names : List String) : Persistent (Hook.isCallOf names) := by
  refine persistent_any fun w => ?_
  simp only [Option.isSome_bind]
  refine persistent_word? fun r t h => ?_
  obtain ⟨rest, hrest⟩ := Option.isSome_iff_exists.mp h
  have hblanks : trimStart r ≠ [] := by
    intro hnil
    rw [blanksThen?, hnil] at hrest
    cases hrest
  rw [blanksThen?, trimStart_append hblanks, skip?_append hrest, Option.isSome_some]

lemma AtomicLevel.persistent_isComponentTag : Persistent AtomicLevel.isComponentTag where
  append {x s} t h := by
    obtain ⟨r, hr, hcapital⟩ := (Option.any_eq_true _ _).mp h
    rw [isComponentTag, skip?_append hr, Option.any_some, head?_append_of_any hcapital]
    exact hcapital
  newline {s} h := h

/-! ## Levels -/

namespace AtomicLevel

/-- The place of a level among the levels, from the lowest. -/
def height : AtomicLevel → Nat
  | atom => 0
  | molecule => 1
  | organism => 2

/-- **More of anything does not lower the level.** -/
lemma height_ofCounts_le {states effects tags states' effects' tags' : Nat}
    (hstates : states ≤ states') (heffects : effects ≤ effects') (htags : tags ≤ tags') :
    (ofCounts states effects tags).height ≤ (ofCounts states' effects' tags').height := by
  rw [ofCounts, ofCounts]
  split_ifs <;> simp only [height] <;> omega

lemma ofCounts_ne_atom {states effects tags : Nat} (h : 0 < states) :
    ofCounts states effects tags ≠ atom := by
  rw [ofCounts, if_neg (by omega)]
  split_ifs <;> simp

lemma ofCounts_eq_organism {states effects tags : Nat} (h : 2 < states) :
    ofCounts states effects tags = organism := by
  rw [ofCounts, if_neg (by omega), if_neg (by omega)]

lemma height_suggest_le (content more : Text) :
    (suggest content).height ≤ (suggest (content ++ more)).height :=
  height_ofCounts_le (countPlaces_append_le Hook.persistent_isStateCall content more)
    (countPlaces_append_le (Hook.persistent_isCallOf _) content more)
    (countPlaces_append_le persistent_isComponentTag content more)

end AtomicLevel

lemma length_locateFrom {α : Type} (look : Text → List Text → List α) (n : Nat)
    (count : Text → Nat) (hlook : ∀ l ls, (look l ls).length = count l) (ls : List Text) :
    (locateFrom look n ls).length = (ls.map count).sum := by
  induction ls generalizing n with
  | nil => rfl
  | cons l ls ih => simp [locateFrom, hlook, ih]

lemma Hook.length_states (ls : List Text) :
    (Hook.states ls).length = (ls.map (countPlaces Hook.isStateCall)).sum := by
  rw [Hook.states, locate, length_locateFrom _ _ (countPlaces Hook.isStateCall) (by simp)]

/-! ## Reports -/

/-- A level is told from what is said about it: the names of the folders start differently. -/
lemma AtomicLevel.eq_of_message_eq {level level' : AtomicLevel} {name : Text}
    (h : (Diagnosis.atomicDesign level name).message
      = (Diagnosis.atomicDesign level' name).message) : level = level' := by
  have hparts (level : AtomicLevel) : (Diagnosis.atomicDesign level name).message =
      "🏗️ **Atomic Design** — This component belongs in `components/" ++ level.folder ++ "/" ++
        String.ofList name ++ "`." := rfl
  simp only [hparts, String.append_assoc, String.append_right_inj] at h
  have hstart (level : AtomicLevel) (rest : String) :
      (level.folder ++ rest).toList.head? = level.folder.toList.head? := by
    rw [String.toList_append]
    cases level <;> rfl
  have hfirst : level.folder.toList.head? = level'.folder.toList.head? := by
    rw [← hstart, h, hstart]
  revert hfirst
  cases level <;> cases level' <;> decide

/-- What is reported on levels names the level for the text. -/
lemma message_of_atomicDesign {t : Thresholds} {s : Source} {i : Issue} (hi : i ∈ lint t s)
    (hcategory : i.category = "atomic-design") :
    i.message = (Diagnosis.atomicDesign (.suggest s.content) (fileNameOf s.path)).message := by
  obtain ⟨d, hd, hid⟩ := exists_diagnosis_of_mem_lint (r := .atomicDesign) hi
    (by rw [hcategory]; decide)
  rw [Rule.diagnose, Rule.diagnoseAtomic] at hd
  split_ifs at hd
  · obtain rfl := List.mem_singleton.mp hd
    obtain rfl := List.mem_singleton.mp hid
    rfl
  · cases hd

/-- State hooks that are reported are more than the limit, and there is one at least. -/
lemma length_states_of_manyStates {t : Thresholds} {s : Source}
    (h : "too-many-states" ∈ (lint t s).map Issue.category) :
    t.stateHooks < ((Hook.states s.lines).length : Int) ∧ 0 < (Hook.states s.lines).length := by
  obtain ⟨i, hi, hcategory⟩ := List.mem_map.mp h
  obtain ⟨d, hd, hid⟩ := exists_diagnosis_of_mem_lint (r := .stateCount) hi
    (by rw [hcategory]; decide)
  rw [Rule.diagnose, Rule.diagnoseStates] at hd
  split_ifs at hd with hlimit
  · obtain rfl := List.mem_singleton.mp hd
    obtain ⟨-, -, -, -, hanchor⟩ := mem_issues hid
    obtain ⟨n, hn, -⟩ := hanchor rfl
    obtain ⟨f, hf, -⟩ := List.mem_map.mp hn
    rw [Bool.and_eq_true, decide_eq_true_iff] at hlimit
    exact ⟨hlimit.2, List.length_pos_of_mem hf⟩
  · cases hd

/-- **The two counts of state hooks agree on the level.**  Counted line by line, there are at most
as many state hooks as in the text.  So a component that is reported both for too many of them and
for its level is never sent to the atoms, and it is sent to the organisms when the limit is two or
more.  And the level for a text does not fall when more text is appended. -/
theorem state_counts_agree_on_level (t : Thresholds) (path content : Text) :
    ((Hook.states (lines content)).length
        = ((lines content).map (countPlaces Hook.isStateCall)).sum ∧
      (Hook.states (lines content)).length ≤ countPlaces Hook.isStateCall content) ∧
    ("too-many-states" ∈ (lint t ⟨path, content⟩).map Issue.category →
      ∀ i ∈ lint t ⟨path, content⟩, i.category = "atomic-design" →
        i.message =
          (Diagnosis.atomicDesign (AtomicLevel.suggest content) (fileNameOf path)).message ∧
        i.message ≠ (Diagnosis.atomicDesign .atom (fileNameOf path)).message ∧
        (2 ≤ t.stateHooks →
          i.message = (Diagnosis.atomicDesign .organism (fileNameOf path)).message)) ∧
    ∀ more,
      (AtomicLevel.suggest content).height ≤ (AtomicLevel.suggest (content ++ more)).height := by
  have hlines := Hook.length_states (lines content)
  have hcounts : (Hook.states (lines content)).length ≤ countPlaces Hook.isStateCall content := by
    rw [hlines]
    exact sum_countPlaces_lines_le Hook.persistent_isStateCall content
  refine ⟨⟨hlines, hcounts⟩, fun hmany i hi hlevel => ?_, AtomicLevel.height_suggest_le content⟩
  obtain ⟨hlimit, hpos⟩ := length_states_of_manyStates hmany
  simp only [Source.lines] at hlimit hpos
  have hmessage := message_of_atomicDesign hi hlevel
  refine ⟨hmessage, fun hatom => ?_, fun htwo => ?_⟩
  · have hsuggest : AtomicLevel.suggest content = .atom :=
      AtomicLevel.eq_of_message_eq (hmessage.symm.trans hatom)
    exact AtomicLevel.ofCounts_ne_atom (Nat.lt_of_lt_of_le hpos hcounts) hsuggest
  · have hsuggest : AtomicLevel.suggest content = .organism :=
      AtomicLevel.ofCounts_eq_organism (by omega)
    rw [hmessage, ← hsuggest]

/-- Four state hooks, the last of them called on the next line: it counts in the text only. -/
theorem state_counts_agree_on_level_card :
    let t := Thresholds.default.set .stateHooks 2
    let path := "components/Card.tsx".toList
    let content := "useState(1)\nuseState(2)\nuseState(3)\nuseState\n(4)".toList
    (Hook.states (lines content)).length = 3 ∧ countPlaces Hook.isStateCall content = 4 ∧
      (lint t ⟨path, content⟩).map Issue.category = ["too-many-states", "atomic-design"] ∧
      ∀ i ∈ lint t ⟨path, content⟩, i.category = "atomic-design" →
        i.message = (Diagnosis.atomicDesign .organism (fileNameOf path)).message := by
  intro t path content
  have hreported :
      (lint t ⟨path, content⟩).map Issue.category = ["too-many-states", "atomic-design"] := by
    decide +kernel
  have hmany : "too-many-states" ∈ (lint t ⟨path, content⟩).map Issue.category := by
    rw [hreported]
    exact List.mem_cons_self
  refine ⟨by decide +kernel, by decide +kernel, hreported, fun i hi hlevel => ?_⟩
  exact ((state_counts_agree_on_level t path content).2.1 hmany i hi hlevel).2.2 (by decide)

end ReactLint
