import Mathlib.Data.List.Basic
import Mathlib.Tactic.Common

/-!
# The order of a report

A report shows the issues about the file first, in their order, and then the others by line.  Issues
of one line stay in their order.  This file says what that order is, without saying how it is
computed, and that there is only one.

**Stable sorting.**  A list is sorted stably by a key when its keys do not decrease and the elements
of each key are those of the original list, in the same order (`IsStableSort`).  Two lists with
these properties have the same first element: it has the least key, and is the first of that key.
So there is one such list (`IsStableSort.unique`), and merge sort finds it.

**Arrangements.**  The order of a report is determined by the issues about the file and, line by
line, the issues of each line (`isArranged_iff`, `sortBy_eq_of_sameByKey`).
-/

namespace ReactLint

/-! ## Stable sorting -/

section Sorting

variable {α : Type}

/-- For each key the two lists have the same elements, in the same order. -/
def SameByKey (key : α → Int) (xs ys : List α) : Prop :=
  ∀ k, xs.filter (fun a => key a = k) = ys.filter fun a => key a = k

/-- `ys` is `xs` sorted by the key, and elements of one key are in the order that they had. -/
structure IsStableSort (key : α → Int) (xs ys : List α) : Prop where
  sorted : ys.Pairwise fun a b => key a ≤ key b
  perm : ys.Perm xs
  same : SameByKey key ys xs

variable {key : α → Int} {xs ys zs : List α}

namespace SameByKey

lemma symm (h : SameByKey key xs ys) : SameByKey key ys xs := fun k => (h k).symm

lemma trans (h : SameByKey key xs ys) (h' : SameByKey key ys zs) : SameByKey key xs zs :=
  fun k => (h k).trans (h' k)

lemma mem {a : α} (h : SameByKey key xs ys) (ha : a ∈ xs) : a ∈ ys := by
  have hkey : a ∈ xs.filter fun b => key b = key a := List.mem_filter.mpr ⟨ha, by simp⟩
  rw [h (key a)] at hkey
  exact (List.mem_filter.mp hkey).1

lemma eq_nil (h : SameByKey key xs []) : xs = [] :=
  List.eq_nil_iff_forall_not_mem.mpr fun _ ha => List.not_mem_nil (h.mem ha)

/-- An element in front of both lists may be taken away. -/
lemma of_cons {a : α} (h : SameByKey key (a :: xs) (a :: ys)) : SameByKey key xs ys := by
  intro k
  have hk := h k
  by_cases hak : key a = k
  · simpa [List.filter_cons, hak] using hk
  · simpa [List.filter_cons, hak] using hk

/-- **Sorted lists with the same elements for each key are equal.**  The first elements have the
least key of all, and both are the first of that key. -/
lemma eq_of_sorted (h : SameByKey key xs ys) (hxs : xs.Pairwise fun a b => key a ≤ key b)
    (hys : ys.Pairwise fun a b => key a ≤ key b) : xs = ys := by
  induction xs generalizing ys with
  | nil => exact h.symm.eq_nil.symm
  | cons a xs ih =>
      cases ys with
      | nil => exact h.eq_nil
      | cons b ys =>
          obtain ⟨hleast, hxs'⟩ := List.pairwise_cons.mp hxs
          obtain ⟨hleast', hys'⟩ := List.pairwise_cons.mp hys
          have hle : key a ≤ key b := by
            rcases List.mem_cons.mp (h.symm.mem List.mem_cons_self) with rfl | hb
            · exact Int.le_refl _
            · exact hleast b hb
          have hge : key b ≤ key a := by
            rcases List.mem_cons.mp (h.mem List.mem_cons_self) with rfl | ha
            · exact Int.le_refl _
            · exact hleast' a ha
          have hkey : key b = key a := Int.le_antisymm hge hle
          have hfirst := h (key a)
          simp only [List.filter_cons, hkey, decide_true, if_true, List.cons.injEq] at hfirst
          obtain ⟨rfl, -⟩ := hfirst
          rw [ih h.of_cons hxs' hys']

end SameByKey

lemma IsStableSort.unique (h : IsStableSort key xs ys) (h' : IsStableSort key xs zs) : ys = zs :=
  (h.same.trans h'.same.symm).eq_of_sorted h.sorted h'.sorted

/-- Merge sort by a key. -/
def sortBy (key : α → Int) (xs : List α) : List α := xs.mergeSort fun a b => key a ≤ key b

lemma isStableSort_sortBy (key : α → Int) (xs : List α) : IsStableSort key xs (sortBy key xs) := by
  have htrans (a b c : α) (hab : decide (key a ≤ key b) = true)
      (hbc : decide (key b ≤ key c) = true) : decide (key a ≤ key c) = true := by
    simp only [decide_eq_true_eq] at hab hbc ⊢
    omega
  have htotal (a b : α) : (decide (key a ≤ key b) || decide (key b ≤ key a)) = true := by
    simp only [Bool.or_eq_true, decide_eq_true_eq]
    omega
  refine ⟨?_, List.mergeSort_perm _ _, fun k => ?_⟩
  · simpa [sortBy] using List.pairwise_mergeSort htrans htotal xs
  · -- the elements of one key are in order already, so merge sort leaves them as they are
    have hordered : (xs.filter fun a => key a = k).Pairwise
        fun a b => decide (key a ≤ key b) = true := by
      refine List.pairwise_of_forall_mem_list fun a ha b hb => ?_
      have hka : key a = k := by simpa using (List.mem_filter.mp ha).2
      have hkb : key b = k := by simpa using (List.mem_filter.mp hb).2
      simp [hka, hkb]
    have hsub := (List.sublist_mergeSort htrans htotal hordered List.filter_sublist).filter
      fun a => key a = k
    rw [List.filter_filter] at hsub
    simp only [Bool.and_self] at hsub
    refine (hsub.eq_of_length ?_).symm
    exact ((List.mergeSort_perm xs _).filter _).length_eq.symm

lemma sortBy_eq_of_sameByKey (h : SameByKey key xs ys) : sortBy key xs = sortBy key ys := by
  have hx := isStableSort_sortBy key xs
  have hy := isStableSort_sortBy key ys
  exact ((hx.same.trans h).trans hy.same.symm).eq_of_sorted hx.sorted hy.sorted

@[simp] lemma length_sortBy (key : α → Int) (xs : List α) : (sortBy key xs).length = xs.length :=
  (isStableSort_sortBy key xs).perm.length_eq

lemma mem_sortBy {a : α} : a ∈ sortBy key xs ↔ a ∈ xs :=
  (isStableSort_sortBy key xs).perm.mem_iff

lemma map_sortBy {β : Type} (f : α → β) (key : β → Int) (xs : List α) :
    (sortBy (fun a => key (f a)) xs).map f = sortBy key (xs.map f) :=
  List.map_mergeSort fun _ _ _ _ => rfl

end Sorting

/-! ## Arrangements -/

section Arrangement

variable {α : Type} (whole : α → Bool) (line : α → Int)

/-- The elements that are not about the whole. -/
def inlineOf (xs : List α) : List α := xs.filter fun a => !whole a

/-- Those about the whole in their order, then the others sorted by line, those of one line in their
order. -/
def IsArranged (xs shown : List α) : Prop :=
  ∃ inline, IsStableSort line (inlineOf whole xs) inline ∧ shown = xs.filter whole ++ inline

/-- The list in the order of a report. -/
def arrange (xs : List α) : List α := xs.filter whole ++ sortBy line (inlineOf whole xs)

/-- The two lists agree on what is about the whole, and have the same other elements, those of one
line in the same order. -/
structure Rearranged (xs ys : List α) : Prop where
  same_whole : xs.filter whole = ys.filter whole
  perm_inline : (inlineOf whole xs).Perm (inlineOf whole ys)
  same_lines : SameByKey line (inlineOf whole xs) (inlineOf whole ys)

variable {whole line} {xs ys : List α}

@[simp] lemma arrange_nil : arrange whole line [] = [] := by
  simp [arrange, inlineOf, sortBy]

/-- **There is one arrangement.** -/
lemma isArranged_iff {shown : List α} :
    IsArranged whole line xs shown ↔ shown = arrange whole line xs := by
  constructor
  · rintro ⟨inline, hinline, rfl⟩
    rw [arrange, hinline.unique (isStableSort_sortBy line _)]
  · rintro rfl
    exact ⟨_, isStableSort_sortBy line _, rfl⟩

lemma length_filter_add_inlineOf (whole : α → Bool) (xs : List α) :
    (xs.filter whole).length + (inlineOf whole xs).length = xs.length := by
  rw [← List.length_append]
  exact (List.filter_append_perm whole xs).length_eq

lemma Rearranged.perm (h : Rearranged whole line xs ys) : xs.Perm ys := by
  have hx : (xs.filter whole ++ inlineOf whole xs).Perm xs := List.filter_append_perm whole xs
  have hy : (ys.filter whole ++ inlineOf whole ys).Perm ys := List.filter_append_perm whole ys
  rw [h.same_whole] at hx
  exact hx.symm.trans ((h.perm_inline.append_left _).trans hy)

lemma map_arrange {β : Type} (f : α → β) {whole : β → Bool} {line : β → Int} (xs : List α) :
    (arrange (fun a => whole (f a)) (fun a => line (f a)) xs).map f
      = arrange whole line (xs.map f) := by
  rw [arrange, arrange, List.map_append, map_sortBy, inlineOf, inlineOf, List.filter_map,
    List.filter_map]
  rfl

lemma Rearranged.map {β : Type} {f : α → β} {whole : β → Bool} {line : β → Int}
    (h : Rearranged (fun a => whole (f a)) (fun a => line (f a)) xs ys) :
    Rearranged whole line (xs.map f) (ys.map f) := by
  have hfilter (keep : β → Bool) (zs : List α) :
      (zs.map f).filter keep = (zs.filter fun a => keep (f a)).map f := by
    rw [List.filter_map]
    rfl
  refine ⟨?_, ?_, fun k => ?_⟩
  · rw [hfilter, hfilter, h.same_whole]
  · rw [inlineOf, inlineOf, hfilter, hfilter]
    exact h.perm_inline.map f
  · rw [inlineOf, inlineOf, hfilter, hfilter, hfilter, hfilter]
    exact congrArg (List.map f) (h.same_lines k)

end Arrangement

end ReactLint
