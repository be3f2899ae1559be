import Mathlib.Data.List.Induction
import Mathlib.Data.List.Nodup
import Mathlib.Tactic.Common

/-!
# Distinct elements

The summary of a report has one count for each category, and a check of many files one entry for
each path.  Both go through a list once and keep the elements that were not seen before, which is
`List.eraseDups`.  What it keeps is described by `IsFirstSeen`: each element once, in the order in
which the elements are first seen.

All of it is by induction on what was seen so far: one more element is dropped or comes last
(`eraseDups_concat`).
-/

namespace ReactLint

variable {α : Type} [DecidableEq α]

/-- The list `ys` has the elements of `xs`, each once, in the order in which `xs` first has them. -/
structure IsFirstSeen (xs ys : List α) : Prop where
  nodup : ys.Nodup
  mem_iff : ∀ a, a ∈ ys ↔ a ∈ xs
  order : ys.Pairwise fun a b => xs.idxOf a < xs.idxOf b

/-- **One more element** is dropped if it was seen before, and comes last otherwise. -/
lemma eraseDups_concat (xs : List α) (a : α) :
    (xs ++ [a]).eraseDups = if a ∈ xs then xs.eraseDups else xs.eraseDups ++ [a] := by
  rw [List.eraseDups_append]
  split_ifs with ha
  · simp [List.removeAll, ha]
  · simp [List.removeAll, ha, List.eraseDups_cons]

lemma nodup_eraseDups (xs : List α) : xs.eraseDups.Nodup := by
  induction xs using List.reverseRecOn with
  | nil => simp
  | append_singleton xs a ih =>
      rw [eraseDups_concat]
      split_ifs with ha
      · exact ih
      · rw [← List.concat_eq_append]
        exact ih.concat (mt List.mem_eraseDups.mp ha)

lemma eraseDups_of_nodup {xs : List α} (h : xs.Nodup) : xs.eraseDups = xs := by
  induction xs using List.reverseRecOn with
  | nil => simp
  | append_singleton xs a ih =>
      rw [List.nodup_append] at h
      have ha : a ∉ xs := fun hmem => h.2.2 a hmem a (List.mem_singleton_self a) rfl
      rw [eraseDups_concat, if_neg ha, ih h.1]

/-- Elements may be left out before or after. -/
lemma eraseDups_filter (keep : α → Bool) (xs : List α) :
    (xs.filter keep).eraseDups = xs.eraseDups.filter keep := by
  induction xs using List.reverseRecOn with
  | nil => simp
  | append_singleton xs a ih =>
      rw [List.filter_append, eraseDups_concat]
      cases hkeep : keep a with
      | true =>
          rw [List.filter_cons_of_pos hkeep, List.filter_nil, eraseDups_concat, ih]
          simp only [List.mem_filter, hkeep, and_true]
          split_ifs
          · rfl
          · rw [List.filter_append, List.filter_cons_of_pos hkeep, List.filter_nil]
      | false =>
          have hdrop : [a].filter keep = [] := by simp [hkeep]
          rw [hdrop, List.append_nil, ih]
          split_ifs
          · rfl
          · rw [List.filter_append, hdrop, List.append_nil]

/-- **What is kept** is each element once, in the order in which they are first seen. -/
lemma isFirstSeen_eraseDups (xs : List α) : IsFirstSeen xs xs.eraseDups where
  nodup := nodup_eraseDups xs
  mem_iff _ := List.mem_eraseDups
  order := by
    induction xs using List.reverseRecOn with
    | nil => simp
    | append_singleton xs a ih =>
        have hseen : xs.eraseDups.Pairwise
            fun b c => (xs ++ [a]).idxOf b < (xs ++ [a]).idxOf c := by
          refine ih.imp_of_mem fun {b c} hb hc hlt => ?_
          rw [List.mem_eraseDups] at hb hc
          rwa [List.idxOf_append_of_mem hb, List.idxOf_append_of_mem hc]
        rw [eraseDups_concat]
        split_ifs with ha
        · exact hseen
        · -- a new element is seen behind all others
          refine List.pairwise_append.mpr ⟨hseen, List.pairwise_singleton _ a, fun b hb c hc => ?_⟩
          obtain rfl := List.mem_singleton.mp hc
          rw [List.mem_eraseDups] at hb
          rw [List.idxOf_append_of_mem hb, List.idxOf_append_of_notMem ha]
          have := List.idxOf_lt_length_iff.mpr hb
          omega

end ReactLint
