import Mathlib.Algebra.Ring.Nat
import Mathlib.Data.List.Count
import ReactLint.Issue
import ReactLint.Proofs.List.Distinct

/-!
# The summary of a report

The summary counts the issues of each category.  It is made by going through the issues once, each
one adding to the count of its category or opening a new one at the end.  So it has the distinct
categories in the order in which they are first seen, each with the number of its issues
(`summarize_eq`), and the counts add up to the number of issues (`sum_summarize`).

All of it is by induction on the issues seen so far: one more issue is one more step
(`summarize_concat`), both in the summary and in the list of distinct categories.
-/

namespace ReactLint

/-! ## One more issue -/

lemma countCategory_of_notMem {c : String} {counts : List (String × Nat)}
    (h : c ∉ counts.map Prod.fst) : countCategory c counts = counts ++ [(c, 1)] := by
  induction counts with
  | nil => rfl
  | cons entry rest ih =>
      obtain ⟨e, n⟩ := entry
      rw [List.map_cons, List.mem_cons, not_or] at h
      rw [countCategory, if_neg (Ne.symm h.1), ih h.2, List.cons_append]

lemma countCategory_of_mem {c : String} {ks : List String} (hnodup : ks.Nodup) (hc : c ∈ ks)
    (count : String → Nat) :
    countCategory c (ks.map fun k => (k, count k))
      = ks.map fun k => (k, if k = c then count k + 1 else count k) := by
  induction ks with
  | nil => cases hc
  | cons k ks ih =>
      rw [List.nodup_cons] at hnodup
      rw [List.map_cons, List.map_cons, countCategory]
      by_cases hk : k = c
      · have hrest : ∀ e ∈ ks, (e, count e) = (e, if e = c then count e + 1 else count e) := by
          intro e he
          have hne : e ≠ c := by
            rintro rfl
            exact hnodup.1 (hk ▸ he)
          rw [if_neg hne]
        rw [if_pos hk, if_pos hk, List.map_congr_left hrest]
      · have hc : c ∈ ks := (List.mem_cons.mp hc).resolve_left (Ne.symm hk)
        rw [if_neg hk, if_neg hk, ih hnodup.2 hc]

lemma sum_countCategory (c : String) (counts : List (String × Nat)) :
    ((countCategory c counts).map Prod.snd).sum = (counts.map Prod.snd).sum + 1 := by
  induction counts with
  | nil => simp [countCategory]
  | cons entry rest ih =>
      obtain ⟨e, n⟩ := entry
      rw [countCategory]
      split_ifs
      · simp only [List.map_cons, List.sum_cons]
        omega
      · simp only [List.map_cons, List.sum_cons, ih]
        omega

/-! ## All issues -/

lemma summarize_concat (cs : List String) (c : String) :
    summarize (cs ++ [c]) = countCategory c (summarize cs) := by
  simp [summarize]

/-- **The summary** has the distinct categories in the order in which they are first seen, each with
its number of issues. -/
lemma summarize_eq (cs : List String) :
    summarize cs = cs.eraseDups.map fun c => (c, cs.count c) := by
  induction cs using List.reverseRecOn with
  | nil => simp [summarize]
  | append_singleton cs c ih =>
      rw [summarize_concat, ih, eraseDups_concat]
      split_ifs with hc
      · rw [countCategory_of_mem (nodup_eraseDups cs) (List.mem_eraseDups.mpr hc)]
        refine List.map_congr_left fun k _ => ?_
        by_cases hk : k = c
        · simp [hk]
        · simp [hk, Ne.symm hk]
      · have hnew : c ∉ (cs.eraseDups.map fun k => (k, cs.count k)).map Prod.fst := by
          simpa using hc
        have hold : ∀ k ∈ cs.eraseDups, (k, cs.count k) = (k, (cs ++ [c]).count k) := by
          intro k hk
          have hne : c ≠ k := by
            rintro rfl
            exact hc (List.mem_eraseDups.mp hk)
          simp [hne]
        rw [countCategory_of_notMem hnew, List.map_append, List.map_congr_left hold]
        simp [List.count_eq_zero_of_not_mem hc]

/-- **The counts add up** to the number of issues. -/
lemma sum_summarize (cs : List String) : ((summarize cs).map Prod.snd).sum = cs.length := by
  induction cs using List.reverseRecOn with
  | nil => simp [summarize]
  | append_singleton cs c ih =>
      rw [summarize_concat, sum_countCategory, ih, List.length_append, List.length_singleton]

/-- Categories of which none stands twice have the count one, in their order. -/
lemma summarize_of_nodup {cs : List String} (h : cs.Nodup) :
    summarize cs = cs.map fun c => (c, 1) := by
  rw [summarize_eq, eraseDups_of_nodup h]
  refine List.map_congr_left fun c hc => ?_
  rw [List.count_eq_one_of_mem h hc]

end ReactLint
