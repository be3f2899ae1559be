import ReactLint.Proofs.Text.Place
import ReactLint.Proofs.Text.Trim

/-!
# The identifiers of a text

The identifiers of a text are its maximal runs of identifier characters (`mem_identifiers`).  All
that is used of them follows from one equation: a character that belongs to no identifier separates
the identifiers before it from those behind it (`identifiers_append_cons`).  In particular the
identifiers of lines put together are those of the lines, whatever stands between these.
-/

namespace ReactLint.Text

/-- The identifiers of a text, from left to right. -/
def identifiers (t : Text) : List Text :=
  (t.splitOnP fun c => !isIdent c).filter fun w => !w.isEmpty

@[simp] lemma identifiers_nil : identifiers [] = [] := by simp [identifiers]

/-- **A character that belongs to no identifier separates**: what stands before it and what stands
behind it have their identifiers by themselves. -/
lemma identifiers_append_cons (a : Text) {c : Char} (hc : isIdent c = false) (b : Text) :
    identifiers (a ++ c :: b) = identifiers a ++ identifiers b := by
  rw [identifiers, List.splitOnP_append_cons a b (by simp [hc]), List.filter_append, identifiers,
    identifiers]

lemma identifiers_of_isIdent {w : Text} (hne : w ≠ []) (hw : ∀ c ∈ w, isIdent c) :
    identifiers w = [w] := by
  rw [identifiers, List.splitOnP_eq_singleton fun c hc => by simp [hw c hc]]
  simp [hne]

lemma identifiers_intercalate {c : Char} (hc : isIdent c = false) (ls : List Text) :
    identifiers ([c].intercalate ls) = ls.flatMap identifiers := by
  induction ls with
  | nil => simp
  | cons l ls ih =>
      cases ls with
      | nil => simp
      | cons l' ls =>
          rw [List.intercalate_cons_cons, List.append_assoc, List.singleton_append,
            identifiers_append_cons _ hc, ih, List.flatMap_cons (x := l)]

lemma isIdent_of_isBlank {b : Char} (hb : isBlank b) : isIdent b = false := visible_isIdent b hb

/-- A text is a run of identifier characters, with nothing or a separator behind it. -/
lemma exists_run (t : Text) :
    ∃ u, (∀ c ∈ u, isIdent c) ∧ (t = u ∨ ∃ c b, isIdent c = false ∧ t = u ++ c :: b) := by
  have hsplit : t.takeWhile isIdent ++ t.dropWhile isIdent = t := List.takeWhile_append_dropWhile
  refine ⟨t.takeWhile isIdent, fun c hc => List.mem_takeWhile_imp hc, ?_⟩
  cases hrest : t.dropWhile isIdent with
  | nil =>
      rw [hrest, List.append_nil] at hsplit
      exact Or.inl hsplit.symm
  | cons c b =>
      have hc := List.head?_dropWhile_not isIdent t
      rw [hrest] at hsplit hc
      exact Or.inr ⟨c, b, hc, hsplit.symm⟩

/-- By induction on the length: the first run of a text is an identifier, and the others are those
of what stands behind the separator. -/
lemma standsAlone_of_mem_identifiers {w t : Text} (h : w ∈ identifiers t) :
    w ≠ [] ∧ (∀ c ∈ w, isIdent c) ∧ StandsAlone isIdent w t := by
  induction hn : t.length using Nat.strong_induction_on generalizing t with
  | _ n ih =>
      have hfirst {u : Text} (hu : ∀ c ∈ u, isIdent c) (hw : w ∈ identifiers u) :
          w ≠ [] ∧ w = u := by
        have hne : u ≠ [] := by
          rintro rfl
          simp at hw
        rw [identifiers_of_isIdent hne hu, List.mem_singleton] at hw
        exact ⟨hw ▸ hne, hw⟩
      obtain ⟨u, hu, rfl | ⟨c, b, hc, rfl⟩⟩ := exists_run t
      · obtain ⟨hne, rfl⟩ := hfirst hu h
        exact ⟨hne, hu, [], [], by simp, by simp, by simp⟩
      · rw [identifiers_append_cons _ hc, List.mem_append] at h
        rcases h with h | h
        · obtain ⟨hne, rfl⟩ := hfirst hu h
          exact ⟨hne, hu, [], c :: b, by simp, by simp, by simpa using hc⟩
        · have hshort : b.length < n := by
            rw [← hn, List.length_append, List.length_cons]
            omega
          obtain ⟨hne, hw, a, b, rfl, hbefore, hbehind⟩ := ih _ hshort h rfl
          refine ⟨hne, hw, u ++ c :: a, b, by simp, ?_, hbehind⟩
          -- the separator is the character before the identifier when nothing else is
          intro d hd
          rw [List.getLast?_append, List.getLast?_cons, Option.some_or, Option.mem_some_iff] at hd
          cases hlast : a.getLast? with
          | none => rwa [← hd, hlast]
          | some e =>
              rw [hlast, Option.getD_some] at hd
              exact hbefore d (hd ▸ hlast)

/-- **Identifiers are maximal runs.**  They are made of identifier characters, and next to where one
stands in the text there is no further such character. -/
lemma mem_identifiers {w t : Text} :
    w ∈ identifiers t ↔ w ≠ [] ∧ (∀ c ∈ w, isIdent c) ∧ StandsAlone isIdent w t := by
  refine ⟨standsAlone_of_mem_identifiers, ?_⟩
  rintro ⟨hne, hw, a, b, rfl, ha, hb⟩
  have hword : w ∈ identifiers (a ++ w) := by
    rcases List.eq_nil_or_concat a with rfl | ⟨a, c, rfl⟩
    · rw [List.nil_append, identifiers_of_isIdent hne hw]
      exact List.mem_singleton_self w
    · have hc : isIdent c = false := ha c (by simp)
      rw [List.concat_eq_append, List.append_assoc, List.singleton_append,
        identifiers_append_cons _ hc, identifiers_of_isIdent hne hw]
      simp
  cases b with
  | nil => rwa [List.append_nil]
  | cons c b =>
      rw [identifiers_append_cons _ (hb c (by simp))]
      exact List.mem_append_left _ hword

end ReactLint.Text
