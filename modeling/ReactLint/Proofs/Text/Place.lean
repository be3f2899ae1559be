import Mathlib.Data.List.Basic
import Mathlib.Tactic.Common
import ReactLint.Text.Scan

/-!
# Places and whole words

A place is a split of the text: what stands before it and the text from there on (`mem_places`).
What is searched together with its neighbours stands alone in the text: no character of the class is
on either side of it (`anywhere_standsAlone`).  For word characters, what `Place.isWhole` finds is a
word of the text in the usual sense (`anywhere_isWhole`).
-/

namespace ReactLint.Text

lemma occurs_iff {w t : Text} : occurs w t = true ↔ w <:+: t := by
  induction t with
  | nil => rw [occurs, List.isEmpty_iff, List.infix_nil]
  | cons c t ih =>
      rw [occurs, Bool.or_eq_true, List.isPrefixOf_iff_prefix, ih, List.infix_cons_iff]

/-- What starts with the character `c` is not found before the first one. -/
lemma occurs_append_of_notMem {c : Char} {a : Text} (ha : c ∉ a) (w t : Text) :
    occurs (c :: w) (a ++ t) = occurs (c :: w) t := by
  induction a with
  | nil => rfl
  | cons d a ih =>
      rw [List.mem_cons, not_or] at ha
      simp [occurs, List.isPrefixOf, ha.1, ih ha.2]

/-- The places of a text that follows `before` are its splits; the character before a place is the
last of the first part, or `before` when that part is empty. -/
lemma mem_placesAfter {before : Option Char} {t : Text} {p : Place} :
    p ∈ placesAfter before t ↔ ∃ a, t = a ++ p.rest ∧ p.before = a.getLast?.or before := by
  obtain ⟨x, rest⟩ := p
  induction t generalizing before with
  | nil =>
      rw [placesAfter, List.mem_singleton, Place.mk.injEq]
      constructor
      · rintro ⟨rfl, rfl⟩
        exact ⟨[], rfl, rfl⟩
      · rintro ⟨a, hsplit, hx⟩
        obtain ⟨rfl, hrest⟩ := List.append_eq_nil_iff.mp hsplit.symm
        exact ⟨hx, hrest⟩
  | cons c cs ih =>
      rw [placesAfter, List.mem_cons, Place.mk.injEq, ih]
      have hlast (a : Text) : (c :: a).getLast?.or before = a.getLast?.or (some c) := by
        rw [List.getLast?_cons]
        cases a.getLast? <;> rfl
      constructor
      · rintro (⟨rfl, rfl⟩ | ⟨a, rfl, hx⟩)
        · exact ⟨[], rfl, rfl⟩
        · exact ⟨c :: a, rfl, hx.trans (hlast a).symm⟩
      · rintro ⟨a, hsplit, hx⟩
        cases a with
        | nil => exact Or.inl ⟨hx, hsplit.symm⟩
        | cons e a =>
            obtain ⟨rfl, hcs⟩ := List.cons.inj hsplit
            exact Or.inr ⟨a, hcs, hx.trans (hlast a)⟩

lemma mem_places {t : Text} {p : Place} :
    p ∈ places t ↔ ∃ a, t = a ++ p.rest ∧ p.before = a.getLast? := by
  rw [places, mem_placesAfter]
  simp only [Option.or_none]

lemma length_placesAfter (before : Option Char) (t : Text) :
    (placesAfter before t).length = t.length + 1 := by
  induction t generalizing before with
  | nil => rfl
  | cons c t ih => rw [placesAfter, List.length_cons, ih, List.length_cons]

/-- The place at index `k` cuts the text behind its first `k` characters. -/
lemma getElem?_placesAfter (before : Option Char) (t : Text) (k : Nat) :
    (placesAfter before t)[k]?
      = if k ≤ t.length then some ⟨(t.take k).getLast?.or before, t.drop k⟩ else none := by
  induction t generalizing before k with
  | nil => cases k <;> simp [placesAfter]
  | cons c t ih =>
      cases k with
      | zero => simp [placesAfter]
      | succ k =>
          rw [placesAfter, List.getElem?_cons_succ, ih, List.take_succ_cons, List.drop_succ_cons,
            List.getLast?_cons, List.length_cons]
          cases (t.take k).getLast? <;> simp

lemma getElem?_places (t : Text) (k : Nat) :
    (places t)[k]? = if k ≤ t.length then some ⟨(t.take k).getLast?, t.drop k⟩ else none := by
  rw [places, getElem?_placesAfter, Option.or_none]

section Search

variable {α : Type} {f : Place → Option α} {c : Char}

/-- What can only be found where the character `c` stands is not found in front of the first. -/
lemma findSome?_placesAfter_append (hf : ∀ x d t, d ≠ c → f ⟨x, d :: t⟩ = none) {a : Text}
    (ha : c ∉ a) (before : Option Char) (t : Text) :
    (placesAfter before (a ++ t)).findSome? f
      = (placesAfter (a.getLast?.or before) t).findSome? f := by
  induction a generalizing before with
  | nil => rfl
  | cons d a ih =>
      rw [List.mem_cons, not_or] at ha
      rw [List.cons_append, placesAfter, List.findSome?_cons, hf _ _ _ (Ne.symm ha.1), ih ha.2,
        List.getLast?_cons]
      cases a.getLast? <;> rfl

lemma search?_eq_none (hf : ∀ x d t, d ≠ c → f ⟨x, d :: t⟩ = none) (hend : ∀ x, f ⟨x, []⟩ = none)
    {t : Text} (ht : c ∉ t) : search? f t = none := by
  have h := findSome?_placesAfter_append hf ht none []
  rw [List.append_nil] at h
  rw [search?, places, h, placesAfter, List.findSome?_cons, hend, List.findSome?_nil]

lemma search?_append (hf : ∀ x d t, d ≠ c → f ⟨x, d :: t⟩ = none) {a t : Text} (ha : c ∉ a) {r : α}
    (ht : ∀ x, f ⟨x, t⟩ = some r) : search? f (a ++ t) = some r := by
  rw [search?, places, findSome?_placesAfter_append hf ha]
  cases t with
  | nil => rw [placesAfter, List.findSome?_cons, ht]
  | cons d t => rw [placesAfter, List.findSome?_cons, ht]

end Search

/-- Whether `w` stands somewhere in the text with no character of the class on either side. -/
def StandsAlone (p : Char → Bool) (w t : Text) : Prop :=
  ∃ a b, t = a ++ w ++ b ∧ (∀ c ∈ a.getLast?, p c = false) ∧ ∀ c ∈ b.head?, p c = false

lemma any_eq_false_iff {p : Char → Bool} {o : Option Char} :
    o.any p = false ↔ ∀ c ∈ o, p c = false := by
  cases o <;> simp

/-- A word is searched together with the characters on either side of it. -/
lemma anywhere_standsAlone {p : Char → Bool} {w t : Text} :
    anywhere (fun q => !q.before.any p && (after? w q.rest).any fun r => !r.head?.any p) t = true
      ↔ StandsAlone p w t := by
  simp only [anywhere, List.any_eq_true, mem_places, Bool.and_eq_true, Bool.not_eq_true']
  constructor
  · rintro ⟨⟨x, rest⟩, ⟨a, rfl, rfl⟩, hbefore, hrest⟩
    obtain ⟨b, hafter, hbehind⟩ := (Option.any_eq_true _ _).mp hrest
    obtain rfl : rest = w ++ b := after?_eq_some_iff.mp hafter
    rw [Bool.not_eq_true', any_eq_false_iff] at hbehind
    exact ⟨a, b, (List.append_assoc ..).symm, any_eq_false_iff.mp hbefore, hbehind⟩
  · rintro ⟨a, b, rfl, ha, hb⟩
    refine ⟨⟨a.getLast?, w ++ b⟩, ⟨a, List.append_assoc .., rfl⟩, any_eq_false_iff.mpr ha, ?_⟩
    rw [after?_append, Option.any_some, any_eq_false_iff.mpr hb, Bool.not_false]

/-- Whether `w` is a word of the text: it stands there with no word character on either side. -/
def HasWord (w : String) (t : Text) : Prop :=
  ∃ a b, t = a ++ w.toList ++ b ∧ (∀ c ∈ a.getLast?, isWord c = false) ∧
    ∀ c ∈ b.head?, isWord c = false

lemma any_isWord_eq_false {o : Option Char} :
    o.any isWord = false ↔ ∀ c ∈ o, isWord c = false :=
  any_eq_false_iff

/-- `Place.isWhole` finds the words of the text. -/
lemma anywhere_isWhole {w : String} {t : Text} :
    anywhere (·.isWhole w) t = true ↔ HasWord w t := by
  have hwhole : (Place.isWhole w) = fun q =>
      !q.before.any isWord && (after? w.toList q.rest).any fun r => !r.head?.any isWord := by
    funext q
    rw [Place.isWhole, Place.word?]
    cases q.before.any isWord <;> rfl
  rw [hwhole]
  exact anywhere_standsAlone

end ReactLint.Text
