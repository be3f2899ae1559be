import ReactLint.Number.Integer
import ReactLint.Proofs.Text.Trim

/-!
# Tokens of a written text

A text that is written out of words is read by recognising the words again.  A word has no blank at
either end, and so has what is put together from words, whatever stands between them
(`Solid.append`); trimming leaves it alone.  A run of a class of characters is read to its end when
what follows is not of the class (`run?_append`).
-/

namespace ReactLint.Text

/-! ## Putting words together -/

/-- A character of an identifier is none of the marks that stand around identifiers. -/
lemma ne_of_isIdent {c d : Char} (hc : isIdent c) (hd : isIdent d = false) : c ≠ d := by
  rintro rfl
  exact Bool.false_ne_true (hd.symm.trans hc)

/-- **Words with anything between them are a word again**, but for a newline. -/
lemma Solid.append {s m t : Text} (hs : Solid s) (hm : '\n' ∉ m) (ht : Solid t) :
    Solid (s ++ m ++ t) := by
  obtain ⟨⟨hnewline, -⟩, hhead⟩ := hs
  obtain ⟨⟨hnewline', hlast⟩, hhead'⟩ := ht
  have hs : s ≠ [] := by
    rintro rfl
    exact absurd hhead (by decide)
  have ht : t ≠ [] := by
    rintro rfl
    exact absurd hhead' (by decide)
  refine ⟨⟨?_, ?_⟩, ?_⟩
  · simp only [List.mem_append, not_or]
    exact ⟨⟨hnewline, hm⟩, hnewline'⟩
  · rwa [List.getLast?_append_of_ne_nil _ ht]
  · rwa [List.append_assoc, List.head?_append_of_ne_nil _ hs]

/-- Nothing is trimmed from a word. -/
lemma Solid.trim_eq {t : Text} (ht : Solid t) : trim t = t := by
  obtain ⟨⟨-, hlast⟩, hhead⟩ := ht
  have hstart : trimStart t = t := by
    cases t with
    | nil => rfl
    | cons c t => exact List.dropWhile_cons_of_neg (by simpa using hhead)
  rw [trim, hstart]
  rcases List.eq_nil_or_concat t with rfl | ⟨t, c, rfl⟩
  · rfl
  · rw [List.concat_eq_append] at hlast ⊢
    exact trimEnd_append_visible t (by simpa using hlast)

/-- What is neither in the separator nor in a part is not in the whole. -/
lemma notMem_intercalate {c : Char} {sep : Text} (hsep : c ∉ sep) {ls : List Text}
    (h : ∀ l ∈ ls, c ∉ l) : c ∉ sep.intercalate ls := by
  induction ls with
  | nil => simp
  | cons l ls ih =>
      obtain ⟨hl, hls⟩ := List.forall_mem_cons.mp h
      cases ls with
      | nil => simpa using hl
      | cons l' ls =>
          rw [List.intercalate_cons_cons, List.mem_append, List.mem_append, not_or, not_or]
          exact ⟨⟨hl, hsep⟩, ih hls⟩

lemma isDigit_of_mem_toString {c : Char} {n : Nat} (h : c ∈ (toString n).toList) :
    c.isDigit = true := by
  rw [Nat.toString_eq_ofList_toDigits, String.toList_ofList] at h
  exact Nat.isDigit_of_mem_toDigits (by decide) (by decide) h

/-- A number holds no marks. -/
lemma notMem_toString {c : Char} (hc : c.isDigit = false) (n : Nat) : c ∉ (toString n).toList := by
  intro hmem
  exact Bool.false_ne_true (hc.symm.trans (isDigit_of_mem_toString hmem))

lemma toString_ne_nil (n : Nat) : (toString n).toList ≠ [] := by
  rw [Nat.toString_eq_ofList_toDigits, String.toList_ofList]
  exact Nat.toDigits_ne_nil

/-- **A number is read back from its digits.** -/
lemma readAscii?_toString (n : Nat) : readAscii? (toString n).toList = some n := by
  have hdigits : (toString n).toList.all Char.isDigit = true :=
    List.all_eq_true.mpr fun c hc => isDigit_of_mem_toString hc
  rw [readAscii?, hdigits, List.isEmpty_eq_false_iff.mpr (toString_ne_nil n), ofDigits,
    List.foldl_map, Nat.toString_eq_ofList_toDigits, String.toList_ofList]
  exact congrArg some (Nat.ofDigitChars_toDigits (by decide) (by decide))

/-! ## Reading them -/

lemma skip?_self (w : String) (t : Text) : skip? w (w.toList ++ t) = some t :=
  after?_append w.toList t

/-- What is written element by element is read element by element. -/
lemma mapM_map_eq_some {α β : Type} {write : α → β} {read : β → Option α} {xs : List α}
    (h : ∀ a ∈ xs, read (write a) = some a) : (xs.map write).mapM read = some xs := by
  induction xs with
  | nil => rfl
  | cons a xs ih =>
      obtain ⟨ha, hxs⟩ := List.forall_mem_cons.mp h
      rw [List.map_cons, List.mapM_cons, ha, ih hxs]
      rfl

/-- A keyword is read with the blanks behind it, of which there is at least one. -/
lemma keyword?_eq_some_iff {w : String} {t r : Text} :
    keyword? w t = some r ↔ ∃ b u, t = w.toList ++ b :: u ∧ isBlank b ∧ r = trimStart u := by
  constructor
  · intro h
    obtain ⟨v, hv, hr⟩ := Option.bind_eq_some_iff.mp h
    cases v with
    | nil => simp [blanks?] at hr
    | cons b u =>
        rw [blanks?] at hr
        split_ifs at hr with hb
        exact ⟨b, u, after?_eq_some_iff.mp hv, hb, (Option.some.inj hr).symm⟩
  · rintro ⟨b, u, rfl, hb, rfl⟩
    simp [keyword?, skip?, blanks?, hb]

lemma keyword?_append (w : String) {c : Char} (hc : isBlank c = false) (t : Text) :
    keyword? w (w.toList ++ ' ' :: c :: t) = some (c :: t) := by
  refine keyword?_eq_some_iff.mpr ⟨' ', c :: t, rfl, by decide, ?_⟩
  rw [trimStart, List.dropWhile_cons_of_neg (by simp [hc])]

/-- What is not of the class behind a text adds nothing to its run. -/
lemma takeWhile_append_of_head? {p : Char → Bool} {r : Text} (hr : ∀ c ∈ r.head?, p c = false)
    (t : Text) : (t ++ r).takeWhile p = t.takeWhile p := by
  induction t with
  | nil =>
      cases r with
      | nil => rfl
      | cons c r => simp [hr c rfl]
  | cons c t ih => rw [List.cons_append, List.takeWhile_cons, List.takeWhile_cons, ih]

/-- **A run is read to its end**: there the text ends, or goes on with another character. -/
lemma run?_append {p : Char → Bool} {w r : Text} (hne : w ≠ []) (hw : ∀ c ∈ w, p c)
    (hr : ∀ c ∈ r.head?, p c = false) : run? p (w ++ r) = some (w, r) := by
  have hrest : r.takeWhile p = [] ∧ r.dropWhile p = r := by
    cases r with
    | nil => exact ⟨rfl, rfl⟩
    | cons c r => simp [hr c (by simp)]
  rw [run?, List.takeWhile_append_of_pos hw, List.dropWhile_append_of_pos hw, hrest.1, hrest.2,
    List.append_nil]
  simp [hne]

/-- What a run is: the longest part of the text in front that is of the class, and not empty. -/
lemma run?_eq_some_iff {p : Char → Bool} {t w r : Text} :
    run? p t = some (w, r) ↔
      t = w ++ r ∧ w ≠ [] ∧ (∀ c ∈ w, p c) ∧ ∀ c ∈ r.head?, p c = false := by
  constructor
  · intro h
    rw [run?] at h
    split_ifs at h with hempty
    obtain ⟨rfl, rfl⟩ := Prod.mk.inj (Option.some.inj h)
    refine ⟨List.takeWhile_append_dropWhile.symm, by simpa using hempty,
      fun c => List.mem_takeWhile_imp, fun c hc => ?_⟩
    have hfirst := List.head?_dropWhile_not p t
    rwa [hc] at hfirst
  · rintro ⟨rfl, hne, hw, hr⟩
    exact run?_append hne hw hr

end ReactLint.Text
