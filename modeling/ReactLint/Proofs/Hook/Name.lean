import Mathlib.Tactic.Common
import ReactLint.Hook

/-!
# What a hook name is made of

A hook name to take is `use` and a name with its first letter raised.  A letter is raised to itself,
to a capital, or to characters beyond ASCII (`mem_upperChar`): each of the two tables is checked
once, the runs by their ends.  So the name to take has no punctuation that the name has not
(`mem_nameFor`, `Raised.notMem`).
-/

namespace ReactLint

open Text

namespace Text

/-- Whether the code points from `first` to `last` are characters, and capitals or beyond ASCII. -/
def isRaised (first last : Int) : Bool :=
  (65 ≤ first && last ≤ 90) || (128 ≤ first && last < 0xD800) ||
    (0xE000 ≤ first && last < 0x110000)

lemma isRaised_upperExpansions :
    (upperExpansions.all fun e => !e.2.isEmpty && e.2.all fun n => isRaised n n) = true := by
  decide +kernel

lemma isRaised_upperRuns :
    (upperRuns.all fun r => isRaised (r.first + r.offset) (r.last + r.offset)) = true := by
  decide +kernel

/-- A capital, or a character beyond ASCII. -/
def Raised (c : Char) : Prop := 65 ≤ c.toNat ∧ c.toNat ≤ 90 ∨ 128 ≤ c.toNat

instance (c : Char) : Decidable (Raised c) := inferInstanceAs (Decidable (_ ∨ _))

lemma Raised.notMem {c : Char} (h : Raised c) {cs : List Char}
    (hcs : cs.all fun d => !decide (Raised d)) : c ∉ cs := by
  intro hc
  simpa [h] using List.all_eq_true.mp hcs c hc

lemma raised_ofNat {n : Nat} {first last : Int} (h : isRaised first last) (hfirst : first ≤ n)
    (hlast : n ≤ last) : Raised (Char.ofNat n) := by
  simp only [isRaised, Bool.or_eq_true, Bool.and_eq_true, decide_eq_true_eq] at h
  have hvalid : n.isValidChar := by
    simp only [Nat.isValidChar]
    omega
  have htoNat : (Char.ofNat n).toNat = n := by
    rw [Char.ofNat, dif_pos hvalid]
    rfl
  rw [Raised, htoNat]
  omega

/-- The images that the tables list. -/
lemma raised_of_caseImage? {n : Nat} {image : List Nat}
    (h : caseImage? upperExpansions upperRuns n = some image) :
    image ≠ [] ∧ ∀ m ∈ image, Raised (Char.ofNat m) := by
  rw [caseImage?] at h
  cases hlookup : upperExpansions.lookup n with
  | some listed =>
      rw [hlookup] at h
      obtain rfl := Option.some.inj h
      have hmem : (n, listed) ∈ upperExpansions := by
        obtain ⟨before, after, hsplit, -⟩ := List.lookup_eq_some_iff.mp hlookup
        exact hsplit ▸ List.mem_append_right before List.mem_cons_self
      have hraised := List.all_eq_true.mp isRaised_upperExpansions _ hmem
      rw [Bool.and_eq_true, List.all_eq_true] at hraised
      refine ⟨by simpa using hraised.1, fun m hm => ?_⟩
      exact raised_ofNat (hraised.2 m hm) (Int.le_refl _) (Int.le_refl _)
  | none =>
      rw [hlookup] at h
      obtain ⟨m, hm, rfl⟩ := Option.map_eq_some_iff.mp h
      obtain ⟨r, hr, rfl⟩ := Option.map_eq_some_iff.mp hm
      refine ⟨List.cons_ne_nil _ _, List.forall_mem_singleton.mpr ?_⟩
      have hcovers := List.find?_some hr
      have hraised := List.all_eq_true.mp isRaised_upperRuns r (List.mem_of_find?_eq_some hr)
      simp only [CaseRun.covers, Bool.and_eq_true, decide_eq_true_eq] at hcovers
      have hpos : 0 ≤ (r.first : Int) + r.offset := by
        simp only [isRaised, Bool.or_eq_true, Bool.and_eq_true, decide_eq_true_eq] at hraised
        omega
      exact raised_ofNat hraised (by omega) (by omega)

lemma toUpper_ascii : ∀ n < 128, (Char.ofNat n).toUpper = Char.ofNat n ∨
    65 ≤ (Char.ofNat n).toUpper.toNat ∧ (Char.ofNat n).toUpper.toNat ≤ 90 := by
  decide +kernel

/-- **What a letter is raised to**: the letter itself, a capital, or characters beyond ASCII. -/
lemma mem_upperChar (c : Char) : upperChar c ≠ [] ∧ ∀ d ∈ upperChar c, d = c ∨ Raised d := by
  rw [upperChar]
  split_ifs with hascii
  · refine ⟨List.cons_ne_nil _ _, List.forall_mem_singleton.mpr ?_⟩
    have h := toUpper_ascii c.toNat hascii
    rw [Char.ofNat_toNat] at h
    exact h.imp_right Or.inl
  · cases himage : caseImage? upperExpansions upperRuns c.toNat with
    | none => simp
    | some image =>
        obtain ⟨hne, hraised⟩ := raised_of_caseImage? himage
        refine ⟨by simpa using hne, fun d hd => ?_⟩
        obtain ⟨m, hm, rfl⟩ := List.mem_map.mp hd
        exact Or.inr (hraised m hm)

end Text

namespace Hook

lemma nameFor_cons (c : Char) (cs : Text) :
    nameFor (c :: cs) = "use".toList ++ (upperChar c ++ cs) := by
  simp [nameFor, upper]

/-- **The characters of a name to take** are those of `use`, those of the name, and raised ones. -/
lemma mem_nameFor {name : Text} {d : Char} (h : d ∈ nameFor name) :
    d ∈ "use".toList ∨ d ∈ name ∨ Raised d := by
  cases name with
  | nil => exact Or.inl h
  | cons c cs =>
      rw [nameFor_cons, List.mem_append, List.mem_append] at h
      refine h.imp_right fun h => ?_
      rcases h with h | h
      · rcases (mem_upperChar c).2 d h with rfl | hraised
        · exact Or.inl List.mem_cons_self
        · exact Or.inr hraised
      · exact Or.inl (List.mem_cons_of_mem c h)

end Hook

end ReactLint
