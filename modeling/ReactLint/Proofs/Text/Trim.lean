import Mathlib.Data.List.DropRight
import Mathlib.Data.List.Induction
import Mathlib.Data.List.TakeWhile
import ReactLint.Proofs.Text.Padding

/-!
# Trimming lines

What a single blank at the start or the end of a line does not change, trimming does not change: of
one line (`apply_trim`) or of every line of a text (`apply_unlines`).
-/

namespace ReactLint.Text

/-! ## From one blank to all of them -/

/-- Trimming at the end is dropping from the right. -/
lemma trimEnd_eq (t : Text) : trimEnd t = t.rdropWhile isBlank := rfl

lemma trimEnd_append_blank (a : Text) {b : Char} (hb : isBlank b) :
    trimEnd (a ++ [b]) = trimEnd a := by
  rw [trimEnd_eq, trimEnd_eq, List.rdropWhile_concat_pos _ _ _ hb]

/-- The first character from the right that is no blank ends the trimming. -/
lemma trimEnd_append_visible (a : Text) {b : Char} (hb : ¬ isBlank b) :
    trimEnd (a ++ [b]) = a ++ [b] := by
  rw [trimEnd_eq, List.rdropWhile_concat_neg _ _ _ hb]

lemma isPrefix_trimEnd (l : Text) : trimEnd l <+: l := List.rdropWhile_prefix _ _

/-- What one blank at the end of a line does not change, all of them do not change. -/
lemma apply_trimEnd {β : Type} {g : Text → β} {l : Text}
    (hg : ∀ a b, a ++ [b] <+: l → isBlank b → g (a ++ [b]) = g a) : g (trimEnd l) = g l := by
  induction l using List.reverseRecOn with
  | nil => rfl
  | append_singleton a b ih =>
      by_cases hb : isBlank b
      · rw [trimEnd_append_blank a hb, hg a b List.prefix_rfl hb]
        exact ih fun a' b' hle => hg a' b' (hle.trans (List.prefix_append a [b]))
      · rw [trimEnd_append_visible a hb]

/-- What one blank at the start of a line does not change, all of them do not change. -/
lemma apply_trimStart {β : Type} {g : Text → β} (hg : ∀ b a, isBlank b → g (b :: a) = g a)
    (l : Text) : g (trimStart l) = g l := by
  induction l with
  | nil => rfl
  | cons c l ih =>
      by_cases hc : isBlank c
      · rw [trimStart_cons_blank hc, ih, hg c l hc]
      · rw [trimStart, List.dropWhile_cons_of_neg hc]

/-- **What one blank does not change, trimming does not change.** -/
lemma apply_trim {β : Type} {g : Text → β} (hstart : ∀ b a, isBlank b → g (b :: a) = g a)
    (hend : ∀ a b, isBlank b → g (a ++ [b]) = g a) (l : Text) : g (trim l) = g l :=
  (apply_trimEnd fun a b _ hb => hend a b hb).trans (apply_trimStart hstart l)

/-- In particular this is so of what does not see blanks around the lines of a text. -/
lemma apply_trim_of_padded {β : Type} {g : Text → β} (hg : ∀ s t, PaddedLines s t → g s = g t)
    (l : Text) : g (trim l) = g l :=
  apply_trim (fun _ a hb => hg _ _ (paddedLines_cons_blank hb a))
    (fun a _ hb => hg _ _ (Padded.append_blank a hb).lines) l

section Steady

variable {f : Place → Bool} (hf : Steady f false) (l : Text)
include hf

/-- A construct that is steady is found on a line just when it is found on the trimmed line. -/
lemma anywhere_trim : anywhere f (trim l) = anywhere f l :=
  apply_trim_of_padded (fun _ _ h => anywhere_eq hf h) l

/-- A steady construct is found as often on the trimmed line. -/
lemma countPlaces_trim : countPlaces f (trim l) = countPlaces f l :=
  apply_trim_of_padded (fun _ _ h => countPlaces_eq hf h) l

end Steady

lemma unlines_cons (l l' : Text) (ls : List Text) :
    unlines (l :: l' :: ls) = l ++ '\n' :: unlines (l' :: ls) := by
  rw [unlines, unlines, List.intercalate_cons_cons, List.append_assoc, List.singleton_append]

/-- What one blank at the start or the end of some line of a text does not change, trimming all of
its lines does not change. -/
lemma apply_unlines {β : Type} {g : Text → β} (hg : ∀ s t, PaddedLines s t → g s = g t)
    (ls : List Text) : g (unlines (ls.map trim)) = g (unlines ls) := by
  induction ls generalizing g with
  | nil => rfl
  | cons l ls ih =>
      cases ls with
      | nil =>
          rw [List.map_singleton, unlines, unlines, List.intercalate_singleton,
            List.intercalate_singleton]
          exact apply_trim_of_padded hg l
      | cons l' ls =>
          have hfirst : g (trim l ++ '\n' :: unlines (l' :: ls))
              = g (l ++ '\n' :: unlines (l' :: ls)) := by
            refine apply_trim (g := fun u => g (u ++ '\n' :: unlines (l' :: ls)))
              (fun b a hb => hg _ _ (paddedLines_cons_blank hb _)) (fun a b hb => ?_) l
            rw [List.append_assoc]
            exact hg _ _ (Padded.append_blank_newline a hb _).lines
          -- the line that is trimmed already goes in front of what the induction is about
          have hrest := ih (g := fun u => g (trim l ++ '\n' :: u))
            fun s t h => hg _ _ (h.below (trim l))
          rw [unlines_cons, ← hfirst, List.map_cons, List.map_cons, unlines_cons]
          exact hrest

lemma trim_cons_blank {b : Char} (hb : isBlank b) (a : Text) : trim (b :: a) = trim a := by
  rw [trim, trim, trimStart_cons_blank hb]

lemma trim_blank_append {w : Text} (hw : isBlankText w) (a : Text) : trim (w ++ a) = trim a := by
  induction w with
  | nil => rfl
  | cons b w ih =>
      rw [isBlankText, List.all_cons, Bool.and_eq_true] at hw
      rw [List.cons_append, trim_cons_blank hw.1, ih hw.2]

/-- Behind a text of blanks only, trimming at the start takes the blank as well. -/
lemma trim_append_blank (a : Text) {b : Char} (hb : isBlank b) : trim (a ++ [b]) = trim a := by
  rw [trim, trim, trimStart, trimStart, List.dropWhile_append]
  split_ifs with h
  · rw [List.isEmpty_iff.mp h, List.dropWhile_cons_of_pos hb, List.dropWhile_nil]
  · exact trimEnd_append_blank _ hb

/-- **Trimming twice is trimming once**: no blank is left for the second time. -/
@[simp] lemma trim_trim (l : Text) : trim (trim l) = trim l :=
  apply_trim (fun _ a hb => trim_cons_blank hb a) (fun a _ hb => trim_append_blank a hb) l

/-- Trimming only takes away. -/
lemma trim_subset (t : Text) : trim t ⊆ t :=
  List.Subset.trans (isPrefix_trimEnd _).subset (List.dropWhile_suffix _).subset

/-! ## Lines -/

/-- A newline in front of a text begins another line; any other character goes to the first line. -/
lemma lines_cons (c : Char) (t : Text) :
    lines (c :: t) = if c = '\n' then [] :: lines t else (lines t).modifyHead (c :: ·) := by
  rw [lines, List.splitOn_cons_eq_if_modifyHead]
  simp only [beq_iff_eq]
  rfl

/-- **Dividing a text at a character** leaves the character in no part. -/
lemma separator_notMem_of_mem_splitOn {c : Char} {l t : Text} (h : l ∈ t.splitOn c) : c ∉ l := by
  induction t generalizing l with
  | nil => simp_all
  | cons d t ih =>
      rw [List.splitOn_cons_eq_if_modifyHead] at h
      split_ifs at h with hd
      · rcases List.mem_cons.mp h with rfl | h
        · exact List.not_mem_nil
        · exact ih h
      · cases hsplit : t.splitOn c with
        | nil => exact absurd hsplit (List.splitOn_ne_nil _ _)
        | cons first rest =>
            rw [hsplit, List.modifyHead_cons] at h
            rw [hsplit] at ih
            rcases List.mem_cons.mp h with rfl | h
            · rw [List.mem_cons, not_or]
              exact ⟨fun heq => hd (by simp [heq]), ih List.mem_cons_self⟩
            · exact ih (List.mem_cons_of_mem _ h)

lemma newline_notMem_of_mem_lines {l t : Text} (h : l ∈ lines t) : '\n' ∉ l :=
  separator_notMem_of_mem_splitOn h

/-- **Lines can be put together and divided again**, if none holds a newline.  There has to be one
at least, since the empty text has one line. -/
lemma lines_unlines {ls : List Text} (hne : ls ≠ []) (h : ∀ l ∈ ls, '\n' ∉ l) :
    lines (unlines ls) = ls :=
  List.splitOn_intercalate '\n' h hne

lemma unlines_lines (t : Text) : unlines (lines t) = t := List.intercalate_splitOn '\n'

end ReactLint.Text
