import Mathlib.Data.List.Basic
import Mathlib.Tactic.Common
import ReactLint.Text.Fold

/-!
# Blanks around a line

Every recogniser reads on from the start of its text, so a blank that is added to the start or the
end of some line reaches it in one of three ways: before its construct is decided, behind it, or not
at all.

**One blank.**  `Padded s t` says that `s` is `t` with at most one blank more beside a newline or at
the end.  Lines that differ by several blanks are reached one blank at a time, so every recogniser
is looked at for a single one.  `PaddedLines s t` says the same of texts that start a line.

**Recognisers.**  Two recognisers that take padded texts to padded rests compose: `Option.Rel
Padded` relates what they return.  A word is found on both sides because it holds no newline and
does not end in a blank (`Tight`); a class of characters is read on both sides because it holds no
blank (`Visible`).  The one recogniser that sees the difference is `keyword?`, which wants a blank
behind its word.

**Places.**  A construct that is tried at every place shows the same in `s` as in `t`: the place in
front of the added blank shows nothing, and the place behind it is as good as the start of the text
(`Steady`).
-/

namespace ReactLint.Text

/-! ## Blanks and the classes without them -/

/-- The code points of the blanks. -/
def blankCodes : List Nat :=
  [9, 10, 11, 12, 13, 28, 29, 30, 31, 32, 0x85, 0xA0, 0x1680, 0x2000, 0x2001, 0x2002, 0x2003,
    0x2004, 0x2005, 0x2006, 0x2007, 0x2008, 0x2009, 0x200A, 0x2028, 0x2029, 0x202F, 0x205F, 0x3000]

lemma toNat_mem_blankCodes {b : Char} (h : isBlank b) : b.toNat ∈ blankCodes := by
  simp only [isBlank, Bool.or_eq_true, Bool.and_eq_true, decide_eq_true_eq, beq_iff_eq] at h
  simp only [blankCodes, List.mem_cons, List.not_mem_nil, or_false]
  omega

/-- What holds of all blanks is checked on their code points. -/
lemma forall_isBlank {P : Char → Prop} (h : ∀ n ∈ blankCodes, P (Char.ofNat n)) (b : Char)
    (hb : isBlank b) : P b := by
  rw [← Char.ofNat_toNat b]
  exact h _ (toNat_mem_blankCodes hb)

/-- A class of characters without blanks. -/
def Visible (p : Char → Bool) : Prop := ∀ b, isBlank b → p b = false

/-- A word is written without blanks. -/
lemma visible_isWord : Visible isWord := forall_isBlank (by decide +kernel)

lemma visible_isCapital : Visible isCapital := forall_isBlank (by decide)

lemma visible_isQuote : Visible isQuote := forall_isBlank (by decide)

lemma visible_beq {c : Char} (h : isBlank c = false) : Visible (· == c) := by
  intro b hb
  rw [beq_eq_false_iff_ne]
  rintro rfl
  rw [hb] at h
  exact Bool.noConfusion h

lemma visible_isIdent : Visible isIdent := by
  intro b hb
  have hdollar : (b == '$') = false := visible_beq (by decide) b hb
  rw [isIdent, visible_isWord b hb, hdollar, Bool.or_false]

/-- A blank stays one when letters are folded. -/
lemma isBlank_foldLetter : ∀ b, isBlank b → isBlank (foldLetter b) := forall_isBlank (by decide)

lemma isBlank_newline : isBlank '\n' := rfl

/-! ## One blank more around a line -/

/-- `Padded s t`: `s` is `t`, or `t` with one more blank at the end of the text or beside a
newline. -/
inductive Padded : Text → Text → Prop
  | same (t : Text) : Padded t t
  | last {b : Char} (hb : isBlank b) : Padded [b] []
  | before {b : Char} (hb : isBlank b) (r : Text) : Padded (b :: '\n' :: r) ('\n' :: r)
  | behind {b : Char} (hb : isBlank b) (r : Text) : Padded ('\n' :: b :: r) ('\n' :: r)
  | cons (c : Char) {s t : Text} (h : Padded s t) : Padded (c :: s) (c :: t)

namespace Padded

variable {s t : Text}

/-- What stands in front of the added blank, or of the lines around it, is free. -/
lemma append_left (a : Text) (h : Padded s t) : Padded (a ++ s) (a ++ t) := by
  induction a with
  | nil => exact h
  | cons c a ih => exact ih.cons c

lemma append_blank (a : Text) {b : Char} (hb : isBlank b) : Padded (a ++ [b]) a := by
  simpa only [List.append_nil] using (Padded.last hb).append_left a

/-- The end of a line in the middle of a text. -/
lemma append_blank_newline (a : Text) {b : Char} (hb : isBlank b) (r : Text) :
    Padded (a ++ b :: '\n' :: r) (a ++ '\n' :: r) :=
  (Padded.before hb r).append_left a

/-- On a single line the added blank is the last character. -/
lemma eq_or_append (h : Padded s t) (hs : '\n' ∉ s) :
    s = t ∨ ∃ b, isBlank b ∧ s = t ++ [b] := by
  induction h with
  | same t => exact Or.inl rfl
  | last hb => exact Or.inr ⟨_, hb, rfl⟩
  | before hb r => exact absurd (List.mem_cons_of_mem _ List.mem_cons_self) hs
  | behind hb r => exact absurd List.mem_cons_self hs
  | cons c h ih =>
      rcases ih (fun hmem => hs (List.mem_cons_of_mem _ hmem)) with rfl | ⟨b, hb, rfl⟩
      · exact Or.inl rfl
      · exact Or.inr ⟨b, hb, rfl⟩

end Padded

/-- `Padded` for texts that start a line: `s` is `t`, or `t` with one more blank at the start or the
end of a line. -/
def PaddedLines (s t : Text) : Prop := Padded ('\n' :: s) ('\n' :: t)

lemma Padded.lines {s t : Text} (h : Padded s t) : PaddedLines s t := h.cons '\n'

/-- A blank at the start of a text is one at the start of a line. -/
lemma paddedLines_cons_blank {b : Char} (hb : isBlank b) (t : Text) : PaddedLines (b :: t) t :=
  .behind hb t

/-- A line may be put above, since texts that start a line are what is related. -/
lemma PaddedLines.below {s t : Text} (h : PaddedLines s t) (l : Text) :
    PaddedLines (l ++ '\n' :: s) (l ++ '\n' :: t) :=
  h.append_left ('\n' :: l)

/-! ## What related recognisers return -/

section Rel

variable {α β γ δ : Type} {R : α → β → Prop} {S : γ → δ → Prop} {o : Option α} {o' : Option β}

/-- **Recognisers compose**: two steps in a row keep what each of them keeps. -/
lemma rel_bind {f : α → Option γ} {g : β → Option δ} (h : Option.Rel R o o')
    (hfg : ∀ x y, R x y → Option.Rel S (f x) (g y)) : Option.Rel S (o.bind f) (o'.bind g) := by
  cases h with
  | some hxy => exact hfg _ _ hxy
  | none => exact .none

lemma bind_eq_of_rel {f : α → Option γ} {g : β → Option γ} (h : Option.Rel R o o')
    (hfg : ∀ x y, R x y → f x = g y) : o.bind f = o'.bind g := by
  cases h with
  | some hxy => exact hfg _ _ hxy
  | none => rfl

lemma map_eq_of_rel {f : α → γ} {g : β → γ} (h : Option.Rel R o o')
    (hfg : ∀ x y, R x y → f x = g y) : o.map f = o'.map g := by
  cases h with
  | some hxy => exact congrArg some (hfg _ _ hxy)
  | none => rfl

/-- A question about the rest is answered alike when it does not see the difference. -/
lemma any_eq_of_rel {f : α → Bool} {g : β → Bool} (h : Option.Rel R o o')
    (hfg : ∀ x y, R x y → f x = g y) : o.any f = o'.any g := by
  cases h with
  | some hxy => exact hfg _ _ hxy
  | none => rfl

lemma isSome_eq_of_rel (h : Option.Rel R o o') : o.isSome = o'.isSome := by
  cases h <;> rfl

lemma any_congr_of_mem {ι : Type} {f g : ι → Bool} {ws : List ι} (h : ∀ w ∈ ws, f w = g w) :
    ws.any f = ws.any g := by
  rw [Bool.eq_iff_iff, List.any_eq_true, List.any_eq_true]
  exact exists_congr fun w => and_congr_right fun hw => by rw [h w hw]

/-- The first of several recognisers to find anything is the same on both sides. -/
lemma rel_findSome? {ι : Type} {f : ι → Option α} {g : ι → Option β} {ws : List ι}
    (h : ∀ w ∈ ws, Option.Rel R (f w) (g w)) :
    Option.Rel R (ws.findSome? f) (ws.findSome? g) := by
  induction ws with
  | nil => exact .none
  | cons w ws ih =>
      have hhead := h w List.mem_cons_self
      rw [List.findSome?_cons, List.findSome?_cons]
      generalize f w = x, g w = y at hhead
      cases hhead with
      | some hxy => exact .some hxy
      | none => exact ih fun v hv => h v (List.mem_cons_of_mem _ hv)

end Rel

lemma rel_same (o : Option Text) : Option.Rel Padded o o := by
  cases o with
  | none => exact .none
  | some t => exact .some (.same t)

/-! ## Recognisers of words -/

/-- A word that holds no newline and does not end in a blank. -/
def Tight (w : Text) : Prop := '\n' ∉ w ∧ w.getLast?.all (fun c => !isBlank c)

instance (w : Text) : Decidable (Tight w) := inferInstanceAs (Decidable (_ ∧ _))

lemma Tight.tail {c : Char} {w : Text} (h : Tight (c :: w)) : Tight w := by
  refine ⟨fun hmem => h.1 (List.mem_cons_of_mem _ hmem), ?_⟩
  cases w with
  | nil => rfl
  | cons d w => exact h.2

/-- Behind a blank a tight word goes on, and not with a newline. -/
lemma Tight.after_blank {c : Char} {w : Text} (h : Tight (c :: w)) (hc : isBlank c) :
    ∃ d w', w = d :: w' ∧ d ≠ '\n' := by
  cases w with
  | nil =>
      have hvisible : (!isBlank c) = true := h.2
      rw [hc] at hvisible
      exact Bool.noConfusion hvisible
  | cons d w =>
      refine ⟨d, w, rfl, ?_⟩
      rintro rfl
      exact h.tail.1 List.mem_cons_self

/-- A text without blanks. -/
def Bare (t : Text) : Prop := ∀ c ∈ t, isBlank c = false

instance (t : Text) : Decidable (Bare t) := List.decidableBAll _ t

/-- A word without blanks is tight. -/
lemma Bare.tight {w : Text} (hw : Bare w) : Tight w := by
  refine ⟨fun hmem => Bool.noConfusion (hw '\n' hmem), ?_⟩
  rw [Option.all_eq_true]
  intro c hc
  rw [hw c (List.mem_of_getLast? hc), Bool.not_false]

variable {s t : Text}

/-- **A tight word is found on both sides**, with padded rests.  The added blank is not inside the
word: behind it a newline would have to follow, or nothing. -/
lemma rel_after? {w : Text} (hw : Tight w) (h : Padded s t) :
    Option.Rel Padded (after? w s) (after? w t) := by
  induction w generalizing s t with
  | nil => exact .some h
  | cons c w ih =>
      have hnewline (r : Text) : after? (c :: w) ('\n' :: r) = none := by
        rw [after?, if_neg]
        rintro rfl
        exact hw.1 List.mem_cons_self
      cases h with
      | same => exact rel_same _
      | @last b hb =>
          -- the word would have to end in the blank
          have hnone : after? (c :: w) [b] = none := by
            rw [after?]
            split_ifs with hcb
            · obtain ⟨d, w', rfl, -⟩ := hw.after_blank (hcb ▸ hb)
              rfl
            · rfl
          rw [hnone]
          exact .none
      | @before b hb r =>
          have hblank : after? (c :: w) (b :: '\n' :: r) = none := by
            rw [after?]
            split_ifs with hcb
            · obtain ⟨d, w', rfl, hd⟩ := hw.after_blank (hcb ▸ hb)
              rw [after?, if_neg hd]
            · rfl
          rw [hblank, hnewline]
          exact .none
      | behind hb r =>
          rw [hnewline, hnewline]
          exact .none
      | @cons d s t h =>
          rw [after?, after?]
          split_ifs
          · exact ih hw.tail h
          · exact .none

lemma rel_skip? {w : String} (hw : Tight w.toList) (h : Padded s t) :
    Option.Rel Padded (skip? w s) (skip? w t) :=
  rel_after? hw h

lemma starts_eq {w : String} (hw : Tight w.toList) (h : Padded s t) : starts w s = starts w t :=
  isSome_eq_of_rel (rel_skip? hw h)

/-- In letters of either case the word has to be without blanks altogether. -/
lemma rel_afterFolded? {w : Text} (hw : Bare w) (h : Padded s t) :
    Option.Rel Padded (afterFolded? w s) (afterFolded? w t) := by
  induction w generalizing s t with
  | nil => exact .some h
  | cons c w ih =>
      have hne (b : Char) (hb : isBlank b) : c ≠ foldLetter b := by
        rintro rfl
        exact absurd (isBlank_foldLetter b hb) (by simp [hw _ List.mem_cons_self])
      cases h with
      | same => exact rel_same _
      | @last b hb =>
          show Option.Rel Padded (if c = foldLetter b then afterFolded? w [] else none) none
          rw [if_neg (hne _ hb)]
          exact .none
      | before hb r =>
          rw [afterFolded?, afterFolded?, if_neg (hne _ hb), if_neg (hne _ isBlank_newline)]
          exact .none
      | behind hb r =>
          rw [afterFolded?, afterFolded?, if_neg (hne _ isBlank_newline),
            if_neg (hne _ isBlank_newline)]
          exact .none
      | cons d h =>
          rw [afterFolded?, afterFolded?]
          split_ifs
          · exact ih (fun d hd => hw d (List.mem_cons_of_mem _ hd)) h
          · exact .none

lemma rel_skipFolded? {w : String} (hw : Bare w.toList) (h : Padded s t) :
    Option.Rel Padded (skipFolded? w s) (skipFolded? w t) :=
  rel_afterFolded? hw h

/-! ## Recognisers of classes -/

lemma trimStart_cons_blank {b : Char} (hb : isBlank b) (t : Text) :
    trimStart (b :: t) = trimStart t :=
  List.dropWhile_cons_of_pos hb

/-- Skipping blanks may swallow the added one, and then the rests are the same. -/
lemma padded_trimStart (h : Padded s t) : Padded (trimStart s) (trimStart t) := by
  induction h with
  | same t => exact .same _
  | last hb =>
      rw [trimStart_cons_blank hb]
      exact .same _
  | before hb r =>
      rw [trimStart_cons_blank hb]
      exact .same _
  | behind hb r =>
      rw [trimStart_cons_blank isBlank_newline, trimStart_cons_blank hb,
        trimStart_cons_blank isBlank_newline]
      exact .same _
  | cons c h ih =>
      rw [trimStart, trimStart, List.dropWhile_cons, List.dropWhile_cons]
      split_ifs
      · exact ih
      · exact h.cons c

/-- At the start of a line skipping blanks always swallows it. -/
lemma PaddedLines.trimStart (h : PaddedLines s t) : Padded (trimStart s) (trimStart t) := by
  have hpadded := padded_trimStart h
  rwa [trimStart_cons_blank isBlank_newline, trimStart_cons_blank isBlank_newline] at hpadded

/-- A word behind blanks: skip and recognise. -/
lemma rel_blanksThen? {w : String} (hw : Tight w.toList) (h : Padded s t) :
    Option.Rel Padded (blanksThen? w s) (blanksThen? w t) :=
  rel_skip? hw (padded_trimStart h)

variable {p : Char → Bool}

/-- A run of characters that are no blanks ends before the added one. -/
lemma takeWhile_eq (hp : Visible p) (h : Padded s t) : s.takeWhile p = t.takeWhile p := by
  induction h with
  | same t => rfl
  | last hb => simp [hp _ hb]
  | before hb r => simp [hp _ hb, hp _ isBlank_newline]
  | behind hb r => simp [hp _ isBlank_newline]
  | cons c h ih => rw [List.takeWhile_cons, List.takeWhile_cons, ih]

lemma padded_dropWhile (hp : Visible p) (h : Padded s t) :
    Padded (s.dropWhile p) (t.dropWhile p) := by
  induction h with
  | same t => exact .same _
  | last hb =>
      rw [List.dropWhile_cons_of_neg (by simp [hp _ hb])]
      exact .last hb
  | before hb r =>
      rw [List.dropWhile_cons_of_neg (by simp [hp _ hb]),
        List.dropWhile_cons_of_neg (by simp [hp _ isBlank_newline])]
      exact .before hb r
  | behind hb r =>
      rw [List.dropWhile_cons_of_neg (by simp [hp _ isBlank_newline]),
        List.dropWhile_cons_of_neg (by simp [hp _ isBlank_newline])]
      exact .behind hb r
  | cons c h ih =>
      rw [List.dropWhile_cons, List.dropWhile_cons]
      split_ifs
      · exact ih
      · exact h.cons c

/-- **A run is read alike**, to the same characters and padded rests. -/
lemma rel_run? (hp : Visible p) (h : Padded s t) :
    Option.Rel (fun x y => x.1 = y.1 ∧ Padded x.2 y.2) (run? p s) (run? p t) := by
  simp only [run?, takeWhile_eq hp h]
  split_ifs
  · exact .none
  · exact .some ⟨rfl, padded_dropWhile hp h⟩

lemma rel_oneOf? (hp : Visible p) (h : Padded s t) :
    Option.Rel Padded (oneOf? p s) (oneOf? p t) := by
  cases h with
  | same => exact rel_same _
  | last hb =>
      simp only [oneOf?, hp _ hb]
      exact .none
  | before hb r =>
      simp only [oneOf?, hp _ hb, hp _ isBlank_newline]
      exact .none
  | behind hb r =>
      simp only [oneOf?, hp _ isBlank_newline]
      exact .none
  | cons c h =>
      simp only [oneOf?]
      split_ifs
      · exact .some h
      · exact .none

/-- The next character is of a class without blanks on both sides or on none. -/
lemma head?_any_eq (hp : Visible p) (h : Padded s t) : s.head?.any p = t.head?.any p := by
  cases h with
  | same => rfl
  | last hb => simp [hp _ hb]
  | before hb r => simp [hp _ hb, hp _ isBlank_newline]
  | behind hb r => rfl
  | cons c h => rfl

/-- A word may end at a blank, at a newline and at the end of a text. -/
lemma endsWord_eq (h : Padded s t) : endsWord s = endsWord t := by
  rw [endsWord, endsWord, head?_any_eq visible_isWord h]

/-! ## Keywords

A keyword is the one thing that a blank at the end of the text can complete.  Nothing is left behind
it then. -/

/-- A keyword wants a blank behind it, so there is none in a text without blanks. -/
lemma keyword?_eq_none_of_bare (w : String) {t : Text} (ht : Bare t) : keyword? w t = none := by
  rw [keyword?, Option.bind_eq_none_iff]
  intro r hr
  obtain rfl := after?_eq_some_iff.mp hr
  cases r with
  | nil => rfl
  | cons c r => simp [blanks?, ht c (List.mem_append_right _ List.mem_cons_self)]

lemma keywordAny?_eq_none_of_bare (ws : List String) {t : Text} (ht : Bare t) :
    keywordAny? ws t = none := by
  rw [keywordAny?, List.findSome?_eq_none_iff]
  exact fun w _ => keyword?_eq_none_of_bare w ht

/-- Where blanks are required the added one may be the only one; then it is the last character. -/
lemma blanks?_of_padded (h : Padded s t) :
    Option.Rel Padded (blanks? s) (blanks? t) ∨ blanks? s = some [] ∧ t = [] := by
  cases h with
  | same => exact Or.inl (rel_same _)
  | last hb => exact Or.inr ⟨by simp [blanks?, hb, trimStart], rfl⟩
  | before hb r =>
      refine Or.inl ?_
      simp only [blanks?, hb, isBlank_newline, if_true, trimStart]
      exact rel_same _
  | behind hb r =>
      refine Or.inl ?_
      simp only [blanks?, isBlank_newline, if_true, trimStart_cons_blank hb]
      exact rel_same _
  | cons c h =>
      refine Or.inl ?_
      simp only [blanks?]
      split_ifs
      · exact .some (padded_trimStart h)
      · exact .none

/-- A blank that is added may complete a keyword, and then nothing is left behind it. -/
lemma keyword?_of_padded {w : String} (hw : Bare w.toList) (h : Padded s t) :
    Option.Rel Padded (keyword? w s) (keyword? w t) ∨ keyword? w s = some [] ∧ Bare t := by
  have hrel := rel_skip? hw.tight h
  rw [keyword?, keyword?]
  generalize skip? w s = o, ht : skip? w t = o' at hrel
  cases hrel with
  | none => exact Or.inl .none
  | some hrest =>
      rcases blanks?_of_padded hrest with hblanks | ⟨hblanks, rfl⟩
      · exact Or.inl hblanks
      · rw [after?_eq_some_iff.mp ht, List.append_nil]
        exact Or.inr ⟨hblanks, hw⟩

lemma keywordAny?_of_padded {ws : List String} (hws : ∀ w ∈ ws, Bare w.toList)
    (h : Padded s t) :
    Option.Rel Padded (keywordAny? ws s) (keywordAny? ws t) ∨
      keywordAny? ws s = some [] ∧ keywordAny? ws t = none := by
  induction ws with
  | nil => exact Or.inl .none
  | cons w ws ih =>
      rcases keyword?_of_padded (hws w List.mem_cons_self) h with hrel | ⟨hs, ht⟩
      · simp only [keywordAny?, List.findSome?_cons]
        generalize keyword? w s = o, keyword? w t = o' at hrel
        cases hrel with
        | some hrest => exact Or.inl (.some hrest)
        | none => exact ih fun v hv => hws v (List.mem_cons_of_mem _ hv)
      · refine Or.inr ⟨?_, keywordAny?_eq_none_of_bare _ ht⟩
        rw [keywordAny?, List.findSome?_cons, hs]

/-! ## Words that stand somewhere -/

/-- A tight word that starts with no blank. -/
def Solid (w : Text) : Prop := Tight w ∧ w.head?.any (fun c => !isBlank c)

instance (w : Text) : Decidable (Solid w) := inferInstanceAs (Decidable (_ ∧ _))

/-- A solid word does not start where a blank stands. -/
lemma Solid.after?_eq_none {w : Text} (hw : Solid w) (hs : s.head?.all isBlank) :
    after? w s = none := by
  obtain ⟨-, hfirst⟩ := hw
  cases w with
  | nil => exact Bool.noConfusion hfirst
  | cons c w =>
      cases s with
      | nil => rfl
      | cons b s =>
          rw [after?, if_neg]
          rintro rfl
          have hvisible : (!isBlank c) = true := hfirst
          have hblank : isBlank c = true := hs
          rw [hblank] at hvisible
          exact Bool.noConfusion hvisible

/-- To start with a word is to have something left behind it, perhaps nothing. -/
lemma isPrefixOf_eq_isSome (w t : Text) : w.isPrefixOf t = (after? w t).isSome := by
  induction w generalizing t with
  | nil => simp [after?]
  | cons c w ih =>
      cases t with
      | nil => rfl
      | cons d t =>
          rw [after?, List.isPrefixOf_cons_cons, ih]
          split_ifs with hcd <;> simp [hcd]

/-- A solid word does not occur at a blank in front. -/
lemma Solid.occurs_cons_blank {w : Text} (hw : Solid w) {b : Char} (hb : isBlank b) (r : Text) :
    occurs w (b :: r) = occurs w r := by
  rw [occurs, isPrefixOf_eq_isSome, hw.after?_eq_none (s := b :: r) hb, Option.isSome_none,
    Bool.false_or]

lemma occurs_eq_of_padded {w : Text} (hw : Solid w) (h : Padded s t) : occurs w s = occurs w t := by
  induction h with
  | same t => rfl
  | last hb => exact hw.occurs_cons_blank hb _
  | before hb r => exact hw.occurs_cons_blank hb _
  | behind hb r =>
      rw [hw.occurs_cons_blank isBlank_newline, hw.occurs_cons_blank hb,
        hw.occurs_cons_blank isBlank_newline]
  | cons c h ih =>
      rw [occurs, occurs, ih, isPrefixOf_eq_isSome, isPrefixOf_eq_isSome,
        isSome_eq_of_rel (rel_after? hw.1 (h.cons c))]

/-- **A solid word occurs in both texts or in none.** -/
lemma occurs_eq {w : Text} (hw : Solid w) (h : PaddedLines s t) : occurs w s = occurs w t := by
  have hpadded := occurs_eq_of_padded hw h
  rwa [hw.occurs_cons_blank isBlank_newline, hw.occurs_cons_blank isBlank_newline] at hpadded

/-! ## Places -/

/-- A construct that reads padded rests alike, finds nothing where a blank or nothing follows, its
value there being `dead`, and takes a blank before it for the start of the text. -/
structure Steady {β : Type} (f : Place → β) (dead : β) : Prop where
  padded (x : Option Char) {s t : Text} : Padded s t → f ⟨x, s⟩ = f ⟨x, t⟩
  blank (x : Option Char) (s : Text) : s.head?.all isBlank → f ⟨x, s⟩ = dead
  start {b : Char} (s : Text) : isBlank b → f ⟨some b, s⟩ = f ⟨none, s⟩

section Steady

variable {β : Type} {f : Place → β} {dead : β}

/-- A construct that starts with a solid word is steady, if what follows the word is read alike. -/
lemma steady_skip? {w : String} (hw : Solid w.toList) {k : Option Text → β}
    (hk : ∀ s t, Padded s t → k (some s) = k (some t)) :
    Steady (fun p => k (skip? w p.rest)) (k none) where
  padded x s t h := by
    have hrel := rel_skip? hw.1 h
    show k (skip? w s) = k (skip? w t)
    generalize skip? w s = o, skip? w t = o' at hrel
    cases hrel with
    | some hst => exact hk _ _ hst
    | none => rfl
  blank x s hs := congrArg k (hw.after?_eq_none hs)
  start s hb := rfl

/-- The same for a word of its own: a blank before it is as good as the start of the text. -/
lemma steady_word? {w : String} (hw : Solid w.toList) {k : Option Text → β}
    (hk : ∀ s t, Padded s t → k (some s) = k (some t)) :
    Steady (fun p => k (p.word? w)) (k none) where
  padded x s t h := by
    show k (if x.any isWord then none else skip? w s) = k (if x.any isWord then none else skip? w t)
    split_ifs
    · rfl
    · exact (steady_skip? hw hk).padded x h
  blank x s hs := by
    show k (if x.any isWord then none else skip? w s) = k none
    split_ifs
    · rfl
    · exact (steady_skip? hw hk).blank x s hs
  start s hb := by simp [Place.word?, visible_isWord _ hb]

lemma steady_skipFolded? {w : String} (hw : Bare w.toList) (hne : w.toList ≠ []) :
    Steady (fun p => (skipFolded? w p.rest).isSome) false where
  padded x s t h := isSome_eq_of_rel (rel_skipFolded? hw h)
  blank x s hs := by
    show (skipFolded? w s).isSome = false
    rw [skipFolded?]
    cases hword : w.toList with
    | nil => exact absurd hword hne
    | cons c cs =>
        cases s with
        | nil => rfl
        | cons b s =>
            rw [afterFolded?, if_neg, Option.isSome_none]
            rintro rfl
            have hblank := isBlank_foldLetter b hs
            rw [hw _ (hword ▸ List.mem_cons_self)] at hblank
            exact Bool.noConfusion hblank
  start s hb := rfl

/-- One of several constructs. -/
lemma steady_any {ι : Type} {ws : List ι} {g : ι → Place → Bool}
    (hg : ∀ w ∈ ws, Steady (g w) false) : Steady (fun p => ws.any fun w => g w p) false where
  padded x s t h := by
    show ws.any (fun w => g w ⟨x, s⟩) = ws.any fun w => g w ⟨x, t⟩
    exact any_congr_of_mem fun w hw => (hg w hw).padded x h
  blank x s hs := by
    show ws.any (fun w => g w ⟨x, s⟩) = false
    rw [List.any_eq_false]
    intro w hw
    rw [(hg w hw).blank x s hs]
    exact Bool.false_ne_true
  start s hb := any_congr_of_mem fun w hw => (hg w hw).start s hb

/-- Behind a blank every place shows what it shows at the start of a text. -/
lemma map_placesAfter_blank (hf : Steady f dead) {b : Char} (hb : isBlank b) (t : Text) :
    (placesAfter (some b) t).map f = (places t).map f := by
  cases t <;> simp [places, placesAfter, hf.start _ hb]

/-- What a construct shows at the places of a text, dead ones apart. -/
def shown [DecidableEq β] (f : Place → β) (dead : β) (t : Text) : List β :=
  ((places t).map f).filter (· ≠ dead)

/-- By cases on where the added blank is: the place in front of it is dead, and the places behind it
are those of the other text. -/
lemma filter_map_placesAfter [DecidableEq β] (hf : Steady f dead) (h : Padded s t)
    (x : Option Char) :
    ((placesAfter x s).map f).filter (· ≠ dead) = ((placesAfter x t).map f).filter (· ≠ dead) := by
  induction h generalizing x with
  | same t => rfl
  | @last b hb =>
      have hblank : f ⟨x, [b]⟩ = dead := hf.blank x [b] hb
      simp [placesAfter, hblank, hf.blank _ [] rfl]
  | @before b hb r =>
      have hblank : f ⟨x, b :: '\n' :: r⟩ = dead := hf.blank x _ hb
      have hnewline (y : Option Char) : f ⟨y, '\n' :: r⟩ = dead := hf.blank y _ isBlank_newline
      simp [placesAfter, hblank, hnewline]
  | @behind b hb r =>
      have hblank (y : Option Char) : f ⟨y, b :: r⟩ = dead := hf.blank y _ hb
      have hnewline (r : Text) : f ⟨x, '\n' :: r⟩ = dead := hf.blank x _ isBlank_newline
      simp [placesAfter, hblank, hnewline, map_placesAfter_blank hf hb,
        map_placesAfter_blank hf isBlank_newline]
  | cons c h ih =>
      simp only [placesAfter, List.map_cons, List.filter_cons, hf.padded x (h.cons c), ih]

/-- **A steady construct shows the same in padded texts.** -/
lemma shown_eq [DecidableEq β] (hf : Steady f dead) (h : PaddedLines s t) :
    shown f dead s = shown f dead t := by
  -- the newline in front adds one dead place
  have hlines (u : Text) :
      shown f dead u = ((placesAfter none ('\n' :: u)).map f).filter (· ≠ dead) := by
    have hnewline : f ⟨none, '\n' :: u⟩ = dead := hf.blank none _ isBlank_newline
    simp [shown, placesAfter, hnewline, map_placesAfter_blank hf isBlank_newline]
  rw [hlines, hlines, filter_map_placesAfter hf h]

/-- A steady construct is counted alike. -/
lemma countPlaces_eq {f : Place → Bool} (hf : Steady f false) (h : PaddedLines s t) :
    countPlaces f s = countPlaces f t := by
  have hlength (u : Text) : countPlaces f u = (shown f false u).length := by
    rw [shown, ← List.countP_eq_length_filter, List.countP_map, countPlaces]
    congr 1
    funext p
    cases hp : f p <;> simp [hp]
  rw [hlength, hlength, shown_eq hf h]

lemma anywhere_eq {f : Place → Bool} (hf : Steady f false) (h : PaddedLines s t) :
    anywhere f s = anywhere f t := by
  have hcount (u : Text) : anywhere f u = decide (0 < countPlaces f u) := by
    rw [Bool.eq_iff_iff, decide_eq_true_iff, countPlaces, List.countP_pos_iff, anywhere,
      List.any_eq_true]
  rw [hcount, hcount, countPlaces_eq hf h]

/-- What is searched is the first that is shown. -/
lemma search?_eq {α : Type} [DecidableEq α] {f : Place → Option α} (hf : Steady f none)
    (h : PaddedLines s t) : search? f s = search? f t := by
  have hhead (u : Text) : search? f u = ((shown f none u).filterMap id).head? := by
    rw [search?, shown, List.head?_filterMap]
    induction places u with
    | nil => rfl
    | cons p ps ih => cases hp : f p <;> simp [hp, ih]
  rw [hhead, hhead, shown_eq hf h]

/-- A blank at the very end adds one dead place behind the others. -/
lemma map_placesAfter_append {l : Text} {b : Char} (hb : isBlank b) (hf : Steady f dead)
    (x : Option Char) :
    (placesAfter x (l ++ [b])).map f = (placesAfter x l).map f ++ [dead] := by
  induction l generalizing x with
  | nil =>
      have hblank : f ⟨x, [b]⟩ = dead := hf.blank x [b] hb
      simp [placesAfter, hblank, hf.blank _ [] rfl]
  | cons c l ih =>
      have hpad := hf.padded x (Padded.append_blank (c :: l) hb)
      simp only [List.cons_append] at hpad
      simp only [List.cons_append, placesAfter, List.map_cons, hpad, ih]

lemma findIdx?_eq_map (f : Place → Bool) (ps : List Place) :
    ps.findIdx? f = (ps.map f).findIdx? id := by
  rw [List.findIdx?_map, Function.id_comp]

lemma findIdx?_places_append {f : Place → Bool} (hf : Steady f false) {l : Text} {b : Char}
    (hb : isBlank b) : (places (l ++ [b])).findIdx? f = (places l).findIdx? f := by
  rw [findIdx?_eq_map, findIdx?_eq_map, places, map_placesAfter_append hb hf, List.findIdx?_append]
  simp [places]

/-- A blank at the very start puts one dead place in front of the others. -/
lemma findIdx?_places_cons {f : Place → Bool} (hf : Steady f false) {l : Text} {b : Char}
    (hb : isBlank b) : (places (b :: l)).findIdx? f = ((places l).findIdx? f).map (· + 1) := by
  have hblank : f ⟨none, b :: l⟩ = false := hf.blank none _ hb
  rw [places, placesAfter, List.findIdx?_cons, hblank, findIdx?_eq_map, map_placesAfter_blank hf hb,
    ← findIdx?_eq_map]
  rfl

end Steady

end ReactLint.Text
