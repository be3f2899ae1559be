import ReactLint.Proofs.Block.Span
import ReactLint.Proofs.Function.Printing
import ReactLint.Proofs.Hook.Name

/-!
# The names that hooks should have

A function at the left margin that calls hooks without being named as one is reported with a hook
name to take: `use` and its own name with the first letter raised.  This file follows the advice.

**The declaration.**  The words before a declared name are read the same way whatever name follows
them (`fromName?_append`), and a suggested name holds nothing that shapes a block
(`isPlain_nameFor`).  So the renamed declaration is found, and its block is the old one
(`blockLines_of_openDepth`).

**The calls.**  A call that made the function a hook is still there (`anywhere_isHookCall_nameFor`):
the words before the name start none, and the name itself, being no hook name, starts none either.

The name to take is a hook name just when the first letter is raised to a capital.  Where it is not,
as for an underscore, the renamed function is reported again, with another name to take.
-/

namespace ReactLint

open Text

namespace Hook

/-! ## The words before a declared name -/

/-- A keyword as it is written: the word and the blanks behind it. -/
def IsKeyword (w : String) (k : Text) : Prop :=
  ∃ b bs, k = w.toList ++ b :: bs ∧ isBlank b ∧ ∀ c ∈ bs, isBlank c

/-- A keyword that may be missing. -/
def IsOptional (w : String) (k : Text) : Prop := k = [] ∨ IsKeyword w k

/-- What stands before a name that is declared at the left margin. -/
def IsFront (a : Text) : Prop :=
  ∃ x y z k, a = x ++ (y ++ (z ++ k)) ∧ IsOptional "export" x ∧ IsOptional "default" y ∧
    IsOptional "async" z ∧ (IsKeyword "const" k ∨ IsKeyword "function" k)

/-- The text starts with one of the characters. -/
def HeadIn (cs : List Char) (t : Text) : Prop := ∃ c ∈ cs, t.head? = some c

lemma exists_of_keyword? {w : String} {t r : Text} (h : keyword? w t = some r) :
    ∃ k, IsKeyword w k ∧ t = k ++ r := by
  obtain ⟨b, u, rfl, hb, rfl⟩ := keyword?_eq_some_iff.mp h
  refine ⟨w.toList ++ b :: u.takeWhile isBlank,
    ⟨b, _, rfl, hb, fun c => List.mem_takeWhile_imp⟩, ?_⟩
  rw [List.append_assoc, List.cons_append, trimStart, List.takeWhile_append_dropWhile]

lemma keyword?_of_isKeyword {w : String} {k : Text} (hk : IsKeyword w k) {c : Char}
    (hc : isBlank c = false) (t : Text) : keyword? w (k ++ c :: t) = some (c :: t) := by
  obtain ⟨b, bs, rfl, hb, hbs⟩ := hk
  refine keyword?_eq_some_iff.mpr ⟨b, bs ++ c :: t, by simp, hb, ?_⟩
  rw [trimStart, List.dropWhile_append_of_pos hbs, List.dropWhile_cons_of_neg (by simp [hc])]

lemma exists_of_optionalKeyword (w : String) (t : Text) :
    ∃ k, IsOptional w k ∧ t = k ++ optionalKeyword w t := by
  rw [optionalKeyword]
  cases h : keyword? w t with
  | none => exact ⟨[], Or.inl rfl, rfl⟩
  | some r =>
      obtain ⟨k, hk, ht⟩ := exists_of_keyword? h
      exact ⟨k, Or.inr hk, ht⟩

/-- A keyword that may be missing is read off a text that starts differently. -/
lemma optionalKeyword_append {w : String} {c : Char} (hw : w.toList.head? = some c) {k : Text}
    (hk : IsOptional w k) {cs : List Char} {t : Text} (ht : HeadIn cs t) (hc : c ∉ cs)
    (hcs : cs.all fun d => !isBlank d) :
    optionalKeyword w (k ++ t) = t ∧ HeadIn (c :: cs) (k ++ t) := by
  obtain ⟨d, hd, hhead⟩ := ht
  obtain ⟨u, rfl⟩ := List.head?_eq_some_iff.mp hhead
  have hvisible : isBlank d = false := by simpa using List.all_eq_true.mp hcs d hd
  obtain ⟨ws, hws⟩ := List.head?_eq_some_iff.mp hw
  rcases hk with rfl | hk
  · refine ⟨?_, d, List.mem_cons_of_mem c hd, rfl⟩
    have hnone : keyword? w (d :: u) = none := by
      have hne : c ≠ d := fun h => hc (h ▸ hd)
      rw [keyword?, skip?, hws, after?, if_neg hne, Option.bind_none]
    rw [List.nil_append, optionalKeyword, hnone, Option.getD_none]
  · refine ⟨?_, c, List.mem_cons_self, ?_⟩
    · rw [optionalKeyword, keyword?_of_isKeyword hk hvisible, Option.getD_some]
    · obtain ⟨b, bs, rfl, -⟩ := hk
      rw [hws]
      rfl

/-- The text from the declared name on. -/
def fromName? (line : Text) : Option Text :=
  keywordAny? ["const", "function"]
    (optionalKeyword "async" (optionalKeyword "default" (optionalKeyword "export" line)))

lemma declaredName?_eq (line : Text) :
    declaredName? line = ((fromName? line).bind identifier?).map Prod.fst := rfl

lemma exists_of_fromName? {line r : Text} (h : fromName? line = some r) :
    ∃ a, IsFront a ∧ line = a ++ r := by
  obtain ⟨x, hx, hline⟩ := exists_of_optionalKeyword "export" line
  obtain ⟨y, hy, hline'⟩ := exists_of_optionalKeyword "default" (optionalKeyword "export" line)
  obtain ⟨z, hz, hline''⟩ := exists_of_optionalKeyword "async"
    (optionalKeyword "default" (optionalKeyword "export" line))
  obtain ⟨w, hw, hread⟩ := List.exists_of_findSome?_eq_some h
  obtain ⟨k, hk, hrest⟩ := exists_of_keyword? hread
  have hkeyword : IsKeyword "const" k ∨ IsKeyword "function" k := by
    simp only [List.mem_cons, List.not_mem_nil, or_false] at hw
    rcases hw with rfl | rfl
    · exact Or.inl hk
    · exact Or.inr hk
  refine ⟨x ++ (y ++ (z ++ k)), ⟨x, y, z, k, rfl, hx, hy, hz, hkeyword⟩, ?_⟩
  rw [hline, hline', hline'', hrest]
  simp only [List.append_assoc]

/-- The words before a name are read in front of any name, and the line is then no comment. -/
lemma fromName?_append {a : Text} (ha : IsFront a) {c : Char} (hc : isBlank c = false) (t : Text) :
    fromName? (a ++ c :: t) = some (c :: t) ∧ HeadIn ['e', 'd', 'a', 'c', 'f'] (a ++ c :: t) := by
  obtain ⟨x, y, z, k, rfl, hx, hy, hz, hk⟩ := ha
  have hlast : keywordAny? ["const", "function"] (k ++ c :: t) = some (c :: t) ∧
      HeadIn ['c', 'f'] (k ++ c :: t) := by
    rcases hk with hk | hk
    · have hread := keyword?_of_isKeyword hk hc t
      obtain ⟨b, bs, rfl, -⟩ := hk
      refine ⟨?_, 'c', by simp, rfl⟩
      rw [keywordAny?, List.findSome?_cons, hread]
    · have hread := keyword?_of_isKeyword hk hc t
      obtain ⟨b, bs, rfl, -⟩ := hk
      refine ⟨?_, 'f', by simp, rfl⟩
      have hconst : keyword? "const" ("function".toList ++ b :: bs ++ c :: t) = none := rfl
      rw [keywordAny?, List.findSome?_cons, hconst, List.findSome?_cons, hread]
  obtain ⟨hread, hhead⟩ := hlast
  obtain ⟨hasync, hhead⟩ := optionalKeyword_append rfl hz hhead (by decide) (by decide)
  obtain ⟨hdefault, hhead⟩ := optionalKeyword_append rfl hy hhead (by decide) (by decide)
  obtain ⟨hexport, hhead⟩ := optionalKeyword_append rfl hx hhead (by decide) (by decide)
  simp only [List.append_assoc]
  refine ⟨?_, hhead⟩
  rw [fromName?, hexport, hdefault, hasync, hread]

/-- The words before a declared name, the name, and a text that does not continue it. -/
lemma exists_of_declaredName? {line name : Text} (h : declaredName? line = some name) :
    ∃ a z, IsFront a ∧ fromName? line = some (name ++ z) ∧ line = a ++ (name ++ z) ∧ name ≠ [] ∧
      (∀ c ∈ name, isIdent c) ∧ ∀ c ∈ z.head?, isIdent c = false := by
  rw [declaredName?_eq] at h
  obtain ⟨⟨n, z⟩, hread, rfl⟩ := Option.map_eq_some_iff.mp h
  obtain ⟨r, hr, hrun⟩ := Option.bind_eq_some_iff.mp hread
  obtain ⟨rfl, hne, hident, hz⟩ := run?_eq_some_iff.mp hrun
  obtain ⟨a, ha, hline⟩ := exists_of_fromName? hr
  exact ⟨a, z, ha, hr, hline, hne, hident, hz⟩

/-! ## The renamed declaration -/

/-- The line with another name for what it declares. -/
def renameDeclared (new line : Text) : Text :=
  match fromName? line with
  | some t => line.take (line.length - t.length) ++ (new ++ t.dropWhile isIdent)
  | none => line

lemma renameDeclared_eq {a name z : Text} (h : fromName? (a ++ (name ++ z)) = some (name ++ z))
    (hname : ∀ c ∈ name, isIdent c) (hz : ∀ c ∈ z.head?, isIdent c = false) (new : Text) :
    renameDeclared new (a ++ (name ++ z)) = a ++ (new ++ z) := by
  have hrest : z.dropWhile isIdent = z := by
    cases z with
    | nil => rfl
    | cons c z => exact List.dropWhile_cons_of_neg (by simp [hz c rfl])
  have hlength : (a ++ (name ++ z)).length - (name ++ z).length = a.length := by simp
  rw [renameDeclared, h]
  dsimp only
  rw [hlength, List.take_left, List.dropWhile_append_of_pos hname, hrest]

lemma isCommentLine_eq_false {t : Text} (h : HeadIn ['e', 'd', 'a', 'c', 'f'] t) :
    isCommentLine t = false := by
  obtain ⟨c, hc, hhead⟩ := h
  obtain ⟨u, rfl⟩ := List.head?_eq_some_iff.mp hhead
  have hletters : (['e', 'd', 'a', 'c', 'f'].all fun c =>
      !isBlank c && c != '/' && c != '*') = true := by
    decide
  have hc := List.all_eq_true.mp hletters c hc
  simp only [Bool.and_eq_true, Bool.not_eq_true', bne_iff_ne] at hc
  have hstart : trimStart (c :: u) = c :: u := List.dropWhile_cons_of_neg (by simp [hc])
  have hprefix := isPrefix_trimEnd (c :: u)
  rw [isCommentLine, trim, hstart]
  cases htrim : trimEnd (c :: u) with
  | nil => rfl
  | cons d v =>
      rw [htrim] at hprefix
      obtain ⟨rfl, -⟩ := List.cons_prefix_cons.mp hprefix
      simp [starts, skip?, after?, Ne.symm hc.1.2, Ne.symm hc.2]

open FunctionBlock in
/-- What a declaration opens does not depend on the name. -/
lemma openDepth_append {a : Text} (ha : IsFront a) {c : Char} {cs : Text} (hc : isBlank c = false)
    (hplain : isPlain (c :: cs)) (z : Text) :
    openDepth .braceOrParen (a ++ (c :: cs ++ z))
      = z.foldl Delimiter.braceOrParen.clampedStep
          (a.foldl Delimiter.braceOrParen.clampedStep 0) := by
  have hcode : isCommentLine (a ++ (c :: cs ++ z)) = false :=
    isCommentLine_eq_false (fromName?_append ha hc (cs ++ z)).2
  rw [openDepth, hcode, if_neg Bool.false_ne_true, List.foldl_append, List.foldl_append,
    Written.foldl_clampedStep_of_isPlain hplain]

/-- So the renamed declaration has the lines of the old one below it. -/
lemma blockLines_of_openDepth {d : Delimiter} {l l' : Text} (h : openDepth d l' = openDepth d l)
    (ls : List Text) :
    ∃ below, blockLines d l ls = l :: below ∧ blockLines d l' ls = l' :: below := by
  refine ⟨ls.take (extent d (l :: ls)), rfl, ?_⟩
  rw [blockLines, List.take_succ_cons, extent, extent, h]

/-! ## The calls -/

/-- The character stands inside words only. -/
def Inner (c : Char) (t : Text) : Prop := ∀ x y, t = x ++ c :: y → x.getLast?.any isWord = true

lemma Inner.append {c : Char} {s t : Text} (hs : Inner c s) (ht : Inner c t) :
    Inner c (s ++ t) := by
  intro x y h
  rcases List.append_eq_append_iff.mp h with ⟨v, rfl, hv⟩ | ⟨v, hv, hv'⟩
  · -- the character stands in the second text
    have hinner := ht v y hv
    cases hlast : v.getLast? with
    | none => simp [hlast] at hinner
    | some d => simpa [List.getLast?_append, hlast] using hinner
  · cases v with
    | nil =>
        have hinner := ht [] y (by simpa using hv'.symm)
        simp at hinner
    | cons d v =>
        obtain ⟨rfl, -⟩ := List.cons.inj hv'
        exact hs x v hv

lemma inner_of_notMem {c : Char} {t : Text} (h : c ∉ t) : Inner c t := by
  rintro x y rfl
  simp at h

lemma inner_of_places {c : Char} {t : Text}
    (h : (places t).all fun p => p.rest.head? != some c || p.before.any isWord) : Inner c t := by
  rintro x y rfl
  have hplace := List.all_eq_true.mp h ⟨x.getLast?, c :: y⟩ (mem_places.mpr ⟨x, rfl, rfl⟩)
  simpa using hplace

lemma IsKeyword.inner {w : String} {k : Text} (hk : IsKeyword w k)
    (hw : (places w.toList).all fun p => p.rest.head? != some 'u' || p.before.any isWord) :
    Inner 'u' k := by
  obtain ⟨b, bs, rfl, hb, hbs⟩ := hk
  refine (inner_of_places hw).append (inner_of_notMem ?_)
  intro hu
  have hblank : isBlank 'u' := by
    rcases List.mem_cons.mp hu with rfl | hu
    · exact hb
    · exact hbs _ hu
  exact absurd hblank (by decide)

lemma IsOptional.inner {w : String} {k : Text} (hk : IsOptional w k)
    (hw : (places w.toList).all fun p => p.rest.head? != some 'u' || p.before.any isWord) :
    Inner 'u' k := by
  rcases hk with rfl | hk
  · exact inner_of_notMem List.not_mem_nil
  · exact hk.inner hw

/-- None of the words before a name starts as a hook does. -/
lemma IsFront.inner {a : Text} (ha : IsFront a) : Inner 'u' a := by
  obtain ⟨x, y, z, k, rfl, hx, hy, hz, hk⟩ := ha
  refine (hx.inner (by decide)).append ((hy.inner (by decide)).append
    ((hz.inner (by decide)).append ?_))
  rcases hk with hk | hk
  · exact hk.inner (by decide)
  · exact hk.inner (by decide)

lemma isHookName_eq (name : Text) :
    isHookName ("use".toList ++ name) = name.head?.any isCapital := by
  rw [isHookName, skip?, after?_append]
  rfl

lemma isHookCall_iff {x : Option Char} {r : Text} :
    isHookCall ⟨x, r⟩ = true ↔ x.any isWord = false ∧ isHookCall ⟨none, r⟩ = true := by
  cases hx : x.any isWord <;> simp [isHookCall, Place.word?, hx]

lemma exists_of_isHookCall {x : Option Char} {r : Text} (h : isHookCall ⟨x, r⟩ = true) :
    ∃ c u, isCapital c ∧ r = "use".toList ++ c :: u := by
  obtain ⟨u, hu, -⟩ := (Option.any_eq_true _ _).mp (isHookCall_iff.mp h).2
  obtain ⟨v, hv, hone⟩ := Option.bind_eq_some_iff.mp hu
  obtain rfl := after?_eq_some_iff.mp hv
  cases v with
  | nil => simp [oneOf?] at hone
  | cons c v =>
      rw [oneOf?] at hone
      split_ifs at hone with hc
      exact ⟨c, v, hc, rfl⟩

lemma isIdent_of_isCapital {c : Char} (hc : isCapital c) : isIdent c := by
  have hascii : c.toNat < 128 := by
    simp only [isCapital, Bool.and_eq_true, decide_eq_true_eq, Char.le_def,
      UInt32.le_iff_toNat_le] at hc
    exact Nat.lt_of_le_of_lt hc.2 (by decide)
  have hcheck : ∀ n < 128, isCapital (Char.ofNat n) → isIdent (Char.ofNat n) := by decide +kernel
  have hc' := hcheck c.toNat hascii
  rw [Char.ofNat_toNat] at hc'
  exact hc' hc

lemma isIdent_of_mem_use : ∀ c ∈ "use".toList, isIdent c := List.all_eq_true.mp (by decide)

/-- A call that starts where a name does makes the name that of a hook. -/
lemma isHookName_of_append {name z u : Text} {d : Char} (hname : ∀ c ∈ name, isIdent c)
    (hz : ∀ c ∈ z.head?, isIdent c = false) (hd : isCapital d)
    (h : name ++ z = "use".toList ++ d :: u) : isHookName name = true := by
  have hread : name = "use".toList ++ d :: u.takeWhile isIdent := by
    have hwhole : (name ++ z).takeWhile isIdent = name := by
      rw [takeWhile_append_of_head? hz, List.takeWhile_eq_self_iff.mpr hname]
    rw [← hwhole, h, List.takeWhile_append_of_pos isIdent_of_mem_use,
      List.takeWhile_cons_of_pos (isIdent_of_isCapital hd)]
  rw [hread, isHookName_eq]
  exact hd

/-- **The calls in a function stay** when it takes the name suggested. -/
lemma anywhere_isHookCall_nameFor {a name z : Text} (ha : Inner 'u' a) (hne : name ≠ [])
    (hname : ∀ c ∈ name, isIdent c) (hz : ∀ c ∈ z.head?, isIdent c = false)
    (hnot : isHookName name = false) (h : anywhere isHookCall (a ++ (name ++ z)) = true) :
    anywhere isHookCall (a ++ (nameFor name ++ z)) = true := by
  obtain ⟨⟨x, r⟩, hplace, hcall⟩ := List.any_eq_true.mp h
  obtain ⟨before, hsplit, rfl⟩ := mem_places.mp hplace
  obtain ⟨hword, hhere⟩ := isHookCall_iff.mp hcall
  obtain ⟨d, u, hd, rfl⟩ := exists_of_isHookCall hcall
  have hstart : name ++ z ≠ "use".toList ++ d :: u := by
    intro heq
    rw [isHookName_of_append hname hz hd heq] at hnot
    contradiction
  obtain ⟨c, cs, rfl⟩ := List.exists_cons_of_ne_nil hne
  rcases List.append_eq_append_iff.mp hsplit with ⟨v, rfl, hv⟩ | ⟨v, rfl, hv⟩
  · cases v with
    | nil => exact absurd hv hstart
    | cons e v =>
        -- behind the first letter all is as before; a letter that is no word character is kept
        obtain ⟨rfl, hrest⟩ := List.cons.inj hv
        have hrest : cs ++ z = v ++ ("use".toList ++ d :: u) := hrest
        have hlast : (a ++ ("use".toList ++ upperChar c ++ v)).getLast?.any isWord = false := by
          cases hlast : v.getLast? with
          | some e => simpa [List.getLast?_append, List.getLast?_cons, hlast] using hword
          | none =>
              obtain rfl := List.getLast?_eq_none_iff.mp hlast
              have hc : isWord c = false := by simpa using hword
              have hdollar : c = '$' := by simpa [isIdent, hc] using hname c List.mem_cons_self
              subst hdollar
              simp [upperChar, hc]
        refine List.any_eq_true.mpr ⟨⟨_, "use".toList ++ d :: u⟩, mem_places.mpr ⟨_, ?_, rfl⟩,
          isHookCall_iff.mpr ⟨hlast, hhere⟩⟩
        simp only [nameFor_cons, List.append_assoc, hrest]
  · -- none starts in the words before the name
    cases v with
    | nil => exact absurd hv.symm hstart
    | cons e v =>
        obtain ⟨rfl, -⟩ := List.cons.inj hv
        rw [ha before v rfl] at hword
        contradiction

/-! ## Following the advice -/

/-- What is reported with a name to take: it calls a hook and is not named as one. -/
lemma of_misplaced?_rename {l : Text} {ls : List Text} {name new : Text}
    (h : misplaced? l ls = some ⟨name, some new⟩) :
    declaredName? l = some name ∧ isHookName name = false ∧
      name.head?.any isUpperLetter = false ∧
      anywhere isHookCall (unlines (blockLines .braceOrParen l ls)) = true ∧
      new = nameFor name := by
  obtain ⟨n, hn, hreport⟩ := Option.bind_eq_some_iff.mp h
  split_ifs at hreport with hhook hupper hcalls
  · simp at hreport
  · simp only [Option.some.injEq, Misplaced.mk.injEq] at hreport
    obtain ⟨rfl, rfl⟩ := hreport
    exact ⟨hn, Bool.eq_false_iff.mpr hhook, Bool.eq_false_iff.mpr hupper, hcalls, rfl⟩

lemma exists_of_mem_misplaced {lines : List Text} {f : Located Misplaced} {new : Text}
    (hf : f ∈ misplaced lines) (hnew : f.item.rename = some new) :
    ∃ i, ∃ hi : i < lines.length, f.line = 1 + i ∧
      misplaced? lines[i] (lines.drop (i + 1)) = some ⟨f.item.name, some new⟩ := by
  obtain ⟨i, hi, hline, hitem⟩ := mem_locateFrom.mp hf
  refine ⟨i, hi, hline, ?_⟩
  rw [← hnew]
  exact Option.mem_toList.mp hitem

/-- The lines below a line follow it as a text of their own, a newline in front. -/
lemma exists_unlines (ls : List Text) :
    ∃ t : Text, (∀ c ∈ t.head?, c = '\n') ∧ ∀ l, unlines (l :: ls) = l ++ t := by
  cases ls with
  | nil => exact ⟨[], by simp, by simp [unlines]⟩
  | cons l' ls => exact ⟨'\n' :: unlines (l' :: ls), by simp, fun l => unlines_cons l l' ls⟩

/-- A name that is suggested is one of a hook exactly when the first letter is raised to a
capital. -/
lemma isHookName_nameFor (c : Char) (cs : Text) :
    isHookName (nameFor (c :: cs)) = (upperChar c).head?.any isCapital := by
  rw [nameFor_cons, isHookName_eq, List.head?_append_of_ne_nil _ (mem_upperChar c).1]

/-- The name that is read off a renamed declaration is one of a hook when the suggestion is. -/
lemma isHookName_takeWhile (t : Text) :
    isHookName (("use".toList ++ t).takeWhile isIdent) = isHookName ("use".toList ++ t) := by
  rw [List.takeWhile_append_of_pos isIdent_of_mem_use, isHookName_eq, isHookName_eq]
  cases t with
  | nil => rfl
  | cons c t =>
      by_cases hc : isIdent c
      · rw [List.takeWhile_cons_of_pos hc]
        rfl
      · have hcapital : isCapital c = false := by
          rw [Bool.eq_false_iff]
          exact fun h => hc (isIdent_of_isCapital h)
        simp [hc, hcapital]

open FunctionBlock in
lemma isPlain_nameFor {name : Text} (hname : ∀ c ∈ name, isIdent c) : isPlain (nameFor name) := by
  refine isPlain_iff.mpr fun d hd hmem => ?_
  rcases mem_nameFor hmem with huse | hold | hraised
  · exact isPlain_iff.mp (by decide) d hd huse
  · exact isPlain_iff.mp (isPlain_of_isIdent hname) d hd hold
  · exact hraised.notMem (by decide) hd

/-- **One step of following the advice.**  The renamed declaration is reported under its new name,
as far as this is an identifier, and has no further name to take exactly when it is now a hook's. -/
lemma misplaced?_renamed {l : Text} {ls : List Text} {name new : Text}
    (h : misplaced? l ls = some ⟨name, some new⟩) :
    misplaced? (renameDeclared new l) ls =
      some ⟨new.takeWhile isIdent,
        if isHookName new then none else some (nameFor (new.takeWhile isIdent))⟩ := by
  obtain ⟨hdeclared, hnot, -, hcalls, rfl⟩ := of_misplaced?_rename h
  obtain ⟨a, z, ha, hfrom, rfl, hne, hname, hz⟩ := exists_of_declaredName? hdeclared
  obtain ⟨c, cs, rfl⟩ := List.exists_cons_of_ne_nil hne
  have hnew : nameFor (c :: cs) = 'u' :: ("se".toList ++ (upperChar c ++ cs)) := nameFor_cons c cs
  rw [renameDeclared_eq hfrom hname hz]
  have hread : declaredName? (a ++ (nameFor (c :: cs) ++ z))
      = some ((nameFor (c :: cs)).takeWhile isIdent) := by
    rw [declaredName?_eq, hnew, List.cons_append, (fromName?_append ha (by decide) _).1,
      Option.bind_some, identifier?, run?, ← List.cons_append, takeWhile_append_of_head? hz]
    rfl
  have hdepth : openDepth .braceOrParen (a ++ (nameFor (c :: cs) ++ z))
      = openDepth .braceOrParen (a ++ (c :: cs ++ z)) := by
    have hc : isBlank c = false := by
      rw [Bool.eq_false_iff]
      exact fun hblank =>
        Bool.false_ne_true ((isIdent_of_isBlank hblank).symm.trans (hname c List.mem_cons_self))
    have hplain := isPlain_nameFor hname
    rw [hnew] at hplain ⊢
    rw [openDepth_append ha (by decide) hplain,
      openDepth_append ha hc (FunctionBlock.isPlain_of_isIdent hname)]
  have hkept : anywhere isHookCall (unlines (blockLines .braceOrParen
      (a ++ (nameFor (c :: cs) ++ z)) ls)) = true := by
    obtain ⟨below, hold, hrenamed⟩ := blockLines_of_openDepth hdepth ls
    obtain ⟨t, ht, hunlines⟩ := exists_unlines below
    have hz' : ∀ c ∈ (z ++ t).head?, isIdent c = false := by
      intro c hc
      cases z with
      | nil =>
          rw [ht c hc]
          decide
      | cons d z => exact hz c hc
    rw [hold, hunlines, List.append_assoc, List.append_assoc] at hcalls
    rw [hrenamed, hunlines, List.append_assoc, List.append_assoc]
    exact anywhere_isHookCall_nameFor ha.inner hne hname hz' hnot hcalls
  have hlower : ((nameFor (c :: cs)).takeWhile isIdent).head?.any isUpperLetter = false := by
    rw [hnew]
    rfl
  rw [misplaced?, hread, Option.bind_some, nameFor_cons, isHookName_takeWhile, ← nameFor_cons,
    hlower, hkept]
  cases isHookName (nameFor (c :: cs)) <;> rfl

lemma newline_notMem_renameDeclared {new line : Text} (hnew : '\n' ∉ new) (hline : '\n' ∉ line) :
    '\n' ∉ renameDeclared new line := by
  rw [renameDeclared]
  cases h : fromName? line with
  | none => exact hline
  | some r =>
      obtain ⟨a, -, rfl⟩ := exists_of_fromName? h
      rw [List.mem_append, not_or] at hline
      simp only [List.mem_append, not_or]
      refine ⟨fun hmem => ?_, hnew, fun hmem => hline.2 ((List.dropWhile_suffix _).subset hmem)⟩
      exact List.mem_append.not.mpr (not_or.mpr hline) (List.mem_of_mem_take hmem)

/-- The file in which the declaration on a line has another name. -/
def renamed (s : Source) (line : Nat) (new : Text) : Source :=
  ⟨s.path, unlines (s.lines.modify (line - 1) (renameDeclared new))⟩

lemma lines_renamed {new : Text} (hnew : '\n' ∉ new) (s : Source) (line : Nat) :
    (renamed s line new).lines = s.lines.modify (line - 1) (renameDeclared new) := by
  refine lines_unlines (fun hnil => ?_) fun l hl => ?_
  · have hlength := congrArg List.length hnil
    rw [List.length_modify] at hlength
    exact List.splitOn_ne_nil _ _ (List.length_eq_zero_iff.mp hlength)
  · obtain ⟨i, hi, rfl⟩ := List.getElem_of_mem hl
    rw [List.length_modify] at hi
    have hold := newline_notMem_of_mem_lines (List.getElem_mem hi)
    rw [List.getElem_modify]
    split_ifs
    · exact newline_notMem_renameDeclared hnew hold
    · exact hold

lemma mem_diagnose_misplacedHooks {t : Thresholds} {s : Source} {hooks : List (Located Misplaced)} :
    .misplacedHooks hooks ∈ Rule.hookPlacement.diagnose t s ↔
      inFolder s.path "hooks" = false ∧ hooks = misplaced s.lines := by
  simp only [Rule.diagnose, Rule.diagnoseHooks]
  cases inFolder s.path "hooks" <;> simp

/-- **One step of following the advice**, in a file: the renamed declaration is reported on its
line. -/
lemma mem_misplaced_renamed {s : Source} {f : Located Misplaced} {new : Text}
    (hf : f ∈ misplaced s.lines) (hnew : f.item.rename = some new) :
    ⟨f.line, new.takeWhile isIdent,
      if isHookName new then none else some (nameFor (new.takeWhile isIdent))⟩
        ∈ misplaced (renamed s f.line new).lines := by
  obtain ⟨i, hi, hline, hreport⟩ := exists_of_mem_misplaced hf hnew
  obtain ⟨hdeclared, -, -, -, hname⟩ := of_misplaced?_rename hreport
  obtain ⟨-, -, -, -, -, -, hident, -⟩ := exists_of_declaredName? hdeclared
  have hplain : '\n' ∉ new :=
    FunctionBlock.isPlain_iff.mp (hname ▸ isPlain_nameFor hident) '\n' (by decide)
  have hindex : f.line - 1 = i := by omega
  rw [misplaced, locate, lines_renamed hplain, hindex]
  refine mem_locateFrom.mpr ⟨i, by rwa [List.length_modify], hline, ?_⟩
  rw [List.getElem_modify_eq, List.drop_modify_of_lt _ _ _ _ (Nat.lt_succ_self i),
    misplaced?_renamed hreport]
  exact List.mem_singleton_self _

/-- A letter in ASCII that is not upper case is raised to a capital when it is lower case. -/
lemma raised_ascii : ∀ n < 128, isUpperLetter (Char.ofNat n) = false →
    (upperChar (Char.ofNat n)).head?.any isCapital = (Char.ofNat n).isLower := by
  decide +kernel

/-- **What comes of the advice on names.**  A declaration that is reported with a name to take has
this made of `use`, its own first letter raised, and the rest of its name.  That is a hook name
exactly when the letter is raised to a capital; of the letters in ASCII those are the lower-case
ones, and underscores, dollar signs and digits are not.  After the declaration has taken the name,
as far as this is an identifier, it is reported again on its line: with no further name to take when
the name was a hook name, and else with one that is. -/
theorem advice_on_names_followed {t : Thresholds} {s : Source} {hooks : List (Located Misplaced)}
    (hhooks : .misplacedHooks hooks ∈ Rule.hookPlacement.diagnose t s) {f : Located Misplaced}
    (hf : f ∈ hooks) {new : Text} (hnew : f.item.rename = some new) :
    ∃ c cs, f.item.name = c :: cs ∧ new = "use".toList ++ (upperChar c ++ cs) ∧
      isHookName new = (upperChar c).head?.any isCapital ∧
      (c.toNat < 128 → isHookName new = c.isLower) ∧
      ∃ hooks', .misplacedHooks hooks' ∈ Rule.hookPlacement.diagnose t (renamed s f.line new) ∧
        let name := new.takeWhile isIdent
        (isHookName new = true → ⟨f.line, name, none⟩ ∈ hooks') ∧
        (isHookName new = false →
          ⟨f.line, name, some (nameFor name)⟩ ∈ hooks' ∧ isHookName (nameFor name) = true) := by
  obtain ⟨hfolder, rfl⟩ := mem_diagnose_misplacedHooks.mp hhooks
  have hstep := mem_misplaced_renamed hf hnew
  obtain ⟨i, hi, -, hreport⟩ := exists_of_mem_misplaced hf hnew
  obtain ⟨hdeclared, -, hupper, -, rfl⟩ := of_misplaced?_rename hreport
  obtain ⟨-, -, -, -, -, hne, -⟩ := exists_of_declaredName? hdeclared
  obtain ⟨c, cs, hname⟩ := List.exists_cons_of_ne_nil hne
  rw [hname] at hupper hstep ⊢
  have hraised := isHookName_nameFor c cs
  refine ⟨c, cs, rfl, nameFor_cons c cs, hraised, ?_, _,
    mem_diagnose_misplacedHooks.mpr ⟨hfolder, rfl⟩, ?_, ?_⟩
  · intro hascii
    have hcheck := raised_ascii c.toNat hascii
    rw [Char.ofNat_toNat] at hcheck
    rw [hraised, hcheck hupper]
  · intro hhook
    rwa [if_pos hhook] at hstep
  · intro hnot
    rw [if_neg (by simp [hnot])] at hstep
    refine ⟨hstep, ?_⟩
    rw [nameFor_cons]
    rfl

/-- A letter that is raised to two, behind all the words that may stand before a name. -/
theorem advice_on_names_followed_sharp_s :
    let s : Source := ⟨"src/a.ts".toList,
      unlines ["export default async function ßeta() ".toList ++ ['{'], "  useState()".toList,
        ['}']]⟩
    let hooks : List (Located Misplaced) := [⟨1, "ßeta".toList, some "useSSeta".toList⟩]
    .misplacedHooks hooks ∈ Rule.hookPlacement.diagnose .default s ∧
      ∃ hooks', .misplacedHooks hooks' ∈
          Rule.hookPlacement.diagnose .default (renamed s 1 "useSSeta".toList) ∧
        ⟨1, "useSSeta".toList, none⟩ ∈ hooks' := by
  intro s hooks
  have hhooks : .misplacedHooks hooks ∈ Rule.hookPlacement.diagnose .default s :=
    mem_diagnose_misplacedHooks.mpr ⟨by decide +kernel, by decide +kernel⟩
  obtain ⟨c, cs, -, -, -, -, hooks', hmem, hhook, -⟩ :=
    advice_on_names_followed hhooks List.mem_cons_self rfl
  exact ⟨hhooks, hooks', hmem, hhook (by decide +kernel)⟩

/-- The name to take for `_load` is no hook name. -/
theorem advice_on_underscore_is_no_hook :
    ¬ ∀ (t : Thresholds) (s : Source) (hooks : List (Located Misplaced)),
      .misplacedHooks hooks ∈ Rule.hookPlacement.diagnose t s →
      ∀ f ∈ hooks, ∀ new, f.item.rename = some new → isHookName new = true := by
  intro h
  let s : Source := ⟨"src/a.ts".toList,
    unlines ["function _load() ".toList ++ ['{'], "  useState()".toList, ['}']]⟩
  have hhooks : .misplacedHooks [⟨1, "_load".toList, some "use_load".toList⟩] ∈
      Rule.hookPlacement.diagnose .default s :=
    mem_diagnose_misplacedHooks.mpr ⟨by decide +kernel, by decide +kernel⟩
  exact absurd (h _ s _ hhooks _ List.mem_cons_self _ rfl) (by decide)

end Hook

end ReactLint
