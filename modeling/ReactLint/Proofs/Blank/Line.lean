import ReactLint.Proofs.Block.Enclosing
import ReactLint.Proofs.Comment.Inline
import ReactLint.Proofs.Text.Trim
import ReactLint.Rule

/-!
# Reading a line without the blanks around it

What a rule asks of a single line has the same answer for the trimmed line.  There are five kinds of
such questions.

* A declaration is recognised on the trimmed line, and `trim_trim` is all there is to say.
* A construct is searched at every place of the line; it is `Steady`.
* Delimiters are counted, and a blank is none.
* The walk back to a `catch` keeps the texts in front of braces, which blanks do change.  It is only
  asked whether `catch` stands in one of them (`catchOn`).
* The comment automaton looks at the raw line, and at the position of a comment on it.  It needs a
  line without a newline: a `//` comment must end with its line.

A question about a block is asked of its lines put together; trimming every one of them is the
business of `apply_unlines`.  One question is left out: which declarations stand at the left margin
is for blanks to decide.
-/

namespace ReactLint

open Text

/-! ## Delimiters -/

/-- No blank opens a block, whichever delimiters are counted. -/
lemma visible_isOpen (d : Delimiter) : Visible d.isOpen := by
  cases d <;> exact forall_isBlank (by decide)

lemma visible_isClose (d : Delimiter) : Visible d.isClose := by
  cases d <;> exact forall_isBlank (by decide)

@[simp] lemma isCommentLine_trim (l : Text) : isCommentLine (trim l) = isCommentLine l := by
  simp only [isCommentLine, trim_trim]

/-- A blank weighs nothing, so the sum over the characters is that of the trimmed line. -/
@[simp] lemma balance_trim (d : Delimiter) (l : Text) : balance d (trim l) = balance d l := by
  have hweight (b : Char) (hb : isBlank b) : d.weight b = 0 := by
    simp [Delimiter.weight, visible_isOpen d b hb, visible_isClose d b hb]
  have hsum : ((trim l).map d.weight).sum = (l.map d.weight).sum :=
    apply_trim (g := fun l => (l.map d.weight).sum) (fun b a hb => by simp [hweight b hb])
      (fun a b hb => by simp [hweight b hb]) l
  rw [balance_eq_sum, balance_eq_sum, isCommentLine_trim, hsum]

/-- A blank leaves the clamped depth where it is. -/
@[simp] lemma openDepth_trim (d : Delimiter) (l : Text) : openDepth d (trim l) = openDepth d l := by
  have hstep (n : Nat) (b : Char) (hb : isBlank b) : d.clampedStep n b = n := by
    simp [Delimiter.clampedStep, visible_isOpen d b hb, visible_isClose d b hb]
  have hfold : (trim l).foldl d.clampedStep 0 = l.foldl d.clampedStep 0 :=
    apply_trim (g := fun l => l.foldl d.clampedStep 0) (fun b a hb => by simp [hstep 0 b hb])
      (fun a b hb => by simp [hstep _ b hb]) l
  rw [openDepth, openDepth, isCommentLine_trim, hfold]

@[simp] lemma firstOn?_trim (l : Text) : Delimiter.firstOn? (trim l) = Delimiter.firstOn? l := by
  have hnone : ∀ b, isBlank b → Delimiter.ofOpening? b = none := forall_isBlank (by decide)
  exact apply_trim (fun b a hb => by simp [Delimiter.firstOn?, hnone b hb])
    (fun a b hb => by simp [Delimiter.firstOn?, hnone b hb]) l

/-! ## Catch blocks -/

/-- What a walk back comes to: the braces pending at its end, and whether `catch` stands before one
of those met open. -/
def catchMet (walk : Nat × List Text) : Nat × Bool :=
  walk.map id fun found => found.any fun before => namesCatch before.reverse

/-- What the walk back over a line comes to. -/
def catchOn (depth : Nat) (l : Text) : Nat × Bool := catchMet (openBracesOn depth l)

/-- The word `catch` is whole at the end of a line just when it is whole before a blank. -/
lemma steady_catch : Steady (·.isWhole "catch") false :=
  steady_word? (k := fun o => o.any endsWord) (by decide) fun _ _ h => endsWord_eq h

/-- A text in front of a brace is kept with the blanks of its line; the question whether it names
`catch` does not see them. -/
lemma namesCatch_cons {b : Char} (hb : isBlank b) (t : Text) :
    namesCatch (b :: t) = namesCatch t :=
  anywhere_eq steady_catch (paddedLines_cons_blank hb t)

section Walk

variable {b : Char} (hb : isBlank b)
include hb

/-- The walk back passes over a blank that it meets. -/
lemma openBraces_cons_blank (depth : Nat) (cs : Text) :
    openBraces depth (b :: cs) = openBraces depth cs :=
  openBraces_other (beq_eq_false_iff_ne.mp (visible_isClose .brace b hb))
    (beq_eq_false_iff_ne.mp (visible_isOpen .brace b hb)) depth cs

/-- A blank at the far end of the walk is kept with the text before every brace. -/
lemma openBraces_append_blank (depth : Nat) (cs : Text) :
    openBraces depth (cs ++ [b]) = (openBraces depth cs).map id (·.map (· ++ [b])) := by
  induction cs generalizing depth with
  | nil => exact openBraces_cons_blank hb depth []
  | cons c cs ih =>
      rw [List.cons_append]
      by_cases hclose : c = '}'
      · rw [hclose, openBraces_close, openBraces_close, ih]
      · by_cases hopen : c = '{'
        · subst hopen
          cases depth with
          | zero =>
              rw [openBraces_open_zero, openBraces_open_zero, ih]
              rfl
          | succ depth => rw [openBraces_open_succ, openBraces_open_succ, ih]
        · rw [openBraces_other hclose hopen, openBraces_other hclose hopen, ih]

end Walk

/-- **The walk back over a line** ends with the same braces pending, and has met `catch` or not,
with or without the blanks around the line. -/
@[simp] lemma catchOn_trim (depth : Nat) (l : Text) : catchOn depth (trim l) = catchOn depth l := by
  have hwalk : catchMet (openBraces depth (trim l).reverse)
      = catchMet (openBraces depth l.reverse) := by
    refine apply_trim (g := fun l : Text => catchMet (openBraces depth l.reverse)) ?_ ?_ l
    · intro b a hb
      simp [catchMet, openBraces_append_blank hb, Function.comp_def, namesCatch_cons hb, Prod.map]
    · intro a b hb
      simp [openBraces_cons_blank hb]
  rw [catchOn, catchOn, openBracesOn, openBracesOn, isCommentLine_trim]
  split_ifs
  · rfl
  · exact hwalk

/-! ## Constructs -/

/-- The brace of a `try` may stand behind blanks; a blank behind it is not looked at. -/
lemma steady_try : Steady (fun p => ((p.word? "try").bind (blanksThen? openBrace)).isSome) false :=
  steady_word? (k := fun o => (o.bind (blanksThen? openBrace)).isSome) (by decide)
    fun _ _ h => isSome_eq_of_rel (rel_blanksThen? (by decide) h)

@[simp] lemma opensTry_trim (l : Text) : opensTry (trim l) = opensTry l :=
  anywhere_trim steady_try l

/-- A `return` of markup stands at the start of its line, so this is no search at every place: the
blanks in front are skipped by the rule itself. -/
@[simp] lemma returnsMarkup_trim (l : Text) : returnsMarkup (trim l) = returnsMarkup l := by
  refine apply_trim_of_padded (g := returnsMarkup) (fun s t h => ?_) l
  exact isSome_eq_of_rel (rel_bind (rel_skip? (by decide) h.trimStart)
    fun _ _ h => rel_blanksThen? (by decide) h)

/-- The methods of a console call are words without a blank at their end, and the call is over where
the word is. -/
lemma steady_isConsoleCall : Steady isConsoleCall false := by
  refine steady_word? (w := "console.")
    (k := fun o => o.any fun t => consoleMethods.any fun m => (skip? m t).any endsWord)
    (by decide) fun s t h => ?_
  show consoleMethods.any (fun m => (skip? m s).any endsWord)
    = consoleMethods.any fun m => (skip? m t).any endsWord
  have hwords : ∀ m ∈ consoleMethods, Tight m.toList := by decide
  exact any_congr_of_mem fun m hm =>
    any_eq_of_rel (rel_skip? (hwords m hm) h) fun _ _ h => endsWord_eq h

/-- The column of a call lies on the line, so a blank behind the line is not before the call. -/
lemma consoleColumn?_le {l : Text} {n : Nat} (h : consoleColumn? l = some n) : n ≤ l.length := by
  obtain ⟨hlt, -⟩ := List.findIdx?_eq_some_iff_getElem.mp h
  rw [places, length_placesAfter] at hlt
  omega

/-- The walk back from the first console call on a line, if there is one. -/
def consoleWalk? (l : Text) : Option (Nat × Bool) :=
  (consoleColumn? l).map fun column => catchOn 0 (l.take column)

@[simp] lemma consoleWalk?_trim (l : Text) : consoleWalk? (trim l) = consoleWalk? l := by
  refine apply_trim ?_ ?_ l
  · intro b a hb
    -- the call moves one column to the right, and the text before it starts with the blank
    have hcolumn : consoleColumn? (b :: a) = (consoleColumn? a).map (· + 1) :=
      findIdx?_places_cons steady_isConsoleCall hb
    have hwalk (t : Text) : catchOn 0 (b :: t) = catchOn 0 t := by
      rw [← catchOn_trim, trim_cons_blank hb, catchOn_trim]
    simp [consoleWalk?, hcolumn, Function.comp_def, hwalk]
  · intro a b hb
    have hcolumn : consoleColumn? (a ++ [b]) = consoleColumn? a :=
      findIdx?_places_append steady_isConsoleCall hb
    rw [consoleWalk?, consoleWalk?, hcolumn]
    refine Option.map_congr fun column hfound => ?_
    rw [List.take_append_of_le_length (consoleColumn?_le hfound)]

/-- A query is read in five steps with blanks allowed between them.  Each step takes padded rests to
padded rests. -/
lemma steady_isQuery : Steady isQuery false := by
  refine steady_skip? (w := "supabase") (k := fun o => (o.bind fun t => do
    let t ← blanksThen? "." t
    let t ← blanksThen? "from(" t
    let found ← run? isWord (← oneOf? isQuote (trimStart t))
    blanksThen? ")" (← oneOf? isQuote found.2)).isSome) (by decide) fun s t h => ?_
  refine isSome_eq_of_rel (R := Padded) (rel_bind (.some h) fun s t h => ?_)
  refine rel_bind (rel_blanksThen? (w := ".") (by decide) h) fun s t h => ?_
  refine rel_bind (rel_blanksThen? (w := "from(") (by decide) h) fun s t h => ?_
  refine rel_bind (rel_oneOf? visible_isQuote (padded_trimStart h)) fun s t h => ?_
  refine rel_bind (rel_run? visible_isWord h) fun s t h => ?_
  refine rel_bind (rel_oneOf? visible_isQuote h.2) fun s t h => ?_
  exact rel_blanksThen? (by decide) h

lemma steady_isFetch : Steady isFetch false :=
  steady_word? (k := Option.isSome) (by decide) fun _ _ _ => rfl

lemma steady_isComponentTag : Steady AtomicLevel.isComponentTag false :=
  steady_skip? (w := "<") (k := fun o => o.any fun t : Text => t.head?.any isCapital)
    (by decide) fun _ _ h => head?_any_eq visible_isCapital h

namespace Hook

/-- A call of a hook: `use`, a capital, the rest of the word, and a parenthesis behind blanks. -/
lemma steady_isHookCall : Steady isHookCall false := by
  refine steady_word? (w := "use") (k := fun o => (o.bind (oneOf? isCapital)).any fun t =>
    (blanksThen? "(" (t.dropWhile isWord)).isSome) (by decide) fun s t h => ?_
  refine any_eq_of_rel (rel_oneOf? visible_isCapital h) fun s t h => ?_
  exact isSome_eq_of_rel (rel_blanksThen? (by decide) (padded_dropWhile visible_isWord h))

/-- A call of one of several functions, whose names neither start nor end in a blank. -/
lemma steady_isCallOf {names : List String} (hnames : ∀ w ∈ names, Solid w.toList) :
    Steady (isCallOf names) false :=
  steady_any fun w hw =>
    steady_word? (k := fun o => (o.bind (blanksThen? "(")).isSome) (hnames w hw)
      fun _ _ h => isSome_eq_of_rel (rel_blanksThen? (by decide) h)

lemma steady_isStateCall : Steady isStateCall false := by
  refine steady_word? (w := "useState") (k := fun o => o.any fun t =>
    endsWord t && (trimStart t).head?.any fun c => c == '<' || c == '(') (by decide)
    fun s t h => ?_
  have hmark : Visible fun c => c == '<' || c == '(' := forall_isBlank (by decide)
  show (endsWord s && _) = (endsWord t && _)
  rw [endsWord_eq h, head?_any_eq hmark (padded_trimStart h)]

/-- The name of a state is the first thing between brackets behind `const`; what follows it does not
matter. -/
@[simp] lemma stateName?_trim (l : Text) : stateName? (trim l) = stateName? l := by
  refine apply_trim_of_padded (fun s t h => search?_eq ?_ h) l
  refine steady_skip? (w := "const") (k := fun o => (o.bind (blanksThen? "[")).bind fun t =>
    (identifier? (trimStart t)).map Prod.fst) (by decide) fun s t h => ?_
  have hname {s t : Text} (h : Padded s t) :
      (identifier? (trimStart s)).map Prod.fst = (identifier? (trimStart t)).map Prod.fst :=
    map_eq_of_rel (rel_run? visible_isIdent (padded_trimStart h)) fun _ _ h => h.1
  exact bind_eq_of_rel (rel_blanksThen? (w := "[") (by decide) h) fun _ _ h => hname h

end Hook

/-! ## Functions -/

/-- A text that holds the character at which reading stops is not read further. -/
lemma takeWhile_append_of_mem {c : Char} {t : Text} (h : c ∈ t) (u : Text) :
    (t ++ u).takeWhile (· != c) = t.takeWhile (· != c) := by
  induction t with
  | nil => exact absurd h List.not_mem_nil
  | cons d t ih =>
      rw [List.cons_append, List.takeWhile_cons, List.takeWhile_cons]
      split_ifs with hd
      · rcases List.mem_cons.mp h with rfl | h
        · simp at hd
        · rw [ih h]
      · rfl

/-- Parameters are counted between the first parenthesis and the next that closes.  When none
closes, the count goes to the end of the line, and a blank there is no parameter. -/
@[simp] lemma paramCount_trim (l : Text) : paramCount (trim l) = paramCount l := by
  have hopen (b : Char) (hb : isBlank b) : b ≠ '(' :=
    beq_eq_false_iff_ne.mp (visible_isOpen .paren b hb)
  refine apply_trim ?_ ?_ l
  · intro b a hb
    simp [paramCount, hopen b hb]
  · intro a b hb
    have hclose : b ≠ ')' := beq_eq_false_iff_ne.mp (visible_isClose .paren b hb)
    rw [paramCount, paramCount, List.dropWhile_append]
    cases hrest : a.dropWhile (· != '(') with
    | nil => simp [hopen b hb]
    | cons c r =>
        -- what follows the parenthesis has the blank at its end, behind the closing one if any
        by_cases hc : '(' = c
        · subst hc
          by_cases hmem : ')' ∈ r
          · simp [skip?, after?, hmem, takeWhile_append_of_mem hmem]
          · simp [skip?, after?, hmem, hclose.symm]
        · simp [skip?, after?, hc]

namespace FunctionBlock

@[simp] lemma headerName?_trim (l : Text) : headerName? (trim l) = headerName? l := by
  simp only [headerName?, trim_trim]

/-- A call of a setter in a block of lines, some of which have got blanks around them. -/
lemma callsSetter_eq {s t : Text} (h : PaddedLines s t) : callsSetter s = callsSetter t := by
  refine anywhere_eq ?_ h
  refine steady_skip? (w := "set") (k := fun o => (o.bind (run? isWord)).any fun found =>
    starts "(" found.2) (by decide) fun s t h => ?_
  exact any_eq_of_rel (rel_run? visible_isWord h) fun _ _ h => starts_eq (by decide) h.2

/-- A mention of a remote service, in letters of either case. -/
lemma mentionsRemote_eq {s t : Text} (h : PaddedLines s t) :
    mentionsRemote s = mentionsRemote t := by
  have hwords : ∀ w ∈ ["fetch", "supabase", "axios", "api"], Bare w.toList ∧ w.toList ≠ [] := by
    decide
  exact anywhere_eq (steady_any fun w hw => steady_skipFolded? (hwords w hw).1 (hwords w hw).2) h

end FunctionBlock

/-! ## Comments -/

/-- On a single line a padded rest has one blank more at its end, or is the same. -/
lemma trim_eq_of_padded {s t : Text} (h : Padded s t) (hs : '\n' ∉ s) : trim s = trim t := by
  rcases h.eq_or_append hs with rfl | ⟨b, hb, rfl⟩
  · rfl
  · exact trim_append_blank t hb

/-- The one blank that may follow the slashes is trimmed anyway. -/
lemma trim_getD_oneOf? (t : Text) : trim ((oneOf? isBlank t).getD t) = trim t := by
  cases t with
  | nil => rfl
  | cons c t =>
      rw [oneOf?]
      split_ifs with hc
      · rw [Option.getD_some, trim, trim, trimStart, trimStart, List.dropWhile_cons_of_pos hc]
      · rfl

lemma getD_oneOf?_subset (t : Text) : (oneOf? isBlank t).getD t ⊆ t := by
  cases t with
  | nil => exact List.Subset.refl _
  | cons c t =>
      rw [oneOf?]
      split_ifs
      · exact List.subset_cons_self c t
      · exact List.Subset.refl _

/-- What follows a word on a line is on the same line. -/
lemma newline_notMem_of_blanksThen? {w : String} {l rest : Text} (h : '\n' ∉ l)
    (hrest : blanksThen? w l = some rest) : '\n' ∉ rest := by
  intro hmem
  refine h ((List.dropWhile_suffix isBlank).subset ?_)
  rw [show l.dropWhile isBlank = w.toList ++ rest from after?_eq_some_iff.mp hrest]
  exact List.mem_append_right _ hmem

namespace DisabledCode

/-- On a single line the body of a comment is all that follows its slashes. -/
lemma body?_eq {l : Text} (h : '\n' ∉ l) : body? l = (blanksThen? "//" l).map trim := by
  rw [body?]
  cases hrest : blanksThen? "//" l with
  | none => rfl
  | some rest =>
      have hbody : '\n' ∉ (oneOf? isBlank rest).getD rest := fun hmem =>
        newline_notMem_of_blanksThen? h hrest (getD_oneOf?_subset rest hmem)
      have hall : ∀ c ∈ (oneOf? isBlank rest).getD rest, (c != '\n') = true := by
        intro c hc
        rw [bne_iff_ne]
        rintro rfl
        exact hbody hc
      simp [List.dropWhile_eq_nil_iff.mpr hall, List.takeWhile_eq_self_iff.mpr hall,
        trim_getD_oneOf?]

lemma body?_cons {b : Char} (hb : isBlank b) (l : Text) : body? (b :: l) = body? l := by
  simp only [body?, blanksThen?, trimStart_cons_blank hb]

/-- The body of a comment is trimmed, and a blank in front of its slashes is skipped. -/
lemma body?_trim {l : Text} (h : '\n' ∉ l) : body? (trim l) = body? l := by
  have hstart : '\n' ∉ trimStart l := fun hmem => h ((List.dropWhile_suffix _).subset hmem)
  refine Eq.trans ?_ (apply_trimStart (fun _ a hb => body?_cons hb a) l)
  rw [body?_eq hstart, body?_eq fun hmem => h (trim_subset l hmem), trim]
  generalize trimStart l = l at hstart
  refine apply_trimEnd (g := fun l => (blanksThen? "//" l).map trim) fun a b hle hb => ?_
  have hline : '\n' ∉ a ++ [b] := fun hmem => hstart (hle.subset hmem)
  have hrel := rel_blanksThen? (w := "//") (by decide) (Padded.append_blank a hb)
  show (blanksThen? "//" (a ++ [b])).map trim = (blanksThen? "//" a).map trim
  generalize hrest : blanksThen? "//" (a ++ [b]) = o, blanksThen? "//" a = o' at hrel
  cases hrel with
  | none => rfl
  | some hpad =>
      exact congrArg some (trim_eq_of_padded hpad (newline_notMem_of_blanksThen? hline hrest))

lemma isDisabledCode_trim {l : Text} (h : '\n' ∉ l) :
    isDisabledCode (trim l) = isDisabledCode l := by
  rw [isDisabledCode, isDisabledCode, body?_trim h]

end DisabledCode

namespace Comment

/-- A directive for a tool is told by the word behind the comment mark, with blanks between them. -/
@[simp] lemma isToolDirective_trim (l : Text) : isToolDirective (trim l) = isToolDirective l := by
  refine apply_trim_of_padded (fun s t h => ?_) l
  have hslash : Visible fun c => c == '/' || c == '*' := forall_isBlank (by decide)
  have hwords : ∀ w ∈ ["eslint", "@ts-", "prettier", "istanbul", "c8", "vitest", "jest"],
      Tight w.toList := by decide
  refine any_eq_of_rel (rel_bind (rel_skip? (by decide) h.trimStart)
    fun _ _ h => rel_oneOf? hslash h) fun s t h => ?_
  exact isSome_eq_of_rel (rel_findSome? fun w hw => rel_skip? (hwords w hw) (padded_trimStart h))

@[simp] lemma isDirective_trim (l : Text) : isDirective (trim l) = isDirective l := by
  rw [isDirective, isDirective, isToolDirective_trim, trim_trim]

/-- A mark without a blank at either end is mentioned by the trimmed line, too. -/
lemma mentions_trim {w : String} (hw : Solid w.toList) (l : Text) :
    mentions w (trim l) = mentions w l :=
  apply_trim_of_padded (fun _ _ h => occurs_eq hw h) l

/-- A reminder is told by its first word, in letters of either case. -/
lemma isReminder_eq {s t : Text} (h : Padded s t) : isReminder s = isReminder t := by
  have hwords : ∀ w ∈ reminderWords, Bare w.toList := by decide
  refine any_eq_of_rel (rel_blanksThen? (by decide) h) fun s t h => ?_
  exact any_congr_of_mem fun w hw =>
    any_eq_of_rel (rel_skipFolded? (hwords w hw) (padded_trimStart h)) fun _ _ h => endsWord_eq h

/-! ### Comments that follow code -/

/-- Whether a comment starts at a position is decided by what stands before it, and by whether
anything but blanks follows the slashes. -/
lemma startsInlineAt_append {line : Text} {b : Char} (hb : isBlank b) {pos : Nat}
    (h : pos + 2 ≤ line.length) :
    startsInlineAt (line ++ [b]) pos = startsInlineAt line pos := by
  rw [startsInlineAt_eq, startsInlineAt_eq, followsCode_append [b] (by omega),
    List.drop_append_of_le_length h]
  simp [isBlankText, hb]

/-- **A blank behind a line moves no comment**: the search goes over the same positions, and at the
last one there are no two slashes. -/
lemma inlineStartFrom_append {line rest : Text} {b : Char} (hb : isBlank b) {pos : Nat}
    (h : pos + rest.length ≤ line.length) :
    inlineStartFrom (line ++ [b]) pos (rest ++ [b]) = inlineStartFrom line pos rest := by
  have hslash : b ≠ '/' := beq_eq_false_iff_ne.mp (visible_beq (by decide) b hb)
  fun_induction inlineStartFrom line pos rest with
  | case1 pos rest hstart =>
      simp only [List.length_cons] at h
      rw [List.cons_append, List.cons_append, inlineStartFrom, startsInlineAt_append hb (by omega),
        if_pos hstart]
  | case2 pos rest hstart ih =>
      simp only [List.length_cons] at h
      rw [List.cons_append, List.cons_append, inlineStartFrom, startsInlineAt_append hb (by omega),
        if_neg hstart, ih (by omega)]
  | case3 pos c rest hne ih =>
      simp only [List.length_cons] at h
      rw [List.cons_append, inlineStartFrom, ih (by omega)]
      -- two slashes would have to end in the blank
      intro rest' hc hrest
      cases rest with
      | nil => exact hslash (List.cons.inj hrest).1
      | cons d rest => exact hne rest hc (by rw [(List.cons.inj hrest).1])
  | case4 pos =>
      rw [List.nil_append, inlineStartFrom, inlineStartFrom]
      exact fun rest' _ hrest => List.cons_ne_nil _ _ hrest.symm

/-- A blank in front moves the positions of a line by one.  It opens no literal, and a mark behind
it is one as at the start of the line. -/
lemma insideLiteral_cons {b : Char} (hb : isBlank b) (line : Text) (pos : Nat) :
    insideLiteral (b :: line) (pos + 1 : Nat) = insideLiteral line pos := by
  have hmark : isLiteralMark b = false :=
    forall_isBlank (P := fun b => isLiteralMark b = false) (by decide) b hb
  have hback : b ≠ '\\' := beq_eq_false_iff_ne.mp (visible_beq (by decide) b hb)
  have hopen (t : Text) : openMark none none (b :: t) = openMark none none t := by
    cases t <;> simp [openMark, markStep, hmark, hback]
  have hout : (((pos + 1 : Nat) : Int) < 0 ∨ ((b :: line).length : Int) ≤ (pos + 1 : Nat))
      ↔ ((pos : Int) < 0 ∨ (line.length : Int) ≤ pos) := by
    rw [List.length_cons]
    omega
  simp only [insideLiteral, Int.toNat_natCast, List.take_succ_cons, hopen, Bool.or_eq_true,
    decide_eq_true_eq, hout]

/-- With a blank in front, a comment starts one position further on.  Slashes at the start of the
line follow no code, and neither do slashes behind a blank. -/
lemma startsInlineAt_cons {b : Char} (hb : isBlank b) (line : Text) (pos : Nat) :
    startsInlineAt (b :: line) (pos + 1) = startsInlineAt line pos := by
  have hblank : isBlankText (b :: line.take pos) = isBlankText (line.take pos) := by
    simp [isBlankText, hb]
  rw [startsInlineAt, startsInlineAt, insideLiteral_cons hb, List.take_succ_cons, hblank]
  cases hbefore : line.take pos with
  | nil => simp [isBlankText]
  | cons c before => simp

lemma inlineStartFrom_cons {b : Char} (hb : isBlank b) (line rest : Text) (pos : Nat) :
    inlineStartFrom (b :: line) (pos + 1) rest = (inlineStartFrom line pos rest).map (· + 1) := by
  fun_induction inlineStartFrom line pos rest with
  | case1 pos rest hstart =>
      rw [inlineStartFrom, startsInlineAt_cons hb, if_pos hstart, Option.map_some]
  | case2 pos rest hstart ih =>
      rw [inlineStartFrom, startsInlineAt_cons hb, if_neg hstart]
      exact ih
  | case3 pos c rest hne ih =>
      rw [inlineStartFrom]
      · exact ih
      · exact hne
  | case4 pos => rfl

/-- Whether the comment that follows code on a line, if there is one, is a reminder. -/
def inlineReminder? (line : Text) : Option Bool :=
  (inlineStart? line).map fun pos => isReminder (line.drop pos)

/-- The position of a comment on a line depends on the blanks in front, the text of the comment does
not. -/
@[simp] lemma inlineReminder?_trim (l : Text) : inlineReminder? (trim l) = inlineReminder? l := by
  refine apply_trim ?_ ?_ l
  · intro b a hb
    have hslash : b ≠ '/' := beq_eq_false_iff_ne.mp (visible_beq (by decide) b hb)
    have hstart : inlineStart? (b :: a) = (inlineStart? a).map (· + 1) := by
      rw [inlineStart?, inlineStartFrom]
      · exact inlineStartFrom_cons hb a a 0
      · exact fun _ h _ => hslash h
    simp [inlineReminder?, hstart, Function.comp_def]
  · intro a b hb
    have hstart : inlineStart? (a ++ [b]) = inlineStart? a :=
      inlineStartFrom_append hb (Nat.le_of_eq (Nat.zero_add _))
    have hreminder (pos : Nat) : isReminder ((a ++ [b]).drop pos) = isReminder (a.drop pos) := by
      rw [List.drop_append]
      cases pos - a.length with
      | zero => exact isReminder_eq (Padded.append_blank _ hb)
      | succ n => rw [List.drop_succ_cons, List.drop_nil, List.append_nil]
    simp only [inlineReminder?, hstart, hreminder]

/-- **A line outside comments is read alike** when it is trimmed: as a comment of its own, as one
that opens, or as code that a comment follows. -/
lemma readCode_trim {l : Text} (h : '\n' ∉ l) : readCode (trim l) = readCode l := by
  have hclosing := mentions_trim (w := "*/") (by decide) l
  have hinline := inlineReminder?_trim l
  rw [inlineReminder?, inlineReminder?] at hinline
  simp only [readCode, trim_trim, hclosing, DisabledCode.isDisabledCode_trim h]
  -- only a comment that follows code is left, on both lines or on none
  generalize inlineStart? (trim l) = start, inlineStart? l = start' at hinline
  cases start with
  | none =>
      obtain rfl : start' = none := Option.map_eq_none_iff.mp hinline.symm
      rfl
  | some pos =>
      obtain ⟨pos', rfl, hreminder⟩ := Option.map_eq_some_iff.mp hinline.symm
      simp only [hreminder]

/-- **The automaton makes the same step** on a line and on the line without the blanks around it. -/
lemma step_trim {l : Text} (h : '\n' ∉ l) (state : State) : step state (trim l) = step state l := by
  have hclosing := mentions_trim (w := "*/") (by decide) l
  cases state with
  | code => simp only [step, isDirective_trim, readCode_trim h]
  | block => simp only [step, isDirective_trim, hclosing]
  | documentation => simp only [step, hclosing]

end Comment

/-! ## Declarations -/

namespace Declaration

@[simp] lemma constantName?_trim (l : Text) : constantName? (trim l) = constantName? l := by
  simp only [constantName?, trim_trim]

@[simp] lemma plainConstantName?_trim (l : Text) :
    plainConstantName? (trim l) = plainConstantName? l := by
  simp only [plainConstantName?, trim_trim]

@[simp] lemma component?_trim (l : Text) : component? (trim l) = component? l := by
  simp only [component?, trim_trim]

@[simp] lemma typeName?_trim (l : Text) : typeName? (trim l) = typeName? l := by
  simp only [typeName?, trim_trim]

end Declaration

end ReactLint
