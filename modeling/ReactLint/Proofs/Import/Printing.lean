import ReactLint.Proofs.Blank.Indentation
import ReactLint.Proofs.Finding.Shift
import ReactLint.Proofs.Import.Span
import ReactLint.Proofs.Text.Identifier

/-!
# Imports as they are written

An import is a clause of bindings and a quoted module.  It is printed with one space between its
words, on one line or with a line for each name between its braces.

**One statement.**  However it is laid out, the join of its trimmed lines is the same text
(`joinTrimmed_lines`).  No name is the word `from`, so the text has no `from` clause before its last
line (`completes_lines`): the printed lines are the lines of one statement (`print_is_statement`).
-/

namespace ReactLint

open Text

namespace Text

/-- The words, each with a space in front. -/
def spaced (ws : List Text) : Text := ws.flatMap (' ' :: ·)

@[simp] lemma spaced_nil : spaced [] = [] := rfl

@[simp] lemma spaced_cons (w : Text) (ws : List Text) : spaced (w :: ws) = ' ' :: w ++ spaced ws :=
  rfl

@[simp] lemma spaced_append (vs ws : List Text) : spaced (vs ++ ws) = spaced vs ++ spaced ws :=
  List.flatMap_append

lemma joinTrimmed_cons (l : Text) (ls : List Text) :
    joinTrimmed (l :: ls) = trim l ++ spaced (ls.map trim) := by
  induction ls generalizing l with
  | nil => simp
  | cons l' ls ih =>
      rw [← List.singleton_append, joinTrimmed_append (List.cons_ne_nil _ _) (List.cons_ne_nil _ _),
        ih l', joinTrimmed_singleton]
      rfl

lemma identifiers_append_spaced (t : Text) (ws : List Text) :
    identifiers (t ++ spaced ws) = identifiers t ++ ws.flatMap identifiers := by
  induction ws generalizing t with
  | nil => simp
  | cons w ws ih =>
      have hblank : isIdent ' ' = false := by decide
      rw [spaced_cons, List.cons_append, identifiers_append_cons _ hblank, ih, List.flatMap_cons]

lemma Solid.append_spaced {t : Text} (ht : Solid t) {ws : List Text} (hws : ∀ w ∈ ws, Solid w) :
    Solid (t ++ spaced ws) := by
  induction ws generalizing t with
  | nil => rwa [spaced_nil, List.append_nil]
  | cons w ws ih =>
      have hword : Solid (t ++ [' '] ++ w) := ht.append (by decide) (hws w List.mem_cons_self)
      have hrest := ih hword fun v hv => hws v (List.mem_cons_of_mem _ hv)
      simpa using hrest

end Text

namespace Import

open ImportStatement

/-! ## Syntax -/

/-- The words that have a meaning of their own in an import. -/
def keywords : List Text := ["as".toList, "type".toList, "from".toList]

/-- A name that an import may bind or rename. -/
structure Name where
  text : Text
  ne_nil : text ≠ []
  ident : text.all isIdent
  notKeyword : text ∉ keywords

/-- A name between braces: an original name, marked as a type or not, and the name that it is bound
to when that is another. -/
structure Specifier where
  isType : Bool
  name : Name
  renamed : Option Name

/-- The name that is bound. -/
def Specifier.localName (s : Specifier) : Name := s.renamed.getD s.name

/-- What an import binds. -/
inductive Clause where
  | default (name : Name)
  | named (default? : Option Name) (specifiers : List Specifier)
  | star (default? : Option Name) (name : Name)

/-- The marks of a list of names and of a namespace. -/
def marks : List Char := ['{', '}', '*']

/-- A module and the quotation mark around its name. -/
structure ModuleName where
  quote : Char
  text : Text
  isQuote : isQuote quote
  plain : text.all fun c => !(c == '\n' || Text.isQuote c || marks.contains c)

/-- An import of names. -/
structure Form where
  isType : Bool
  clause : Clause
  source : ModuleName

namespace Clause

/-- The default binding. -/
def default? : Clause → Option Name
  | default name => some name
  | named default? _ | star default? _ => default?

/-- The names between braces. -/
def specifiers : Clause → List Specifier
  | named _ specifiers => specifiers
  | default _ | star _ _ => []

/-- The namespace binding. -/
def star? : Clause → Option Name
  | star _ name => some name
  | default _ | named _ _ => none

end Clause

/-- The names that an import binds: those between braces, its default and its namespace. -/
def Form.boundNames (i : Form) : List Name :=
  i.clause.specifiers.map Specifier.localName ++ i.clause.default?.toList ++ i.clause.star?.toList

/-! ## Printing -/

/-- How an import is laid out.  With margins, each name between its braces has a line of its own. -/
structure Layout where
  /-- Whether a space stands in front of commas and of the semicolon. -/
  spacedMarks : Bool
  trailingComma : Bool
  semicolon : Bool
  margins : Option (Nat → Margin)

/-- What stands in front of a comma or a semicolon. -/
def Layout.gap (y : Layout) : Text := if y.spacedMarks then [' '] else []

/-- A comma or a semicolon. -/
def Layout.mark (y : Layout) (c : Char) : Text := y.gap ++ [c]

/-- The words behind the original name. -/
def Specifier.renaming (s : Specifier) : List Text :=
  match s.renamed with
  | none => []
  | some name => ["as".toList, name.text]

/-- A name between braces as it is written. -/
def Specifier.text (s : Specifier) : Text :=
  (if s.isType then "type ".toList else []) ++ (s.name.text ++ spaced s.renaming)

/-- The names between braces with the commas behind them. -/
def entries (y : Layout) : List Specifier → List Text
  | [] => []
  | [s] => [s.text ++ if y.trailingComma then y.mark ',' else []]
  | s :: s' :: ss => (s.text ++ y.mark ',') :: entries y (s' :: ss)

/-- The lines of the names between braces, each behind its margin. -/
def entryLines (y : Layout) (margin : Nat → Margin) (ss : List Specifier) : List Text :=
  (entries y ss).mapIdx fun n e => (margin n).text ++ e

/-- The word `type`, in an import of types. -/
def typeWord (isType : Bool) : List Text := if isType then ["type".toList] else []

namespace Form

variable (i : Form) (y : Layout)

/-- The words between `import` and the braces or the namespace. -/
def head : List Text :=
  typeWord i.isType ++
    match i.clause with
    | .default name => [name.text]
    | .named default? _ | .star default? _ => default?.toList.map (·.text ++ y.mark ',')

/-- The braces or the namespace. -/
def body : List Text :=
  match i.clause with
  | .default _ => []
  | .named _ specifiers => [['{']] ++ entries y specifiers ++ [['}']]
  | .star _ name => ["*".toList, "as".toList, name.text]

/-- The `from` clause. -/
def fromClause : List Text :=
  ["from".toList, i.source.quote :: i.source.text ++ [i.source.quote] ++
    if y.semicolon then y.mark ';' else []]

/-- The import on one line. -/
def text : Text := "import".toList ++ spaced (i.head y ++ i.body y ++ i.fromClause y)

lemma text_def :
    i.text y = "import".toList ++ spaced (i.head y ++ i.body y ++ i.fromClause y) := rfl

/-- The line that ends in the opening brace. -/
def opening : Text := "import".toList ++ spaced (i.head y ++ [['{']])

lemma opening_def :
    i.opening y = "import".toList ++ spaced (i.head y ++ [['{']]) := rfl

/-- The line that starts with the closing brace. -/
def closing : Text := ['}'] ++ spaced (i.fromClause y)

/-- The lines of the import. -/
def print : List Text :=
  match y.margins, i.clause with
  | some margin, .named _ specifiers =>
    i.opening y :: (entryLines y margin specifiers ++ [i.closing y])
  | _, _ => [i.text y]

end Form

/-! ## The words of an import -/

lemma Name.isIdent_of_mem (n : Name) : ∀ c ∈ n.text, isIdent c :=
  List.all_eq_true.mp n.ident

lemma Name.bare (n : Name) : Bare n.text := by
  intro c hc
  rw [Bool.eq_false_iff]
  intro hblank
  exact ne_of_isIdent (n.isIdent_of_mem c hc) (isIdent_of_isBlank hblank) rfl

lemma Name.solid (n : Name) : Solid n.text := n.bare.solid n.ne_nil

@[simp] lemma Name.identifiers_text (n : Name) : identifiers n.text = [n.text] :=
  identifiers_of_isIdent n.ne_nil n.isIdent_of_mem

lemma Name.ne_keyword (n : Name) {k : Text} (hk : k ∈ keywords) : n.text ≠ k := by
  rintro rfl
  exact n.notKeyword hk

section Mark

variable (y : Layout) {c : Char}

lemma Layout.gap_cases : y.gap = [' '] ∨ y.gap = [] := by
  rw [Layout.gap]
  split_ifs
  · exact Or.inl rfl
  · exact Or.inr rfl

lemma Layout.solid_append_mark (hc : isBlank c = false) {t : Text} (ht : Solid t) :
    Solid (t ++ y.mark c) := by
  have hmark : Solid [c] := Bare.solid (by simpa [Bare] using hc) (List.cons_ne_nil _ _)
  have hgap : '\n' ∉ y.gap := by
    rcases y.gap_cases with h | h <;> simp [h]
  rw [Layout.mark, ← List.append_assoc]
  exact ht.append hgap hmark

lemma Layout.identifiers_append_mark (hc : isIdent c = false) (t : Text) :
    identifiers (t ++ y.mark c) = identifiers t := by
  have hblank : isIdent ' ' = false := by decide
  rw [Layout.mark, ← List.append_assoc, identifiers_append_cons _ hc, identifiers_nil,
    List.append_nil]
  rcases y.gap_cases with h | h
  · rw [h, identifiers_append_cons t hblank, identifiers_nil, List.append_nil]
  · rw [h, List.append_nil]

end Mark

section Words

/-! What holds of the names, and is kept by a comma, holds of all words in front of the `from`
clause. -/

variable {P : Text → Prop} {y : Layout} (hcomma : ∀ w, P w → P (w ++ y.mark ','))
include hcomma

lemma forall_mem_entries (hspecifier : ∀ s : Specifier, P s.text) (ss : List Specifier) :
    ∀ e ∈ entries y ss, P e := by
  intro e he
  fun_induction entries y ss with
  | case1 => exact absurd he List.not_mem_nil
  | case2 s =>
      obtain rfl := List.mem_singleton.mp he
      split_ifs
      · exact hcomma _ (hspecifier s)
      · rw [List.append_nil]
        exact hspecifier s
  | case3 s s' ss ih =>
      rcases List.mem_cons.mp he with rfl | he
      · exact hcomma _ (hspecifier s)
      · exact ih he

lemma Form.forall_mem_head (htype : P "type".toList) (hname : ∀ n : Name, P n.text) (i : Form) :
    ∀ w ∈ i.head y, P w := by
  intro w hw
  rw [head, List.mem_append] at hw
  rcases hw with hw | hw
  · rw [typeWord] at hw
    split_ifs at hw
    · obtain rfl := List.mem_singleton.mp hw
      exact htype
    · exact absurd hw List.not_mem_nil
  · split at hw
    · obtain rfl := List.mem_singleton.mp hw
      exact hname _
    all_goals
      obtain ⟨n, -, rfl⟩ := List.mem_map.mp hw
      exact hcomma _ (hname n)

end Words

/-- A word of an import in front of its `from` clause. -/
structure Word (w : Text) : Prop where
  solid : Solid w
  unquoted : w.head?.all fun c => !isQuote c
  no_from : "from".toList ∉ identifiers w

namespace Word

lemma ne_nil {w : Text} (h : Word w) : w ≠ [] := by
  rintro rfl
  exact absurd h.solid.2 (by decide)

lemma name (n : Name) : Word n.text := by
  refine ⟨n.solid, ?_, ?_⟩
  · cases htext : n.text with
    | nil => rfl
    | cons c t =>
        have hc := n.isIdent_of_mem c (by simp [htext])
        simp [isQuote, ne_of_isIdent hc (show isIdent '\'' = false by decide),
          ne_of_isIdent hc (show isIdent '"' = false by decide)]
  · rw [n.identifiers_text, List.mem_singleton]
    exact (n.ne_keyword (by decide)).symm

lemma append_spaced {w : Text} (hw : Word w) {ws : List Text} (hws : ∀ v ∈ ws, Word v) :
    Word (w ++ spaced ws) := by
  refine ⟨hw.solid.append_spaced fun v hv => (hws v hv).solid, ?_, ?_⟩
  · rw [List.head?_append_of_ne_nil _ hw.ne_nil]
    exact hw.unquoted
  · rw [identifiers_append_spaced, List.mem_append, List.mem_flatMap]
    rintro (h | ⟨v, hv, h⟩)
    · exact hw.no_from h
    · exact (hws v hv).no_from h

lemma append_comma (y : Layout) {w : Text} (hw : Word w) : Word (w ++ y.mark ',') := by
  refine ⟨y.solid_append_mark (by decide) hw.solid, ?_, ?_⟩
  · rw [List.head?_append_of_ne_nil _ hw.ne_nil]
    exact hw.unquoted
  · rw [y.identifiers_append_mark (by decide)]
    exact hw.no_from

lemma specifier (s : Specifier) : Word s.text := by
  have hrenaming : ∀ w ∈ s.renaming, Word w := by
    intro w hw
    cases hrenamed : s.renamed with
    | none => simp [Specifier.renaming, hrenamed] at hw
    | some n =>
        simp only [Specifier.renaming, hrenamed, List.mem_cons, List.not_mem_nil, or_false] at hw
        rcases hw with rfl | rfl
        · exact ⟨by decide, by decide, by decide⟩
        · exact name n
  have hname := (name s.name).append_spaced hrenaming
  rw [Specifier.text]
  split_ifs
  · have htype : Word "type".toList := ⟨by decide, by decide, by decide⟩
    have hword := htype.append_spaced (List.forall_mem_singleton.mpr hname)
    rwa [spaced_cons, spaced_nil, List.append_nil] at hword
  · exact hname

end Word

lemma word_of_mem_entries {y : Layout} {ss : List Specifier} {e : Text} (h : e ∈ entries y ss) :
    Word e :=
  forall_mem_entries (fun _ hw => hw.append_comma y) Word.specifier ss e h

namespace Form

variable (i : Form) (y : Layout)

lemma word_of_mem_head {w : Text} (h : w ∈ i.head y) : Word w := by
  have htype : Word "type".toList := ⟨by decide, by decide, by decide⟩
  exact forall_mem_head (fun _ hw => hw.append_comma y) htype Word.name i w h

lemma word_of_mem_body {w : Text} (h : w ∈ i.body y) : Word w := by
  rw [body] at h
  split at h
  · exact absurd h List.not_mem_nil
  · simp only [List.mem_append, List.mem_singleton] at h
    rcases h with (rfl | hentry) | rfl
    · exact ⟨by decide, by decide, by decide⟩
    · exact word_of_mem_entries hentry
    · exact ⟨by decide, by decide, by decide⟩
  · simp only [List.mem_cons, List.not_mem_nil, or_false] at h
    rcases h with rfl | rfl | rfl
    · exact ⟨by decide, by decide, by decide⟩
    · exact ⟨by decide, by decide, by decide⟩
    · exact Word.name _

/-- An import binds something. -/
lemma head_append_body_ne_nil : i.head y ++ i.body y ≠ [] := by
  intro h
  obtain ⟨hhead, hbody⟩ := List.append_eq_nil_iff.mp h
  obtain ⟨-, hdefault⟩ := List.append_eq_nil_iff.mp hhead
  rw [body] at hbody
  cases hclause : i.clause <;> simp [hclause] at hdefault hbody

lemma solid_of_mem_fromClause {w : Text} (h : w ∈ i.fromClause y) : Solid w := by
  simp only [fromClause, List.mem_cons, List.not_mem_nil, or_false] at h
  rcases h with rfl | rfl
  · decide
  · have hquote : isBlank i.source.quote = false := by
      rw [Bool.eq_false_iff]
      intro hblank
      exact absurd i.source.isQuote (by rw [visible_isQuote _ hblank]; decide)
    have hmark : Solid [i.source.quote] :=
      Bare.solid (by simpa [Bare] using hquote) (List.cons_ne_nil _ _)
    have hline : '\n' ∉ i.source.text := by
      intro hmem
      simpa using List.all_eq_true.mp i.source.plain '\n' hmem
    have hsource := hmark.append hline hmark
    split_ifs
    · exact y.solid_append_mark (by decide) hsource
    · rwa [List.append_nil]

/-! ## One statement -/

lemma solid_text : Solid (i.text y) := by
  have himport : Solid "import".toList := by decide
  refine himport.append_spaced fun w hw => ?_
  simp only [List.mem_append] at hw
  rcases hw with (hw | hw) | hw
  · exact (i.word_of_mem_head y hw).solid
  · exact (i.word_of_mem_body y hw).solid
  · exact i.solid_of_mem_fromClause y hw

lemma word_opening : Word (i.opening y) := by
  have himport : Word "import".toList := ⟨by decide, by decide, by decide⟩
  refine himport.append_spaced fun w hw => ?_
  rcases List.mem_append.mp hw with hw | hw
  · exact i.word_of_mem_head y hw
  · obtain rfl := List.mem_singleton.mp hw
    exact ⟨by decide, by decide, by decide⟩

lemma solid_closing : Solid (i.closing y) := by
  have hbrace : Solid ['}'] := by decide
  exact hbrace.append_spaced fun w hw => i.solid_of_mem_fromClause y hw

/-- A line of words starts an import when it has a word behind `import` that is not quoted. -/
lemma startsImport_of_word {w : Text} (hw : Word w) {ws : List Text}
    (hline : Solid ("import".toList ++ spaced (w :: ws))) :
    StartsImport ("import".toList ++ spaced (w :: ws)) := by
  obtain ⟨c, w, rfl⟩ := List.exists_cons_of_ne_nil hw.ne_nil
  have hblank : ¬ isBlank c := by simpa using hw.solid.2
  have hrest : trimStart (c :: w ++ spaced ws) = c :: w ++ spaced ws :=
    List.dropWhile_cons_of_neg hblank
  rw [← isStart_iff, hline.trim_eq, isStart, Option.any_eq_true]
  refine ⟨c :: w ++ spaced ws, keyword?_eq_some_iff.mpr ⟨' ', _, rfl, by decide, hrest.symm⟩, ?_⟩
  simpa using hw.unquoted

lemma not_infix_of_word {w : Text} (hw : Word w) : ¬ " from ".toList <:+: w := by
  rintro ⟨a, b, rfl⟩
  refine hw.no_from (mem_identifiers.mpr ⟨by decide, List.all_eq_true.mp (by decide),
    a ++ [' '], ' ' :: b, ?_, ?_, ?_⟩)
  · simp
  · simp; decide
  · simp; decide

lemma infix_text : " from ".toList <:+: i.text y := by
  obtain ⟨source, hsource⟩ : ∃ source, spaced (i.fromClause y) = " from ".toList ++ source :=
    ⟨_, rfl⟩
  refine ⟨"import".toList ++ spaced (i.head y ++ i.body y), source, ?_⟩
  rw [text_def, spaced_append _ (i.fromClause y), hsource]
  simp only [List.append_assoc]

lemma startsImport_text : StartsImport (i.text y) := by
  have hsolid := i.solid_text y
  obtain ⟨w, ws, hwords⟩ := List.exists_cons_of_ne_nil (i.head_append_body_ne_nil y)
  have hw : Word w := by
    have hmem : w ∈ i.head y ++ i.body y := hwords ▸ List.mem_cons_self
    rcases List.mem_append.mp hmem with hmem | hmem
    · exact i.word_of_mem_head y hmem
    · exact i.word_of_mem_body y hmem
  rw [text_def, hwords, List.cons_append] at hsolid ⊢
  exact startsImport_of_word hw hsolid

lemma startsImport_opening : StartsImport (i.opening y) := by
  have hsolid := (i.word_opening y).solid
  have hbrace : Word ['{'] := ⟨by decide, by decide, by decide⟩
  cases hhead : i.head y with
  | nil =>
      rw [opening_def, hhead] at hsolid ⊢
      exact startsImport_of_word hbrace hsolid
  | cons w ws =>
      rw [opening_def, hhead, List.cons_append] at hsolid ⊢
      exact startsImport_of_word (i.word_of_mem_head y (hhead ▸ List.mem_cons_self)) hsolid

lemma joinTrimmed_text : joinTrimmed [i.text y] = i.text y := by
  rw [joinTrimmed_singleton, (i.solid_text y).trim_eq]

section Lines

variable {i} {default? : Option Name} {ss : List Specifier} (margin : Nat → Margin)

lemma map_trim_entryLines (y : Layout) (ss : List Specifier) :
    (entryLines y margin ss).map trim = entries y ss := by
  rw [entryLines]
  refine List.ext_getElem (by simp) fun n _ hn => ?_
  have hword := word_of_mem_entries (List.getElem_mem hn)
  simp [trim_blank_append (margin n).blank, hword.solid.trim_eq]

lemma joinTrimmed_lines (hclause : i.clause = .named default? ss) :
    joinTrimmed (i.opening y :: (entryLines y margin ss ++ [i.closing y])) = i.text y := by
  rw [joinTrimmed_cons, (i.word_opening y).solid.trim_eq, List.map_append,
    map_trim_entryLines margin y ss, List.map_singleton, (i.solid_closing y).trim_eq]
  simp [text_def, opening_def, closing, body, hclause]

lemma completes_lines (hclause : i.clause = .named default? ss) (rest : List Text) :
    Completes [i.opening y] (entryLines y margin ss ++ [i.closing y]) rest := by
  refine ⟨fun k hk => ?_, Or.inr ?_⟩
  · -- the closing line is not among them, and no other has the word `from`
    rw [List.length_append, List.length_singleton] at hk
    rw [List.take_append_of_le_length (Nat.le_of_lt_succ hk), List.singleton_append,
      joinTrimmed_cons, (i.word_opening y).solid.trim_eq, List.map_take,
      map_trim_entryLines margin y ss]
    refine not_infix_of_word ((i.word_opening y).append_spaced fun w hw => ?_)
    exact word_of_mem_entries (List.take_subset _ _ hw)
  · rw [List.singleton_append, joinTrimmed_lines y margin hclause]
    exact i.infix_text y

end Lines

/-- **The printed lines are one statement**, and its text is the import on one line. -/
lemma print_is_statement :
    ∃ first more, i.print y = first :: more ∧ StartsImport first ∧
      joinTrimmed (first :: more) = i.text y ∧ ∀ rest, Completes [first] more rest := by
  rw [print]
  split
  · rename_i margin default? ss _ hclause
    exact ⟨_, _, rfl, i.startsImport_opening y, joinTrimmed_lines y margin hclause,
      completes_lines y margin hclause⟩
  · refine ⟨_, [], rfl, i.startsImport_text y, i.joinTrimmed_text y, fun rest => ⟨?_, Or.inr ?_⟩⟩
    · exact fun k hk => absurd hk (Nat.not_lt_zero k)
    · rw [List.append_nil, joinTrimmed_text]
      exact i.infix_text y

/-- Reading a printed import and then the lines below it. -/
lemma collect_print_append (rest : List Text) :
    collect (i.print y ++ rest)
      = ⟨i.text y, 1, (i.print y).length - 1⟩ :: (collect rest).map (lower (i.print y).length) := by
  obtain ⟨first, more, hprint, hstart, hjoin, hspan⟩ := i.print_is_statement y
  have hrest := collectFrom_add 0 (more.length + 1) 0 rest
  rw [Nat.zero_add, Nat.add_comm] at hrest
  rw [hprint, List.cons_append, collect, collectFrom_of_starts 0 hstart (hspan rest), hjoin,
    Nat.zero_add, Nat.zero_add, hrest, List.length_cons, Nat.add_sub_cancel, Nat.add_comm]
  rfl

end Form

end Import

end ReactLint
