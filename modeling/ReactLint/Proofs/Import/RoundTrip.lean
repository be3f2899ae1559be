import ReactLint.Proofs.Import.Printing

/-!
# Reading a printed import back

The names that an import binds are read off its text in three searches, each over the whole text and
by itself.

* The first brace of the text is the one that opens its list of names.  The list is cut at its
  commas; each part is trimmed and gives the name behind its last renaming (`entryName?_of_trim`).
* Behind `import`, and `type` if there is one, stands an identifier with a comma or the word `from`
  behind it just when the import has a default (`defaultBinding?_text`).
* The one asterisk of the text is the one of its namespace.

So reading inverts printing, in every layout and whatever lines follow.
-/

namespace ReactLint

open Text

namespace Import

open ImportStatement

namespace Name

variable (n : Name)

/-- A name is read to its end. -/
lemma identifier?_append {r : Text} (hr : ∀ c ∈ r.head?, isIdent c = false) :
    identifier? (n.text ++ r) = some (n.text, r) :=
  run?_append n.ne_nil n.isIdent_of_mem hr

/-- A name is not taken for a keyword, not even when it starts with one. -/
lemma keyword?_append {w : String} (hw : w.toList ∈ keywords) {r : Text}
    (hr : ∀ c ∈ r.head?, isIdent c = false) : keyword? w (n.text ++ r) = none := by
  have hident : ∀ k ∈ keywords, k ≠ [] ∧ k.all isIdent := by decide
  rw [Option.eq_none_iff_forall_ne_some]
  intro v hv
  obtain ⟨b, u, hsplit, hb, -⟩ := keyword?_eq_some_iff.mp hv
  -- the identifier that the text starts with is the name and the keyword
  have hname := n.identifier?_append hr
  rw [hsplit, identifier?, run?_append (hident _ hw).1 (List.all_eq_true.mp (hident _ hw).2)
    (by simpa using isIdent_of_isBlank hb)] at hname
  exact n.ne_keyword hw (Prod.mk.inj (Option.some.inj hname)).1.symm

lemma exists_cons : ∃ c t, n.text = c :: t ∧ isBlank c = false := by
  obtain ⟨c, t, htext⟩ := List.exists_cons_of_ne_nil n.ne_nil
  exact ⟨c, t, htext, n.bare c (htext ▸ List.mem_cons_self)⟩

lemma blanks?_append (r : Text) : blanks? (' ' :: (n.text ++ r)) = some (n.text ++ r) := by
  obtain ⟨c, t, htext, hc⟩ := n.exists_cons
  simp [blanks?, trimStart, htext, hc, show isBlank ' ' = true by decide]

end Name

/-! ## Names between braces -/

lemma afterAs?_eq (t : Text) : afterAs? t = (blanks? t).bind (keyword? "as") := by
  rw [afterAs?, Option.bind_assoc]
  rfl

/-- The text of a renaming that was found is passed over. -/
lemma afterRenamings_skip (last skipped r : Text) :
    afterRenamings last skipped.length (skipped ++ r) = afterRenamings last 0 r := by
  induction skipped with
  | nil => rfl
  | cons c skipped ih => exact ih

/-- There is no renaming inside a word. -/
lemma afterRenamings_bare {w : Text} (hw : Bare w) (last r : Text) :
    afterRenamings last 0 (w ++ r) = afterRenamings last 0 r := by
  induction w with
  | nil => rfl
  | cons c w ih =>
      have hc : afterAs? (c :: (w ++ r)) = none := by
        simp [afterAs?, blanks?, hw c List.mem_cons_self]
      rw [List.cons_append, afterRenamings_cons, hc]
      exact ih fun d hd => hw d (List.mem_cons_of_mem _ hd)

/-- A name behind a space is no renaming. -/
lemma afterRenamings_space_name (n : Name) (last : Text) {r : Text}
    (hr : ∀ c ∈ r.head?, isIdent c = false) :
    afterRenamings last 0 (' ' :: (n.text ++ r)) = afterRenamings last 0 r := by
  have hnone : afterAs? (' ' :: (n.text ++ r)) = none := by
    rw [afterAs?_eq, n.blanks?_append, Option.bind_some, n.keyword?_append (by decide) hr]
  rw [afterRenamings_cons, hnone]
  exact afterRenamings_bare n.bare last r

lemma afterRenamings_renaming (n : Name) (last : Text) :
    afterRenamings last 0 (spaced ["as".toList, n.text]) = n.text := by
  have hsome : afterAs? (' ' :: ("as ".toList ++ n.text)) = some n.text := by
    obtain ⟨c, t, htext, hc⟩ := n.exists_cons
    rw [htext]
    simp [afterAs?, blanks?, skip?, after?, trimStart, hc, show isBlank ' ' = true by decide,
      show isBlank 'a' = false by decide]
  have hlength : ("as ".toList ++ n.text).length - n.text.length = "as ".toList.length := by
    rw [List.length_append, Nat.add_sub_cancel]
  have hrest := afterRenamings_bare n.bare n.text []
  rw [List.append_nil] at hrest
  have hspaced : spaced ["as".toList, n.text] = ' ' :: ("as ".toList ++ n.text) := by simp
  rw [hspaced, afterRenamings_cons, hsome]
  dsimp only
  rw [hlength, afterRenamings_skip, hrest]
  rfl

/-- What stands behind the last renaming of a name between braces: what it is bound to. -/
lemma afterRenamings_specifier (s : Specifier) (last : Text) :
    afterRenamings last 0 s.text = (s.renamed.map Name.text).getD last := by
  have hrenaming : afterRenamings last 0 (spaced s.renaming)
      = (s.renamed.map Name.text).getD last := by
    rw [Specifier.renaming]
    cases s.renamed with
    | none => rfl
    | some n => exact afterRenamings_renaming n last
  have hhead : ∀ c ∈ (spaced s.renaming).head?, isIdent c = false := by
    rw [Specifier.renaming]
    cases s.renamed with
    | none => simp
    | some n => simp; decide
  rw [Specifier.text]
  split_ifs
  · have htype : Bare "type".toList := by decide
    rw [show "type ".toList = "type".toList ++ [' '] from rfl, List.append_assoc,
      afterRenamings_bare htype, List.singleton_append, afterRenamings_space_name _ _ hhead,
      hrenaming]
  · rw [List.nil_append, afterRenamings_bare s.name.bare, hrenaming]

lemma skip?_type_name (n : Name) : skip? "type " n.text = none := by
  rw [Option.eq_none_iff_forall_ne_some]
  intro r hr
  have hblank : ' ' ∈ n.text := by
    rw [after?_eq_some_iff.mp hr]
    simp
  exact ne_of_isIdent (n.isIdent_of_mem ' ' hblank) (by decide) rfl

/-- **One name between braces.**  Whatever blanks stand around it, the name read is the one that is
bound. -/
lemma entryName?_of_trim {s : Specifier} {entry : Text} (h : trim entry = s.text) :
    entryName? entry = some s.localName.text := by
  have hname (n : Name) : ¬ (n.text.isEmpty || n.text == "type".toList) = true := by
    have htype : (n.text == "type".toList) = false :=
      beq_eq_false_iff_ne.mpr (n.ne_keyword (by decide))
    rw [htype, Bool.or_false, List.isEmpty_iff]
    exact n.ne_nil
  rw [entryName?, h, afterRenamings_specifier]
  cases hrenamed : s.renamed with
  | some n =>
      rw [Specifier.localName, hrenamed, Option.map_some, Option.getD_some, n.solid.trim_eq,
        skip?_type_name]
      exact if_neg (hname n)
  | none =>
      have hlocal : s.localName = s.name := by rw [Specifier.localName, hrenamed]; rfl
      rw [hlocal, Option.map_none, Option.getD_none, (Word.specifier s).solid.trim_eq,
        Specifier.text, Specifier.renaming, hrenamed, spaced_nil, List.append_nil]
      cases s.isType with
      | false =>
          rw [if_neg Bool.false_ne_true, List.nil_append, skip?_type_name]
          exact if_neg (hname s.name)
      | true =>
          have hskip : skip? "type " ("type ".toList ++ s.name.text) = some s.name.text :=
            after?_append _ _
          rw [if_pos rfl, hskip, Option.map_some, Option.getD_some, s.name.solid.trim_eq]
          exact if_neg (hname s.name)

/-! ## The characters of an import -/

section Characters

variable {c : Char}

lemma notMem_of_isIdent {w : Text} (hw : w.all isIdent) (hc : isIdent c = false) : c ∉ w := by
  intro h
  exact ne_of_isIdent (List.all_eq_true.mp hw c h) hc rfl

/-- Words with spaces between them hold a character only if one of the words does. -/
lemma notMem_spaced (hc : c ≠ ' ') {ws : List Text} (hws : ∀ w ∈ ws, c ∉ w) : c ∉ spaced ws := by
  simp only [spaced, List.mem_flatMap, List.mem_cons, not_exists, not_and, not_or]
  exact fun w hw => ⟨hc, hws w hw⟩

lemma Layout.notMem_mark (y : Layout) {d : Char} (hc : c ≠ ' ') (hd : c ≠ d) : c ∉ y.mark d := by
  rw [Layout.mark]
  rcases y.gap_cases with h | h <;> simp [h, hc, hd]

lemma Specifier.notMem_text (s : Specifier) (hident : isIdent c = false) (hspace : c ≠ ' ') :
    c ∉ s.text := by
  have hname (n : Name) : c ∉ n.text := notMem_of_isIdent n.ident hident
  have hrenaming : ∀ w ∈ s.renaming, c ∉ w := by
    rw [Specifier.renaming]
    cases s.renamed with
    | none => simp
    | some n =>
        simp only [List.forall_mem_cons, List.not_mem_nil, false_implies, implies_true, and_true]
        exact ⟨notMem_of_isIdent (by decide) hident, hname n⟩
  have htype : c ∉ if s.isType then "type ".toList else [] := by
    split_ifs
    · rw [show "type ".toList = "type".toList ++ [' '] from rfl, List.mem_append, not_or]
      exact ⟨notMem_of_isIdent (by decide) hident, List.mem_singleton.not.mpr hspace⟩
    · exact List.not_mem_nil
  rw [Specifier.text, List.mem_append, List.mem_append, not_or, not_or]
  exact ⟨htype, hname s.name, notMem_spaced hspace hrenaming⟩

/-- What a mark is not. -/
structure Mark (c : Char) : Prop where
  notIdent : isIdent c = false
  notBlank : isBlank c = false
  notQuote : isQuote c = false
  ne_space : c ≠ ' '
  ne_comma : c ≠ ','
  ne_semicolon : c ≠ ';'

lemma mark_of_mem_marks (hc : c ∈ marks) : Mark c := by
  simp only [marks, List.mem_cons, List.not_mem_nil, or_false] at hc
  rcases hc with rfl | rfl | rfl
  all_goals exact ⟨by decide, by decide, by decide, by decide, by decide, by decide⟩

variable (hc : c ∈ marks)
include hc

lemma notMem_append_comma (y : Layout) {w : Text} (hw : c ∉ w) : c ∉ w ++ y.mark ',' := by
  have hmark := mark_of_mem_marks hc
  rw [List.mem_append, not_or]
  exact ⟨hw, y.notMem_mark hmark.ne_space hmark.ne_comma⟩

/-- No mark stands in an entry of the list or between entries. -/
lemma notMem_entries (y : Layout) (ss : List Specifier) : c ∉ spaced (entries y ss) := by
  have hmark := mark_of_mem_marks hc
  refine notMem_spaced hmark.ne_space ?_
  exact forall_mem_entries (fun _ hw => notMem_append_comma hc y hw)
    (fun s => s.notMem_text hmark.notIdent hmark.ne_space) ss

namespace Form

variable (i : Form) (y : Layout)

lemma notMem_head : c ∉ spaced (i.head y) := by
  have hmark := mark_of_mem_marks hc
  refine notMem_spaced hmark.ne_space ?_
  exact forall_mem_head (fun _ hw => notMem_append_comma hc y hw)
    (notMem_of_isIdent (by decide) hmark.notIdent)
    (fun n => notMem_of_isIdent n.ident hmark.notIdent) i

/-- The module of an import is quoted, and its name holds no marks. -/
lemma notMem_fromClause : c ∉ spaced (i.fromClause y) := by
  have hmark := mark_of_mem_marks hc
  have hquote : c ≠ i.source.quote := by
    rintro rfl
    exact Bool.false_ne_true (hmark.notQuote.symm.trans i.source.isQuote)
  have hsource : c ∉ i.source.text := by
    intro h
    have hplain := List.all_eq_true.mp i.source.plain c h
    simp [hc] at hplain
  have hsemicolon : c ∉ if y.semicolon then y.mark ';' else [] := by
    split_ifs
    · exact y.notMem_mark hmark.ne_space hmark.ne_semicolon
    · exact List.not_mem_nil
  refine notMem_spaced hmark.ne_space ?_
  simp only [fromClause, List.forall_mem_cons, List.not_mem_nil, false_implies, implies_true,
    and_true]
  refine ⟨notMem_of_isIdent (by decide) hmark.notIdent, ?_⟩
  simp only [List.cons_append, List.mem_cons, List.mem_append, List.not_mem_nil, or_false, not_or]
  exact ⟨hquote, ⟨hsource, hquote⟩, hsemicolon⟩

/-- A mark stands in neither the words in front of its clause nor those behind. -/
lemma notMem_around :
    c ∉ "import".toList ++ spaced (i.head y) ∧ c ∉ spaced (i.fromClause y) := by
  rw [List.mem_append, not_or]
  exact ⟨⟨notMem_of_isIdent (by decide) (mark_of_mem_marks hc).notIdent, i.notMem_head hc y⟩,
    i.notMem_fromClause hc y⟩

omit hc in
lemma text_append :
    i.text y = "import".toList ++ spaced (i.head y) ++ spaced (i.body y) ++ spaced (i.fromClause y)
    := by
  rw [text_def, spaced_append, spaced_append, List.append_assoc, List.append_assoc,
    List.append_assoc]

lemma notMem_text (hbody : c ∉ spaced (i.body y)) : c ∉ i.text y := by
  obtain ⟨hfront, hbehind⟩ := i.notMem_around hc y
  rw [text_append, List.mem_append, List.mem_append, not_or, not_or]
  exact ⟨⟨hfront, hbody⟩, hbehind⟩

end Form

end Characters

/-! ## The list between braces -/

lemma braces?_eq_none {t : Text} (ht : '{' ∉ t) : braces? t = none := by
  refine search?_eq_none (c := '{') (fun x d t hd => ?_) (fun x => rfl) ht
  simp [skip?, after?, Ne.symm hd]

/-- **The list between braces** is what stands between the first brace and the next that closes. -/
lemma braces?_append {a inner : Text} (ha : '{' ∉ a) (hne : inner ≠ []) (hinner : '}' ∉ inner)
    (b : Text) : braces? (a ++ '{' :: (inner ++ '}' :: b)) = some inner := by
  refine search?_append (c := '{') (fun x d t hd => ?_) ha fun x => ?_
  · simp [skip?, after?, Ne.symm hd]
  · have hrun : run? (· != '}') (inner ++ '}' :: b) = some (inner, '}' :: b) := by
      refine run?_append hne (fun c hc => ?_) (by simp)
      simp only [bne_iff_ne]
      rintro rfl
      exact hinner hc
    simp [skip?, after?, hrun, starts]

lemma splitOn_append_comma {u : Text} (hu : ',' ∉ u) (v : Text) :
    (u ++ ',' :: v).splitOn ',' = u :: v.splitOn ',' := by
  have hne : ∀ c ∈ u, (c == ',') = false := by
    intro c hc
    rw [beq_eq_false_iff_ne]
    rintro rfl
    exact hu hc
  rw [List.splitOn_eq_splitOnP, List.splitOn_eq_splitOnP,
    List.splitOnP_append_cons_of_forall_mem hne _ (by simp)]

/-- The blank in an empty list, or behind its last comma, is no name. -/
lemma filterMap_space : ([' '].splitOn ',').filterMap entryName? = [] := by decide

/-- The last name of the list, when no comma stands behind it. -/
lemma filterMap_specifier (s : Specifier) :
    ((' ' :: s.text ++ [' ']).splitOn ',').filterMap entryName? = [s.localName.text] := by
  have hcomma : ',' ∉ ' ' :: s.text ++ [' '] := by
    have := s.notMem_text (c := ',') (by decide) (by decide)
    simpa using this
  have htrim : trim (' ' :: s.text ++ [' ']) = s.text := by
    rw [trim_append_blank _ (by decide), trim_cons_blank (by decide),
      (Word.specifier s).solid.trim_eq]
  rw [List.splitOn_eq_singleton hcomma, List.filterMap_cons, entryName?_of_trim htrim,
    List.filterMap_nil]

/-- A name of the list with its comma, and what stands behind. -/
lemma filterMap_cons_comma (y : Layout) (s : Specifier) (v : Text) :
    ((' ' :: (s.text ++ y.mark ',') ++ v).splitOn ',').filterMap entryName?
      = s.localName.text :: (v.splitOn ',').filterMap entryName? := by
  have hcomma : ',' ∉ ' ' :: (s.text ++ y.gap) := by
    rw [List.mem_cons, List.mem_append, not_or, not_or]
    refine ⟨by decide, s.notMem_text (by decide) (by decide), ?_⟩
    rcases y.gap_cases with h | h <;> simp [h]
  have htrim : trim (' ' :: (s.text ++ y.gap)) = s.text := by
    rw [trim_cons_blank (by decide)]
    rcases y.gap_cases with h | h
    · rw [h, trim_append_blank _ (by decide), (Word.specifier s).solid.trim_eq]
    · rw [h, List.append_nil, (Word.specifier s).solid.trim_eq]
  have hsplit : ' ' :: (s.text ++ y.mark ',') ++ v = ' ' :: (s.text ++ y.gap) ++ ',' :: v := by
    simp [Layout.mark]
  rw [hsplit, splitOn_append_comma hcomma, List.filterMap_cons, entryName?_of_trim htrim]

/-- **The list between braces**, cut at its commas, gives the bound name of each of its entries. -/
lemma filterMap_entries (y : Layout) (ss : List Specifier) :
    ((spaced (entries y ss) ++ [' ']).splitOn ',').filterMap entryName?
      = ss.map (·.localName.text) := by
  fun_induction entries y ss with
  | case1 => exact filterMap_space
  | case2 s =>
      rw [spaced_cons, spaced_nil, List.append_nil, List.map_singleton]
      split_ifs
      · rw [filterMap_cons_comma, filterMap_space]
      · rw [List.append_nil, filterMap_specifier]
  | case3 s s' ss ih =>
      rw [spaced_cons, List.append_assoc, filterMap_cons_comma, ih]
      rfl

namespace Form

variable (i : Form) (y : Layout)

/-- The names between braces are read back. -/
lemma namedBindings_text :
    namedBindings (i.text y) = i.clause.specifiers.map (·.localName.text) := by
  have hopen : '{' ∈ marks := by decide
  cases hclause : i.clause with
  | default n =>
      have hbody : '{' ∉ spaced (i.body y) := by simp [body, hclause]
      rw [namedBindings, braces?_eq_none (i.notMem_text hopen y hbody)]
      rfl
  | star default? n =>
      have hname : '{' ∉ n.text := notMem_of_isIdent n.ident (by decide)
      have hbody : '{' ∉ spaced (i.body y) := by simp [body, hclause, hname]
      rw [namedBindings, braces?_eq_none (i.notMem_text hopen y hbody)]
      rfl
  | named default? ss =>
      have htext : i.text y = "import".toList ++ spaced (i.head y) ++ [' '] ++
          '{' :: (spaced (entries y ss) ++ [' '] ++ '}' :: spaced (i.fromClause y)) := by
        simp [text_append, body, hclause]
      have hfront : '{' ∉ "import".toList ++ spaced (i.head y) ++ [' '] := by
        rw [List.mem_append, not_or]
        exact ⟨(i.notMem_around hopen y).1, by decide⟩
      have hinner : '}' ∉ spaced (entries y ss) ++ [' '] := by
        rw [List.mem_append, not_or]
        exact ⟨notMem_entries (by decide) y ss, by decide⟩
      rw [namedBindings, htext, braces?_append hfront (by simp) hinner, Option.map_some,
        Option.getD_some, filterMap_entries]
      rfl

end Form

/-! ## The namespace -/

lemma namespaceBinding?_eq_none {t : Text} (ht : '*' ∉ t) : namespaceBinding? t = none := by
  refine search?_eq_none (c := '*') (fun x d t hd => ?_) (fun x => rfl) ht
  simp [skip?, after?, Ne.symm hd]

/-- The name of a namespace stands behind the one asterisk and `as`. -/
lemma namespaceBinding?_append {a : Text} (ha : '*' ∉ a) (n : Name) {b : Text}
    (hb : ∀ c ∈ b.head?, isIdent c = false) :
    namespaceBinding? (a ++ '*' :: ' ' :: ("as".toList ++ ' ' :: (n.text ++ b))) = some n.text := by
  refine search?_append (c := '*') (fun x d t hd => ?_) ha fun x => ?_
  · simp [skip?, after?, Ne.symm hd]
  · obtain ⟨c, t, htext, hc⟩ := n.exists_cons
    have hname := n.identifier?_append hb
    have hskip (v : Text) : skip? "*" ('*' :: v) = some v := after?_append "*".toList v
    have hblanks (v : Text) : blanks? (' ' :: ("as".toList ++ v)) = some ("as".toList ++ v) := rfl
    rw [htext, List.cons_append] at hname
    rw [htext, List.cons_append, hskip, Option.bind_some, hblanks, Option.bind_some,
      keyword?_append _ hc, Option.bind_some, hname, Option.map_some]

lemma Form.namespaceBinding?_text (i : Form) (y : Layout) :
    namespaceBinding? (i.text y) = i.clause.star?.map Name.text := by
  have hstar : '*' ∈ marks := by decide
  cases hclause : i.clause with
  | default n =>
      have hbody : '*' ∉ spaced (i.body y) := by simp [body, hclause]
      exact namespaceBinding?_eq_none (i.notMem_text hstar y hbody)
  | named default? ss =>
      have hentries := notMem_entries hstar y ss
      have hbody : '*' ∉ spaced (i.body y) := by simp [body, hclause, hentries]
      exact namespaceBinding?_eq_none (i.notMem_text hstar y hbody)
  | star default? n =>
      have htext : i.text y = "import".toList ++ spaced (i.head y) ++ [' '] ++
          '*' :: ' ' :: ("as".toList ++ ' ' :: (n.text ++ spaced (i.fromClause y))) := by
        simp [text_append, body, hclause]
      have hfront : '*' ∉ "import".toList ++ spaced (i.head y) ++ [' '] := by
        rw [List.mem_append, not_or]
        exact ⟨(i.notMem_around hstar y).1, by decide⟩
      rw [htext, namespaceBinding?_append hfront n (by simp [fromClause]; decide)]
      rfl

/-! ## The default -/

lemma defaultName?_append (n : Name) {r : Text} (hr : ∀ c ∈ r.head?, isIdent c = false)
    (hend : endsDefault r) : defaultName? (n.text ++ r) = some n.text := by
  rw [defaultName?, n.identifier?_append hr, Option.bind_some]
  exact if_pos hend

lemma defaultBinding?_name (isType : Bool) (n : Name) {r : Text}
    (hr : ∀ c ∈ r.head?, isIdent c = false) (hend : endsDefault r) :
    defaultBinding? ("import".toList ++ spaced (typeWord isType) ++ ' ' :: (n.text ++ r))
      = some n.text := by
  obtain ⟨c, t, htext, hc⟩ := n.exists_cons
  have hname := defaultName?_append n hr hend
  have hword := n.keyword?_append (w := "type") (by decide) hr
  have hfilter : (some n.text).filter (· != "type".toList) = some n.text := by
    rw [Option.filter_some, if_pos]
    exact bne_iff_ne.mpr (n.ne_keyword (by decide))
  rw [defaultBinding?, ← hfilter]
  congr 1
  cases isType with
  | false =>
      have himport : keyword? "import" ("import".toList ++ ' ' :: (n.text ++ r))
          = some (n.text ++ r) := by
        rw [htext, List.cons_append, Text.keyword?_append _ hc]
      rw [typeWord, if_neg Bool.false_ne_true, spaced_nil, List.append_nil, himport,
        Option.bind_some, hword, Option.bind_none, Option.none_or, hname]
  | true =>
      have himport : keyword? "import"
          ("import".toList ++ spaced ["type".toList] ++ ' ' :: (n.text ++ r))
          = some ("type".toList ++ ' ' :: (n.text ++ r)) := rfl
      have htype : keyword? "type" ("type".toList ++ ' ' :: (n.text ++ r))
          = some (n.text ++ r) := by
        rw [htext, List.cons_append, Text.keyword?_append _ hc]
      rw [typeWord, if_pos rfl, himport, Option.bind_some, htype, Option.bind_some, hname,
        Option.some_or]

/-- Without a default, a mark follows: it does not start a name, and the word `type` in front of it
does not end one. -/
lemma defaultBinding?_mark (isType : Bool) {c : Char} (hc : c ∈ marks) (v : Text) :
    defaultBinding? ("import".toList ++ spaced (typeWord isType) ++ ' ' :: c :: v) = none := by
  obtain ⟨hident, hblank, -, -, hcomma, -⟩ := mark_of_mem_marks hc
  have hfrom : 'f' ≠ c := ne_of_isIdent (by decide) hident
  have htype : 't' ≠ c := ne_of_isIdent (by decide) hident
  have hspace : isBlank ' ' = true := by decide
  have hname : defaultName? (c :: v) = none := by simp [defaultName?, identifier?, run?, hident]
  rw [defaultBinding?]
  cases isType with
  | false =>
      have hword : keyword? "type" (c :: v) = none := by simp [keyword?, skip?, after?, htype]
      rw [typeWord, if_neg Bool.false_ne_true, spaced_nil, List.append_nil,
        Text.keyword?_append _ hblank, Option.bind_some, hword, Option.bind_none, Option.none_or,
        hname, Option.filter_none]
  | true =>
      have himport : keyword? "import" ("import".toList ++ spaced ["type".toList] ++ ' ' :: c :: v)
          = some ("type".toList ++ ' ' :: c :: v) := rfl
      have hends : endsDefault (' ' :: c :: v) = false := by
        simp [endsDefault, blanks?, trimStart, starts, skip?, after?, hspace, hblank, hcomma.symm,
          hfrom]
      have hrun : identifier? ("type".toList ++ ' ' :: c :: v)
          = some ("type".toList, ' ' :: c :: v) :=
        run?_append (by decide) (List.all_eq_true.mp (by decide)) (by simp; decide)
      have hkeyword : defaultName? ("type".toList ++ ' ' :: c :: v) = none := by
        rw [defaultName?, hrun, Option.bind_some]
        exact if_neg (Bool.eq_false_iff.mp hends)
      rw [typeWord, if_pos rfl, himport, Option.bind_some, Text.keyword?_append _ hblank,
        Option.bind_some, hname, hkeyword, Option.none_or, Option.filter_none]

namespace Form

variable (i : Form) (y : Layout)

/-- A comma or the `from` clause stands behind the default. -/
lemma text_of_default {n : Name} (h : i.clause.default? = some n) :
    ∃ r, i.text y = "import".toList ++ spaced (typeWord i.isType) ++ ' ' :: (n.text ++ r) ∧
      (∀ c ∈ r.head?, isIdent c = false) ∧ endsDefault r := by
  have hcomma (v : Text) : (∀ c ∈ (y.mark ',' ++ v).head?, isIdent c = false) ∧
      endsDefault (y.mark ',' ++ v) := by
    rw [Layout.mark]
    rcases y.gap_cases with h | h
    · rw [h]
      exact ⟨by simp; decide, rfl⟩
    · rw [h]
      exact ⟨by simp; decide, rfl⟩
  cases hclause : i.clause with
  | default n' =>
      obtain rfl : n' = n := by simpa [hclause, Clause.default?] using h
      refine ⟨spaced (i.fromClause y), ?_, by simp [fromClause]; decide, rfl⟩
      simp [text_append, head, body, hclause]
  | named default? ss =>
      obtain rfl : default? = some n := by simpa [hclause, Clause.default?] using h
      refine ⟨y.mark ',' ++ (spaced (i.body y) ++ spaced (i.fromClause y)), ?_, hcomma _⟩
      simp [text_append, head, hclause]
  | star default? n' =>
      obtain rfl : default? = some n := by simpa [hclause, Clause.default?] using h
      refine ⟨y.mark ',' ++ (spaced (i.body y) ++ spaced (i.fromClause y)), ?_, hcomma _⟩
      simp [text_append, head, hclause]

/-- Without a default a brace or an asterisk comes first. -/
lemma text_of_no_default (h : i.clause.default? = none) :
    ∃ c ∈ marks, ∃ v,
      i.text y = "import".toList ++ spaced (typeWord i.isType) ++ ' ' :: c :: v := by
  cases hclause : i.clause with
  | default n => simp [hclause, Clause.default?] at h
  | named default? ss =>
      obtain rfl : default? = none := by simpa [hclause, Clause.default?] using h
      refine ⟨'{', by decide,
        spaced (entries y ss ++ [['}']]) ++ spaced (i.fromClause y), ?_⟩
      simp [text_append, head, body, hclause]
  | star default? n =>
      obtain rfl : default? = none := by simpa [hclause, Clause.default?] using h
      refine ⟨'*', by decide, spaced ["as".toList, n.text] ++ spaced (i.fromClause y), ?_⟩
      simp [text_append, head, body, hclause]

/-- The default is read back. -/
lemma defaultBinding?_text :
    defaultBinding? (i.text y) = i.clause.default?.map Name.text := by
  cases hdefault : i.clause.default? with
  | none =>
      obtain ⟨c, hc, v, htext⟩ := i.text_of_no_default y hdefault
      rw [htext, defaultBinding?_mark _ hc]
      rfl
  | some n =>
      obtain ⟨r, htext, hr, hend⟩ := i.text_of_default y hdefault
      rw [htext, defaultBinding?_name _ n hr hend]
      rfl

/-- **The names of a printed import are read back**: those between braces, the default and the
namespace. -/
lemma names_text : names (i.text y) = i.boundNames.map Name.text := by
  rw [names, namedBindings_text, defaultBinding?_text, namespaceBinding?_text, boundNames,
    List.map_append, List.map_append, List.map_map, Option.toList_map, Option.toList_map]
  rfl

end Form

/-- **Reading inverts printing.**  However an import is laid out and whatever lines follow, the
first statement is its printed lines and binds the names of the import, and the other statements are
those of the lines that follow. -/
theorem collect_print (i : Form) (y : Layout) (rest : List Text) :
    collect (i.print y ++ rest)
        = ⟨joinTrimmed (i.print y), 1, (i.print y).length - 1⟩ ::
          (collect rest).map (lower (i.print y).length) ∧
      names (joinTrimmed (i.print y)) = i.boundNames.map Name.text := by
  have hjoin : joinTrimmed (i.print y) = i.text y := by
    obtain ⟨first, more, hprint, -, hjoin, -⟩ := i.print_is_statement y
    rw [hprint, hjoin]
  rw [hjoin]
  exact ⟨i.collect_print_append y rest, i.names_text y⟩

/-- A default and a renamed type, on one line and with a line for each name between the braces. -/
example :
    let a : Name := ⟨"A".toList, by decide, by decide, by decide⟩
    let b : Name := ⟨"B".toList, by decide, by decide, by decide⟩
    let c : Name := ⟨"C".toList, by decide, by decide, by decide⟩
    let i : Form :=
      ⟨true, .named (some a) [⟨true, b, some c⟩, ⟨false, b, none⟩],
        ⟨'"', "./d".toList, by decide, by decide⟩⟩
    let line : Layout := ⟨false, true, false, none⟩
    let column : Layout := ⟨true, false, true, some fun _ => ⟨[' ', ' '], by decide, by decide⟩⟩
    i.print line = ["import type A, { type B as C, B, } from \"./d\"".toList] ∧
      i.print column = ["import type A , ".toList ++ ['{'], "  type B as C ,".toList, "  B".toList,
        '}' :: " from \"./d\" ;".toList] ∧
      i.boundNames.map Name.text = ["C".toList, "B".toList, "A".toList] := by
  decide

end Import

end ReactLint
