import ReactLint.Proofs.Block.Matcher
import ReactLint.Proofs.Finding.Category
import ReactLint.Proofs.Text.Identifier
import ReactLint.Proofs.Text.Place
import ReactLint.Proofs.Text.Token

/-!
# Functions as they are written

A function is a name, parameters and the lines of a body.  It is printed as a declaration or as an
arrow function bound to its name, with the brace of its body on the line of the header.

**The header.**  The only parentheses of a header are those of its parameters, so its name and its
parameters are read off it (`headerName?_header`, `paramCount_header`).  They close before the brace
of the body opens: braces and parentheses counted together, a header goes one deep
(`openDepth_header`).

**The block.**  A body that closes only what it opens never brings this depth to zero, and the
printed brace does (`blockLines_print`).  So a function takes the lines that it is printed on,
whatever follows it, and functions printed one after the other are found one after the other
(`collect_printAll`).
-/

namespace ReactLint

open Text

/-- Lines on which nothing is found only move the numbering. -/
lemma locateFrom_of_nothing {α : Type} {look : Text → List Text → List α} {ls : List Text}
    (h : ∀ l ∈ ls, ∀ below, look l below = []) (n : Nat) (rest : List Text) :
    locateFrom look n (ls ++ rest) = locateFrom look (n + ls.length) rest := by
  induction ls generalizing n with
  | nil => rfl
  | cons l ls ih =>
      obtain ⟨hl, hls⟩ := List.forall_mem_cons.mp h
      rw [List.cons_append, locateFrom, hl, ih hls, List.length_cons, Nat.add_assoc, Nat.add_comm 1]
      rfl

namespace FunctionBlock

/-! ## Syntax -/

/-- The characters that a function is shaped by. -/
def reserved : List Char := ['(', ')', '{', '}', '\n']

/-- Whether a text has none of them. -/
def isPlain (t : Text) : Bool := t.all fun c => !reserved.contains c

lemma isPlain_iff {t : Text} : isPlain t = true ↔ ∀ c ∈ reserved, c ∉ t := by
  simp only [isPlain, List.all_eq_true, Bool.not_eq_true', List.contains_eq_mem,
    decide_eq_false_iff_not]
  exact ⟨fun h c hc hmem => h c hmem hc, fun h c hmem hc => h c hc hmem⟩

lemma isPlain_of_isIdent {t : Text} (ht : ∀ c ∈ t, isIdent c) : isPlain t := by
  have hident : (reserved.all fun c => !isIdent c) = true := by decide
  refine isPlain_iff.mpr fun c hc hmem => ?_
  have hreserved := List.all_eq_true.mp hident c hc
  rw [ht c hmem] at hreserved
  contradiction

/-- A parameter, with whatever type or default it has. -/
structure Param where
  text : Text
  visible : isBlankText text = false
  plain : isPlain text
  no_comma : ',' ∉ text

/-- The lines of a body.  None is the header of another function, and they close what they open and
nothing else. -/
structure Body where
  lines : List Text
  no_newline : ∀ l ∈ lines, '\n' ∉ l
  no_header : ∀ l ∈ lines, headerName? l = none
  nested : ∀ k ≤ lines.length, 0 ≤ ((lines.take k).map (balance .braceOrParen)).sum
  closed : (lines.map (balance .braceOrParen)).sum = 0

/-- How a function is bound to its name. -/
inductive Form where
  | declaration
  | arrow

/-- A function to be written. -/
structure Written where
  form : Form
  name : Text
  ne_nil : name ≠ []
  ident : name.all isIdent
  params : List Param
  body : Body

/-! ## Printing -/

namespace Form

/-- The word before the name. -/
def keyword : Form → String
  | declaration => "function"
  | arrow => "const"

/-- What stands between the name and the parameters. -/
def binding : Form → Text
  | declaration => []
  | arrow => " = ".toList

/-- What stands behind the parameters. -/
def ending : Form → Text
  | declaration => [' ', '{']
  | arrow => " => ".toList ++ ['{']

/-- The last line of the function. -/
def closing : Form → Text
  | declaration => ['}']
  | arrow => ['}', ';']

end Form

namespace Written

/-- The parameters with commas between them. -/
def paramText (f : Written) : Text := ", ".toList.intercalate (f.params.map Param.text)

def opening (f : Written) : Text := f.form.keyword.toList ++ ' ' :: (f.name ++ f.form.binding)

/-- The parameters in their parentheses, and the brace of the body. -/
def signature (f : Written) : Text := '(' :: (f.paramText ++ ')' :: f.form.ending)

def header (f : Written) : Text := f.opening ++ f.signature

/-- The lines of the function. -/
def print (f : Written) : List Text := f.header :: (f.body.lines ++ [f.form.closing])

/-- The functions one after the other. -/
def printAll (fs : List Written) : List Text := fs.flatMap print

/-- The functions with the lines that they are printed from: each starts on the line after those
before it. -/
def placed (fs : List Written) : List (Located Written) :=
  fs.mapIdx fun k f => ⟨(printAll (fs.take k)).length + 1, f⟩

/-- The function as it is found in a file. -/
def block (f : Written) : FunctionBlock := ⟨f.name, f.header, f.print⟩

variable (f : Written)

/-! ## The header -/

lemma isIdent_of_mem : ∀ c ∈ f.name, isIdent c := List.all_eq_true.mp f.ident

lemma isPlain_opening : isPlain f.opening := by
  have hname : isPlain f.name := isPlain_of_isIdent f.isIdent_of_mem
  have hkeyword : isPlain f.form.keyword.toList := by cases f.form <;> decide
  have hbinding : isPlain f.form.binding := by cases f.form <;> decide
  have hspace : isPlain [' '] := by decide
  rw [opening, ← List.singleton_append]
  simp only [isPlain, List.all_append, Bool.and_eq_true]
  exact ⟨hkeyword, hspace, hname, hbinding⟩

lemma isPlain_paramText : isPlain f.paramText := by
  have hcomma : isPlain ", ".toList := by decide
  refine isPlain_iff.mpr fun c hc => notMem_intercalate (isPlain_iff.mp hcomma c hc) ?_
  intro t ht
  obtain ⟨p, -, rfl⟩ := List.mem_map.mp ht
  exact isPlain_iff.mp p.plain c hc

lemma solid_header : Solid f.header := by
  have hkeyword : Solid f.form.keyword.toList := by cases f.form <;> decide
  have hending : Solid (')' :: f.form.ending) := by cases f.form <;> decide
  have hopening := isPlain_iff.mp f.isPlain_opening '\n' (by decide)
  have hparams := isPlain_iff.mp f.isPlain_paramText '\n' (by decide)
  rw [opening, List.mem_append, not_or] at hopening
  have hbetween : '\n' ∉ (' ' :: (f.name ++ f.form.binding)) ++ '(' :: f.paramText := by
    rw [List.mem_append, not_or, List.mem_cons (b := '('), not_or]
    exact ⟨hopening.2, by decide, hparams⟩
  simpa [header, opening, signature] using hkeyword.append hbetween hending

lemma keyword?_header :
    keyword? f.form.keyword f.header = some (f.name ++ (f.form.binding ++ f.signature)) := by
  obtain ⟨c, w, hname⟩ := List.exists_cons_of_ne_nil f.ne_nil
  have hident : isIdent c := f.isIdent_of_mem c (by simp [hname])
  have hc : isBlank c = false := by
    rw [Bool.eq_false_iff]
    intro hblank
    exact Bool.false_ne_true ((isIdent_of_isBlank hblank).symm.trans hident)
  have hread := keyword?_append f.form.keyword hc (w ++ (f.form.binding ++ f.signature))
  simpa [header, opening, hname] using hread

lemma identifier?_name :
    identifier? (f.name ++ (f.form.binding ++ f.signature))
      = some (f.name, f.form.binding ++ f.signature) := by
  have hnext : ∀ (form : Form) (t : Text), ∀ c ∈ (form.binding ++ '(' :: t).head?,
      isIdent c = false := by
    rintro (_ | _) t c hc
    · obtain rfl : '(' = c := Option.some.inj hc
      decide
    · obtain rfl : ' ' = c := Option.some.inj hc
      decide
  exact run?_append f.ne_nil f.isIdent_of_mem (hnext _ _)

lemma exists_header : ∃ t, f.header = f.form.keyword.toList ++ ' ' :: t :=
  ⟨f.name ++ f.form.binding ++ f.signature, by simp [header, opening]⟩

lemma declaredName?_header (h : f.form = .declaration) : declaredName? f.header = some f.name := by
  have hkeyword := f.keyword?_header
  have hname := f.identifier?_name
  -- the keyword is none of the words that may stand before it
  have hoptional : optionalKeyword "async" (optionalKeyword "default"
      (optionalKeyword "export" f.header)) = f.header := by
    obtain ⟨t, ht⟩ := f.exists_header
    rw [ht, h]
    rfl
  rw [h, Form.keyword] at hkeyword
  rw [h] at hname
  rw [declaredName?, hoptional, hkeyword, Option.bind_some, calledName?, hname]
  rfl

lemma arrowName?_eq_none (h : f.form = .declaration) : arrowName? f.header = none := by
  obtain ⟨t, ht⟩ := f.exists_header
  rw [ht, h]
  rfl

lemma arrowName?_header (h : f.form = .arrow) : arrowName? f.header = some f.name := by
  have hkeyword := f.keyword?_header
  have hname := f.identifier?_name
  have hoptional : optionalKeyword "export" f.header = f.header := by
    obtain ⟨t, ht⟩ := f.exists_header
    rw [ht, h]
    rfl
  rw [h, Form.keyword] at hkeyword
  rw [h] at hname
  rw [arrowName?, hoptional, keywordAny?, List.findSome?_cons, hkeyword]
  dsimp only [Option.bind_eq_bind, Option.bind_some]
  rw [hname]
  rfl

lemma endsInArrow_header (h : f.form = .arrow) : endsInArrow f.header = true := by
  rw [endsInArrow, anywhere, List.any_eq_true]
  refine ⟨⟨some ' ', "=> ".toList ++ ['{']⟩, mem_places.mpr ?_, by decide⟩
  refine ⟨f.opening ++ '(' :: (f.paramText ++ [')']) ++ [' '], ?_, List.getLast?_concat.symm⟩
  have hending : f.form.ending = ' ' :: ("=> ".toList ++ ['{']) := by
    rw [h]
    rfl
  rw [header, signature, hending]
  simp only [List.append_assoc, List.cons_append, List.nil_append]

/-- The name is read off the header, in either form. -/
lemma headerName?_header : headerName? f.header = some f.name := by
  rw [headerName?, f.solid_header.trim_eq]
  cases hform : f.form with
  | declaration =>
      rw [f.arrowName?_eq_none hform, ite_self, Option.none_or, f.declaredName?_header hform]
  | arrow =>
      rw [f.endsInArrow_header hform, if_pos rfl, f.arrowName?_header hform, Option.some_or]

lemma headerName?_closing : headerName? f.form.closing = none := by
  cases f.form <;> decide

/-! ## The parameters -/

/-- Blanks behind commas belong to the entries that follow. -/
lemma intercalate_comma (p : Text) (ps : List Text) :
    ", ".toList.intercalate (p :: ps) = [','].intercalate (p :: ps.map (' ' :: ·)) := by
  induction ps generalizing p with
  | nil => simp
  | cons q ps ih =>
      rw [List.intercalate_cons_cons, ih, List.map_cons, List.intercalate_cons_cons]
      cases ps <;> simp

lemma countP_paramText :
    ((f.paramText.splitOn ',').countP fun p => !isBlankText p) = f.params.length := by
  rw [paramText]
  cases f.params with
  | nil => rfl
  | cons p ps =>
      have hcomma : ∀ t ∈ p.text :: (ps.map Param.text).map (' ' :: ·), ',' ∉ t := by
        simp [Param.no_comma]
      have hvisible : ∀ t ∈ p.text :: (ps.map Param.text).map (' ' :: ·), !isBlankText t := by
        have hblank (q : Param) : isBlankText (' ' :: q.text) = false := by
          rw [isBlankText, List.all_cons, ← isBlankText, q.visible, Bool.and_false]
        simp [p.visible, hblank]
      rw [List.map_cons, intercalate_comma,
        List.splitOn_intercalate _ hcomma (List.cons_ne_nil _ _),
        List.countP_eq_length.mpr hvisible]
      simp

/-- As many entries as there are parameters are read off the header. -/
lemma paramCount_header : paramCount f.header = f.params.length := by
  have hopening : f.header.dropWhile (· != '(') = f.signature := by
    have hpass : ∀ c ∈ f.opening, (c != '(') = true := by
      intro c hc
      exact bne_iff_ne.mpr
        (ne_of_mem_of_not_mem hc (isPlain_iff.mp f.isPlain_opening _ (by decide)))
    rw [header, List.dropWhile_append_of_pos hpass]
    rfl
  have hparams : (f.paramText ++ ')' :: f.form.ending).takeWhile (· != ')') = f.paramText := by
    have hpass : ∀ c ∈ f.paramText, (c != ')') = true := by
      intro c hc
      exact bne_iff_ne.mpr
        (ne_of_mem_of_not_mem hc (isPlain_iff.mp f.isPlain_paramText _ (by decide)))
    rw [List.takeWhile_append_of_pos hpass, List.takeWhile_cons_of_neg (by decide), List.append_nil]
  have hskip : skip? "(" f.signature = some (f.paramText ++ ')' :: f.form.ending) := rfl
  have hclosed : (f.paramText ++ ')' :: f.form.ending).contains ')' = true := by simp
  rw [paramCount, hopening, hskip]
  dsimp only
  rw [if_pos hclosed, hparams, f.countP_paramText]

/-! ## The block -/

/-- A text without braces and parentheses leaves the depth as it is. -/
lemma foldl_clampedStep_of_isPlain {t : Text} (ht : isPlain t) (depth : Nat) :
    t.foldl Delimiter.braceOrParen.clampedStep depth = depth := by
  induction t generalizing depth with
  | nil => rfl
  | cons c t ih =>
      rw [isPlain, List.all_cons, Bool.and_eq_true] at ht
      have hstep : Delimiter.braceOrParen.clampedStep depth c = depth := by
        have hc := ht.1
        simp only [reserved, List.contains_cons, Bool.not_or, Bool.and_eq_true, Bool.not_eq_true',
          beq_eq_false_iff_ne] at hc
        simp [Delimiter.clampedStep, Delimiter.isOpen, Delimiter.isClose, hc]
      rw [List.foldl_cons, hstep]
      exact ih ht.2 depth

/-- The parameters are closed on the header, and the body is open. -/
lemma openDepth_header : openDepth .braceOrParen f.header = 1 := by
  have hcode : isCommentLine f.header = false := by
    obtain ⟨t, ht⟩ := f.exists_header
    rw [isCommentLine, f.solid_header.trim_eq, ht]
    cases f.form <;> rfl
  have hopening := foldl_clampedStep_of_isPlain f.isPlain_opening
  have hparams := foldl_clampedStep_of_isPlain f.isPlain_paramText
  have hending : f.form.ending.foldl Delimiter.braceOrParen.clampedStep 0 = 1 := by
    cases f.form <;> rfl
  rw [openDepth, hcode, if_neg Bool.false_ne_true, header, List.foldl_append, hopening, signature,
    List.foldl_cons, List.foldl_append, hparams, List.foldl_cons]
  exact hending

lemma balance_closing : balance .braceOrParen f.form.closing = -1 := by
  cases f.form <;> rfl

/-- The block of a printed function is what was printed, whatever follows. -/
lemma blockLines_print (rest : List Text) :
    blockLines .braceOrParen f.header (f.body.lines ++ f.form.closing :: rest) = f.print := by
  have hopen : ∀ k ≤ f.body.lines.length,
      0 < (1 : Int) + ((f.body.lines.take k).map (balance .braceOrParen)).sum := by
    intro k hk
    have := f.body.nested k hk
    omega
  have hextent : extent .braceOrParen (f.header :: (f.body.lines ++ f.form.closing :: rest))
      = f.body.lines.length + 1 := by
    rw [extent, f.openDepth_header, if_neg Nat.one_ne_zero, Nat.cast_one,
      closingExtent_append _ hopen, f.body.closed, closingExtent, f.balance_closing]
    rfl
  have hprint : f.header :: (f.body.lines ++ f.form.closing :: rest) = f.print ++ rest := by
    simp [print]
  rw [blockLines, hextent, hprint]
  exact List.take_left' (by simp [print])

/-! ## Functions one after the other -/

/-- **One function.**  It is found on its header, nothing is found on its other lines, and the
search goes on below it. -/
lemma locateFrom_print (n : Nat) (rest : List Text) :
    locateFrom (fun l ls => (startingAt? l ls).toList) n (f.print ++ rest) = ⟨n, f.block⟩ ::
      locateFrom (fun l ls => (startingAt? l ls).toList) (n + f.print.length) rest := by
  have hblock : startingAt? f.header (f.body.lines ++ f.form.closing :: rest) = some f.block := by
    rw [startingAt?, f.headerName?_header, f.blockLines_print]
    rfl
  have hbelow : ∀ l ∈ f.body.lines ++ [f.form.closing], ∀ ls, (startingAt? l ls).toList = [] := by
    have hnone : ∀ l ∈ f.body.lines ++ [f.form.closing], headerName? l = none := by
      simpa [or_imp, forall_and] using ⟨f.body.no_header, f.headerName?_closing⟩
    intro l hl ls
    rw [startingAt?, hnone l hl]
    rfl
  have hprint : f.print ++ rest = f.header :: (f.body.lines ++ [f.form.closing] ++ rest) := rfl
  have hlength : n + 1 + (f.body.lines ++ [f.form.closing]).length = n + f.print.length := by
    simp [print]
    omega
  rw [hprint, locateFrom, locateFrom_of_nothing hbelow, hlength, List.append_assoc,
    List.singleton_append, hblock]
  rfl

/-- **All functions**, by induction on the functions that are still to come. -/
lemma locateFrom_printAll (fs : List Written) (n : Nat) :
    locateFrom (fun l ls => (startingAt? l ls).toList) n (printAll fs)
      = fs.mapIdx fun k f => ⟨(printAll (fs.take k)).length + n, f.block⟩ := by
  induction fs generalizing n with
  | nil => rfl
  | cons f fs ih =>
      rw [printAll, List.flatMap_cons, ← printAll, f.locateFrom_print, ih, List.mapIdx_cons]
      congr 1
      · simp [printAll]
      · refine congrArg (List.mapIdx · fs) ?_
        funext k g
        simp [printAll]
        omega

/-- Printed functions are found as they were printed, each on its own line. -/
lemma collect_printAll (fs : List Written) :
    collect (printAll fs) = (placed fs).map fun p => ⟨p.line, p.item.block⟩ := by
  rw [collect, locate, locateFrom_printAll, placed, List.mapIdx_eq_zipIdx_map,
    List.mapIdx_eq_zipIdx_map, List.map_map]
  rfl

lemma newline_notMem_printAll (fs : List Written) : ∀ l ∈ printAll fs, '\n' ∉ l := by
  intro l hl
  obtain ⟨f, -, hl⟩ := List.mem_flatMap.mp hl
  rw [print, List.mem_cons, List.mem_append, List.mem_singleton] at hl
  rcases hl with rfl | hl | rfl
  · exact f.solid_header.1.1
  · exact f.body.no_newline l hl
  · cases f.form <;> decide

lemma collect_lines_unlines (fs : List Written) :
    collect (Text.lines (unlines (printAll fs))) = collect (printAll fs) := by
  cases fs with
  | nil => rfl
  | cons f fs =>
      have hne : printAll (f :: fs) ≠ [] := by simp [printAll, print]
      rw [lines_unlines hne (newline_notMem_printAll _)]

end Written

end FunctionBlock

/-! ## The report -/

open FunctionBlock Written

lemma longFunctions_collect (t : Thresholds) (fs : List Written) :
    Rule.longFunctions t (collect (printAll fs)) =
      ((placed fs).filter fun p => t.functionLines - 2 < (p.item.body.lines.length : Int)).map
        fun p => ⟨p.line, p.item.name, p.item.body.lines.length + 2⟩ := by
  have hlength (f : Written) : f.block.length = f.body.lines.length + 2 := by
    simp [FunctionBlock.length, block, print]
  rw [Rule.longFunctions, collect_printAll, List.filter_map, List.map_map]
  simp only [Function.comp_def, hlength, Int.natCast_add, Int.sub_lt_iff]
  rfl

lemma manyParams_collect (t : Thresholds) (fs : List Written) :
    Rule.manyParams t (collect (printAll fs)) =
      ((placed fs).filter fun p => t.params < (p.item.params.length : Int)).map
        fun p => ⟨p.line, p.item.name, p.item.params.length⟩ := by
  have hcount (f : Written) : paramCount f.block.header = f.params.length := f.paramCount_header
  rw [Rule.manyParams, collect_printAll, List.map_map, List.filter_map]
  simp only [Function.comp_def, hcount]
  rfl

/-- **Printed functions are found again.**  Functions printed one after the other are found in their
order, each on the line of its header, with its name and the lines that it was printed on, and as
many parameters are counted on its header as it has.

A file of such functions is reported for its long functions when some body has more lines than the
limit leaves beside the header and the closing line, and for its parameters when some function has
more of them than the limit.  Just these functions are listed, and the issue stands on the first. -/
theorem printed_functions_found (fs : List Written) :
    collect (printAll fs) = (placed fs).map (fun p => ⟨p.line, p.item.block⟩) ∧
    (∀ f : Written, paramCount f.header = f.params.length) ∧
    ∀ (t : Thresholds) (path : Text),
      let issues := Rule.functions.check t ⟨path, unlines (printAll fs)⟩
      let long : List (Located Measured) := ((placed fs).filter fun p =>
        t.functionLines - 2 < (p.item.body.lines.length : Int)).map fun p =>
          ⟨p.line, p.item.name, p.item.body.lines.length + 2⟩
      let wide : List (Located Measured) := ((placed fs).filter fun p =>
        t.params < (p.item.params.length : Int)).map fun p =>
          ⟨p.line, p.item.name, p.item.params.length⟩
      issues.filter (·.category = "long-function") =
        (long.head?.map fun f => (⟨f.line, (Diagnosis.longFunctions long).message, .warn,
          "long-function", false⟩ : Issue)).toList ∧
      issues.filter (·.category = "too-many-params") =
        (wide.head?.map fun f => (⟨f.line, (Diagnosis.manyParams wide).message, .warn,
          "too-many-params", false⟩ : Issue)).toList := by
  refine ⟨collect_printAll fs, paramCount_header, ?_⟩
  intro t path issues long wide
  have hdiagnose : Rule.functions.diagnose t ⟨path, unlines (printAll fs)⟩ =
      [.longFunctions long, .similarHandlers (Rule.similarHandlers (collect (printAll fs))),
        .manyParams wide] := by
    rw [Rule.diagnose, Rule.diagnoseFunctions, Source.lines, collect_lines_unlines,
      longFunctions_collect, manyParams_collect]
  have hlong : Diagnosis.longFunctions long ∈
      Rule.functions.diagnose t ⟨path, unlines (printAll fs)⟩ := by simp [hdiagnose]
  have hwide : Diagnosis.manyParams wide ∈
      Rule.functions.diagnose t ⟨path, unlines (printAll fs)⟩ := by simp [hdiagnose]
  have hlongAnchors : (Diagnosis.longFunctions long).anchors = long.map Located.line := rfl
  have hwideAnchors : (Diagnosis.manyParams wide).anchors = wide.map Located.line := rfl
  constructor
  · refine (filter_check_anchored hlong rfl).trans ?_
    rw [hlongAnchors, List.head?_map, Option.map_map]
    rfl
  · refine (filter_check_anchored hwide rfl).trans ?_
    rw [hwideAnchors, List.head?_map, Option.map_map]
    rfl

/-- An arrow function over four lines, with a block in its body. -/
example :
    let f : Written :=
      ⟨.arrow, "onSave".toList, by decide, by decide,
        [⟨"id".toList, by decide, by decide, by decide⟩,
          ⟨"at = now".toList, by decide, by decide, by decide⟩],
        ⟨["  if (id) ".toList ++ ['{'], [' ', ' ', '}']], by decide, by decide, by decide,
          by decide⟩⟩
    f.print = ["const onSave = (id, at = now) => ".toList ++ ['{'], "  if (id) ".toList ++ ['{'],
      [' ', ' ', '}'], ['}', ';']] := by
  decide

end ReactLint
