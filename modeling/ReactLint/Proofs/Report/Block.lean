import ReactLint.Proofs.Report.Order
import ReactLint.Proofs.Text.Token
import ReactLint.Report.Markdown
import ReactLint.Report.Plain

/-!
# Blocks of a report

Both reports give each issue a block of lines: a heading, and below it the message.  This file says
what a block shows and where it ends.

**What a block shows.**  A block is read back by looking at its lines alone (`read?`).  Its heading
tells the line, when the issue is on one, how grave the issue is and its category; the other lines
hold the message.  In Markdown the words of the heading are in title case, and a category may look
like a line there, so it has to be known which section the block stands in.

**Where a block ends.**  No block is the beginning of a longer one (`Delimited`): a plain block ends
at the first empty line, since the lines of a message are indented, and a block in Markdown has four
lines.
-/

namespace ReactLint.Report

open Text

/-- What a block shows of an issue. -/
structure Shown where
  line : Option Int
  severity : String
  category : String
  message : String
  deriving DecidableEq, Repr

/-- What there is to show of an issue, its line unless it is about the file; `words` is how severity
and category are put. -/
def shownOf (words : String → String) (i : Issue) : Shown :=
  ⟨if i.fileLevel then none else some i.line, words i.severity.label, words i.category, i.message⟩

/-! ## Lines of headings -/

/-- The integer that a heading gives as a line. -/
def readLine? : Text → Option Int
  | '-' :: t => (readAscii? t).map fun (n : Nat) => -(n : Int)
  | t => (readAscii? t).map fun (n : Nat) => (n : Int)

lemma readLine?_digits (n : Nat) : readLine? (toString n).toList = some (n : Int) := by
  have hread := readAscii?_toString n
  cases hdigits : (toString n).toList with
  | nil => exact absurd hdigits (toString_ne_nil n)
  | cons c t =>
      have hc : c ≠ '-' := by
        rintro rfl
        exact notMem_toString rfl n (by rw [hdigits]; exact List.mem_cons_self)
      rw [hdigits] at hread
      rw [readLine?, hread, Option.map_some]
      intro u hu
      exact hc (List.cons.inj hu).1

lemma toList_negSucc (n : Nat) :
    (toString (Int.negSucc n)).toList = '-' :: (toString (n + 1)).toList :=
  String.toList_append (s := "-")

/-- **A line is read back**, whatever integer it is. -/
lemma readLine?_toString (z : Int) : readLine? (toString z).toList = some z := by
  cases z with
  | ofNat n => exact readLine?_digits n
  | negSucc n =>
      rw [toList_negSucc, readLine?, readAscii?_toString]
      rfl

lemma ne_blank_of_mem_toString {z : Int} {c : Char} (h : c ∈ (toString z).toList) :
    (c != ' ') = true := by
  have hdigit {n : Nat} (h : c ∈ (toString n).toList) : (c != ' ') = true := by
    rw [bne_iff_ne]
    rintro rfl
    exact notMem_toString rfl n h
  cases z with
  | ofNat n => exact hdigit h
  | negSucc n =>
      rw [toList_negSucc] at h
      rcases List.mem_cons.mp h with rfl | h
      · rfl
      · exact hdigit h

lemma toString_int_ne_nil (z : Int) : (toString z).toList ≠ [] := by
  cases z with
  | ofNat n => exact toString_ne_nil n
  | negSucc n =>
      rw [toList_negSucc]
      exact List.cons_ne_nil _ _

/-- The line of a heading ends at the blank behind it. -/
lemma run?_line (z : Int) {r : Text} (hr : r.head? = some ' ') :
    run? (· != ' ') ((toString z).toList ++ r) = some ((toString z).toList, r) := by
  refine run?_append (toString_int_ne_nil z) (fun c hc => ne_blank_of_mem_toString hc) ?_
  rw [hr]
  rintro c ⟨⟩
  rfl

section Blocks

variable {α : Type}

/-- Blocks show where they end: none is empty, and no block is the beginning of a longer one. -/
structure Delimited (block : α → List String) : Prop where
  ne_nil : ∀ a, block a ≠ []
  eq_of_append : ∀ a b r s, block a ++ r = block b ++ s → block a = block b

/-- The block of an element, one kind for those about the whole and one for the others. -/
def blockOf (whole : α → Bool) (about inline : α → List String) (a : α) : List String :=
  if whole a then about a else inline a

lemma blockOf_of_mem_filter {whole : α → Bool} {about inline : α → List String} {xs : List α}
    {a : α} (ha : a ∈ xs.filter whole) : about a = blockOf whole about inline a := by
  rw [blockOf, if_pos (List.mem_filter.mp ha).2]

lemma blockOf_of_mem_sortBy {whole : α → Bool} {about inline : α → List String} {line : α → Int}
    {xs : List α} {a : α} (ha : a ∈ sortBy line (inlineOf whole xs)) :
    inline a = blockOf whole about inline a := by
  have hinline := (List.mem_filter.mp (mem_sortBy.mp ha)).2
  rw [blockOf, if_neg (by simpa using hinline)]

end Blocks

/-! ## Plain text -/

namespace Plain

/-- The block of an issue. -/
def block : Issue → List String := blockOf Issue.fileLevel fileBlock lineBlock

/-- The severity in brackets, of which the first has been read, and the category behind it. -/
def readLabels? (t : Text) : Option (String × String) := do
  let (severity, t) ← run? (· != ']') t
  let category ← skip? "] " t
  return (String.ofList severity, String.ofList category)

/-- The line, the severity and the category that a heading tells. -/
def readHeading? (t : Text) : Option (Option Int × String × String) :=
  match skip? "  Line " t with
  | some t => do
    let (line, t) ← run? (· != ' ') t
    let line ← readLine? line
    let labels ← (skip? " [" t).bind readLabels?
    return (some line, labels)
  | none => ((skip? "  [" t).bind readLabels?).map fun labels => (none, labels)

/-- The message that indented lines hold. -/
def readMessage? (lines : List String) : Option String :=
  (lines.mapM fun l => skip? "    " l.toList).map fun ls => String.ofList (unlines ls)

/-- What a block shows. -/
def read? : List String → Option Shown
  | [] => none
  | heading :: rest => do
    let (line, severity, category) ← readHeading? heading.toList
    let message ← readMessage? rest.dropLast
    return ⟨line, severity, category, message⟩

/-- The bracket behind the severity ends it. -/
lemma readLabels?_append (s : Severity) (category : String) :
    readLabels? (s.label.toList ++ ("] ".toList ++ category.toList))
      = some (s.label, category) := by
  have hrun : run? (· != ']') (s.label.toList ++ ("] ".toList ++ category.toList))
      = some (s.label.toList, "] ".toList ++ category.toList) := by
    refine run?_append (by cases s <;> decide) (List.all_eq_true.mp (by cases s <;> decide)) ?_
    rintro c ⟨⟩
    rfl
  simp only [readLabels?, hrun, skip?_self, Option.bind_eq_bind, Option.bind_some,
    String.ofList_toList]
  rfl

/-- The indentation is taken away, and the lines are put together again. -/
lemma readMessage?_messageLines (message : String) :
    readMessage? (messageLines message) = some message := by
  have hread (l : Text) : skip? "    " ("    " ++ String.ofList l).toList = some l := by
    rw [String.toList_append, skip?_self, String.toList_ofList]
  have hlines : (messageLines message).mapM (fun l => skip? "    " l.toList)
      = some (lines message.toList) := mapM_map_eq_some fun l _ => hread l
  rw [readMessage?, hlines, Option.map_some, unlines_lines, String.ofList_toList]

lemma read?_of_heading {heading : String} {line : Option Int} {severity category : String}
    (h : readHeading? heading.toList = some (line, severity, category)) (message : String) :
    read? (heading :: (messageLines message ++ [""]))
      = some ⟨line, severity, category, message⟩ := by
  simp only [read?, h, List.dropLast_concat, readMessage?_messageLines, Option.bind_eq_bind,
    Option.bind_some]
  rfl

/-- **A plain block shows its issue.** -/
lemma read?_block (i : Issue) : read? (block i) = some (shownOf id i) := by
  rw [block, blockOf, shownOf]
  have hlabels := readLabels?_append i.severity i.category
  split_ifs with hwhole
  · refine read?_of_heading ?_ i.message
    have htext : (s!"  [{i.severity.label}] {i.category}").toList
        = "  [".toList ++ (i.severity.label.toList ++ ("] ".toList ++ i.category.toList)) := by
      simp [toString]
    have hbracket : skip? "  Line " ("  [".toList ++
        (i.severity.label.toList ++ ("] ".toList ++ i.category.toList))) = none := rfl
    rw [htext, readHeading?, hbracket, skip?_self, Option.bind_some, hlabels, Option.map_some]
    rfl
  · refine read?_of_heading ?_ i.message
    have htext : (s!"  Line {i.line} [{i.severity.label}] {i.category}").toList
        = "  Line ".toList ++ ((toString i.line).toList ++ (" [".toList ++
          (i.severity.label.toList ++ ("] ".toList ++ i.category.toList)))) := by
      simp [toString]
    rw [htext, readHeading?, skip?_self]
    simp only [run?_line i.line (r := " [".toList ++ _) rfl, readLine?_toString, skip?_self,
      Option.bind_eq_bind, Option.bind_some, hlabels]
    rfl

/-! ### Ends -/

lemma exists_block (i : Issue) : ∃ t, block i = t :: (messageLines i.message ++ [""]) := by
  rw [block, blockOf]
  split_ifs
  · exact ⟨_, rfl⟩
  · exact ⟨_, rfl⟩

lemma takeWhile_messageLines (message : String) (rest : List String) :
    (messageLines message ++ ([""] ++ rest)).takeWhile (· ≠ "") = messageLines message := by
  have hindented : ∀ l ∈ messageLines message, decide (l ≠ "") = true := by simp [messageLines]
  rw [List.takeWhile_append_of_pos hindented]
  simp

/-- The lines of a message are indented, so the empty line behind them ends the block. -/
lemma delimited_block : Delimited block := by
  refine ⟨fun i => ?_, fun i j r s h => ?_⟩
  · obtain ⟨t, ht⟩ := exists_block i
    rw [ht]
    exact List.cons_ne_nil _ _
  · obtain ⟨t, ht⟩ := exists_block i
    obtain ⟨u, hu⟩ := exists_block j
    rw [ht, hu, List.cons_append, List.cons_append, List.append_assoc, List.append_assoc] at h
    obtain ⟨rfl, hlines⟩ := List.cons.inj h
    have hmessage := congrArg (List.takeWhile (· ≠ "")) hlines
    rw [takeWhile_messageLines, takeWhile_messageLines] at hmessage
    rw [ht, hu, hmessage]

/-- A block begins with a blank, and no line of a frame does. -/
lemma head?_block_ne {l : String} (hl : l.toList.head? ≠ some ' ') (i : Issue) :
    (block i).head? ≠ some l := by
  have hblank : ∀ t ∈ (block i).head?, t.toList.head? = some ' ' := by
    rw [block, blockOf]
    split_ifs
    · simp [fileBlock, toString]
    · simp [lineBlock, toString]
  intro hhead
  exact hl (hblank l hhead)

end Plain

/-! ## Markdown -/

namespace Markdown

/-- The block of a note. -/
def block : Note → List String := blockOf Note.fileLevel fileBlock lineBlock

/-- The category and the severity at the end of a heading, read from there: the severity is one
word. -/
def readTitles? (t : Text) : Option (String × String) := do
  let t ← skip? "**" t.reverse
  let (severity, t) ← run? (· != ' ') t
  let category ← skip? " · " t
  return (String.ofList severity.reverse, String.ofList category.reverse)

/-- The line, the severity and the category that a heading tells, in the section about the file or
in the other. -/
def readHeading? (whole : Bool) (t : Text) : Option (Option Int × String × String) := do
  let t ← skip? "**" t
  if whole then (readTitles? t).map fun titles => (none, titles)
  else
    let t ← skip? "Line " t
    let (line, t) ← run? (· != ' ') t
    let line ← readLine? line
    let titles ← (skip? " · " t).bind readTitles?
    return (some line, titles)

/-- What a block shows, in the section about the file or in the other. -/
def read? (whole : Bool) : List String → Option Shown
  | [heading, _, message, _] =>
    (readHeading? whole heading.toList).map fun (line, severity, category) =>
      ⟨line, severity, category, message⟩
  | _ => none

/-- Nothing in the category can be taken for the severity, as that is read first. -/
lemma readTitles?_append (category : String) (s : Severity) :
    readTitles? (category.toList ++ (" · ".toList ++ ((titleCase s.label).toList ++ "**".toList)))
      = some (titleCase s.label, category) := by
  have hback : (category.toList ++
      (" · ".toList ++ ((titleCase s.label).toList ++ "**".toList))).reverse
      = "**".toList ++ ((titleCase s.label).toList.reverse ++
        (" · ".toList ++ category.toList.reverse)) := by
    simp
  have hrun : run? (· != ' ') ((titleCase s.label).toList.reverse ++
      (" · ".toList ++ category.toList.reverse))
      = some ((titleCase s.label).toList.reverse, " · ".toList ++ category.toList.reverse) := by
    refine run?_append (by cases s <;> decide) (List.all_eq_true.mp (by cases s <;> decide)) ?_
    rintro c ⟨⟩
    rfl
  simp only [readTitles?, hback, hrun, skip?_self, Option.bind_eq_bind, Option.bind_some,
    List.reverse_reverse, String.ofList_toList]
  rfl

lemma readHeading?_whole (s : Severity) (category : String) :
    readHeading? true (s!"**{category} · {titleCase s.label}**").toList
      = some (none, titleCase s.label, category) := by
  have htext : (s!"**{category} · {titleCase s.label}**").toList
      = "**".toList ++ (category.toList ++ (" · ".toList ++
        ((titleCase s.label).toList ++ "**".toList))) := by
    simp [toString]
  rw [htext, readHeading?, skip?_self, Option.bind_eq_bind, Option.bind_some, if_pos rfl,
    readTitles?_append, Option.map_some]

lemma readHeading?_line (line : Int) (s : Severity) (category : String) :
    readHeading? false (s!"**Line {line} · {category} · {titleCase s.label}**").toList
      = some (some line, titleCase s.label, category) := by
  have htext : (s!"**Line {line} · {category} · {titleCase s.label}**").toList
      = "**".toList ++ ("Line ".toList ++ ((toString line).toList ++ (" · ".toList ++
        (category.toList ++ (" · ".toList ++
          ((titleCase s.label).toList ++ "**".toList)))))) := by
    simp [toString]
  rw [htext, readHeading?, skip?_self, Option.bind_eq_bind, Option.bind_some,
    if_neg Bool.false_ne_true]
  simp only [skip?_self, run?_line line (r := " · ".toList ++ _) rfl, readLine?_toString,
    readTitles?_append, Option.bind_eq_bind, Option.bind_some]
  rfl

lemma read?_of_heading {whole : Bool} {heading : String} {line : Option Int}
    {severity category : String}
    (h : readHeading? whole heading.toList = some (line, severity, category)) (message : String) :
    read? whole [heading, "", message, ""] = some ⟨line, severity, category, message⟩ := by
  rw [read?, h, Option.map_some]

/-- **A block in Markdown shows its issue**, severity and category in title case. -/
lemma read?_block (file : String) (i : Issue) :
    read? i.fileLevel (block (i.toNote file)) = some (shownOf titleCase i) := by
  have hsection : (i.toNote file).fileLevel = i.fileLevel := rfl
  rw [block, blockOf, shownOf, hsection]
  cases i.fileLevel with
  | true =>
      rw [if_pos rfl, if_pos rfl]
      exact read?_of_heading (readHeading?_whole i.severity (titleCase i.category)) i.message
  | false =>
      rw [if_neg Bool.false_ne_true, if_neg Bool.false_ne_true]
      exact read?_of_heading (readHeading?_line i.line i.severity (titleCase i.category)) i.message

/-! ### Ends -/

lemma length_block (n : Note) : (block n).length = 4 := by
  rw [block, blockOf]
  split_ifs
  · rfl
  · rfl

lemma delimited_block : Delimited block := by
  refine ⟨fun n => ?_, fun n m r s h => ?_⟩
  · exact List.ne_nil_of_length_pos (by rw [length_block]; decide)
  · exact List.append_inj_left h (by rw [length_block, length_block])

/-- The first line of a block begins and ends with a star, and no line of a frame does both. -/
lemma head?_block_ne {l : String} (hl : l.toList.head? = some '*' → l.toList.getLast? ≠ some '*')
    (n : Note) : (block n).head? ≠ some l := by
  have hstar (s : String) : (s ++ "**").toList.getLast? = some '*' := by simp
  have hends : ∀ t ∈ (block n).head?, t.toList.head? = some '*' ∧ t.toList.getLast? = some '*' := by
    rw [block, blockOf]
    split_ifs
    all_goals
      intro t ht
      obtain rfl := Option.some.inj ht
      exact ⟨by simp [toString], hstar _⟩
  intro hhead
  obtain ⟨hfirst, hlast⟩ := hends l hhead
  exact hl hfirst hlast

end Markdown

end ReactLint.Report
