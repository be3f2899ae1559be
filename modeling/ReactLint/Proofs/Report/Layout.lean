import ReactLint.Proofs.Report.Block
import ReactLint.Proofs.Report.Summary

/-!
# What reports show

There are two reports on the issues of a file, one as plain text and one in Markdown.  They are
written apart, but show the same: the issues in the order of `arrange`, a block for each, and around
the blocks a frame of titles and counts.

**Frames and blocks.**  `Interleaves` says that lines are made of the lines of a frame and the
blocks of a list, and that no line of the frame could begin a block.  Parts of a report are put
together by `Interleaves.append`.  In both reports a block shows where it ends (`Delimited`), so the
lines of the report can be taken apart in one way only, and there are no blocks but those of the
list (`Renders`).

**The two layouts.**  The frame of a report is fixed by the counts that it shows.  A section of the
report brings the blocks of its issues and its title, if it has any issues
(`interleaves_titledPart`), and the sections together bring all issues in the order of `arrange`.

**Rearranging.**  A report depends on the list of issues through the two sections and the counts
only.  Both stay the same when issues are moved without changing the order on any line.
-/

namespace ReactLint.Report

/-! ## Frames and blocks -/

section Interleaving

variable {α : Type}

/-- The lines are those of the frame and the blocks of the elements shown, both in their order, and
no line of the frame is the first line of a block. -/
inductive Interleaves (block : α → List String) : List String → List α → List String → Prop
  | nil : Interleaves block [] [] []
  | frame {l : String} {frame : List String} {shown : List α} {lines : List String}
      (hl : ∀ a, (block a).head? ≠ some l) (h : Interleaves block frame shown lines) :
      Interleaves block (l :: frame) shown (l :: lines)
  | block {a : α} {frame : List String} {shown : List α} {lines : List String}
      (h : Interleaves block frame shown lines) :
      Interleaves block frame (a :: shown) (block a ++ lines)

/-- The lines consist of a frame and the blocks of the elements shown, and can be taken apart in no
other way. -/
structure Renders (block : α → List String) (frame : List String) (shown : List α)
    (lines : List String) : Prop where
  interleaves : Interleaves block frame shown lines
  unique : ∀ frame' shown', Interleaves block frame' shown' lines →
    frame' = frame ∧ shown'.map block = shown.map block

namespace Interleaves

variable {block : α → List String} {frame frame' : List String} {shown shown' : List α}
  {lines lines' : List String}

/-- Parts that are put one below the other interleave their frames and their lists. -/
lemma append (h : Interleaves block frame shown lines)
    (h' : Interleaves block frame' shown' lines') :
    Interleaves block (frame ++ frame') (shown ++ shown') (lines ++ lines') := by
  induction h with
  | nil => exact h'
  | frame hl _ ih => exact .frame hl ih
  | block _ ih =>
      rw [List.append_assoc]
      exact .block ih

/-- Blocks alone have an empty frame. -/
lemma of_blocks {b : α → List String} (h : ∀ a ∈ shown, b a = block a) :
    Interleaves block [] shown (shown.flatMap b) := by
  induction shown with
  | nil => exact .nil
  | cons a shown ih =>
      obtain ⟨ha, hshown⟩ := List.forall_mem_cons.mp h
      rw [List.flatMap_cons, ha]
      exact .block (ih hshown)

/-- A block is not empty, so its first line is the first line of what it begins. -/
lemma head?_eq_of_append (hblock : Delimited block) {a : α} {l : String} {r s : List String}
    (h : block a ++ r = l :: s) : (block a).head? = some l := by
  cases hlines : block a with
  | nil => exact absurd hlines (hblock.ne_nil a)
  | cons t ts =>
      rw [hlines] at h
      rw [List.head?_cons, (List.cons.inj h).1]

/-- **Lines can be taken apart in one way only.**  A line that begins a block is no line of a frame,
and a block shows where it ends. -/
lemma unique (hblock : Delimited block) (h : Interleaves block frame shown lines)
    (h' : Interleaves block frame' shown' lines') (heq : lines' = lines) :
    frame' = frame ∧ shown'.map block = shown.map block := by
  -- both are read from the front; a line of one frame cannot meet a block of the other, for it
  -- would be the first line of that block
  induction h generalizing frame' shown' lines' with
  | nil =>
      cases h' with
      | nil => exact ⟨rfl, rfl⟩
      | frame => cases heq
      | @block a => exact absurd (List.append_eq_nil_iff.mp heq).1 (hblock.ne_nil a)
  | frame hl _ ih =>
      cases h' with
      | nil => cases heq
      | frame _ h' =>
          obtain ⟨rfl, hrest⟩ := List.cons.inj heq
          obtain ⟨rfl, hshown⟩ := ih h' hrest
          exact ⟨rfl, hshown⟩
      | @block a => exact absurd (head?_eq_of_append hblock heq) (hl a)
  | @block a _ _ _ _ ih =>
      cases h' with
      | nil => exact absurd (List.append_eq_nil_iff.mp heq.symm).1 (hblock.ne_nil a)
      | frame hl => exact absurd (head?_eq_of_append hblock heq.symm) (hl a)
      | @block b _ _ _ h' =>
          have hsame : block b = block a := hblock.eq_of_append b a _ _ heq
          rw [hsame] at heq
          obtain ⟨rfl, hshown⟩ := ih h' (List.append_cancel_left heq)
          exact ⟨rfl, by rw [List.map_cons, List.map_cons, hsame, hshown]⟩

lemma renders (hblock : Delimited block) (h : Interleaves block frame shown lines) :
    Renders block frame shown lines :=
  ⟨h, fun _ _ h' => h.unique hblock h' rfl⟩

end Interleaves

end Interleaving

/-! ## Plain text -/

namespace Plain

/-- The title of a section with `n` issues; it is left out when there are none. -/
def heading (title : String) (n : Nat) : List String :=
  if n = 0 then [] else [s!"{title} ({n}):", rule '-']

@[simp] lemma head?_rule (mark : Char) : (rule mark).toList.head? = some mark := by
  rw [rule, String.toList_ofList, List.head?_replicate, if_neg (by decide)]

/-- The lines of a report that belong to no issue, with the counts that they show: issues about the
file and on its lines, errors and warnings. -/
def frame (path : String) (whole inline errors warnings : Nat) : List String :=
  if whole + inline = 0 then [s!"\n✓ No issues found in {path}\n"]
  else
    ["\n" ++ rule '=', s!"Component Lint Report: {path}", rule '=' ++ "\n"] ++
      heading "SUMMARY" whole ++ heading "INLINE" inline ++
      [s!"\nTotal: {errors} errors, {warnings} warnings", rule '=']

lemma interleaves_titledPart {title : String}
    (htitle : ∀ n : Nat, (s!"{title} ({n}):").toList.head? ≠ some ' ') {b : Issue → List String}
    {xs : List Issue} (h : ∀ i ∈ xs, b i = block i) :
    Interleaves block (heading title xs.length) xs (titledPart title b xs) := by
  cases xs with
  | nil => exact .nil
  | cons x xs =>
      exact .frame (head?_block_ne (htitle _)) (.frame (head?_block_ne (by simp)) (.of_blocks h))

lemma interleaves_summary (xs : List Issue) :
    Interleaves block (heading "SUMMARY" (xs.filter Issue.fileLevel).length)
      (xs.filter Issue.fileLevel)
      (titledPart "SUMMARY" fileBlock (xs.filter Issue.fileLevel)) :=
  interleaves_titledPart (by simp [toString]) fun _ hi => blockOf_of_mem_filter hi

lemma interleaves_inline (xs : List Issue) :
    Interleaves block (heading "INLINE" (inlineOf Issue.fileLevel xs).length)
      (sortBy Issue.line (inlineOf Issue.fileLevel xs))
      (titledPart "INLINE" lineBlock (sortBy Issue.line (inlineOf Issue.fileLevel xs))) := by
  rw [← length_sortBy Issue.line]
  exact interleaves_titledPart (by simp [toString]) fun _ hi => blockOf_of_mem_sortBy hi

/-- The lines of a report with issues, part by part. -/
lemma reportLines_of_ne_nil (path : String) {xs : List Issue} (hne : xs ≠ []) :
    reportLines path xs =
      ["\n" ++ rule '=', s!"Component Lint Report: {path}", rule '=' ++ "\n"] ++
        titledPart "SUMMARY" fileBlock (xs.filter Issue.fileLevel) ++
        titledPart "INLINE" lineBlock (sortBy Issue.line (inlineOf Issue.fileLevel xs)) ++
        let errors := countOf .error xs
        let warnings := countOf .warn xs
        [s!"\nTotal: {errors} errors, {warnings} warnings", rule '='] := by
  rw [reportLines, if_neg (by simpa using hne), splitIssues, List.partition_eq_filter_filter]
  rfl

/-- **The plain report** shows the issues in the order of `arrange`, in the frame of its counts. -/
lemma renders_reportLines (path : String) (xs : List Issue) :
    Renders block
      (frame path (xs.filter Issue.fileLevel).length (inlineOf Issue.fileLevel xs).length
        (countOf .error xs) (countOf .warn xs))
      (arrange Issue.fileLevel Issue.line xs) (reportLines path xs) := by
  rw [frame, length_filter_add_inlineOf]
  split_ifs with hnone
  · obtain rfl := List.length_eq_zero_iff.mp hnone
    have hline : Interleaves block [s!"\n✓ No issues found in {path}\n"] [] _ :=
      .frame (head?_block_ne (by simp [toString])) .nil
    rw [arrange_nil]
    exact hline.renders delimited_block
  · have hne : xs ≠ [] := by
      rintro rfl
      exact hnone rfl
    have hopening : Interleaves block
        ["\n" ++ rule '=', s!"Component Lint Report: {path}", rule '=' ++ "\n"] [] _ :=
      .frame (head?_block_ne (by simp)) (.frame (head?_block_ne (by simp [toString]))
        (.frame (head?_block_ne (by simp)) .nil))
    have hclosing (errors warnings : Nat) : Interleaves block
        [s!"\nTotal: {errors} errors, {warnings} warnings", rule '='] [] _ :=
      .frame (head?_block_ne (by simp [toString])) (.frame (head?_block_ne (by simp)) .nil)
    have hall := ((hopening.append (interleaves_summary xs)).append (interleaves_inline xs)).append
      (hclosing (countOf .error xs) (countOf .warn xs))
    rw [List.append_nil, List.nil_append] at hall
    rw [reportLines_of_ne_nil path hne]
    exact hall.renders delimited_block

/-- A plain report does not depend on the order of issues on different lines. -/
lemma report_of_rearranged (path : String) {xs ys : List Issue}
    (h : Rearranged Issue.fileLevel Issue.line xs ys) : report path xs = report path ys := by
  have hcount (s : Severity) : countOf s xs = countOf s ys := h.perm.countP_eq _
  by_cases hxs : xs = []
  · subst hxs
    rw [List.nil_perm.mp h.perm]
  · have hys : ys ≠ [] := by
      rintro rfl
      exact hxs (List.perm_nil.mp h.perm)
    rw [report, report, reportLines_of_ne_nil path hxs, reportLines_of_ne_nil path hys,
      h.same_whole, hcount, hcount, sortBy_eq_of_sameByKey h.same_lines]

end Plain

/-! ## Markdown -/

namespace Markdown

/-- The title of a section with `n` notes; it is left out when there are none. -/
def heading (title : String) (n : Nat) : List String :=
  if n = 0 then [] else [s!"## {title}", ""]

/-- The lines of a report that belong to no note, with the counts that they show: all notes, errors
and warnings.  Of the notes about the file and those on its lines they show whether there are
any. -/
def frame (path : String) (now : Moment) (total errors warnings whole inline : Nat) :
    List String :=
  let time := now.toText
  [s!"# Results: {path}", "", s!"Generated: {time}", "",
      s!"**{total}** issue(s) found ({errors} error(s), {warnings} warning(s)).", ""] ++
    if total = 0 then ["No issues found.", ""]
    else heading "Summary" whole ++ heading "Issues" inline

lemma interleaves_titledPart (title : String) {b : Note → List String} {ns : List Note}
    (h : ∀ n ∈ ns, b n = block n) :
    Interleaves block (heading title ns.length) ns (titledPart title b ns) := by
  cases ns with
  | nil => exact .nil
  | cons n ns =>
      exact .frame (head?_block_ne (by simp [toString]))
        (.frame (head?_block_ne (by simp)) (.of_blocks h))

lemma interleaves_summary (ns : List Note) :
    Interleaves block (heading "Summary" (ns.filter Note.fileLevel).length)
      (ns.filter Note.fileLevel) (titledPart "Summary" fileBlock (ns.filter Note.fileLevel)) :=
  interleaves_titledPart "Summary" fun _ hn => blockOf_of_mem_filter hn

lemma interleaves_inline (ns : List Note) :
    Interleaves block (heading "Issues" (inlineOf Note.fileLevel ns).length)
      (sortBy Note.line (inlineOf Note.fileLevel ns))
      (titledPart "Issues" lineBlock (sortBy Note.line (inlineOf Note.fileLevel ns))) := by
  rw [← length_sortBy Note.line]
  exact interleaves_titledPart "Issues" fun _ hn => blockOf_of_mem_sortBy hn

lemma reportLines_eq (path : String) (now : Moment) (ns : List Note) :
    reportLines path now ns = header path now ns ++
      if ns.isEmpty then ["No issues found.", ""]
      else titledPart "Summary" fileBlock (ns.filter Note.fileLevel) ++
        titledPart "Issues" lineBlock (sortBy Note.line (inlineOf Note.fileLevel ns)) := by
  rw [reportLines, List.partition_eq_filter_filter]
  rfl

/-- No line of the header begins a note. -/
lemma interleaves_header (path : String) (now : Moment) (ns : List Note) :
    Interleaves block (header path now ns) [] (header path now ns) := by
  have htally (s : String) : (s ++ " warning(s)).").toList.getLast? ≠ some '*' := by simp
  refine .frame (head?_block_ne (by simp [toString])) (.frame (head?_block_ne (by simp)) ?_)
  refine .frame (head?_block_ne (by simp [toString])) (.frame (head?_block_ne (by simp)) ?_)
  exact .frame (head?_block_ne fun _ => htally _) (.frame (head?_block_ne (by simp)) .nil)

/-- A report without notes says so, and any other has its two sections. -/
lemma interleaves_body (ns : List Note) :
    Interleaves block
      (if ns.length = 0 then ["No issues found.", ""]
        else heading "Summary" (ns.filter Note.fileLevel).length ++
          heading "Issues" (inlineOf Note.fileLevel ns).length)
      (arrange Note.fileLevel Note.line ns)
      (if ns.isEmpty then ["No issues found.", ""]
        else titledPart "Summary" fileBlock (ns.filter Note.fileLevel) ++
          titledPart "Issues" lineBlock (sortBy Note.line (inlineOf Note.fileLevel ns))) := by
  cases ns with
  | nil =>
      rw [arrange_nil]
      exact .frame (head?_block_ne (by simp)) (.frame (head?_block_ne (by simp)) .nil)
  | cons n ns => exact (interleaves_summary (n :: ns)).append (interleaves_inline (n :: ns))

/-- **The Markdown report** shows the notes in the order of `arrange`, in the frame of its
counts. -/
lemma renders_reportLines (path : String) (now : Moment) (ns : List Note) :
    Renders block
      (frame path now ns.length (ns.countP fun n => n.severity = "error")
        (ns.countP fun n => n.severity = "warn") (ns.filter Note.fileLevel).length
        (inlineOf Note.fileLevel ns).length)
      (arrange Note.fileLevel Note.line ns) (reportLines path now ns) := by
  rw [reportLines_eq]
  exact ((interleaves_header path now ns).append (interleaves_body ns)).renders delimited_block

/-- A Markdown report does not depend on the order of notes on different lines. -/
lemma report_of_rearranged (path : String) (now : Moment) {ns ms : List Note}
    (h : Rearranged Note.fileLevel Note.line ns ms) : report path now ns = report path now ms := by
  have hheader : header path now ns = header path now ms := by
    rw [header, header, h.perm.length_eq, h.perm.countP_eq, h.perm.countP_eq]
  rw [report, report, reportLines_eq, reportLines_eq, hheader, h.perm.isEmpty_eq, h.same_whole,
    sortBy_eq_of_sameByKey h.same_lines]

end Markdown

/-! ## The same issues in both -/

/-- Every issue is an error or a warning. -/
lemma countOf_error_add_warn (xs : List Issue) :
    Plain.countOf .error xs + Plain.countOf .warn xs = xs.length := by
  rw [List.length_eq_countP_add_countP (fun i : Issue => i.severity = .error)]
  congr 1
  refine List.countP_congr fun i _ => ?_
  cases i.severity <;> simp

section Notes

variable (file : String) (xs : List Issue)

/-- A note has the severity of its issue, as a label. -/
lemma countP_toNote {s : Severity} {label : String} (hs : s.label = label) :
    (xs.map (Issue.toNote file)).countP (fun n => n.severity = label) = Plain.countOf s xs := by
  subst hs
  rw [List.countP_map, Plain.countOf]
  refine List.countP_congr fun i _ => ?_
  cases s <;> cases hs : i.severity <;> simp [Issue.toNote, Severity.label, hs]

lemma length_filter_toNote :
    ((xs.map (Issue.toNote file)).filter Note.fileLevel).length
      = (xs.filter Issue.fileLevel).length := by
  rw [List.filter_map, List.length_map]
  rfl

lemma length_inlineOf_toNote :
    (inlineOf Note.fileLevel (xs.map (Issue.toNote file))).length
      = (inlineOf Issue.fileLevel xs).length := by
  rw [inlineOf, List.filter_map, List.length_map]
  rfl

/-- A note stands on the line of its issue, so the notes are in the order of the issues. -/
lemma arrange_toNote :
    arrange Note.fileLevel Note.line (xs.map (Issue.toNote file))
      = (arrange Issue.fileLevel Issue.line xs).map (Issue.toNote file) :=
  (map_arrange (Issue.toNote file) xs).symm

end Notes

/-- **Both reports show the same issues in the same order.**  The order has the issues about the
file in their order and then the others stably sorted by line, and is the only one that has.  The
lines of the plain report and those of the Markdown report consist of their frames and of a block
for each issue, in that order, and of no other blocks.  From the block of an issue its line, unless
it is about the file, its severity, its category and its message can be read; Markdown has severity
and category in title case.

Lists of issues that agree on what is about the file, and differ otherwise by a permutation that
keeps the order on each line, have the same reports.

The counts of the two sections of the plain report add up to the number of issues that the Markdown
report gives, and so do errors and warnings.  The summary has the distinct categories in the order
in which they are first seen, each with its count, and these add up to that number as well. -/
theorem reports_show_one_order (path file : String) (now : Moment) (xs : List Issue) :
    let shown := arrange Issue.fileLevel Issue.line xs
    let notes := xs.map (Issue.toNote file)
    let total := xs.length
    let whole := (xs.filter Issue.fileLevel).length
    let inline := (inlineOf Issue.fileLevel xs).length
    let errors := xs.countP fun i => i.severity = .error
    let warnings := xs.countP fun i => i.severity = .warn
    let categories := xs.map Issue.category
    (∀ ys, IsArranged Issue.fileLevel Issue.line xs ys ↔ ys = shown) ∧
      (Plain.report path xs = "\n".intercalate (Plain.reportLines path xs) ∧
        Renders Plain.block (Plain.frame path whole inline errors warnings) shown
          (Plain.reportLines path xs) ∧
        ∀ i, Plain.read? (Plain.block i) = some (shownOf id i)) ∧
      (Markdown.report path now notes = "\n".intercalate (Markdown.reportLines path now notes) ∧
        Renders Markdown.block (Markdown.frame path now total errors warnings whole inline)
          (shown.map (Issue.toNote file)) (Markdown.reportLines path now notes) ∧
        ∀ i, Markdown.read? i.fileLevel (Markdown.block (i.toNote file))
          = some (shownOf Markdown.titleCase i)) ∧
      (∀ ys, Rearranged Issue.fileLevel Issue.line xs ys →
        Plain.report path xs = Plain.report path ys ∧
          Markdown.report path now notes
            = Markdown.report path now (ys.map (Issue.toNote file))) ∧
      (whole + inline = total ∧ errors + warnings = total) ∧
      summarize categories = categories.eraseDups.map (fun c => (c, categories.count c)) ∧
      ((summarize categories).map Prod.snd).sum = total := by
  intro shown notes total whole inline errors warnings categories
  refine ⟨fun ys => isArranged_iff, ⟨rfl, Plain.renders_reportLines path xs, Plain.read?_block⟩,
    ⟨rfl, ?_, Markdown.read?_block file⟩, fun ys h => ?_,
    ⟨length_filter_add_inlineOf _ xs, countOf_error_add_warn xs⟩, summarize_eq categories, ?_⟩
  · have h := Markdown.renders_reportLines path now notes
    rw [List.length_map, length_filter_toNote, length_inlineOf_toNote, arrange_toNote] at h
    have herrors : Severity.error.label = "error" := rfl
    have hwarnings : Severity.warn.label = "warn" := rfl
    rwa [countP_toNote file xs herrors, countP_toNote file xs hwarnings] at h
  · have hnotes : Rearranged Note.fileLevel Note.line _ _ := h.map (f := Issue.toNote file)
    exact ⟨Plain.report_of_rearranged path h, Markdown.report_of_rearranged path now hnotes⟩
  · rw [sum_summarize, List.length_map]

/-- Two issues on line nine, one above them and one about the file.  Both reports are the same when
the one above is moved and the two on line nine stay in their order. -/
theorem reports_show_one_order_moved :
    let first : Issue := ⟨9, "first", .warn, "console-log", false⟩
    let second : Issue := ⟨9, "second", .warn, "comment", false⟩
    let about : Issue := ⟨1, "too long", .warn, "file-size", true⟩
    let early : Issue := ⟨2, "early", .error, "unused-import", false⟩
    let xs := [first, second, about, early]
    let ys := [early, first, about, second]
    let path := "src/Card.tsx"
    let now : Moment := ⟨2024, 1, 2, 3, 4, 5⟩
    Rearranged Issue.fileLevel Issue.line xs ys ∧ Plain.report path xs = Plain.report path ys ∧
      Markdown.report path now (xs.map (Issue.toNote path))
        = Markdown.report path now (ys.map (Issue.toNote path)) := by
  intro first second about early xs ys path now
  have h : Rearranged Issue.fileLevel Issue.line xs ys := by
    have hperm : ([first, second] ++ [early]).Perm ([early] ++ [first, second]) :=
      List.perm_append_comm
    refine ⟨rfl, hperm, fun k => ?_⟩
    by_cases hk : k = 2
    · subst hk
      rfl
    · simp [inlineOf, List.filter_cons, xs, ys, first, second, about, early, Ne.symm hk]
  obtain ⟨-, -, -, hsame, -⟩ := reports_show_one_order path path now xs
  exact ⟨h, hsame ys h⟩

end ReactLint.Report
