import ReactLint.Proofs.Blank.Trailing
import ReactLint.Proofs.Service.Endpoint
import ReactLint.Proofs.Text.Utf8

/-!
# A stored file and its code

A file that the service reads by itself is answered as if its text had been sent, provided that
every carriage return of the text ends a line together with a line feed.  The two ways differ in
what the linter gets to see.

**Reading.**  The bytes are decoded, which gives the text back (`decode_encode`), and then every
line ending becomes a line feed.  In a text whose carriage returns are paired, this drops a blank at
the ends of some lines (`sameButTrailing_unifyLineEnds`), and such blanks do not change a report.

**Requests.**  `pathBody` asks for the file at a path.  Once the file is there, the request leads to
the text that was read, under the path as the service writes it (`planCheck_path`).
-/

namespace ReactLint

open Text

/-! ## Line endings -/

namespace Text

/-- Every carriage return is immediately followed by a line feed. -/
def ReturnsPaired (t : Text) : Prop := ∀ i < t.length, t[i]? = some '\r' → t[i + 1]? = some '\n'

instance (t : Text) : Decidable (ReturnsPaired t) :=
  inferInstanceAs (Decidable (∀ i < t.length, t[i]? = some '\r' → t[i + 1]? = some '\n'))

lemma ReturnsPaired.tail {c : Char} {t : Text} (h : ReturnsPaired (c :: t)) : ReturnsPaired t :=
  fun i hi => h (i + 1) (Nat.succ_lt_succ hi)

lemma ReturnsPaired.head {t : Text} (h : ReturnsPaired ('\r' :: t)) : ∃ rest, t = '\n' :: rest := by
  have hnext : t[0]? = some '\n' := h 0 (Nat.zero_lt_succ _) rfl
  rwa [← List.head?_eq_getElem?, List.head?_eq_some_iff] at hnext

end Text

/-- With paired carriage returns, unified line endings differ in blanks at the ends of lines. -/
lemma sameButTrailing_unifyLineEnds {t : Text} (h : ReturnsPaired t) :
    List.Forall₂ SameButTrailing (lines t) (lines (unifyLineEnds t)) := by
  fun_induction unifyLineEnds t with
  | case1 rest ih => exact forall₂_lines_carriageReturn (ih h.tail.tail)
  | case2 rest hrest ih =>
      -- a carriage return alone, which there is none of
      obtain ⟨rest', rfl⟩ := h.head
      exact absurd rfl (hrest rest')
  | case3 c rest hc hc' ih => exact forall₂_lines_cons (ih h.tail) c
  | case4 => exact .cons ⟨[], [], [], rfl, rfl, rfl, rfl⟩ .nil

lemma lint_ofFileBytes_encode (t : Thresholds) (path : Text) {text : Text}
    (h : ReturnsPaired text) :
    lint t ⟨path, ofFileBytes (encode text)⟩ = lint t ⟨path, text⟩ := by
  rw [ofFileBytes, decode_encode]
  exact (lint_eq_of_lines (sameButTrailing_unifyLineEnds h)).symm

/-! ## Files in their place -/

/-- A path leads to a file with these bytes.  No path of a file holds a NUL. -/
def FileTree.Holds (f : FileTree) (p : Path) (bytes : List UInt8) : Prop :=
  '\x00' ∉ p.toText ∧ f.read p = .ok bytes

lemma FileTree.Holds.has? {f : FileTree} {p : Path} {bytes : List UInt8} (h : f.Holds p bytes) :
    f.has? p = some true := by
  obtain ⟨hnul, hread⟩ := h
  rw [FileTree.has?, if_neg (by simpa using hnul)]
  rw [FileTree.read] at hread
  split at hread
  · simp only [*]
  · cases hread
  · cases hread

lemma Path.toText_ne_nil_of_isAbsolute {p : Path} (h : p.isAbsolute = true) : p.toText ≠ [] := by
  have hroot : p.root ≠ [] := by simpa [Path.isAbsolute] using h
  simp [Path.toText, hroot]

lemma Path.ne_nil_of_isAbsolute {written : Text} (h : (Path.ofText written).isAbsolute = true) :
    written ≠ [] := by
  rintro rfl
  cases h

/-! ## Requests -/

namespace Request

/-- The body that asks for the file at a path to be checked. -/
def pathBody (thresholds : Option Value) (written : Text) : Value :=
  .object (("file_path".toList, .text written) :: thresholdsMember thresholds)

lemma check_pathBody {thresholds : Option Value} {o : Overrides}
    (h : overrides (fieldPlace "thresholds") thresholds = .ok o) (written : Text) :
    check (pathBody thresholds written) = .ok ⟨none, none, some written, o⟩ := by
  cases thresholds with
  | none =>
      obtain rfl := Except.ok.inj h
      rfl
  | some v =>
      change (Checked.both _ (Checked.both _ (Checked.both _
        (overrides (fieldPlace "thresholds") (some v))))).map _ = _
      rw [h]
      rfl

end Request

namespace Session

lemma planCheck_path {s : Session} {written text : Text} (render : Labelled → Response)
    (habsolute : (Path.ofText written).isAbsolute = true) (hpaired : ReturnsPaired text)
    (hfile : s.files.Holds (Path.ofText written) (encode text)) (o : Overrides) (t : Thresholds) :
    let path := (Path.ofText written).toText
    ((s.planCheck render ⟨none, none, some written, o⟩).under t).1
      = render ⟨path, notesOn (t.replaced o) ⟨text, path⟩⟩ := by
  intro path
  have htarget : s.target ⟨none, none, some written, o⟩
      = .ok (path, fun l => l.checkFile s.files (Path.ofText written)) := by
    simp [target, Option.filter, Path.ne_nil_of_isAbsolute habsolute, habsolute, hfile.has?, path]
  have hlint : lint (t.replaced o) ⟨path, ofFileBytes (encode text)⟩
      = lint (t.replaced o) ⟨path, text⟩ := lint_ofFileBytes_encode _ path hpaired
  rw [planCheck, htarget, notesOn, ← hlint]
  simp only [Plan.under, Linter.checkFile, hfile.2]
  rfl

/-- **A stored file is answered as its code is.**  Take the service through any moves, limits that
can be replaced, an absolute path, and a text whose carriage returns all stand before line feeds.
When the path leads to a file with the bytes of the text, a check of the path and a check of the
text under that path are answered alike and with success: with the notes on the text, each filed
under the path, and the count of each of their categories. -/
theorem stored_file_answers_as_code (environment : Environment) (tree : FileTree) (now : Moment)
    (moves : List Move) (thresholds : Option Value) (o : Overrides)
    (hthresholds : Request.overrides (Request.fieldPlace "thresholds") thresholds = .ok o)
    (written text : Text) (habsolute : (Path.ofText written).isAbsolute = true)
    (hpaired : ReturnsPaired text) :
    let s := (⟨environment, none, tree, now⟩ : Session).after moves
    let path := (Path.ofText written).toText
    s.files.Holds (Path.ofText written) (encode text) →
      ∃ answer : Response, answer.status = 200 ∧
        (s.move (post .check (Request.pathBody thresholds written))).result
          = .ok (.response answer) ∧
        (s.move (post .check (Request.checkBody thresholds ⟨text, path⟩))).result
          = .ok (.response answer) ∧
        ∃ notes : List Note,
          notes = notesOn (s.thresholds.result.replaced o) ⟨text, path⟩ ∧
          answer = .notes notes (summarize (notes.map Note.category)) ∧
          ∀ n ∈ notes, n.filePath = some (String.ofList path) := by
  intro s path hfile
  have hs : s.Sound := (sound_of_none rfl).after moves
  refine ⟨.ofNotes (notesOn (s.thresholds.result.replaced o) ⟨text, path⟩), rfl, ?_, ?_,
    _, rfl, rfl, ?_⟩
  · rw [post_checked hs (Request.check_pathBody hthresholds written) .check
      (fun l => .ofNotes l.notes) rfl fun b => rfl, planCheck_path _ habsolute hpaired hfile]
  · have hname : path ≠ [] := Path.toText_ne_nil_of_isAbsolute habsolute
    exact post_one hthresholds hs hname .check (fun l => .ofNotes l.notes) rfl fun b => rfl
  · intro n hn
    obtain ⟨i, -, rfl⟩ := List.mem_map.mp hn
    rfl

/-- A component is written to a path that has a slash too many.  Its lines end in a carriage return
and a line feed and its comment has a letter of two bytes, so that the text read is not the one
written.  Both ways lead to the same two notes. -/
theorem stored_file_answers_as_code_component :
    let written := "/src//A.tsx".toList
    let text := "// é\r\nconsole.log(1);\r\n".toList
    let moves : List Move := [.writeFile (Path.ofText written) (.file (encode text))]
    let s := (⟨⟨[]⟩, none, ⟨[], []⟩, ⟨2024, 1, 2, 3, 4, 5⟩⟩ : Session).after moves
    ReturnsPaired text ∧ s.files.Holds (Path.ofText written) (encode text) ∧
      ofFileBytes (encode text) ≠ text ∧
      ∃ notes counts, notes.length = 2 ∧
        (s.move (post .check (Request.pathBody none written))).result
          = .ok (.response (.notes notes counts)) ∧
        (s.move (post .check (Request.checkBody none ⟨text, "/src/A.tsx".toList⟩))).result
          = .ok (.response (.notes notes counts)) := by
  intro written text moves s
  have hpaired : ReturnsPaired text := by decide
  have hfile : s.files.Holds (Path.ofText written) (encode text) := by
    unfold FileTree.Holds
    decide +kernel
  obtain ⟨answer, -, hpath, hcode, notes, hnotes, rfl, -⟩ := stored_file_answers_as_code ⟨[]⟩
    ⟨[], []⟩ ⟨2024, 1, 2, 3, 4, 5⟩ moves none _ rfl written text rfl hpaired hfile
  refine ⟨hpaired, hfile, by decide +kernel, notes, _, ?_, hpath, hcode⟩
  rw [hnotes]
  decide +kernel

end Session

end ReactLint
