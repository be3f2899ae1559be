import ReactLint.Proofs.Finding.Enumeration

/-!
# Entries of a message

The lines of a list are read by `enumerated`.  Here two kinds of lists are read with all that their
entries say: names with the lines that they are on, and lines with the sizes of the blocks that
start there.

**Parts.**  Such a list stands behind the first colon of its message and ends at a character that no
entry holds.  Commas divide it, and none is inside an entry, so its parts are the entries
(`listParts_list`).

**Entries.**  An entry is read to its last character.  A name may hold anything but a comma and a
newline, even what looks like the end of an entry; therefore an entry is read from its end, where
the line is, and the name is what remains in front (`readNamed?`).
-/

namespace ReactLint

open Text

/-! ## Parts of a list -/

/-- The parts of the list behind the first colon, up to `stop`. -/
def listParts (stop : Char) (message : Text) : List Text :=
  ((((message.dropWhile (· != ':')).drop 1).takeWhile (· != stop)).splitOn ',').map trim

/-- The entries of that list, if each of them can be read. -/
def entriesIn? {α : Type} (stop : Char) (read : Text → Option (Located α)) (message : String) :
    Option (List (Located α)) :=
  (listParts stop message.toList).mapM read

lemma ne_of_notMem {c : Char} {t : Text} (h : c ∉ t) : ∀ d ∈ t, (d != c) = true := by
  intro d hd
  rw [bne_iff_ne]
  rintro rfl
  exact h hd

/-- With a blank in front and blanks behind, a list of entries is divided by its commas. -/
lemma exists_parts {entries : List Text} (hne : entries ≠ [])
    (h : ∀ e ∈ entries, Solid e ∧ ',' ∉ e) {gap : Text} (hgap : gap = [] ∨ gap = [' ']) :
    ∃ parts, parts ≠ [] ∧ (∀ p ∈ parts, ',' ∉ p) ∧ parts.map trim = entries ∧
      [','].intercalate parts = ' ' :: ([',', ' '].intercalate entries ++ gap) := by
  have hblank : isBlank ' ' = true := by decide
  induction entries with
  | nil => exact absurd rfl hne
  | cons e es ih =>
      obtain ⟨⟨hsolid, hcomma⟩, hes⟩ := List.forall_mem_cons.mp h
      cases es with
      | nil =>
          refine ⟨[' ' :: (e ++ gap)], List.cons_ne_nil _ _, ?_, ?_, ?_⟩
          · rcases hgap with rfl | rfl <;> simpa using hcomma
          · rcases hgap with rfl | rfl
            · simp [trim_cons_blank hblank, hsolid.trim_eq]
            · simp [trim_cons_blank hblank, trim_append_blank e hblank, hsolid.trim_eq]
          · rw [List.intercalate_singleton, List.intercalate_singleton]
      | cons e' es =>
          obtain ⟨parts, hparts, hcommas, htrim, hjoin⟩ := ih (List.cons_ne_nil _ _) hes
          obtain ⟨p, ps, rfl⟩ := List.exists_cons_of_ne_nil hparts
          refine ⟨(' ' :: e) :: p :: ps, List.cons_ne_nil _ _, ?_, ?_, ?_⟩
          · exact List.forall_mem_cons.mpr ⟨by simpa using hcomma, hcommas⟩
          · rw [List.map_cons, htrim, trim_cons_blank hblank, hsolid.trim_eq]
          · rw [List.intercalate_cons_cons, hjoin, List.intercalate_cons_cons]
            simp

/-- **The parts are the entries.** -/
lemma listParts_list {stop : Char} {before after gap : Text} {entries : List Text}
    (hne : entries ≠ []) (h : ∀ e ∈ entries, Solid e ∧ ',' ∉ e ∧ stop ∉ e) (hbefore : ':' ∉ before)
    (hstop : stop ∉ [',', ' ']) (hgap : gap = [] ∨ gap = [' ']) :
    listParts stop (before ++ ':' :: ' ' :: ([',', ' '].intercalate entries ++
      (gap ++ stop :: after))) = entries := by
  obtain ⟨parts, hparts, hcommas, htrim, hjoin⟩ :=
    exists_parts hne (fun e he => ⟨(h e he).1, (h e he).2.1⟩) hgap
  have hlist : stop ∉ ' ' :: ([',', ' '].intercalate entries ++ gap) := by
    have hentries : stop ∉ [',', ' '].intercalate entries :=
      notMem_intercalate hstop fun e he => (h e he).2.2
    rw [List.mem_cons, List.mem_cons, not_or, not_or] at hstop
    rcases hgap with rfl | rfl <;> simp [hentries, hstop]
  have hbehind (r : Text) : (before ++ ':' :: r).dropWhile (· != ':') = ':' :: r := by
    rw [List.dropWhile_append_of_pos (ne_of_notMem hbefore), List.dropWhile_cons_of_neg (by simp)]
  have htext : (' ' :: ([',', ' '].intercalate entries ++ (gap ++ stop :: after))).takeWhile
      (· != stop) = [','].intercalate parts := by
    rw [hjoin, ← List.append_assoc, ← List.cons_append,
      List.takeWhile_append_of_pos (ne_of_notMem hlist), List.takeWhile_cons_of_neg (by simp),
      List.append_nil]
  rw [listParts, hbehind, List.drop_one, List.tail_cons, htext,
    List.splitOn_intercalate ',' hcommas hparts, htrim]

/-- An entry that stands for `f` and can be told from what is around it in a list up to `stop`. -/
structure Readable {α : Type} (stop : Char) (read : Text → Option (Located α)) (f : Located α)
    (entry : String) : Prop where
  solid : Solid entry.toList
  comma : ',' ∉ entry.toList
  stop : stop ∉ entry.toList
  read_eq : read entry.toList = some f

/-- **A list is read back** when its entries are readable. -/
lemma entriesIn?_eq {α : Type} {stop : Char} {read : Text → Option (Located α)}
    {entry : Located α → String} {found : List (Located α)} {message rest : String}
    {before after gap : Text} (opening closing : String)
    (hmessage : message = opening ++ Diagnosis.listed entry found ++ closing ++ rest)
    (hopening : opening.toList = before ++ [':', ' '])
    (hclosing : closing.toList = gap ++ stop :: after) (hne : found ≠ [])
    (h : ∀ f ∈ found, Readable stop read f (entry f)) (hbefore : ':' ∉ before)
    (hstop : stop ∉ [',', ' ']) (hgap : gap = [] ∨ gap = [' ']) :
    entriesIn? stop read message = some found := by
  have hlist : (Diagnosis.listed entry found).toList
      = [',', ' '].intercalate (found.map fun f => (entry f).toList) := by
    rw [Diagnosis.listed, String.toList_intercalate, List.map_map]
    rfl
  have hentries : ∀ e ∈ found.map (fun f => (entry f).toList), Solid e ∧ ',' ∉ e ∧ stop ∉ e := by
    intro e he
    obtain ⟨f, hf, rfl⟩ := List.mem_map.mp he
    exact ⟨(h f hf).solid, (h f hf).comma, (h f hf).stop⟩
  have htext : message.toList = before ++ ':' :: ' ' :: ([',', ' '].intercalate
      (found.map fun f => (entry f).toList) ++ (gap ++ stop :: (after ++ rest.toList))) := by
    rw [hmessage, String.toList_append, String.toList_append, String.toList_append, hopening,
      hlist, hclosing]
    simp
  rw [entriesIn?, htext, listParts_list (by simpa using hne) hentries hbefore hstop hgap]
  exact mapM_map_eq_some fun f hf => (h f hf).read_eq

/-! ## Names and lines -/

lemma run?_digits (n : Nat) {r : Text} (hr : ∀ c ∈ r.head?, c.isDigit = false) :
    run? Char.isDigit ((toString n).toList ++ r) = some ((toString n).toList, r) :=
  run?_append (toString_ne_nil n) (fun _ hc => isDigit_of_mem_toString hc) hr

/-- The name and the line of an entry.  The line stands at the end, in parentheses. -/
def readNamed? (entry : Text) : Option (Located Text) := do
  let back ← skip? ")" entry.reverse
  let (digits, back) ← run? Char.isDigit back
  let line ← readAscii? digits.reverse
  let back ← skip? "L( `" back
  let name ← skip? "`" back.reverse
  return ⟨line, name⟩

/-- The names that a message lists, each with its line. -/
def namesIn? (message : String) : Option (List (Located Text)) :=
  entriesIn? '\n' readNamed? message

/-- The line and the size of an entry. -/
def readSized? (entry : Text) : Option (Located Nat) := do
  let (line, rest) ← (skip? "L" entry).bind (run? Char.isDigit)
  let (size, rest) ← (skip? " (" rest).bind (run? Char.isDigit)
  if rest == " lines)".toList then return ⟨← readAscii? line, ← readAscii? size⟩ else none

/-- The lines that a message lists, each with the size of what starts there. -/
def sizesIn? (message : String) : Option (List (Located Nat)) := entriesIn? '—' readSized? message

namespace Diagnosis

lemma toList_namedEntry (f : Located Text) :
    (namedEntry f).toList = "`".toList ++ f.item ++ ("` (L".toList ++
      ((toString f.line).toList ++ ")".toList)) := by
  simp [namedEntry, toString]

lemma toList_blockEntry (f : Located Nat) :
    (blockEntry f).toList = "L".toList ++ ((toString f.line).toList ++ (" (".toList ++
      ((toString f.item).toList ++ " lines)".toList))) := by
  simp [blockEntry, toString]

/-- Around its name an entry has digits and few other characters. -/
lemma notMem_namedEntry {c : Char} {f : Located Text} (hname : c ∉ f.item)
    (hdigit : c.isDigit = false) (hmarks : c ∉ "` (L)".toList) : c ∉ (namedEntry f).toList := by
  have hline := notMem_toString hdigit f.line
  have hopening : c ∉ "`".toList := fun h => hmarks (List.mem_append_left " (L)".toList h)
  have hmiddle : c ∉ "` (L".toList := fun h => hmarks (List.mem_append_left ")".toList h)
  have hclosing : c ∉ ")".toList := fun h => hmarks (List.mem_append_right "` (L".toList h)
  rw [toList_namedEntry]
  simp only [List.mem_append, not_or]
  exact ⟨⟨hopening, hname⟩, hmiddle, hline, hclosing⟩

lemma notMem_blockEntry {c : Char} (f : Located Nat) (hdigit : c.isDigit = false)
    (hmarks : c ∉ "L ( lines)".toList) : c ∉ (blockEntry f).toList := by
  have hopening : c ∉ "L".toList := fun h => hmarks (List.mem_append_left " ( lines)".toList h)
  have hmiddle : c ∉ " (".toList := fun h =>
    hmarks (List.mem_cons_of_mem _ (List.mem_append_left " lines)".toList h))
  have hclosing : c ∉ " lines)".toList := fun h => hmarks (List.mem_append_right "L (".toList h)
  rw [toList_blockEntry]
  simp only [List.mem_append, not_or]
  exact ⟨hopening, notMem_toString hdigit f.line, hmiddle, notMem_toString hdigit f.item, hclosing⟩

/-- **An entry with a name is read back**, whatever the name is, as long as a list can hold it. -/
lemma readable_namedEntry {f : Located Text} (hcomma : ',' ∉ f.item) (hnewline : '\n' ∉ f.item) :
    Readable '\n' readNamed? f (namedEntry f) where
  solid := by
    refine ⟨⟨notMem_namedEntry hnewline rfl (by decide), ?_⟩, ?_⟩
    · rw [toList_namedEntry, List.getLast?_append_of_ne_nil _ (by simp),
        List.getLast?_append_of_ne_nil _ (by simp), List.getLast?_append_of_ne_nil _ (by simp)]
      rfl
    · rw [toList_namedEntry]
      rfl
  comma := notMem_namedEntry hcomma rfl (by decide)
  stop := notMem_namedEntry hnewline rfl (by decide)
  read_eq := by
    have hback : (namedEntry f).toList.reverse = ")".toList ++ ((toString f.line).toList.reverse ++
        ("L( `".toList ++ ("`".toList ++ f.item).reverse)) := by
      simp [toList_namedEntry]
    have hrun (r : Text) : run? Char.isDigit ((toString f.line).toList.reverse ++
        ("L( `".toList ++ r)) = some ((toString f.line).toList.reverse, "L( `".toList ++ r) := by
      refine run?_append (by simp) (fun c hc => ?_) ?_
      · exact isDigit_of_mem_toString (List.mem_reverse.mp hc)
      · rintro c ⟨⟩
        rfl
    simp only [readNamed?, hback, skip?_self, hrun, Option.bind_eq_bind, Option.bind_some,
      List.reverse_reverse, readAscii?_toString]
    rfl

/-- **An entry with a size is read back.** -/
lemma readable_blockEntry (f : Located Nat) : Readable '—' readSized? f (blockEntry f) where
  solid := by
    refine ⟨⟨notMem_blockEntry f rfl (by decide), ?_⟩, ?_⟩
    · rw [toList_blockEntry, List.getLast?_append_of_ne_nil _ (by simp),
        List.getLast?_append_of_ne_nil _ (by simp), List.getLast?_append_of_ne_nil _ (by simp),
        List.getLast?_append_of_ne_nil _ (by simp)]
      rfl
    · rw [toList_blockEntry]
      rfl
  comma := notMem_blockEntry f rfl (by decide)
  stop := notMem_blockEntry f rfl (by decide)
  read_eq := by
    have hline := run?_digits f.line
      (r := " (".toList ++ ((toString f.item).toList ++ " lines)".toList)) (by rintro c ⟨⟩; rfl)
    have hsize := run?_digits f.item (r := " lines)".toList) (by rintro c ⟨⟩; rfl)
    simp only [readSized?, toList_blockEntry, skip?_self, hline, hsize, Option.bind_eq_bind,
      Option.bind_some, readAscii?_toString, beq_self_eq_true, if_true]
    rfl

/-! ## Messages -/

/-- **The message on unused imports lists their names**, each with its line. -/
lemma namesIn?_unusedImports {found : List (Located Text)} (hne : found ≠ [])
    (h : ∀ f ∈ found, ',' ∉ f.item ∧ '\n' ∉ f.item) :
    namesIn? (unusedImports found).message = some found := by
  have hrange : ':' ∉ (lineRange found).toList := notMem_lineRange rfl (by decide) found
  have hopening : ("🧹 **Unused imports (" ++ lineRange found ++ ")**: ").toList
      = ("🧹 **Unused imports (" ++ lineRange found ++ ")**").toList ++ [':', ' '] := by
    simp
  have hcolon : ':' ∉ ("🧹 **Unused imports (" ++ lineRange found ++ ")**").toList := by
    simp [hrange]
  exact entriesIn?_eq _ "\n\n" rfl hopening rfl hne
    (fun f hf => readable_namedEntry (h f hf).1 (h f hf).2) hcolon (by decide) (Or.inl rfl)

/-- **The message on large markup lists its blocks**, each with its number of lines. -/
lemma sizesIn?_largeMarkup {found : List (Located Nat)} (hne : found ≠ []) :
    sizesIn? (largeMarkup found).message = some found :=
  entriesIn?_eq "🧩 **Large JSX block(s)**: " " — Extract sections into subcomponents " rfl
    (show _ = "🧩 **Large JSX block(s)**".toList ++ _ from rfl) (show _ = [' '] ++ '—' :: _ from rfl)
    hne (fun f _ => readable_blockEntry f) (by decide) (by decide) (Or.inr rfl)

end Diagnosis

end ReactLint
