import Mathlib.Data.List.Forall2
import ReactLint.Proofs.Finding.Category
import ReactLint.Proofs.Finding.Name

/-!
# What messages enumerate

A message lists what was found.  This file reads the list back off the message; there is none only
in what is said about the size of a file and about its level.

**Reading.**  A list is read part by part, a comma ending each part, and a part stands for the line
that it names last (`linesNamed`).  A text that names no line and has no comma can be skipped
(`linesNamed_append`), so what is read depends on the entries alone.

**Entries.**  There are five kinds of entries, and reading one leads to the line of its finding,
whatever follows (`Reads`).  This is where the names have to be legible.

**Messages.**  Each message opens with words that are skipped, up to a blank or a parenthesis, and
closes with words that name no line (`worded_message`).  Some open with a number (`countIn?`); it is
the length of the list.

**Anchors.**  The lines of the list are in order, so the issue stands on the first of them.  Only
where several components share a file it stands on the second, since the first is in its place.
-/

namespace ReactLint

open Text

/-! ## Reading a list -/

/-- A character that a line may be named behind. -/
def opensLine (c : Char) : Bool := c == ' ' || c == '('

/-- The line that is named at the start of a text, by an `L` and its number. -/
def lineAt? (t : Text) : Option Nat :=
  (skip? "L" t).bind fun t => readAscii? (t.takeWhile Char.isDigit)

/-- The lines that a list names.  Each part of it, up to a comma, stands for the line that it names
last, if any; `last` is that line for the part which is being read. -/
def linesNamed (last : Option Nat) : Text → List Nat
  | [] => last.toList
  | c :: cs =>
    if c == ',' then last.toList ++ linesNamed none cs
    else linesNamed (if opensLine c then (lineAt? cs).or last else last) cs

/-- The lines of what a message enumerates. -/
def enumerated (message : String) : List Nat := linesNamed none message.toList

/-- The number that a message opens with, in bold type. -/
def countIn? (message : Text) : Option Nat :=
  (skip? "**" (message.dropWhile (· != '*'))).bind fun t => readAscii? (t.takeWhile Char.isDigit)

/-- Whether a text starts with an `L`, with a number or nothing behind it. -/
def startsLine (t : Text) : Bool := (skip? "L" t).any fun u => u.head?.all Char.isDigit

/-- Whether a text names no line, whatever number follows it. -/
def isMute : Text → Bool
  | [] => true
  | c :: cs => !(opensLine c && startsLine cs) && isMute cs

/-- A text that can be skipped. -/
def Quiet (t : Text) : Prop := isMute t = true ∧ ',' ∉ t

instance (t : Text) : Decidable (Quiet t) := inferInstanceAs (Decidable (_ ∧ _))

lemma lineAt?_cons (t : Text) : lineAt? ('L' :: t) = readAscii? (t.takeWhile Char.isDigit) := rfl

lemma linesNamed_comma (last : Option Nat) (t : Text) :
    linesNamed last (',' :: t) = last.toList ++ linesNamed none t := rfl

lemma startsLine_of_head? {t : Text} (h : t.head? ≠ some 'L') : startsLine t = false := by
  cases t with
  | nil => rfl
  | cons c t =>
      have hc : 'L' ≠ c := fun heq => h (by rw [← heq, List.head?_cons])
      simp [startsLine, skip?, after?, hc]

lemma startsLine_append {t u : Text} (h : startsLine t = false) (hu : u.head? ≠ some 'L') :
    startsLine (t ++ u) = false := by
  cases t with
  | nil => exact startsLine_of_head? hu
  | cons c t =>
      by_cases hc : c = 'L'
      · subst hc
        cases t with
        | nil => exact absurd h (by decide)
        | cons d t => exact h
      · exact startsLine_of_head? (by simpa using hc)

lemma lineAt?_of_startsLine {t : Text} (h : startsLine t = false) : lineAt? t = none := by
  rw [lineAt?, Option.bind_eq_none_iff]
  intro u hu
  rw [startsLine, hu, Option.any_some] at h
  cases u with
  | nil => exact absurd h (by decide)
  | cons c u =>
      rw [List.takeWhile_cons_of_neg (by simpa using h)]
      rfl

lemma linesNamed_cons {last : Option Nat} {c : Char} (hc : c ≠ ',') {t : Text}
    (h : opensLine c = false ∨ startsLine t = false) :
    linesNamed last (c :: t) = linesNamed last t := by
  rw [linesNamed, if_neg (by simpa using hc)]
  rcases h with h | h
  · rw [h, if_neg Bool.false_ne_true]
  · rw [lineAt?_of_startsLine h, Option.none_or, ite_self]

lemma isMute_cons {c : Char} {t : Text} :
    isMute (c :: t) ↔ (opensLine c = false ∨ startsLine t = false) ∧ isMute t := by
  rw [isMute, Bool.and_eq_true, Bool.not_eq_true', Bool.and_eq_false_iff]

/-- A text that names no line adds none. -/
lemma linesNamed_of_isMute {t : Text} (h : isMute t) (last : Option Nat) :
    linesNamed last t = last.toList := by
  induction t generalizing last with
  | nil => rfl
  | cons c t ih =>
      obtain ⟨hhead, ht⟩ := isMute_cons.mp h
      by_cases hc : c = ','
      · rw [linesNamed, if_pos (by simpa using hc), ih ht, Option.toList_none, List.append_nil]
      · rw [linesNamed_cons hc hhead, ih ht]

/-- **A quiet text is skipped**, when no `L` follows it. -/
lemma linesNamed_append {t u : Text} (h : Quiet t) (hu : u.head? ≠ some 'L') (last : Option Nat) :
    linesNamed last (t ++ u) = linesNamed last u := by
  obtain ⟨hmute, hcomma⟩ := h
  induction t with
  | nil => rfl
  | cons c t ih =>
      obtain ⟨hhead, ht⟩ := isMute_cons.mp hmute
      rw [List.mem_cons, not_or] at hcomma
      rw [← ih ht hcomma.2, List.cons_append]
      exact linesNamed_cons (Ne.symm hcomma.1) (hhead.imp_right fun h => startsLine_append h hu)

lemma isMute_append {s t : Text} (hs : isMute s) (ht : isMute t) (hhead : t.head? ≠ some 'L') :
    isMute (s ++ t) := by
  induction s with
  | nil => exact ht
  | cons c s ih =>
      obtain ⟨hc, hs⟩ := isMute_cons.mp hs
      exact isMute_cons.mpr ⟨hc.imp_right fun h => startsLine_append h hhead, ih hs⟩

/-- What follows a number does not go on with it. -/
def EndsNumber (u : Text) : Prop := u.head?.any Char.isAlphanum = false

lemma endsNumber_append {t : Text} (ht : t.head?.any fun c => !c.isAlphanum) (u : Text) :
    EndsNumber (t ++ u) := by
  cases t with
  | nil => exact absurd ht (by decide)
  | cons c t => simpa [EndsNumber] using ht

lemma EndsNumber.head?_ne {u : Text} (h : EndsNumber u) {c : Char} (hc : c.isAlphanum) :
    u.head? ≠ some c := by
  intro hhead
  rw [EndsNumber, hhead, Option.any_some, hc] at h
  exact absurd h (by decide)

lemma EndsNumber.takeWhile_append {u : Text} (h : EndsNumber u) (t : Text) :
    (t ++ u).takeWhile Char.isDigit = t.takeWhile Char.isDigit := by
  refine takeWhile_append_of_head? (fun c hc => ?_) t
  rw [Bool.eq_false_iff]
  intro hdigit
  exact h.head?_ne (by rw [Char.isAlphanum, hdigit, Bool.or_true]) hc

lemma lineAt?_append {u : Text} (hu : EndsNumber u) (t : Text) : lineAt? (t ++ u) = lineAt? t := by
  cases t with
  | nil => exact lineAt?_of_startsLine (startsLine_of_head? (hu.head?_ne rfl))
  | cons c t =>
      by_cases hc : c = 'L'
      · rw [hc, List.cons_append, lineAt?_cons, lineAt?_cons, hu.takeWhile_append]
      · have hnone (v : Text) : lineAt? (c :: v) = none :=
          lineAt?_of_startsLine (startsLine_of_head? (by simpa using hc))
        rw [List.cons_append, hnone, hnone]

/-- A text without commas may change the line that its part names last, but nothing else. -/
lemma exists_linesNamed_append {t : Text} (h : ',' ∉ t) (last : Option Nat) :
    ∃ last', ∀ u, EndsNumber u → linesNamed last (t ++ u) = linesNamed last' u := by
  induction t generalizing last with
  | nil => exact ⟨last, fun u _ => rfl⟩
  | cons c t ih =>
      rw [List.mem_cons, not_or] at h
      obtain ⟨last', hlast⟩ := ih h.2 (if opensLine c then (lineAt? t).or last else last)
      refine ⟨last', fun u hu => ?_⟩
      rw [List.cons_append, linesNamed, if_neg (by simpa using Ne.symm h.1), lineAt?_append hu]
      exact hlast u hu

lemma Unmarked.quiet {t : Text} (h : Unmarked t) : Quiet t := by
  refine ⟨?_, h.comma_notMem⟩
  induction t with
  | nil => rfl
  | cons c t ih =>
      have hc : opensLine c = false := by
        have hmark := h c List.mem_cons_self
        simp only [listMarks, List.mem_cons, List.not_mem_nil, or_false, not_or] at hmark
        simp [opensLine, hmark]
      exact isMute_cons.mpr ⟨Or.inl hc, ih fun d hd => h d (List.mem_cons_of_mem _ hd)⟩

lemma unmarked_toString (n : Nat) : Unmarked (toString n).toList := by
  intro c hc hmark
  have hdigit := isDigit_of_mem_toString hc
  simp only [listMarks, List.mem_cons, List.not_mem_nil, or_false] at hmark
  rcases hmark with rfl | rfl | rfl <;> exact absurd hdigit (by decide)

lemma head?_toString_append (n : Nat) (u : Text) :
    ((toString n).toList ++ u).head? ≠ some 'L' := by
  rw [List.head?_append_of_ne_nil _ (toString_ne_nil n)]
  intro hhead
  exact absurd (isDigit_of_mem_toString (List.mem_of_mem_head? hhead)) (by decide)

lemma readAscii?_takeWhile (n : Nat) {u : Text} (hu : EndsNumber u) :
    readAscii? (((toString n).toList ++ u).takeWhile Char.isDigit) = some n := by
  have hdigits : (toString n).toList.takeWhile Char.isDigit = (toString n).toList :=
    List.takeWhile_eq_self_iff.mpr fun c hc => isDigit_of_mem_toString hc
  rw [hu.takeWhile_append, hdigits, readAscii?_toString]

/-- **Where a line is named, it is read.** -/
lemma linesNamed_line {c : Char} (hc : opensLine c = true) (n : Nat) {u : Text} (hu : EndsNumber u)
    (last : Option Nat) :
    linesNamed last (c :: 'L' :: ((toString n).toList ++ u)) = linesNamed (some n) u := by
  have hcomma : ¬ (c == ',') = true := by
    intro heq
    rw [beq_iff_eq.mp heq] at hc
    exact absurd hc (by decide)
  rw [linesNamed, if_neg hcomma, hc, if_pos rfl, lineAt?_cons, readAscii?_takeWhile n hu,
    Option.some_or, linesNamed_cons (by decide) (Or.inl rfl),
    linesNamed_append (unmarked_toString n).quiet (hu.head?_ne rfl)]

lemma linesNamed_line_closed {c : Char} (hc : opensLine c = true) (n : Nat) {u : Text}
    (hu : EndsNumber u) (last : Option Nat) :
    linesNamed last (c :: 'L' :: ((toString n).toList ++ (")".toList ++ u))) =
      linesNamed (some n) u := by
  rw [linesNamed_line hc n (endsNumber_append rfl u),
    linesNamed_append ⟨rfl, by decide⟩ (hu.head?_ne rfl)]

/-! ## Entries -/

/-- Reading the entry behind a blank leads to its line, whatever follows.  Before it nothing has
been read of its part, or `start`. -/
def Reads (start : Option Nat) (n : Nat) (entry : String) : Prop :=
  ∀ last, last = none ∨ last = start → ∀ u : Text, EndsNumber u →
    linesNamed last (' ' :: (entry.toList ++ u)) = linesNamed (some n) u

namespace Diagnosis

variable {start : Option Nat}

lemma reads_ref (n : Nat) : Reads start n s!"L{n}" := by
  intro last _ u hu
  have hentry : (s!"L{n}").toList = 'L' :: (toString n).toList :=
    String.toList_append (s := "L") (t := toString n)
  rw [hentry, List.cons_append]
  exact linesNamed_line rfl n hu last

lemma reads_namedEntry {f : Located Text} (h : ',' ∉ f.item) :
    Reads start f.line (namedEntry f) := by
  intro last _ u hu
  have hentry : ' ' :: ((namedEntry f).toList ++ u) = (" `".toList ++ f.item ++ "` ".toList) ++
      '(' :: 'L' :: ((toString f.line).toList ++ (")".toList ++ u)) := by
    simp [namedEntry, toString]
  -- the name may itself look like a line, but the line behind it is read later
  obtain ⟨last', hlast⟩ := exists_linesNamed_append (t := " `".toList ++ f.item ++ "` ".toList)
    (by simpa using h) last
  rw [hentry, hlast, linesNamed_line_closed rfl _ hu]
  exact endsNumber_append (t := ['(']) rfl _

lemma reads_sizedEntry {unit : String} (hunit : Unmarked unit.toList)
    (hhead : ∀ u, (unit.toList ++ u).head? ≠ some 'L') {f : Located Measured}
    (h : Unmarked f.item.name) : Reads none f.line (sizedEntry unit f) := by
  intro last hlast u hu
  obtain rfl : last = none := or_self_iff.mp hlast
  have hname : Unmarked ('`' :: f.item.name) := List.forall_mem_cons.mpr ⟨by decide, h⟩
  have hentry : ' ' :: ((sizedEntry unit f).toList ++ u) =
      " ".toList ++ ('`' :: f.item.name ++ ("` (".toList ++ ((toString f.item.size).toList ++
        (" ".toList ++ (unit.toList ++
          (',' :: ' ' :: 'L' :: ((toString f.line).toList ++ (")".toList ++ u)))))))) := by
    simp [sizedEntry, toString]
  have hblank : Quiet " ".toList := ⟨rfl, by decide⟩
  -- up to its comma the entry names no line, so the comma ends nothing
  rw [hentry, linesNamed_append hblank (by simp), linesNamed_append hname.quiet (by simp),
    linesNamed_append ⟨rfl, by decide⟩ (head?_toString_append _ _),
    linesNamed_append (unmarked_toString _).quiet (by simp), linesNamed_append hblank (hhead _),
    linesNamed_append hunit.quiet (by simp), linesNamed_comma, Option.toList_none, List.nil_append,
    linesNamed_line_closed rfl f.line hu]

lemma reads_lines {f : Located Measured} (h : Unmarked f.item.name) :
    Reads none f.line (sizedEntry "lines" f) :=
  reads_sizedEntry (unmarked_of_contains rfl) (fun _ => by simp) h

lemma reads_params {f : Located Measured} (h : Unmarked f.item.name) :
    Reads none f.line (sizedEntry "params" f) :=
  reads_sizedEntry (unmarked_of_contains rfl) (fun _ => by simp) h

lemma reads_hookEntry {f : Located Hook.Misplaced} (h : ',' ∉ f.item.name)
    (hrename : ∀ rename ∈ f.item.rename, Unmarked rename) : Reads start f.line (hookEntry f) := by
  have hname : Reads start f.line (namedEntry ⟨f.line, f.item.name⟩) := reads_namedEntry h
  rw [hookEntry]
  cases hcases : f.item.rename with
  | none => exact hname
  | some rename =>
      intro last hlast u hu
      have hrename : Unmarked ('`' :: rename) :=
        List.forall_mem_cons.mpr ⟨by decide, hrename rename hcases⟩
      have hentry (entry : String) :
          (s!"{entry} → rename to `{String.ofList rename}`").toList ++ u =
            entry.toList ++ (" → rename to ".toList ++ ('`' :: rename ++ ('`' :: u))) := by
        simp [toString]
      rw [hentry, hname last hlast _ (endsNumber_append rfl _),
        linesNamed_append ⟨rfl, by decide⟩ (by simp),
        linesNamed_append hrename.quiet (by simp)]
      exact linesNamed_cons (by decide) (Or.inl rfl)

lemma reads_blockEntry (f : Located Nat) : Reads start f.line (blockEntry f) := by
  intro last _ u hu
  have hentry : (blockEntry f).toList ++ u = 'L' :: ((toString f.line).toList ++ (" (".toList ++
      ((toString f.item).toList ++ (" lines)".toList ++ u)))) := by
    simp [blockEntry, toString]
  rw [hentry, linesNamed_line rfl _ (endsNumber_append rfl _), linesNamed_append ⟨rfl, by decide⟩
    (head?_toString_append _ _), linesNamed_append (unmarked_toString _).quiet (by simp),
    linesNamed_append ⟨rfl, by decide⟩ (hu.head?_ne rfl)]

/-- **A list is read entry by entry**: the comma behind an entry ends its part. -/
lemma linesNamed_list {lines : List Nat} {entries : List String} {closing : Text}
    (h : List.Forall₂ (Reads start) lines entries) (hne : lines ≠ []) (hends : EndsNumber closing)
    (hmute : isMute closing) {last : Option Nat} (hlast : last = none ∨ last = start) :
    linesNamed last (' ' :: ((", ".intercalate entries).toList ++ closing)) = lines := by
  induction h generalizing last with
  | nil => exact absurd rfl hne
  | @cons n entry lines entries hentry hrest ih =>
      cases hrest with
      | nil =>
          rw [String.intercalate_singleton, hentry last hlast closing hends,
            linesNamed_of_isMute hmute]
          rfl
      | @cons m next lines entries hnext hrest =>
          rw [String.intercalate_cons_cons, String.toList_append, String.toList_append,
            List.append_assoc, List.append_assoc, hentry last hlast _ (endsNumber_append rfl _)]
          exact congrArg (n :: ·) (ih (List.cons_ne_nil _ _) (Or.inl rfl))

lemma reads_map {α : Type} {entry : Located α → String} {found : List (Located α)}
    (h : ∀ f ∈ found, Reads start f.line (entry f)) :
    List.Forall₂ (Reads start) (found.map Located.line) (found.map entry) := by
  rw [List.forall₂_map_left_iff, List.forall₂_map_right_iff, List.forall₂_same]
  exact h

lemma reads_refs (lines : List Nat) :
    List.Forall₂ (Reads start) lines (lines.map fun n => s!"L{n}") := by
  rw [List.forall₂_map_right_iff, List.forall₂_same]
  intro n _
  exact reads_ref n

/-! ## Messages -/

/-- What a message says before its list: a count, perhaps, and last a character that a line may be
named behind, and it has left `start` to be read in front of the list. -/
structure Opens (opening : String) (start count? : Option Nat) : Prop where
  count : ∀ t, countIn? (opening.toList ++ t) = count?
  reads : ∀ t, linesNamed none (opening.toList ++ t) = linesNamed start (' ' :: t)

/-- What a message may say behind its list. -/
def Closes (t : Text) : Prop := isMute t = true ∧ t.head? ≠ some 'L'

instance (t : Text) : Decidable (Closes t) := inferInstanceAs (Decidable (_ ∧ _))

/-- A message that is put together from an opening, a list of entries and a closing. -/
def Worded (message : String) (lines : List Nat) (count? : Option Nat) : Prop :=
  ∃ start opening entries closing, message = opening ++ ", ".intercalate entries ++ closing ∧
    Opens opening start count? ∧ List.Forall₂ (Reads start) lines entries ∧
    isMute closing.toList ∧ closing.toList.head?.any fun c => !c.isAlphanum

/-- Whether the message opens with the number of things that it lists. -/
def statesCount : Diagnosis → Bool
  | consoleCalls .. | comments .. | tryBlocks .. | effectHooks .. | manyStates ..
  | scatteredConstants .. | manyComponents .. | manyTypes .. => true
  | _ => false

/-- Words that a list may follow: they can be skipped up to the character that they end in. -/
def IsLead (t : Text) : Prop := Quiet t.dropLast ∧ t.getLast?.any opensLine = true

instance (t : Text) : Decidable (IsLead t) := inferInstanceAs (Decidable (_ ∧ _))

lemma append_getLast {t : Text} {c : Char} (h : t.getLast? = some c) (u : Text) :
    t ++ u = t.dropLast ++ c :: u := by
  conv_lhs => rw [← List.dropLast_append_getLast? c h]
  rw [List.append_assoc, List.singleton_append]

/-- The two characters that a line may be named behind are read alike. -/
lemma linesNamed_opensLine {c : Char} (hc : opensLine c = true) (last : Option Nat) (u : Text) :
    linesNamed last (c :: u) = linesNamed last (' ' :: u) := by
  rw [opensLine, Bool.or_eq_true, beq_iff_eq, beq_iff_eq] at hc
  rcases hc with rfl | rfl <;> rfl

lemma IsLead.linesNamed_append {t : Text} (h : IsLead t) (last : Option Nat) (u : Text) :
    linesNamed last (t ++ u) = linesNamed last (' ' :: u) := by
  obtain ⟨c, hlast, hc⟩ := (Option.any_eq_true _ _).mp h.2
  have hL : c ≠ 'L' := by
    rintro rfl
    exact absurd hc (by decide)
  rw [append_getLast hlast, ReactLint.linesNamed_append h.1 (by simpa using hL),
    linesNamed_opensLine hc]

section

variable {s r t : String} {cs ds : Text} {count? : Option Nat}

-- Words are checked as lists of characters: a string would be decoded once for each question.

lemma toList_words (cs : Text) (r : String) (ds u : Text) :
    (String.ofList cs ++ r ++ String.ofList ds).toList ++ u = cs ++ (r.toList ++ (ds ++ u)) := by
  rw [String.toList_append, String.toList_append, String.toList_ofList, String.toList_ofList,
    List.append_assoc, List.append_assoc]

/-- Plain words. -/
lemma opens_words (ht : t = String.ofList cs) (hcount : ∀ u, countIn? (cs ++ u) = count?)
    (hlead : IsLead cs) : Opens t none count? := by
  subst ht
  refine ⟨fun u => ?_, fun u => ?_⟩
  · rw [String.toList_ofList, hcount]
  · rw [String.toList_ofList, hlead.linesNamed_append]

/-- Words with a number in bold type. -/
lemma opens_counted (n : Nat) (hs : s = String.ofList cs) (ht : t = String.ofList ds)
    (hbold : ∀ u, skip? "**" ((cs ++ u).dropWhile (· != '*')) = some u) (hquiet : Quiet cs)
    (hfirst : ds.head?.any fun c => !c.isAlphanum) (hlead : IsLead ds) :
    Opens (s ++ toString n ++ t) none (some n) := by
  subst hs ht
  have hends (u : Text) := endsNumber_append hfirst u
  constructor
  · intro u
    rw [toList_words, countIn?, hbold, Option.bind_some, readAscii?_takeWhile n (hends u)]
  · intro u
    rw [toList_words, linesNamed_append hquiet (head?_toString_append _ _),
      linesNamed_append (unmarked_toString n).quiet ((hends u).head?_ne rfl),
      hlead.linesNamed_append]

/-- Words with something in their middle. -/
lemma exists_opens (hs : s = String.ofList cs) (ht : t = String.ofList ds)
    (hcount : ∀ u, countIn? (cs ++ u) = none) (hcs : ',' ∉ cs) (hr : ',' ∉ r.toList)
    (hds : ',' ∉ ds.dropLast) (hlast : ds.getLast? = some ' ') :
    ∃ start, Opens (s ++ r ++ t) start none := by
  subst hs ht
  obtain ⟨start, hstart⟩ := exists_linesNamed_append (t := cs ++ (r.toList ++ ds.dropLast))
    (by simp [hcs, hr, hds]) none
  refine ⟨start, fun u => by rw [toList_words, hcount], fun u => ?_⟩
  have hread := hstart (' ' :: u) (endsNumber_append (t := [' ']) rfl u)
  rw [List.append_assoc, List.append_assoc] at hread
  rw [toList_words, append_getLast hlast, hread]

lemma closes_words (ht : t = String.ofList cs) (h : Closes cs) : Closes t.toList := by
  rwa [ht, String.toList_ofList]

end

/-- Besides digits a range of lines has two characters. -/
lemma notMem_lineRange {c : Char} (hdigit : c.isDigit = false) (hmarks : c ∉ ['L', '–']) {α : Type}
    (found : List (Located α)) : c ∉ (lineRange found).toList := by
  have hdigits (n : Nat) : c ∉ Nat.toDigits 10 n := by
    have hdigits := notMem_toString hdigit n
    rwa [Nat.toString_eq_ofList_toDigits, String.toList_ofList] at hdigits
  rw [List.mem_cons, List.mem_singleton, not_or] at hmarks
  rw [lineRange]
  split_ifs <;> simp [toString, hdigits, hmarks]

lemma Closes.append {s t : String} (hs : Closes s.toList) (ht : Closes t.toList) :
    Closes (s ++ t).toList := by
  rw [String.toList_append]
  refine ⟨isMute_append hs.1 ht.1 ht.2, ?_⟩
  cases hchars : s.toList with
  | nil => exact ht.2
  | cons c cs =>
      rw [hchars] at hs
      exact hs.2

lemma closes_toString (n : Nat) : Closes (toString n).toList := by
  have hhead := head?_toString_append n []
  rw [List.append_nil] at hhead
  exact ⟨(unmarked_toString n).quiet.1, hhead⟩

lemma closes_toString_int (z : Int) : Closes (toString z).toList := by
  cases z with
  | ofNat n => exact closes_toString n
  | negSucc n => exact Closes.append (s := "-") (by decide) (closes_toString (n + 1))

lemma closes_consoleAdvice (inCatch : Bool) : Closes (consoleAdvice inCatch).toList := by
  refine Closes.append (closes_words rfl (by decide)) ?_
  cases inCatch with
  | false => exact closes_words (t := "") rfl (by decide)
  | true => exact closes_words rfl (by decide)

lemma Worded.append {message : String} {lines : List Nat} {count? : Option Nat}
    (h : Worded message lines count?) {rest : String} (hrest : Closes rest.toList) :
    Worded (message ++ rest) lines count? := by
  obtain ⟨start, opening, entries, closing, rfl, hopens, hentries, hclosing, hfirst⟩ := h
  refine ⟨start, opening, entries, closing ++ rest, String.append_assoc, hopens, hentries, ?_, ?_⟩
  · rw [String.toList_append]
    exact isMute_append hclosing hrest.1 hrest.2
  · obtain ⟨c, hc, hne⟩ := (Option.any_eq_true _ _).mp hfirst
    rw [String.toList_append, List.head?_append, hc]
    exact hne

lemma Worded.enumerated_eq {message : String} {lines : List Nat} {count? : Option Nat}
    (h : Worded message lines count?) (hne : lines ≠ []) : enumerated message = lines := by
  obtain ⟨start, opening, entries, closing, rfl, hopens, hentries, hclosing, hfirst⟩ := h
  have hends : EndsNumber closing.toList := by
    have hends := endsNumber_append hfirst []
    rwa [List.append_nil] at hends
  rw [enumerated, String.append_assoc, String.toList_append, hopens.reads, String.toList_append]
  exact linesNamed_list hentries hne hends hclosing (Or.inr rfl)

lemma Worded.countIn?_eq {message : String} {lines : List Nat} {count? : Option Nat}
    (h : Worded message lines count?) : countIn? message.toList = count? := by
  obtain ⟨start, opening, entries, closing, rfl, hopens, -, -, -⟩ := h
  rw [String.append_assoc, String.toList_append]
  exact hopens.count _

/-- **Every message enumerates its lines**, if it has any, and where it opens with a number, that is
how many they are. -/
lemma worded_message {d : Diagnosis} (hne : d.lines ≠ []) (hlegible : d.Legible) :
    Worded d.message d.lines (if d.statesCount then some d.lines.length else none) := by
  cases d with
  | fileSize | atomicDesign => exact absurd rfl hne
  | tryBlocks lines =>
      exact Worded.append ⟨none, _, _, ") — ", rfl,
        opens_counted _ rfl rfl (fun _ => rfl) (by decide) (by decide) (by decide),
        reads_refs lines, rfl, rfl⟩ (closes_words rfl (by decide))
  | effectHooks lines =>
      exact Worded.append ⟨none, _, _, _, rfl,
        opens_counted _ rfl rfl (fun _ => rfl) (by decide) (by decide) (by decide),
        reads_refs lines, rfl, rfl⟩ (closes_words rfl (by decide))
  | scatteredConstants found =>
      refine ⟨none, _, _, _, rfl, ?_,
        reads_map fun f hf => reads_namedEntry (hlegible f hf).comma_notMem, rfl, rfl⟩
      rw [lines, List.length_map]
      exact opens_counted _ rfl rfl (fun _ => rfl) (by decide) (by decide) (by decide)
  | unusedImports found =>
      obtain ⟨start, hopens⟩ := exists_opens (s := "🧹 **Unused imports (") (t := ")**: ") rfl rfl
        (fun _ => rfl) (by decide) (notMem_lineRange rfl (by decide) found) (by decide) rfl
      exact Worded.append ⟨start, _, _, "\n\n", rfl, hopens,
        reads_map fun f hf => reads_namedEntry (hlegible f hf), rfl, rfl⟩
        (closes_words rfl (by decide))
  | consoleCalls lines inCatch =>
      exact Worded.append ⟨none, _, _, "\n\n", rfl,
        opens_counted _ rfl rfl (fun _ => rfl) (by decide) (by decide) (by decide),
        reads_refs lines, rfl, rfl⟩ (closes_consoleAdvice inCatch)
  | comments lines =>
      exact Worded.append ⟨none, _, _, "\n\n", rfl,
        opens_counted _ rfl rfl (fun _ => rfl) (by decide) (by decide) (by decide),
        reads_refs lines, rfl, rfl⟩ (closes_words rfl (by decide))
  | disabledCode lines | reminders lines =>
      exact Worded.append ⟨none, _, _, "\n\n", rfl,
        opens_words rfl (fun _ => rfl) (by decide), reads_refs lines, rfl, rfl⟩
        (closes_words rfl (by decide))
  | longFunctions found =>
      exact Worded.append ⟨none, _, _, "\n\n", rfl,
        opens_words rfl (fun _ => rfl) (by decide),
        reads_map fun f hf => reads_lines (hlegible f hf), rfl, rfl⟩ (closes_words rfl (by decide))
  | similarHandlers found =>
      exact Worded.append ⟨none, _, _, _, rfl,
        opens_words rfl (fun _ => rfl) (by decide),
        reads_map fun f hf => reads_namedEntry (hlegible f hf).comma_notMem, rfl, rfl⟩
        (closes_words rfl (by decide))
  | manyParams found =>
      exact Worded.append ⟨none, _, _, "\n\n", rfl,
        opens_words rfl (fun _ => rfl) (by decide),
        reads_map fun f hf => reads_params (hlegible f hf), rfl, rfl⟩ (closes_words rfl (by decide))
  | misplacedHooks found =>
      exact Worded.append ⟨none, _, _, "\n\n", rfl,
        opens_words rfl (fun _ => rfl) (by decide),
        reads_map fun f hf => reads_hookEntry (hlegible f hf).1.comma_notMem (hlegible f hf).2, rfl,
        rfl⟩ (closes_words rfl (by decide))
  | manyStates found limit =>
      refine Worded.append ⟨none, _, _, "\n\n", rfl, ?_,
        reads_map fun f hf => reads_namedEntry (hlegible f hf).comma_notMem, rfl, rfl⟩
        (((closes_words rfl (by decide)).append (closes_toString_int limit)).append
          (closes_words rfl (by decide)))
      rw [lines, List.length_map]
      exact opens_counted _ rfl rfl (fun _ => rfl) (by decide) (by decide) (by decide)
  | largeConstants found limit =>
      exact Worded.append (Worded.append ⟨none, _, _, "\n\n", rfl,
        opens_words rfl (fun _ => rfl) (by decide),
        reads_map fun f hf => reads_lines (hlegible f hf), rfl, rfl⟩ (closes_words rfl (by decide)))
        (((closes_words rfl (by decide)).append (closes_toString_int limit)).append
          (closes_words rfl (by decide)))
  | manyComponents found =>
      refine Worded.append ⟨none, _, _, "\n\n", rfl, ?_,
        reads_map fun f hf => reads_namedEntry (hlegible f hf).comma_notMem, rfl, rfl⟩
        (closes_words rfl (by decide))
      rw [lines, List.length_map]
      exact opens_counted _ rfl rfl (fun _ => rfl) (by decide) (by decide) (by decide)
  | longTypes found =>
      exact Worded.append (Worded.append ⟨none, _, _, "\n\n", rfl,
        opens_words rfl (fun _ => rfl) (by decide),
        reads_map fun f hf => reads_namedEntry (hlegible f hf).comma_notMem, rfl, rfl⟩
        (closes_words rfl (by decide))) (closes_words rfl (by decide))
  | manyTypes found =>
      refine ⟨none, _, _, _, rfl, ?_,
        reads_map fun f hf => reads_namedEntry (hlegible f hf).comma_notMem, rfl, rfl⟩
      rw [lines, List.length_map]
      exact opens_counted _ rfl rfl (fun _ => rfl) (by decide) (by decide) (by decide)
  | largeMarkup found =>
      exact Worded.append ⟨none, _, _, _, rfl,
        opens_words rfl (fun _ => rfl) (by decide),
        reads_map fun f _ => reads_blockEntry f, rfl, rfl⟩ (closes_words rfl (by decide))
  | queries lines | fetches lines =>
      exact Worded.append (Worded.append ⟨none, _, _, "\n\n", rfl,
        opens_words rfl (fun _ => rfl) (by decide), reads_refs lines, rfl, rfl⟩
        (closes_words rfl (by decide))) (closes_words rfl (by decide))

/-! ## Anchors -/

/-- A diagnosis is anchored on the first of its lines, or the second when they are those of
components. -/
lemma head?_anchors (d : Diagnosis) :
    d.anchors.head? = d.lines[if d.category = "multiple-components" then 1 else 0]? := by
  cases d with
  | manyComponents found => exact List.head?_drop
  | _ => exact List.head?_eq_getElem?

end Diagnosis

/-- **The issues about a part of a file list what they are about.**  Behind every such issue is a
diagnosis of the rule, and the lines that the message enumerates are those of its findings, in their
order.  There is at least one, and they are lines of the file which do not decrease.  When the
message opens with a number, that is how many they are.  The issue stands on the first of them, and
on the second when they are those of several components. -/
theorem inline_issues_enumerate_lines (r : Rule) (t : Thresholds) (s : Source) (i : Issue)
    (hi : i ∈ r.check t s) (hinline : i.fileLevel = false) :
    enumerated i.message ≠ [] ∧
      (enumerated i.message).Pairwise (· ≤ ·) ∧
      (∀ n ∈ enumerated i.message, 1 ≤ n ∧ n ≤ s.lineCount) ∧
      (∃ n : Nat, (enumerated i.message)[if i.category = "multiple-components" then 1 else 0]? =
        some n ∧ i.line = n) ∧
      ∃ d ∈ r.diagnose t s, d.issues = [i] ∧ enumerated i.message = d.lines ∧
        countIn? i.message.toList =
          (if d.statesCount then some (enumerated i.message).length else none) := by
  obtain ⟨d, hd, hid⟩ := List.mem_flatMap.mp hi
  have hpart : d.isFileLevel = false := (mem_issues hid).2.2.1.symm.trans hinline
  have horder := lines_of_mem_diagnose hd
  have hissues := issues_of_sorted hpart (horder.sorted.sublist (anchors_sublist d))
  rw [d.head?_anchors] at hissues
  cases hfirst : d.lines[if d.category = "multiple-components" then 1 else 0]? with
  | none => simp [hissues, hfirst] at hid
  | some n =>
      rw [hfirst] at hissues
      obtain rfl : i = ⟨n, d.message, .warn, d.category, false⟩ := by simpa [hissues] using hid
      have hne : d.lines ≠ [] := List.ne_nil_of_mem (List.mem_of_getElem? hfirst)
      have hworded := Diagnosis.worded_message hne (legible_of_mem_diagnose hd)
      have hlines := hworded.enumerated_eq hne
      dsimp only
      rw [hlines]
      refine ⟨hne, horder.sorted, fun m hm => ?_, ⟨n, hfirst, rfl⟩, d, hd, hissues, rfl,
        hworded.countIn?_eq⟩
      have hm := horder.bounds m hm
      omega

/-- Two components that are named like lines: the names are not read as such. -/
theorem inline_issues_enumerate_lines_components :
    let content := "function L5() {}\nfunction L6() {}".toList
    let s : Source := ⟨"src/Card.tsx".toList, content⟩
    let i : Issue := ⟨2, "🧩 **2 components in the same file**: `L5` (L1), `L6` (L2)\n\n" ++
      "Give each component its own file. In Atomic Design: 1 file = 1 component.", .warn,
      "multiple-components", false⟩
    i ∈ Rule.components.check .default s ∧ i.fileLevel = false ∧ enumerated i.message = [1, 2] ∧
      ∃ n : Nat, (enumerated i.message)[1]? = some n ∧ i.line = n := by
  intro content s i
  have hi : i ∈ Rule.components.check .default s := by decide +kernel
  exact ⟨hi, rfl, by decide +kernel,
    (inline_issues_enumerate_lines .components .default s i hi rfl).2.2.2.1⟩

end ReactLint
