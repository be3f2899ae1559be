import ReactLint.Proofs.Finding.Category
import ReactLint.Proofs.Text.Place
import ReactLint.Proofs.Text.Token

/-!
# Console calls

A console call is `console.` and a method that is reported, with no word character on either side
(`ConsoleCallAt`).  A file's calls are those on lines that are no comments.

**Lines.**  The search for calls takes the first call of each line.  So every line that has a call
is listed once, from the top down (`mem_lines_consoleCalls`, `consoleCallsFrom_strict`).

**The tip.**  Calls inside a `catch` deserve a tip of their own.  Whether it is given is asked of
the first call of each line only (`any_item_consoleCalls`).  On a line with several calls, one of
the others may lie in a `catch` and the first may not; the tip is then missing, unless another line
has its first call in a `catch`.

**Wording.**  The message lists the lines, and it holds the words of the tip just when the tip is
given (`mentions_tip`): no number and no list of lines has a letter of them.
-/

namespace ReactLint

open Text

/-! ## Calls on a line -/

/-- A console call stands at a column of the line. -/
def ConsoleCallAt (line : Text) (column : Nat) : Prop :=
  ∃ a m b, line = a ++ ("console.".toList ++ String.toList m ++ b) ∧ column = a.length ∧
    m ∈ consoleMethods ∧ (∀ c ∈ a.getLast?, isWord c = false) ∧ ∀ c ∈ b.head?, isWord c = false

lemma isConsoleCall_iff {p : Place} :
    isConsoleCall p = true ↔ (∀ c ∈ p.before, isWord c = false) ∧
      ∃ m ∈ consoleMethods, ∃ b, p.rest = "console.".toList ++ String.toList m ++ b ∧
        ∀ c ∈ b.head?, isWord c = false := by
  rw [isConsoleCall, Place.word?, Option.any_eq_true, ← any_isWord_eq_false]
  constructor
  · rintro ⟨t, ht, hmethod⟩
    split_ifs at ht with hbefore
    obtain ⟨m, hm, hskip⟩ := List.any_eq_true.mp hmethod
    obtain ⟨b, hb, hends⟩ := (Option.any_eq_true _ _).mp hskip
    rw [endsWord, Bool.not_eq_true', any_isWord_eq_false] at hends
    refine ⟨by simpa using hbefore, m, hm, b, ?_, hends⟩
    rw [after?_eq_some_iff.mp ht, after?_eq_some_iff.mp hb, List.append_assoc]
  · rintro ⟨hbefore, m, hm, b, hrest, hb⟩
    have hends : endsWord b = true := by
      rw [endsWord, Bool.not_eq_true', any_isWord_eq_false]
      exact hb
    refine ⟨m.toList ++ b, ?_, List.any_eq_true.mpr ⟨m, hm, ?_⟩⟩
    · rw [if_neg (by simp [hbefore]), hrest, List.append_assoc]
      exact after?_append _ _
    · rw [skip?, after?_append, Option.any_some, hends]

/-- The calls of a line are found at its places. -/
lemma consoleCallAt_iff {line : Text} {column : Nat} :
    ConsoleCallAt line column ↔ ∃ p, (places line)[column]? = some p ∧ isConsoleCall p = true := by
  constructor
  · rintro ⟨a, m, b, rfl, rfl, hm, ha, hb⟩
    refine ⟨⟨a.getLast?, "console.".toList ++ m.toList ++ b⟩, ?_, ?_⟩
    · rw [getElem?_places, if_pos (by simp), List.take_left, List.drop_left]
    · exact isConsoleCall_iff.mpr ⟨ha, m, hm, b, rfl, hb⟩
  · rintro ⟨p, hp, hcall⟩
    rw [getElem?_places] at hp
    split_ifs at hp with hle
    obtain rfl := Option.some.inj hp
    obtain ⟨ha, m, hm, b, hrest, hb⟩ := isConsoleCall_iff.mp hcall
    refine ⟨line.take column, m, b, ?_, ?_, hm, ha, hb⟩
    · rw [← hrest, List.take_append_drop]
    · rw [List.length_take, Nat.min_eq_left hle]

lemma consoleColumn?_eq_some_iff {line : Text} {column : Nat} :
    consoleColumn? line = some column ↔
      ConsoleCallAt line column ∧ ∀ k < column, ¬ ConsoleCallAt line k := by
  simp only [consoleColumn?, List.findIdx?_eq_some_iff_getElem, consoleCallAt_iff]
  constructor
  · rintro ⟨hlt, hcall, hfirst⟩
    refine ⟨⟨_, List.getElem?_eq_getElem hlt, hcall⟩, ?_⟩
    rintro k hk ⟨p, hp, hp'⟩
    obtain ⟨hklt, rfl⟩ := List.getElem?_eq_some_iff.mp hp
    exact hfirst k hk hp'
  · rintro ⟨⟨p, hp, hcall⟩, hfirst⟩
    obtain ⟨hlt, rfl⟩ := List.getElem?_eq_some_iff.mp hp
    refine ⟨hlt, hcall, fun k hk hk' => hfirst k hk ⟨_, List.getElem?_eq_getElem _, hk'⟩⟩

/-- A line that has a call has a first one. -/
lemma exists_consoleColumn? {line : Text} {column : Nat} (h : ConsoleCallAt line column) :
    ∃ first, consoleColumn? line = some first := by
  obtain ⟨p, hp, hcall⟩ := consoleCallAt_iff.mp h
  rw [← Option.isSome_iff_exists, consoleColumn?, List.findIdx?_isSome, List.any_eq_true]
  exact ⟨p, List.mem_of_getElem? hp, hcall⟩

/-! ## Calls of a file -/

/-- A console call of the file: on line `index`, which is no comment, at the column. -/
def HasConsoleCall (lines : List Text) (index column : Nat) : Prop :=
  ∃ l ∈ lines[index]?, isCommentLine l = false ∧ ConsoleCallAt l column

/-- The first console call of line `index`. -/
def IsFirstConsoleCall (lines : List Text) (index column : Nat) : Prop :=
  HasConsoleCall lines index column ∧ ∀ k < column, ¬ HasConsoleCall lines index k

/-- The column of the first call of a line that is no comment. -/
def firstCall? (l : Text) : Option Nat := if isCommentLine l then none else consoleColumn? l

lemma firstCall?_eq_some_iff {l : Text} {column : Nat} :
    firstCall? l = some column ↔ isCommentLine l = false ∧ ConsoleCallAt l column ∧
      ∀ k < column, ¬ ConsoleCallAt l k := by
  rw [firstCall?, ← consoleColumn?_eq_some_iff]
  cases isCommentLine l <;> simp

lemma isFirstConsoleCall_iff {lines : List Text} {index column : Nat} :
    IsFirstConsoleCall lines index column ↔ ∃ l ∈ lines[index]?, firstCall? l = some column := by
  simp only [firstCall?_eq_some_iff]
  constructor
  · rintro ⟨⟨l, hl, hcode, hcall⟩, hfirst⟩
    exact ⟨l, hl, hcode, hcall, fun k hk hk' => hfirst k hk ⟨l, hl, hcode, hk'⟩⟩
  · rintro ⟨l, hl, hcode, hcall, hfirst⟩
    refine ⟨⟨l, hl, hcode, hcall⟩, ?_⟩
    rintro k hk ⟨l', hl', -, hk'⟩
    obtain rfl := Option.some.inj (hl.symm.trans hl')
    exact hfirst k hk hk'

/-- A line of the file that has a call has a first one. -/
lemma HasConsoleCall.exists_first {lines : List Text} {index column : Nat}
    (h : HasConsoleCall lines index column) : ∃ first, IsFirstConsoleCall lines index first := by
  obtain ⟨l, hl, hcode, hcall⟩ := h
  obtain ⟨first, hfirst⟩ := exists_consoleColumn? hcall
  refine ⟨first, isFirstConsoleCall_iff.mpr ⟨l, hl, ?_⟩⟩
  rw [firstCall?, hcode, if_neg Bool.false_ne_true, hfirst]

/-- What is found among the lines `below`: the first call of each, with whether it lies in a
`catch`. -/
lemma mem_consoleCallsFrom {above below : List Text} {n : Nat} {f : Located Bool} :
    f ∈ consoleCallsFrom above n below ↔
      ∃ i column, IsFirstConsoleCall below i column ∧
        f = ⟨n + i, insideCatch (above.reverse ++ below) (above.length + i : Nat) column⟩ := by
  simp only [isFirstConsoleCall_iff]
  induction below generalizing above n with
  | nil => simp [consoleCallsFrom]
  | cons l below ih =>
      have hlines : (l :: above).reverse ++ below = above.reverse ++ l :: below := by simp
      rw [consoleCallsFrom, List.mem_append, ih, hlines]
      constructor
      · rintro (hhere | ⟨i, column, ⟨l', hl', hcall⟩, rfl⟩)
        · obtain ⟨column, hcolumn, rfl⟩ := List.mem_map.mp hhere
          exact ⟨0, column, ⟨l, rfl, Option.mem_toList.mp hcolumn⟩, rfl⟩
        · refine ⟨i + 1, column, ⟨l', hl', hcall⟩, ?_⟩
          rw [List.length_cons, Nat.add_assoc, Nat.add_comm 1 i, Nat.add_assoc, Nat.add_comm 1 i]
      · rintro ⟨i, column, ⟨l', hl', hcall⟩, rfl⟩
        cases i with
        | zero =>
            obtain rfl := Option.some.inj hl'
            exact Or.inl (List.mem_map.mpr ⟨column, Option.mem_toList.mpr hcall, rfl⟩)
        | succ i =>
            refine Or.inr ⟨i, column, ⟨l', hl', hcall⟩, ?_⟩
            rw [List.length_cons, Nat.add_assoc, Nat.add_comm 1 i, Nat.add_assoc, Nat.add_comm 1 i]

lemma mem_consoleCalls {lines : List Text} {f : Located Bool} :
    f ∈ consoleCalls lines ↔ ∃ i column, IsFirstConsoleCall lines i column ∧
      f = ⟨i + 1, insideCatch lines i column⟩ := by
  simp only [consoleCalls, mem_consoleCallsFrom, List.reverse_nil, List.nil_append, List.length_nil,
    Nat.zero_add, Nat.add_comm 1]

/-- **Lines**: those that have a call, each once and from the top down. -/
lemma mem_lines_consoleCalls {lines : List Text} {n : Nat} :
    n ∈ (consoleCalls lines).map Located.line ↔
      ∃ i column, n = i + 1 ∧ HasConsoleCall lines i column := by
  simp only [List.mem_map, mem_consoleCalls]
  constructor
  · rintro ⟨f, ⟨i, column, hfirst, rfl⟩, rfl⟩
    exact ⟨i, column, rfl, hfirst.1⟩
  · rintro ⟨i, column, rfl, hcall⟩
    obtain ⟨first, hfirst⟩ := hcall.exists_first
    exact ⟨_, ⟨i, first, hfirst, rfl⟩, rfl⟩

lemma consoleCallsFrom_strict (above : List Text) (n : Nat) (below : List Text) :
    ((consoleCallsFrom above n below).map Located.line).Pairwise (· < ·) := by
  induction below generalizing above n with
  | nil => exact List.Pairwise.nil
  | cons l below ih =>
      have hinOrder := consoleCallsFrom_inOrder (l :: above) (n + 1) below
      rw [consoleCallsFrom, List.map_append]
      refine InOrder.strict_step ?_ ?_ hinOrder (ih (l :: above) (n + 1))
      · simp +contextual
      · split_ifs
        · simp
        · cases consoleColumn? l <;> simp

/-- **The tip**: it is asked of the first call of each line. -/
lemma any_item_consoleCalls {lines : List Text} :
    (consoleCalls lines).any Located.item = true ↔
      ∃ i column, IsFirstConsoleCall lines i column ∧ insideCatch lines i column = true := by
  simp only [List.any_eq_true, mem_consoleCalls]
  constructor
  · rintro ⟨f, ⟨i, column, hfirst, rfl⟩, hcatch⟩
    exact ⟨i, column, hfirst, hcatch⟩
  · rintro ⟨i, column, hfirst, hcatch⟩
    exact ⟨_, ⟨i, column, hfirst, rfl⟩, hcatch⟩

/-! ## The message -/

/-- A list of lines has no letter but `L`. -/
lemma notMem_lineRefs {c : Char} (hc : c.isDigit = false) (hmarks : c ∉ "L, ".toList)
    (ns : List Nat) : c ∉ (lineRefs ns).toList := by
  have hsep : c ∉ ", ".toList := fun h => hmarks (List.mem_cons_of_mem _ h)
  rw [lineRefs, String.toList_intercalate, List.map_map]
  refine notMem_intercalate hsep ?_
  simp only [List.mem_map, Function.comp_apply, forall_exists_index, and_imp,
    forall_apply_eq_imp_iff₂]
  intro n _
  have hL : c ≠ 'L' := fun h => hmarks (h ▸ by decide)
  have htext : (s!"L{n}").toList = 'L' :: (toString n).toList :=
    String.toList_append (s := "L") (t := toString n)
  rw [htext, List.mem_cons, not_or]
  exact ⟨hL, notMem_toString hc n⟩

/-- **Wording**: the message has the words of the tip just when the tip is given. -/
lemma mentions_tip (ns : List Nat) (inCatch : Bool) :
    mentions "toast.error()" (Diagnosis.consoleCalls ns inCatch).message.toList = inCatch := by
  have hmessage : (Diagnosis.consoleCalls ns inCatch).message.toList =
      "🧹 **".toList ++ ((toString ns.length).toList ++ (" console call(s) detected** — ".toList ++
        ((lineRefs ns).toList ++
          ("\n\n".toList ++ (Diagnosis.consoleAdvice inCatch).toList)))) := by
    have hparts : (Diagnosis.consoleCalls ns inCatch).message =
        "🧹 **" ++ toString ns.length ++ " console call(s) detected** — " ++ lineRefs ns ++
          "\n\n" ++ Diagnosis.consoleAdvice inCatch := rfl
    rw [hparts]
    simp only [String.toList_append, List.append_assoc]
  have hfixed (t : Text) : occurs "toast.error()".toList
      (" console call(s) detected** — ".toList ++ t) = occurs "toast.error()".toList t := rfl
  have hcount : 't' ∉ (toString ns.length).toList := notMem_toString (by decide) _
  have hrefs : 't' ∉ (lineRefs ns).toList := notMem_lineRefs (by decide) (by decide) ns
  have hword : "toast.error()".toList = 't' :: "oast.error()".toList := rfl
  rw [mentions, hmessage, hword, occurs_append_of_notMem (by decide),
    occurs_append_of_notMem hcount, ← hword, hfixed, hword, occurs_append_of_notMem hrefs,
    occurs_append_of_notMem (by decide)]
  cases inCatch <;> decide

/-! ## The rule -/

section Rule

variable (t : Thresholds) (s : Source)

lemma check_consoleCalls :
    let ns := (consoleCalls s.lines).map Located.line
    Rule.consoleCalls.check t s = (ns.head?.map fun (n : Nat) =>
      (⟨n, (Diagnosis.consoleCalls ns ((consoleCalls s.lines).any Located.item)).message, .warn,
        "console-log", false⟩ : Issue)).toList := by
  intro ns
  rw [Rule.check, Rule.diagnose, Rule.diagnoseConsole, List.flatMap_singleton]
  exact issues_of_sorted (d := .consoleCalls ns _) rfl
    (consoleCallsFrom_inOrder [] 1 s.lines).sorted

lemma check_consoleCalls_ne_nil :
    Rule.consoleCalls.check t s ≠ [] ↔ ∃ i column, HasConsoleCall s.lines i column := by
  have hmem (n : Nat) : n ∈ (consoleCalls s.lines).map Located.line ↔
      ∃ i column, n = i + 1 ∧ HasConsoleCall s.lines i column := mem_lines_consoleCalls
  have hissues := check_consoleCalls t s
  cases hns : (consoleCalls s.lines).map Located.line with
  | nil =>
      rw [hns] at hissues hmem
      rw [hissues]
      refine iff_of_false (fun h => h rfl) ?_
      rintro ⟨i, column, hcall⟩
      exact List.not_mem_nil ((hmem (i + 1)).mpr ⟨i, column, rfl, hcall⟩)
  | cons n ns =>
      rw [hns] at hissues hmem
      obtain ⟨i, column, -, hcall⟩ := (hmem n).mp List.mem_cons_self
      rw [hissues]
      exact iff_of_true (List.cons_ne_nil _ _) ⟨i, column, hcall⟩

/-- The tip is given for the first calls of the lines. -/
lemma gives_tip_iff :
    (∃ i ∈ Rule.consoleCalls.check t s, mentions "toast.error()" i.message.toList = true) ↔
      ∃ i column, IsFirstConsoleCall s.lines i column ∧ insideCatch s.lines i column = true := by
  rw [← any_item_consoleCalls, check_consoleCalls]
  constructor
  · rintro ⟨i, hi, htext⟩
    obtain ⟨n, -, rfl⟩ := Option.map_eq_some_iff.mp (Option.mem_toList.mp hi)
    rwa [mentions_tip] at htext
  · intro hany
    obtain ⟨f, hf, -⟩ := List.any_eq_true.mp hany
    obtain ⟨n, ns, hns⟩ := List.exists_cons_of_ne_nil
      (List.ne_nil_of_mem (List.mem_map_of_mem (f := Located.line) hf))
    rw [hns]
    exact ⟨_, List.mem_singleton_self _, by rw [mentions_tip]; exact hany⟩

end Rule

/-- **Console calls are listed exactly, and the tip looks at the first call of each line.**  There
is an issue just when a line that is no comment has a console call; it stands on the first of these
lines and lists them from the top down.  It gives the tip on `catch` blocks just when the first call
of some line lies in one.  So the tip is given for a call inside a `catch` wherever it stands on its
line, just when some first call lies in a `catch` as soon as any call does. -/
theorem console_calls_listed_exactly (t : Thresholds) (s : Source) :
    let lines := s.lines
    let ns := (consoleCalls lines).map Located.line
    let inCatch := (consoleCalls lines).any Located.item
    let issues := Rule.consoleCalls.check t s
    let givesTip := ∃ i ∈ issues, mentions "toast.error()" i.message.toList = true
    let someInCatch := ∃ i column, HasConsoleCall lines i column ∧ insideCatch lines i column = true
    let firstInCatch :=
      ∃ i column, IsFirstConsoleCall lines i column ∧ insideCatch lines i column = true
    issues = (ns.head?.map fun (n : Nat) =>
        (⟨n, (Diagnosis.consoleCalls ns inCatch).message, .warn, "console-log", false⟩ :
          Issue)).toList ∧
      ns.Pairwise (· < ·) ∧
      (∀ n, n ∈ ns ↔ ∃ i column, n = i + 1 ∧ HasConsoleCall lines i column) ∧
      (issues ≠ [] ↔ ∃ i column, HasConsoleCall lines i column) ∧
      (givesTip ↔ firstInCatch) ∧
      ((givesTip ↔ someInCatch) ↔ (someInCatch → firstInCatch)) := by
  intro lines ns inCatch issues givesTip someInCatch firstInCatch
  have htip : givesTip ↔ firstInCatch := gives_tip_iff t s
  have hfirst : firstInCatch → someInCatch := by
    rintro ⟨i, column, hcall, hcatch⟩
    exact ⟨i, column, hcall.1, hcatch⟩
  refine ⟨check_consoleCalls t s, consoleCallsFrom_strict [] 1 lines,
    fun n => mem_lines_consoleCalls, check_consoleCalls_ne_nil t s, htip, ?_⟩
  rw [htip]
  exact ⟨fun h => h.mpr, fun h => ⟨hfirst, h⟩⟩

/-- Two calls on one line, the second in a `catch`: the tip is missing. -/
theorem console_tip_misses_second_call :
    let content := "try { console.log(1) } catch (e) { console.error(e) }".toList
    let s : Source := ⟨"src/a.ts".toList, content⟩
    HasConsoleCall s.lines 0 35 ∧ insideCatch s.lines 0 35 = true ∧
      ¬ ∃ i ∈ Rule.consoleCalls.check .default s,
        mentions "toast.error()" i.message.toList = true := by
  intro content s
  have hlines : s.lines = [content] := by decide
  have hcall : ConsoleCallAt content 35 :=
    ⟨content.take 35, "error", "(e) ".toList ++ ['}'], by decide, by decide, by decide,
      any_isWord_eq_false.mp (by decide), any_isWord_eq_false.mp (by decide)⟩
  refine ⟨⟨content, by rw [hlines]; rfl, by decide, hcall⟩, by decide, ?_⟩
  rintro ⟨i, hi, htext⟩
  rw [check_consoleCalls] at hi
  obtain ⟨n, -, rfl⟩ := Option.map_eq_some_iff.mp (Option.mem_toList.mp hi)
  rw [mentions_tip] at htext
  exact absurd htext (by decide)

end ReactLint
