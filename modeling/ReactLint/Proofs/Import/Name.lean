import ReactLint.Import
import ReactLint.Proofs.Text.Place
import ReactLint.Proofs.Text.Trim

/-!
# The names that an import binds

A bound name is part of its statement's text, and neither its first nor its last character is a
blank: a name between braces is trimmed, any other name is an identifier.  The text of a statement
is put together from trimmed lines, so a name holds no newline (`solid_of_mem_names`).

Inside a name there may be blanks: between the braces of `{ a b }` stands the one name `a b`.
-/

namespace ReactLint

open Text

/-! ## Parts of a text -/

namespace Text

/-- What follows a word is part of the text. -/
lemma subset_of_skip? {w : String} {t r : Text} (h : skip? w t = some r) : r ⊆ t := by
  rw [after?_eq_some_iff.mp h]
  exact List.subset_append_right _ _

lemma subset_of_blanks? {t r : Text} (h : blanks? t = some r) : r ⊆ t := by
  cases t with
  | nil => simp [blanks?] at h
  | cons c t =>
      rw [blanks?] at h
      split_ifs at h
      obtain rfl := Option.some.inj h
      exact List.Subset.trans (List.dropWhile_suffix _).subset (List.subset_cons_self c t)

lemma subset_intercalate (sep : Text) {l : Text} {ls : List Text} (h : l ∈ ls) :
    l ⊆ sep.intercalate ls := by
  induction ls with
  | nil => exact absurd h List.not_mem_nil
  | cons first ls ih =>
      cases ls with
      | nil =>
          obtain rfl := List.mem_singleton.mp h
          rw [List.intercalate_singleton]
          exact List.Subset.refl _
      | cons second ls =>
          rw [List.intercalate_cons_cons]
          rcases List.mem_cons.mp h with rfl | h
          · exact List.subset_append_of_subset_left _ (List.subset_append_left _ _)
          · exact List.subset_append_of_subset_right _ (ih h)

/-- Dividing a text at a character makes parts of it. -/
lemma subset_of_mem_splitOn {c : Char} {l t : Text} (h : l ∈ t.splitOn c) : l ⊆ t := by
  have hsub := subset_intercalate [c] h
  rwa [List.intercalate_splitOn] at hsub

/-- A trimmed text starts with no blank. -/
lemma head?_trim_visible (t : Text) : (trim t).head?.all fun c => !isBlank c := by
  obtain ⟨r, hr⟩ := isPrefix_trimEnd (trimStart t)
  have hfirst := List.head?_dropWhile_not isBlank t
  cases htrim : trim t with
  | nil => rfl
  | cons c u =>
      rw [show t.dropWhile isBlank = trim t ++ r from hr.symm, htrim, List.cons_append,
        List.head?_cons] at hfirst
      simp [hfirst]

/-- **A trimmed text is a word**, if anything is left of it. -/
lemma solid_trim {t : Text} (hne : trim t ≠ []) (ht : '\n' ∉ t) : Solid (trim t) := by
  refine ⟨⟨fun hmem => ht (trim_subset t hmem), ?_⟩, ?_⟩
  · have hlast := List.rdropWhile_last_not isBlank (trimStart t) hne
    rw [List.getLast?_eq_some_getLast hne, Option.all_some, Bool.not_eq_true']
    exact Bool.eq_false_iff.mpr hlast
  · have hfirst := head?_trim_visible t
    cases htrim : trim t with
    | nil => exact absurd htrim hne
    | cons c u => rwa [htrim] at hfirst

lemma Bare.solid {w : Text} (hw : Bare w) (hne : w ≠ []) : Solid w := by
  refine ⟨hw.tight, ?_⟩
  cases w with
  | nil => exact absurd rfl hne
  | cons c w => simp [hw c List.mem_cons_self]

/-- An identifier has no blanks at all. -/
lemma solid_of_identifier? {t name rest : Text} (h : identifier? t = some (name, rest)) :
    Solid name := by
  rw [identifier?, run?] at h
  split_ifs at h with hempty
  obtain ⟨rfl, -⟩ := Prod.mk.inj (Option.some.inj h)
  refine Bare.solid (fun c hc => ?_) (fun hnil => hempty (List.isEmpty_iff.mpr hnil))
  have hident := List.mem_takeWhile_imp hc
  rw [Bool.eq_false_iff]
  intro hblank
  rw [visible_isIdent c hblank] at hident
  exact Bool.noConfusion hident

end Text

/-! ## Statements -/

namespace ImportStatement

/-- A statement is gathered from its first line and the lines behind it, trimmed and with blanks
between them. -/
lemma newline_notMem_gather {t : Text} (ht : '\n' ∉ t) {ls : List Text} (hls : ∀ l ∈ ls, '\n' ∉ l) :
    '\n' ∉ (gather t ls).1 := by
  induction ls generalizing t with
  | nil => exact ht
  | cons l ls ih =>
      rw [gather]
      split_ifs
      · exact ht
      · refine ih ?_ fun l' hl' => hls l' (List.mem_cons_of_mem _ hl')
        rw [List.mem_append, List.mem_cons, not_or, not_or]
        exact ⟨ht, by decide, fun hmem => hls l List.mem_cons_self (trim_subset l hmem)⟩

lemma newline_notMem_of_mem_collectFrom {i skip : Nat} {ls : List Text} {s : ImportStatement}
    (hls : ∀ l ∈ ls, '\n' ∉ l) (h : s ∈ collectFrom i skip ls) : '\n' ∉ s.text := by
  induction ls generalizing i skip with
  | nil => exact absurd h List.not_mem_nil
  | cons l ls ih =>
      have hrest : ∀ l ∈ ls, '\n' ∉ l := fun l' hl' => hls l' (List.mem_cons_of_mem _ hl')
      cases skip with
      | succ skip => exact ih hrest h
      | zero =>
          rw [collectFrom] at h
          split_ifs at h
          · rcases List.mem_cons.mp h with rfl | h
            · exact newline_notMem_gather
                (fun hmem => hls l List.mem_cons_self (trim_subset l hmem)) hrest
            · exact ih hrest h
          · exact ih hrest h

end ImportStatement

/-! ## Names -/

namespace Import

lemma subset_of_afterAs? {t r : Text} (h : afterAs? t = some r) : r ⊆ t := by
  rw [afterAs?, Option.bind_eq_some_iff] at h
  obtain ⟨u, hu, hr⟩ := h
  obtain ⟨v, hv, hu⟩ := Option.bind_eq_some_iff.mp hu
  exact List.Subset.trans (subset_of_blanks? hr)
    (List.Subset.trans (subset_of_skip? hu) (subset_of_blanks? hv))

lemma afterRenamings_cons (last : Text) (c : Char) (t : Text) :
    afterRenamings last 0 (c :: t) = match afterAs? (c :: t) with
      | some rest => afterRenamings rest (t.length - rest.length) t
      | none => afterRenamings last 0 t := (rfl)

/-- The search for the last `as` of an entry keeps a part of the entry all the time: at first the
whole of it, and then what follows the `as` found last. -/
lemma afterRenamings_subset {t : Text} {u : Text} (skip : Nat) {last : Text} (hlast : last ⊆ t)
    (hu : u ⊆ t) : afterRenamings last skip u ⊆ t := by
  induction u generalizing skip last with
  | nil => exact hlast
  | cons c u ih =>
      have hrest : u ⊆ t := List.Subset.trans (List.subset_cons_self c u) hu
      cases skip with
      | succ skip => exact ih skip hlast hrest
      | zero =>
          rw [afterRenamings_cons]
          cases has : afterAs? (c :: u) with
          | none => exact ih 0 hlast hrest
          | some r => exact ih _ (List.Subset.trans (subset_of_afterAs? has) hu) hrest

/-- With or without the word `type` in front, a name is a trimmed part of its entry. -/
lemma exists_of_entryName? {entry name : Text} (h : entryName? entry = some name) :
    ∃ part, part ⊆ entry ∧ name = trim part ∧ name ≠ [] := by
  have hwhole : afterRenamings (trim entry) 0 (trim entry) ⊆ entry := List.Subset.trans
    (afterRenamings_subset 0 (List.Subset.refl _) (List.Subset.refl _)) (trim_subset entry)
  generalize hrenamed : afterRenamings (trim entry) 0 (trim entry) = whole at hwhole
  obtain ⟨part, hpart, hname⟩ : ∃ part, part ⊆ entry ∧
      ((skip? "type " (trim whole)).map trim).getD (trim whole) = trim part := by
    cases hskip : skip? "type " (trim whole) with
    | none => exact ⟨whole, hwhole, rfl⟩
    | some rest =>
        exact ⟨rest, List.Subset.trans (subset_of_skip? hskip)
          (List.Subset.trans (trim_subset whole) hwhole), rfl⟩
  rw [entryName?, hrenamed, hname] at h
  split_ifs at h with hempty
  obtain rfl := Option.some.inj h
  refine ⟨part, hpart, rfl, fun hnil => hempty ?_⟩
  rw [hnil]
  rfl

/-- The text between braces is part of the statement. -/
lemma subset_of_braces? {t inner : Text} (h : braces? t = some inner) : inner ⊆ t := by
  obtain ⟨p, hp, hfound⟩ := List.exists_of_findSome?_eq_some h
  obtain ⟨a, ha, -⟩ := mem_places.mp hp
  obtain ⟨u, hu, hrun⟩ := Option.bind_eq_some_iff.mp hfound
  obtain ⟨⟨found, rest⟩, hfound, hend⟩ := Option.bind_eq_some_iff.mp hrun
  have hinner : inner = u.takeWhile (· != '}') := by
    simp only [run?] at hfound
    dsimp only at hend
    split_ifs at hfound hend
    rw [← Option.some.inj hend, (Prod.mk.inj (Option.some.inj hfound)).1]
  have hrest : p.rest ⊆ t := by
    rw [ha]
    exact List.subset_append_right _ _
  rw [hinner]
  exact List.Subset.trans (List.takeWhile_prefix _).subset
    (List.Subset.trans (subset_of_skip? hu) hrest)

/-- A default binding is an identifier with a comma or a `from` behind it. -/
lemma exists_of_defaultName? {t name : Text} (h : defaultName? t = some name) :
    ∃ u rest, identifier? u = some (name, rest) := by
  obtain ⟨⟨found, rest⟩, hfound, hend⟩ := Option.bind_eq_some_iff.mp h
  dsimp only at hend
  split_ifs at hend
  obtain rfl := Option.some.inj hend
  exact ⟨t, rest, hfound⟩

/-- **What a name is**: a trimmed part of what stands between two commas, or an identifier. -/
lemma exists_of_mem_names {t name : Text} (h : name ∈ names t) :
    (∃ part, part ⊆ t ∧ ',' ∉ part ∧ name = trim part ∧ name ≠ []) ∨
      ∃ u rest, identifier? u = some (name, rest) := by
  rw [names, List.mem_append, List.mem_append, Option.mem_toList, Option.mem_toList] at h
  rcases h with (hnamed | hdefault) | hnamespace
  · rw [namedBindings] at hnamed
    cases hbraces : braces? t with
    | none => simp [hbraces] at hnamed
    | some inner =>
        rw [hbraces, Option.map_some, Option.getD_some, List.mem_filterMap] at hnamed
        obtain ⟨entry, hentry, hname⟩ := hnamed
        obtain ⟨part, hpart, hname⟩ := exists_of_entryName? hname
        refine Or.inl ⟨part, fun c hc => ?_, fun hmem => ?_, hname⟩
        · exact subset_of_braces? hbraces (subset_of_mem_splitOn hentry (hpart hc))
        · exact separator_notMem_of_mem_splitOn hentry (hpart hmem)
  · obtain ⟨hname, -⟩ := Option.filter_eq_some_iff.mp hdefault
    obtain ⟨u, -, hname⟩ := Option.bind_eq_some_iff.mp hname
    rcases Option.or_eq_some_iff.mp hname with hname | ⟨-, hname⟩
    · obtain ⟨v, -, hname⟩ := Option.bind_eq_some_iff.mp hname
      exact Or.inr (exists_of_defaultName? hname)
    · exact Or.inr (exists_of_defaultName? hname)
  · obtain ⟨p, -, hname⟩ := List.exists_of_findSome?_eq_some hnamespace
    obtain ⟨⟨found, rest⟩, hfound, rfl⟩ := Option.map_eq_some_iff.mp hname
    obtain ⟨u, -, hfound⟩ := Option.bind_eq_some_iff.mp hfound
    exact Or.inr ⟨u, rest, hfound⟩

/-- A name that a statement on one line binds starts and ends in characters that are no blanks. -/
lemma solid_of_mem_names {t name : Text} (ht : '\n' ∉ t) (h : name ∈ names t) : Solid name := by
  rcases exists_of_mem_names h with ⟨part, hpart, -, rfl, hne⟩ | ⟨u, rest, hname⟩
  · exact solid_trim hne fun hmem => ht (hpart hmem)
  · exact solid_of_identifier? hname

end Import

end ReactLint
