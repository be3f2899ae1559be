import Mathlib.Data.List.Nodup
import ReactLint.Proofs.Threshold.Override

/-!
# Options one by one

A list of options is read from its beginning, and the first option that cannot be read decides the
error.  This file shows that nothing else passes from one option to the next: a list with distinct
names does what its options do alone.

**One option.**  An option that can be read names a limit and gives it a positive value
(`readOption_ok`).  A list of that one option sets this limit and leaves the others at their default
(`ofOptions_singleton`).

**One after the other.**  Setting a list of options either stops at its first option or goes on with
one limit set (`setOptions_cons_ok`, `setOptions_cons_error`).  By induction from there: limits that
no option names are kept (`get_of_notMem`), a limit that one option names has its value
(`get_of_mem`), all limits stay positive, and the error is that of the first option that has one.
The order of the options is in none of these facts but the last.
-/

namespace ReactLint

lemma Limit.ofOption?_eq_some {name : Text} {l : Limit} (h : Limit.ofOption? name = some l) :
    l.option.toList = name := by
  rw [Limit.ofOption?] at h
  simpa using List.find?_some h

lemma Limit.eq_of_option_eq {k l : Limit} (h : k.option.toList = l.option.toList) : k = l := by
  have hk := Limit.ofOption?_option k
  rw [h, Limit.ofOption?_option] at hk
  exact (Option.some.inj hk).symm

namespace Thresholds

variable {t u : Thresholds} {p : Text × Value} {ps : List (Text × Value)} {l : Limit} {n : Int}
  {e : OptionError}

/-- Thresholds are the same when all limits are. -/
lemma eq_of_get (h : ∀ l, t.get l = u.get l) : t = u := by
  rw [← ofFun_get t, ← ofFun_get u, funext h]

lemma Positive.set (ht : t.Positive) (hn : 0 < n) : (t.set l n).Positive := by
  intro k
  rw [get_set]
  split_ifs
  · exact hn
  · exact ht k

lemma default_positive : default.Positive := by
  intro l
  rw [default, get_ofFun]
  exact l.default_pos

/-! ## One option -/

/-- **An option that can be read** names a limit and gives it a positive value. -/
lemma readOption_ok {name : Text} {v : Value} (h : readOption name v = .ok (l, n)) :
    l.option.toList = name ∧ 0 < n := by
  rw [readOption] at h
  split at h
  · cases h
  · rename_i k hk
    split at h
    · cases h
    · split_ifs at h with hpos
      obtain ⟨rfl, rfl⟩ := Prod.mk.inj (Except.ok.inj h)
      exact ⟨Limit.ofOption?_eq_some hk, Int.not_le.mp hpos⟩

lemma setOptions_cons_ok (t : Thresholds) (p : Text × Value) (ps : List (Text × Value)) :
    setOptions t (p :: ps) = .ok u ↔
      ∃ l n, readOption p.1 p.2 = .ok (l, n) ∧ setOptions (t.set l n) ps = .ok u := by
  obtain ⟨name, v⟩ := p
  rw [setOptions]
  cases hread : readOption name v with
  | error e => simp
  | ok r =>
      obtain ⟨k, m⟩ := r
      simp [and_assoc]

lemma setOptions_cons_error (t : Thresholds) (p : Text × Value) (ps : List (Text × Value)) :
    setOptions t (p :: ps) = .error e ↔
      readOption p.1 p.2 = .error e ∨
        ∃ l n, readOption p.1 p.2 = .ok (l, n) ∧ setOptions (t.set l n) ps = .error e := by
  obtain ⟨name, v⟩ := p
  rw [setOptions]
  cases hread : readOption name v with
  | error e => simp
  | ok r =>
      obtain ⟨k, m⟩ := r
      simp [and_assoc]

/-- **A list of one option** sets its limit and leaves the others at their default. -/
lemma ofOptions_singleton (p : Text × Value) :
    ofOptions [p] = .ok u ↔ ∃ l n, readOption p.1 p.2 = .ok (l, n) ∧ u = default.set l n := by
  rw [ofOptions, setOptions_cons_ok]
  simp only [setOptions, Except.ok.injEq, eq_comm]

lemma exists_ofOptions_singleton (p : Text × Value) :
    (∃ u, ofOptions [p] = .ok u) ↔ ∃ l n, readOption p.1 p.2 = .ok (l, n) := by
  simp only [ofOptions_singleton]
  constructor
  · rintro ⟨u, l, n, hread, -⟩
    exact ⟨l, n, hread⟩
  · rintro ⟨l, n, hread⟩
    exact ⟨default.set l n, l, n, hread, rfl⟩

lemma ofOptions_singleton_error (p : Text × Value) :
    ofOptions [p] = .error e ↔ readOption p.1 p.2 = .error e := by
  rw [ofOptions, setOptions_cons_error]
  simp [setOptions]

/-! ## One after the other -/

/-- A list can be set when each of its options can be read. -/
lemma exists_setOptions (t : Thresholds) (ps : List (Text × Value)) :
    (∃ u, setOptions t ps = .ok u) ↔ ∀ p ∈ ps, ∃ l n, readOption p.1 p.2 = .ok (l, n) := by
  induction ps generalizing t with
  | nil => simp [setOptions]
  | cons p ps ih =>
      simp only [setOptions_cons_ok, List.forall_mem_cons]
      constructor
      · rintro ⟨u, l, n, hread, hrest⟩
        exact ⟨⟨l, n, hread⟩, (ih (t.set l n)).mp ⟨u, hrest⟩⟩
      · rintro ⟨⟨l, n, hread⟩, hrest⟩
        obtain ⟨u, hu⟩ := (ih (t.set l n)).mpr hrest
        exact ⟨u, l, n, hread, hu⟩

/-- The error is that of the first option that cannot be read. -/
lemma setOptions_error (t : Thresholds) (ps : List (Text × Value)) :
    setOptions t ps = .error e ↔
      ∃ before p behind, ps = before ++ p :: behind ∧
        (∀ q ∈ before, ∃ l n, readOption q.1 q.2 = .ok (l, n)) ∧
        readOption p.1 p.2 = .error e := by
  induction ps generalizing t with
  | nil => simp [setOptions]
  | cons p ps ih =>
      rw [setOptions_cons_error]
      constructor
      · rintro (hread | ⟨l, n, hread, hrest⟩)
        · exact ⟨[], p, ps, rfl, by simp, hread⟩
        · obtain ⟨before, q, behind, rfl, hbefore, hq⟩ := (ih (t.set l n)).mp hrest
          refine ⟨p :: before, q, behind, rfl, ?_, hq⟩
          exact List.forall_mem_cons.mpr ⟨⟨l, n, hread⟩, hbefore⟩
      · rintro ⟨before, q, behind, hsplit, hbefore, hq⟩
        cases before with
        | nil =>
            obtain ⟨rfl, rfl⟩ := List.cons.inj hsplit
            exact Or.inl hq
        | cons p' before =>
            obtain ⟨rfl, rfl⟩ := List.cons.inj hsplit
            obtain ⟨⟨l, n, hread⟩, hbefore⟩ := List.forall_mem_cons.mp hbefore
            exact Or.inr ⟨l, n, hread, (ih (t.set l n)).mpr ⟨before, q, behind, rfl, hbefore, hq⟩⟩

/-- Limits that no option names are kept. -/
lemma get_of_notMem (h : setOptions t ps = .ok u) (hl : l.option.toList ∉ ps.map Prod.fst) :
    u.get l = t.get l := by
  induction ps generalizing t with
  | nil =>
      obtain rfl := Except.ok.inj h
      rfl
  | cons p ps ih =>
      obtain ⟨k, n, hread, hrest⟩ := (setOptions_cons_ok t p ps).mp h
      rw [List.map_cons, List.mem_cons, not_or] at hl
      have hne : l ≠ k := by
        rintro rfl
        exact hl.1 (readOption_ok hread).1
      rw [ih hrest hl.2, get_set, if_neg hne]

/-- A limit that one option names has the value of that option. -/
lemma get_of_mem (hnodup : (ps.map Prod.fst).Nodup) (h : setOptions t ps = .ok u) (hp : p ∈ ps)
    (hread : readOption p.1 p.2 = .ok (l, n)) : u.get l = n := by
  induction ps generalizing t with
  | nil => cases hp
  | cons q ps ih =>
      obtain ⟨k, m, hq, hrest⟩ := (setOptions_cons_ok t q ps).mp h
      rw [List.map_cons, List.nodup_cons] at hnodup
      rcases List.mem_cons.mp hp with rfl | hp
      · -- the options behind name other limits
        obtain ⟨rfl, rfl⟩ := Prod.mk.inj (Except.ok.inj (hq.symm.trans hread))
        rw [get_of_notMem hrest ((readOption_ok hread).1 ▸ hnodup.1), get_set, if_pos rfl]
      · exact ih hnodup.2 hrest hp

lemma Positive.setOptions (ht : t.Positive) (h : setOptions t ps = .ok u) : u.Positive := by
  induction ps generalizing t with
  | nil =>
      obtain rfl := Except.ok.inj h
      exact ht
  | cons p ps ih =>
      obtain ⟨l, n, hread, hrest⟩ := (setOptions_cons_ok t p ps).mp h
      exact ih (ht.set (readOption_ok hread).2) hrest

/-- **The order of the options does not matter.** -/
lemma setOptions_perm (hnodup : (ps.map Prod.fst).Nodup) (h : setOptions t ps = .ok u)
    {qs : List (Text × Value)} (hperm : qs.Perm ps) : setOptions t qs = .ok u := by
  have hreads := (exists_setOptions t ps).mp ⟨u, h⟩
  obtain ⟨w, hw⟩ := (exists_setOptions t qs).mpr fun p hp => hreads p (hperm.mem_iff.mp hp)
  have hnames : (qs.map Prod.fst).Perm (ps.map Prod.fst) := hperm.map _
  rw [hw]
  congr 1
  refine eq_of_get fun l => ?_
  by_cases hl : l.option.toList ∈ ps.map Prod.fst
  · obtain ⟨p, hp, hname⟩ := List.mem_map.mp hl
    obtain ⟨k, n, hread⟩ := hreads p hp
    obtain rfl : k = l := Limit.eq_of_option_eq ((readOption_ok hread).1.trans hname)
    rw [get_of_mem hnodup h hp hread,
      get_of_mem (hnames.nodup_iff.mpr hnodup) hw (hperm.mem_iff.mpr hp) hread]
  · rw [get_of_notMem h hl, get_of_notMem hw fun hmem => hl (hnames.mem_iff.mp hmem)]

/-- Positive thresholds are given back by their options. -/
lemma ofOptions_toOptions (ht : t.Positive) : ofOptions t.toOptions = .ok t := by
  rw [ofOptions, toOptions, setOptions_integers ht]
  simp [Limit.mem_all]

/-- **Options are read one by one.**  A list of options with distinct names can be read exactly when
each of them can be read alone.  Then every limit that it names has the value that the option alone
gives it and every other limit its default, all limits are at least one, and the same options in any
order give the same thresholds.  When it cannot be read, the error is that of the first option that
cannot be read alone.  The options of thresholds that are at least one give these thresholds
back. -/
theorem options_read_one_by_one :
    (∀ ps : List (Text × Value), (ps.map Prod.fst).Nodup →
      ((∃ t, ofOptions ps = .ok t) ↔ ∀ p ∈ ps, ∃ u, ofOptions [p] = .ok u) ∧
      (∀ t, ofOptions ps = .ok t →
        (∀ p ∈ ps, ∃ l u, l.option.toList = p.1 ∧ ofOptions [p] = .ok u ∧ t.get l = u.get l) ∧
        (∀ l : Limit, l.option.toList ∉ ps.map Prod.fst → t.get l = l.default) ∧
        (∀ l, 1 ≤ t.get l) ∧
        ∀ qs : List (Text × Value), qs.Perm ps → ofOptions qs = .ok t) ∧
      ∀ e, ofOptions ps = .error e ↔
        ∃ before p behind, ps = before ++ p :: behind ∧
          (∀ q ∈ before, ∃ u, ofOptions [q] = .ok u) ∧ ofOptions [p] = .error e) ∧
    ∀ t : Thresholds, (∀ l, 1 ≤ t.get l) → ofOptions t.toOptions = .ok t := by
  refine ⟨fun ps hnodup => ⟨?_, fun t ht => ⟨?_, ?_, ?_, ?_⟩, fun e => ?_⟩, fun t ht => ?_⟩
  · simp only [exists_ofOptions_singleton]
    exact exists_setOptions default ps
  · intro p hp
    obtain ⟨l, n, hread⟩ := (exists_setOptions default ps).mp ⟨t, ht⟩ p hp
    refine ⟨l, default.set l n, (readOption_ok hread).1, ?_, ?_⟩
    · exact (ofOptions_singleton p).mpr ⟨l, n, hread, rfl⟩
    · rw [get_of_mem hnodup ht hp hread, get_set, if_pos rfl]
  · intro l hl
    rw [get_of_notMem ht hl, default, get_ofFun]
  · exact default_positive.setOptions ht
  · intro qs hperm
    exact setOptions_perm hnodup ht hperm
  · simp only [exists_ofOptions_singleton, ofOptions_singleton_error]
    exact setOptions_error default ps
  · exact ofOptions_toOptions ht

/-- A text and an integer can be read in either order; of an unknown name and a limit of zero the
first decides the error; and the default thresholds come back. -/
theorem options_read_one_by_one_params :
    let params : Text × Value := ("max_params".toList, .text " +1_2 ".toList)
    let files : Text × Value := ("max_file_lines".toList, .integer 200)
    let zero : Text × Value := ("max_jsx_lines".toList, .integer 0)
    let unknown : Text × Value := ("max".toList, .null)
    let t : Thresholds := ⟨200, 50, 12, 20, 60, 5⟩
    (ofOptions [params, files] = .ok t ∧ ofOptions [files, params] = .ok t) ∧
      ofOptions [params, zero, unknown] = .error (.notPositive .markupLines 0) ∧
      ofOptions default.toOptions = .ok default := by
  intro params files zero unknown t
  obtain ⟨hlists, hback⟩ := options_read_one_by_one
  obtain ⟨-, hok, -⟩ := hlists [params, files] (by decide)
  obtain ⟨-, -, herror⟩ := hlists [params, zero, unknown] (by decide)
  have ht : ofOptions [params, files] = .ok t := rfl
  obtain ⟨-, -, -, hperm⟩ := hok t ht
  refine ⟨⟨ht, hperm [files, params] (List.Perm.swap params files [])⟩, ?_, hback default ?_⟩
  · refine (herror _).mpr ⟨[params], zero, [unknown], rfl, ?_, rfl⟩
    exact List.forall_mem_singleton.mpr ⟨default.set .params 12, rfl⟩
  · exact default_positive

end Thresholds

end ReactLint
