import RunPlan.VariableFilter
import RunPlan.Proofs.Outcome
import RunPlan.Proofs.Text.Splitting

/-!
The choice of benchmarks by their variables, over any language of patterns. Main statement: an
expression is refused exactly if one of its pieces is no pair or has a pattern that cannot be read,
and else accepts the benchmarks that meet each piece; expressions are joined by a comma, a repeated
pair does not count, and pairs that are written are read back.
-/

set_option autoImplicit false

namespace RunPlan.VariableFilter

open RunPlan.Text

def pieces (expression : String) : List (List Char) := split ',' expression.toList

/-- A piece writes a name in front of its first `=` and a pattern behind it. White space around
either does not count. -/
def Writes (piece : List Char) (name pattern : String) : Prop :=
  ∃ before after, piece = before ++ '=' :: after ∧ '=' ∉ before ∧
    name = String.ofList (trim before) ∧ pattern = String.ofList (trim after)

/-- One of the pieces of an expression writes the pair. -/
def Says (expression name pattern : String) : Prop :=
  ∃ piece ∈ pieces expression, Writes piece name pattern

/-- An expression that consists of pairs, and of the same ones as another. -/
def SamePairs (e e' : String) : Prop :=
  (∀ piece ∈ pieces e', '=' ∈ piece) ∧ ∀ name pattern, Says e name pattern ↔ Says e' name pattern

/-- A piece is no pair, or its pattern cannot be read. -/
def Malformed (read : PatternReader) (piece : List Char) : Prop :=
  '=' ∉ piece ∨ ∃ name pattern detail, Writes piece name pattern ∧ read pattern = .error detail

/-- The benchmark has the variable that a piece names, and the pattern is found in its value. -/
def Meets (read : PatternReader) (b : Benchmark) (piece : List Char) : Prop :=
  ∃ name pattern found value, Writes piece name pattern ∧ read pattern = .ok found ∧
    b.vars.get? name = some value ∧ found value = true

/-- A pair that can stand in an expression as it is. -/
structure Writable (read : PatternReader) (name pattern : String) : Prop where
  name_trimmed : trim name.toList = name.toList
  name_plain : ',' ∉ name.toList ∧ '=' ∉ name.toList
  pattern_trimmed : trim pattern.toList = pattern.toList
  pattern_plain : ',' ∉ pattern.toList
  readable : ∃ found, read pattern = .ok found

def written (pairs : List (String × String)) : String :=
  String.intercalate "," (pairs.map fun pair => pair.1 ++ "=" ++ pair.2)

section Pieces

variable {piece : List Char} {name name' pattern pattern' : String}

theorem Writes.unique (h : Writes piece name pattern) (h' : Writes piece name' pattern') :
    name = name' ∧ pattern = pattern' := by
  obtain ⟨before, after, hpiece, hbefore, rfl, rfl⟩ := h
  obtain ⟨before', after', hpiece', hbefore', rfl, rfl⟩ := h'
  obtain ⟨rfl, rfl⟩ := eq_of_append_cons_eq hbefore hbefore' (hpiece.symm.trans hpiece')
  exact ⟨rfl, rfl⟩

private theorem exists_writes_of_mem (h : '=' ∈ piece) :
    ∃ name pattern, Writes piece name pattern := by
  obtain ⟨before, after, hpiece, hbefore⟩ := exists_cut_of_mem h
  exact ⟨_, _, before, after, hpiece, hbefore, rfl, rfl⟩

private theorem Writes.mem (h : Writes piece name pattern) : '=' ∈ piece := by
  obtain ⟨before, after, rfl, -⟩ := h
  simp

private theorem writes_trim_iff : Writes (trim piece) name pattern ↔ Writes piece name pattern := by
  have hkeeps : ∀ {name pattern}, Writes piece name pattern → Writes (trim piece) name pattern := by
    rintro _ _ ⟨before, after, rfl, hbefore, rfl, rfl⟩
    refine ⟨trimStart before, trimEnd after, trim_append_cons_of_not_blank (by decide) _ _, ?_,
      by rw [trim_trimStart], by rw [trim_trimEnd]⟩
    exact fun hmem => hbefore ((List.dropWhile_sublist _).subset hmem)
  refine ⟨fun h => ?_, hkeeps⟩
  have hmem : '=' ∈ piece := by
    have htrim := h.mem
    rw [trim] at htrim
    exact (List.dropWhile_sublist _).subset (mem_of_mem_trimEnd htrim)
  obtain ⟨name', pattern', h'⟩ := exists_writes_of_mem hmem
  obtain ⟨rfl, rfl⟩ := h.unique (hkeeps h')
  exact h'

private theorem pieces_ne_nil (expression : String) : pieces expression ≠ [] := split_ne_nil _ _

private theorem allBlank_of_mem_piece {expression : String} (hmem : piece ∈ pieces expression)
    (h : '=' ∈ piece) : allBlank expression.toList = false := by
  rw [← join_split ',' expression.toList]
  have hjoin : ∀ {ps : List (List Char)}, piece ∈ ps → '=' ∈ join [','] ps := by
    intro ps hps
    induction ps with
    | nil => cases hps
    | cons p ps ih =>
      by_cases hne : ps = []
      · subst hne
        rw [List.mem_singleton.mp hps] at h
        exact h
      · rw [join_cons hne]
        rcases List.mem_cons.mp hps with rfl | hps
        · exact List.mem_append_left _ (List.mem_append_left _ h)
        · exact List.mem_append_right _ (ih hps)
  exact List.all_eq_false.mpr ⟨'=', hjoin hmem, by decide⟩

private theorem pieces_append (e e' : String) :
    pieces (e ++ "," ++ e') = pieces e ++ pieces e' := by
  have htext : (e ++ "," ++ e').toList = e.toList ++ ',' :: e'.toList := by simp
  rw [pieces, htext, split_append_cons, pieces, pieces]

private theorem pieces_written {pairs : List (String × String)} (hne : pairs ≠ [])
    (h : ∀ pair ∈ pairs, ',' ∉ pair.1.toList ∧ ',' ∉ pair.2.toList) :
    pieces (written pairs) = pairs.map fun pair => pair.1.toList ++ '=' :: pair.2.toList := by
  have htext : (written pairs).toList =
      join [','] (pairs.map fun pair => pair.1.toList ++ '=' :: pair.2.toList) := by
    rw [written, String.toList_intercalate, join_eq_intercalate, List.map_map]
    congr 1
    refine List.map_congr_left fun pair _ => ?_
    simp
  rw [pieces, htext, split_join (by simpa using hne)]
  intro piece hpiece
  obtain ⟨pair, hpair, rfl⟩ := List.mem_map.mp hpiece
  simpa using h pair hpair

end Pieces

section Reading

variable {read : PatternReader} {piece : List Char} {c : VariableCondition}

/-- A condition is what a piece says. -/
def Reads (read : PatternReader) (piece : List Char) (c : VariableCondition) : Prop :=
  ∃ pattern, Writes piece c.name pattern ∧ read pattern = .ok c.found

private theorem reads_trim_iff : Reads read (trim piece) c ↔ Reads read piece c := by
  simp only [Reads, writes_trim_iff]

private theorem readCondition_eq_ok_iff :
    readCondition read piece = .ok c ↔ Reads read piece c := by
  rw [readCondition]
  cases hcut : cut '=' piece with
  | none =>
    have hmem := cut_eq_none_iff.mp hcut
    refine iff_of_false nofun ?_
    rintro ⟨pattern, hwrites, -⟩
    exact hmem hwrites.mem
  | some halves =>
    obtain ⟨before, after⟩ := halves
    obtain ⟨hpiece, hbefore⟩ := cut_eq_some_iff.mp hcut
    have hwrites : Writes piece (String.ofList (trim before)) (String.ofList (trim after)) :=
      ⟨before, after, hpiece, hbefore, rfl, rfl⟩
    dsimp only
    constructor
    · intro h
      split at h
      · rename_i found hfound
        cases h
        exact ⟨_, hwrites, hfound⟩
      · cases h
    · rintro ⟨pattern, hwrites', hread⟩
      obtain ⟨hname, rfl⟩ := hwrites.unique hwrites'
      rw [hread, hname]

private theorem exists_fault_of_readCondition {e : LoadError}
    (h : readCondition read piece = .error e) :
    ∃ fault, e = .invalidConfig fault := by
  rw [readCondition] at h
  split at h
  · cases h
    exact ⟨_, rfl⟩
  · dsimp only at h
    split at h
    · cases h
    · cases h
      exact ⟨_, rfl⟩

private theorem malformed_iff : Malformed read piece ↔ ¬ ∃ c, Reads read piece c := by
  constructor
  · rintro (hmem | ⟨name, pattern, detail, hwrites, hread⟩) ⟨c, pattern', hwrites', hread'⟩
    · exact hmem hwrites'.mem
    · obtain ⟨-, rfl⟩ := hwrites.unique hwrites'
      rw [hread] at hread'
      cases hread'
  · intro hnone
    by_cases hmem : '=' ∈ piece
    · obtain ⟨name, pattern, hwrites⟩ := exists_writes_of_mem hmem
      cases hread : read pattern with
      | error detail => exact Or.inr ⟨name, pattern, detail, hwrites, hread⟩
      | ok found => exact absurd ⟨⟨name, found⟩, pattern, hwrites, hread⟩ hnone
    · exact Or.inl hmem

private theorem Reads.meets_iff (h : Reads read piece c) (b : Benchmark) :
    Meets read b piece ↔ (b.vars.get? c.name).any c.found = true := by
  obtain ⟨pattern, hwrites, hread⟩ := h
  rw [Option.any_eq_true_iff_get]
  constructor
  · rintro ⟨name, pattern', found, value, hwrites', hread', hvalue, hfound⟩
    obtain ⟨rfl, rfl⟩ := hwrites'.unique hwrites
    rw [hread] at hread'
    cases hread'
    simp [hvalue, hfound]
  · rintro ⟨hsome, hfound⟩
    exact ⟨c.name, pattern, c.found, _, hwrites, hread, (Option.some_get hsome).symm, hfound⟩

end Reading

section Parsing

variable {read : PatternReader} {e e' : String} {f f' : VariableFilter}

private theorem parse_eq_ok_iff (he : allBlank e.toList = false) :
    parse read (some e) = .ok f ↔ List.Forall₂ (Reads read) (pieces e) f.conditions := by
  have hne : ¬ (trim e.toList).isEmpty = true := by
    rw [List.isEmpty_iff, trim_eq_nil_iff, he]
    exact Bool.false_ne_true
  have hpieces : ∀ cs, (split ',' (trim e.toList)).mapM (readCondition read) = .ok cs ↔
      List.Forall₂ (Reads read) (pieces e) cs := by
    intro cs
    rw [mapM_eq_ok_iff]
    simp only [readCondition_eq_ok_iff]
    exact forall₂_split_trim_iff (fun _ _ => reads_trim_iff) (by decide) _ _
  rw [parse, Option.getD_some, if_neg hne, bind_eq_ok_iff]
  constructor
  · rintro ⟨cs, hcs, h⟩
    cases h
    exact (hpieces cs).mp hcs
  · intro h
    exact ⟨f.conditions, (hpieces _).mpr h, rfl⟩

private theorem exists_fault_of_parse {error : LoadError} (h : parse read (some e) = .error error) :
    ∃ fault, error = .invalidConfig fault := by
  rw [parse, Option.getD_some] at h
  split at h
  · cases h
  · cases hconditions : (split ',' (trim e.toList)).mapM (readCondition read) with
    | ok cs =>
      rw [hconditions] at h
      cases h
    | error error' =>
      rw [hconditions] at h
      cases h
      obtain ⟨-, piece, -, -, -, hpiece⟩ := mapM_eq_error_iff.mp hconditions
      exact exists_fault_of_readCondition hpiece

private theorem exists_parse_eq_ok_iff (he : allBlank e.toList = false) :
    (∃ f, parse read (some e) = .ok f) ↔ ∀ piece ∈ pieces e, ¬ Malformed read piece := by
  simp only [malformed_iff, not_not, ← exists_forall₂_iff, parse_eq_ok_iff he]
  exact ⟨fun ⟨f, hf⟩ => ⟨f.conditions, hf⟩, fun ⟨cs, hcs⟩ => ⟨⟨cs⟩, hcs⟩⟩

private theorem accepts_iff_of_parse (he : allBlank e.toList = false)
    (h : parse read (some e) = .ok f)
    (b : Benchmark) : f.accepts b = true ↔ ∀ piece ∈ pieces e, Meets read b piece := by
  rw [accepts, List.all_eq_true,
    forall_mem_iff_of_forall₂ ((parse_eq_ok_iff he).mp h) fun _ _ hc => hc.meets_iff b]

private theorem parse_fails_iff (he : allBlank e.toList = false) :
    (∃ fault, parse read (some e) = .error (.invalidConfig fault)) ↔
      ∃ piece ∈ pieces e, Malformed read piece := by
  have hfails : (∃ fault, parse read (some e) = .error (.invalidConfig fault)) ↔
      ¬ ∃ f, parse read (some e) = .ok f := by
    cases hparse : parse read (some e) with
    | ok f => exact iff_of_false (by simp) (by simp)
    | error error =>
      obtain ⟨fault, rfl⟩ := exists_fault_of_parse hparse
      exact iff_of_true ⟨fault, rfl⟩ (by simp)
  rw [hfails, exists_parse_eq_ok_iff he]
  simp

private theorem accepts_append (cs cs' : List VariableCondition) (b : Benchmark) :
    (VariableFilter.mk (cs ++ cs')).accepts b =
      ((VariableFilter.mk cs).accepts b && (VariableFilter.mk cs').accepts b) :=
  List.all_append

private theorem parse_append (he : allBlank e.toList = false) (he' : allBlank e'.toList = false)
    (h : parse read (some e) = .ok f) (h' : parse read (some e') = .ok f') :
    parse read (some (e ++ "," ++ e')) = .ok ⟨f.conditions ++ f'.conditions⟩ := by
  have hboth : allBlank (e ++ "," ++ e').toList = false := by
    rw [allBlank, List.all_eq_false] at he ⊢
    obtain ⟨c, hc, hblank⟩ := he
    exact ⟨c, by simp [hc], hblank⟩
  rw [parse_eq_ok_iff hboth, pieces_append]
  exact List.rel_append ((parse_eq_ok_iff he).mp h) ((parse_eq_ok_iff he').mp h')

private theorem meets_all_iff_said (b : Benchmark) (h : ∀ piece ∈ pieces e, '=' ∈ piece) :
    (∀ piece ∈ pieces e, Meets read b piece) ↔ ∀ name pattern, Says e name pattern →
      ∃ found value, read pattern = .ok found ∧ b.vars.get? name = some value ∧
        found value = true := by
  constructor
  · rintro hall name pattern ⟨piece, hpiece, hwrites⟩
    obtain ⟨name', pattern', found, value, hwrites', hmeets⟩ := hall piece hpiece
    obtain ⟨rfl, rfl⟩ := hwrites.unique hwrites'
    exact ⟨found, value, hmeets⟩
  · intro hall piece hpiece
    obtain ⟨name, pattern, hwrites⟩ := exists_writes_of_mem (h piece hpiece)
    obtain ⟨found, value, hmeets⟩ := hall name pattern ⟨piece, hpiece, hwrites⟩
    exact ⟨name, pattern, found, value, hwrites, hmeets⟩

private theorem not_malformed_all_iff_said (h : ∀ piece ∈ pieces e, '=' ∈ piece) :
    (∀ piece ∈ pieces e, ¬ Malformed read piece) ↔ ∀ name pattern, Says e name pattern →
      ∃ found, read pattern = .ok found := by
  constructor
  · rintro hall name pattern ⟨piece, hpiece, hwrites⟩
    cases hread : read pattern with
    | ok found => exact ⟨found, rfl⟩
    | error detail =>
      exact absurd (Or.inr ⟨name, pattern, detail, hwrites, hread⟩) (hall piece hpiece)
  · rintro hall piece hpiece (hmem | ⟨name, pattern, detail, hwrites, hread⟩)
    · exact hmem (h piece hpiece)
    · obtain ⟨found, hfound⟩ := hall name pattern ⟨piece, hpiece, hwrites⟩
      rw [hread] at hfound
      cases hfound

private theorem parse_of_samePairs (he : allBlank e.toList = false)
    (h : parse read (some e) = .ok f)
    (hsame : SamePairs e e') :
    ∃ f', parse read (some e') = .ok f' ∧ ∀ b, f'.accepts b = f.accepts b := by
  obtain ⟨hpairs', hsaid⟩ := hsame
  have hwell := (exists_parse_eq_ok_iff he).mp ⟨f, h⟩
  have hpairs : ∀ piece ∈ pieces e, '=' ∈ piece := fun piece hpiece => by
    by_contra hmem
    exact hwell piece hpiece (Or.inl hmem)
  have he' : allBlank e'.toList = false := by
    obtain ⟨piece, hpiece⟩ := List.exists_mem_of_ne_nil _ (pieces_ne_nil e')
    exact allBlank_of_mem_piece hpiece (hpairs' piece hpiece)
  have hwell' : ∀ piece ∈ pieces e', ¬ Malformed read piece := by
    rw [not_malformed_all_iff_said hpairs'] at ⊢
    rw [not_malformed_all_iff_said hpairs] at hwell
    intro name pattern hpair
    exact hwell name pattern ((hsaid name pattern).mpr hpair)
  obtain ⟨f', hf'⟩ := (exists_parse_eq_ok_iff he').mpr hwell'
  refine ⟨f', hf', fun b => Bool.eq_iff_iff.mpr ?_⟩
  rw [accepts_iff_of_parse he' hf', accepts_iff_of_parse he h, meets_all_iff_said b hpairs',
    meets_all_iff_said b hpairs]
  simp only [hsaid]

private theorem parse_written {pairs : List (String × String)} (hne : pairs ≠ [])
    (h : ∀ pair ∈ pairs, Writable read pair.1 pair.2) :
    List.Forall₂ (fun piece pair => Writes piece pair.1 pair.2) (pieces (written pairs)) pairs ∧
    ∃ f, parse read (some (written pairs)) = .ok f ∧
      List.Forall₂ (fun pair c => c.name = pair.1 ∧ read pair.2 = .ok c.found) pairs
        f.conditions := by
  have hpieces := pieces_written hne fun pair hpair =>
    ⟨(h pair hpair).name_plain.1, (h pair hpair).pattern_plain⟩
  have hwrites : ∀ pair ∈ pairs,
      Writes (pair.1.toList ++ '=' :: pair.2.toList) pair.1 pair.2 := fun pair hpair =>
    ⟨pair.1.toList, pair.2.toList, rfl, (h pair hpair).name_plain.2,
      by rw [(h pair hpair).name_trimmed, String.ofList_toList],
      by rw [(h pair hpair).pattern_trimmed, String.ofList_toList]⟩
  have hwritten : List.Forall₂ (fun piece pair => Writes piece pair.1 pair.2)
      (pieces (written pairs)) pairs := by
    rw [hpieces, List.forall₂_map_left_iff, List.forall₂_same]
    exact hwrites
  obtain ⟨cs, hcs⟩ : ∃ cs : List VariableCondition,
      List.Forall₂ (fun pair c => c.name = pair.1 ∧ read pair.2 = .ok c.found) pairs cs := by
    refine exists_forall₂_iff.mpr fun pair hpair => ?_
    obtain ⟨found, hfound⟩ := (h pair hpair).readable
    exact ⟨⟨pair.1, found⟩, rfl, hfound⟩
  have hblank : allBlank (written pairs).toList = false := by
    obtain ⟨piece, hpiece⟩ := List.exists_mem_of_ne_nil _ (pieces_ne_nil (written pairs))
    have hmem := hpiece
    rw [hpieces] at hmem
    obtain ⟨pair, -, rfl⟩ := List.mem_map.mp hmem
    exact allBlank_of_mem_piece hpiece (by simp)
  refine ⟨hwritten, ⟨cs⟩, (parse_eq_ok_iff hblank).mpr ?_, hcs⟩
  rw [hpieces, List.forall₂_map_left_iff]
  refine ((List.forall₂_and_left _ _).mpr ⟨hwrites, hcs⟩).imp ?_
  rintro pair c ⟨hpair, hname, hread⟩
  exact ⟨pair.2, hname ▸ hpair, hread⟩

end Parsing

/-- Over any language of patterns: an expression that is not blank is refused exactly if a piece of
it is malformed, and else accepts the benchmarks that meet each piece. Two expressions with a comma
between them accept what both accept, an expression of the same pairs accepts the same, and pairs
that are written are read back. -/
theorem parse_selects_by_pieces (read : PatternReader) :
    (∀ e : String, allBlank e.toList = false →
      ((∃ fault, parse read (some e) = .error (.invalidConfig fault)) ↔
        ∃ piece ∈ pieces e, Malformed read piece) ∧
      ((∀ piece ∈ pieces e, ¬ Malformed read piece) → ∃ f, parse read (some e) = .ok f ∧
        ∀ b, f.accepts b = true ↔ ∀ piece ∈ pieces e, Meets read b piece) ∧
      ∀ f, parse read (some e) = .ok f →
        (∀ e' f', allBlank e'.toList = false → parse read (some e') = .ok f' →
          ∃ g g', parse read (some (e ++ "," ++ e')) = .ok g ∧
            parse read (some (e' ++ "," ++ e)) = .ok g' ∧
            ∀ b, (g.accepts b = true ↔ f.accepts b = true ∧ f'.accepts b = true) ∧
              g'.accepts b = g.accepts b) ∧
        ∀ e', SamePairs e e' →
          ∃ f', parse read (some e') = .ok f' ∧ ∀ b, f'.accepts b = f.accepts b) ∧
    ∀ pairs : List (String × String), pairs ≠ [] →
      (∀ pair ∈ pairs, Writable read pair.1 pair.2) →
      List.Forall₂ (fun piece pair => Writes piece pair.1 pair.2) (pieces (written pairs)) pairs ∧
      ∃ f, parse read (some (written pairs)) = .ok f ∧
        List.Forall₂ (fun pair c => c.name = pair.1 ∧ read pair.2 = .ok c.found) pairs
          f.conditions := by
  refine ⟨fun e he => ⟨parse_fails_iff he, fun hwell => ?_, fun f hf => ⟨?_, ?_⟩⟩, ?_⟩
  · obtain ⟨f, hf⟩ := (exists_parse_eq_ok_iff he).mpr hwell
    exact ⟨f, hf, accepts_iff_of_parse he hf⟩
  · intro e' f' he' hf'
    refine ⟨_, _, parse_append he he' hf hf', parse_append he' he hf' hf, fun b => ?_⟩
    rw [accepts_append, accepts_append, Bool.and_eq_true, Bool.and_comm]
    exact ⟨Iff.rfl, rfl⟩
  · exact fun e' hsame => parse_of_samePairs he hf hsame
  · exact fun pairs hne hpairs => parse_written hne hpairs

/-- Patterns that are found in their own text alone. An empty one cannot be read. -/
def Sample.verbatim : PatternReader := fun pattern =>
  if pattern.isEmpty then .error "empty" else .ok (· == pattern)

theorem parse_sample_selects_by_pieces :
    (∃ f, parse Sample.verbatim (some "n=1, m = 2") = .ok f ∧
      ∀ b, f.accepts b = true ↔ ∀ piece ∈ pieces "n=1, m = 2", Meets Sample.verbatim b piece) ∧
    (∃ fault, parse Sample.verbatim (some "n=1,m=") = .error (.invalidConfig fault)) ∧
    ∃ f, parse Sample.verbatim (some (written [("n", "1"), ("m", "2")])) = .ok f ∧
      List.Forall₂ (fun pair c => c.name = pair.1 ∧ Sample.verbatim pair.2 = .ok c.found)
        [("n", "1"), ("m", "2")] f.conditions := by
  obtain ⟨hread, hwritten⟩ := parse_selects_by_pieces Sample.verbatim
  refine ⟨?_, ?_, ?_⟩
  · have hblank : allBlank "n=1, m = 2".toList = false := by decide
    have hwell : ∀ piece ∈ pieces "n=1, m = 2", ¬ Malformed Sample.verbatim piece :=
      (exists_parse_eq_ok_iff hblank).mp (exists_eq_ok_of_isSome (by decide +kernel))
    exact (hread _ hblank).2.1 hwell
  · refine (hread _ (by decide)).1.mpr ⟨"m=".toList, by decide +kernel, ?_⟩
    exact Or.inr ⟨"m", "", "empty", ⟨['m'], [], by decide, by decide, by decide, by decide⟩, rfl⟩
  · refine (hwritten _ (by simp) ?_).2
    intro pair hpair
    rcases List.mem_pair.mp hpair with rfl | rfl
    · exact ⟨by decide, by decide, by decide, by decide, _, rfl⟩
    · exact ⟨by decide, by decide, by decide, by decide, _, rfl⟩

end RunPlan.VariableFilter
