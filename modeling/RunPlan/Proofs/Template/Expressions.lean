import RunPlan.Template.Compile
import RunPlan.Proofs.Outcome
import RunPlan.Proofs.Text.Cutting
import RunPlan.Proofs.Text.Trimming

/-!
The expressions of templates as they are written: names, literals in double quotes, interpolations,
conditions and loop headers. Main statements: what is written is read back, a literal without change
whatever characters it holds, except that one which is compared by `==` must not hold `!=`; and a
literal whose second quote is missing is not read as one.
-/

set_option autoImplicit false

namespace RunPlan.Template

open RunPlan.Text

/-- A text that can stand as a variable name. -/
structure IsName (name : String) : Prop where
  nonempty : name.toList ≠ []
  chars : ∀ c ∈ name.toList, isNameChar c = true

def quote (literal : String) : List Char := '"' :: (literal.toList ++ ['"'])

section Characters

private def blankCodes : List Nat :=
  [9, 10, 11, 12, 13, 0x20, 0x85, 0xA0, 0x1680, 0x2000, 0x2001, 0x2002, 0x2003, 0x2004, 0x2005,
    0x2006, 0x2007, 0x2008, 0x2009, 0x200A, 0x2028, 0x2029, 0x202F, 0x205F, 0x3000]

private theorem mem_blankCodes {c : Char} (h : isBlank c = true) : c.toNat ∈ blankCodes := by
  simp only [isBlank, Bool.or_eq_true, Bool.and_eq_true, decide_eq_true_eq, beq_iff_eq] at h
  simp only [blankCodes, List.mem_cons, List.not_mem_nil, or_false]
  omega

private theorem isNameChar_eq_false_of_blank {c : Char} (h : isBlank c = true) :
    isNameChar c = false := by
  have htable : ∀ n ∈ blankCodes, alphanumericRanges.contains n = false ∧ n ≠ '_'.toNat ∧
      n ≠ '-'.toNat ∧ n ≠ '.'.toNat := by
    decide +kernel
  obtain ⟨hrange, hunderscore, hdash, hdot⟩ := htable _ (mem_blankCodes h)
  have hne : ∀ d : Char, c.toNat ≠ d.toNat → (c == d) = false := by
    intro d hd
    simpa using fun he : c = d => hd (congrArg Char.toNat he)
  rw [isNameChar, isAlphanumeric, hrange, hne _ hunderscore, hne _ hdash, hne _ hdot]
  rfl

end Characters

section Names

variable {name : String}

theorem IsName.notMem (h : IsName name) {c : Char} (hc : isNameChar c = false) :
    c ∉ name.toList := by
  intro hmem
  rw [h.chars c hmem] at hc
  cases hc

private theorem IsName.not_blank (h : IsName name) : ∀ c ∈ name.toList, isBlank c = false := by
  intro c hmem
  cases hblank : isBlank c with
  | false => rfl
  | true => exact absurd hmem (h.notMem (isNameChar_eq_false_of_blank hblank))

theorem isName_of_all (hne : name.toList ≠ []) (h : name.toList.all isNameChar = true) :
    IsName name :=
  ⟨hne, List.all_eq_true.mp h⟩

theorem IsName.isTight (h : IsName name) : IsTight name.toList :=
  .of_forall h.nonempty h.not_blank

private theorem readName_of_trim_eq (h : IsName name) {s : List Char} (hs : trim s = name.toList) :
    readName s = .ok name := by
  have hall : (trim s).all isNameChar = true := by
    rw [hs]
    exact List.all_eq_true.mpr h.chars
  have hne : (trim s).isEmpty = false := by
    rw [hs]
    simpa using h.nonempty
  rw [readName]
  simp only [hall, hne]
  simp [hs]

private theorem readName_self (h : IsName name) : readName name.toList = .ok name :=
  readName_of_trim_eq h h.isTight.trim_eq

private theorem readName_concat_blank (h : IsName name) :
    readName (name.toList ++ [' ']) = .ok name := by
  refine readName_of_trim_eq h ?_
  rw [trim_concat_of_blank rfl, h.isTight.trim_eq]

private theorem exists_readName_eq_error {c : Char} {s : List Char} (hmem : c ∈ s)
    (hblank : isBlank c = false) (hc : isNameChar c = false) :
    ∃ fault, readName s = .error fault := by
  have hall : (trim s).all isNameChar = false := by
    rw [List.all_eq_false]
    exact ⟨c, mem_trim_of_not_blank hmem hblank, by simp [hc]⟩
  exact ⟨_, by rw [readName, hall, Bool.and_false]; rfl⟩

end Names

section Literals

theorem quote_isTight (literal : String) : IsTight (quote literal) := by
  refine ⟨List.cons_ne_nil _ _, ?_, ?_⟩
  · rintro _ ⟨⟩
    rfl
  · rw [quote, ← List.cons_append, List.getLast?_concat]
    rintro _ ⟨⟩
    rfl

private theorem readLiteral?_quote (literal : String) :
    readLiteral? (quote literal) = some literal := by
  have hunquote : unquote? '"' (quote literal) = some literal.toList := by
    have hopen : ['"'].isPrefixOf? (quote literal) = some (literal.toList ++ ['"']) :=
      List.isPrefixOf?_eq_some_iff_append_eq.mpr rfl
    rw [unquote?, hopen]
    simp
  rw [readLiteral?, (quote_isTight literal).trim_eq, hunquote, Option.some_or, Option.map_some,
    String.ofList_toList]

private theorem readLiteral_blank_quote (literal : String) :
    readLiteral (' ' :: quote literal) = .ok literal := by
  have htrim : readLiteral? (' ' :: quote literal) = readLiteral? (quote literal) := by
    rw [readLiteral?, readLiteral?, trim_cons_of_blank rfl]
  rw [readLiteral, htrim, readLiteral?_quote]

theorem readLiteral?_of_open {s : List Char} (h : '"' ∉ s) : readLiteral? ('"' :: s) = none := by
  have htrim : trim ('"' :: s) = '"' :: trimEnd s := by
    rw [trim_cons_of_not_blank rfl]
    exact trimEnd_append_cons rfl [] s
  have hdouble : unquote? '"' ('"' :: trimEnd s) = none := by
    have hlast : (trimEnd s).getLast? ≠ some '"' := fun hlast =>
      h (mem_of_mem_trimEnd (List.mem_of_mem_getLast? hlast))
    rw [unquote?]
    simp [hlast]
  have hsingle : unquote? '\'' ('"' :: trimEnd s) = none := by
    rw [unquote?]
    simp
  rw [readLiteral?, htrim, hdouble, hsingle]
  rfl

theorem exists_readLiteral_eq_error {s : List Char} (h : '"' ∉ s) :
    ∃ fault, readLiteral (' ' :: '"' :: s) = .error fault := by
  have hnone : readLiteral? (' ' :: '"' :: s) = none := by
    rw [readLiteral?, trim_cons_of_blank rfl, ← readLiteral?]
    exact readLiteral?_of_open h
  exact ⟨_, by rw [readLiteral, hnone]⟩

end Literals

section Interpolations

variable {name : String}

def writtenInterpolation (name : String) : Option String → List Char
  | none => name.toList
  | some default => name.toList ++ '!' :: quote default

theorem readInterpolation_default (h : IsName name) (s : List Char) :
    readInterpolation (name.toList ++ '!' :: s) = .ok (.interpolation name
      (some ((readLiteral? s).getD (String.ofList (trim s))))) := by
  have hcut : cut '!' (name.toList ++ '!' :: s) = some (name.toList, s) :=
    cut_eq_some_iff.mpr ⟨rfl, h.notMem (by decide)⟩
  rw [readInterpolation, hcut]
  show (readName name.toList).map _ = _
  rw [readName_self h]
  rfl

theorem readInterpolation_written (h : IsName name) (default? : Option String) :
    readInterpolation (writtenInterpolation name default?) =
      .ok (.interpolation name default?) := by
  cases default? with
  | none =>
    have hcut : cut '!' name.toList = none := cut_eq_none_iff.mpr (h.notMem (by decide))
    rw [writtenInterpolation, readInterpolation, hcut]
    show (readName name.toList).map _ = _
    rw [readName_self h]
    rfl
  | some default =>
    rw [writtenInterpolation, readInterpolation_default h, readLiteral?_quote]
    rfl

end Interpolations

section Conditions

variable {name : String}

def Condition.written : Condition → List Char
  | .truthy name => name.toList
  | .falsy name => '!' :: name.toList
  | .equals name literal => name.toList ++ ' ' :: '=' :: '=' :: ' ' :: quote literal
  | .differs name literal => name.toList ++ ' ' :: '!' :: '=' :: ' ' :: quote literal

theorem readCondition_differs (h : IsName name) (s : List Char) :
    readCondition (name.toList ++ ' ' :: '!' :: '=' :: s) =
      (readLiteral s).map (.differs name) := by
  have hfront : '!' ∉ name.toList ++ [' '] := by
    simpa using h.notMem (c := '!') (by decide)
  have hcut : cutAt ['!', '='] (name.toList ++ ' ' :: '!' :: '=' :: s) =
      some (name.toList ++ [' '], s) := by
    have hself : cutAt ['!', '='] ('!' :: '=' :: s) = some ([], s) := cutAt_self_append '!' ['='] s
    have happend := cutAt_append hfront ['='] ('!' :: '=' :: s)
    rw [hself] at happend
    simpa using happend
  rw [readCondition, hcut]
  show (readName (name.toList ++ [' ']) >>= fun name => readLiteral s >>= _) = _
  rw [readName_concat_blank h]
  cases readLiteral s <;> rfl

private theorem infix_blank_quote_iff {literal : String} :
    ['!', '='] <:+: ' ' :: quote literal ↔ ['!', '='] <:+: literal.toList := by
  rw [List.infix_cons_iff, quote, List.infix_cons_iff,
    infix_concat_iff_of_notMem (List.cons_ne_nil _ _) (by decide)]
  simp

theorem readCondition_equals (h : IsName name) {s : List Char} (hs : ¬ ['!', '='] <:+: s) :
    readCondition (name.toList ++ ' ' :: '=' :: '=' :: s) = (readLiteral s).map (.equals name) := by
  have hfront : '!' ∉ name.toList ++ [' ', '=', '='] := by
    simpa using h.notMem (c := '!') (by decide)
  have hdiffers : cutAt ['!', '='] (name.toList ++ ' ' :: '=' :: '=' :: s) = none := by
    have happend := cutAt_append hfront ['='] s
    rw [(cutAt_eq_none_iff (List.cons_ne_nil _ _)).mpr hs] at happend
    simpa using happend
  have hfront' : '=' ∉ name.toList ++ [' '] := by
    simpa using h.notMem (c := '=') (by decide)
  have hcut : cutAt ['=', '='] (name.toList ++ ' ' :: '=' :: '=' :: s) =
      some (name.toList ++ [' '], s) := by
    have hself : cutAt ['=', '='] ('=' :: '=' :: s) = some ([], s) := cutAt_self_append '=' ['='] s
    have happend := cutAt_append hfront' ['='] ('=' :: '=' :: s)
    rw [hself] at happend
    simpa using happend
  rw [readCondition, hdiffers, hcut]
  show (readName (name.toList ++ [' ']) >>= fun name => readLiteral s >>= _) = _
  rw [readName_concat_blank h]
  cases readLiteral s <;> rfl

theorem exists_readCondition_eq_error (h : IsName name) {s : List Char} (hs : ['!', '='] <:+: s) :
    ∃ fault, readCondition (name.toList ++ ' ' :: '=' :: '=' :: ' ' :: '"' :: s) =
      .error fault := by
  have hfront : '!' ∉ name.toList ++ [' ', '=', '=', ' ', '"'] := by
    simpa using h.notMem (c := '!') (by decide)
  obtain ⟨before, after, hcut⟩ : ∃ before after, cutAt ['!', '='] s = some (before, after) := by
    cases hcut : cutAt ['!', '='] s with
    | none => exact absurd hs ((cutAt_eq_none_iff (List.cons_ne_nil _ _)).mp hcut)
    | some pieces => exact ⟨pieces.1, pieces.2, rfl⟩
  have hwhole : cutAt ['!', '='] (name.toList ++ ' ' :: '=' :: '=' :: ' ' :: '"' :: s) =
      some (name.toList ++ [' ', '=', '=', ' ', '"'] ++ before, after) := by
    have happend := cutAt_append hfront ['='] s
    rw [hcut] at happend
    simpa using happend
  obtain ⟨fault, hfault⟩ := exists_readName_eq_error (c := '"')
    (s := name.toList ++ [' ', '=', '=', ' ', '"'] ++ before) (by simp) rfl (by decide)
  refine ⟨fault, ?_⟩
  rw [readCondition, hwhole]
  show (readName _ >>= fun name => readLiteral after >>= _) = _
  rw [hfault]
  rfl

private theorem dropExistence_eq_self {s : List Char} (h : '?' ∉ s) : dropExistence s = s := by
  have hgo : ∀ t : List Char, '?' ∉ t → dropExistence.go t = t := by
    intro t ht
    match t with
    | [] => rfl
    | c :: t =>
      have hc : c ≠ '?' := fun he => ht (by simp [he])
      rw [dropExistence.go]
      simp [hc]
  rw [dropExistence, hgo _ (by simpa using h), List.reverse_reverse]

private theorem readCondition_of_notMem {s : List Char} (h : '=' ∉ s) :
    readCondition s = match ['!'].isPrefixOf? (trim s) with
      | some name => (readName name).map .falsy
      | none => (readName (dropExistence (trim s))).map .truthy := by
  have hnone : ∀ p, cutAt [p, '='] s = none := by
    intro p
    refine (cutAt_eq_none_iff (List.cons_ne_nil _ _)).mpr fun hinside => h ?_
    exact hinside.subset (by simp)
  cases hname : ['!'].isPrefixOf? (trim s) <;> simp only [readCondition, hnone, hname]

/-- What a condition needs to be read back: a name, and no `!=` in a literal behind `==`. -/
def Condition.IsReadable : Condition → Prop
  | .truthy name | .falsy name | .differs name _ => IsName name
  | .equals name literal => IsName name ∧ ¬ ['!', '='] <:+: literal.toList

theorem readCondition_written {condition : Condition} (h : condition.IsReadable) :
    readCondition condition.written = .ok condition := by
  cases condition with
  | truthy name =>
    have hname : IsName name := h
    have hbang : ['!'].isPrefixOf? name.toList = none := by
      cases hleads : ['!'].isPrefixOf? name.toList with
      | none => rfl
      | some rest =>
        have hstart := List.isPrefixOf?_eq_some_iff_append_eq.mp hleads
        exact absurd (hstart ▸ List.mem_cons_self) (hname.notMem (c := '!') (by decide))
    rw [Condition.written, readCondition_of_notMem (hname.notMem (by decide)),
      hname.isTight.trim_eq, hbang]
    show (readName (dropExistence name.toList)).map _ = _
    rw [dropExistence_eq_self (hname.notMem (by decide)), readName_self hname]
    rfl
  | falsy name =>
    have hname : IsName name := h
    have hchars : ∀ c ∈ '!' :: name.toList, isBlank c = false :=
      List.forall_mem_cons.mpr ⟨rfl, hname.not_blank⟩
    have hequals : '=' ∉ '!' :: name.toList := by
      simpa using hname.notMem (c := '=') (by decide)
    rw [Condition.written, readCondition_of_notMem hequals,
      (IsTight.of_forall (List.cons_ne_nil _ _) hchars).trim_eq]
    show (readName name.toList).map _ = _
    rw [readName_self hname]
    rfl
  | equals name literal =>
    obtain ⟨hname, hliteral⟩ := h
    rw [Condition.written, readCondition_equals hname (infix_blank_quote_iff.not.mpr hliteral),
      readLiteral_blank_quote]
    rfl
  | differs name literal =>
    rw [Condition.written, readCondition_differs h, readLiteral_blank_quote]
    rfl

end Conditions

section Headers

def writtenHeader (source item : String) : List Char :=
  source.toList ++ ' ' :: 'a' :: 's' :: ' ' :: item.toList

theorem readListHeader_written {source item : String} (hsource : IsName source)
    (hitem : IsName item) : readListHeader (writtenHeader source item) = .ok (source, item) := by
  have hwords : words (writtenHeader source item) = [source.toList, ['a', 's'], item.toList] := by
    rw [writtenHeader, words_append_blank hsource.not_blank hsource.nonempty rfl]
    have has := words_append_blank (w := ['a', 's']) (by simp [isBlank]) (by simp) (c := ' ') rfl
      item.toList
    rw [words_eq_singleton hitem.not_blank hitem.nonempty] at has
    exact congrArg (source.toList :: ·) has
  rw [readListHeader, hwords]
  show (readName source.toList >>= fun source => readName item.toList >>= _) = _
  rw [readName_self hsource, readName_self hitem]
  rfl

end Headers

end RunPlan.Template
