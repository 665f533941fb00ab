import RunPlan.Template.Render
import RunPlan.Proofs.Template.Writing

/-!
Literals in double quotes among the syntax around them. The end of a token and the operator of a
condition are looked for without regard to quotes. Main statement: a literal is taken as it is if
the token around it does not end inside it and, where it is compared by `==`, it does not hold `!=`;
otherwise a condition is refused, and an interpolation never shows the literal.
-/

set_option autoImplicit false

namespace RunPlan.Template

open RunPlan.Text

/-- A conditional part as it is written, with a body for either outcome. -/
def choiceSource (condition yes no : String) : String :=
  "<#if " ++ condition ++ ">" ++ yes ++ "<#else>" ++ no ++ "</#if>"

/-- An interpolation as it is written, with a quoted literal for an undefined variable. -/
def fallbackSource (name literal : String) : String :=
  "$\x7b" ++ name ++ "!\"" ++ literal ++ "\"\x7d"

/-- What `test` says decides between the bodies, whatever templates they are. -/
def Decides (condition : String) (test : Scope → Except Fault Bool) : Prop :=
  ∀ (yes no : String) (nodes nodes' : List Node),
    compile yes = .ok nodes → compile no = .ok nodes' →
    ∃ whole, compile (choiceSource condition yes no) = .ok whole ∧ ∀ scope : Scope,
      renderAll scope whole =
        test scope >>= fun holds => renderAll scope (if holds then nodes else nodes')

/-- The condition cannot be read, whatever the bodies are. -/
def Refused (condition : String) : Prop :=
  ∀ yes no : String, ∃ fault, compile (choiceSource condition yes no) = .error fault

section Accepted

private theorem toList_choiceSource (condition yes no : String) :
    (choiceSource condition yes no).toList = writtenDirective ['i', 'f'] condition.toList ++
      (yes.toList ++ (Token.otherwise.written ++ (no.toList ++ (Token.ifEnd.written ++ [])))) := by
  simp only [choiceSource, String.toList_append, List.append_assoc, writtenDirective,
    Marker.enclose, Token.written]
  rfl

private theorem decides_of_isWritable {source : String} (condition : Condition)
    (h : condition.IsWritable)
    (hsource : source.toList = condition.written) :
    Decides source fun scope => condition.holds scope := by
  intro yes no nodes nodes' hyes hno
  obtain ⟨ts, hts, hnodes⟩ := bind_eq_ok_iff.mp hyes
  obtain ⟨us, hus, hnodes'⟩ := bind_eq_ok_iff.mp hno
  obtain ⟨b, rfl, hb⟩ := exists_block_of_nest hnodes
  obtain ⟨b', rfl, hb'⟩ := exists_block_of_nest hnodes'
  refine ⟨[.choice [(condition, nodes)] nodes'], ?_, fun scope => ?_⟩
  · have htokens : tokenize (choiceSource source yes no).toList =
        .ok (Block.choice condition.written b (.otherwise b') .done).tokens := by
      have hstart : (Token.ifStart condition.written).IsMarkable := h.isTight_and_notMem
      have hotherwise : Token.otherwise.IsMarkable := trivial
      have hend : Token.ifEnd.IsMarkable := trivial
      rw [toList_choiceSource, hsource]
      show tokenize ((Token.ifStart condition.written).written ++ _) = _
      rw [tokenize_written_append hstart,
        tokenize_append_of_atMarker hts (atMarker_written rfl _),
        tokenize_written_append hotherwise,
        tokenize_append_of_atMarker hus (atMarker_written rfl _),
        tokenize_written_append hend, tokenize_nil]
      simp [Except.map, Block.tokens, Tail.tokens]
    rw [compile, htokens]
    refine (Block.nest_tokens _).trans ?_
    rw [Block.nodes, readCondition_written h.isReadable, hb, Tail.branches, hb']
    rfl
  · simp only [renderAll, Node.render, renderBranches]
    cases condition.holds scope with
    | error fault => rfl
    | ok holds =>
      cases holds with
      | true =>
        show (((renderAll scope nodes).map some >>= _) >>= _) = renderAll scope nodes
        cases renderAll scope nodes with
        | error fault => rfl
        | ok text => exact congrArg Except.ok String.append_empty
      | false =>
        show ((renderAll scope nodes') >>= _) = renderAll scope nodes'
        cases renderAll scope nodes' with
        | error fault => rfl
        | ok text => exact congrArg Except.ok String.append_empty

end Accepted

section Refusals

variable {name : String} {condition : String}

private theorem refused_of_inside (inside rest argument : List Char)
    (hcondition : condition.toList ++ ['>'] = inside ++ '>' :: rest) (hend : '>' ∉ inside)
    (h : IsTight argument)
    (htrim : trim ('i' :: 'f' :: ' ' :: inside) = 'i' :: 'f' :: ' ' :: argument)
    (herror : ∃ fault, readCondition argument = .error fault) : Refused condition := by
  intro yes no
  obtain ⟨fault, hfault⟩ := herror
  obtain ⟨back, hback⟩ : ∃ back, (choiceSource condition yes no).toList =
      writtenDirective ['i', 'f'] inside ++ back := by
    refine ⟨rest ++ (yes.toList ++ (Token.otherwise.written ++ (no.toList ++
      (Token.ifEnd.written ++ [])))), ?_⟩
    have hdirective : ∀ inside back : List Char, writtenDirective ['i', 'f'] inside ++ back =
        '<' :: '#' :: 'i' :: 'f' :: ' ' :: (inside ++ ['>'] ++ back) := by
      intro inside back
      simp [writtenDirective, Marker.enclose, Marker.opening, Marker.terminator]
    rw [toList_choiceSource, hdirective, hdirective, hcondition]
    simp
  rw [compile, hback, tokenize_ifStart h htrim hend]
  cases tokenize back with
  | error fault' => exact ⟨fault', rfl⟩
  | ok ts =>
    refine ⟨fault, ?_⟩
    show (readCondition argument >>= _) = _
    rw [hfault]
    rfl

private theorem refused_of_open {operator : List Char} {literal : String} (hname : IsName name)
    (hoperator : '>' ∉ operator)
    (hcondition : condition.toList = name.toList ++ (operator ++ quote literal))
    (hliteral : '"' ∉ literal.toList) (hmem : '>' ∈ literal.toList)
    (herror : ∀ s : List Char, '"' ∉ s →
      ∃ fault, readCondition (name.toList ++ (operator ++ '"' :: s)) = .error fault) :
    Refused condition := by
  obtain ⟨front, rest, hcut, hfront⟩ := exists_cut_of_mem hmem
  rw [hcut, List.mem_append, not_or] at hliteral
  have hname' := hname.notMem (c := '>') (by decide)
  refine refused_of_inside (name.toList ++ (operator ++ '"' :: front)) (rest ++ ['"', '>'])
    (name.toList ++ (operator ++ '"' :: trimEnd front)) ?_ ?_ ?_ ?_ ?_
  · simp [hcondition, quote, hcut]
  · simp [hname', hoperator, hfront]
  · exact hname.isTight.surround (.cons_trimEnd rfl front) operator
  · have hstart : ∀ b ∈ ('i' :: 'f' :: ' ' :: (name.toList ++ operator)).head?,
        isBlank b = false := by
      rintro _ ⟨⟩
      rfl
    simpa using trim_append_cons (c := '"') rfl hstart front
  · exact herror _ fun hquote => hliteral.1 (mem_of_mem_trimEnd hquote)

private theorem exists_readCondition_differs_open (hname : IsName name) {s : List Char}
    (hs : '"' ∉ s) :
    ∃ fault, readCondition (name.toList ++ ([' ', '!', '=', ' '] ++ '"' :: s)) = .error fault := by
  obtain ⟨fault, hfault⟩ := exists_readLiteral_eq_error hs
  refine ⟨fault, (readCondition_differs hname (' ' :: '"' :: s)).trans ?_⟩
  rw [hfault]
  rfl

private theorem exists_readCondition_equals_open (hname : IsName name) {s : List Char}
    (hs : '"' ∉ s) :
    ∃ fault, readCondition (name.toList ++ ([' ', '=', '=', ' '] ++ '"' :: s)) = .error fault := by
  by_cases hdiffers : ['!', '='] <:+: s
  · exact exists_readCondition_eq_error hname hdiffers
  · have hquote : ¬ ['!', '='] <:+: ' ' :: '"' :: s := by
      rw [List.infix_cons_iff, List.infix_cons_iff]
      simp [hdiffers]
    obtain ⟨fault, hfault⟩ := exists_readLiteral_eq_error hs
    refine ⟨fault, (readCondition_equals hname hquote).trans ?_⟩
    rw [hfault]
    rfl

private theorem refused_of_operator {literal : String} (hname : IsName name)
    (hcondition : condition.toList = (Condition.equals name literal).written)
    (hend : '>' ∉ literal.toList) (hdiffers : ['!', '='] <:+: literal.toList) :
    Refused condition := by
  have hname' := hname.notMem (c := '>') (by decide)
  have htight : IsTight (Condition.equals name literal).written :=
    hname.isTight.surround (quote_isTight literal) [' ', '=', '=', ' ']
  have hkeyword : IsTight ['i', 'f'] := .of_forall (by simp) (by simp [isBlank])
  refine refused_of_inside _ [] _ (congrArg (· ++ ['>']) hcondition) ?_ htight
    (hkeyword.surround htight [' ']).trim_eq ?_
  · simp [Condition.written, quote, hname', hend]
  · exact exists_readCondition_eq_error hname (hdiffers.trans (List.prefix_append _ _).isInfix)

end Refusals

section Fallbacks

variable {name literal : String}

private theorem toList_fallbackSource (name literal : String) :
    (fallbackSource name literal).toList =
    Marker.interpolation.enclose (writtenInterpolation name (some literal)) := by
  simp only [fallbackSource, String.toList_append, List.append_assoc, Marker.enclose,
    writtenInterpolation, quote, List.cons_append]
  rfl

private theorem compile_fallbackSource (hname : IsName name) (hend : '\x7d' ∉ literal.toList) :
    compile (fallbackSource name literal) = .ok [.interpolation name (some literal)] := by
  have hmarkable : (Token.interpolation (writtenInterpolation name (some literal))).IsMarkable := by
    refine isMarkable_interpolation ?_
    rw [Node.IsWritable]
    exact ⟨hname, fun default hdefault => Option.some.inj hdefault ▸ hend⟩
  have htokens := tokenize_written_append hmarkable []
  rw [List.append_nil, Token.written, tokenize_nil] at htokens
  rw [compile, toList_fallbackSource, htokens]
  show (readInterpolation _ >>= _) = _
  rw [readInterpolation_written hname]
  rfl

private theorem exists_nodes_of_cut (hname : IsName name) (hliteral : '"' ∉ literal.toList)
    (hmem : '\x7d' ∈ literal.toList) {nodes : List Node}
    (h : compile (fallbackSource name literal) = .ok nodes) :
    ∃ (cut : List Char) (rest : List Node),
      nodes = .interpolation name (some (String.ofList ('"' :: cut))) :: rest := by
  obtain ⟨front, back, hcut, hfront⟩ := exists_cut_of_mem hmem
  rw [hcut, List.mem_append, not_or] at hliteral
  have hname' := hname.notMem (c := '\x7d') (by decide)
  have hinside : '\x7d' ∉ name.toList ++ '!' :: '"' :: front := by simp [hname', hfront]
  have hsource : (fallbackSource name literal).toList =
      Marker.interpolation.enclose (name.toList ++ '!' :: '"' :: front) ++
        (back ++ ['"', '\x7d']) := by
    rw [toList_fallbackSource]
    simp [Marker.enclose, Marker.terminator, writtenInterpolation, quote, hcut]
  have htight : IsTight (name.toList ++ (['!'] ++ '"' :: trimEnd front)) :=
    hname.isTight.surround (.cons_trimEnd rfl front) ['!']
  have htrim : trim (name.toList ++ '!' :: '"' :: front) =
      name.toList ++ '!' :: '"' :: trimEnd front := by
    have hstart : ∀ b ∈ (name.toList ++ ['!']).head?, isBlank b = false := by
      rw [List.head?_append_of_ne_nil _ hname.nonempty]
      exact hname.isTight.start
    simpa using trim_append_cons (c := '"') rfl hstart front
  have hread : readInterpolation (name.toList ++ '!' :: '"' :: trimEnd front) =
      .ok (.interpolation name (some (String.ofList ('"' :: trimEnd front)))) := by
    have hopen := readLiteral?_of_open fun hquote => hliteral.1 (mem_of_mem_trimEnd hquote)
    rw [readInterpolation_default hname, hopen, (IsTight.cons_trimEnd rfl front).trim_eq]
    rfl
  obtain ⟨tokens, htokens, hnodes⟩ := bind_eq_ok_iff.mp h
  rw [hsource, tokenize_enclose_append hinside, htrim] at htokens
  obtain ⟨t, ht, htokens⟩ := bind_eq_ok_iff.mp htokens
  obtain ⟨ts, -, rfl⟩ := map_eq_ok_iff.mp htokens
  have hempty : (name.toList ++ '!' :: '"' :: trimEnd front).isEmpty = false := by simp
  rw [Token.ofInside, hempty] at ht
  cases ht
  obtain ⟨b, hb, hblock⟩ := exists_block_of_nest hnodes
  cases b with
  | interpolation e later =>
    cases hb
    obtain ⟨node, hnode, hblock⟩ := bind_eq_ok_iff.mp hblock
    obtain ⟨rest, -, hblock⟩ := bind_eq_ok_iff.mp hblock
    obtain rfl := Except.ok.inj (hread.symm.trans hnode)
    cases hblock
    exact ⟨_, rest, rfl⟩
  | _ => cases hb

private theorem renderAll_ne_of_cut (hname : IsName name) (hliteral : '"' ∉ literal.toList)
    (hmem : '\x7d' ∈ literal.toList) {nodes : List Node}
    (h : compile (fallbackSource name literal) = .ok nodes) {scope : Scope}
    (hscope : scope.get? name = none) : renderAll scope nodes ≠ .ok literal := by
  obtain ⟨cut, rest, rfl⟩ := exists_nodes_of_cut hname hliteral hmem h
  have hnode : (Node.interpolation name (some (String.ofList ('"' :: cut)))).render scope =
      .ok (String.ofList ('"' :: cut)) := by
    simp only [Node.render, hscope]
  intro hrender
  rw [renderAll, hnode] at hrender
  obtain ⟨first, hfirst, hrender⟩ := bind_eq_ok_iff.mp hrender
  obtain ⟨text, -, hrender⟩ := bind_eq_ok_iff.mp hrender
  cases hfirst
  cases hrender
  refine hliteral ?_
  simp

private theorem renderAll_fallback (name literal : String) (scope : Scope) :
    renderAll scope [.interpolation name (some literal)] =
      .ok ((scope.get? name).getD literal) := by
  have hnode : (Node.interpolation name (some literal)).render scope =
      .ok ((scope.get? name).getD literal) := by
    cases hscope : scope.get? name <;> simp only [Node.render, hscope] <;> rfl
  rw [renderAll, renderAll, hnode]
  exact congrArg Except.ok String.append_empty

end Fallbacks

/-- A literal in double quotes is taken as it is unless the syntax around it is found inside it. -/
theorem literal_is_verbatim_unless_cut (name literal : String) (hname : IsName name)
    (hliteral : '"' ∉ literal.toList) :
    (('>' ∉ literal.toList ∧ ¬ ['!', '='] <:+: literal.toList →
        Decides (name ++ " == \"" ++ literal ++ "\"") fun scope =>
          (scope.get name).map (· == literal)) ∧
      ('>' ∈ literal.toList ∨ ['!', '='] <:+: literal.toList →
        Refused (name ++ " == \"" ++ literal ++ "\""))) ∧
    (('>' ∉ literal.toList →
        Decides (name ++ " != \"" ++ literal ++ "\"") fun scope =>
          (scope.get name).map (· != literal)) ∧
      ('>' ∈ literal.toList → Refused (name ++ " != \"" ++ literal ++ "\""))) ∧
    (('\x7d' ∉ literal.toList → ∃ nodes, compile (fallbackSource name literal) = .ok nodes ∧
        ∀ scope : Scope, renderAll scope nodes = .ok ((scope.get? name).getD literal)) ∧
      ('\x7d' ∈ literal.toList → ∀ nodes, compile (fallbackSource name literal) = .ok nodes →
        ∀ scope : Scope, scope.get? name = none → renderAll scope nodes ≠ .ok literal)) := by
  have hequals : (name ++ " == \"" ++ literal ++ "\"").toList =
      (Condition.equals name literal).written := by
    simp [Condition.written, quote]
  have hdiffers : (name ++ " != \"" ++ literal ++ "\"").toList =
      (Condition.differs name literal).written := by
    simp [Condition.written, quote]
  refine ⟨⟨fun h => ?_, fun h => ?_⟩, ⟨fun h => ?_, fun h => ?_⟩, fun h => ?_,
    fun h nodes hnodes scope hscope => ?_⟩
  · exact decides_of_isWritable (.equals name literal) ⟨hname, h.1, h.2⟩ hequals
  · by_cases hend : '>' ∈ literal.toList
    · exact refused_of_open hname (by decide) hequals hliteral hend fun s hs =>
        exists_readCondition_equals_open hname hs
    · exact refused_of_operator hname hequals hend (h.resolve_left hend)
  · exact decides_of_isWritable (.differs name literal) ⟨hname, h⟩ hdiffers
  · exact refused_of_open hname (by decide) hdiffers hliteral h fun s hs =>
      exists_readCondition_differs_open hname hs
  · exact ⟨_, compile_fallbackSource hname h, renderAll_fallback name literal⟩
  · exact renderAll_ne_of_cut hname hliteral h hnodes hscope

/-- A literal with all kinds of characters of the syntax is compared as it is, since neither `>` nor
`!=` is among them. -/
theorem literal_sample_is_verbatim_unless_cut :
    ∃ whole, compile (choiceSource "n == \"\x7d=!$<\"" "yes" "no") = .ok whole ∧
      render whole (.ofList [("n", "\x7d=!$<")]) = .ok "yes" ∧
      render whole (.ofList [("n", "x")]) = .ok "no" := by
  have hname : IsName "n" := isName_of_all (by decide) (by decide +kernel)
  have hbody : ∀ s ∈ ["yes", "no"], compile s = .ok [.text s] := by
    intro s hs
    have htokens : tokenize s.toList = .ok [.text s.toList] := by
      revert s
      decide +kernel
    rw [compile, htokens]
    exact congrArg (fun s => Except.ok [Node.text s]) String.ofList_toList
  obtain ⟨⟨hdecides, -⟩, -⟩ := literal_is_verbatim_unless_cut "n" "\x7d=!$<" hname (by decide)
  obtain ⟨whole, hwhole, hrender⟩ := hdecides (by decide) "yes" "no" _ _ (hbody "yes" (by decide))
    (hbody "no" (by decide))
  exact ⟨whole, hwhole, (hrender ⟨[], _⟩).trans rfl, (hrender ⟨[], _⟩).trans rfl⟩

/-- Not every literal without a double quote is taken as it is: an interpolation ends inside one. -/
theorem not_forall_literal_verbatim :
    ¬ ∀ name literal : String, IsName name → '"' ∉ literal.toList →
      (Decides (name ++ " == \"" ++ literal ++ "\"") fun scope =>
        (scope.get name).map (· == literal)) ∧
      (Decides (name ++ " != \"" ++ literal ++ "\"") fun scope =>
        (scope.get name).map (· != literal)) ∧
      ∃ nodes, compile (fallbackSource name literal) = .ok nodes ∧
        ∀ scope : Scope, scope.get? name = none → renderAll scope nodes = .ok literal := by
  intro h
  have hname : IsName "n" := isName_of_all (by decide) (by decide +kernel)
  obtain ⟨-, -, nodes, hnodes, hrender⟩ := h "n" "x\x7dy" hname (by decide)
  have hcompile : compile (fallbackSource "n" "x\x7dy") =
      .ok [.interpolation "n" (some "\"x"), .text "y\"\x7d"] := by
    have htokens : tokenize (fallbackSource "n" "x\x7dy").toList =
        .ok [.interpolation ['n', '!', '"', 'x'], .text ['y', '"', '\x7d']] := by
      decide +kernel
    rw [compile, htokens]
    rfl
  obtain rfl := Except.ok.inj (hcompile.symm.trans hnodes)
  have hshown : renderAll ⟨[], .ofList []⟩
      [.interpolation "n" (some "\"x"), .text "y\"\x7d"] = .ok "\"xy\"\x7d" := rfl
  have heq := Except.ok.inj (hshown.symm.trans (hrender ⟨[], .ofList []⟩ rfl))
  exact absurd heq (by decide)

end RunPlan.Template
