import RunPlan.Proofs.Template.Expressions
import RunPlan.Proofs.Template.Joining

/-!
Templates as they are written. A node tree becomes a block, a block its tokens, and a token its
characters. Main statement: a written tree is compiled to that tree again, as long as no character
sequence in it is taken for a part of the syntax around it.
-/

set_option autoImplicit false

namespace RunPlan.Template

open RunPlan.Text

section Tokens

/-- The start of a directive as it is written: a keyword and its argument. -/
def writtenDirective (keyword argument : List Char) : List Char :=
  Marker.directive.enclose (keyword ++ ' ' :: argument)

def Token.written : Token → List Char
  | .text cs => cs
  | .interpolation e => Marker.interpolation.enclose e
  | .ifStart c => writtenDirective ['i', 'f'] c
  | .elseIf c => writtenDirective ['e', 'l', 's', 'e', 'i', 'f'] c
  | .otherwise => Marker.directive.enclose ['e', 'l', 's', 'e']
  | .ifEnd => Marker.closing.enclose ['i', 'f']
  | .listStart h => writtenDirective ['l', 'i', 's', 't'] h
  | .listEnd => Marker.closing.enclose ['l', 'i', 's', 't']

/-- Whether a token that is no text is read back when it is written. -/
def Token.IsMarkable : Token → Prop
  | .text _ => False
  | .interpolation e => IsTight e ∧ '\x7d' ∉ e
  | .ifStart c | .elseIf c | .listStart c => IsTight c ∧ '>' ∉ c
  | .otherwise | .ifEnd | .listEnd => True

/-- Tokens that can follow a text. -/
def StartsNoText (ts : List Token) : Prop :=
  ∀ t ∈ ts.head?, t.isText = false

/-- Tokens that are read back when they are written one after the other. -/
inductive Separable : List Token → Prop
  | nil : Separable []
  | text {cs : List Char} {ts : List Token} (hne : cs ≠ [])
      (hplain : ∀ m : Marker, ¬ m.opening <:+: cs) (hstart : StartsNoText ts)
      (hts : Separable ts) : Separable (.text cs :: ts)
  | marked {t : Token} {ts : List Token} (ht : t.IsMarkable) (hts : Separable ts) :
      Separable (t :: ts)

private theorem directive_pieces {keyword argument : List Char}
    (hkeyword : ∀ c ∈ keyword, isBlank c = false) (h : IsTight argument) :
    (keyword ++ ' ' :: argument).takeWhile (fun c => !isBlank c) = keyword ∧
    trim ((keyword ++ ' ' :: argument).dropWhile fun c => !isBlank c) = argument := by
  constructor
  · rw [List.takeWhile_append_of_pos (by simpa using hkeyword)]
    simp [isBlank]
  · rw [List.dropWhile_append_of_pos (by simpa using hkeyword),
      List.dropWhile_cons_of_neg (by simp [isBlank]), trim_cons_of_blank rfl, h.trim_eq]

private theorem tokenize_writtenDirective {keyword inside argument : List Char}
    (hkeyword : ∀ c ∈ keyword, isBlank c = false ∧ c ≠ '>') (h : IsTight argument)
    (htrim : trim (keyword ++ ' ' :: inside) = keyword ++ ' ' :: argument) (hend : '>' ∉ inside)
    (back : List Char) {t : Token}
    (ht : ∀ s : List Char, s.takeWhile (fun c => !isBlank c) = keyword →
      trim (s.dropWhile fun c => !isBlank c) = argument → argument.isEmpty = false →
      Token.ofDirective s = .ok t) :
    tokenize (writtenDirective keyword inside ++ back) = (tokenize back).map (t :: ·) := by
  obtain ⟨htake, hdrop⟩ := directive_pieces (fun c hc => (hkeyword c hc).1) h
  have hempty : argument.isEmpty = false := by simpa using h.nonempty
  have hwhole : '>' ∉ keyword ++ ' ' :: inside := by
    simpa [hend] using fun hmem => (hkeyword _ hmem).2 rfl
  rw [writtenDirective, tokenize_enclose_append hwhole, htrim]
  show (Token.ofDirective _).bind _ = _
  rw [ht _ htake hdrop hempty]
  rfl

theorem tokenize_ifStart {inside argument : List Char} (h : IsTight argument)
    (htrim : trim ('i' :: 'f' :: ' ' :: inside) = 'i' :: 'f' :: ' ' :: argument)
    (hend : '>' ∉ inside) (back : List Char) :
    tokenize (writtenDirective ['i', 'f'] inside ++ back) =
      (tokenize back).map (.ifStart argument :: ·) := by
  refine tokenize_writtenDirective (by simp [isBlank]) h htrim hend back
    fun s htake hdrop hempty => ?_
  rw [Token.ofDirective]
  simp only [htake, hdrop, hempty]

private theorem trim_directive (keyword : List Char) {argument : List Char}
    (hkeyword : ∀ c ∈ keyword, isBlank c = false) (hne : keyword ≠ []) (h : IsTight argument) :
    trim (keyword ++ ' ' :: argument) = keyword ++ ' ' :: argument :=
  ((IsTight.of_forall hne hkeyword).surround h [' ']).trim_eq

theorem tokenize_written_append {t : Token} (h : t.IsMarkable) (back : List Char) :
    tokenize (t.written ++ back) = (tokenize back).map (t :: ·) := by
  cases t with
  | text cs => cases h
  | interpolation e =>
    have hempty : e.isEmpty = false := by simpa using h.1.nonempty
    rw [Token.written, tokenize_enclose_append h.2, h.1.trim_eq, Token.ofInside, hempty]
    rfl
  | ifStart c =>
    have htrim := trim_directive ['i', 'f'] (by simp [isBlank]) (by simp) h.1
    exact tokenize_ifStart h.1 htrim h.2 back
  | elseIf c =>
    have htrim := trim_directive ['e', 'l', 's', 'e', 'i', 'f'] (by simp [isBlank]) (by simp) h.1
    refine tokenize_writtenDirective (by simp [isBlank]) h.1 htrim h.2 back
      fun s htake hdrop hempty => ?_
    rw [Token.ofDirective]
    simp only [htake, hdrop, hempty]
  | listStart c =>
    have htrim := trim_directive ['l', 'i', 's', 't'] (by simp [isBlank]) (by simp) h.1
    refine tokenize_writtenDirective (by simp [isBlank]) h.1 htrim h.2 back
      fun s htake hdrop hempty => ?_
    rw [Token.ofDirective]
    simp only [htake, hdrop, hempty]
  | otherwise => exact tokenize_enclose_append (by decide) back
  | ifEnd => exact tokenize_enclose_append (by decide) back
  | listEnd => exact tokenize_enclose_append (by decide) back

theorem atMarker_written {t : Token} (h : t.isText = false) (back : List Char) :
    AtMarker (t.written ++ back) := by
  have henclose : ∀ (m : Marker) (inside : List Char), AtMarker (m.enclose inside ++ back) :=
    fun m inside => .inr ⟨m, inside ++ m.terminator :: back, (m.opening_append inside back).symm⟩
  cases t with
  | text cs => cases h
  | _ => exact henclose _ _

private theorem tokenize_written {ts : List Token} (h : Separable ts) :
    tokenize (ts.flatMap Token.written) = .ok ts := by
  induction h with
  | nil => exact tokenize_nil
  | marked ht hts ih =>
    rw [List.flatMap_cons, tokenize_written_append ht, ih]
    rfl
  | @text cs ts hne hplain hstart hts ih =>
    have hback : AtMarker (ts.flatMap Token.written) := by
      cases ts with
      | nil => exact .inl rfl
      | cons t ts => exact atMarker_written (hstart t rfl) _
    rw [List.flatMap_cons, Token.written,
      tokenize_append_of_atMarker (tokenize_plain hne hplain) hback, ih]
    rfl

end Tokens

section Trees

mutual

def Node.before : Node → Block → Block
  | .text s, rest => .text s.toList rest
  | .interpolation name default?, rest => .interpolation (writtenInterpolation name default?) rest
  | .choice [] _, rest => rest
  | .choice ((condition, body) :: branches) otherwise, rest =>
    .choice condition.written (blockOf body)
      (tailOf branches (if otherwise.isEmpty then .close else .otherwise (blockOf otherwise))) rest
  | .loop source item body, rest => .loop (writtenHeader source item) (blockOf body) rest

def blockOf : List Node → Block
  | [] => .done
  | n :: ns => n.before (blockOf ns)

/-- The branches of a conditional part behind its first one, in front of the last part of it. -/
def tailOf : List (Condition × List Node) → Tail → Tail
  | [], last => last
  | (condition, body) :: branches, last =>
    .elseIf condition.written (blockOf body) (tailOf branches last)

end

def written (nodes : List Node) : String :=
  String.ofList ((blockOf nodes).tokens.flatMap Token.written)

/-- What a condition needs to be written: a name, and a literal that neither ends the directive nor
holds the other operator in front of its own one. -/
def Condition.IsWritable : Condition → Prop
  | .truthy name | .falsy name => IsName name
  | .differs name literal => IsName name ∧ '>' ∉ literal.toList
  | .equals name literal =>
    IsName name ∧ '>' ∉ literal.toList ∧ ¬ ['!', '='] <:+: literal.toList

def Node.isText : Node → Bool
  | .text _ => true
  | _ => false

mutual

/-- What a node needs to be written. -/
def Node.IsWritable : Node → Prop
  | .text s => s ≠ "" ∧ ∀ m : Marker, ¬ m.opening <:+: s.toList
  | .interpolation name default? =>
    IsName name ∧ ∀ default ∈ default?, '\x7d' ∉ default.toList
  | .choice branches otherwise =>
    branches ≠ [] ∧ BranchesAreWritable branches ∧ AreWritable otherwise
  | .loop source item body => IsName source ∧ IsName item ∧ AreWritable body

/-- What a node tree needs to be written: writable nodes, and no two texts in a row. -/
def AreWritable : List Node → Prop
  | [] => True
  | n :: ns =>
    n.IsWritable ∧ (n.isText = true → ∀ next ∈ ns.head?, next.isText = false) ∧ AreWritable ns

def BranchesAreWritable : List (Condition × List Node) → Prop
  | [] => True
  | (condition, body) :: branches =>
    condition.IsWritable ∧ AreWritable body ∧ BranchesAreWritable branches

end

theorem Condition.IsWritable.isReadable {condition : Condition} (h : condition.IsWritable) :
    condition.IsReadable := by
  cases condition with
  | truthy name | falsy name => exact h
  | differs name literal => exact h.1
  | equals name literal => exact ⟨h.1, h.2.2⟩

theorem Condition.IsWritable.isTight_and_notMem {condition : Condition} (h : condition.IsWritable) :
    IsTight condition.written ∧ '>' ∉ condition.written := by
  have hquote : ∀ literal : String, '>' ∉ literal.toList → '>' ∉ quote literal := by
    intro literal hliteral
    simpa [quote] using hliteral
  cases condition with
  | truthy name =>
    have hname : IsName name := h
    exact ⟨hname.isTight, hname.notMem (by decide)⟩
  | falsy name =>
    have hname : IsName name := h
    have hbang : IsTight ['!'] := .of_forall (by simp) (by simp [isBlank])
    have hend := hname.notMem (c := '>') (by decide)
    exact ⟨hbang.surround hname.isTight [], by simpa [Condition.written] using hend⟩
  | equals name literal =>
    obtain ⟨hname, hliteral, -⟩ := h
    have hend := hname.notMem (c := '>') (by decide)
    refine ⟨hname.isTight.surround (quote_isTight literal) [' ', '=', '=', ' '], ?_⟩
    simpa [Condition.written, hend] using hquote literal hliteral
  | differs name literal =>
    obtain ⟨hname, hliteral⟩ := h
    have hend := hname.notMem (c := '>') (by decide)
    refine ⟨hname.isTight.surround (quote_isTight literal) [' ', '!', '=', ' '], ?_⟩
    simpa [Condition.written, hend] using hquote literal hliteral

theorem isMarkable_interpolation {name : String} {default? : Option String}
    (h : (Node.interpolation name default?).IsWritable) :
    (Token.interpolation (writtenInterpolation name default?)).IsMarkable := by
  rw [Node.IsWritable] at h
  obtain ⟨hname, hdefault⟩ := h
  have hend := hname.notMem (c := '\x7d') (by decide)
  cases default? with
  | none => exact ⟨hname.isTight, hend⟩
  | some default =>
    refine ⟨hname.isTight.surround (quote_isTight default) ['!'], ?_⟩
    simpa [writtenInterpolation, quote, hend] using hdefault default rfl

private theorem isMarkable_listStart {source item : String} (hsource : IsName source)
    (hitem : IsName item) : (Token.listStart (writtenHeader source item)).IsMarkable := by
  refine ⟨hsource.isTight.surround hitem.isTight [' ', 'a', 's', ' '], ?_⟩
  have hend := hsource.notMem (c := '>') (by decide)
  have hend' := hitem.notMem (c := '>') (by decide)
  simpa [writtenHeader, hend] using hend'

section Reading

mutual

private theorem nodes_blockOf (ns : List Node) (h : AreWritable ns) :
    (blockOf ns).nodes = .ok ns := by
  match ns with
  | [] => rfl
  | n :: ns =>
    rw [AreWritable] at h
    rw [blockOf, nodes_before n h.1 (nodes_blockOf ns h.2.2)]

private theorem nodes_before (n : Node) (h : n.IsWritable) {rest : Block} {ns : List Node}
    (hrest : rest.nodes = .ok ns) : (n.before rest).nodes = .ok (n :: ns) := by
  match n with
  | .text s =>
    rw [Node.before, Block.nodes, hrest, String.ofList_toList]
    rfl
  | .interpolation name default? =>
    rw [Node.IsWritable] at h
    rw [Node.before, Block.nodes, readInterpolation_written h.1, hrest]
    rfl
  | .choice [] otherwise =>
    rw [Node.IsWritable] at h
    exact absurd rfl h.1
  | .choice ((condition, body) :: branches) otherwise =>
    rw [Node.IsWritable, BranchesAreWritable] at h
    obtain ⟨-, ⟨hcondition, hbody, hbranches⟩, hotherwise⟩ := h
    have hlast : Tail.branches (if otherwise.isEmpty then .close
        else .otherwise (blockOf otherwise)) = .ok ([], otherwise) := by
      cases otherwise with
      | nil => rfl
      | cons m ms =>
        show (blockOf (m :: ms)).nodes.map _ = _
        rw [nodes_blockOf (m :: ms) hotherwise]
        rfl
    rw [Node.before, Block.nodes, readCondition_written hcondition.isReadable,
      nodes_blockOf body hbody, branches_tailOf branches hbranches hlast, hrest]
    rfl
  | .loop source item body =>
    rw [Node.IsWritable] at h
    obtain ⟨hsource, hitem, hbody⟩ := h
    rw [Node.before, Block.nodes, readListHeader_written hsource hitem, hrest,
      nodes_blockOf body hbody]
    rfl

private theorem branches_tailOf (branches : List (Condition × List Node))
    (h : BranchesAreWritable branches)
    {last : Tail} {otherwise : List Node} (hlast : last.branches = .ok ([], otherwise)) :
    (tailOf branches last).branches = .ok (branches, otherwise) := by
  match branches with
  | [] => exact hlast
  | (condition, body) :: branches =>
    rw [BranchesAreWritable] at h
    obtain ⟨hcondition, hbody, hbranches⟩ := h
    rw [tailOf, Tail.branches, readCondition_written hcondition.isReadable,
      nodes_blockOf body hbody, branches_tailOf branches hbranches hlast]
    rfl

end

end Reading

section Cutting

private theorem startsNoText_before {n : Node} (h : n.IsWritable) (htext : n.isText = false)
    (rest : Block)
    (back : List Token) : StartsNoText ((n.before rest).tokens ++ back) := by
  match n with
  | .text s => cases htext
  | .choice [] otherwise =>
    rw [Node.IsWritable] at h
    exact absurd rfl h.1
  | .interpolation name default? | .choice ((condition, body) :: branches) otherwise
  | .loop source item body =>
    rintro _ ⟨⟩
    rfl

private theorem Tail.startsNoText (t : Tail) (back : List Token) :
    StartsNoText (t.tokens ++ back) := by
  cases t <;> rintro _ ⟨⟩ <;> rfl

mutual

private theorem separable_blockOf (ns : List Node) (h : AreWritable ns) {back : List Token}
    (hback : Separable back) (hstart : StartsNoText back) :
    Separable ((blockOf ns).tokens ++ back) := by
  match ns with
  | [] => exact hback
  | n :: ns =>
    rw [AreWritable] at h
    obtain ⟨hn, hnext, hns⟩ := h
    refine separable_before n hn (separable_blockOf ns hns hback hstart) fun htext => ?_
    match ns with
    | [] => exact hstart
    | next :: ns =>
      rw [AreWritable] at hns
      exact startsNoText_before hns.1 (hnext htext next rfl) _ _

private theorem separable_before (n : Node) (h : n.IsWritable) {rest : Block} {back : List Token}
    (hrest : Separable (rest.tokens ++ back))
    (hstart : n.isText = true → StartsNoText (rest.tokens ++ back)) :
    Separable ((n.before rest).tokens ++ back) := by
  match n with
  | .text s =>
    rw [Node.IsWritable] at h
    exact .text (by simpa using h.1) h.2 (hstart rfl) hrest
  | .interpolation name default? => exact .marked (isMarkable_interpolation h) hrest
  | .choice [] otherwise =>
    rw [Node.IsWritable] at h
    exact absurd rfl h.1
  | .choice ((condition, body) :: branches) otherwise =>
    rw [Node.IsWritable, BranchesAreWritable] at h
    obtain ⟨-, ⟨hcondition, hbody, hbranches⟩, hotherwise⟩ := h
    have hlast : Separable (Tail.tokens (if otherwise.isEmpty then .close
        else .otherwise (blockOf otherwise)) ++ (rest.tokens ++ back)) := by
      have hend : Separable (.ifEnd :: (rest.tokens ++ back)) := .marked trivial hrest
      cases otherwise with
      | nil => exact hend
      | cons m ms =>
        have hms := separable_blockOf (m :: ms) hotherwise hend (by rintro _ ⟨⟩; rfl)
        show Separable (.otherwise :: ((blockOf (m :: ms)).tokens ++ [.ifEnd]) ++ _)
        rw [List.cons_append, List.append_assoc]
        exact .marked trivial hms
    have htail := separable_tailOf branches hbranches hlast
    rw [Node.before, Block.tokens, List.cons_append, List.append_assoc, List.append_assoc]
    exact .marked hcondition.isTight_and_notMem
      (separable_blockOf body hbody htail (Tail.startsNoText _ _))
  | .loop source item body =>
    rw [Node.IsWritable] at h
    obtain ⟨hsource, hitem, hbody⟩ := h
    have hend : Separable (.listEnd :: (rest.tokens ++ back)) := .marked trivial hrest
    rw [Node.before, Block.tokens, List.cons_append, List.append_assoc, List.cons_append]
    exact .marked (isMarkable_listStart hsource hitem)
      (separable_blockOf body hbody hend (by rintro _ ⟨⟩; rfl))

private theorem separable_tailOf (branches : List (Condition × List Node))
    (h : BranchesAreWritable branches) {last : Tail} {back : List Token}
    (hlast : Separable (last.tokens ++ back)) :
    Separable ((tailOf branches last).tokens ++ back) := by
  match branches with
  | [] => exact hlast
  | (condition, body) :: branches =>
    rw [BranchesAreWritable] at h
    obtain ⟨hcondition, hbody, hbranches⟩ := h
    have htail := separable_tailOf branches hbranches hlast
    rw [tailOf, Tail.tokens, List.cons_append, List.append_assoc]
    exact .marked hcondition.isTight_and_notMem
      (separable_blockOf body hbody htail (Tail.startsNoText _ _))

end

end Cutting

end Trees

/-- What is written for a tree is compiled to that tree. -/
theorem compile_written (nodes : List Node) (h : AreWritable nodes) :
    compile (written nodes) = .ok nodes := by
  have hseparable : Separable ((blockOf nodes).tokens ++ []) :=
    separable_blockOf nodes h .nil (by rintro _ ⟨⟩)
  rw [List.append_nil] at hseparable
  rw [compile, written, String.toList_ofList, tokenize_written hseparable]
  show nest _ _ _ = _
  rw [(blockOf nodes).nest_tokens, nodes_blockOf nodes h]

/-- All parts of the syntax, with the characters of one in the texts and literals of the others. -/
def Sample.allParts : List Node :=
  [.text "a$", .interpolation "b" (some "\">!x"), .text "<",
    .choice [(.equals "c" "=!$\x7b", [.text ">", .loop "d" "e" [.interpolation "e" none]]),
      (.differs "c" "!=", []), (.falsy "f", [.choice [(.truthy "g", [])] []])] [.text "\x7d"]]

theorem compile_written_sample :
    written Sample.allParts = "a$$\x7bb!\"\">!x\"\x7d<" ++
      "<#if c == \"=!$\x7b\">><#list d as e>$\x7be\x7d</#list>" ++
      "<#elseif c != \"!=\"><#elseif !f><#if g></#if><#else>\x7d</#if>" ∧
    compile (written Sample.allParts) = .ok Sample.allParts := by
  have hname : ∀ name ∈ ["b", "c", "d", "e", "f", "g"], IsName name := by
    intro name hmem
    refine isName_of_all ?_ ?_
    all_goals
      revert name
      decide +kernel
  have hplain : ∀ s ∈ [['a', '$'], ['<'], ['>'], ['\x7d']],
      ∀ m : Marker, ¬ m.opening <:+: s := by
    intro s hmem m
    revert s
    cases m <;> decide
  have hliteral : ¬ ['!', '='] <:+: ['=', '!', '$', '\x7b'] := by decide
  refine ⟨by decide, compile_written Sample.allParts ?_⟩
  simp [Sample.allParts, AreWritable, Node.IsWritable, BranchesAreWritable, Condition.IsWritable,
    Node.isText, hname, hplain, hliteral]

end RunPlan.Template
