import RunPlan.Yaml.Token

/-!
From tokens to a node tree. Each piece of syntax is read by one function on the tokens that are
left; a place where nothing stands holds an empty scalar.
-/

set_option autoImplicit false

namespace RunPlan.Yaml

/-- A node whose anchors, and references to them, are of a given type. -/
inductive Node (α : Type)
  | reference (target : α)
  | scalar (anchor? : Option α) (tag? : Option (List UInt8)) (text : String) (plain : Bool)
  | sequence (anchor? : Option α) (tag? : Option (List UInt8)) (items : List (Node α))
  | mapping (anchor? : Option α) (tag? : Option (List UInt8)) (entries : List (Node α × Node α))
  deriving Repr

/-- What the handles of tags stand for, the first entry of a handle first. -/
abbrev TagHandles := List (String × List UInt8)

namespace TagHandles

def standard : TagHandles :=
  [("!", [0x21]), ("!!", "tag:yaml.org,2002:".toUTF8.toList)]

/-- The full tag; one without a handle is full already. -/
private def full? (handles : TagHandles) (handle : String) (suffix : List UInt8) :
    Option (List UInt8) :=
  if handle.isEmpty then some suffix else (handles.lookup handle).map (· ++ suffix)

end TagHandles

namespace Node

variable {α : Type}

def missing : Node α := .scalar none none "" true

/-- The anchor and the tag in front of a node. -/
structure Properties where
  anchor? : Option String
  tag? : Option (List UInt8)

def Properties.any (p : Properties) : Bool := p.anchor?.isSome || p.tag?.isSome

private def readProperties (handles : TagHandles) : List Token → Option (Properties × List Token)
  | .anchor a :: .tag h s :: ts => (handles.full? h s).map fun tag => (⟨some a, some tag⟩, ts)
  | .tag h s :: .anchor a :: ts => (handles.full? h s).map fun tag => (⟨some a, some tag⟩, ts)
  | .anchor a :: ts => some (⟨some a, none⟩, ts)
  | .tag h s :: ts => (handles.full? h s).map fun tag => (⟨none, some tag⟩, ts)
  | ts => some (⟨none, none⟩, ts)

/-- Whether an item of a block sequence is empty before this token. -/
private def endsItem : Option Token → Bool
  | some .blockEntry | some .blockEnd => true
  | _ => false

/-- Whether an item of a sequence that is not indented is empty before this token. -/
private def endsFlushItem : Option Token → Bool
  | some .blockEntry | some .key | some .value | some .blockEnd => true
  | _ => false

/-- Whether a key or a value of a block mapping is empty before this token. -/
private def endsBlockPart : Option Token → Bool
  | some .key | some .value | some .blockEnd => true
  | _ => false

mutual

/-- A node. Block collections may stand only where `block` says so, and a block sequence without
indentation only where `flush` does. -/
def read (handles : TagHandles) :
    Nat → Bool → Bool → List Token → Option (Node String × List Token)
  | 0, _, _, _ => none
  | _ + 1, _, _, .reference name :: ts => some (.reference name, ts)
  | fuel + 1, block, flush, ts => do
    let (p, ts) ← readProperties handles ts
    let bare : Option (Node String × List Token) :=
      if p.any then some (.scalar p.anchor? p.tag? "" true, ts) else none
    match ts with
    | .blockEntry :: _ =>
      if flush then do
        let (items, rest) ← readFlushItems handles fuel ts
        return (.sequence p.anchor? p.tag? items, rest)
      else bare
    | .scalar text plain :: rest => return (.scalar p.anchor? p.tag? text plain, rest)
    | .flowSequenceStart :: rest => do
      let (items, rest) ← readFlowItems handles fuel true rest
      return (.sequence p.anchor? p.tag? items, rest)
    | .flowMappingStart :: rest => do
      let (entries, rest) ← readFlowEntries handles fuel true rest
      return (.mapping p.anchor? p.tag? entries, rest)
    | .blockSequenceStart :: rest =>
      if block then do
        let (items, rest) ← readBlockItems handles fuel rest
        return (.sequence p.anchor? p.tag? items, rest)
      else bare
    | .blockMappingStart :: rest =>
      if block then do
        let (entries, rest) ← readBlockEntries handles fuel rest
        return (.mapping p.anchor? p.tag? entries, rest)
      else bare
    | _ => bare

private def readBlockItems (handles : TagHandles) :
    Nat → List Token → Option (List (Node String) × List Token)
  | fuel + 1, .blockEntry :: ts => do
    let (item, ts) ←
      if endsItem ts.head? then some (missing, ts) else read handles fuel true false ts
    let (items, ts) ← readBlockItems handles fuel ts
    return (item :: items, ts)
  | _ + 1, .blockEnd :: ts => some ([], ts)
  | _, _ => none

/-- The items of a block sequence that stands under its key without indentation. -/
private def readFlushItems (handles : TagHandles) :
    Nat → List Token → Option (List (Node String) × List Token)
  | 0, _ => none
  | fuel + 1, .blockEntry :: ts => do
    let (item, ts) ←
      if endsFlushItem ts.head? then some (missing, ts) else read handles fuel true false ts
    let (items, ts) ← readFlushItems handles fuel ts
    return (item :: items, ts)
  | _ + 1, ts => some ([], ts)

private def readBlockEntries (handles : TagHandles) :
    Nat → List Token → Option (List (Node String × Node String) × List Token)
  | fuel + 1, .key :: ts => do
    let (key, ts) ←
      if endsBlockPart ts.head? then some (missing, ts) else read handles fuel true true ts
    let (value, ts) ← match ts with
      | .value :: ts =>
        if endsBlockPart ts.head? then some (missing, ts) else read handles fuel true true ts
      | ts => some (missing, ts)
    let (entries, ts) ← readBlockEntries handles fuel ts
    return ((key, value) :: entries, ts)
  | _ + 1, .blockEnd :: ts => some ([], ts)
  | _, _ => none

/-- The items between brackets and the closing one. A marked key makes a mapping of one entry. -/
private def readFlowItems (handles : TagHandles) :
    Nat → Bool → List Token → Option (List (Node String) × List Token)
  | 0, _, _ => none
  | _ + 1, _, .flowSequenceEnd :: ts => some ([], ts)
  | fuel + 1, first, ts => do
    let ts ← match first, ts with
      | true, ts => some ts
      | false, .flowEntry :: ts => some ts
      | false, _ => none
    match ts with
    | .flowSequenceEnd :: ts => return ([], ts)
    | .key :: ts => do
      let (key, ts) ← match ts with
        | .value :: ts | .flowEntry :: ts | .flowSequenceEnd :: ts => some (missing, ts)
        | ts => read handles fuel false false ts
      let (value, ts) ← match ts with
        | .value :: .flowEntry :: ts => some (missing, .flowEntry :: ts)
        | .value :: .flowSequenceEnd :: ts => some (missing, .flowSequenceEnd :: ts)
        | .value :: ts => read handles fuel false false ts
        | ts => some (missing, ts)
      let (items, ts) ← readFlowItems handles fuel false ts
      return (.mapping none none [(key, value)] :: items, ts)
    | ts => do
      let (item, ts) ← read handles fuel false false ts
      let (items, ts) ← readFlowItems handles fuel false ts
      return (item :: items, ts)

/-- The entries between braces and the closing one. A node that is not marked as a key is one
without a value. -/
private def readFlowEntries (handles : TagHandles) :
    Nat → Bool → List Token → Option (List (Node String × Node String) × List Token)
  | 0, _, _ => none
  | _ + 1, _, .flowMappingEnd :: ts => some ([], ts)
  | fuel + 1, first, ts => do
    let ts ← match first, ts with
      | true, ts => some ts
      | false, .flowEntry :: ts => some ts
      | false, _ => none
    match ts with
    | .flowMappingEnd :: ts => return ([], ts)
    | .key :: ts => do
      let (key, ts) ← match ts with
        | .value :: _ | .flowEntry :: _ | .flowMappingEnd :: _ => some (missing, ts)
        | ts => read handles fuel false false ts
      let (value, ts) ← match ts with
        | .value :: .flowEntry :: ts => some (missing, .flowEntry :: ts)
        | .value :: .flowMappingEnd :: ts => some (missing, .flowMappingEnd :: ts)
        | .value :: ts => read handles fuel false false ts
        | ts => some (missing, ts)
      let (entries, ts) ← readFlowEntries handles fuel false ts
      return ((key, value) :: entries, ts)
    | ts => do
      let (key, ts) ← read handles fuel false false ts
      let (entries, ts) ← readFlowEntries handles fuel false ts
      return ((key, missing) :: entries, ts)

end

/-- The directives in front of a document. The version may be given once, and a handle too. -/
private def readDirectives : Bool → TagHandles → List Token → Option (TagHandles × List Token)
  | seen, handles, .version major minor :: ts =>
    if seen || major ≠ 1 || (minor ≠ 1 && minor ≠ 2) then none
    else readDirectives true handles ts
  | seen, handles, .tagHandle handle bytes :: ts =>
    if (handles.lookup handle).isSome then none
    else readDirectives seen (handles ++ [(handle, bytes)]) ts
  | _, handles, ts => some (handles ++ TagHandles.standard, ts)

private def endsDocument : Option Token → Bool
  | none | some (.version ..) | some (.tagHandle ..) | some .documentStart
  | some .documentEnd => true
  | _ => false

/-- The one document in the tokens; `some none` if there is none at all. -/
def ofTokens (ts : List Token) : Option (Option (Node String)) := do
  let fuel := 2 * ts.length + 2
  let content ← match ts with
    | [] => return none
    | .version .. :: _ | .tagHandle .. :: _ | .documentStart :: _ => do
      let (handles, ts) ← readDirectives false [] ts
      match ts with
      | .documentStart :: ts =>
        if endsDocument ts.head? then some (missing, ts) else read handles fuel true false ts
      | _ => none
    | ts => read TagHandles.standard fuel true false ts
  if content.2.all (· == .documentEnd) then return some content.1 else none

end Node

end RunPlan.Yaml
