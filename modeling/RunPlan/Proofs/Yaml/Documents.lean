import RunPlan.Proofs.Definition.Inheritance
import RunPlan.Proofs.Yaml.Merge

/-!
What documents hold. Main statement: in the value of a document no mapping has the same key twice,
since a mapping that is written so is malformed; and neither has the definition of a file, with all
that it inherits.
-/

set_option autoImplicit false

namespace RunPlan.Yaml

section Scalars

private theorem wellFormed_of_plainValue? {s : String} {v : Value} (h : plainValue? s = some v) :
    v.WellFormed := by
  rw [plainValue?] at h
  split at h
  · cases h
    exact .null
  · split at h
    · cases h
      exact .bool _
    · cases h
      exact .number _
    · cases h
    · split at h
      · cases h
        exact .string _
      · split at h <;> cases h
        · exact .number _
        · exact .string _

private theorem wellFormed_of_scalarValue? {tag? : Option (List UInt8)} {s : String} {plain : Bool}
    {v : Value} (h : scalarValue? tag? s plain = some v) : v.WellFormed := by
  cases tag? with
  | none =>
    cases plain with
    | true => exact wellFormed_of_plainValue? h
    | false =>
      cases h
      exact .string s
  | some tag =>
    replace h : taggedScalar? tag s plain = some v := h
    rw [taggedScalar?] at h
    split at h
    · obtain ⟨b, -, rfl⟩ := Option.map_eq_some_iff.mp h
      exact .bool b
    · split at h
      · split at h <;> cases h
        exact .number _
      · split at h
        · obtain ⟨x, -, rfl⟩ := Option.map_eq_some_iff.mp h
          exact .number _
        · split at h
          · split at h <;> cases h
            exact .null
          · split at h
            · exact wellFormed_of_plainValue? h
            · cases h
              exact .string s

private theorem wellFormed_withTag {tag? : Option (List UInt8)} {v : Value} (h : v.WellFormed) :
    (Node.withTag tag? v).WellFormed := by
  rw [Node.withTag]
  split
  · exact .tagged _ h
  · exact h

private theorem wellFormed_of_scalarNode? {node : Node Nat} {v : Value}
    (h : Node.scalarNode? node = some v) : v.WellFormed := by
  cases node with
  | scalar anchor? tag? text plain =>
    obtain ⟨value, hvalue, rfl⟩ := Option.map_eq_some_iff.mp h
    exact wellFormed_withTag (wellFormed_of_scalarValue? hvalue)
  | _ => cases h

end Scalars

section Collections

private theorem distinct_of_distinctEntries {entries : List (Value × Value)} {m : Mapping}
    (h : Node.distinctEntries entries = some m) : m = entries ∧ m.DistinctKeys := by
  have hgo : ∀ (entries : List (Value × Value)) (taken m : Mapping), taken.DistinctKeys →
      entries.foldlM (fun (m : Mapping) e => if m.hasKey e.1 then none else some (m ++ [e])) taken =
        some m → m = taken ++ entries ∧ m.DistinctKeys := by
    intro entries
    induction entries with
    | nil =>
      intro taken m htaken h
      cases h
      exact ⟨(List.append_nil _).symm, htaken⟩
    | cons e entries ih =>
      intro taken m htaken h
      rw [List.foldlM_cons] at h
      obtain ⟨next, hnext, h⟩ := Option.bind_eq_some_iff.mp h
      split at hnext
      · cases hnext
      · rename_i hnew
        cases hnext
        have hdistinct : Mapping.DistinctKeys (taken ++ [e]) := by
          refine List.pairwise_append.mpr ⟨htaken, List.pairwise_singleton _ _, ?_⟩
          intro a ha b hb
          rw [List.mem_singleton.mp hb]
          rw [Mapping.hasKey, List.any_eq_true, not_exists] at hnew
          simpa using fun hsame => hnew a ⟨ha, hsame⟩
        obtain ⟨rfl, hm⟩ := ih _ _ hdistinct h
        exact ⟨by rw [List.append_assoc, List.singleton_append], hm⟩
  exact hgo entries [] m List.Pairwise.nil h

variable {α β : Type}

/-- Whatever the computation gives has the property. -/
def Gives (x : StateT Nat Option α) (P : α → Prop) : Prop :=
  ∀ s a s', x.run s = some (a, s') → P a

variable {P : α → Prop} {Q : β → Prop}

theorem Gives.pure {a : α} (h : P a) : Gives (pure a) P := by
  intro s a' s' hrun
  cases hrun
  exact h

theorem Gives.lift {o : Option α} (h : ∀ a, o = some a → P a) : Gives (StateT.lift o) P := by
  intro s a s' hrun
  obtain ⟨a', ha', he⟩ := Option.bind_eq_some_iff.mp hrun
  cases he
  exact h a ha'

theorem Gives.bind {x : StateT Nat Option α} {f : α → StateT Nat Option β} (hx : Gives x P)
    (hf : ∀ a, P a → Gives (f a) Q) : Gives (x >>= f) Q := by
  intro s b s' hrun
  obtain ⟨⟨a, t⟩, ha, hb⟩ := Option.bind_eq_some_iff.mp hrun
  exact hf a (hx s a t ha) t b s' hb

theorem Gives.trivial (x : StateT Nat Option α) : Gives x fun _ => True :=
  fun _ _ _ _ => True.intro

theorem Gives.mapM {f : α → StateT Nat Option β} {l : List α} (h : ∀ a ∈ l, Gives (f a) Q) :
    Gives (l.mapM f) fun bs => ∀ b ∈ bs, Q b := by
  induction l with
  | nil => exact .pure (by simp)
  | cons a l ih =>
    obtain ⟨ha, hl⟩ := List.forall_mem_cons.mp h
    rw [List.mapM_cons]
    refine .bind ha fun b hb => .bind (ih hl) fun bs hbs => .pure ?_
    exact List.forall_mem_cons.mpr ⟨hb, hbs⟩

private theorem gives_toValue (targets : List (Nat × Node Nat)) (depth : Nat) (node : Node Nat) :
    Gives (Node.toValue targets depth node) Value.WellFormed := by
  induction depth generalizing node with
  | zero =>
    rw [Node.toValue]
    exact .bind (.trivial _) fun _ _ => .lift fun _ => wellFormed_of_scalarNode?
  | succ depth ih =>
    rw [Node.toValue]
    refine .bind (.trivial _) fun node _ => ?_
    split
    · exact .bind (.mapM fun item _ => ih item) fun values hvalues =>
        .pure (wellFormed_withTag (.sequence hvalues))
    · refine .bind (P := fun es => ∀ e ∈ es, e.1.WellFormed ∧ e.2.WellFormed)
        (.mapM fun entry _ => ?_) fun entries hentries => ?_
      · exact .bind (ih entry.1) fun key hkey => .bind (ih entry.2) fun value hvalue =>
          .pure ⟨hkey, hvalue⟩
      · refine .bind (P := Mapping.WellFormed) (.lift fun m hm => ?_) fun m hm => ?_
        · obtain ⟨rfl, hdistinct⟩ := distinct_of_distinctEntries hm
          exact ⟨hdistinct, fun e he => (hentries e he).1, fun e he => (hentries e he).2⟩
        · exact .pure (wellFormed_withTag (wellFormed_mapping_iff.mpr hm))
    · exact .lift fun _ => wellFormed_of_scalarNode?

end Collections

/-- In the value of a document no mapping has the same key twice. -/
theorem wellFormed_of_parse? {text : String} {v : Value} (h : Value.parse? text = some v) :
    v.WellFormed := by
  rw [Value.parse?] at h
  obtain ⟨tokens, -, h⟩ := Option.bind_eq_some_iff.mp h
  obtain ⟨named?, -, h⟩ := Option.bind_eq_some_iff.mp h
  cases named? with
  | none =>
    cases h
    exact .null
  | some named =>
    obtain ⟨⟨node, numbering⟩, -, h⟩ := Option.bind_eq_some_iff.mp h
    obtain ⟨⟨value, left⟩, hvalue, h⟩ := Option.bind_eq_some_iff.mp h
    cases h
    exact gives_toValue _ _ node _ _ _ hvalue

end RunPlan.Yaml

namespace RunPlan.Definition

open RunPlan.Yaml

theorem wellFormed_of_parse {text : String} {m : Mapping} (h : parse text = .ok m) :
    m.WellFormed := by
  have hempty : Mapping.WellFormed [] := ⟨.nil, by simp, by simp⟩
  rw [parse] at h
  split at h
  · cases h
    exact hempty
  · split at h
    · rename_i entries hentries
      cases h
      exact wellFormed_mapping_iff.mp (wellFormed_of_parse? hentries)
    · cases h
      exact hempty
    · cases h
    · cases h

private theorem wellFormed_erase {m : Mapping} (h : m.WellFormed) (key : Value) :
    (m.erase key).WellFormed :=
  ⟨h.distinct.filter _, fun e he => h.keys e (List.mem_filter.mp he).1,
    fun e he => h.values e (List.mem_filter.mp he).1⟩

private theorem wellFormed_of_loadFrom {tree : FileTree} {fuel : Nat} {visited : List Place}
    {file : Resource} {m : Mapping} (h : loadFrom tree fuel visited file = .ok m) :
    m.WellFormed := by
  induction fuel generalizing visited file m with
  | zero => cases h
  | succ fuel ih =>
    cases hplace : tree.resolve file.path with
    | error fault =>
      rw [loadFrom, hplace] at h
      cases h
    | ok found =>
      by_cases hmem : found.1 ∈ visited
      · rw [loadFrom_of_mem hplace hmem] at h
        cases h
      · rw [loadFrom_of_notMem hplace hmem] at h
        obtain ⟨definition, hread, h⟩ := bind_eq_ok_iff.mp h
        obtain ⟨text, -, hparse⟩ := bind_eq_ok_iff.mp hread
        have hdefinition := wellFormed_of_parse (mapError_eq_ok_iff.mp hparse)
        obtain ⟨base, -, h⟩ := bind_eq_ok_iff.mp h
        cases base with
        | none =>
          cases h
          exact hdefinition
        | some base =>
          obtain ⟨parent, hparent, h⟩ := bind_eq_ok_iff.mp h
          cases h
          exact wellFormed_merge (wellFormed_erase hdefinition _) (ih hparent)

/-- What a file inherits is merged from mappings without a key twice, and is one itself. -/
theorem wellFormed_of_load {tree : FileTree} {file : Resource} {m : Mapping}
    (h : load tree file = .ok m) : m.WellFormed :=
  wellFormed_of_loadFrom h

end RunPlan.Definition
