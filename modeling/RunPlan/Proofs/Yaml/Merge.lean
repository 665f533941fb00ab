import RunPlan.Yaml.Merge
import RunPlan.Proofs.Yaml.Sameness
import Mathlib.Data.List.Find

/-!
Mappings that are merged. Main statements: a merged mapping has the keys of the child in their
places, and the further keys of the parent behind them; under a key of both stands what the child
says, and where that is a mapping, and the parent has one there too, the two of them merged. No
value of the child that is not a mapping is changed at any depth, and a second merge with the same
parent changes nothing at all.
-/

set_option autoImplicit false

namespace RunPlan.Yaml

section Entries

variable {child parent : Mapping}

/-- An entry of the child after the merge: where the parent has its key, the values are merged. -/
def overlay (parent : Mapping) (e : Value × Value) : Value × Value :=
  match parent.find? fun p => p.1.same e.1 with
  | some p => (e.1, mergeValue e.2 p.2)
  | none => e

private theorem overlay_fst (parent : Mapping) (e : Value × Value) :
    (overlay parent e).1 = e.1 := by
  rw [overlay]
  split <;> rfl

private theorem overlay_cons (p : Value × Value) (parent : Mapping) (e : Value × Value) :
    overlay (p :: parent) e =
      if p.1.same e.1 then (e.1, mergeValue e.2 p.2) else overlay parent e := by
  rw [overlay, List.find?_cons]
  cases p.1.same e.1 <;> rfl

private theorem overlay_eq_self {e : Value × Value} (h : ∀ p ∈ parent, p.1.same e.1 = false) :
    overlay parent e = e := by
  have hnone : parent.find? (fun p => p.1.same e.1) = none := by
    rw [List.find?_eq_none]
    intro p hp
    simp [h p hp]
  rw [overlay, hnone]

private theorem overlay_place {key value : Value} (h : Mapping.WellFormed ((key, value) :: parent))
    (e : Value × Value) :
    overlay parent (if key.same e.1 then (e.1, mergeValue e.2 value) else e) =
      overlay ((key, value) :: parent) e := by
  rw [overlay_cons]
  cases hsame : key.same e.1 with
  | true =>
    refine overlay_eq_self fun p hp => ?_
    by_contra hp'
    have hkey : key.WellFormed := h.keys _ List.mem_cons_self
    have hkeys := Value.same_of_same hkey (Bool.not_eq_false _ ▸ hp') hsame
    rw [(List.pairwise_cons.mp h.distinct).1 p hp] at hkeys
    cases hkeys
  | false => rfl

private theorem hasKey_eq_false_iff {m : Mapping} {key : Value} :
    m.hasKey key = false ↔ ∀ e ∈ m, key.same e.1 = false := by
  simp [Mapping.hasKey]

private theorem hasKey_map {f : Value × Value → Value × Value} (hf : ∀ e, (f e).1 = e.1)
    (m : Mapping)
    (key : Value) : Mapping.hasKey (m.map f) key = m.hasKey key := by
  rw [Mapping.hasKey, List.any_map, Mapping.hasKey]
  congr 1
  funext e
  rw [Function.comp_apply, hf]

private theorem hasKey_concat_of_not_same {m : Mapping} {e : Value × Value} {key : Value}
    (h : key.same e.1 = false) : Mapping.hasKey (m ++ [e]) key = m.hasKey key := by
  rw [Mapping.hasKey, List.any_append, Mapping.hasKey]
  simp [h]

/-- The entries of a merged mapping: those of the child in their places, and behind them those that
only the parent has. -/
theorem merge_eq (child : Mapping) (h : parent.WellFormed) :
    merge child parent =
      child.map (overlay parent) ++ parent.filter fun p => !child.hasKey p.1 := by
  induction parent generalizing child with
  | nil =>
    have hself : overlay [] = id := funext fun e => rfl
    rw [merge, hself]
    simp
  | cons p parent ih =>
    obtain ⟨key, value⟩ := p
    rw [merge, ih _ h.tail]
    cases hhas : child.hasKey key with
    | true =>
      have hplace : (overlay parent ∘ fun e =>
          if key.same e.1 then (e.1, mergeValue e.2 value) else e) =
            overlay ((key, value) :: parent) :=
        funext (overlay_place h)
      have hkeys := hasKey_map (m := child)
        (f := fun e => if key.same e.1 then (e.1, mergeValue e.2 value) else e)
        fun e => by split <;> rfl
      rw [if_pos rfl, List.map_map, hplace, List.filter_cons_of_neg (by simp [hhas])]
      simp only [hkeys]
    | false =>
      have hfirst : ∀ p ∈ parent, p.1.same key = false := (List.pairwise_cons.mp h.distinct).1
      have hplace : ∀ e ∈ child, overlay parent e = overlay ((key, value) :: parent) e := by
        intro e he
        rw [overlay_cons, if_neg (by simp [hasKey_eq_false_iff.mp hhas e he])]
      have hkeys : ∀ p ∈ parent,
          (!Mapping.hasKey (child ++ [(key, value)]) p.1) = !child.hasKey p.1 := by
        intro p hp
        rw [hasKey_concat_of_not_same (hfirst p hp)]
      rw [if_neg Bool.false_ne_true, List.map_append, List.map_singleton,
        overlay_eq_self fun p hp => hfirst p hp, List.filter_cons_of_pos (by simp [hhas]),
        List.map_congr_left hplace, List.filter_congr hkeys, List.append_assoc,
        List.singleton_append]

private theorem keys_merge (child : Mapping) (h : parent.WellFormed) :
    (merge child parent).map Prod.fst =
      child.map Prod.fst ++ (parent.filter fun p => !child.hasKey p.1).map Prod.fst := by
  rw [merge_eq child h, List.map_append, List.map_map]
  congr 1
  exact List.map_congr_left fun e _ => overlay_fst parent e

private theorem merge_nil (h : parent.WellFormed) : merge [] parent = parent := by
  rw [merge_eq [] h, List.map_nil, List.nil_append]
  exact List.filter_eq_self.mpr fun _ _ => rfl

end Entries

section Lookups

variable {child parent : Mapping} {key : Value}

/-- Under a key stands what the child says, with the value of the parent merged into it, or what
only the parent says. -/
theorem get?_merge (h : parent.WellFormed) (hkey : key.WellFormed) :
    (merge child parent).get? key =
      match child.get? key, parent.get? key with
      | some c, some p => some (mergeValue c p)
      | some c, none => some c
      | none, p? => p? := by
  have hplace : (fun e : Value × Value => key.same e.1) ∘ overlay parent =
      fun e => key.same e.1 := by
    funext e
    rw [Function.comp_apply, overlay_fst]
  rw [merge_eq child h, Mapping.get?, Mapping.get?, List.find?_append, List.find?_map, hplace]
  cases hchild : child.find? fun e => key.same e.1 with
  | some e =>
    have hsame : key.same e.1 = true := by simpa using List.find?_some hchild
    have hparent : parent.get? key = (parent.find? fun p => p.1.same e.1).map Prod.snd := by
      rw [Mapping.get?]
      congr 1
      refine List.find?_congr fun p hp => Bool.eq_iff_iff.mpr ⟨fun hp' => ?_, fun hp' => ?_⟩
      · exact Value.same_trans (Value.same_symm hkey hp') hsame
      · exact Value.same_of_same (h.keys p hp) hsame hp'
    rw [hparent, Option.map_some, Option.some_or, overlay]
    cases parent.find? fun p => p.1.same e.1 <;> rfl
  | none =>
    rw [List.find?_eq_none] at hchild
    have hparent : (parent.filter fun p => !child.hasKey p.1).find? (fun p => key.same p.1) =
        parent.find? fun p => key.same p.1 := by
      rw [List.find?_filter]
      refine List.find?_congr fun p _ => ?_
      cases hsame : key.same p.1 with
      | false => simp
      | true =>
        have habsent : child.hasKey p.1 = false := by
          refine hasKey_eq_false_iff.mpr fun e he => ?_
          by_contra he'
          exact hchild e he (Value.same_trans hsame (Bool.not_eq_false _ ▸ he'))
        rw [habsent]
        rfl
    rw [Option.map_none, Option.none_or, hparent]
    rfl

end Lookups

section Values

private theorem Mapping.WellFormed.of_get? {m : Mapping} (h : m.WellFormed) {key v : Value}
    (hget : m.get? key = some v) : v.WellFormed := by
  obtain ⟨e, he, rfl⟩ := Option.map_eq_some_iff.mp hget
  exact h.values e (List.mem_of_find?_eq_some he)

def Value.isMapping : Value → Bool
  | .mapping _ => true
  | _ => false

private theorem mergeValue_mapping (es ps : Mapping) :
    mergeValue (.mapping es) (.mapping ps) = .mapping (merge es ps) := by
  rw [mergeValue]

private theorem mergeValue_of_not_mapping {c p : Value}
    (h : ¬ (c.isMapping = true ∧ p.isMapping = true)) :
    mergeValue c p = c := by
  cases p with
  | mapping ps =>
    cases c with
    | mapping es => exact absurd ⟨rfl, rfl⟩ h
    | _ => rfl
  | _ => rfl

private theorem wellFormed_merge_of_values {child parent : Mapping} (hchild : child.WellFormed)
    (hparent : parent.WellFormed)
    (hvalues : ∀ p ∈ parent, ∀ c : Value, c.WellFormed → (mergeValue c p.2).WellFormed) :
    (merge child parent).WellFormed := by
  rw [merge_eq child hparent]
  constructor
  · refine List.pairwise_append.mpr ⟨?_, hparent.distinct.filter _, ?_⟩
    · refine List.pairwise_map.mpr (hchild.distinct.imp fun hne => ?_)
      rwa [overlay_fst, overlay_fst]
    · rintro _ hplace p hp
      obtain ⟨e, he, rfl⟩ := List.mem_map.mp hplace
      have habsent : child.hasKey p.1 = false := by simpa using (List.mem_filter.mp hp).2
      rw [overlay_fst]
      exact hasKey_eq_false_iff.mp habsent e he
  · rintro _ hmem
    rcases List.mem_append.mp hmem with hplace | hp
    · obtain ⟨e, he, rfl⟩ := List.mem_map.mp hplace
      rw [overlay_fst]
      exact hchild.keys e he
    · exact hparent.keys _ (List.mem_filter.mp hp).1
  · rintro _ hmem
    rcases List.mem_append.mp hmem with hplace | hp
    · obtain ⟨e, he, rfl⟩ := List.mem_map.mp hplace
      rw [overlay]
      cases hfind : parent.find? fun p => p.1.same e.1 with
      | none => exact hchild.values e he
      | some p => exact hvalues p (List.mem_of_find?_eq_some hfind) _ (hchild.values e he)
    · exact hparent.values _ (List.mem_filter.mp hp).1

private theorem wellFormed_mergeValue {c p : Value} (hc : c.WellFormed) (hp : p.WellFormed) :
    (mergeValue c p).WellFormed := by
  induction p using Value.induct_members generalizing c with
  | mapping ps _ ih =>
    have hparent := wellFormed_mapping_iff.mp hp
    cases c with
    | mapping es =>
      rw [mergeValue_mapping, wellFormed_mapping_iff]
      exact wellFormed_merge_of_values (wellFormed_mapping_iff.mp hc) hparent fun q hq c hc =>
        ih q hq hc (hparent.values q hq)
    | _ => exact hc
  | _ => exact hc

theorem wellFormed_merge {child parent : Mapping} (hchild : child.WellFormed)
    (hparent : parent.WellFormed) : (merge child parent).WellFormed :=
  wellFormed_merge_of_values hchild hparent fun p hp _ hc =>
    wellFormed_mergeValue hc (hparent.values p hp)

end Values

section Repetition

variable {parent : Mapping}

private theorem Mapping.WellFormed.eq_of_same (h : parent.WellFormed) {e p : Value × Value}
    (he : e ∈ parent) (hp : p ∈ parent) (hsame : p.1.same e.1 = true) : p = e := by
  induction parent with
  | nil => cases he
  | cons q parent ih =>
    have hother : ∀ b ∈ parent, b.1.same q.1 = false := (List.pairwise_cons.mp h.distinct).1
    rcases List.mem_cons.mp he with rfl | he' <;> rcases List.mem_cons.mp hp with rfl | hp'
    · rfl
    · rw [hother p hp'] at hsame
      cases hsame
    · have hsame' := Value.same_symm (h.keys p List.mem_cons_self) hsame
      rw [hother e he'] at hsame'
      cases hsame'
    · exact ih h.tail he' hp'

private theorem hasKey_merge_of_mem (child : Mapping) (h : parent.WellFormed) {p : Value × Value}
    (hp : p ∈ parent) : (merge child parent).hasKey p.1 = true := by
  rw [merge_eq child h, Mapping.hasKey, List.any_append, List.any_map, Bool.or_eq_true]
  cases hchild : child.hasKey p.1 with
  | true =>
    obtain ⟨e, he, hsame⟩ := List.any_eq_true.mp hchild
    exact .inl (List.any_eq_true.mpr ⟨e, he, by rwa [Function.comp_apply, overlay_fst]⟩)
  | false =>
    exact .inr (List.any_eq_true.mpr
      ⟨p, List.mem_filter.mpr ⟨hp, by simp [hchild]⟩, Value.same_refl p.1⟩)

private theorem overlay_overlay
    (hvalues : ∀ p ∈ parent, ∀ c, mergeValue (mergeValue c p.2) p.2 = mergeValue c p.2)
    (e : Value × Value) : overlay parent (overlay parent e) = overlay parent e := by
  cases hfind : parent.find? fun p => p.1.same e.1 with
  | none =>
    have hfirst : overlay parent e = e := by rw [overlay, hfind]
    rw [hfirst, hfirst]
  | some p =>
    have hfirst : overlay parent e = (e.1, mergeValue e.2 p.2) := by rw [overlay, hfind]
    rw [hfirst, overlay, hfind]
    exact congrArg (e.1, ·) (hvalues p (List.mem_of_find?_eq_some hfind) e.2)

private theorem overlay_of_mem (h : parent.WellFormed)
    (hself : ∀ p ∈ parent, mergeValue p.2 p.2 = p.2)
    {e : Value × Value} (he : e ∈ parent) : overlay parent e = e := by
  cases hfind : parent.find? fun p => p.1.same e.1 with
  | none => rw [overlay, hfind]
  | some p =>
    have hsame : p.1.same e.1 = true := by simpa using List.find?_some hfind
    obtain rfl := h.eq_of_same he (List.mem_of_find?_eq_some hfind) hsame
    rw [overlay, hfind]
    exact congrArg (p.1, ·) (hself p he)

private theorem merge_merge_of_values (child : Mapping) (h : parent.WellFormed)
    (hvalues : ∀ p ∈ parent, ∀ c, mergeValue (mergeValue c p.2) p.2 = mergeValue c p.2)
    (hself : ∀ p ∈ parent, mergeValue p.2 p.2 = p.2) :
    merge (merge child parent) parent = merge child parent := by
  have hplace : ∀ e ∈ merge child parent, overlay parent e = e := by
    intro e he
    rw [merge_eq child h, List.mem_append, List.mem_map] at he
    rcases he with ⟨e, -, rfl⟩ | he
    · exact overlay_overlay hvalues e
    · exact overlay_of_mem h hself (List.mem_filter.mp he).1
  have hnothing : parent.filter (fun p => !(merge child parent).hasKey p.1) = [] := by
    rw [List.filter_eq_nil_iff]
    intro p hp
    simp [hasKey_merge_of_mem child h hp]
  rw [merge_eq _ h, hnothing, List.append_nil, List.map_congr_left hplace, List.map_id']

private theorem mergeValue_self_of_merge_merge {v : Value} (hv : v.WellFormed)
    (h : ∀ c, mergeValue (mergeValue c v) v = mergeValue c v) : mergeValue v v = v := by
  cases v with
  | mapping es =>
    have hnil : mergeValue (.mapping []) (.mapping es) = .mapping es := by
      rw [mergeValue_mapping, merge_nil (wellFormed_mapping_iff.mp hv)]
    have hself := h (.mapping [])
    rwa [hnil] at hself
  | _ => rfl

private theorem mergeValue_mergeValue (c : Value) {p : Value} (hp : p.WellFormed) :
    mergeValue (mergeValue c p) p = mergeValue c p := by
  induction p using Value.induct_members generalizing c with
  | mapping ps _ ih =>
    have hparent := wellFormed_mapping_iff.mp hp
    have hvalues : ∀ q ∈ ps, ∀ c, mergeValue (mergeValue c q.2) q.2 = mergeValue c q.2 :=
      fun q hq c => ih q hq c (hparent.values q hq)
    have hself : ∀ q ∈ ps, mergeValue q.2 q.2 = q.2 := fun q hq =>
      mergeValue_self_of_merge_merge (hparent.values q hq) (hvalues q hq)
    cases c with
    | mapping es =>
      rw [mergeValue_mapping, mergeValue_mapping, merge_merge_of_values es hparent hvalues hself]
    | _ => rfl
  | _ => rfl

end Repetition

section Paths

def Value.at? : Value → List Value → Option Value
  | v, [] => some v
  | .mapping es, key :: path => (Mapping.get? es key).bind fun v => v.at? path
  | _, _ :: _ => none

private theorem at?_mergeValue {c p v : Value} {path : List Value} (hp : p.WellFormed)
    (hpath : ∀ key ∈ path, key.WellFormed) (hv : v.isMapping = false) (h : c.at? path = some v) :
    (mergeValue c p).at? path = some v := by
  induction path generalizing c p with
  | nil =>
    cases h
    rw [mergeValue_of_not_mapping (by simp [hv])]
    rfl
  | cons key path ih =>
    cases c with
    | mapping es =>
      cases p with
      | mapping ps =>
        have hparent := wellFormed_mapping_iff.mp hp
        obtain ⟨hkey, hpath⟩ := List.forall_mem_cons.mp hpath
        obtain ⟨c, hc, hrest⟩ := Option.bind_eq_some_iff.mp h
        show (Mapping.get? (merge es ps) key).bind _ = _
        rw [get?_merge hparent hkey, hc]
        cases hget : Mapping.get? ps key with
        | none => exact hrest
        | some q => exact ih (hparent.of_get? hget) hpath hrest
      | _ => exact h
    | _ => cases h

end Paths

/-- A merged mapping has the keys of the child and behind them those that only the parent has, each
in their order. Under a key stands what only the parent says, or the merge of two mappings, or what
the child says; no value of the child other than a mapping is changed at any path, and a second
merge with the same parent changes nothing. -/
theorem merge_inherits (child parent : Mapping) (hparent : parent.WellFormed) :
    (merge child parent).map Prod.fst =
      child.map Prod.fst ++ (parent.filter fun p => !child.hasKey p.1).map Prod.fst ∧
    (∀ key : Value, key.WellFormed →
      (child.get? key = none → (merge child parent).get? key = parent.get? key) ∧
      (∀ es ps, child.get? key = some (.mapping es) → parent.get? key = some (.mapping ps) →
        (merge child parent).get? key = some (.mapping (merge es ps))) ∧
      ∀ v, child.get? key = some v →
        (v.isMapping = false ∨ ∀ p, parent.get? key = some p → p.isMapping = false) →
        (merge child parent).get? key = some v) ∧
    (∀ (path : List Value) (v : Value), (∀ key ∈ path, key.WellFormed) → v.isMapping = false →
      (Value.mapping child).at? path = some v →
      (Value.mapping (merge child parent)).at? path = some v) ∧
    merge (merge child parent) parent = merge child parent := by
  refine ⟨keys_merge child hparent, fun key hkey => ⟨?_, ?_, ?_⟩, ?_, ?_⟩
  · intro hchild
    rw [get?_merge hparent hkey, hchild]
  · intro es ps hchild hps
    rw [get?_merge hparent hkey, hchild, hps]
    exact congrArg some (mergeValue_mapping es ps)
  · intro v hchild hv
    rw [get?_merge hparent hkey, hchild]
    cases hps : parent.get? key with
    | none => rfl
    | some p =>
      have hnot : ¬ (v.isMapping = true ∧ p.isMapping = true) := by
        rcases hv with hv | hp
        · simp [hv]
        · simp [hp p hps]
      exact congrArg some (mergeValue_of_not_mapping hnot)
  · intro path v hpath hv hat
    have hmerge := at?_mergeValue (wellFormed_mapping_iff.mpr hparent) hpath hv hat
    rwa [mergeValue_mapping] at hmerge
  · have htwice := mergeValue_mergeValue (.mapping child) (wellFormed_mapping_iff.mpr hparent)
    rw [mergeValue_mapping, mergeValue_mapping] at htwice
    exact Value.mapping.inj htwice

/-- A child that says something of its own under two keys of its parent. -/
def Sample.overrides : Mapping :=
  [(.string "group", .mapping [(.string "size", .string "2GB")]),
    (.string "queries", .sequence [.string "q3"])]

def Sample.defaults : Mapping :=
  [(.string "source", .string "d"),
    (.string "queries", .mapping [(.string "q1", .null)]),
    (.string "group",
      .mapping [(.string "size", .string "1GB"), (.string "format", .string "orc")])]

theorem merge_sample_inherits :
    Sample.defaults.WellFormed ∧
    (merge Sample.overrides Sample.defaults).map Prod.fst =
      [.string "group", .string "queries", .string "source"] ∧
    (merge Sample.overrides Sample.defaults).get? (.string "group") =
      some (.mapping [(.string "size", .string "2GB"), (.string "format", .string "orc")]) ∧
    (Value.mapping (merge Sample.overrides Sample.defaults)).at? [.string "group", .string "size"] =
      some (.string "2GB") ∧
    (merge Sample.overrides Sample.defaults).get? (.string "queries") =
      some (.sequence [.string "q3"]) := by
  have hkey : ∀ s : String, (Value.string s).WellFormed := .string
  have hqueries : (Value.mapping [(.string "q1", .null)]).WellFormed :=
    .mapping (by simp [Mapping.DistinctKeys]) (by simp [hkey]) (by simp [Value.WellFormed.null])
  have hgroup : (Value.mapping
      [(.string "size", .string "1GB"), (.string "format", .string "orc")]).WellFormed :=
    .mapping (by simp [Mapping.DistinctKeys, Value.same]) (by simp [hkey]) (by simp [hkey])
  have hparent : Sample.defaults.WellFormed :=
    ⟨by simp [Mapping.DistinctKeys, Sample.defaults, Value.same], by simp [Sample.defaults, hkey],
      by simp [Sample.defaults, hkey, hqueries, hgroup]⟩
  obtain ⟨hkeys, hvalues, hpaths, -⟩ := merge_inherits Sample.overrides Sample.defaults hparent
  obtain ⟨-, hmerged, -⟩ := hvalues (.string "group") (hkey _)
  obtain ⟨-, -, hkept⟩ := hvalues (.string "queries") (hkey _)
  refine ⟨hparent, hkeys.trans rfl, (hmerged _ _ rfl rfl).trans rfl, hpaths _ _ ?_ rfl rfl,
    hkept _ rfl (.inl rfl)⟩
  simp [hkey]

end RunPlan.Yaml
