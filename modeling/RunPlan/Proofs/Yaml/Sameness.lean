import RunPlan.Yaml.Value
import Mathlib.Data.List.Basic
import Mathlib.Data.List.Forall2

/-!
When two values are the same. Main statements: each value is the same as itself, what is the same as
a third value by way of a second one is the same as the third, and for values whose mappings have
distinct keys it does not matter which of the two comes first.
-/

set_option autoImplicit false

namespace RunPlan

section Numbers

/-- One of the two zeros, in any of the forms that a mantissa of zero has. -/
def Binary64.IsZero : Binary64 → Prop
  | .finite _ mantissa _ => mantissa = 0
  | .nan | .infinite _ => False

private theorem Binary64.same_iff {x y : Binary64} :
    x.same y = true ↔ x = y ∨ (x.IsZero ∧ y.IsZero) := by
  cases x with
  | finite s m e =>
    cases y with
    | finite s' m' e' => simp [Binary64.same, Binary64.IsZero, or_comm, and_assoc]
    | nan | infinite s' => simp [Binary64.same, Binary64.IsZero]
  | nan | infinite s => simp [Binary64.same, Binary64.IsZero]

end Numbers

namespace Yaml

section Numbers

variable {n n' n'' : Number}

theorem Number.same_refl (n : Number) : n.same n = true := by
  cases n with
  | int i => exact beq_self_eq_true i
  | float x => exact Binary64.same_iff.mpr (.inl rfl)

theorem Number.same_symm (h : n.same n' = true) : n'.same n = true := by
  cases n with
  | int i =>
    cases n' with
    | int j => exact beq_iff_eq.mpr (eq_of_beq h).symm
    | float y => cases h
  | float x =>
    cases n' with
    | int j => cases h
    | float y =>
      refine Binary64.same_iff.mpr ?_
      exact (Binary64.same_iff.mp h).imp Eq.symm And.symm

theorem Number.same_trans (h : n.same n' = true) (h' : n'.same n'' = true) :
    n.same n'' = true := by
  cases n with
  | int i =>
    cases n' with
    | int j =>
      cases n'' with
      | int k => exact beq_iff_eq.mpr ((eq_of_beq h).trans (eq_of_beq h'))
      | float z => cases h'
    | float y => cases h
  | float x =>
    cases n' with
    | int j => cases h
    | float y =>
      cases n'' with
      | int k => cases h'
      | float z =>
        refine Binary64.same_iff.mpr ?_
        rcases Binary64.same_iff.mp h with rfl | ⟨hx, hy⟩
        · exact Binary64.same_iff.mp h'
        · rcases Binary64.same_iff.mp h' with rfl | ⟨-, hz⟩
          · exact .inr ⟨hx, hy⟩
          · exact .inr ⟨hx, hz⟩

end Numbers

section Values

/-- A property of values follows from that of the values inside them. -/
@[elab_as_elim]
theorem Value.induct_members {motive : Value → Prop} (null : motive .null)
    (bool : ∀ b, motive (.bool b)) (number : ∀ n, motive (.number n))
    (string : ∀ s, motive (.string s))
    (sequence : ∀ items, (∀ v ∈ items, motive v) → motive (.sequence items))
    (mapping : ∀ es, (∀ e ∈ es, motive e.1) → (∀ e ∈ es, motive e.2) → motive (.mapping es))
    (tagged : ∀ tag v, motive v → motive (.tagged tag v)) (v : Value) : motive v := by
  refine @Value.rec motive (fun items => ∀ v ∈ items, motive v)
    (fun es => ∀ e ∈ es, motive e.1 ∧ motive e.2) (fun e => motive e.1 ∧ motive e.2)
    null bool number string sequence
    (fun es h => mapping es (fun e he => (h e he).1) fun e he => (h e he).2) tagged
    ?_ ?_ ?_ ?_ (fun _ _ hkey hvalue => ⟨hkey, hvalue⟩) v
  · simp
  · exact fun _ _ hhead htail => List.forall_mem_cons.mpr ⟨hhead, htail⟩
  · simp
  · exact fun _ _ hhead htail => List.forall_mem_cons.mpr ⟨hhead, htail⟩

/-- A value in which no mapping has two entries with the same key. -/
inductive Value.WellFormed : Value → Prop
  | null : WellFormed .null
  | bool (b : Bool) : WellFormed (.bool b)
  | number (n : Number) : WellFormed (.number n)
  | string (s : String) : WellFormed (.string s)
  | sequence {items : List Value} (hitems : ∀ v ∈ items, WellFormed v) :
      WellFormed (.sequence items)
  | mapping {es : List (Value × Value)} (hdistinct : Mapping.DistinctKeys es)
      (hkeys : ∀ e ∈ es, WellFormed e.1) (hvalues : ∀ e ∈ es, WellFormed e.2) :
      WellFormed (.mapping es)
  | tagged (tag : String) {v : Value} (hvalue : WellFormed v) : WellFormed (.tagged tag v)

/-- A mapping whose keys are distinct, as are those of the mappings inside its keys and values. -/
structure Mapping.WellFormed (m : Mapping) : Prop where
  distinct : m.DistinctKeys
  keys : ∀ e ∈ m, e.1.WellFormed
  values : ∀ e ∈ m, e.2.WellFormed

theorem wellFormed_mapping_iff {m : Mapping} :
    (Value.mapping m).WellFormed ↔ m.WellFormed := by
  constructor
  · intro h
    cases h with
    | mapping hdistinct hkeys hvalues => exact ⟨hdistinct, hkeys, hvalues⟩
  · exact fun h => .mapping h.distinct h.keys h.values

theorem Mapping.WellFormed.tail {e : Value × Value} {m : Mapping}
    (h : Mapping.WellFormed (e :: m)) : m.WellFormed :=
  ⟨(List.pairwise_cons.mp h.distinct).2, (List.forall_mem_cons.mp h.keys).2,
    (List.forall_mem_cons.mp h.values).2⟩

section Equations

attribute [local simp] Value.same sameItems sameEntries

private theorem sameItems_iff {vs vs' : List Value} :
    sameItems vs vs' = true ↔ List.Forall₂ (fun v v' => v.same v' = true) vs vs' := by
  induction vs generalizing vs' with
  | nil => cases vs' <;> simp
  | cons v vs ih => cases vs' <;> simp [ih]

private theorem sameEntries_iff {es es' : List (Value × Value)} : sameEntries es es' = true ↔
    ∀ e ∈ es, ∃ e' ∈ es', e.1.same e'.1 = true ∧ e.2.same e'.2 = true := by
  induction es with
  | nil => simp
  | cons e es ih => simp [ih]

private theorem same_mapping_iff {es : List (Value × Value)} {w : Value} :
    (Value.mapping es).same w = true ↔ ∃ es', w = .mapping es' ∧ es.length = es'.length ∧
      ∀ e ∈ es, ∃ e' ∈ es', e.1.same e'.1 = true ∧ e.2.same e'.2 = true := by
  cases w <;> simp [sameEntries_iff]

private theorem same_sequence_iff {items : List Value} {w : Value} :
    (Value.sequence items).same w = true ↔ ∃ items', w = .sequence items' ∧
      List.Forall₂ (fun v v' => v.same v' = true) items items' := by
  cases w <;> simp [sameItems_iff]

private theorem same_tagged_iff {tag : String} {v w : Value} : (Value.tagged tag v).same w = true ↔
    ∃ tag' v', w = .tagged tag' v' ∧ bareTag tag = bareTag tag' ∧ v.same v' = true := by
  cases w <;> simp

private theorem same_number_iff {n : Number} {w : Value} :
    (Value.number n).same w = true ↔ ∃ n', w = .number n' ∧ n.same n' = true := by
  cases w <;> simp

private theorem same_null_iff {w : Value} : Value.null.same w = true ↔ w = .null := by
  cases w <;> simp

private theorem same_bool_iff {b : Bool} {w : Value} :
    (Value.bool b).same w = true ↔ w = .bool b := by
  cases w <;> simp [@eq_comm Bool b]

private theorem same_string_iff {s : String} {w : Value} :
    (Value.string s).same w = true ↔ w = .string s := by
  cases w <;> simp [@eq_comm String s]

end Equations

theorem Value.same_refl (v : Value) : v.same v = true := by
  induction v using Value.induct_members with
  | null => rfl
  | bool b => exact same_bool_iff.mpr rfl
  | number n => exact same_number_iff.mpr ⟨n, rfl, n.same_refl⟩
  | string s => exact same_string_iff.mpr rfl
  | sequence items ih =>
    exact same_sequence_iff.mpr ⟨items, rfl, List.forall₂_same.mpr ih⟩
  | mapping es hkeys hvalues =>
    exact same_mapping_iff.mpr ⟨es, rfl, rfl, fun e he => ⟨e, he, hkeys e he, hvalues e he⟩⟩
  | tagged tag v ih => exact same_tagged_iff.mpr ⟨tag, v, rfl, rfl, ih⟩

theorem Value.same_trans {v w x : Value} (h : v.same w = true) (h' : w.same x = true) :
    v.same x = true := by
  induction v using Value.induct_members generalizing w x with
  | null =>
    obtain rfl := same_null_iff.mp h
    exact h'
  | bool b =>
    obtain rfl := same_bool_iff.mp h
    exact h'
  | number n =>
    obtain ⟨n', rfl, hn⟩ := same_number_iff.mp h
    obtain ⟨n'', rfl, hn'⟩ := same_number_iff.mp h'
    exact same_number_iff.mpr ⟨n'', rfl, Number.same_trans hn hn'⟩
  | string s =>
    obtain rfl := same_string_iff.mp h
    exact h'
  | sequence items ih =>
    obtain ⟨items', rfl, hitems⟩ := same_sequence_iff.mp h
    obtain ⟨items'', rfl, hitems'⟩ := same_sequence_iff.mp h'
    refine same_sequence_iff.mpr ⟨items'', rfl, ?_⟩
    clear h h'
    induction hitems generalizing items'' with
    | nil => exact hitems'
    | cons hv _ hrest =>
      cases hitems' with
      | cons hv' hitems' =>
        rw [List.forall_mem_cons] at ih
        exact .cons (ih.1 hv hv') (hrest ih.2 _ hitems')
  | mapping es hkeys hvalues =>
    obtain ⟨es', rfl, hlength, hentries⟩ := same_mapping_iff.mp h
    obtain ⟨es'', rfl, hlength', hentries'⟩ := same_mapping_iff.mp h'
    refine same_mapping_iff.mpr ⟨es'', rfl, hlength.trans hlength', fun e he => ?_⟩
    obtain ⟨e', he', hkey, hvalue⟩ := hentries e he
    obtain ⟨e'', he'', hkey', hvalue'⟩ := hentries' e' he'
    exact ⟨e'', he'', hkeys e he hkey hkey', hvalues e he hvalue hvalue'⟩
  | tagged tag v ih =>
    obtain ⟨tag', v', rfl, htag, hv⟩ := same_tagged_iff.mp h
    obtain ⟨tag'', v'', rfl, htag', hv'⟩ := same_tagged_iff.mp h'
    exact same_tagged_iff.mpr ⟨tag'', v'', rfl, htag.trans htag', ih hv hv'⟩

/-- Where each item has a partner in a list of the same length, and no two have the same one, no
item of the other list is left without. -/
private theorem exists_partner {α β : Type} {r : α → β → Prop} {l : List α} {l' : List β}
    (hlength : l.length = l'.length) (hpartner : ∀ a ∈ l, ∃ b ∈ l', r a b)
    (hone : l.Pairwise fun a a' => ∀ b, r a b → ¬ r a' b) : ∀ b ∈ l', ∃ a ∈ l, r a b := by
  induction l generalizing l' with
  | nil =>
    obtain rfl := List.length_eq_zero_iff.mp hlength.symm
    simp
  | cons a l ih =>
    obtain ⟨b, hb, hab⟩ := hpartner a List.mem_cons_self
    obtain ⟨front, back, rfl⟩ := List.append_of_mem hb
    obtain ⟨hfirst, hone⟩ := List.pairwise_cons.mp hone
    have hrest : ∀ a' ∈ l, ∃ b' ∈ front ++ back, r a' b' := by
      intro a' ha'
      obtain ⟨b', hb', hab'⟩ := hpartner a' (List.mem_cons_of_mem _ ha')
      have hne : b' ≠ b := by
        rintro rfl
        exact hfirst a' ha' b' hab hab'
      refine ⟨b', ?_, hab'⟩
      simpa [hne] using hb'
    have hlength' : l.length = (front ++ back).length := by
      simp only [List.length_append, List.length_cons] at hlength ⊢
      omega
    intro b' hb'
    by_cases heq : b' = b
    · exact ⟨a, List.mem_cons_self, heq ▸ hab⟩
    · obtain ⟨a', ha', hab'⟩ := ih hlength' hrest hone b' (by simpa [heq] using hb')
      exact ⟨a', List.mem_cons_of_mem _ ha', hab'⟩

theorem Value.same_symm {v w : Value} (hv : v.WellFormed) (h : v.same w = true) :
    w.same v = true := by
  induction v using Value.induct_members generalizing w with
  | null =>
    obtain rfl := same_null_iff.mp h
    exact h
  | bool b =>
    obtain rfl := same_bool_iff.mp h
    exact h
  | number n =>
    obtain ⟨n', rfl, hn⟩ := same_number_iff.mp h
    exact same_number_iff.mpr ⟨n, rfl, Number.same_symm hn⟩
  | string s =>
    obtain rfl := same_string_iff.mp h
    exact h
  | sequence items ih =>
    cases hv with
    | sequence hwell =>
      obtain ⟨items', rfl, hitems⟩ := same_sequence_iff.mp h
      refine same_sequence_iff.mpr ⟨items, rfl, ?_⟩
      clear h
      induction hitems with
      | nil => exact .nil
      | cons hv _ hrest =>
        rw [List.forall_mem_cons] at ih hwell
        exact .cons (ih.1 hwell.1 hv) (hrest ih.2 hwell.2)
  | mapping es hkeys hvalues =>
    have hwell := wellFormed_mapping_iff.mp hv
    obtain ⟨es', rfl, hlength, hentries⟩ := same_mapping_iff.mp h
    have hone : es.Pairwise fun e e' => ∀ b : Value × Value,
        (e.1.same b.1 = true ∧ e.2.same b.2 = true) →
          ¬ (e'.1.same b.1 = true ∧ e'.2.same b.2 = true) := by
      refine (List.Pairwise.and_mem.mp hwell.distinct).imp ?_
      rintro e e' ⟨he, -, hne⟩ b hb hb'
      have hsame := Value.same_trans hb'.1 (hkeys e he (hwell.keys e he) hb.1)
      rw [hsame] at hne
      cases hne
    refine same_mapping_iff.mpr ⟨es, rfl, hlength.symm, fun e' he' => ?_⟩
    obtain ⟨e, he, hkey, hvalue⟩ := exists_partner hlength hentries hone e' he'
    exact ⟨e, he, hkeys e he (hwell.keys e he) hkey, hvalues e he (hwell.values e he) hvalue⟩
  | tagged tag v ih =>
    cases hv with
    | tagged _ hwell =>
      obtain ⟨tag', v', rfl, htag, hv⟩ := same_tagged_iff.mp h
      exact same_tagged_iff.mpr ⟨tag, v, rfl, htag.symm, ih hwell hv⟩

theorem Value.same_of_same {k k' key : Value} (hk' : k'.WellFormed) (h : k.same key = true)
    (h' : k'.same key = true) : k.same k' = true :=
  Value.same_trans h (Value.same_symm hk' h')

end Values

end Yaml

end RunPlan
