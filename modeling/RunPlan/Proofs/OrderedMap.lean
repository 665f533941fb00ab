import RunPlan.OrderedMap
import Mathlib.Data.List.Induction

/-!
Maps that are written pair by pair. Main statements: a map binds its entries, in whatever order they
stand; a map made from pairs has every key at the place where it first comes and with the value that
it last has; filling a map up leaves alone what it binds and puts the other keys behind, in their
order.
-/

set_option autoImplicit false

namespace RunPlan.OrderedMap

universe u v

variable {κ : Type u} {α : Type v} [DecidableEq κ]

/-- The map binds the keys of the pairs, each at its first place and to its last value. -/
structure Collects (pairs : List (κ × α)) (m : OrderedMap κ α) : Prop where
  keys : m.keys = (pairs.map Prod.fst).eraseDups
  value : ∀ key, m.get? key = pairs.reverse.lookup key

private theorem get?_insert (m : OrderedMap κ α) (k : κ) (a : α) (key : κ) :
    (m.insert k a).get? key = if k = key then some a else m.get? key := by
  split
  · rename_i h
    subst h
    exact get?_insert_self m k a
  · rename_i h
    exact get?_insert_of_ne m a h

theorem get?_eq_none_iff (m : OrderedMap κ α) (key : κ) : m.get? key = none ↔ key ∉ m.keys :=
  Entries.find?_eq_none_iff

theorem mem_keys_of_get? {m : OrderedMap κ α} {key : κ} {a : α} (h : m.get? key = some a) :
    key ∈ m.keys := by
  by_contra hkey
  rw [(get?_eq_none_iff m key).mpr hkey] at h
  cases h

private theorem find?_eq_some_iff {es : List (κ × α)} (h : (es.map Prod.fst).Nodup) (key : κ)
    (a : α) : Entries.find? es key = some a ↔ (key, a) ∈ es := by
  induction es with
  | nil => simp [Entries.find?]
  | cons e es ih =>
    obtain ⟨key', a'⟩ := e
    obtain ⟨hfresh, hrest⟩ := List.nodup_cons.mp h
    rw [Entries.find?, List.mem_cons]
    by_cases hkey : key' = key
    · subst hkey
      have hnot : (key', a) ∉ es := fun hmem => hfresh (List.mem_map.mpr ⟨(key', a), hmem, rfl⟩)
      simp [hnot, eq_comm]
    · have hne : (key, a) ≠ (key', a') := fun he => hkey (congrArg Prod.fst he).symm
      simp [hkey, hne, ih hrest]

theorem get?_eq_some_iff (m : OrderedMap κ α) (key : κ) (a : α) :
    m.get? key = some a ↔ (key, a) ∈ m.entries :=
  find?_eq_some_iff m.nodup key a

theorem get?_eq_of_perm {m m' : OrderedMap κ α} (h : m.entries.Perm m'.entries) (key : κ) :
    m.get? key = m'.get? key := by
  refine Option.ext fun a => ?_
  rw [get?_eq_some_iff, get?_eq_some_iff, h.mem_iff]

private theorem ofList_concat (pairs : List (κ × α)) (pair : κ × α) :
    ofList (pairs ++ [pair]) = (ofList pairs).insert pair.1 pair.2 :=
  List.foldl_append

private theorem eraseDups_concat (ks : List κ) (k : κ) :
    (ks ++ [k]).eraseDups = if k ∈ ks then ks.eraseDups else ks.eraseDups ++ [k] := by
  rw [List.eraseDups_append]
  by_cases hk : k ∈ ks
  · have hnone : [k].removeAll ks = [] := by simp [List.removeAll, hk]
    rw [hnone, if_pos hk, List.eraseDups_nil, List.append_nil]
  · have hsome : [k].removeAll ks = [k] := by simp [List.removeAll, hk]
    have hself : [k].eraseDups = [k] := by simp [List.eraseDups_cons]
    rw [hsome, hself, if_neg hk]

theorem collects_ofList (pairs : List (κ × α)) : Collects pairs (ofList pairs) := by
  induction pairs using List.reverseRecOn with
  | nil => exact ⟨rfl, fun _ => rfl⟩
  | append_singleton pairs pair ih =>
    rw [ofList_concat]
    constructor
    · have hmem : pair.1 ∈ (pairs.map Prod.fst).eraseDups ↔ pair.1 ∈ pairs.map Prod.fst :=
        List.mem_eraseDups
      rw [keys_insert, ih.keys, List.map_append, List.map_singleton, eraseDups_concat]
      simp only [hmem]
    · intro key
      rw [get?_insert, ih.value, List.reverse_append, List.reverse_singleton, List.singleton_append,
        List.lookup_cons]
      by_cases h : pair.1 = key
      · simp [h]
      · have hne : (key == pair.1) = false := by simpa using fun he => h he.symm
        rw [if_neg h, hne]

private theorem entries_insert_of_notMem (m : OrderedMap κ α) {k : κ} (a : α) (h : k ∉ m.keys) :
    (m.insert k a).entries = m.entries ++ [(k, a)] := by
  have hput : ∀ es : List (κ × α), k ∉ es.map Prod.fst → Entries.put es k a = es ++ [(k, a)] := by
    intro es
    induction es with
    | nil => intro _; rfl
    | cons e es ih =>
      intro hes
      rw [List.map_cons, List.mem_cons, not_or] at hes
      have hne : ¬ e.1 = k := fun he => hes.1 he.symm
      rw [Entries.put, if_neg hne, ih hes.2, List.cons_append]
  exact hput m.entries h

theorem entries_ofList {pairs : List (κ × α)} (h : (pairs.map Prod.fst).Nodup) :
    (ofList pairs).entries = pairs := by
  induction pairs using List.reverseRecOn with
  | nil => rfl
  | append_singleton pairs pair ih =>
    rw [List.map_append, List.map_singleton, List.nodup_append] at h
    obtain ⟨hpairs, -, hfresh⟩ := h
    have hentries := ih hpairs
    have hnew : pair.1 ∉ (ofList pairs).keys := by
      rw [keys, hentries]
      intro hmem
      exact hfresh _ hmem _ (List.mem_singleton_self _) rfl
    rw [ofList_concat, entries_insert_of_notMem _ _ hnew, hentries]

private theorem keys_insertNew (m : OrderedMap κ α) (k : κ) (a : α) :
    (m.insertNew k a).keys = if k ∈ m.keys then m.keys else m.keys ++ [k] := by
  rw [insertNew]
  split
  · rename_i h
    rw [if_pos ((contains_iff m k).mp h)]
  · rename_i h
    exact keys_insert m k a

private theorem get?_insertNew (m : OrderedMap κ α) (k : κ) (a : α) (key : κ) :
    (m.insertNew k a).get? key = (m.get? key).or (if k = key then some a else none) := by
  rw [insertNew]
  split
  · rename_i h
    by_cases hk : k = key
    · subst hk
      obtain ⟨value, hvalue⟩ := Option.isSome_iff_exists.mp h
      rw [hvalue, Option.some_or]
    · rw [if_neg hk, Option.or_none]
  · rename_i h
    rw [get?_insert]
    by_cases hk : k = key
    · subst hk
      have hnone : m.get? k = none := by
        rw [get?_eq_none_iff, ← contains_iff]
        exact h
      rw [if_pos rfl, if_pos rfl, hnone, Option.none_or]
    · rw [if_neg hk, if_neg hk, Option.or_none]

def fill (pairs : List (κ × α)) (m : OrderedMap κ α) : OrderedMap κ α :=
  pairs.foldl (fun m pair => m.insertNew pair.1 pair.2) m

private theorem fill_cons (pair : κ × α) (pairs : List (κ × α)) (m : OrderedMap κ α) :
    fill (pair :: pairs) m = fill pairs (m.insertNew pair.1 pair.2) := rfl

theorem keys_fill {pairs : List (κ × α)} (h : (pairs.map Prod.fst).Nodup) (m : OrderedMap κ α) :
    (fill pairs m).keys = m.keys ++ (pairs.map Prod.fst).filter (· ∉ m.keys) := by
  induction pairs generalizing m with
  | nil => simp [fill]
  | cons pair pairs ih =>
    obtain ⟨hfresh, hrest⟩ := List.nodup_cons.mp h
    rw [fill_cons, ih hrest, keys_insertNew, List.map_cons, List.filter_cons]
    by_cases hk : pair.1 ∈ m.keys
    · simp only [hk, if_true, not_true_eq_false, decide_false, Bool.false_eq_true, if_false]
    · have hsame : (pairs.map Prod.fst).filter (· ∉ m.keys ++ [pair.1]) =
          (pairs.map Prod.fst).filter (· ∉ m.keys) := by
        refine List.filter_congr fun key hkey => ?_
        have hne : key ≠ pair.1 := fun he => hfresh (he ▸ hkey)
        simp [hne]
      simp only [hk, if_false, hsame, not_false_eq_true, decide_true, if_true, List.append_assoc,
        List.singleton_append]

theorem get?_fill (pairs : List (κ × α)) (m : OrderedMap κ α) (key : κ) :
    (fill pairs m).get? key = (m.get? key).or (Entries.find? pairs key) := by
  induction pairs generalizing m with
  | nil => simp [fill, Entries.find?]
  | cons pair pairs ih =>
    rw [fill_cons, ih, get?_insertNew, Option.or_assoc, Entries.find?]
    split <;> rfl

end RunPlan.OrderedMap
