/-!
Maps that keep the order in which their keys first came. Main statements: writing a key that is
present changes its value and nothing else, a new key goes to the end, and the keys never repeat.
-/

set_option autoImplicit false

namespace RunPlan

universe u v

namespace Entries

variable {κ : Type u} {α : Type v} [DecidableEq κ]

/-- The value of a key among key-value pairs, the first if the key repeats. -/
def find? (es : List (κ × α)) (k : κ) : Option α :=
  match es with
  | [] => none
  | (k', a) :: es => if k' = k then some a else find? es k

def put (es : List (κ × α)) (k : κ) (a : α) : List (κ × α) :=
  match es with
  | [] => [(k, a)]
  | (k', a') :: es => if k' = k then (k', a) :: es else (k', a') :: put es k a

def drop (es : List (κ × α)) (k : κ) : List (κ × α) :=
  es.filter fun e => e.1 ≠ k

private theorem keys_put (es : List (κ × α)) (k : κ) (a : α) :
    (put es k a).map Prod.fst =
      if k ∈ es.map Prod.fst then es.map Prod.fst else es.map Prod.fst ++ [k] := by
  induction es with
  | nil => simp [put]
  | cons e es ih =>
    obtain ⟨k', a'⟩ := e
    by_cases h : k' = k
    · subst h
      simp [put]
    · have hk : k ≠ k' := fun he => h he.symm
      simp only [put, h, if_false, List.map_cons, ih, List.mem_cons, hk, false_or]
      split <;> simp

private theorem find?_put_self (es : List (κ × α)) (k : κ) (a : α) :
    find? (put es k a) k = some a := by
  induction es with
  | nil => simp [put, find?]
  | cons e es ih =>
    obtain ⟨k', a'⟩ := e
    by_cases h : k' = k <;> simp [put, find?, h, ih]

private theorem find?_put_of_ne (es : List (κ × α)) {k k' : κ} (a : α) (h : k ≠ k') :
    find? (put es k a) k' = find? es k' := by
  induction es with
  | nil => simp [put, find?, h]
  | cons e es ih =>
    obtain ⟨k'', a''⟩ := e
    by_cases hk : k'' = k
    · subst hk
      simp [put, find?, h]
    · simp only [put, if_neg hk, find?, ih]

theorem find?_eq_none_iff {es : List (κ × α)} {k : κ} :
    find? es k = none ↔ k ∉ es.map Prod.fst := by
  induction es with
  | nil => simp [find?]
  | cons e es ih =>
    obtain ⟨k', a'⟩ := e
    by_cases h : k' = k
    · simp [find?, h]
    · have hk : k ≠ k' := fun he => h he.symm
      simp only [find?, h, if_false, ih, List.map_cons, List.mem_cons, hk, false_or]

private theorem nodup_keys_put {es : List (κ × α)} (h : (es.map Prod.fst).Nodup) (k : κ) (a : α) :
    ((put es k a).map Prod.fst).Nodup := by
  rw [keys_put]
  split
  · exact h
  · rename_i hk
    rw [List.nodup_append]
    refine ⟨h, by simp, ?_⟩
    intro x hx y hy he
    simp only [List.mem_singleton] at hy
    subst hy he
    exact hk hx

end Entries

/-- A finite map without repeated keys, in the order in which the keys were first written. -/
structure OrderedMap (κ : Type u) (α : Type v) where
  entries : List (κ × α)
  nodup : (entries.map Prod.fst).Nodup

namespace OrderedMap

variable {κ : Type u} {α : Type v}

@[ext] theorem ext {m m' : OrderedMap κ α} (h : m.entries = m'.entries) : m = m' := by
  cases m
  cases m'
  simpa using h

def empty : OrderedMap κ α := ⟨[], by simp⟩

instance : EmptyCollection (OrderedMap κ α) := ⟨empty⟩

instance : Inhabited (OrderedMap κ α) := ⟨empty⟩

def keys (m : OrderedMap κ α) : List κ := m.entries.map Prod.fst

def values (m : OrderedMap κ α) : List α := m.entries.map Prod.snd

def size (m : OrderedMap κ α) : Nat := m.entries.length

def isEmpty (m : OrderedMap κ α) : Bool := m.entries.isEmpty

variable [DecidableEq κ]

instance [DecidableEq α] : DecidableEq (OrderedMap κ α) := fun m m' =>
  decidable_of_iff (m.entries = m'.entries) ⟨ext, congrArg entries⟩

def get? (m : OrderedMap κ α) (k : κ) : Option α := Entries.find? m.entries k

def contains (m : OrderedMap κ α) (k : κ) : Bool := (m.get? k).isSome

/-- Gives a key a value: in place if the key is present, else at the end. -/
def insert (m : OrderedMap κ α) (k : κ) (a : α) : OrderedMap κ α :=
  ⟨Entries.put m.entries k a, Entries.nodup_keys_put m.nodup k a⟩

def insertNew (m : OrderedMap κ α) (k : κ) (a : α) : OrderedMap κ α :=
  if m.contains k then m else m.insert k a

/-- Writes the pairs one after the other: a repeated key keeps its first place and takes the last
value. -/
def ofList (es : List (κ × α)) : OrderedMap κ α :=
  es.foldl (fun m e => m.insert e.1 e.2) empty

def filter (p : κ → α → Bool) (m : OrderedMap κ α) : OrderedMap κ α :=
  ⟨m.entries.filter fun e => p e.1 e.2,
    m.nodup.sublist (List.filter_sublist.map _)⟩

theorem keys_insert (m : OrderedMap κ α) (k : κ) (a : α) :
    (m.insert k a).keys = if k ∈ m.keys then m.keys else m.keys ++ [k] :=
  Entries.keys_put m.entries k a

@[simp] theorem get?_insert_self (m : OrderedMap κ α) (k : κ) (a : α) :
    (m.insert k a).get? k = some a :=
  Entries.find?_put_self m.entries k a

theorem get?_insert_of_ne (m : OrderedMap κ α) {k k' : κ} (a : α) (h : k ≠ k') :
    (m.insert k a).get? k' = m.get? k' :=
  Entries.find?_put_of_ne m.entries a h

theorem contains_iff (m : OrderedMap κ α) (k : κ) : m.contains k = true ↔ k ∈ m.keys := by
  rw [contains, Option.isSome_iff_ne_none, get?, ne_eq, Entries.find?_eq_none_iff]
  simp [keys]

end OrderedMap

/-- Variable bindings, in the order in which the author declared them. -/
abbrev Variables := OrderedMap String String

end RunPlan
