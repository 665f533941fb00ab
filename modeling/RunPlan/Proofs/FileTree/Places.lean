import RunPlan.FileTree.Locate

/-!
The places of a tree. Main statement: a path leads to one of the finitely many places that the tree
has, so different files are never more than the entries of the tree.
-/

set_option autoImplicit false

namespace RunPlan

namespace Entry

mutual

/-- The places below an entry, counted from it, its own among them. -/
def places : Entry → List Place
  | .directory entries => [] :: placesOf entries
  | _ => [[]]

def placesOf : List (String × Entry) → List Place
  | [] => []
  | (name, e) :: es => (places e).map (name :: ·) ++ placesOf es

end

mutual

theorem length_places (e : Entry) : (places e).length = count e := by
  match e with
  | .directory entries => rw [places, List.length_cons, length_placesOf, count, Nat.add_comm]
  | .file _ | .socket | .link _ => rfl

private theorem length_placesOf (entries : List (String × Entry)) :
    (placesOf entries).length = countOf entries := by
  match entries with
  | [] => rfl
  | (name, e) :: es =>
    rw [placesOf, List.length_append, List.length_map, length_places, length_placesOf, countOf]

end

private theorem nil_mem_places (e : Entry) : [] ∈ places e := by
  cases e <;> simp [places]

private theorem cons_mem_placesOf {entries : List (String × Entry)} {name : String} {e : Entry}
    {place : Place} (h : entries.lookup name = some e) (hplace : place ∈ places e) :
    name :: place ∈ placesOf entries := by
  induction entries with
  | nil => cases h
  | cons entry entries ih =>
    obtain ⟨name', e'⟩ := entry
    rw [placesOf, List.mem_append]
    rw [List.lookup_cons] at h
    by_cases hname : name = name'
    · subst hname
      simp only [beq_self_eq_true, Option.some.injEq] at h
      subst h
      exact Or.inl (List.mem_map_of_mem hplace)
    · have hne : (name == name') = false := by simpa using hname
      rw [hne] at h
      exact Or.inr (ih h)

private theorem mem_placesOf_of_find? {entries : List (String × Entry)} {place : Place} {e : Entry}
    (h : find? entries place = some e) : place ∈ [] :: placesOf entries := by
  induction place generalizing entries with
  | nil => exact List.mem_cons_self
  | cons name names ih =>
    refine List.mem_cons_of_mem _ ?_
    rw [find?] at h
    cases hentry : entries.lookup name with
    | none =>
      rw [hentry] at h
      cases h
    | some entry =>
      rw [hentry] at h
      cases entry with
      | directory inner =>
        refine cons_mem_placesOf hentry ?_
        rw [places]
        exact ih h
      | file _ | socket | link _ =>
        cases names with
        | nil => exact cons_mem_placesOf hentry (nil_mem_places _)
        | cons => cases h

theorem mem_of_lookup {entries : List (String × Entry)} {name : String} {e : Entry}
    (h : entries.lookup name = some e) : (name, e) ∈ entries := by
  obtain ⟨before, after, rfl, -⟩ := List.lookup_eq_some_iff.mp h
  exact List.mem_append_right _ List.mem_cons_self

theorem of_find? {P : Entry → Prop}
    (hP : ∀ entries, P (.directory entries) → ∀ entry ∈ entries, P entry.2)
    {entries : List (String × Entry)} (h : P (.directory entries)) {place : Place} {e : Entry}
    (hfind : find? entries place = some e) : P e := by
  induction place generalizing entries with
  | nil =>
    cases hfind
    exact h
  | cons name names ih =>
    rw [find?] at hfind
    split at hfind
    · rename_i inner hentry
      exact ih (hP entries h _ (mem_of_lookup hentry)) hfind
    · rename_i entry _ hentry
      split at hfind
      · cases hfind
        exact hP entries h _ (mem_of_lookup hentry)
      · cases hfind
    · cases hfind

end Entry

namespace FileTree

variable {tree : FileTree}

def places (tree : FileTree) : List Place := [] :: Entry.placesOf tree.entries

theorem length_places (tree : FileTree) :
    tree.places.length = Entry.countOf tree.entries + 1 := by
  rw [places, List.length_cons, Entry.length_placesOf]

private theorem mem_places_of_at? {place : Place} {e : Entry} (h : tree.at? place = some e) :
    place ∈ tree.places :=
  Entry.mem_placesOf_of_find? h

/-- What a path is said to lead to is there, and what is said to be missing is not. -/
inductive Located.Sound (tree : FileTree) : Located → Prop
  | present {place : Place} {e : Entry} (hplace : tree.at? place = some e) :
      Sound tree (.present place e)
  | missing {dir : Place} {entries : List (String × Entry)} {name : String}
      (hdir : tree.at? dir = some (.directory entries)) (hname : entries.lookup name = none)
      (pieces : List (List Char)) : Sound tree (.missing dir name pieces)

private theorem sound_of_advance {turn : Place → List (List Char) → Except IoFault Located}
    (hturn : ∀ {here pieces r}, turn here pieces = .ok r → r.Sound tree)
    {here : Place} {pieces : List (List Char)} {r : Located}
    (h : tree.advance turn here pieces = .ok r) : r.Sound tree := by
  induction pieces generalizing here with
  | nil =>
    rw [advance] at h
    split at h
    · cases h
    · cases h
      exact .present ‹_›
  | cons piece pieces ih =>
    rw [advance] at h
    split at h
    · cases h
    · split at h
      · exact ih h
      · split at h
        · exact ih h
        · dsimp only at h
          split at h
          · cases h
          · split at h
            · cases h
              exact .missing ‹_› ‹_› _
            · exact hturn h
            · exact ih h
    · cases h

private theorem sound_of_follow {links : Nat} {here : Place} {pieces : List (List Char)}
    {r : Located}
    (h : tree.follow links here pieces = .ok r) : r.Sound tree := by
  induction links generalizing here pieces r with
  | zero =>
    refine sound_of_advance (fun hturn => ?_) h
    cases hturn
  | succ links ih => exact sound_of_advance (fun hturn => ih hturn) h

theorem sound_of_locate {p : Path} {r : Located} (h : tree.locate p = .ok r) : r.Sound tree := by
  rw [locate] at h
  split at h
  · cases h
  · split at h
    · cases h
    · split at h
      · cases h
      · exact sound_of_follow h

theorem at?_of_follow {links : Nat} {here place : Place} {pieces : List (List Char)}
    {e : Entry} (h : tree.follow links here pieces = .ok (.present place e)) :
    tree.at? place = some e := by
  cases sound_of_follow h with
  | present hplace => exact hplace

theorem at?_of_resolve {p : Path} {place : Place} {e : Entry}
    (h : tree.resolve p = .ok (place, e)) : tree.at? place = some e := by
  rw [resolve] at h
  split at h
  · rename_i hlocate
    cases h
    cases sound_of_locate hlocate with
    | present hplace => exact hplace
  · cases h
  · cases h

theorem mem_places_of_resolve {p : Path} {place : Place} {e : Entry}
    (h : tree.resolve p = .ok (place, e)) : place ∈ tree.places :=
  mem_places_of_at? (at?_of_resolve h)

end FileTree

end RunPlan
