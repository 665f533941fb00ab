import RunPlan.Proofs.FileTree.Places
import Mathlib.Data.List.Nodup

/-!
The directories of a tree. Main statements: there are as many as are counted, every path to a
directory leads to one of them, and each one that is entered leaves fewer.
-/

set_option autoImplicit false

namespace RunPlan

namespace Entry

mutual

/-- The places of the directories below an entry, counted from it, its own among them. -/
def directories : Entry → List Place
  | .directory entries => [] :: directoriesOf entries
  | _ => []

def directoriesOf : List (String × Entry) → List Place
  | [] => []
  | (name, e) :: es => (directories e).map (name :: ·) ++ directoriesOf es

end

mutual

private theorem length_directories (e : Entry) : (directories e).length = directoryCount e := by
  match e with
  | .directory entries =>
    rw [directories, List.length_cons, length_directoriesOf, directoryCount, Nat.add_comm]
  | .file _ | .socket | .link _ => rfl

private theorem length_directoriesOf (entries : List (String × Entry)) :
    (directoriesOf entries).length = directoryCountOf entries := by
  match entries with
  | [] => rfl
  | (name, e) :: es =>
    rw [directoriesOf, List.length_append, List.length_map, length_directories,
      length_directoriesOf, directoryCountOf]

end

private theorem cons_mem_directoriesOf {entries : List (String × Entry)} {name : String} {e : Entry}
    {place : Place} (h : (name, e) ∈ entries) (hplace : place ∈ directories e) :
    name :: place ∈ directoriesOf entries := by
  induction entries with
  | nil => cases h
  | cons entry entries ih =>
    obtain ⟨name', e'⟩ := entry
    rw [directoriesOf, List.mem_append]
    rcases List.mem_cons.mp h with h | h
    · cases h
      exact Or.inl (List.mem_map_of_mem hplace)
    · exact Or.inr (ih h)

private theorem mem_directoriesOf_of_find? {entries inner : List (String × Entry)} {place : Place}
    (h : find? entries place = some (.directory inner)) : place ∈ [] :: directoriesOf entries := by
  induction place generalizing entries with
  | nil => exact List.mem_cons_self
  | cons name names ih =>
    refine List.mem_cons_of_mem _ ?_
    rw [find?] at h
    split at h
    · rename_i deeper hentry
      exact cons_mem_directoriesOf (mem_of_lookup hentry) (ih h)
    · split at h
      · rename_i e hdirectory _ _
        cases h
        exact absurd rfl (hdirectory inner)
      · cases h
    · cases h

mutual

/-- No directory has two entries of one name. -/
def DistinctNames : Entry → Prop
  | .directory entries => (entries.map Prod.fst).Nodup ∧ AllDistinctNames entries
  | _ => True

/-- No directory among and below entries has two entries of one name. -/
def AllDistinctNames : List (String × Entry) → Prop
  | [] => True
  | (_, e) :: es => DistinctNames e ∧ AllDistinctNames es

end

theorem AllDistinctNames.of_mem {entries : List (String × Entry)} (h : AllDistinctNames entries)
    {name : String} {e : Entry} (hentry : (name, e) ∈ entries) : e.DistinctNames := by
  induction entries with
  | nil => cases hentry
  | cons entry entries ih =>
    obtain ⟨he, hentries⟩ := h
    rcases List.mem_cons.mp hentry with rfl | hentry
    · exact he
    · exact ih hentries hentry

theorem lookup_of_mem {entries : List (String × Entry)} (h : (entries.map Prod.fst).Nodup)
    {name : String} {e : Entry} (hentry : (name, e) ∈ entries) : entries.lookup name = some e := by
  obtain ⟨before, after, rfl⟩ := List.append_of_mem hentry
  rw [List.map_append, List.map_cons] at h
  have hfresh := List.disjoint_of_nodup_append h
  refine List.lookup_eq_some_iff.mpr ⟨before, after, rfl, fun other hother => ?_⟩
  have hne : name ≠ other.1 := by
    rintro rfl
    exact hfresh (List.mem_map_of_mem hother) List.mem_cons_self
  simpa using hne

end Entry

namespace FileTree

variable {tree : FileTree} {place : Place} {entries : List (String × Entry)}

def directories (tree : FileTree) : List Place := [] :: Entry.directoriesOf tree.entries

private theorem length_directories (tree : FileTree) :
    tree.directories.length = Entry.directoryCountOf tree.entries + 1 := by
  rw [directories, List.length_cons, Entry.length_directoriesOf]

theorem mem_directories_of_at? (h : tree.at? place = some (.directory entries)) :
    place ∈ tree.directories :=
  Entry.mem_directoriesOf_of_find? h

def unwalked (tree : FileTree) (stack : List Place) : Nat :=
  (tree.directories.filter (· ∉ stack)).length

theorem unwalked_le (tree : FileTree) (stack : List Place) :
    tree.unwalked stack ≤ Entry.directoryCountOf tree.entries + 1 := by
  rw [← length_directories]
  exact List.length_filter_le _ _

private theorem filter_notMem_cons (place : Place) (stack places : List Place) :
    places.filter (· ∉ place :: stack) = (places.filter (· ∉ stack)).filter (· ≠ place) := by
  rw [List.filter_filter]
  refine List.filter_congr fun other _ => ?_
  simp

theorem unwalked_cons_le (tree : FileTree) (place : Place) (stack : List Place) :
    tree.unwalked (place :: stack) ≤ tree.unwalked stack := by
  rw [unwalked, filter_notMem_cons]
  exact List.length_filter_le _ _

theorem unwalked_cons_lt {stack : List Place} (hplace : place ∈ tree.directories)
    (hnew : place ∉ stack) : tree.unwalked (place :: stack) < tree.unwalked stack := by
  rw [unwalked, filter_notMem_cons]
  refine List.length_filter_lt_length_iff_exists.mpr ⟨place, ?_, by simp⟩
  exact List.mem_filter.mpr ⟨hplace, by simpa using hnew⟩

/-- No directory has two entries of one name. -/
def DistinctNames (tree : FileTree) : Prop := (Entry.directory tree.entries).DistinctNames

theorem DistinctNames.of_resolve (h : tree.DistinctNames) {p : Path} {e : Entry}
    (hresolve : tree.resolve p = .ok (place, e)) : e.DistinctNames :=
  Entry.of_find? (fun _ hentries _ hentry => hentries.2.of_mem hentry) h (at?_of_resolve hresolve)

end FileTree

end RunPlan
