import RunPlan.FileTree.Walk
import RunPlan.Proofs.FileTree.Places
import RunPlan.Proofs.Outcome
import RunPlan.Proofs.PathNames

/-!
Trees whose entries have names that a directory can give. Main statement: the files below a
directory, also those that links lead to, are shown by names behind the path of that directory.
-/

set_option autoImplicit false

namespace RunPlan

namespace Entry

mutual

/-- All names below an entry are ones that a directory can give. -/
def WellNamed : Entry → Prop
  | .directory entries => AllWellNamed entries
  | _ => True

/-- All names among and below entries are ones that a directory can give. -/
def AllWellNamed : List (String × Entry) → Prop
  | [] => True
  | (name, e) :: es => IsFileName name ∧ WellNamed e ∧ AllWellNamed es

end

theorem AllWellNamed.of_mem {entries : List (String × Entry)} (h : AllWellNamed entries)
    {name : String} {e : Entry} (hentry : (name, e) ∈ entries) : IsFileName name ∧ e.WellNamed := by
  induction entries with
  | nil => cases hentry
  | cons entry entries ih =>
    obtain ⟨hname, he, hentries⟩ := h
    rcases List.mem_cons.mp hentry with rfl | hentry
    · exact ⟨hname, he⟩
    · exact ih hentries hentry

end Entry

namespace FileTree

variable {tree : FileTree}

/-- The names of all entries are ones that a directory can give. -/
def WellNamed (tree : FileTree) : Prop := Entry.AllWellNamed tree.entries

/-- The paths are shown by names behind a path. -/
def AllBelow (shown : Path) (files : List Path) : Prop :=
  ∀ file ∈ files, ∃ names : List String,
    (∀ name ∈ names, IsFileName name) ∧ file = shown.below names

/-- Entering a directory that a link leads to shows files by names behind the path of the link. -/
def EntersBelow
    (enter : List Place → Place → Path → List (String × Entry) → Except IoFault (List Path)) :
    Prop :=
  ∀ stack place shown entries files, Entry.AllWellNamed entries →
    enter stack place shown entries = .ok files → AllBelow shown files

theorem WellNamed.of_resolve (h : tree.WellNamed) {p : Path} {place : Place} {e : Entry}
    (hresolve : tree.resolve p = .ok (place, e)) : e.WellNamed :=
  Entry.of_find? (fun _ hentries _ hentry => (hentries.of_mem hentry).2) h (at?_of_resolve hresolve)

private theorem allBelow_singleton (shown : Path) : AllBelow shown [shown] := by
  intro file hfile
  exact ⟨[], nofun, List.mem_singleton.mp hfile⟩

section Walk

variable {enter : List Place → Place → Path → List (String × Entry) → Except IoFault (List Path)}

mutual

private theorem walkEntry_below (h : tree.WellNamed) (henter : EntersBelow enter)
    {stack : List Place}
    {place : Place} {shown : Path} {e : Entry} {files : List Path} (he : e.WellNamed)
    (hwalk : tree.walkEntry enter stack place shown e = .ok files) : AllBelow shown files := by
  match e with
  | .file _ =>
    cases hwalk
    exact allBelow_singleton shown
  | .socket =>
    cases hwalk
    exact nofun
  | .directory entries =>
    rw [walkEntry] at hwalk
    split at hwalk
    · cases hwalk
    · exact walkEntries_below h henter he hwalk
  | .link _ =>
    rw [walkEntry] at hwalk
    split at hwalk
    · rename_i target entries hresolve
      split at hwalk
      · cases hwalk
      · exact henter _ _ _ _ _ (h.of_resolve hresolve) hwalk
    · cases hwalk
      exact allBelow_singleton shown
    · cases hwalk
      exact nofun
    · cases hwalk
    · cases hwalk

private theorem walkEntries_below (h : tree.WellNamed) (henter : EntersBelow enter)
    {stack : List Place}
    {place : Place} {shown : Path} {entries : List (String × Entry)} {files : List Path}
    (hentries : Entry.AllWellNamed entries)
    (hwalk : tree.walkEntries enter stack place shown entries = .ok files) :
    AllBelow shown files := by
  match entries with
  | [] =>
    cases hwalk
    exact nofun
  | (name, e) :: es =>
    obtain ⟨hname, he, hes⟩ := hentries
    rw [walkEntries] at hwalk
    obtain ⟨first, hfirst, hwalk⟩ := bind_eq_ok_iff.mp hwalk
    obtain ⟨rest, hrest, hwalk⟩ := bind_eq_ok_iff.mp hwalk
    cases hwalk
    intro file hfile
    rcases List.mem_append.mp hfile with hfile | hfile
    · obtain ⟨names, hnames, rfl⟩ := walkEntry_below h henter he hfirst file hfile
      exact ⟨name :: names, List.forall_mem_cons.mpr ⟨hname, hnames⟩, rfl⟩
    · exact walkEntries_below h henter hes hrest file hfile

end

end Walk

private theorem enter_below (h : tree.WellNamed) (links : Nat) :
    EntersBelow (tree.enter links) := by
  induction links with
  | zero =>
    intro _ _ _ _ _ _ henter
    cases henter
  | succ links ih =>
    intro _ _ _ _ _ hentries henter
    exact walkEntries_below h ih hentries henter

theorem walk_below (h : tree.WellNamed) {p : Path} {files : List Path}
    (hwalk : tree.walk p = .ok files) : AllBelow p files := by
  rw [walk] at hwalk
  split at hwalk
  · rename_i place e hresolve
    exact walkEntry_below h (enter_below h _) (h.of_resolve hresolve) hwalk
  · cases hwalk

end FileTree

end RunPlan
