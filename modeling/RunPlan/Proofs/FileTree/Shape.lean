import RunPlan.FileTree.Walk
import RunPlan.Proofs.FileTree.Places

/-!
Trees of the same shape: they differ in the texts of files and in nothing else. Main statements:
paths lead to the same places in them, the same files are found below a directory, and a file reads
the same where its text is the same.
-/

set_option autoImplicit false

namespace RunPlan

namespace Entry

mutual

def bare : Entry → Entry
  | .file _ => .file none
  | .socket => .socket
  | .directory entries => .directory (bareOf entries)
  | .link target => .link target

def bareOf : List (String × Entry) → List (String × Entry)
  | [] => []
  | (name, e) :: es => (name, bare e) :: bareOf es

end

private theorem lookup_bareOf (entries : List (String × Entry)) (name : String) :
    (bareOf entries).lookup name = (entries.lookup name).map bare := by
  induction entries with
  | nil => rfl
  | cons entry entries ih =>
    obtain ⟨name', e⟩ := entry
    rw [bareOf, List.lookup_cons, List.lookup_cons, ih]
    cases name == name' <;> rfl

private theorem find?_bareOf (entries : List (String × Entry)) (place : Place) :
    find? (bareOf entries) place = (find? entries place).map bare := by
  induction place generalizing entries with
  | nil => rfl
  | cons name names ih =>
    rw [find?, find?, lookup_bareOf]
    cases entries.lookup name with
    | none => rfl
    | some e =>
      cases e with
      | directory inner => exact ih inner
      | file _ | socket | link _ => cases names <;> rfl

mutual

private theorem directoryCount_bare (e : Entry) : directoryCount (bare e) = directoryCount e := by
  match e with
  | .directory entries =>
    rw [bare, directoryCount, directoryCount, directoryCountOf_bareOf]
  | .file _ | .socket | .link _ => rfl

private theorem directoryCountOf_bareOf (entries : List (String × Entry)) :
    directoryCountOf (bareOf entries) = directoryCountOf entries := by
  match entries with
  | [] => rfl
  | (name, e) :: es =>
    rw [bareOf, directoryCountOf, directoryCountOf, directoryCount_bare, directoryCountOf_bareOf]

end

mutual

private theorem count_bare (e : Entry) : count (bare e) = count e := by
  match e with
  | .directory entries => rw [bare, count, count, countOf_bareOf]
  | .file _ | .socket | .link _ => rfl

private theorem countOf_bareOf (entries : List (String × Entry)) :
    countOf (bareOf entries) = countOf entries := by
  match entries with
  | [] => rfl
  | (name, e) :: es => rw [bareOf, countOf, countOf, count_bare, countOf_bareOf]

end

end Entry

namespace FileTree

def bare (tree : FileTree) : FileTree := ⟨Entry.bareOf tree.entries, tree.workingDirectory⟩

/-- The trees differ in the texts of files and in nothing else. -/
def SameShape (tree tree' : FileTree) : Prop := tree.bare = tree'.bare

def textAt? (tree : FileTree) (place : Place) : Option String :=
  match tree.at? place with
  | some (.file text?) => text?
  | _ => none

def Located.bare : Located → Located
  | .present place e => .present place e.bare
  | .missing directory name pieces => .missing directory name pieces

section Bare

variable (tree : FileTree)

private theorem at?_bare (place : Place) : tree.bare.at? place = (tree.at? place).map Entry.bare :=
  Entry.find?_bareOf tree.entries place

private theorem advance_bare {turn turn' : Place → List (List Char) → Except IoFault Located}
    (hturn : ∀ here pieces, turn' here pieces = (turn here pieces).map Located.bare)
    (here : Place) (pieces : List (List Char)) :
    tree.bare.advance turn' here pieces = (tree.advance turn here pieces).map Located.bare := by
  induction pieces generalizing here with
  | nil =>
    rw [advance, advance, at?_bare]
    cases tree.at? here <;> rfl
  | cons piece pieces ih =>
    rw [advance, advance, at?_bare]
    cases tree.at? here with
    | none => rfl
    | some e =>
      cases e with
      | file _ | socket | link _ => rfl
      | directory entries =>
        simp only [Option.map_some, Entry.bare, Entry.lookup_bareOf]
        split
        · exact ih here
        · split
          · exact ih here.dropLast
          · split
            · rfl
            · cases entries.lookup (String.ofList piece) with
              | none => rfl
              | some next =>
                cases next with
                | link target => exact hturn _ _
                | file _ | socket | directory _ => exact ih _

private theorem follow_bare (links : Nat) (here : Place) (pieces : List (List Char)) :
    tree.bare.follow links here pieces = (tree.follow links here pieces).map Located.bare := by
  induction links generalizing here pieces with
  | zero =>
    have hturn : ∀ (_ : Place) (_ : List (List Char)),
        (.error .tooManyLinks : Except IoFault Located) =
          (Except.error IoFault.tooManyLinks).map Located.bare :=
      fun _ _ => rfl
    exact advance_bare tree hturn here pieces
  | succ links ih => exact advance_bare tree ih here pieces

private theorem locate_bare (p : Path) : tree.bare.locate p = (tree.locate p).map Located.bare := by
  rw [locate, locate]
  split
  · rfl
  · split
    · rfl
    · split
      · rfl
      · exact follow_bare tree maxLinks _ _

private theorem resolve_bare (p : Path) :
    tree.bare.resolve p = (tree.resolve p).map fun found => (found.1, found.2.bare) := by
  rw [resolve, resolve, locate_bare]
  cases tree.locate p with
  | error fault => rfl
  | ok located => cases located <;> rfl

private theorem exists?_bare (p : Path) : tree.bare.exists? p = tree.exists? p := by
  rw [exists?, exists?, resolve_bare]
  cases tree.resolve p <;> rfl

section Walk

variable {enter enter' :
    List Place → Place → Path → List (String × Entry) → Except IoFault (List Path)}

mutual

private theorem walkEntry_bare
    (henter : ∀ stack place shown entries,
      enter' stack place shown (Entry.bareOf entries) = enter stack place shown entries)
    (stack : List Place) (place : Place) (shown : Path) (e : Entry) :
    tree.bare.walkEntry enter' stack place shown e.bare =
      tree.walkEntry enter stack place shown e := by
  match e with
  | .file _ | .socket => rfl
  | .directory entries =>
    rw [Entry.bare, walkEntry, walkEntry, walkEntries_bare henter]
  | .link target =>
    rw [Entry.bare, walkEntry, walkEntry, resolve_bare]
    cases tree.resolve shown with
    | error fault => rfl
    | ok found =>
      obtain ⟨target, e⟩ := found
      cases e with
      | file _ | socket | link _ => rfl
      | directory entries =>
        show (if stack.contains target then _ else _) = if stack.contains target then _ else _
        rw [henter]

private theorem walkEntries_bare
    (henter : ∀ stack place shown entries,
      enter' stack place shown (Entry.bareOf entries) = enter stack place shown entries)
    (stack : List Place) (place : Place) (shown : Path) (entries : List (String × Entry)) :
    tree.bare.walkEntries enter' stack place shown (Entry.bareOf entries) =
      tree.walkEntries enter stack place shown entries := by
  match entries with
  | [] => rfl
  | (name, e) :: es =>
    rw [Entry.bareOf, walkEntries, walkEntries, walkEntry_bare henter, walkEntries_bare henter]

end

end Walk

private theorem enter_bare (links : Nat) (stack : List Place) (place : Place) (shown : Path)
    (entries : List (String × Entry)) :
    tree.bare.enter links stack place shown (Entry.bareOf entries) =
      tree.enter links stack place shown entries := by
  induction links generalizing stack place shown entries with
  | zero => rfl
  | succ links ih => exact walkEntries_bare tree ih stack place shown entries

private theorem walk_bare (p : Path) : tree.bare.walk p = tree.walk p := by
  have hcount : Entry.directoryCountOf tree.bare.entries = Entry.directoryCountOf tree.entries :=
    Entry.directoryCountOf_bareOf tree.entries
  rw [walk, walk, resolve_bare, hcount]
  cases tree.resolve p with
  | error fault => rfl
  | ok found => exact walkEntry_bare tree (enter_bare tree _) [] found.1 p found.2

end Bare

namespace SameShape

variable {tree tree' : FileTree}

theorem exists?_eq (h : tree.SameShape tree') (p : Path) : tree.exists? p = tree'.exists? p := by
  rw [← exists?_bare, h, exists?_bare]

theorem walk_eq (h : tree.SameShape tree') (p : Path) : tree.walk p = tree'.walk p := by
  rw [← walk_bare, h, walk_bare]

theorem countOf_eq (h : tree.SameShape tree') :
    Entry.countOf tree.entries = Entry.countOf tree'.entries := by
  have hentries : Entry.bareOf tree.entries = Entry.bareOf tree'.entries :=
    congrArg FileTree.entries h
  rw [← Entry.countOf_bareOf, hentries, Entry.countOf_bareOf]

theorem resolve_cases (h : tree.SameShape tree') (p : Path) :
    (∃ fault, tree.resolve p = .error fault ∧ tree'.resolve p = .error fault) ∨
      ∃ place e e', tree.resolve p = .ok (place, e) ∧ tree'.resolve p = .ok (place, e') ∧
        e.bare = e'.bare := by
  have hbare := resolve_bare tree p
  rw [h, resolve_bare tree' p] at hbare
  cases hp : tree.resolve p with
  | error fault =>
    rw [hp] at hbare
    cases hp' : tree'.resolve p with
    | error fault' =>
      rw [hp'] at hbare
      cases hbare
      exact Or.inl ⟨fault, rfl, rfl⟩
    | ok found' =>
      rw [hp'] at hbare
      cases hbare
  | ok found =>
    rw [hp] at hbare
    cases hp' : tree'.resolve p with
    | error fault' =>
      rw [hp'] at hbare
      cases hbare
    | ok found' =>
      rw [hp'] at hbare
      obtain ⟨place, e⟩ := found
      obtain ⟨place', e'⟩ := found'
      have hpair : (place', e'.bare) = (place, e.bare) := Except.ok.inj hbare
      obtain ⟨rfl, he⟩ := Prod.mk.inj hpair
      exact Or.inr ⟨place', e, e', rfl, rfl, he.symm⟩

theorem readText_eq (h : tree.SameShape tree') {p : Path}
    (htext : ∀ place e, tree.resolve p = .ok (place, e) →
      tree.textAt? place = tree'.textAt? place) : tree.readText p = tree'.readText p := by
  rcases h.resolve_cases p with ⟨fault, hp, hp'⟩ | ⟨place, e, e', hp, hp', hbare⟩
  · rw [readText, readText, hp, hp']
  · have hsame := htext place e hp
    rw [textAt?, textAt?, at?_of_resolve hp, at?_of_resolve hp'] at hsame
    rw [readText, readText, hp, hp']
    cases e with
    | file text? =>
      cases e' with
      | file text?' =>
        have htexts : text? = text?' := hsame
        rw [htexts]
      | socket | directory _ | link _ => cases hbare
    | socket =>
      cases e' with
      | socket => rfl
      | file _ | directory _ | link _ => cases hbare
    | directory _ =>
      cases e' with
      | directory _ => rfl
      | file _ | socket | link _ => cases hbare
    | link _ =>
      cases e' with
      | link _ => rfl
      | file _ | socket | directory _ => cases hbare

end SameShape

end FileTree

end RunPlan
