import RunPlan.Proofs.FileTree.Places
import RunPlan.Proofs.PathNames

/-!
Following a path piece by piece. Main statements: a path is followed in parts, one after the other,
it never ends at a link, and a name behind the path of a directory leads to the entry of that name.
-/

set_option autoImplicit false

namespace RunPlan

open RunPlan.Text

namespace Entry

/-- An entry that is no link. -/
def IsPlain (e : Entry) : Prop := ∀ target, e ≠ .link target

variable {entries inner : List (String × Entry)} {place : Place} {name : String} {e : Entry}

theorem isPlain_directory (entries : List (String × Entry)) : (directory entries).IsPlain :=
  fun _ h => Entry.noConfusion h

theorem isPlain_file (text? : Option String) : (file text?).IsPlain :=
  fun _ h => Entry.noConfusion h

theorem isPlain_socket : socket.IsPlain :=
  fun _ h => Entry.noConfusion h

theorem exists_link (h : ¬ e.IsPlain) : ∃ target, e = .link target := by
  rw [IsPlain, not_forall] at h
  exact h.imp fun _ => not_not.mp

theorem find?_append (h : find? entries place = some (.directory inner)) (names : Place) :
    find? entries (place ++ names) = find? inner names := by
  induction place generalizing entries with
  | nil =>
    cases h
    rfl
  | cons n ns ih =>
    rw [find?] at h
    rw [List.cons_append, find?]
    split at h
    · exact ih h
    · split at h
      · rename_i e hdirectory hentry _
        cases h
        exact absurd rfl (hdirectory inner)
      · cases h
    · cases h

theorem find?_singleton (entries : List (String × Entry)) (name : String) :
    find? entries [name] = entries.lookup name := by
  rw [find?]
  split
  · rename_i h
    rw [h]
    rfl
  · rename_i h
    rw [h]
    rfl
  · rename_i h
    exact h.symm

theorem exists_directory_of_find?_concat (h : find? entries (place ++ [name]) = some e) :
    ∃ inner, find? entries place = some (.directory inner) := by
  induction place generalizing entries with
  | nil => exact ⟨entries, rfl⟩
  | cons n ns ih =>
    rw [List.cons_append, find?] at h
    rw [find?]
    split at h
    · exact ih h
    · split at h
      · rename_i hnil
        cases ns <;> cases hnil
      · cases h
    · cases h

end Entry

namespace FileTree

variable {tree : FileTree} {links links' : Nat} {here place mid : Place}
  {piece : List Char} {pieces pieces' : List (List Char)} {entries : List (String × Entry)}
  {name : String} {e : Entry}

theorem at?_concat (h : tree.at? here = some (.directory entries)) (name : String) :
    tree.at? (here ++ [name]) = entries.lookup name := by
  rw [at?, Entry.find?_append h, Entry.find?_singleton]

theorem exists_directory_of_dropLast (h : tree.at? here = some (.directory entries)) :
    ∃ outer, tree.at? here.dropLast = some (.directory outer) := by
  rcases List.eq_nil_or_concat' here with rfl | ⟨init, name, rfl⟩
  · exact ⟨entries, h⟩
  · rw [List.dropLast_concat]
    exact Entry.exists_directory_of_find?_concat h

/-- A name that can be looked up in a directory. -/
structure IsLooked (name : String) : Prop where
  proper : name ∉ ["", ".", ".."]
  short : name.utf8ByteSize ≤ maxNameBytes

/-- Following the pieces from one place leads to another; so many links may be followed, and so many
are left. -/
inductive Follows (tree : FileTree) : Nat → Place → List (List Char) → Nat → Place → Prop
  | done (links : Nat) (here : Place) : Follows tree links here [] links here
  | stay {links links' : Nat} {here place : Place} {piece : List Char} {pieces : List (List Char)}
      {entries : List (String × Entry)} (hhere : tree.at? here = some (.directory entries))
      (hpiece : piece = [] ∨ piece = ['.']) (hrest : Follows tree links here pieces links' place) :
      Follows tree links here (piece :: pieces) links' place
  | up {links links' : Nat} {here place : Place} {pieces : List (List Char)}
      {entries : List (String × Entry)} (hhere : tree.at? here = some (.directory entries))
      (hrest : Follows tree links here.dropLast pieces links' place) :
      Follows tree links here (['.', '.'] :: pieces) links' place
  | down {links links' : Nat} {here place : Place} {pieces : List (List Char)}
      {entries : List (String × Entry)} {name : String} {e : Entry}
      (hhere : tree.at? here = some (.directory entries)) (hname : IsLooked name)
      (hentry : entries.lookup name = some e) (hplain : e.IsPlain)
      (hrest : Follows tree links (here ++ [name]) pieces links' place) :
      Follows tree links here (name.toList :: pieces) links' place
  | turn {links links' : Nat} {here place : Place} {pieces : List (List Char)}
      {entries : List (String × Entry)} {name target : String}
      (hhere : tree.at? here = some (.directory entries)) (hname : IsLooked name)
      (hentry : entries.lookup name = some (.link target))
      (hrest : Follows tree links (if (Path.mk target).isAbsolute then [] else here)
        (split '/' target.toList ++ pieces) links' place) :
      Follows tree (links + 1) here (name.toList :: pieces) links' place

theorem isLooked_iff {piece : List Char} : IsLooked (String.ofList piece) ↔
    ¬ (piece = [] ∨ piece = ['.']) ∧ piece ≠ ['.', '.'] ∧
      ¬ maxNameBytes < (String.ofList piece).utf8ByteSize := by
  have hofList : ∀ name : String, String.ofList piece = name ↔ piece = name.toList := by
    intro name
    rw [← String.toList_inj, String.toList_ofList]
  have hproper : String.ofList piece ∉ ["", ".", ".."] ↔
      ¬ (piece = [] ∨ piece = ['.']) ∧ piece ≠ ['.', '.'] := by
    simp [hofList, and_assoc]
  constructor
  · rintro ⟨hname, hshort⟩
    obtain ⟨hstay, hup⟩ := hproper.mp hname
    exact ⟨hstay, hup, not_lt.mpr hshort⟩
  · rintro ⟨hstay, hup, hshort⟩
    exact ⟨hproper.mpr ⟨hstay, hup⟩, not_lt.mp hshort⟩

private theorem follows_of_advance
    {turn : Place → List (List Char) → Except IoFault Located}
    (hturn : ∀ here pieces place e, turn here pieces = .ok (.present place e) →
      ∃ fewer links', links = fewer + 1 ∧ Follows tree fewer here pieces links' place)
    (h : tree.advance turn here pieces = .ok (.present place e)) :
    ∃ links', Follows tree links here pieces links' place := by
  induction pieces generalizing here with
  | nil =>
    rw [advance] at h
    split at h
    · cases h
    · cases h
      exact ⟨links, .done _ _⟩
  | cons piece pieces ih =>
    rw [advance] at h
    split at h
    · cases h
    · rename_i entries hhere
      split at h
      · rename_i hstay
        obtain ⟨links', hrest⟩ := ih h
        exact ⟨links', .stay hhere (by simpa using hstay) hrest⟩
      · rename_i hstay
        split at h
        · rename_i hup
          subst hup
          obtain ⟨links', hrest⟩ := ih h
          exact ⟨links', .up hhere hrest⟩
        · rename_i hup
          dsimp only at h
          split at h
          · cases h
          · rename_i hshort
            have hname : IsLooked (String.ofList piece) :=
              isLooked_iff.mpr ⟨by simpa using hstay, hup, hshort⟩
            rw [← String.toList_ofList (l := piece)]
            split at h
            · cases h
            · rename_i target hentry
              obtain ⟨fewer, links', rfl, hrest⟩ := hturn _ _ _ _ h
              exact ⟨links', .turn hhere hname hentry hrest⟩
            · rename_i entry hplain hentry
              obtain ⟨links', hrest⟩ := ih h
              exact ⟨links', .down hhere hname hentry hplain hrest⟩
    · cases h

private theorem follows_of_follow (h : tree.follow links here pieces = .ok (.present place e)) :
    ∃ links', Follows tree links here pieces links' place := by
  induction links generalizing here pieces place e with
  | zero =>
    refine follows_of_advance ?_ h
    intro _ _ _ _ hturn
    cases hturn
  | succ links ih =>
    refine follows_of_advance ?_ h
    intro here pieces place e hturn
    obtain ⟨links', hrest⟩ := ih hturn
    exact ⟨links, links', rfl, hrest⟩

private theorem advance_name {turn : Place → List (List Char) → Except IoFault Located}
    (hhere : tree.at? here = some (.directory entries)) (hname : IsLooked name) :
    tree.advance turn here (name.toList :: pieces) =
      match entries.lookup name with
      | none => .ok (.missing here name pieces)
      | some (.link target) =>
        turn (if (Path.mk target).isAbsolute then [] else here) (split '/' target.toList ++ pieces)
      | some _ => tree.advance turn (here ++ [name]) pieces := by
  have hlooked : IsLooked (String.ofList name.toList) := by rwa [String.ofList_toList]
  obtain ⟨hstay, hup, hshort⟩ := isLooked_iff.mp hlooked
  rw [String.ofList_toList] at hshort
  rw [advance, hhere, String.ofList_toList]
  exact ((if_neg (by simpa using hstay)).trans (if_neg hup)).trans (if_neg hshort)

private def turnOf (tree : FileTree) :
    Nat → Place → List (List Char) → Except IoFault Located
  | 0 => fun _ _ => .error .tooManyLinks
  | links + 1 => tree.follow links

private theorem follow_eq_advance (tree : FileTree) (links : Nat) :
    tree.follow links = tree.advance (turnOf tree links) := by
  cases links <;> rfl

private theorem follow_eq_ok_iff : tree.follow links here pieces = .ok (.present place e) ↔
    (∃ links', Follows tree links here pieces links' place) ∧ tree.at? place = some e := by
  constructor
  · intro h
    exact ⟨follows_of_follow h, at?_of_follow h⟩
  · rintro ⟨⟨links', h⟩, hplace⟩
    induction h with
    | done links here => rw [follow_eq_advance, advance, hplace]
    | stay hhere hpiece _ ih =>
      rw [follow_eq_advance] at ih ⊢
      rw [advance, hhere]
      simpa [hpiece] using ih hplace
    | up hhere _ ih =>
      rw [follow_eq_advance] at ih ⊢
      rw [advance, hhere]
      simpa using ih hplace
    | down hhere hname hentry hplain _ ih =>
      rw [follow_eq_advance] at ih ⊢
      rw [advance_name hhere hname, hentry]
      rename_i entry _
      cases entry with
      | link target => exact absurd rfl (hplain target)
      | file _ | socket | directory _ => exact ih hplace
    | turn hhere hname hentry _ ih =>
      rw [follow_eq_advance, advance_name hhere hname, hentry]
      exact ih hplace

theorem Follows.append (h : Follows tree links here pieces links' mid) {links'' : Nat}
    (h' : Follows tree links' mid pieces' links'' place) :
    Follows tree links here (pieces ++ pieces') links'' place := by
  induction h with
  | done => exact h'
  | stay hhere hpiece _ ih => exact .stay hhere hpiece (ih h')
  | up hhere _ ih => exact .up hhere (ih h')
  | down hhere hname hentry hplain _ ih => exact .down hhere hname hentry hplain (ih h')
  | turn hhere hname hentry _ ih =>
    have hrest := ih h'
    rw [List.append_assoc] at hrest
    exact .turn hhere hname hentry hrest

theorem Follows.of_append (h : Follows tree links here (pieces ++ pieces') links' place) :
    ∃ fewer mid, Follows tree links here pieces fewer mid ∧
      Follows tree fewer mid pieces' links' place := by
  generalize hall : pieces ++ pieces' = all at h
  induction h generalizing pieces with
  | done links here =>
    obtain ⟨rfl, rfl⟩ := List.append_eq_nil_iff.mp hall
    exact ⟨links, here, .done links here, .done links here⟩
  | stay hhere hpiece hrest ih =>
    rcases List.append_eq_cons_iff.mp hall with ⟨rfl, rfl⟩ | ⟨front, rfl, hsplit⟩
    · exact ⟨_, _, .done _ _, .stay hhere hpiece hrest⟩
    · obtain ⟨fewer, mid, hfront, hback⟩ := ih hsplit.symm
      exact ⟨fewer, mid, .stay hhere hpiece hfront, hback⟩
  | up hhere hrest ih =>
    rcases List.append_eq_cons_iff.mp hall with ⟨rfl, rfl⟩ | ⟨front, rfl, hsplit⟩
    · exact ⟨_, _, .done _ _, .up hhere hrest⟩
    · obtain ⟨fewer, mid, hfront, hback⟩ := ih hsplit.symm
      exact ⟨fewer, mid, .up hhere hfront, hback⟩
  | down hhere hname hentry hplain hrest ih =>
    rcases List.append_eq_cons_iff.mp hall with ⟨rfl, rfl⟩ | ⟨front, rfl, hsplit⟩
    · exact ⟨_, _, .done _ _, .down hhere hname hentry hplain hrest⟩
    · obtain ⟨fewer, mid, hfront, hback⟩ := ih hsplit.symm
      exact ⟨fewer, mid, .down hhere hname hentry hplain hfront, hback⟩
  | turn hhere hname hentry hrest ih =>
    rcases List.append_eq_cons_iff.mp hall with ⟨rfl, rfl⟩ | ⟨front, rfl, rfl⟩
    · exact ⟨_, _, .done _ _, .turn hhere hname hentry hrest⟩
    · obtain ⟨fewer, mid, hfront, hback⟩ := ih (List.append_assoc _ _ _)
      exact ⟨fewer, mid, .turn hhere hname hentry hfront, hback⟩

theorem Follows.isPlain (h : Follows tree links here pieces links' place)
    (hhere : pieces = [] → ∀ e, tree.at? here = some e → e.IsPlain) :
    ∀ e, tree.at? place = some e → e.IsPlain := by
  have hdirectory : ∀ {here : Place} {entries : List (String × Entry)},
      tree.at? here = some (.directory entries) → ∀ e, tree.at? here = some e → e.IsPlain := by
    intro here entries hentries e he
    rw [hentries] at he
    cases he
    exact Entry.isPlain_directory entries
  induction h with
  | done => exact hhere rfl
  | stay hentries _ _ ih => exact ih fun _ => hdirectory hentries
  | up hentries _ ih =>
    obtain ⟨outer, houter⟩ := exists_directory_of_dropLast hentries
    exact ih fun _ => hdirectory houter
  | down hentries _ hentry hplain _ ih =>
    refine ih fun _ e he => ?_
    rw [at?_concat hentries, hentry] at he
    cases he
    exact hplain
  | turn _ _ _ _ ih =>
    exact ih fun hnil => absurd (List.append_eq_nil_iff.mp hnil).1 (split_ne_nil _ _)

section Paths

variable {p : Path} {fault : IoFault}

/-- The text of a path that can be looked up at all. -/
structure IsTold (p : Path) : Prop where
  nul : '\x00' ∉ p.text.toList
  nonempty : p.text ≠ ""
  short : p.text.utf8ByteSize ≤ maxPathBytes

def startOf (tree : FileTree) (p : Path) : Place :=
  if p.isAbsolute then [] else tree.workingDirectory

theorem resolve_eq_ok_iff : tree.resolve p = .ok (place, e) ↔ IsTold p ∧
    (∃ links', Follows tree maxLinks (startOf tree p) (split '/' p.text.toList) links' place) ∧
      tree.at? place = some e := by
  have hlocate : tree.resolve p = .ok (place, e) ↔ tree.locate p = .ok (.present place e) := by
    rw [resolve]
    split <;> simp_all
  rw [hlocate, ← follow_eq_ok_iff, locate]
  constructor
  · intro h
    split at h
    · cases h
    · rename_i hnul
      split at h
      · cases h
      · rename_i hempty
        split at h
        · cases h
        · rename_i hshort
          exact ⟨⟨by simpa using hnul, by simpa using hempty, not_lt.mp hshort⟩, h⟩
  · rintro ⟨htold, h⟩
    rw [if_neg (by simpa using htold.nul), if_neg (by simpa using htold.nonempty),
      if_neg (not_lt.mpr htold.short)]
    exact h

theorem resolve_unique {place' : Place} {e' : Entry} (h : tree.resolve p = .ok (place, e))
    (h' : tree.resolve p = .ok (place', e')) : place = place' ∧ e = e' :=
  Prod.mk.inj (Except.ok.inj (h.symm.trans h'))

theorem readText_eq_ok_iff {text : String} : tree.readText p = .ok text ↔
    ∃ place, tree.resolve p = .ok (place, .file (some text)) := by
  constructor
  · intro h
    rw [readText] at h
    split at h
    · next place text' hresolve =>
      cases h
      exact ⟨place, hresolve⟩
    all_goals cases h
  · rintro ⟨place, hresolve⟩
    rw [readText, hresolve]

theorem isPlain_of_resolve (h : tree.resolve p = .ok (place, e)) : e.IsPlain := by
  obtain ⟨-, ⟨links', hfollows⟩, hplace⟩ := resolve_eq_ok_iff.mp h
  exact hfollows.isPlain (fun hnil => absurd hnil (split_ne_nil _ _)) e hplace

end Paths

end FileTree

end RunPlan
