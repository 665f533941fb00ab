import RunPlan.FileTree.Change
import RunPlan.Proofs.FileTree.Following

/-!
Files that are written. Main statement: a file that could be written is read back by the same path,
also if the path leads to it through links.
-/

set_option autoImplicit false

namespace RunPlan

open RunPlan.Text

namespace Entry

variable {entries inner : List (String × Entry)} {name k : String} {names place dir q : Place}
  {e e' : Entry} {text? : Option String}

/-- Two files, two directories or one link: a path goes on from both in the same way. -/
inductive Alike : Entry → Entry → Prop
  | file (text? text?' : Option String) : Alike (.file text?) (.file text?')
  | socket : Alike .socket .socket
  | directory (entries entries' : List (String × Entry)) :
      Alike (.directory entries) (.directory entries')
  | link (target : String) : Alike (.link target) (.link target)

theorem Alike.refl (e : Entry) : Alike e e := by
  cases e with
  | file text? => exact .file _ _
  | socket => exact .socket
  | directory entries => exact .directory _ _
  | link target => exact .link _

private theorem lookup_map_of_keys {change : String × Entry → String × Entry}
    (hkeys : ∀ old, (change old).1 = old.1) (entries : List (String × Entry)) (k : String) :
    (entries.map change).lookup k = (entries.lookup k).map fun e => (change (k, e)).2 := by
  induction entries with
  | nil => rfl
  | cons old entries ih =>
    obtain ⟨name, e⟩ := old
    have hname := hkeys (name, e)
    generalize hnew : change (name, e) = new at hname
    obtain ⟨name', e'⟩ := new
    obtain rfl : name' = name := hname
    rw [List.map_cons, hnew, List.lookup_cons, List.lookup_cons]
    by_cases hk : k = name'
    · rw [hk, BEq.rfl, Option.map_some, hnew]
    · rw [beq_eq_false_iff_ne.mpr hk]
      exact ih

private theorem lookup_set_singleton (entries : List (String × Entry)) (name k : String)
    (e : Entry) :
    (set (some e) [name] entries).lookup k = if k = name then some e else entries.lookup k := by
  rw [set]
  split
  · next hsome =>
    rw [lookup_map_of_keys]
    · by_cases hk : k = name
      · obtain ⟨old, hold⟩ := Option.isSome_iff_exists.mp hsome
        simp [hk, hold]
      · simp [hk]
    · intro old
      split
      · next h => exact h.symm
      · rfl
  · next hnone =>
    rw [List.lookup_append]
    by_cases hk : k = name
    · have hnew : entries.lookup name = none := Option.not_isSome_iff_eq_none.mp hnone
      simp [hk, hnew]
    · have hother : List.lookup k [(name, e)] = none := by
        simp [hk]
      rw [hother, if_neg hk, Option.or_none]

def mapInner (f : List (String × Entry) → List (String × Entry)) : Entry → Entry
  | .directory inner => .directory (f inner)
  | e => e

private theorem lookup_set_cons (hne : names ≠ []) (new? : Option Entry)
    (entries : List (String × Entry))
    (name : String) : (set new? (name :: names) entries).lookup name =
      (entries.lookup name).map (mapInner (set new? names)) := by
  obtain ⟨n, ns, rfl⟩ := List.exists_cons_of_ne_nil hne
  rw [set, lookup_map_of_keys]
  · cases entries.lookup name with
    | none => rfl
    | some e => cases e <;> simp [mapInner]
  · intro old
    split
    · split <;> rfl
    · rfl
  · exact hne

private theorem lookup_set_of_ne (hk : k ≠ name) (e : Entry) (names : Place)
    (entries : List (String × Entry)) :
    (set (some e) (name :: names) entries).lookup k = entries.lookup k := by
  cases names with
  | nil => rw [lookup_set_singleton, if_neg hk]
  | cons n ns =>
    rw [set, lookup_map_of_keys]
    · cases entries.lookup k with
      | none => rfl
      | some e => cases e <;> simp [hk]
    · intro old
      split
      · split <;> rfl
      · rfl
    · exact List.cons_ne_nil n ns

private theorem find?_set_concat (h : find? entries dir = some (.directory inner)) (e : Entry) :
    find? (set (some e) (dir ++ [name]) entries) (dir ++ [name]) = some e := by
  induction dir generalizing entries with
  | nil =>
    rw [List.nil_append, find?_singleton, lookup_set_singleton, if_pos rfl]
  | cons n ns ih =>
    rw [find?] at h
    rw [List.cons_append, find?, lookup_set_cons (by simp)]
    split at h
    · next inner' hn =>
      rw [hn]
      simpa [mapInner] using ih h
    · next e' hplain hn =>
      split at h
      · cases h
        exact absurd rfl (hplain inner)
      · cases h
    · cases h

private theorem exists_alike_find?_set
    (hold : ∀ e, find? entries place = some e → ∃ text?, e = .file text?)
    (h : find? entries q = some e) :
    ∃ e', find? (set (some (.file text?)) place entries) q = some e' ∧ Alike e e' := by
  induction place generalizing entries q with
  | nil =>
    obtain ⟨text?, hfile⟩ := hold _ rfl
    cases hfile
  | cons n ns ih =>
    cases q with
    | nil =>
      cases h
      exact ⟨_, rfl, .directory _ _⟩
    | cons k ks =>
      by_cases hk : k = n
      · subst hk
        rw [find?] at h hold ⊢
        cases hlookup : entries.lookup k with
        | none =>
          rw [hlookup] at h
          cases h
        | some found =>
          rw [hlookup] at h hold
          by_cases hns : ns = []
          · obtain ⟨text?, rfl⟩ : ∃ text?, found = .file text? := by
              subst hns
              cases found with
              | directory inner => exact hold _ rfl
              | file _ | socket | link _ => exact hold _ rfl
            rw [hns, lookup_set_singleton, if_pos rfl]
            dsimp only at h ⊢
            split at h
            · next hks =>
              cases h
              exact ⟨_, if_pos hks, .file _ _⟩
            · cases h
          · rw [lookup_set_cons hns, hlookup]
            cases found with
            | directory inner => exact ih hold h
            | file _ | socket | link _ => exact ⟨e, h, .refl e⟩
      · rw [find?, lookup_set_of_ne hk, ← find?]
        exact ⟨e, h, .refl e⟩

end Entry

namespace FileTree

variable {tree tree' : FileTree} {here place dir : Place} {pieces : List (List Char)}
  {entries : List (String × Entry)} {name : String} {e : Entry} {p : Path} {text : String}
  {text? text?' : Option String}

/-- The second tree has a file at a place, and all that is found in the first is found in it
alike. -/
structure Replaces (tree tree' : FileTree) (place : Place) (text? : Option String) : Prop where
  workingDirectory_eq : tree'.workingDirectory = tree.workingDirectory
  at_place : tree'.at? place = some (.file text?)
  alike : ∀ {q e}, tree.at? q = some e → ∃ e', tree'.at? q = some e' ∧ e.Alike e'

theorem Replaces.directory (h : Replaces tree tree' place text?)
    (hhere : tree.at? here = some (.directory entries)) :
    ∃ entries', tree'.at? here = some (.directory entries') := by
  obtain ⟨e', he', halike⟩ := h.alike hhere
  cases halike with
  | directory _ entries' => exact ⟨entries', he'⟩

theorem Replaces.lookup {entries' : List (String × Entry)}
    (h : Replaces tree tree' place text?) (hhere : tree.at? here = some (.directory entries))
    (hhere' : tree'.at? here = some (.directory entries')) (hname : entries.lookup name = some e) :
    ∃ e', entries'.lookup name = some e' ∧ e.Alike e' := by
  rw [← at?_concat hhere] at hname
  obtain ⟨e', he', halike⟩ := h.alike hname
  exact ⟨e', by rwa [at?_concat hhere'] at he', halike⟩

/-- Where a path leads from which a file can be written: to a file, or to a directory in which only
the last name is missing. -/
inductive Lands : Place → Located → Prop
  | present (place : Place) (text? : Option String) : Lands place (.present place (.file text?))
  | missing (dir : Place) (name : String) : Lands (dir ++ [name]) (.missing dir name [])

private theorem advance_of_replaces (h : Replaces tree tree' place text?)
    {turn turn' : Place → List (List Char) → Except IoFault Located}
    (hturn : ∀ {here pieces r}, turn here pieces = .ok r → Lands place r →
      turn' here pieces = .ok (.present place (.file text?))) {r : Located}
    (hway : tree.advance turn here pieces = .ok r) (hlands : Lands place r) :
    tree'.advance turn' here pieces = .ok (.present place (.file text?)) := by
  induction pieces generalizing here with
  | nil =>
    rw [advance] at hway ⊢
    split at hway
    · cases hway
    · cases hway
      cases hlands
      rw [h.at_place]
  | cons piece pieces ih =>
    rw [advance] at hway ⊢
    split at hway
    · cases hway
    · next entries hhere =>
      obtain ⟨entries', hhere'⟩ := h.directory hhere
      rw [hhere']
      dsimp only at hway ⊢
      split at hway
      · next hstay => rw [if_pos hstay]; exact ih hway
      · next hstay =>
        rw [if_neg hstay]
        split at hway
        · next hup => rw [if_pos hup]; exact ih hway
        · next hup =>
          rw [if_neg hup]
          split at hway
          · cases hway
          · next hshort =>
            rw [if_neg hshort]
            cases hlookup : entries.lookup (String.ofList piece) with
            | none =>
              rw [hlookup] at hway
              cases hway
              cases hlands
              have hnew := h.at_place
              rw [at?_concat hhere'] at hnew
              rw [hnew, advance, h.at_place]
            | some found =>
              obtain ⟨found', hlookup', halike⟩ := h.lookup hhere hhere' hlookup
              rw [hlookup] at hway
              rw [hlookup']
              cases halike with
              | file _ _ | socket | directory _ _ => exact ih hway
              | link target => exact hturn hway hlands
    · cases hway

private theorem follow_of_replaces (h : Replaces tree tree' place text?) {links : Nat}
    {r : Located} (hway : tree.follow links here pieces = .ok r) (hlands : Lands place r) :
    tree'.follow links here pieces = .ok (.present place (.file text?)) := by
  induction links generalizing here pieces r with
  | zero =>
    refine advance_of_replaces h (fun hturn => ?_) hway hlands
    cases hturn
  | succ links ih => exact advance_of_replaces h (fun hturn hlands => ih hturn hlands) hway hlands

theorem Replaces.locate (h : Replaces tree tree' place text?) {r : Located}
    (hway : tree.locate p = .ok r) (hlands : Lands place r) :
    tree'.locate p = .ok (.present place (.file text?)) := by
  rw [FileTree.locate] at hway ⊢
  split at hway
  · cases hway
  · next hnul =>
    rw [if_neg hnul]
    split at hway
    · cases hway
    · next hempty =>
      rw [if_neg hempty]
      split at hway
      · cases hway
      · next hshort =>
        rw [if_neg hshort, h.workingDirectory_eq]
        exact follow_of_replaces h hway hlands

private theorem replaces_put (hdir : tree.at? dir = some (.directory entries))
    (hold : ∀ e, tree.at? (dir ++ [name]) = some e → ∃ text?, e = .file text?) :
    Replaces tree (tree.put (dir ++ [name]) (.file text?)) (dir ++ [name]) text? where
  workingDirectory_eq := rfl
  at_place := Entry.find?_set_concat hdir _
  alike := Entry.exists_alike_find?_set hold

/-- Writing a file puts it where its path leads, which does not depend on its text. -/
theorem writeFile_eq_ok_iff : tree.writeFile p text? = .ok tree' ↔
    ∃ place r, tree.locate p = .ok r ∧ Lands place r ∧ tree' = tree.put place (.file text?) := by
  constructor
  · intro h
    unfold writeFile at h
    split at h
    · next place text hlocate =>
      cases h
      exact ⟨place, _, hlocate, .present _ _, rfl⟩
    · cases h
    · cases h
    · next dir name hlocate =>
      cases h
      exact ⟨_, _, hlocate, .missing _ _, rfl⟩
    · cases h
    · cases h
  · rintro ⟨place, r, hlocate, hlands, rfl⟩
    cases hlands with
    | present => rw [writeFile, hlocate]
    | missing dir name => rw [writeFile, hlocate]

theorem writeFile_of_writeFile (h : tree.writeFile p text? = .ok tree') (text?' : Option String) :
    ∃ tree'', tree.writeFile p text?' = .ok tree'' := by
  obtain ⟨place, r, hlocate, hlands, -⟩ := writeFile_eq_ok_iff.mp h
  exact ⟨_, writeFile_eq_ok_iff.mpr ⟨place, r, hlocate, hlands, rfl⟩⟩

theorem readText_writeFile (h : tree.writeFile p (some text) = .ok tree') :
    tree'.readText p = .ok text := by
  obtain ⟨place, r, hlocate, hlands, rfl⟩ := writeFile_eq_ok_iff.mp h
  have hreplaces : Replaces tree (tree.put place (.file (some text))) place (some text) := by
    have hsound := sound_of_locate hlocate
    cases hlands with
    | present place text? =>
      cases hsound with
      | present hplace =>
        rcases List.eq_nil_or_concat' place with rfl | ⟨dir, name, rfl⟩
        · cases hplace
        · obtain ⟨entries, hdir⟩ := Entry.exists_directory_of_find?_concat hplace
          refine replaces_put hdir fun e he => ?_
          exact ⟨text?, Option.some.inj (he.symm.trans hplace)⟩
    | missing dir name =>
      cases hsound with
      | missing hdir hname =>
        refine replaces_put hdir fun e he => ?_
        rw [at?_concat hdir, hname] at he
        cases he
  have hnew := hreplaces.locate hlocate hlands
  rw [readText, resolve, hnew]

end FileTree

end RunPlan
