import RunPlan.Proofs.FileTree.Following

/-!
Trees with a single file. Main statements: the names of its place lead to the file, and every path
that leads to it ends in its name.
-/

set_option autoImplicit false

namespace RunPlan

open RunPlan.Text

namespace Entry

variable {text? : Option String} {e : Entry} {place place' : Place}

def alone (text? : Option String) : Place → List (String × Entry)
  | [] => []
  | [name] => [(name, .file text?)]
  | name :: next :: names => [(name, .directory (alone text? (next :: names)))]

private theorem find?_alone_cases (h : find? (alone text? place) place' = some e) :
    (∃ entries, e = .directory entries) ∨ (place' = place ∧ e = .file text?) := by
  have hroot : ∀ {entries}, find? entries [] = some e → ∃ entries, e = .directory entries :=
    fun h => ⟨_, (Option.some.inj h).symm⟩
  fun_induction alone text? place generalizing place' with
  | case1 =>
    cases place' with
    | nil => exact .inl (hroot h)
    | cons name' names' => cases h
  | case2 name =>
    cases place' with
    | nil => exact .inl (hroot h)
    | cons name' names' =>
      rw [find?, List.lookup_cons] at h
      by_cases hname : name' = name
      · cases names' with
        | nil =>
          simp only [hname, beq_self_eq_true] at h
          exact .inr ⟨by rw [hname], (Option.some.inj h).symm⟩
        | cons _ _ => simp [hname] at h
      · simp [beq_eq_false_iff_ne.mpr hname] at h
  | case3 name next names ih =>
    cases place' with
    | nil => exact .inl (hroot h)
    | cons name' names' =>
      rw [find?, List.lookup_cons] at h
      by_cases hname : name' = name
      · simp [hname] at h
        rcases ih h with hdir | ⟨hrest, he⟩
        · exact .inl hdir
        · exact .inr ⟨by rw [hname, hrest], he⟩
      · simp [beq_eq_false_iff_ne.mpr hname] at h

end Entry

namespace FileTree

variable {text? : Option String} {tree : FileTree} {links links' : Nat} {here place place' : Place}
  {name : String} {pieces : List (List Char)} {p : Path}

def alone (text? : Option String) (place : Place) : FileTree := ⟨Entry.alone text? place, []⟩

def namesOf (pieces : List (List Char)) : Place := (pieces.filter (· ≠ [])).map String.ofList

theorem Follows.pieces_cases (h : Follows tree links here pieces links' place) :
    ∀ p ∈ pieces, p = [] ∨ p = ['.'] ∨ p = ['.', '.'] ∨ IsLooked (String.ofList p) := by
  induction h with
  | done => nofun
  | stay _ hpiece _ ih => exact List.forall_mem_cons.mpr ⟨hpiece.imp_right .inl, ih⟩
  | up _ _ ih => exact List.forall_mem_cons.mpr ⟨.inr (.inr (.inl rfl)), ih⟩
  | down _ hname _ _ _ ih =>
    refine List.forall_mem_cons.mpr ⟨.inr (.inr (.inr ?_)), ih⟩
    rwa [String.ofList_toList]
  | turn _ hname _ _ ih =>
    refine List.forall_mem_cons.mpr ⟨.inr (.inr (.inr ?_)), fun p hp => ih p ?_⟩
    · rwa [String.ofList_toList]
    · exact List.mem_append_right _ hp

theorem follows_alone (hname : IsLooked name)
    (hpieces : ∀ p ∈ pieces, p = [] ∨ IsLooked (String.ofList p))
    (hhere : tree.at? here = some (.directory (Entry.alone text? (namesOf pieces ++ [name])))) :
    Follows tree links here (pieces ++ [name.toList]) links (here ++ (namesOf pieces ++ [name])) ∧
      tree.at? (here ++ (namesOf pieces ++ [name])) = some (.file text?) := by
  induction pieces generalizing here with
  | nil =>
    have hentry : (Entry.alone text? [name]).lookup name = some (.file text?) :=
      List.lookup_cons_self
    refine ⟨.down hhere hname hentry (Entry.isPlain_file _) (.done links _), ?_⟩
    exact (at?_concat hhere name).trans hentry
  | cons p ps ih =>
    obtain ⟨hp, hps⟩ := List.forall_mem_cons.mp hpieces
    by_cases hempty : p = []
    · subst hempty
      obtain ⟨hfollows, hplace⟩ := ih hps hhere
      exact ⟨.stay hhere (.inl rfl) hfollows, hplace⟩
    · have hlooked := hp.resolve_left hempty
      have hnames : namesOf (p :: ps) ++ [name] = String.ofList p :: (namesOf ps ++ [name]) := by
        simp [namesOf, hempty]
      have hentry : (Entry.alone text? (String.ofList p :: (namesOf ps ++ [name]))).lookup
          (String.ofList p) = some (.directory (Entry.alone text? (namesOf ps ++ [name]))) := by
        obtain ⟨next, names, hnext⟩ := List.exists_cons_of_ne_nil
          (List.append_ne_nil_of_right_ne_nil (namesOf ps) (List.cons_ne_nil name []))
        rw [hnext]
        exact List.lookup_cons_self
      rw [hnames] at hhere ⊢
      obtain ⟨hfollows, hplace⟩ := ih hps ((at?_concat hhere _).trans hentry)
      rw [List.append_assoc, List.singleton_append] at hfollows hplace
      refine ⟨?_, hplace⟩
      have hdown := Follows.down hhere hlooked hentry (Entry.isPlain_directory _) hfollows
      rwa [String.toList_ofList] at hdown

theorem split_of_resolve_alone {text?' : Option String}
    (h : (alone text? (place ++ [name])).resolve p = .ok (place', .file text?')) :
    ∃ ps, split '/' p.text.toList = ps ++ [name.toList] := by
  obtain ⟨-, ⟨links, hfollows⟩, hplace⟩ := resolve_eq_ok_iff.mp h
  obtain ⟨ps, q, hpieces⟩ :=
    (List.eq_nil_or_concat' _).resolve_left (split_ne_nil '/' p.text.toList)
  rw [hpieces] at hfollows
  obtain ⟨fewer, mid, -, hlast⟩ := hfollows.of_append
  have hfile : place' = place ++ [name] := by
    rcases Entry.find?_alone_cases hplace with ⟨entries, hdir⟩ | ⟨hsame, -⟩
    · cases hdir
    · exact hsame
  refine ⟨ps, hpieces.trans (congrArg (ps ++ [·]) ?_)⟩
  cases hlast with
  | stay hhere _ hrest =>
    cases hrest
    rw [hplace] at hhere
    cases hhere
  | up hhere hrest =>
    cases hrest
    obtain ⟨outer, houter⟩ := exists_directory_of_dropLast hhere
    rw [hplace] at houter
    cases houter
  | down hhere hname hentry hplain hrest =>
    cases hrest
    rw [(List.cons.inj (List.append_inj' hfile rfl).2).1]
  | turn hhere hname hentry hrest =>
    have hlink := (at?_concat hhere _).trans hentry
    rcases Entry.find?_alone_cases hlink with ⟨entries, hdir⟩ | ⟨-, hsame⟩
    · cases hdir
    · cases hsame

end FileTree

end RunPlan
