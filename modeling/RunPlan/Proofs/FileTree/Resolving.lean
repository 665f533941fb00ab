import RunPlan.Proofs.FileTree.Following

/-!
Paths with names behind them. Main statement: a path with a name behind it leads to what the entry
of that name is or links to, in the directory that the path leads to, and to nothing else.
-/

set_option autoImplicit false

namespace RunPlan

open RunPlan.Text

variable {p : Path} {name : String}

private theorem Path.exists_split_join (hne : p.text ≠ "") (h : IsFileName name) :
    ∃ pieces, (split '/' p.text.toList = pieces ∨ split '/' p.text.toList = pieces ++ [[]]) ∧
      split '/' (p.join name).text.toList = pieces ++ [name.toList] := by
  have hne' : p.text.toList ≠ [] := by simpa using hne
  rw [Path.join, if_neg h.not_absolute]
  by_cases hslash : p.text.toList.getLast? = some '/'
  · obtain ⟨front, hfront⟩ := List.getLast?_eq_some_iff.mp hslash
    refine ⟨split '/' front, Or.inr ?_, ?_⟩
    · rw [hfront, split_append_cons]
      rfl
    · rw [if_pos (by simp [hslash]), String.toList_append, hfront, List.append_assoc,
        List.singleton_append, split_append_cons, split_of_notMem h.2]
  · refine ⟨split '/' p.text.toList, Or.inl rfl, ?_⟩
    have htext : (p.text ++ "/" ++ name).toList = p.text.toList ++ '/' :: name.toList := by simp
    rw [if_neg (by simp [hslash, hne]), htext, split_append_cons, split_of_notMem h.2]

theorem Path.text_join_ne (hne : p.text ≠ "") (h : IsFileName name) : (p.join name).text ≠ "" := by
  obtain ⟨slash, hjoin⟩ := p.exists_join_eq
  rw [hjoin name h.not_absolute]
  simp [hne]

namespace FileTree

variable {tree : FileTree} {place outer : Place} {entries : List (String × Entry)} {e entry : Entry}

private theorem startOf_join (hne : p.text ≠ "") (h : IsFileName name) :
    startOf tree (p.join name) = startOf tree p := by
  have hne' : p.text.toList ≠ [] := by simpa using hne
  obtain ⟨slash, hjoin⟩ := p.exists_join_eq
  have habsolute : (p.join name).isAbsolute = p.isAbsolute := by
    rw [Path.isAbsolute, Path.isAbsolute, hjoin name h.not_absolute, String.toList_append,
      String.toList_append, List.append_assoc, List.head?_append_of_ne_nil _ hne']
  rw [startOf, startOf, habsolute]

theorem IsTold.of_join (hne : p.text ≠ "") (h : IsFileName name) (htold : IsTold (p.join name)) :
    IsTold p := by
  obtain ⟨slash, hjoin⟩ := p.exists_join_eq
  obtain ⟨hnul, -, hshort⟩ := htold
  rw [hjoin name h.not_absolute] at hnul hshort
  refine ⟨fun hmem => hnul (by simp [hmem]), hne, ?_⟩
  dsimp only at hshort
  rw [String.utf8ByteSize_append, String.utf8ByteSize_append] at hshort
  omega

private theorem Follows.eq_of_nil {links links' : Nat}
    (h : Follows tree links outer [[]] links' place) :
    links' = links ∧ place = outer := by
  generalize hpieces : [[]] = pieces at h
  have hlooked : ∀ {name : String}, IsLooked name → name.toList ≠ [] := by
    intro name hname hnil
    exact hname.proper (by simp [String.toList_eq_nil_iff.mp hnil])
  cases h with
  | done => cases hpieces
  | stay _ _ hrest =>
    obtain ⟨-, rfl⟩ := List.cons.inj hpieces
    cases hrest
    exact ⟨rfl, rfl⟩
  | up => cases hpieces
  | down _ hname | turn _ hname => exact absurd (List.cons.inj hpieces).1.symm (hlooked hname)

private theorem Follows.cases_name {links links' : Nat} (hname : IsFileName name)
    (h : Follows tree links outer [name.toList] links' place) :
    ∃ entries entry, tree.at? outer = some (.directory entries) ∧
      entries.lookup name = some entry ∧ (entry.IsPlain → place = outer ++ [name]) := by
  generalize hpieces : [name.toList] = pieces at h
  cases h with
  | done => cases hpieces
  | stay _ hpiece _ =>
    obtain ⟨rfl, -⟩ := List.cons.inj hpieces
    rcases hpiece with hpiece | hpiece
    · exact absurd hpiece (hname.toList_ne "" (by decide))
    · exact absurd hpiece (hname.toList_ne "." (by decide))
  | up =>
    exact absurd (List.cons.inj hpieces).1 (hname.toList_ne ".." (by decide))
  | down hhere _ hentry hplain hrest =>
    obtain ⟨htext, rfl⟩ := List.cons.inj hpieces
    obtain rfl := String.toList_inj.mp htext
    cases hrest
    exact ⟨_, _, hhere, hentry, fun _ => rfl⟩
  | turn hhere _ hentry _ =>
    obtain ⟨htext, rfl⟩ := List.cons.inj hpieces
    obtain rfl := String.toList_inj.mp htext
    exact ⟨_, _, hhere, hentry, fun hplain => absurd rfl (hplain _)⟩

theorem resolve_join_of_isPlain (hp : tree.resolve p = .ok (outer, .directory entries))
    (hname : IsFileName name) (hshort : name.utf8ByteSize ≤ maxNameBytes)
    (htold : IsTold (p.join name)) (hentry : entries.lookup name = some e) (hplain : e.IsPlain) :
    tree.resolve (p.join name) = .ok (outer ++ [name], e) := by
  obtain ⟨hp, ⟨links, hfollows⟩, houter⟩ := resolve_eq_ok_iff.mp hp
  obtain ⟨pieces, hsplit, hjoin⟩ := Path.exists_split_join hp.nonempty hname
  have hfront : Follows tree maxLinks (startOf tree p) pieces links outer := by
    rcases hsplit with hsplit | hsplit <;> rw [hsplit] at hfollows
    · exact hfollows
    · obtain ⟨fewer, mid, hfront, hback⟩ := hfollows.of_append
      obtain ⟨rfl, rfl⟩ := hback.eq_of_nil
      exact hfront
  have hlast : Follows tree links outer [name.toList] links (outer ++ [name]) :=
    .down houter ⟨hname.1, hshort⟩ hentry hplain (.done links _)
  refine resolve_eq_ok_iff.mpr ⟨htold, ⟨links, ?_⟩, by rw [at?_concat houter, hentry]⟩
  rw [startOf_join hp.nonempty hname, hjoin]
  exact hfront.append hlast

theorem exists_of_resolve_join (hne : p.text ≠ "") (hname : IsFileName name)
    (h : tree.resolve (p.join name) = .ok (place, e)) :
    ∃ outer entries entry, tree.resolve p = .ok (outer, .directory entries) ∧
      entries.lookup name = some entry ∧
      (entry.IsPlain → place = outer ++ [name] ∧ e = entry) := by
  obtain ⟨htold, ⟨links, hfollows⟩, hplace⟩ := resolve_eq_ok_iff.mp h
  obtain ⟨pieces, hsplit, hjoin⟩ := Path.exists_split_join hne hname
  rw [startOf_join hne hname, hjoin] at hfollows
  obtain ⟨fewer, outer, hfront, hback⟩ := hfollows.of_append
  obtain ⟨entries, entry, houter, hentry, hplain⟩ := hback.cases_name hname
  refine ⟨outer, entries, entry, ?_, hentry, fun hentryPlain => ?_⟩
  · refine resolve_eq_ok_iff.mpr ⟨htold.of_join hne hname, ⟨fewer, ?_⟩, houter⟩
    rcases hsplit with hsplit | hsplit <;> rw [hsplit]
    · exact hfront
    · exact hfront.append (.stay houter (Or.inl rfl) (.done fewer outer))
  · obtain rfl := hplain hentryPlain
    rw [at?_concat houter, hentry, Option.some.injEq] at hplace
    exact ⟨rfl, hplace.symm⟩

end FileTree

end RunPlan
