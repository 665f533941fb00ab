import RunPlan.Proofs.FileTree.Following

/-!
Pieces of a path that stay in the directory. Main statement: a path leads where it leads without
them.
-/

set_option autoImplicit false

namespace RunPlan.FileTree

open RunPlan.Text

variable {tree : FileTree} {links links' : Nat} {here place : Place} {piece : List Char}
  {ps qs : List (List Char)}

private theorem Follows.exists_directory (hne : ps ≠ [])
    (h : Follows tree links here ps links' place) :
    ∃ entries, tree.at? here = some (.directory entries) := by
  cases h with
  | done => exact absurd rfl hne
  | stay hhere => exact ⟨_, hhere⟩
  | up hhere => exact ⟨_, hhere⟩
  | down hhere => exact ⟨_, hhere⟩
  | turn hhere => exact ⟨_, hhere⟩

private theorem follows_stay_iff (hpiece : piece = [] ∨ piece = ['.']) :
    Follows tree links here (piece :: ps) links' place ↔
      (∃ entries, tree.at? here = some (.directory entries)) ∧
        Follows tree links here ps links' place := by
  have hlooked : ∀ {name : String}, IsLooked name → name.toList ≠ piece := by
    rintro name hname rfl
    rw [← String.ofList_toList (s := name), isLooked_iff] at hname
    exact hname.1 hpiece
  constructor
  · intro h
    generalize hall : piece :: ps = all at h
    cases h with
    | done => cases hall
    | stay hhere _ hrest =>
      obtain ⟨-, rfl⟩ := List.cons.inj hall
      exact ⟨⟨_, hhere⟩, hrest⟩
    | up hhere hrest =>
      obtain ⟨rfl, -⟩ := List.cons.inj hall
      rcases hpiece with hpiece | hpiece <;> cases hpiece
    | down _ hname | turn _ hname => exact absurd (List.cons.inj hall).1.symm (hlooked hname)
  · rintro ⟨⟨entries, hhere⟩, h⟩
    exact .stay hhere hpiece h

/-- Two lists of pieces lead from each place to the same places. -/
def SameWay (tree : FileTree) (ps qs : List (List Char)) : Prop :=
  ∀ links here links' place, Follows tree links here ps links' place ↔
    Follows tree links here qs links' place

theorem SameWay.symm (h : SameWay tree ps qs) : SameWay tree qs ps :=
  fun links here links' place => (h links here links' place).symm

theorem SameWay.trans {rs : List (List Char)} (h : SameWay tree ps qs) (h' : SameWay tree qs rs) :
    SameWay tree ps rs :=
  fun links here links' place => (h links here links' place).trans (h' links here links' place)

private theorem SameWay.follows_cons (h : SameWay tree ps qs)
    (hps : Follows tree links here (piece :: ps) links' place) :
    Follows tree links here (piece :: qs) links' place := by
  have hapart : Follows tree links here ([piece] ++ ps) links' place := hps
  obtain ⟨fewer, mid, hfirst, hrest⟩ := hapart.of_append
  exact hfirst.append ((h fewer mid links' place).mp hrest)

theorem SameWay.cons (h : SameWay tree ps qs) (p : List Char) : SameWay tree (p :: ps) (p :: qs) :=
  fun _ _ _ _ => ⟨h.follows_cons, h.symm.follows_cons⟩

theorem sameWay_stay (hpiece : piece = [] ∨ piece = ['.']) (hne : ps ≠ []) :
    SameWay tree (piece :: ps) ps := by
  intro links here links' place
  rw [follows_stay_iff hpiece]
  exact ⟨And.right, fun h => ⟨h.exists_directory hne, h⟩⟩

theorem sameWay_point (ps : List (List Char)) : SameWay tree (['.'] :: ps) ([] :: ps) := by
  intro links here links' place
  rw [follows_stay_iff (.inr rfl), follows_stay_iff (.inl rfl)]

section Paths

variable {p q : Path}

theorem toOption_readText_of_sameWay
    (hway : SameWay tree (split '/' p.text.toList) (split '/' q.text.toList))
    (htold : IsTold p ↔ IsTold q) (hstart : startOf tree p = startOf tree q) :
    (tree.readText p).toOption = (tree.readText q).toOption := by
  have hresolve : ∀ found, tree.resolve p = .ok found ↔ tree.resolve q = .ok found := by
    rintro ⟨place, e⟩
    rw [resolve_eq_ok_iff, resolve_eq_ok_iff, htold, hstart]
    simp only [hway maxLinks (startOf tree q) _ place]
  cases hp : tree.resolve p with
  | ok found => rw [readText, readText, hp, (hresolve found).mp hp]
  | error fault =>
    cases hq : tree.resolve q with
    | ok found =>
      rw [(hresolve found).mpr hq] at hp
      cases hp
    | error fault' =>
      rw [readText, readText, hp, hq]
      rfl

end Paths

end RunPlan.FileTree
