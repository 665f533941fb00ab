import RunPlan.Proofs.FileTree.Leads

/-!
Walking a tree. Main statements: the walk below a directory gives the path of each file that names
lead to, once, unless there is an entry that strays, which ends it; the number of links that a walk
may enter is never used up.
-/

set_option autoImplicit false

namespace RunPlan.FileTree

/-- A walk gives the files that names lead to, each once, or there is an entry that strays. -/
inductive Walks (tree : FileTree) (s : Stop) : Except IoFault (List Path) → Prop
  | lists {routes : List (List String)} (hdistinct : routes.Nodup)
      (hroutes : ∀ names, names ∈ routes ↔ LeadsToFile tree s names)
      (hwhole : ¬ HasBroken tree s) : Walks tree s (.ok (routes.map s.shown.below))
  | breaks (hbroken : HasBroken tree s) : Walks tree s (.error walkFault)

theorem Walks.eq_error_iff {tree : FileTree} {s : Stop} {x : Except IoFault (List Path)}
    (h : Walks tree s x) : x = .error walkFault ↔ HasBroken tree s := by
  cases h with
  | lists _ _ hwhole => exact iff_of_false nofun hwhole
  | breaks hbroken => exact iff_of_true rfl hbroken

def Stop.listing (s : Stop) (entries : List (String × Entry)) : Stop :=
  { s with entry := .directory entries }

section Entries

variable {tree : FileTree} {entries : List (String × Entry)} {first : String × Entry} {e : Entry}
  {name other : String} {names : List String} {s t r : Stop} {text? : Option String}
  {x y : Except IoFault (List Path)}

private theorem not_holds_of_file (h : s.entry = .file text?) : ¬ Holds s name r := by
  rintro ⟨hdirectory, -⟩
  rw [h] at hdirectory
  cases hdirectory

private theorem holds_listing_iff :
    Holds (s.listing entries) name r ↔ ∃ e, (name, e) ∈ entries ∧ r = s.child name e := by
  constructor
  · rintro ⟨⟨⟩, hentry⟩
    exact ⟨_, hentry, rfl⟩
  · rintro ⟨e, hentry, rfl⟩
    exact .intro rfl hentry

private theorem holds_listing_singleton_iff :
    Holds (s.listing [(name, e)]) other r ↔ other = name ∧ r = s.child name e := by
  rw [holds_listing_iff]
  constructor
  · rintro ⟨e', hmem, rfl⟩
    obtain ⟨rfl, rfl⟩ := Prod.mk.inj (List.mem_singleton.mp hmem)
    exact ⟨rfl, rfl⟩
  · rintro ⟨rfl, rfl⟩
    exact ⟨e, List.mem_singleton_self _, rfl⟩

private theorem not_leadsToFile_listing_nil (s : Stop) (entries : List (String × Entry)) :
    ¬ LeadsToFile tree (s.listing entries) [] := by
  rw [leadsToFile_nil_iff]
  rintro ⟨_, ⟨⟩⟩

theorem LeadsToFile.exists_head (h : LeadsToFile tree (s.listing entries) names) :
    ∃ name ∈ entries.map Prod.fst, names.head? = some name := by
  cases names with
  | nil => exact absurd h (not_leadsToFile_listing_nil s entries)
  | cons name names =>
    obtain ⟨_, ⟨r, hholds, -⟩, -⟩ := leadsToFile_cons_iff.mp h
    obtain ⟨e, hentry, -⟩ := holds_listing_iff.mp hholds
    exact ⟨name, List.mem_map_of_mem hentry, rfl⟩

private theorem leadsToFile_listing_cons_iff :
    LeadsToFile tree (s.listing (first :: entries)) names ↔
    LeadsToFile tree (s.listing [first]) names ∨ LeadsToFile tree (s.listing entries) names := by
  cases names with
  | nil => simp only [not_leadsToFile_listing_nil, or_self]
  | cons name names =>
    simp only [leadsToFile_cons_iff, Steps, holds_listing_iff, List.mem_cons, List.not_mem_nil,
      or_false, or_and_right, exists_or]

private theorem hasBroken_listing_cons_iff : HasBroken tree (s.listing (first :: entries)) ↔
    HasBroken tree (s.listing [first]) ∨ HasBroken tree (s.listing entries) := by
  rw [hasBroken_iff, hasBroken_iff, hasBroken_iff (s := s.listing entries)]
  simp only [holds_listing_iff, List.mem_cons, List.not_mem_nil, or_false, or_and_right, exists_or]

private theorem not_leadsToFile_cons (h : ∀ name r, ¬ Holds s name r) (name : String)
    (names : List String) : ¬ LeadsToFile tree s (name :: names) := by
  rw [leadsToFile_cons_iff]
  rintro ⟨_, ⟨r, hholds, -⟩, -⟩
  exact h name r hholds

private theorem not_hasBroken (h : ∀ name r, ¬ Holds s name r) : ¬ HasBroken tree s := by
  rw [hasBroken_iff]
  rintro ⟨name, r, hholds, -⟩
  exact h name r hholds

private theorem walks_file (h : s.entry = .file text?) : Walks tree s (.ok [s.shown]) := by
  have hnone : ∀ name r, ¬ Holds s name r := fun _ _ => not_holds_of_file h
  have hroutes : ∀ names, names ∈ [[]] ↔ LeadsToFile tree s names := by
    intro names
    cases names with
    | nil => simp [leadsToFile_nil_iff, h]
    | cons name names => exact iff_of_false (by simp) (not_leadsToFile_cons hnone name names)
  exact .lists (List.nodup_singleton []) hroutes (not_hasBroken hnone)

private theorem walks_nothing (hfile : ∀ text?, s.entry ≠ .file text?)
    (hnone : ∀ name r, ¬ Holds s name r) : Walks tree s (.ok []) := by
  have hroutes : ∀ names, names ∈ [] ↔ LeadsToFile tree s names := by
    intro names
    refine iff_of_false (by simp) ?_
    cases names with
    | nil =>
      rw [leadsToFile_nil_iff]
      rintro ⟨text?, htext⟩
      exact hfile text? htext
    | cons name names => exact not_leadsToFile_cons hnone name names
  exact .lists List.nodup_nil hroutes (not_hasBroken hnone)

private theorem walks_empty (s : Stop) : Walks tree (s.listing []) (.ok []) :=
  walks_nothing nofun (by simp [holds_listing_iff])

private theorem walks_socket (h : s.entry = .socket) : Walks tree s (.ok []) := by
  refine walks_nothing (fun text? hfile => ?_) ?_
  · rw [h] at hfile
    cases hfile
  · rintro name r ⟨hdirectory, -⟩
    rw [h] at hdirectory
    cases hdirectory

/-- An entry is walked as what it opens to, unless it strays. -/
theorem Walks.entry (h : Walks tree t x) (hopens : Opens tree (s.child name e) t)
    (hstays : ¬ Strays tree (s.child name e)) : Walks tree (s.listing [(name, e)]) x := by
  have hholds : Holds (s.listing [(name, e)]) name (s.child name e) :=
    holds_listing_singleton_iff.mpr ⟨rfl, rfl⟩
  have hbelow : t.shown = s.shown.join name := hopens.shown_eq
  cases h with
  | lists hdistinct hroutes hwhole =>
    rename_i routes
    have hpaths : routes.map t.shown.below = (routes.map (name :: ·)).map s.shown.below := by
      rw [List.map_map, hbelow]
      rfl
    rw [hpaths]
    refine .lists (hdistinct.map fun _ _ h => (List.cons.inj h).2) (fun names => ?_) ?_
    · cases names with
      | nil => simp [not_leadsToFile_listing_nil]
      | cons other names =>
        rw [leadsToFile_cons_iff, List.mem_map]
        constructor
        · rintro ⟨rest, hrest, heq⟩
          cases heq
          exact ⟨t, ⟨_, hholds, hopens⟩, (hroutes names).mp hrest⟩
        · rintro ⟨s', ⟨r, hother, hs'⟩, hfile⟩
          obtain ⟨rfl, rfl⟩ := holds_listing_singleton_iff.mp hother
          obtain rfl := hs'.unique hopens
          exact ⟨names, (hroutes names).mpr hfile, rfl⟩
    · rw [hasBroken_iff]
      rintro ⟨other, r, hother, h⟩
      obtain ⟨-, rfl⟩ := holds_listing_singleton_iff.mp hother
      rcases h with h | ⟨s', hs', h⟩
      · exact hstays h
      · rw [hs'.unique hopens] at h
        exact hwhole h
  | breaks hbroken =>
    exact .breaks (hasBroken_iff.mpr ⟨name, _, hholds, Or.inr ⟨t, hopens, hbroken⟩⟩)

private theorem walks_of_strays (h : Strays tree (s.child name e)) :
    Walks tree (s.listing [(name, e)]) (.error walkFault) :=
  .breaks (hasBroken_iff.mpr ⟨name, _, holds_listing_singleton_iff.mpr ⟨rfl, rfl⟩, Or.inl h⟩)

theorem Walks.append (hname : name ∉ entries.map Prod.fst)
    (h : Walks tree (s.listing [(name, e)]) x) (h' : Walks tree (s.listing entries) y) :
    Walks tree (s.listing ((name, e) :: entries)) (do
      let first ← x
      let rest ← y
      return first ++ rest) := by
  cases h with
  | breaks hbroken => exact .breaks (hasBroken_listing_cons_iff.mpr (Or.inl hbroken))
  | lists hdistinct hroutes hwhole =>
    cases h' with
    | breaks hbroken => exact .breaks (hasBroken_listing_cons_iff.mpr (Or.inr hbroken))
    | lists hdistinct' hroutes' hwhole' =>
      rename_i routes routes'
      have hdisjoint : routes.Disjoint routes' := by
        intro names hfirst hrest
        obtain ⟨head, hhead, hnames⟩ := ((hroutes names).mp hfirst).exists_head
        obtain ⟨head', hhead', hnames'⟩ := ((hroutes' names).mp hrest).exists_head
        obtain rfl : head = name := List.mem_singleton.mp hhead
        obtain rfl : head = head' := Option.some.inj (hnames.symm.trans hnames')
        exact hname hhead'
      show Walks tree _ (.ok (routes.map s.shown.below ++ routes'.map s.shown.below))
      rw [← List.map_append]
      refine .lists (hdistinct.append hdistinct' hdisjoint) (fun names => ?_) ?_
      · rw [List.mem_append, hroutes, hroutes', ← leadsToFile_listing_cons_iff]
      · rw [hasBroken_listing_cons_iff]
        exact not_or.mpr ⟨hwhole, hwhole'⟩

end Entries

section Walk

variable {tree : FileTree} {n : Nat}
  {enter : List Place → Place → Path → List (String × Entry) → Except IoFault (List Path)}

/-- Entering a directory that a link leads to walks it, as long as enough links may be entered. -/
def EntersWell (tree : FileTree) (n : Nat)
    (enter : List Place → Place → Path → List (String × Entry) → Except IoFault (List Path)) :
    Prop :=
  ∀ (s : Stop) (entries : List (String × Entry)), (Entry.directory entries).DistinctNames →
    tree.unwalked (s.place :: s.way) < n →
    Walks tree (s.listing entries) (enter (s.place :: s.way) s.place s.shown entries)

private theorem not_strays_of_isPlain {r : Stop} (h : r.entry.IsPlain)
    (hshort : ∀ inner, r.entry = .directory inner → ¬ maxPathBytes < r.shown.text.utf8ByteSize) :
    ¬ Strays tree r := by
  rintro (⟨hlink, -⟩ | ⟨hlink, -⟩ | ⟨hdirectory, hlong⟩)
  · exact h _ hlink
  · exact h _ hlink
  · exact hshort _ hdirectory hlong

private theorem not_strays_of_resolve {r : Stop} {target : String} {place : Place} {e : Entry}
    (hlink : r.entry = .link target) (hresolve : tree.resolve r.shown = .ok (place, e))
    (hnew : ∀ inner, e = .directory inner → place ∉ r.way) : ¬ Strays tree r := by
  rintro (⟨-, herror⟩ | ⟨-, hdirectory, hagain⟩ | ⟨hdirectory, -⟩)
  · rw [hresolve] at herror
    cases herror
  · obtain ⟨rfl, rfl⟩ := resolve_unique hresolve hdirectory
    exact hnew _ rfl hagain
  · rw [hlink] at hdirectory
    cases hdirectory

mutual

private theorem walks_walkEntry (htree : tree.DistinctNames) (henter : EntersWell tree n enter)
    {s : Stop} {name : String} {e : Entry} (he : e.DistinctNames)
    (hleft : tree.unwalked (s.place :: s.way) ≤ n) :
    Walks tree (s.listing [(name, e)])
      (tree.walkEntry enter (s.place :: s.way) (s.place ++ [name]) (s.shown.join name) e) := by
  match e with
  | .file text? =>
    have hplain : (s.child name (.file text?)).entry.IsPlain := Entry.isPlain_file text?
    have hwalks : Walks tree (s.child name (.file text?)) (.ok [s.shown.join name]) :=
      walks_file rfl
    exact hwalks.entry (.plain hplain) (not_strays_of_isPlain hplain nofun)
  | .socket =>
    have hplain : (s.child name .socket).entry.IsPlain := Entry.isPlain_socket
    exact (walks_socket rfl).entry (.plain hplain) (not_strays_of_isPlain hplain nofun)
  | .directory inner =>
    rw [walkEntry]
    split
    · rename_i hlong
      exact walks_of_strays (.tooLong rfl hlong)
    · rename_i hshort
      have hplain : (s.child name (.directory inner)).entry.IsPlain :=
        Entry.isPlain_directory inner
      have hinner : tree.unwalked ((s.place ++ [name]) :: s.place :: s.way) ≤ n :=
        (unwalked_cons_le tree _ _).trans hleft
      have hwalks : Walks tree (s.child name (.directory inner)) _ :=
        walks_walkEntries (s := s.child name (.directory inner)) htree henter he hinner
      exact hwalks.entry (.plain hplain) (not_strays_of_isPlain hplain fun _ _ => hshort)
  | .link target =>
    rw [walkEntry]
    split
    · rename_i place inner hresolve
      split
      · rename_i hagain
        have hagain : place ∈ s.place :: s.way := by simpa using hagain
        exact walks_of_strays (.looping rfl hresolve hagain)
      · rename_i hnew
        have hnew : place ∉ s.place :: s.way := by simpa using hnew
        have hless := unwalked_cons_lt (mem_directories_of_at? (at?_of_resolve hresolve)) hnew
        have hwalks := henter ⟨s.shown.join name, s.place :: s.way, place, .file none⟩ inner
          (htree.of_resolve hresolve) (lt_of_lt_of_le hless hleft)
        exact hwalks.entry (.link rfl hresolve)
          (not_strays_of_resolve rfl hresolve fun _ _ => hnew)
    · rename_i place text? hresolve
      have hwalks : Walks tree ⟨s.shown.join name, s.place :: s.way, place, .file text?⟩
          (.ok [s.shown.join name]) := walks_file rfl
      exact hwalks.entry (.link rfl hresolve) (not_strays_of_resolve rfl hresolve nofun)
    · rename_i place hresolve
      have hwalks : Walks tree ⟨s.shown.join name, s.place :: s.way, place, .socket⟩ (.ok []) :=
        walks_socket rfl
      exact hwalks.entry (.link rfl hresolve) (not_strays_of_resolve rfl hresolve nofun)
    · rename_i hresolve
      exact absurd rfl (isPlain_of_resolve hresolve _)
    · rename_i hresolve
      exact walks_of_strays (.dangling rfl hresolve)

private theorem walks_walkEntries (htree : tree.DistinctNames) (henter : EntersWell tree n enter)
    {s : Stop} {entries : List (String × Entry)}
    (hentries : (Entry.directory entries).DistinctNames)
    (hleft : tree.unwalked (s.place :: s.way) ≤ n) :
    Walks tree (s.listing entries)
      (tree.walkEntries enter (s.place :: s.way) s.place s.shown entries) := by
  match entries with
  | [] => exact walks_empty s
  | (name, e) :: es =>
    obtain ⟨hnodup, he, hes⟩ := hentries
    obtain ⟨hname, hnodup⟩ := List.nodup_cons.mp hnodup
    rw [walkEntries]
    exact (walks_walkEntry htree henter he hleft).append hname
      (walks_walkEntries htree henter ⟨hnodup, hes⟩ hleft)

end

private theorem enter_entersWell (htree : tree.DistinctNames) (n : Nat) :
    EntersWell tree n (tree.enter n) := by
  induction n with
  | zero => exact fun _ _ _ h => absurd h (Nat.not_lt_zero _)
  | succ n ih =>
    intro s entries hentries hleft
    exact walks_walkEntries htree ih hentries (Nat.le_of_lt_succ hleft)

/-- The walk of a directory gives all files below it, or an entry below it strays. -/
theorem walks_walk (htree : tree.DistinctNames) {p : Path} {place : Place}
    {entries : List (String × Entry)} (hp : tree.resolve p = .ok (place, .directory entries)) :
    Walks tree ⟨p, [], place, .directory entries⟩ (tree.walk p) := by
  have hshort : ¬ maxPathBytes < p.text.utf8ByteSize :=
    Nat.not_lt_of_le (resolve_eq_ok_iff.mp hp).1.short
  rw [walk, hp]
  dsimp only
  rw [walkEntry, if_neg hshort]
  exact walks_walkEntries (s := ⟨p, [], place, .directory entries⟩) htree
    (enter_entersWell htree _) (htree.of_resolve hp) (unwalked_le tree _)

end Walk

end RunPlan.FileTree
