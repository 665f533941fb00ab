import RunPlan.Proofs.FileTree.Directories
import RunPlan.Proofs.FileTree.Names
import RunPlan.Proofs.FileTree.Resolving

/-!
Where names lead from a directory, links followed. Main statements: the names on such a way are ones
that a directory can give, and a way of names leads exactly to where their path leads, as long as
that path can be looked up.
-/

set_option autoImplicit false

namespace RunPlan

namespace FileTree

/-- Where a walk stands: the path that it shows, the places of the directories that it is in, the
innermost first, and an entry with its place. -/
structure Stop where
  shown : Path
  way : List Place
  place : Place
  entry : Entry

def Stop.child (s : Stop) (name : String) (e : Entry) : Stop :=
  ⟨s.shown.join name, s.place :: s.way, s.place ++ [name], e⟩

/-- A directory has an entry of that name. -/
inductive Holds (s : Stop) (name : String) : Stop → Prop
  | intro {entries : List (String × Entry)} {e : Entry} (hdirectory : s.entry = .directory entries)
      (hentry : (name, e) ∈ entries) : Holds s name (s.child name e)

/-- A link is followed, anything else stays what it is. -/
inductive Opens (tree : FileTree) (r : Stop) : Stop → Prop
  | plain (hplain : r.entry.IsPlain) : Opens tree r r
  | link {target : String} {place : Place} {e : Entry} (hlink : r.entry = .link target)
      (hresolve : tree.resolve r.shown = .ok (place, e)) :
      Opens tree r ⟨r.shown, r.way, place, e⟩

/-- A link leads nowhere, or back to a directory that the walk is in, or a directory has a path that
is too long for it to be opened. -/
inductive Strays (tree : FileTree) (r : Stop) : Prop
  | dangling {target : String} {fault : IoFault} (hlink : r.entry = .link target)
      (hresolve : tree.resolve r.shown = .error fault)
  | looping {inner : List (String × Entry)} {target : String} {place : Place}
      (hlink : r.entry = .link target)
      (hresolve : tree.resolve r.shown = .ok (place, .directory inner)) (hagain : place ∈ r.way)
  | tooLong {inner : List (String × Entry)} (hdirectory : r.entry = .directory inner)
      (hlong : maxPathBytes < r.shown.text.utf8ByteSize)

/-- From a directory a name leads to its entry, or to what that entry links to. -/
def Steps (tree : FileTree) (s : Stop) (name : String) (t : Stop) : Prop :=
  ∃ r, Holds s name r ∧ Opens tree r t

/-- Names lead from one stop to another, one step for each. -/
inductive Leads (tree : FileTree) : Stop → List String → Stop → Prop
  | here (s : Stop) : Leads tree s [] s
  | step {s s' s'' : Stop} {name : String} {names : List String} (hstep : Steps tree s name s')
      (hrest : Leads tree s' names s'') : Leads tree s (name :: names) s''

/-- Names lead to a file. -/
def LeadsToFile (tree : FileTree) (s : Stop) (names : List String) : Prop :=
  ∃ t text?, Leads tree s names t ∧ t.entry = .file text?

/-- Below a stop there is an entry that strays. -/
def HasBroken (tree : FileTree) (s : Stop) : Prop :=
  ∃ names s' name r, Leads tree s names s' ∧ Holds s' name r ∧ Strays tree r

variable {tree : FileTree} {s s' t : Stop} {name : String} {names : List String}

private theorem leads_cons_iff :
    Leads tree s (name :: names) t ↔ ∃ s', Steps tree s name s' ∧ Leads tree s' names t := by
  constructor
  · rintro (_ | ⟨hstep, hrest⟩)
    exact ⟨_, hstep, hrest⟩
  · rintro ⟨s', hstep, hrest⟩
    exact .step hstep hrest

theorem hasBroken_iff : HasBroken tree s ↔ ∃ name r, Holds s name r ∧
    (Strays tree r ∨ ∃ s', Opens tree r s' ∧ HasBroken tree s') := by
  constructor
  · rintro ⟨_, s', name, r, _ | ⟨⟨first, hfirst, hopens⟩, hrest⟩, hholds, hstrays⟩
    · exact ⟨name, r, hholds, Or.inl hstrays⟩
    · exact ⟨_, first, hfirst, Or.inr ⟨_, hopens, _, s', name, r, hrest, hholds, hstrays⟩⟩
  · rintro ⟨name, r, hholds, hstrays | ⟨s', hopens, names, t, last, r', hleads, hlast, hstrays⟩⟩
    · exact ⟨[], s, name, r, .here s, hholds, hstrays⟩
    · exact ⟨_, t, last, r', .step ⟨r, hholds, hopens⟩ hleads, hlast, hstrays⟩

theorem leadsToFile_nil_iff : LeadsToFile tree s [] ↔ ∃ text?, s.entry = .file text? := by
  constructor
  · rintro ⟨t, text?, ⟨⟩, htext⟩
    exact ⟨text?, htext⟩
  · rintro ⟨text?, htext⟩
    exact ⟨s, text?, .here s, htext⟩

theorem leadsToFile_cons_iff : LeadsToFile tree s (name :: names) ↔
    ∃ s', Steps tree s name s' ∧ LeadsToFile tree s' names := by
  constructor
  · rintro ⟨t, text?, hleads, htext⟩
    obtain ⟨s', hstep, hrest⟩ := leads_cons_iff.mp hleads
    exact ⟨s', hstep, t, text?, hrest, htext⟩
  · rintro ⟨s', hstep, t, text?, hrest, htext⟩
    exact ⟨t, text?, .step hstep hrest, htext⟩

theorem Opens.unique {r : Stop} (h : Opens tree r s) (h' : Opens tree r t) : s = t := by
  cases h with
  | plain hplain =>
    cases h' with
    | plain => rfl
    | link hlink => exact absurd hlink (hplain _)
  | link hlink hresolve =>
    cases h' with
    | plain hplain => exact absurd hlink (hplain _)
    | link _ hresolve' =>
      obtain ⟨rfl, rfl⟩ := resolve_unique hresolve hresolve'
      rfl

theorem Opens.shown_eq {r : Stop} (h : Opens tree r s) : s.shown = r.shown := by
  cases h <;> rfl

theorem Steps.shown_eq (h : Steps tree s name s') : s'.shown = s.shown.join name := by
  obtain ⟨_, ⟨_, _⟩, hopens⟩ := h
  exact hopens.shown_eq

theorem Leads.shown_eq (h : Leads tree s names t) : t.shown = s.shown.below names := by
  induction h with
  | here => rfl
  | step hstep _ ih =>
    rw [ih, hstep.shown_eq]
    rfl

theorem Steps.wellNamed (htree : tree.WellNamed) (hs : s.entry.WellNamed)
    (h : Steps tree s name s') : IsFileName name ∧ s'.entry.WellNamed := by
  obtain ⟨_, ⟨hdirectory, hentry⟩, hopens⟩ := h
  rw [hdirectory] at hs
  obtain ⟨hname, he⟩ := Entry.AllWellNamed.of_mem hs hentry
  cases hopens with
  | plain => exact ⟨hname, he⟩
  | link _ hresolve => exact ⟨hname, htree.of_resolve hresolve⟩

theorem Leads.wellNamed (htree : tree.WellNamed) (hs : s.entry.WellNamed)
    (h : Leads tree s names t) : ∀ name ∈ names, IsFileName name := by
  induction h with
  | here => exact nofun
  | step hstep _ ih =>
    obtain ⟨hname, hs'⟩ := hstep.wellNamed htree hs
    exact List.forall_mem_cons.mpr ⟨hname, ih hs'⟩

section Resolving

/-- The entry of a stop is what its path leads to. -/
def Stop.IsResolved (tree : FileTree) (s : Stop) : Prop :=
  tree.resolve s.shown = .ok (s.place, s.entry)

private theorem isTold_of_below {p : Path} (hne : p.text ≠ "")
    (hnames : ∀ name ∈ names, IsFileName name)
    (h : IsTold (p.below names)) : IsTold p := by
  induction names generalizing p with
  | nil => exact h
  | cons name names ih =>
    obtain ⟨hname, hnames⟩ := List.forall_mem_cons.mp hnames
    exact (ih (Path.text_join_ne hne hname) hnames h).of_join hne hname

private theorem exists_of_resolve_below {p : Path} (hne : p.text ≠ "")
    (hnames : ∀ name ∈ names, IsFileName name) {found : Place × Entry}
    (h : tree.resolve (p.below names) = .ok found) : ∃ found, tree.resolve p = .ok found := by
  induction names generalizing p with
  | nil => exact ⟨found, h⟩
  | cons name names ih =>
    obtain ⟨hname, hnames⟩ := List.forall_mem_cons.mp hnames
    obtain ⟨⟨_, _⟩, hjoin⟩ := ih (Path.text_join_ne hne hname) hnames h
    obtain ⟨_, _, _, hp, -, -⟩ := exists_of_resolve_join hne hname hjoin
    exact ⟨_, hp⟩

private theorem Stop.IsResolved.text_ne (hs : s.IsResolved tree) : s.shown.text ≠ "" :=
  (resolve_eq_ok_iff.mp hs).1.nonempty

private theorem Steps.isResolved (htree : tree.WellNamed) (hdistinct : tree.DistinctNames)
    (hs : s.IsResolved tree) (hshort : name.utf8ByteSize ≤ maxNameBytes)
    (htold : IsTold (s.shown.join name)) (h : Steps tree s name s') : s'.IsResolved tree := by
  have hname := (h.wellNamed htree (htree.of_resolve hs)).1
  have hnodup := hdistinct.of_resolve hs
  obtain ⟨_, ⟨hdirectory, hentry⟩, hopens⟩ := h
  cases hopens with
  | plain hplain =>
    rw [Stop.IsResolved, hdirectory] at hs
    rw [hdirectory] at hnodup
    exact resolve_join_of_isPlain hs hname hshort htold (Entry.lookup_of_mem hnodup.1 hentry) hplain
  | link _ hresolve => exact hresolve

private theorem Leads.isResolved (htree : tree.WellNamed) (hdistinct : tree.DistinctNames)
    (hs : s.IsResolved tree) (hshort : ∀ name ∈ names, name.utf8ByteSize ≤ maxNameBytes)
    (htold : IsTold (s.shown.below names)) (h : Leads tree s names t) : t.IsResolved tree := by
  induction h with
  | here => exact hs
  | step hstep hrest ih =>
    obtain ⟨hname, hs'⟩ := hstep.wellNamed htree (htree.of_resolve hs)
    have hnames := hrest.wellNamed htree hs'
    obtain ⟨hfirst, hrestShort⟩ := List.forall_mem_cons.mp hshort
    have hjoin := isTold_of_below (Path.text_join_ne hs.text_ne hname) hnames htold
    refine ih (hstep.isResolved htree hdistinct hs hfirst hjoin) hrestShort ?_
    rw [hstep.shown_eq]
    exact htold

private theorem exists_leads_of_resolve (hs : s.IsResolved tree)
    (hnames : ∀ name ∈ names, IsFileName name)
    {place : Place} {e : Entry} (h : tree.resolve (s.shown.below names) = .ok (place, e)) :
    ∃ t, Leads tree s names t ∧ t.place = place ∧ t.entry = e := by
  induction names generalizing s with
  | nil =>
    obtain ⟨rfl, rfl⟩ := resolve_unique hs h
    exact ⟨s, .here s, rfl, rfl⟩
  | cons name names ih =>
    obtain ⟨hname, hnames⟩ := List.forall_mem_cons.mp hnames
    obtain ⟨⟨next, e'⟩, hnext⟩ :=
      exists_of_resolve_below (Path.text_join_ne hs.text_ne hname) hnames h
    obtain ⟨outer, entries, entry, houter, hentry, hplain⟩ :=
      exists_of_resolve_join hs.text_ne hname hnext
    obtain ⟨hplace, hdirectory⟩ := resolve_unique hs houter
    have hholds : Holds s name (s.child name entry) :=
      .intro hdirectory (Entry.mem_of_lookup hentry)
    have hstep : Steps tree s name ⟨s.shown.join name, s.place :: s.way, next, e'⟩ := by
      refine ⟨_, hholds, ?_⟩
      by_cases hentryPlain : entry.IsPlain
      · obtain ⟨rfl, rfl⟩ := hplain hentryPlain
        rw [← hplace]
        exact .plain hentryPlain
      · obtain ⟨target, rfl⟩ := Entry.exists_link hentryPlain
        exact .link rfl hnext
    have hresolved : Stop.IsResolved tree ⟨s.shown.join name, s.place :: s.way, next, e'⟩ := hnext
    obtain ⟨t, hleads, hplace, hentry⟩ := ih hresolved hnames h
    exact ⟨t, .step hstep hleads, hplace, hentry⟩

/-- Names lead to what their path leads to, if it is short enough to be looked up. -/
theorem leads_iff_resolve (htree : tree.WellNamed) (hdistinct : tree.DistinctNames)
    (hs : s.IsResolved tree)
    (hnames : ∀ name ∈ names, IsFileName name ∧ name.utf8ByteSize ≤ maxNameBytes)
    (htold : IsTold (s.shown.below names)) {place : Place} {e : Entry} :
    (∃ t, Leads tree s names t ∧ t.place = place ∧ t.entry = e) ↔
      tree.resolve (s.shown.below names) = .ok (place, e) := by
  constructor
  · rintro ⟨t, hleads, rfl, rfl⟩
    rw [← hleads.shown_eq]
    exact hleads.isResolved htree hdistinct hs (fun name hname => (hnames name hname).2) htold
  · exact exists_leads_of_resolve hs fun name hname => (hnames name hname).1

theorem leadsToFile_iff_resolve (htree : tree.WellNamed) (hdistinct : tree.DistinctNames)
    (hs : s.IsResolved tree)
    (hnames : ∀ name ∈ names, IsFileName name ∧ name.utf8ByteSize ≤ maxNameBytes)
    (htold : IsTold (s.shown.below names)) : LeadsToFile tree s names ↔
      ∃ place text?, tree.resolve (s.shown.below names) = .ok (place, .file text?) := by
  simp only [← leads_iff_resolve htree hdistinct hs hnames htold]
  constructor
  · rintro ⟨t, text?, hleads, htext⟩
    exact ⟨t.place, text?, t, hleads, rfl, htext⟩
  · rintro ⟨_, text?, t, hleads, -, htext⟩
    exact ⟨t, text?, hleads, htext⟩

end Resolving

end FileTree

end RunPlan
