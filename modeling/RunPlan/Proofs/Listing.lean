import RunPlan.Proofs.FileNames
import RunPlan.Proofs.FileTree.Walking

/-!
The files of a benchmarks directory. Main statement: they are the files below it, through links and
at any depth, whose names have the extension, each once and in the order of their components; a
link anywhere below that leads nowhere or in a circle, or a directory whose path is too long, ends
the search with an error and no file at all.
-/

set_option autoImplicit false

namespace RunPlan.Loader

open RunPlan.FileTree RunPlan.Text

/-- The stop at a directory from which everything below it is walked. -/
def top (directory : Resource) (place : Place) (entries : List (String × Entry)) : Stop :=
  ⟨directory.path, [], place, .directory entries⟩

/-- The resources are the files with the extension that names lead to from a directory, told by
their paths, each once and in order; and each is found again by its path relative to the
directory. -/
structure Lists (tree : FileTree) (s : Stop) (files : List Resource) : Prop where
  mem_iff : ∀ file, file ∈ files ↔ ∃ names name, LeadsToFile tree s (names ++ [name]) ∧
    ".yaml".toList <:+ name.toList ∧ file.path = s.shown.below (names ++ [name]) ∧
    file.location = file.path.text
  increasing : files.Pairwise fun f g => f.path.compare g.path = .lt
  relative : ∀ file ∈ files, s.shown.join (s.shown.relativeTo file.path) = file.path

section Matching

variable {tree : FileTree} {directory : Resource} {names : List String}

private theorem extension_suffix_join_iff :
    ".yaml".toList <:+ Text.join ['/'] (names.map String.toList) ↔
    ∃ init name, names = init ++ [name] ∧ ".yaml".toList <:+ name.toList := by
  constructor
  · intro h
    obtain ⟨init, stem, rfl⟩ := exists_stem h
    refine ⟨init, stem ++ ".yaml", rfl, ?_⟩
    rw [String.toList_append]
    exact List.suffix_append _ _
  · rintro ⟨init, name, rfl, h⟩
    rw [List.map_append, List.map_singleton]
    by_cases hinit : init.map String.toList = []
    · rw [hinit]
      exact h
    · rw [join_concat hinit]
      exact h.trans (List.suffix_append _ _)

private theorem exists_tokens : ∃ tokens, Glob.parse filePattern = .ok tokens :=
  exists_eq_ok_of_isSome (by decide +kernel)

private theorem exists_matching {walked : List Path}
    (hwalk : tree.walk directory.path = .ok walked) :
    ∃ matched, Reader.matching tree directory filePattern = .ok matched ∧
      matched.Sublist walked ∧ ∀ path, path ∈ matched ↔ path ∈ walked ∧
        ".yaml".toList <:+ (directory.path.relativeTo path).toList := by
  obtain ⟨tokens, htokens⟩ := exists_tokens
  refine ⟨walked.filter fun file => Glob.Matches tokens (directory.path.relativeTo file), ?_,
    List.filter_sublist, fun path => ?_⟩
  · rw [Reader.matching, htokens, hwalk]
    rfl
  · rw [List.mem_filter, matches_filePattern_iff htokens]

private theorem glob_of_fault {fault : IoFault} (hwalk : tree.walk directory.path = .error fault) :
    Reader.glob tree directory filePattern = .error (.readFailure directory.path fault) := by
  obtain ⟨tokens, htokens⟩ := exists_tokens
  rw [Reader.glob, Reader.matching, htokens, hwalk]
  rfl

end Matching

section Listing

variable {tree : FileTree} {directory : Resource} {place : Place}
  {entries : List (String × Entry)} {routes : List (List String)}

private theorem pairwise_components {base : Path} (hdistinct : routes.Nodup)
    (hnames : ∀ names ∈ routes, ∀ name ∈ names, IsFileName name) :
    (routes.map base.below).Pairwise fun p q => p.components ≠ q.components := by
  rw [List.pairwise_map]
  refine hdistinct.imp_of_mem fun {names names'} hmem hmem' hne heq => hne ?_
  rw [Path.components_below base (hnames names hmem),
    Path.components_below base (hnames names' hmem')] at heq
  exact names_eq_of_components_eq heq

private theorem exists_lists (hnames : ∀ names ∈ routes, ∀ name ∈ names, IsFileName name)
    (hdistinct : routes.Nodup)
    (hroutes : ∀ names, names ∈ routes ↔ LeadsToFile tree (top directory place entries) names)
    (hwalk : tree.walk directory.path = .ok (routes.map directory.path.below)) :
    ∃ files, Reader.glob tree directory filePattern = .ok files ∧
      Lists tree (top directory place entries) files := by
  obtain ⟨matched, hmatching, hsublist, hmatched⟩ := exists_matching hwalk
  have hway : ∀ path, path ∈ matched ↔ ∃ names name,
      LeadsToFile tree (top directory place entries) (names ++ [name]) ∧
      ".yaml".toList <:+ name.toList ∧ path = directory.path.below (names ++ [name]) := by
    intro path
    rw [hmatched, List.mem_map]
    constructor
    · rintro ⟨⟨names, hroute, rfl⟩, hextension⟩
      rw [Path.relativeTo_below _ (hnames names hroute), extension_suffix_join_iff] at hextension
      obtain ⟨init, name, rfl, hname⟩ := hextension
      exact ⟨init, name, (hroutes _).mp hroute, hname, rfl⟩
    · rintro ⟨init, name, hleads, hname, rfl⟩
      have hroute := (hroutes _).mpr hleads
      refine ⟨⟨_, hroute, rfl⟩, ?_⟩
      rw [Path.relativeTo_below _ (hnames _ hroute), extension_suffix_join_iff]
      exact ⟨init, name, rfl, hname⟩
  refine ⟨(matched.mergeSort fun p q => p.compare q != .gt).map fun path => ⟨path.text, path⟩,
    ?_, ?_, ?_, ?_⟩
  · rw [Reader.glob, hmatching]
    rfl
  · intro file
    rw [List.mem_map]
    constructor
    · rintro ⟨path, hpath, rfl⟩
      obtain ⟨names, name, hleads, hname, hbelow⟩ := (hway path).mp (List.mem_mergeSort.mp hpath)
      exact ⟨names, name, hleads, hname, hbelow, rfl⟩
    · rintro ⟨names, name, hleads, hname, hbelow, hlocation⟩
      have hpath := (hway file.path).mpr ⟨names, name, hleads, hname, hbelow⟩
      refine ⟨file.path, List.mem_mergeSort.mpr hpath, ?_⟩
      rw [← hlocation]
  · exact List.pairwise_map.mpr
      (Path.pairwise_lt_mergeSort ((pairwise_components hdistinct hnames).sublist hsublist))
  · intro file hfile
    obtain ⟨path, hpath, rfl⟩ := List.mem_map.mp hfile
    obtain ⟨names, name, hleads, -, hbelow⟩ := (hway path).mp (List.mem_mergeSort.mp hpath)
    have hfileNames := hnames _ ((hroutes _).mpr hleads)
    rw [hbelow]
    exact Path.join_relativeTo_below directory.path (by simp) hfileNames

/-- The search in a directory finds exactly the files below it that have the extension, unless there
is an entry below it that strays; then it fails for the directory and tells of no file. What lies
below the directory is what the paths of names lead to from there, as far as they can be looked
up. -/
theorem find_lists_files_below (l : Loader) (htree : tree.WellNamed)
    (hdistinct : tree.DistinctNames)
    (hdirectory : l.reader.resolve tree l.config.benchmarksDir = .ok directory)
    (hplace : tree.resolve directory.path = .ok (place, .directory entries)) :
    (¬ HasBroken tree (top directory place entries) →
      ∃ files, (l.find tree).outcome = .ok ⟨directory, files⟩ ∧
        Lists tree (top directory place entries) files) ∧
    (HasBroken tree (top directory place entries) → ∀ t, (l.find tree).runFrom t =
      (.error (.readFailure directory.path walkFault),
        { t with log := t.log ++ ["Searching for benchmarks in " ++ l.config.benchmarksDir ++
          " ..."] })) ∧
    ∀ names, (∀ name ∈ names, IsFileName name ∧ name.utf8ByteSize ≤ maxNameBytes) →
      IsTold (directory.path.below names) →
      (LeadsToFile tree (top directory place entries) names ↔
        ∃ place text?, tree.resolve (directory.path.below names) = .ok (place, .file text?)) := by
  have hwalks : Walks tree (top directory place entries) (tree.walk directory.path) :=
    walks_walk hdistinct hplace
  refine ⟨fun hwhole => ?_, fun hbroken t => ?_, fun names hnames htold => ?_⟩
  · generalize hwalk : tree.walk directory.path = outcome at hwalks
    cases hwalks with
    | breaks hbroken => exact absurd hbroken hwhole
    | lists hnodup hroutes =>
      have hnames : ∀ names ∈ _, ∀ name ∈ names, IsFileName name := fun names hroute => by
        obtain ⟨t, -, hleads, -⟩ := (hroutes names).mp hroute
        exact hleads.wellNamed htree (htree.of_resolve hplace)
      obtain ⟨files, hglob, hlists⟩ := exists_lists hnames hnodup hroutes hwalk
      refine ⟨files, ?_, hlists⟩
      rw [(find_yields l tree).outcome_eq]
      exact bind_eq_ok_iff.mpr ⟨_, hdirectory, bind_eq_ok_iff.mpr ⟨_, hglob, rfl⟩⟩
  · have hglob := glob_of_fault (hwalks.eq_error_iff.mpr hbroken)
    have hnote : ∀ message, (Load.note message).runFrom t =
        (.ok (), { t with log := t.log ++ [message] }) := fun _ => rfl
    rw [find, Load.runFrom_bind_ok (hnote _), hdirectory,
      Load.runFrom_bind_ok (Load.runFrom_lift _ _), hglob]
    exact Load.runFrom_bind_error (Load.runFrom_lift _ _)
  · exact leadsToFile_iff_resolve (s := top directory place entries) htree hdistinct hplace hnames
      htold

end Listing

/-- What stands in a directory outside, with a link to a file and a socket. -/
def Sample.outside : List (String × Entry) :=
  [("x.yaml", .link "../b/a.yaml"), ("y", .file none), ("z.yaml", .socket)]

/-- What stands in the benchmarks directory: a hidden file in a directory with the extension, and a
link to the directory outside. -/
def Sample.inside : List (String × Entry) :=
  [("a.yaml", .file none), ("d.yaml", .directory [(".yaml", .file none)]), ("l", .link "../c")]

def Sample.linked : FileTree :=
  ⟨[("b", .directory Sample.inside), ("c", .directory Sample.outside)], []⟩

def Sample.circular : FileTree :=
  ⟨[("b", .directory Sample.inside), ("c", .directory (("z", .link "/b") :: Sample.outside))], []⟩

def Sample.linkedFiles : List Resource :=
  [⟨"/b/a.yaml", ⟨"/b/a.yaml"⟩⟩, ⟨"/b/d.yaml/.yaml", ⟨"/b/d.yaml/.yaml"⟩⟩,
    ⟨"/b/l/x.yaml", ⟨"/b/l/x.yaml"⟩⟩]

private theorem Sample.wellNamed_linked : Sample.linked.WellNamed ∧ Sample.circular.WellNamed := by
  simp only [WellNamed, Entry.AllWellNamed, Entry.WellNamed, Sample.linked, Sample.circular,
    Sample.inside, Sample.outside]
  decide

private theorem Sample.distinctNames_linked :
    Sample.linked.DistinctNames ∧ Sample.circular.DistinctNames := by
  simp only [DistinctNames, Entry.DistinctNames, Entry.AllDistinctNames, Sample.linked,
    Sample.circular, Sample.inside, Sample.outside]
  decide

private theorem Sample.find_linked : ((Sample.loader .offline).find Sample.linked).outcome =
    .ok ⟨Sample.directory, Sample.linkedFiles⟩ :=
  find_outcome_of_matching (by decide +kernel) (by decide +kernel) (by decide +kernel)
    (by decide +kernel)

/-- The files of the first tree are listed, one of them through two links; the second tree has a
link that leads back, and no file of it is. -/
theorem find_samples_list_files_below :
    Lists Sample.linked (top Sample.directory ["b"] Sample.inside) Sample.linkedFiles ∧
    ((Sample.loader .offline).find Sample.circular).outcome =
      .error (.readFailure ⟨"/b"⟩ walkFault) := by
  have hdirectory : (Sample.loader .offline).reader.resolve Sample.linked "/b" =
        .ok Sample.directory ∧
      (Sample.loader .offline).reader.resolve Sample.circular "/b" = .ok Sample.directory :=
    ⟨eq_ok_of_toOption (by decide +kernel), eq_ok_of_toOption (by decide +kernel)⟩
  have hplace : Sample.linked.resolve ⟨"/b"⟩ = .ok (["b"], .directory Sample.inside) ∧
      Sample.circular.resolve ⟨"/b"⟩ = .ok (["b"], .directory Sample.inside) := ⟨rfl, rfl⟩
  constructor
  · have hwhole : ¬ HasBroken Sample.linked (top Sample.directory ["b"] Sample.inside) := by
      have hwalks := walks_walk Sample.distinctNames_linked.1 hplace.1
      exact hwalks.eq_error_iff.not.mp (by decide +kernel)
    obtain ⟨files, hfind, hlists⟩ := (find_lists_files_below (Sample.loader .offline)
      Sample.wellNamed_linked.1 Sample.distinctNames_linked.1 hdirectory.1 hplace.1).1 hwhole
    rw [Sample.find_linked] at hfind
    cases hfind
    exact hlists
  · have hbroken : HasBroken Sample.circular (top Sample.directory ["b"] Sample.inside) := by
      have hwalks := walks_walk Sample.distinctNames_linked.2 hplace.2
      exact hwalks.eq_error_iff.mp (by decide +kernel)
    have hrun := (find_lists_files_below (Sample.loader .offline) Sample.wellNamed_linked.2
      Sample.distinctNames_linked.2 hdirectory.2 hplace.2).2.1 hbroken
    rw [Load.outcome, hrun]
    rfl

def Sample.longName : String := String.ofList (List.replicate 240 'd')

/-- Directories in each other, so many, and a file in the innermost one. -/
def Sample.nested : Nat → List (String × Entry)
  | 0 => [("x.yaml", .file none)]
  | depth + 1 => [(Sample.longName, .directory (Sample.nested depth))]

def Sample.deep : FileTree := ⟨[("b", .directory (Sample.nested 18))], []⟩

private theorem isFileName_replicate {n : Nat} (h : 0 < n) :
    IsFileName (String.ofList (List.replicate n 'd')) := by
  have hd : ∀ c ∈ (String.ofList (List.replicate n 'd')).toList, c = 'd' := by
    rw [String.toList_ofList]
    exact fun c hc => List.eq_of_mem_replicate hc
  refine ⟨fun hmem => ?_, fun hslash => absurd (hd _ hslash) (by decide)⟩
  simp only [List.mem_cons, List.not_mem_nil, or_false] at hmem
  rcases hmem with hname | hname | hname
  · rw [← String.toList_inj, String.toList_ofList, String.toList_empty,
      List.replicate_eq_nil_iff] at hname
    exact absurd hname (Nat.ne_of_gt h)
  · rw [hname] at hd
    exact absurd (hd '.' (by decide)) (by decide)
  · rw [hname] at hd
    exact absurd (hd '.' (by decide)) (by decide)

private theorem utf8ByteSize_replicate (n : Nat) :
    (String.ofList (List.replicate n 'd')).utf8ByteSize = n := by
  rw [utf8ByteSize_ofList]
  induction n with
  | zero => rfl
  | succ n ih =>
    rw [List.replicate_succ, utf8_cons, List.length_append, ih]
    exact Nat.add_comm 1 n

private theorem Sample.isFileName_longName : IsFileName Sample.longName :=
  isFileName_replicate (by decide)

private theorem Sample.wellNamed_nested (depth : Nat) :
    Entry.AllWellNamed (Sample.nested depth) := by
  induction depth with
  | zero => exact ⟨by decide, trivial, trivial⟩
  | succ depth ih => exact ⟨isFileName_longName, ih, trivial⟩

private theorem Sample.distinctNames_nested (depth : Nat) :
    (Entry.directory (Sample.nested depth)).DistinctNames := by
  induction depth with
  | zero => exact ⟨List.nodup_singleton _, trivial, trivial⟩
  | succ depth ih => exact ⟨List.nodup_singleton _, ih, trivial⟩

private theorem Sample.hasBroken_nested {tree : FileTree} {s : Stop} {depth : Nat}
    (hentry : s.entry = .directory (Sample.nested depth))
    (hshort : s.shown.text.utf8ByteSize ≤ maxPathBytes)
    (hlong : maxPathBytes < s.shown.text.utf8ByteSize + 240 * depth) : HasBroken tree s := by
  induction depth generalizing s with
  | zero => exact absurd hlong (Nat.not_lt_of_le hshort)
  | succ depth ih =>
    have hholds : Holds s longName (s.child longName (.directory (Sample.nested depth))) :=
      .intro hentry List.mem_cons_self
    have hsize : longName.utf8ByteSize = 240 := utf8ByteSize_replicate 240
    have hgrows := s.shown.utf8ByteSize_join_ge isFileName_longName
    refine hasBroken_iff.mpr ⟨longName, _, hholds, ?_⟩
    by_cases hchild : maxPathBytes < (s.shown.join longName).text.utf8ByteSize
    · exact .inl (.tooLong rfl hchild)
    · refine .inr ⟨_, .plain (Entry.isPlain_directory _), ih rfl (Nat.le_of_not_lt hchild) ?_⟩
      show maxPathBytes < (s.shown.join longName).text.utf8ByteSize + 240 * depth
      omega

/-- What there is among nested directories. -/
def Sample.IsNested (e : Entry) : Prop :=
  e = .file none ∨ ∃ depth, e = .directory (Sample.nested depth)

theorem Sample.IsNested.isPlain {e : Entry} (h : IsNested e) : e.IsPlain := by
  rcases h with rfl | ⟨depth, rfl⟩
  · exact Entry.isPlain_file none
  · exact Entry.isPlain_directory _

private theorem Sample.IsNested.of_holds {s r : Stop} {name : String} (h : IsNested s.entry)
    (hholds : Holds s name r) : IsNested r.entry := by
  obtain ⟨hdirectory, hentry⟩ := hholds
  rcases h with h | ⟨depth, h⟩
  · exact Entry.noConfusion (h.symm.trans hdirectory)
  · obtain rfl := Entry.directory.inj (h.symm.trans hdirectory)
    cases depth with
    | zero => exact .inl (Prod.mk.inj (List.mem_singleton.mp hentry)).2
    | succ depth => exact .inr ⟨depth, (Prod.mk.inj (List.mem_singleton.mp hentry)).2⟩

private theorem Sample.IsNested.of_leads {tree : FileTree} {s t : Stop} {names : List String}
    (h : IsNested s.entry) (hleads : Leads tree s names t) : IsNested t.entry := by
  induction hleads with
  | here => exact h
  | step hstep _ ih =>
    obtain ⟨r, hholds, hopens⟩ := hstep
    have hr := h.of_holds hholds
    cases hopens with
    | plain => exact ih hr
    | link hlink => exact absurd hlink (hr.isPlain _)

private theorem find_outcome_of_fault {l : Loader} {tree : FileTree} {directory : Resource}
    {fault : IoFault}
    (hdirectory : l.reader.resolve tree l.config.benchmarksDir = .ok directory)
    (hwalk : tree.walk directory.path = .error fault) :
    (l.find tree).outcome = .error (.readFailure directory.path fault) := by
  rw [(find_yields l tree).outcome_eq, discovery, hdirectory]
  show (Reader.glob tree directory filePattern).bind _ = _
  rw [glob_of_fault hwalk]
  rfl

def Sample.undecodable : RawPath := ⟨utf8 "/b/".toList ++ 0xFF :: utf8 ".yaml".toList⟩

/-- Two things a listing does not promise. Where no link strays, a directory may still have a path
that is too long for it to be opened; and a file whose name is no text is not found again by its
path relative to the directory. -/
theorem not_forall_find_lists_files :
    (¬ ∀ (l : Loader) (tree : FileTree) (directory : Resource) (place : Place)
      (entries : List (String × Entry)), tree.WellNamed → tree.DistinctNames →
      l.reader.resolve tree l.config.benchmarksDir = .ok directory →
      tree.resolve directory.path = .ok (place, .directory entries) →
      (∀ names s name r target, Leads tree (top directory place entries) names s →
        Holds s name r → r.entry = .link target → ¬ Strays tree r) →
      ∃ files, (l.find tree).outcome = .ok ⟨directory, files⟩ ∧
        Lists tree (top directory place entries) files) ∧
    (Sample.directory.path.join
      (Sample.directory.path.raw.relativeTo Sample.undecodable)).raw ≠ Sample.undecodable := by
  refine ⟨fun h => ?_, by decide +kernel⟩
  have hdirectory : (Sample.loader .offline).reader.resolve Sample.deep "/b" =
      .ok Sample.directory :=
    eq_ok_of_toOption (by decide +kernel)
  have hplace : Sample.deep.resolve ⟨"/b"⟩ = .ok (["b"], .directory (Sample.nested 18)) := rfl
  have hwellNamed : Sample.deep.WellNamed :=
    ⟨by decide, Sample.wellNamed_nested 18, trivial⟩
  have hdistinct : Sample.deep.DistinctNames :=
    ⟨List.nodup_singleton _, Sample.distinctNames_nested 18, trivial⟩
  have hnested : Sample.IsNested (.directory (Sample.nested 18)) := .inr ⟨18, rfl⟩
  obtain ⟨files, hfind, -⟩ := h (Sample.loader .offline) Sample.deep Sample.directory ["b"]
    (Sample.nested 18) hwellNamed hdistinct hdirectory hplace
    fun _ _ _ _ target hleads hholds hlink _ =>
      ((Sample.IsNested.of_leads hnested hleads).of_holds hholds).isPlain target hlink
  have hbroken : HasBroken Sample.deep (top Sample.directory ["b"] (Sample.nested 18)) :=
    Sample.hasBroken_nested rfl (by decide +kernel) (by decide +kernel)
  have hwalk := (walks_walk hdistinct hplace).eq_error_iff.mpr hbroken
  rw [find_outcome_of_fault hdirectory hwalk] at hfind
  cases hfind

end RunPlan.Loader
