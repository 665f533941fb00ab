import RunPlan.Proofs.FileTree.Names
import RunPlan.Proofs.FirstFailure
import RunPlan.Proofs.Glob

/-!
The names of benchmark files. Main statement: different files that are found have different names,
except that in one directory a file that has nothing but an extension and the one that has it twice
share the name of the former.
-/

set_option autoImplicit false

namespace RunPlan.Loader

open RunPlan.Text

variable {l : Loader} {tree : FileTree} {d : Discovery} {f g : Resource}

/-- In one directory, one file has nothing but the extension, and the other one has it twice. -/
def Twins (f g : Resource) : Prop :=
  ∃ directory : Path, f.path = directory.join ".yaml" ∧ g.path = directory.join ".yaml.yaml"

/-- A file of the directory that names lead to, with a stem in front of its extension. -/
structure IsAt (base : Path) (names : List String) (stem : String) (f : Resource) : Prop where
  directories : ∀ name ∈ names, IsFileName name
  file : IsFileName (stem ++ ".yaml")
  path : f.path = base.below (names ++ [stem ++ ".yaml"])
  location : f.location = f.path.text

theorem matches_filePattern_iff {tokens : List Glob.Token}
    (htokens : Glob.parse filePattern = .ok tokens) {path : String} :
    Glob.Matches tokens path = true ↔ ".yaml".toList <:+ path.toList := by
  have hparse : Glob.parse filePattern =
      .ok (.anyDirectories :: .anySequence :: ".yaml".toList.map .char) := by
    decide +kernel
  rw [hparse] at htokens
  cases htokens
  exact Glob.matchesChars_extension_iff (by decide)

theorem exists_stem {names : List String}
    (h : ".yaml".toList <:+ Text.join ['/'] (names.map String.toList)) :
    ∃ init stem, names = init ++ [stem ++ ".yaml"] := by
  rcases List.eq_nil_or_concat' names with rfl | ⟨init, last, rfl⟩
  · exact absurd (List.suffix_nil.mp h) (by decide)
  · obtain ⟨stem, hstem⟩ : ".yaml".toList <:+ last.toList := by
      rw [List.map_append, List.map_singleton] at h
      by_cases hinit : init.map String.toList = []
      · rwa [hinit] at h
      · rw [join_concat hinit, List.append_assoc] at h
        exact suffix_of_suffix_append_cons (by decide) h
    refine ⟨init, String.ofList stem, ?_⟩
    rw [← String.ofList_toList (s := last), ← hstem, String.ofList_append, String.ofList_toList]

private theorem exists_walked_of_find (hfind : (l.find tree).outcome = .ok d) (hf : f ∈ d.files) :
    ∃ walked, tree.walk d.directory.path = .ok walked ∧ f.path ∈ walked ∧
      ".yaml".toList <:+ (d.directory.path.relativeTo f.path).toList ∧
      f.location = f.path.text := by
  obtain ⟨paths, hpaths, hfiles⟩ := exists_matching_of_find hfind
  rw [hfiles] at hf
  obtain ⟨path, hpath, rfl⟩ := List.mem_map.mp hf
  obtain ⟨tokens, htokens, h⟩ := bind_eq_ok_iff.mp hpaths
  obtain ⟨walked, hwalked, h⟩ := bind_eq_ok_iff.mp h
  cases h
  obtain ⟨hmem, hmatches⟩ := List.mem_filter.mp (List.mem_mergeSort.mp hpath)
  have hextension := (matches_filePattern_iff (mapError_eq_ok_iff.mp htokens)).mp hmatches
  exact ⟨walked, mapError_eq_ok_iff.mp hwalked, hmem, hextension, rfl⟩

private theorem exists_isAt (htree : tree.WellNamed) (hfind : (l.find tree).outcome = .ok d)
    (hf : f ∈ d.files) : ∃ names stem, IsAt d.directory.path names stem f := by
  obtain ⟨walked, hwalked, hmem, hextension, hlocation⟩ := exists_walked_of_find hfind hf
  obtain ⟨names, hnames, hpath⟩ := FileTree.walk_below htree hwalked f.path hmem
  rw [hpath, Path.relativeTo_below _ hnames] at hextension
  obtain ⟨init, stem, rfl⟩ := exists_stem hextension
  have hinit : ∀ name ∈ init, IsFileName name := by
    intro name hname
    exact hnames name (List.mem_append_left _ hname)
  have hfile : IsFileName (stem ++ ".yaml") := hnames _ (by simp)
  exact ⟨init, stem, hinit, hfile, hpath, hlocation⟩

section Pairs

variable {base : Path} {names names' : List String} {stem stem' : String}

theorem IsAt.components (hf : IsAt base names stem f) : f.path.components =
    base.components ++ names.map (fun name => .normal name.toList) ++
      [.normal (stem ++ ".yaml").toList] := by
  rw [hf.path, Path.components_below base (isFileName_concat hf.directories hf.file)]
  simp

theorem names_eq_of_components_eq
    (h : base.components ++ names.map (fun name => Component.normal name.toList) =
      base.components ++ names'.map fun name => Component.normal name.toList) : names = names' := by
  refine List.map_injective_iff.mpr ?_ (List.append_cancel_left h)
  exact fun name name' h => String.toList_inj.mp (Component.normal.inj h)

private theorem stem_eq_of_component_eq
    (h : Component.normal (stem ++ ".yaml").toList = .normal (stem' ++ ".yaml").toList) :
    stem = stem' := by
  have htext := Component.normal.inj h
  rw [String.toList_append, String.toList_append] at htext
  exact String.toList_inj.mp (List.append_cancel_right htext)

theorem IsAt.eq_iff (hf : IsAt base names stem f) (hg : IsAt base names' stem' g) :
    f = g ↔ names = names' ∧ stem = stem' := by
  constructor
  · rintro rfl
    obtain ⟨hnames, hstem⟩ := List.append_singleton_inj.mp (hf.components.symm.trans hg.components)
    exact ⟨names_eq_of_components_eq hnames, stem_eq_of_component_eq hstem⟩
  · rintro ⟨rfl, rfl⟩
    obtain ⟨location, path⟩ := f
    obtain ⟨location', path'⟩ := g
    obtain rfl : path = path' := hf.path.trans hg.path.symm
    obtain rfl : location = location' := hf.location.trans hg.location.symm
    rfl

private theorem IsAt.twins_iff (hf : IsAt base names stem f) (hg : IsAt base names' stem' g) :
    Twins f g ↔ names = names' ∧ stem = "" ∧ stem' = ".yaml" := by
  constructor
  · rintro ⟨directory, hpath, hpath'⟩
    have hf' := hf.components
    have hg' := hg.components
    rw [hpath, Path.components_join directory (by decide)] at hf'
    rw [hpath', Path.components_join directory (by decide)] at hg'
    obtain ⟨hnames, hstem⟩ := List.append_singleton_inj.mp hf'
    obtain ⟨hnames', hstem'⟩ := List.append_singleton_inj.mp hg'
    have hnone : "" = stem := stem_eq_of_component_eq hstem
    have htwice : ".yaml" = stem' := stem_eq_of_component_eq hstem'
    exact ⟨names_eq_of_components_eq (hnames.symm.trans hnames'), hnone.symm, htwice.symm⟩
  · rintro ⟨rfl, rfl, rfl⟩
    refine ⟨base.below names, ?_, ?_⟩
    · rw [hf.path, Path.below, List.foldl_concat]
      rfl
    · rw [hg.path, Path.below, List.foldl_concat]
      rfl

end Pairs

/-- Among the files that are found in a tree, two have the same name exactly if they are the same
file or twins. -/
theorem nameOf_eq_iff_of_find (l : Loader) {tree : FileTree} (htree : tree.WellNamed)
    {d : Discovery} (hfind : (l.find tree).outcome = .ok d) {f g : Resource} (hf : f ∈ d.files)
    (hg : g ∈ d.files) :
    nameOf d.directory f = nameOf d.directory g ↔ f = g ∨ Twins f g ∨ Twins g f := by
  obtain ⟨names, stem, hf⟩ := exists_isAt htree hfind hf
  obtain ⟨names', stem', hg⟩ := exists_isAt htree hfind hg
  rw [nameOf, nameOf, hf.path, hg.path, benchmarkName_below_eq_iff _ hf.directories hf.file
    hg.directories hg.file, label_eq_iff, hf.eq_iff hg, hf.twins_iff hg, hg.twins_iff hf]
  constructor
  · rintro ⟨rfl, rfl | ⟨rfl, rfl⟩ | ⟨rfl, rfl⟩⟩
    · exact Or.inl ⟨rfl, rfl⟩
    · exact Or.inr (Or.inl ⟨rfl, rfl, rfl⟩)
    · exact Or.inr (Or.inr ⟨rfl, rfl, rfl⟩)
  · rintro (⟨rfl, rfl⟩ | ⟨rfl, rfl, rfl⟩ | ⟨rfl, rfl, rfl⟩)
    · exact ⟨rfl, Or.inl rfl⟩
    · exact ⟨rfl, Or.inr (Or.inl ⟨rfl, rfl⟩)⟩
    · exact ⟨rfl, Or.inr (Or.inr ⟨rfl, rfl⟩)⟩

/-- A tree with a pair of twins and a file with a name of its own. -/
def Sample.twins : FileTree :=
  ⟨[("b", .directory [(".yaml", .file none), (".yaml.yaml", .file none), ("a.yaml", .file none)])],
    []⟩

def Sample.twinFiles : List Resource :=
  [⟨"/b/.yaml", ⟨"/b/.yaml"⟩⟩, ⟨"/b/.yaml.yaml", ⟨"/b/.yaml.yaml"⟩⟩, ⟨"/b/a.yaml", ⟨"/b/a.yaml"⟩⟩]

private theorem Sample.wellNamed_twins : Sample.twins.WellNamed :=
  ⟨by decide, ⟨by decide, trivial, by decide, trivial, by decide, trivial, trivial⟩, trivial⟩

private theorem Sample.find_twins : ((Sample.loader .offline).find Sample.twins).outcome =
    .ok ⟨Sample.directory, Sample.twinFiles⟩ :=
  find_outcome_of_matching (by decide +kernel) (by decide +kernel) (by decide +kernel)
    (by decide +kernel)

theorem nameOf_sample_twins :
    Sample.twins.WellNamed ∧
    ((Sample.loader .offline).find Sample.twins).outcome =
      .ok ⟨Sample.directory, Sample.twinFiles⟩ ∧
    nameOf Sample.directory ⟨"/b/.yaml", ⟨"/b/.yaml"⟩⟩ =
      nameOf Sample.directory ⟨"/b/.yaml.yaml", ⟨"/b/.yaml.yaml"⟩⟩ ∧
    ¬ (Twins ⟨"/b/.yaml", ⟨"/b/.yaml"⟩⟩ ⟨"/b/a.yaml", ⟨"/b/a.yaml"⟩⟩ ∨
      Twins ⟨"/b/a.yaml", ⟨"/b/a.yaml"⟩⟩ ⟨"/b/.yaml", ⟨"/b/.yaml"⟩⟩) := by
  have hiff := fun {f g : Resource} => nameOf_eq_iff_of_find (Sample.loader .offline)
    Sample.wellNamed_twins Sample.find_twins (f := f) (g := g)
  refine ⟨Sample.wellNamed_twins, Sample.find_twins, ?_, fun h => ?_⟩
  · exact (hiff (by decide) (by decide)).mpr
      (Or.inr (Or.inl ⟨⟨"/b"⟩, by decide +kernel, by decide +kernel⟩))
  · have hsame := (hiff (by decide) (by decide)).mpr (Or.inr h)
    exact absurd hsame (by decide +kernel)

/-- Different files of a well-named tree can have the same name. -/
theorem not_forall_eq_of_nameOf_eq :
    ¬ ∀ (l : Loader) (tree : FileTree) (d : Discovery), tree.WellNamed →
      (l.find tree).outcome = .ok d → ∀ f ∈ d.files, ∀ g ∈ d.files,
      nameOf d.directory f = nameOf d.directory g → f = g := by
  intro hall
  have hsame := hall _ _ _ Sample.wellNamed_twins Sample.find_twins
    ⟨"/b/.yaml", ⟨"/b/.yaml"⟩⟩ (by decide) ⟨"/b/.yaml.yaml", ⟨"/b/.yaml.yaml"⟩⟩ (by decide)
    (by decide +kernel)
  exact absurd hsame (by decide)

end RunPlan.Loader
