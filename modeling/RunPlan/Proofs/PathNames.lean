import RunPlan.Path
import RunPlan.Proofs.Text.Shown
import RunPlan.Proofs.Text.Splitting
import Mathlib.Data.List.Basic

/-!
Paths below a directory, made by putting names behind each other. Main statements: the path below
the directory is written as the names with `/` between them, and a benchmark is named after them,
the last one without its extension unless nothing stands in front of it.
-/

set_option autoImplicit false

namespace RunPlan

open RunPlan.Text

/-- The names that entries of a directory can have. -/
def IsFileName (name : String) : Prop := name ∉ ["", ".", ".."] ∧ '/' ∉ name.toList

instance (name : String) : Decidable (IsFileName name) := inferInstanceAs (Decidable (_ ∧ _))

variable {name stem : String} {names : List String}

theorem IsFileName.toList_ne (h : IsFileName name) (other : String)
    (hother : other ∈ ["", ".", ".."]) : name.toList ≠ other.toList :=
  fun heq => h.1 (String.toList_inj.mp heq ▸ hother)

theorem IsFileName.toList_ne_nil (h : IsFileName name) : name.toList ≠ [] :=
  h.toList_ne "" (by decide)

theorem IsFileName.not_absolute (h : IsFileName name) : name.toList.head? ≠ some '/' :=
  fun hhead => h.2 (List.mem_of_mem_head? hhead)

private theorem IsFileName.append_not_absolute (h : IsFileName name) (rest : String) :
    (name ++ rest).toList.head? ≠ some '/' := by
  rw [String.toList_append, List.head?_append_of_ne_nil _ h.toList_ne_nil]
  exact h.not_absolute

theorem isFileName_concat (h : ∀ name ∈ names, IsFileName name) (hname : IsFileName name) :
    ∀ other ∈ names ++ [name], IsFileName other := by
  intro other hother
  rcases List.mem_append.mp hother with hother | hother
  · exact h other hother
  · rw [List.mem_singleton.mp hother]
    exact hname

private theorem IsFileName.ofPiece?_eq (h : IsFileName name) :
    Component.ofPiece? name.toList = some (.normal name.toList) := by
  rw [Component.ofPiece?]
  · exact h.toList_ne "" (by decide)
  · exact h.toList_ne "." (by decide)
  · exact h.toList_ne ".." (by decide)

namespace Path

private theorem components_mk (s : List Char) : (Path.mk (String.ofList s)).components =
    (if s.head? = some '/' then [.root]
      else if (split '/' s).head? = some ['.'] then [.current] else []) ++
    (split '/' s).filterMap Component.ofPiece? := by
  simp [components, isAbsolute]

private theorem components_append_slash (s t : List Char) :
    (Path.mk (String.ofList (s ++ '/' :: t))).components =
      (Path.mk (String.ofList (s ++ ['/']))).components ++
        (split '/' t).filterMap Component.ofPiece? := by
  have hhead : (s ++ '/' :: t).head? = (s ++ ['/']).head? := by cases s <;> rfl
  have hpieces : ∀ ps qs : List (List Char),
      (split '/' s ++ ps).head? = (split '/' s ++ qs).head? := by
    intro ps qs
    rw [List.head?_append_of_ne_nil _ (split_ne_nil '/' s),
      List.head?_append_of_ne_nil _ (split_ne_nil '/' s)]
  rw [components_mk, components_mk, split_append_cons, split_append_cons, hhead,
    hpieces (split '/' t) (split '/' []), List.filterMap_append, List.filterMap_append]
  simp [split, Component.ofPiece?]

private theorem components_append_slash_nil {s : List Char} (hne : s ≠ []) :
    (Path.mk (String.ofList (s ++ ['/']))).components = (Path.mk (String.ofList s)).components := by
  rw [components_mk, components_mk, split_append_cons, List.head?_append_of_ne_nil _ hne,
    List.head?_append_of_ne_nil _ (split_ne_nil '/' s), List.filterMap_append]
  simp [split, Component.ofPiece?]

private theorem filterMap_split_of_isFileName (h : IsFileName name) :
    (split '/' name.toList).filterMap Component.ofPiece? = [.normal name.toList] := by
  rw [split_of_notMem h.2]
  simp [h.ofPiece?_eq]

private theorem components_of_isFileName (h : IsFileName name) :
    (Path.mk name).components = [.normal name.toList] := by
  have hcurrent : name.toList ≠ ['.'] := h.toList_ne "." (by decide)
  have hmk := components_mk name.toList
  rw [String.ofList_toList, if_neg h.not_absolute, filterMap_split_of_isFileName h,
    split_of_notMem h.2] at hmk
  simpa [hcurrent] using hmk

theorem components_join (p : Path) (h : IsFileName name) :
    (p.join name).components = p.components ++ [.normal name.toList] := by
  obtain ⟨s, rfl⟩ : ∃ s, p = ⟨String.ofList s⟩ := ⟨p.text.toList, by rw [String.ofList_toList]⟩
  rw [join, if_neg h.not_absolute]
  have hofList : ∀ t : List Char, Path.mk (String.ofList t ++ name) =
      ⟨String.ofList (t ++ name.toList)⟩ := fun t => by
    rw [String.ofList_append, String.ofList_toList]
  have hslash : ∀ t : List Char, (Path.mk (String.ofList (t ++ '/' :: name.toList))).components =
      (Path.mk (String.ofList (t ++ ['/']))).components ++ [.normal name.toList] := fun t => by
    rw [components_append_slash, filterMap_split_of_isFileName h]
  rcases List.eq_nil_or_concat' s with rfl | ⟨t, last, rfl⟩
  · rw [if_pos (by simp)]
    have hempty : (Path.mk "").components = [] := by decide
    simpa [hempty] using components_of_isFileName h
  · by_cases hlast : last = '/'
    · subst hlast
      rw [if_pos (by simp), hofList, List.append_assoc, List.singleton_append, hslash]
    · rw [if_neg (by simpa using hlast), ← components_append_slash_nil (by simp), ← hslash]
      congr 2
      exact String.toList_inj.mp (by simp)

def below (base : Path) (names : List String) : Path := names.foldl join base

theorem components_below (base : Path) (h : ∀ name ∈ names, IsFileName name) :
    (base.below names).components =
      base.components ++ names.map fun name => .normal name.toList := by
  induction names generalizing base with
  | nil => simp [below]
  | cons name names ih =>
    obtain ⟨hname, hnames⟩ := List.forall_mem_cons.mp h
    rw [below, List.foldl_cons, ← below, ih _ hnames, components_join base hname]
    simp

private theorem filter_utf8 (pieces : List (List Char)) :
    (pieces.map utf8).filter (fun piece => piece ∉ [[], [0x2E]]) =
      (pieces.filterMap Component.ofPiece?).map fun c => utf8 c.chars := by
  induction pieces with
  | nil => rfl
  | cons piece pieces ih =>
    have hidle : utf8 piece ∈ [[], [0x2E]] ↔ piece = [] ∨ piece = ['.'] := by
      rw [List.mem_cons, List.mem_singleton]
      exact or_congr (utf8_inj (t := [])) (utf8_inj (t := ['.']))
    rw [List.map_cons]
    by_cases h : piece = [] ∨ piece = ['.']
    · have hpiece : Component.ofPiece? piece = none := by rcases h with rfl | rfl <;> rfl
      rw [List.filterMap_cons_none hpiece, List.filter_cons_of_neg, ih]
      simpa only [decide_eq_true_eq, not_not] using hidle.mpr h
    · have hpiece : ∃ c, Component.ofPiece? piece = some c ∧ c.chars = piece := by
        rw [not_or] at h
        by_cases hparent : piece = ['.', '.']
        · exact ⟨.parent, by rw [hparent]; rfl, hparent.symm⟩
        · exact ⟨.normal piece, Component.ofPiece?.eq_4 piece h.1 h.2 hparent, rfl⟩
      obtain ⟨c, hsome, rfl⟩ := hpiece
      rw [List.filterMap_cons_some hsome, List.filter_cons_of_pos, ih]
      · rfl
      · simpa only [decide_eq_true_eq] using hidle.not.mpr h

private theorem components_raw (p : Path) :
    p.raw.components = p.components.map fun c => utf8 c.chars := by
  have hsplit : split 0x2F p.raw.bytes = (split '/' p.text.toList).map utf8 :=
    split_utf8 (c := '/') (by decide) p.text.toList
  have habsolute : p.raw.bytes.head? = some 0x2F ↔ p.isAbsolute = true := by
    rw [isAbsolute, decide_eq_true_eq]
    exact head?_utf8_eq_iff (c := '/') (by decide) p.text.toList
  have hcurrent : ((split '/' p.text.toList).map utf8).head? = some [0x2E] ↔
      (split '/' p.text.toList).head? = some ['.'] := by
    rw [List.head?_map, Option.map_eq_some_iff]
    constructor
    · rintro ⟨piece, hpiece, hbytes⟩
      rw [hpiece, show piece = ['.'] from utf8_injective hbytes]
    · intro h
      exact ⟨_, h, rfl⟩
  rw [RawPath.components, components, hsplit, List.map_append, filter_utf8]
  simp only [habsolute, hcurrent]
  congr 1
  split_ifs <;> rfl

theorem relativeTo_below (base : Path) (h : ∀ name ∈ names, IsFileName name) :
    (base.relativeTo (base.below names)).toList = Text.join ['/'] (names.map String.toList) := by
  have hrest : base.raw.components.isPrefixOf? (base.below names).raw.components =
      some (names.map fun name => utf8 name.toList) := by
    rw [components_raw, components_raw, components_below base h, List.map_append]
    refine List.isPrefixOf?_eq_some_iff_append_eq.mpr ?_
    rw [List.map_map]
    rfl
  have hshown : (names.map fun name => utf8 name.toList).map shown = names := by
    rw [List.map_map]
    refine List.map_id'' (fun name => ?_) names
    rw [Function.comp_apply, shown_utf8, String.ofList_toList]
  rw [relativeTo, RawPath.relativeTo, hrest, Option.getD_some, hshown, String.toList_intercalate,
    join_eq_intercalate]
  rfl

theorem exists_join_eq (p : Path) :
    ∃ slash, ∀ q : String, q.toList.head? ≠ some '/' → p.join q = ⟨p.text ++ slash ++ q⟩ := by
  by_cases h : (p.text.isEmpty || p.text.toList.getLast? = some '/') = true
  · exact ⟨"", fun q hq => by rw [join, if_neg hq, if_pos h, String.append_empty]⟩
  · exact ⟨"/", fun q hq => by rw [join, if_neg hq, if_neg h]⟩

theorem utf8ByteSize_join_ge (p : Path) {name : String} (h : IsFileName name) :
    p.text.utf8ByteSize + name.utf8ByteSize ≤ (p.join name).text.utf8ByteSize := by
  obtain ⟨slash, hjoin⟩ := p.exists_join_eq
  rw [hjoin name h.not_absolute]
  simp only [String.utf8ByteSize_append]
  omega

private theorem join_append_slash (p : Path) (h : IsFileName name) {rest : String}
    (hrest : rest.toList.head? ≠ some '/') :
    p.join (name ++ "/" ++ rest) = (p.join name).join rest := by
  obtain ⟨slash, hjoin⟩ := p.exists_join_eq
  have hlong : (name ++ "/" ++ rest).toList.head? ≠ some '/' := by
    rw [String.append_assoc]
    exact h.append_not_absolute _
  have hends : (p.text ++ slash ++ name).toList.getLast? ≠ some '/' := by
    rw [String.toList_append, List.getLast?_append_of_ne_nil _ h.toList_ne_nil]
    exact fun hlast => h.2 (List.mem_of_getLast? hlast)
  have hne : p.text ++ slash ++ name ≠ "" := by
    intro hempty
    have hname := congrArg String.toList hempty
    rw [String.toList_append] at hname
    exact h.toList_ne_nil (List.append_eq_nil_iff.mp hname).2
  rw [hjoin _ hlong, hjoin _ h.not_absolute, ← String.append_assoc, ← String.append_assoc]
  generalize p.text ++ slash ++ name = text at hends hne
  rw [join, if_neg hrest, if_neg (by simp [hends, hne])]

/-- What a path below a directory is relative to it, put behind the directory, gives that path. -/
theorem join_relativeTo_below (base : Path) (hne : names ≠ [])
    (h : ∀ name ∈ names, IsFileName name) :
    base.join (base.relativeTo (base.below names)) = base.below names := by
  have htext : base.relativeTo (base.below names) = String.intercalate "/" names := by
    rw [← String.toList_inj, relativeTo_below base h, String.toList_intercalate,
      join_eq_intercalate]
    rfl
  rw [htext]
  clear htext
  induction names generalizing base with
  | nil => exact absurd rfl hne
  | cons name names ih =>
    obtain ⟨hname, hnames⟩ := List.forall_mem_cons.mp h
    cases names with
    | nil =>
      rw [String.intercalate_singleton]
      rfl
    | cons next names =>
      have hnext : IsFileName next := hnames next List.mem_cons_self
      have hrelative : (String.intercalate "/" (next :: names)).toList.head? ≠ some '/' := by
        cases names with
        | nil =>
          rw [String.intercalate_singleton]
          exact hnext.not_absolute
        | cons last names =>
          rw [String.intercalate_cons_cons, String.append_assoc]
          exact hnext.append_not_absolute _
      rw [String.intercalate_cons_cons, join_append_slash base hname hrelative,
        ih _ (List.cons_ne_nil _ _) hnames]
      rfl

end Path

/-- What a file is named after: its own name without the extension, if something stands in front of
it. -/
def label (stem : String) : String := if stem = "" then ".yaml" else stem

theorem label_eq_iff {stem stem' : String} : label stem = label stem' ↔
    stem = stem' ∨ (stem = "" ∧ stem' = ".yaml") ∨ (stem = ".yaml" ∧ stem' = "") := by
  have hne : ".yaml" ≠ "" := by decide
  grind [label]

private theorem ends_in_name_iff {ps : List (List Char)} {p : List Char} (h : '/' ∉ p) :
    (!(Text.join ['/'] (ps ++ [p])).isEmpty &&
      (Text.join ['/'] (ps ++ [p])).getLast? ≠ some '/') = true ↔ p ≠ [] := by
  have hlast : p ≠ [] → p.getLast? ≠ some '/' := fun _ hlast => h (List.mem_of_getLast? hlast)
  by_cases hps : ps = []
  · subst hps
    simpa [Text.join] using hlast
  · rw [join_concat hps]
    by_cases hp : p = []
    · simp [hp]
    · rw [List.getLast?_append_of_ne_nil _ hp]
      simpa [hp] using hlast hp

private theorem benchmarkName_below (base : Path) (h : ∀ name ∈ names, IsFileName name)
    (hfile : IsFileName (stem ++ ".yaml")) :
    benchmarkName base (base.below (names ++ [stem ++ ".yaml"])) =
      String.intercalate "/" (names ++ [label stem]) := by
  have hplain : '/' ∉ stem.toList := fun hmem => hfile.2 (by simp [hmem])
  have hextension : ".yaml".toList = '.' :: ['y', 'a', 'm', 'l'] := rfl
  have hwritten : ∀ last : String, (String.intercalate "/" (names ++ [last])).toList =
      Text.join ['/'] (names.map String.toList ++ [last.toList]) := by
    intro last
    simp [String.toList_intercalate, join_eq_intercalate]
  have hrelative := Path.relativeTo_below base (isFileName_concat h hfile)
  rw [List.map_append, List.map_singleton] at hrelative
  have hlast : '.' ∉ ['y', 'a', 'm', 'l'] := by decide
  have hcut := cutLast_append_cons hlast
    (Text.join ['/'] (names.map String.toList ++ [stem.toList]))
  rw [← hextension, ← join_concat_append, ← String.toList_append, ← hrelative] at hcut
  rw [benchmarkName, hcut, label, ← String.toList_inj, hwritten]
  dsimp only
  by_cases hstem : stem = ""
  · have hnone : ¬ stem.toList ≠ [] := by simp [hstem]
    rw [if_neg ((ends_in_name_iff hplain).not.mpr hnone), if_pos hstem, hrelative, hstem]
    simp
  · have hsome : stem.toList ≠ [] := by simpa using hstem
    rw [if_pos ((ends_in_name_iff hplain).mpr hsome), if_neg hstem, String.toList_ofList]

/-- Files have the same name exactly if they lie in the same directory and have the same label. -/
theorem benchmarkName_below_eq_iff {names' : List String} {stem' : String} (base : Path)
    (h : ∀ name ∈ names, IsFileName name) (hfile : IsFileName (stem ++ ".yaml"))
    (h' : ∀ name ∈ names', IsFileName name) (hfile' : IsFileName (stem' ++ ".yaml")) :
    benchmarkName base (base.below (names ++ [stem ++ ".yaml"])) =
      benchmarkName base (base.below (names' ++ [stem' ++ ".yaml"])) ↔
    names = names' ∧ label stem = label stem' := by
  have hpieces : ∀ {names : List String} {stem : String}, (∀ name ∈ names, IsFileName name) →
      IsFileName (stem ++ ".yaml") →
      ∀ piece ∈ (names ++ [label stem]).map String.toList, piece ≠ [] ∧ '/' ∉ piece := by
    intro names stem h hfile piece hpiece
    obtain ⟨name, hname, rfl⟩ := List.mem_map.mp hpiece
    rcases List.mem_append.mp hname with hname | hname
    · exact ⟨(h name hname).toList_ne_nil, (h name hname).2⟩
    · rw [List.mem_singleton.mp hname, label]
      split
      · decide
      · rename_i hstem
        exact ⟨by simpa using hstem, fun hmem => hfile.2 (by simp [hmem])⟩
  rw [benchmarkName_below base h hfile, benchmarkName_below base h' hfile']
  constructor
  · intro heq
    have htext := congrArg String.toList heq
    rw [String.toList_intercalate, String.toList_intercalate,
      show "/".toList = ['/'] from rfl, ← join_eq_intercalate, ← join_eq_intercalate] at htext
    have hlists := join_injective (hpieces h hfile) (hpieces h' hfile') htext
    have hnames := List.map_injective_iff.mpr (fun _ _ => String.toList_inj.mp) hlists
    exact List.append_singleton_inj.mp hnames
  · rintro ⟨rfl, hlabel⟩
    rw [hlabel]

end RunPlan
