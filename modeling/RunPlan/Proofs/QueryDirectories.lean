import RunPlan.QuerySource
import RunPlan.Proofs.FileLocations
import RunPlan.Proofs.FileTree.Alone
import RunPlan.Proofs.Outcome
import RunPlan.Proofs.PathNames
import RunPlan.Proofs.Url.LastSegment

/-!
Query directories named by a path and by a URL. Main statement: both give the same queries, or
neither gives any, as long as a URL keeps the names; and of the names of files each that a URL does
not keep is told apart by some tree.
-/

set_option autoImplicit false

namespace RunPlan.QuerySource

open RunPlan.Text RunPlan.Url

variable {reader : Reader} {tree : FileTree} {d name : String} {c : Char}
  {s t : List Char}

/-- The letters, digits and marks of directory names; letters may lie outside ASCII. -/
def IsWordChar (c : Char) : Prop := c.isAlphanum = true ∨ c = '-' ∨ c = '_' ∨ 0x80 ≤ c.toNat

instance (c : Char) : Decidable (IsWordChar c) := inferInstanceAs (Decidable (_ ∨ _))

/-- The path of a directory: words behind single slashes. -/
structure IsDirectoryText (d : String) : Prop where
  absolute : d.toList.head? = some '/'
  plain : ∀ c ∈ d.toList, c = '/' ∨ IsWordChar c
  single : ¬ ['/', '/'] <:+: d.toList

/-- A name that means the same behind the URL of a directory and behind its path. -/
structure IsUrlName (d name : String) : Prop where
  kept : IsKeptText name.toList
  fits : ['.'] ∈ split '/' name.toList → (locationOf d name).utf8ByteSize ≤ FileTree.maxPathBytes
  below_root : d = "/" → name.toList.head? ≠ some '/' ∧
    ∀ a, (split '/' name.toList).find? (· ≠ ['.']) = some [a, '|'] → a.isAlpha = false

section Directories

def trimmed (d : String) : List Char := d.toList.rdropWhile (· = '/')

private theorem toList_locationOf (d name : String) :
    (locationOf d name).toList = trimmed d ++ '/' :: name.toList := by
  simp [locationOf, trimmed, List.rdropWhile]

private theorem trimmed_file (d : String) :
    trimmed ("file:" ++ d) = "file:".toList ++ trimmed d := by
  rw [trimmed, String.toList_append]
  exact rdropWhile_append_cons (by decide) "file".toList d.toList

private theorem IsDirectoryText.trimmed_cases (h : IsDirectoryText d) :
    (d = "/" ∧ trimmed d = []) ∨ ∃ t, trimmed d = '/' :: t ∧ t ≠ [] ∧ t.head? ≠ some '/' ∧
      ∀ c ∈ t, c = '/' ∨ IsWordChar c := by
  have hprefix : trimmed d <+: d.toList := List.rdropWhile_prefix _ _
  obtain ⟨r, hr⟩ := List.head?_eq_some_iff.mp h.absolute
  rw [hr] at hprefix
  cases htrimmed : trimmed d with
  | nil =>
    refine .inl ⟨?_, rfl⟩
    have hall := List.rdropWhile_eq_nil_iff.mp htrimmed
    rw [hr] at hall
    have hnil : r = [] := by
      cases r with
      | nil => rfl
      | cons c r =>
        obtain rfl : c = '/' := by simpa using hall c (by simp)
        exact absurd ⟨[], r, hr.symm⟩ h.single
    rw [← String.toList_inj, hr, hnil]
    rfl
  | cons c t =>
    rw [htrimmed] at hprefix
    obtain ⟨rest, hrest⟩ := hprefix
    obtain ⟨rfl, hrest⟩ := List.cons.inj hrest
    refine .inr ⟨t, rfl, ?_, ?_, fun c hc => h.plain c ?_⟩
    · rintro rfl
      have hlast : ∀ hne : trimmed d ≠ [], ¬ (trimmed d).getLast hne = '/' :=
        fun hne hslash => List.rdropWhile_last_not _ d.toList hne (decide_eq_true hslash)
      rw [htrimmed] at hlast
      exact hlast (List.cons_ne_nil _ _) rfl
    · intro hhead
      obtain ⟨t', rfl⟩ := List.head?_eq_some_iff.mp hhead
      exact h.single ⟨[], t' ++ rest, by rw [hr, ← hrest]; rfl⟩
    · rw [hr, ← hrest]
      exact List.mem_cons_of_mem _ (List.mem_append_left _ hc)

def behindSlash (d name : String) : List Char :=
  if d = "/" then name.toList else (trimmed d).tail ++ '/' :: name.toList

private theorem locationOf_eq (h : IsDirectoryText d) (name : String) :
    locationOf d name = String.ofList ('/' :: behindSlash d name) := by
  rw [← String.ofList_toList (s := locationOf d name), toList_locationOf, behindSlash]
  rcases h.trimmed_cases with ⟨rfl, htrimmed⟩ | ⟨t, htrimmed, -⟩
  · rw [htrimmed, if_pos rfl]
    rfl
  · have hne : d ≠ "/" := by
      rintro rfl
      cases htrimmed
    rw [htrimmed, if_neg hne]
    rfl

private theorem locationOf_file_eq (h : IsDirectoryText d) (name : String) :
    locationOf ("file:" ++ d) name =
      String.ofList ("file:".toList ++ '/' :: behindSlash d name) := by
  have hplain := congrArg String.toList (locationOf_eq h name)
  rw [toList_locationOf, String.toList_ofList] at hplain
  rw [← String.ofList_toList (s := locationOf _ name), toList_locationOf, trimmed_file,
    List.append_assoc, hplain]

end Directories

private theorem parse_locationOf (hd : IsDirectoryText d) :
    Location.parse (locationOf d name) = .ok (.file ⟨locationOf d name⟩) := by
  rw [locationOf_eq hd]
  exact Location.parse_path _

section Names

private theorem notMem_marks (h : c = '/' ∨ IsWordChar c) :
    c ∉ ['?', '#', '\\', '\t', '\n', '\r'] := by
  intro hmem
  simp only [List.mem_cons, List.not_mem_nil, or_false] at hmem
  rcases hmem with rfl | rfl | rfl | rfl | rfl | rfl <;> exact absurd h (by decide)

private theorem isKeptText_behind (h : IsKeptText s) (hwords : ∀ c ∈ t, c = '/' ∨ IsWordChar c) :
    IsKeptText (t ++ '/' :: s) := by
  have hplain : ∀ c ∈ t ++ ['/'], c = '/' ∨ IsWordChar c := by
    intro c hc
    rcases List.mem_append.mp hc with hc | hc
    · exact hwords c hc
    · exact .inl (List.mem_singleton.mp hc)
  have hne : ∀ c ∈ t ++ ['/'], ∀ d, d ≠ '/' → ¬ IsWordChar d → c ≠ d := by
    rintro c hc d hslash hword rfl
    exact (hplain c hc).elim hslash hword
  rw [← List.singleton_append, ← List.append_assoc]
  refine ⟨?_, ?_, ?_, ?_, ?_⟩
  · intro c hc
    rcases List.mem_append.mp hc with hc | hc
    · exact notMem_marks (hplain c hc)
    · exact h.no_mark c hc
  · intro c hc
    by_cases hs : s = []
    · rw [hs, List.append_nil, List.getLast?_concat] at hc
      obtain rfl := Option.some.inj hc
      decide
    · rw [List.getLast?_append_of_ne_nil _ hs] at hc
      exact h.end_shown c hc
  · intro hescape
    refine h.no_escape (hescape.of_append fun hmem => ?_)
    exact hne '%' hmem '%' (by decide) (by decide) rfl
  · rw [List.append_assoc, List.singleton_append, split_append_cons, List.mem_append, not_or]
    refine ⟨fun hmem => ?_, h.no_step⟩
    have hpoint := (infix_of_mem_split hmem).subset List.mem_cons_self
    exact hne '.' (List.mem_append_left _ hpoint) '.' (by decide) (by decide) rfl
  · rintro ⟨front, a, c, hends, ha, hc⟩
    rw [List.append_assoc, List.singleton_append] at hends
    obtain ⟨front', hfront⟩ := suffix_of_suffix_append_cons (slash_notMem_drive ha hc)
      ⟨front, hends.symm⟩
    exact h.no_drive ⟨front', a, c, hfront.symm, ha, hc⟩

private theorem IsUrlName.isKeptText (h : IsUrlName d name) (hd : IsDirectoryText d) :
    IsKeptText (behindSlash d name) ∧ (behindSlash d name).head? ≠ some '/' ∧
      (∀ a, (split '/' (behindSlash d name)).find? (· ≠ ['.']) = some [a, '|'] →
        a.isAlpha = false) ∧
      (['.'] ∈ split '/' (behindSlash d name) → ['.'] ∈ split '/' name.toList) := by
  rw [behindSlash]
  split
  · next hroot =>
    obtain ⟨hslash, hdrive⟩ := h.below_root hroot
    exact ⟨h.kept, hslash, hdrive, id⟩
  · next hroot =>
    obtain ⟨t, htrimmed, hne, hslash, hwords⟩ :=
      hd.trimmed_cases.resolve_left fun hcase => hroot hcase.1
    have hpiece : ∀ p ∈ split '/' t, ∀ c ∈ p, IsWordChar c := by
      intro p hp c hc
      refine (hwords c ((infix_of_mem_split hp).subset hc)).resolve_left ?_
      rintro rfl
      exact not_mem_of_mem_split hp hc
    have hpoint : ∀ p ∈ split '/' t, p ≠ ['.'] := by
      rintro _ hp rfl
      exact absurd (hpiece _ hp '.' List.mem_cons_self) (by decide)
    rw [htrimmed, List.tail_cons]
    refine ⟨isKeptText_behind h.kept hwords, ?_, fun a ha => ?_, fun hdot => ?_⟩
    · rw [List.head?_append_of_ne_nil _ hne]
      exact hslash
    · obtain ⟨p, ps, hps⟩ := List.exists_cons_of_ne_nil (split_ne_nil '/' t)
      have hp : p ∈ split '/' t := hps ▸ List.mem_cons_self
      rw [split_append_cons, hps, List.cons_append,
        List.find?_cons_of_pos (by simpa using hpoint p hp)] at ha
      rw [Option.some.inj ha] at hp
      exact absurd (hpiece _ hp '|' (by simp)) (by decide)
    · rw [split_append_cons, List.mem_append] at hdot
      exact hdot.resolve_left fun hmem => hpoint _ hmem rfl

private theorem isUrlName_of_isFileName (hroot : d ≠ "/") (hname : IsFileName name)
    (h : IsKeptText name.toList) : IsUrlName d name := by
  refine ⟨h, fun hdot => ?_, fun hd => absurd hd hroot⟩
  rw [split_of_notMem hname.2, List.mem_singleton] at hdot
  exact absurd hdot.symm (hname.toList_ne "." (by decide))

end Names

section Queries

/-- A query is what its file says, or the file cannot be read. -/
theorem toOption_query {p : Path} (h : Location.parse (locationOf d name) = .ok (.file p)) :
    (query reader d tree name).toOption =
      (tree.readText p).toOption.map (QueryFile.read ((Path.mk name).stem?.getD name)) := by
  have hresolve : reader.resolve tree (locationOf d name) =
      if tree.exists? p then .ok ⟨locationOf d name, p⟩
      else .error (.locationNotFound (locationOf d name) .missing) := by
    rw [Reader.resolve, h]
    by_cases hexists : tree.exists? p = true
    · simp [Reader.find?, hexists, bind, Except.bind, pure, Except.pure]
    · simp [Reader.find?, hexists, bind, Except.bind]
  rw [query, hresolve]
  cases hp : tree.resolve p with
  | ok found =>
    have hexists : tree.exists? p = true := by rw [FileTree.exists?, hp]
    rw [if_pos hexists]
    refine (toOption_bind (Resource.readText tree ⟨locationOf d name, p⟩) _).trans ?_
    rw [Resource.readText, toOption_mapError]
    cases tree.readText p <;> rfl
  | error fault =>
    have hexists : tree.exists? p = false := by rw [FileTree.exists?, hp]
    rw [hexists, FileTree.readText, hp]
    rfl

private theorem toOption_query_file (hd : IsDirectoryText d) (hname : IsUrlName d name) :
    (query reader ("file:" ++ d) tree name).toOption = (query reader d tree name).toOption := by
  obtain ⟨hkept, hslash, hdrive, hdot⟩ := hname.isKeptText hd
  have hurl := Location.parse_url hkept hslash hdrive
  have hpath := Location.parse_path (behindSlash d name)
  rw [← locationOf_file_eq hd] at hurl
  rw [← locationOf_eq hd] at hpath
  have hfits := fun hmem => hname.fits (hdot hmem)
  rw [locationOf_eq hd] at hfits
  rw [toOption_query hurl, toOption_query hpath, toOption_readText_segmentsOf hslash hfits]
  rw [locationOf_eq hd]

private theorem exists_find?_of_query (h : (query reader d tree name).toOption ≠ none) :
    ∃ place p, Location.parse (locationOf d name) = .ok place ∧
      reader.find? tree place = some p := by
  rw [query, toOption_bind] at h
  cases hresolve : reader.resolve tree (locationOf d name) with
  | error e =>
    rw [hresolve] at h
    exact absurd rfl h
  | ok r =>
    rw [Reader.resolve] at hresolve
    obtain ⟨place, hplace, hfound⟩ := bind_eq_ok_iff.mp hresolve
    split at hfound
    · next p hp => exact ⟨place, p, hplace, hp⟩
    · cases hfound

private theorem exists_of_query_file (hd : IsDirectoryText d)
    (h : (query reader ("file:" ++ d) tree name).toOption ≠ none) :
    ∃ p url text, Url.parse (locationOf ("file:" ++ d) name) = .ok url ∧
      url.filePath? = some (utf8 p.text.toList) ∧ tree.readText p = .ok text := by
  obtain ⟨place, found, hplace, hfound⟩ := exists_find?_of_query h
  have hurl := Location.parse_eq_ofUrl (behindSlash d name)
  rw [← locationOf_file_eq hd, hplace] at hurl
  rcases Location.ofUrl_cases hurl.symm with ⟨p, url, rfl, hread, hpath⟩ | ⟨shown, rfl⟩
  · rw [toOption_query hplace] at h
    cases htext : tree.readText p with
    | error fault =>
      rw [htext] at h
      exact absurd rfl h
    | ok text => exact ⟨p, url, text, hread, hpath, htext⟩
  · cases hfound

private theorem behindSlash_eq (hd : IsDirectoryText d) (hroot : d ≠ "/") :
    ∃ t, (∀ name, behindSlash d name = t ++ '/' :: name.toList) ∧ t ≠ [] ∧ t.head? ≠ some '/' ∧
      ∀ c ∈ t, c = '/' ∨ IsWordChar c := by
  obtain ⟨t, htrimmed, ht⟩ := hd.trimmed_cases.resolve_left fun hcase => hroot hcase.1
  refine ⟨t, fun name => ?_, ht⟩
  rw [behindSlash, if_neg hroot, htrimmed, List.tail_cons]

private theorem pieces_of_query (hd : IsDirectoryText d)
    (h : (query reader d tree name).toOption ≠ none) : FileTree.IsTold ⟨locationOf d name⟩ ∧
      ∀ p ∈ split '/' (locationOf d name).toList,
        p = [] ∨ p = ['.'] ∨ p = ['.', '.'] ∨ FileTree.IsLooked (String.ofList p) := by
  have hread : (tree.readText ⟨locationOf d name⟩).toOption ≠ none := by
    intro hnone
    rw [toOption_query (parse_locationOf hd), hnone] at h
    exact h rfl
  obtain ⟨text, htext⟩ := exists_eq_ok_of_isSome (Option.isSome_iff_ne_none.mpr hread)
  obtain ⟨place, hresolve⟩ := FileTree.readText_eq_ok_iff.mp htext
  obtain ⟨htold, ⟨links, hfollows⟩, -⟩ := FileTree.resolve_eq_ok_iff.mp hresolve
  exact ⟨htold, hfollows.pieces_cases⟩

private theorem exists_split_of_query (hd : IsDirectoryText d) (hroot : d ≠ "/")
    (hname : IsFileName name)
    (h : (query reader d tree name).toOption ≠ none) :
    ∃ dirs, split '/' (locationOf d name).toList = dirs ++ [name.toList] ∧
      (∀ p ∈ dirs, p = [] ∨ FileTree.IsLooked (String.ofList p)) ∧ FileTree.IsLooked name := by
  obtain ⟨t, hbehind, -, -, hwords⟩ := behindSlash_eq hd hroot
  have hpieces : split '/' (locationOf d name).toList = ([] :: split '/' t) ++ [name.toList] := by
    rw [locationOf_eq hd, hbehind, String.toList_ofList, split, if_pos rfl, split_append_cons,
      split_of_notMem hname.2]
    rfl
  have hcases := (pieces_of_query hd h).2
  rw [hpieces] at hcases
  refine ⟨[] :: split '/' t, hpieces, List.forall_mem_cons.mpr ⟨.inl rfl, fun p hp => ?_⟩, ?_⟩
  · have hpoint : '.' ∉ p := fun hmem =>
      absurd (hwords '.' ((infix_of_mem_split hp).subset hmem)) (by decide)
    rcases hcases p (List.mem_append_left _ (List.mem_cons_of_mem _ hp)) with h | rfl | rfl | h
    · exact .inl h
    · exact absurd List.mem_cons_self hpoint
    · exact absurd List.mem_cons_self hpoint
    · exact .inr h
  · rcases hcases name.toList List.mem_concat_self with h | h | h | h
    · exact absurd h (hname.toList_ne "" (by decide))
    · exact absurd h (hname.toList_ne "." (by decide))
    · exact absurd h (hname.toList_ne ".." (by decide))
    · rwa [String.ofList_toList] at h

/-- A query that is loaded by path is also loaded where there is nothing but its file. -/
theorem exists_alone (hd : IsDirectoryText d) (hroot : d ≠ "/") (hname : IsFileName name)
    (h : (query reader d tree name).toOption ≠ none) : ∃ names,
      (query reader d (FileTree.alone (some "") (names ++ [name])) name).toOption ≠ none := by
  obtain ⟨dirs, hpieces, hdirs, hlooked⟩ := exists_split_of_query hd hroot hname h
  let names := FileTree.namesOf dirs
  let alone := FileTree.alone (some "") (names ++ [name])
  have hstart : alone.at? [] = some (.directory (Entry.alone (some "") (names ++ [name]))) := rfl
  obtain ⟨hreaches, hfile⟩ := FileTree.follows_alone hlooked hdirs hstart
  rw [← hpieces, List.nil_append] at hreaches
  have habsolute : alone.startOf ⟨locationOf d name⟩ = [] := by
    rw [locationOf_eq hd]
    simp [FileTree.startOf, Path.isAbsolute]
  have halone : alone.readText ⟨locationOf d name⟩ = .ok "" :=
    FileTree.readText_eq_ok_iff.mpr ⟨_, FileTree.resolve_eq_ok_iff.mpr
      ⟨(pieces_of_query hd h).1, ⟨_, by rw [habsolute]; exact hreaches⟩, hfile⟩⟩
  refine ⟨names, ?_⟩
  rw [toOption_query (parse_locationOf hd), halone]
  exact Option.some_ne_none _

private theorem isKeptText_of_query_file {names : Place} (hd : IsDirectoryText d) (hroot : d ≠ "/")
    (hname : IsFileName name)
    (h : (query reader ("file:" ++ d) (FileTree.alone (some "") (names ++ [name])) name).toOption ≠
      none) : IsKeptText name.toList := by
  obtain ⟨p, url, text, hurl, hpath, htext⟩ := exists_of_query_file hd h
  obtain ⟨t, hbehind, hne, hslash, hwords⟩ := behindSlash_eq hd hroot
  have hmark : ∀ c ∈ '/' :: t, c ∉ ['?', '#', '\\', '\t', '\n', '\r'] :=
    List.forall_mem_cons.mpr ⟨by decide, fun c hc => notMem_marks (hwords c hc)⟩
  have hclean : cleaned ('/' :: behindSlash d name) = '/' :: (t ++ '/' :: cleaned name.toList) := by
    rw [hbehind]
    exact cleaned_append (fun c hc hmem =>
      hmark c hc (List.mem_append_right ['?', '#', '\\'] hmem)) name.toList
  have hhead : ∀ c, (t ++ '/' :: cleaned name.toList).head? = some c → c ∈ t ∧ c ≠ '/' := by
    intro c hc
    rw [List.head?_append_of_ne_nil _ hne] at hc
    refine ⟨List.mem_of_mem_head? hc, ?_⟩
    rintro rfl
    exact hslash hc
  have hback : (t ++ '/' :: cleaned name.toList).head? ≠ some '\\' := fun hc =>
    hmark _ (List.mem_cons_of_mem _ (hhead _ hc).1) (by decide)
  rw [locationOf_file_eq hd, parse_file hclean (fun hc => (hhead _ hc).2 rfl) hback] at hurl
  cases hurl
  obtain ⟨place, hresolve⟩ := FileTree.readText_eq_ok_iff.mp htext
  obtain ⟨ps, hsplit⟩ := FileTree.split_of_resolve_alone hresolve
  exact isKeptText_of_split_filePath (List.forall_mem_cons.mp hmark).2 hname.2
    hname.toList_ne_nil (hname.toList_ne ".." (by decide)) hpath hsplit

/-- Both spellings of a directory give the same queries, or neither gives any. -/
def SameByUrl (reader : Reader) (d : String) (tree : FileTree) (names : List String) : Prop :=
  (ofDirectory reader ("file:" ++ d) tree names).toOption =
    (ofDirectory reader d tree names).toOption

private theorem toOption_ofDirectory_singleton (reader : Reader) (d : String) (tree : FileTree)
    (name : String) : (ofDirectory reader d tree [name]).toOption =
      (query reader d tree name).toOption.map fun q => [q] := by
  rw [ofDirectory, List.mapM_cons, toOption_bind]
  cases query reader d tree name <;> rfl

end Queries

section Spellings

/-- A directory can be named by its path or by a URL as long as the URL keeps the names of the
queries. Of the names of files in a directory below the root, each that a URL does not keep is
looked for elsewhere. -/
theorem ofDirectory_url_gives_kept_names (hd : IsDirectoryText d) :
    (∀ reader tree names, (∀ name ∈ names, IsUrlName d name) → SameByUrl reader d tree names) ∧
      (d ≠ "/" → ∀ name, IsFileName name → ¬ IsUrlName d name → ∀ reader tree,
        (ofDirectory reader d tree [name]).toOption ≠ none →
          ∃ tree', (ofDirectory reader d tree' [name]).toOption ≠ none ∧
            (ofDirectory reader ("file:" ++ d) tree' [name]).toOption = none) := by
  refine ⟨fun reader tree names hnames => ?_, ?_⟩
  · exact toOption_mapM_congr fun name hname => toOption_query_file hd (hnames name hname)
  · intro hroot name hname hchanged reader tree hloads
    have hquery : (query reader d tree name).toOption ≠ none := by
      intro hnone
      rw [toOption_ofDirectory_singleton, hnone] at hloads
      exact hloads rfl
    obtain ⟨names, halone⟩ := exists_alone hd hroot hname hquery
    refine ⟨FileTree.alone (some "") (names ++ [name]), ?_, ?_⟩
    · rw [toOption_ofDirectory_singleton]
      simpa using halone
    · rw [toOption_ofDirectory_singleton, Option.map_eq_none_iff]
      by_contra hurl
      have hkept := isKeptText_of_query_file hd hroot hname hurl
      exact hchanged (isUrlName_of_isFileName hroot hname hkept)

def Sample.queryTree : FileTree :=
  ⟨[("sql", .directory [("q 1.sql", .file (some "select 1")), ("ü%.sql", .file (some "select 2")),
    ("q#1.sql", .file (some "select 3"))])], []⟩

private theorem isDirectoryText_sample : IsDirectoryText "/sql" := by
  have hwords : "/sql".toList.all (fun c => c = '/' ∨ IsWordChar c) = true := by decide
  refine ⟨rfl, fun c hc => ?_, by decide⟩
  simpa using List.all_eq_true.mp hwords c hc

theorem ofDirectory_url_sample_gives_kept_names :
    (∀ name ∈ ["q 1.sql", "ü%.sql"], IsUrlName "/sql" name) ∧
      (ofDirectory .standard "file:/sql" Sample.queryTree ["q 1.sql", "ü%.sql"]).toOption =
        some [⟨"q 1", "select 1", .empty⟩, ⟨"ü%", "select 2", .empty⟩] ∧
      IsFileName "q#1.sql" ∧ ¬ IsUrlName "/sql" "q#1.sql" ∧
      ∃ tree', (ofDirectory .standard "/sql" tree' ["q#1.sql"]).toOption ≠ none ∧
        (ofDirectory .standard "file:/sql" tree' ["q#1.sql"]).toOption = none := by
  have hroot : "/sql" ≠ "/" := by decide
  have hfirst : IsFileName "q 1.sql" ∧ IsKeptText "q 1.sql".toList := by decide
  have hsecond : IsFileName "ü%.sql" ∧ IsKeptText "ü%.sql".toList := by decide
  have hnames : ∀ name ∈ ["q 1.sql", "ü%.sql"], IsUrlName "/sql" name := by
    intro name hname
    simp only [List.mem_cons, List.not_mem_nil, or_false] at hname
    rcases hname with rfl | rfl
    · exact isUrlName_of_isFileName hroot hfirst.1 hfirst.2
    · exact isUrlName_of_isFileName hroot hsecond.1 hsecond.2
  have hfile : IsFileName "q#1.sql" := by decide
  have hchanged : ¬ IsUrlName "/sql" "q#1.sql" := fun h => absurd h.kept (by decide)
  have hpath : (ofDirectory .standard "/sql" Sample.queryTree ["q 1.sql", "ü%.sql"]).toOption =
      some [⟨"q 1", "select 1", .empty⟩, ⟨"ü%", "select 2", .empty⟩] := by decide +kernel
  have hloads : (ofDirectory .standard "/sql" Sample.queryTree ["q#1.sql"]).toOption ≠ none := by
    decide +kernel
  obtain ⟨hsame, hother⟩ := ofDirectory_url_gives_kept_names isDirectoryText_sample
  exact ⟨hnames, (hsame .standard Sample.queryTree _ hnames).trans hpath, hfile, hchanged,
    hother hroot "q#1.sql" hfile hchanged .standard Sample.queryTree hloads⟩

/-- Behind a URL what follows a `#` is no part of the path. -/
theorem not_forall_sameByUrl : ¬ ∀ (reader : Reader) (d : String) (tree : FileTree)
    (names : List String), IsDirectoryText d → SameByUrl reader d tree names := by
  intro h
  have hsame := h .standard "/sql" Sample.queryTree ["q#1.sql"] isDirectoryText_sample
  have hpath : (ofDirectory .standard "/sql" Sample.queryTree ["q#1.sql"]).toOption =
      some [⟨"q#1", "select 3", .empty⟩] := by decide +kernel
  have hurl : (ofDirectory .standard "file:/sql" Sample.queryTree ["q#1.sql"]).toOption = none := by
    decide +kernel
  rw [SameByUrl, hpath] at hsame
  exact absurd (hurl.symm.trans hsame) nofun

end Spellings

end RunPlan.QuerySource
