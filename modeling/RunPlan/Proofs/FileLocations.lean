import RunPlan.Location
import RunPlan.Proofs.FileTree.Detours
import RunPlan.Proofs.Url.File

/-!
Files by URL and by path. Main statement: the URL of a path that a URL keeps gives the text that the
path gives.
-/

set_option autoImplicit false

namespace RunPlan

open RunPlan.Text

namespace Url

open PathPart

variable {tree : FileTree} {c : Char} {p s : List Char} {ps : List (List Char)}

private theorem sameWay_undotted (ps : List (List Char)) :
    FileTree.SameWay tree ps (undotted ps) := by
  induction ps with
  | nil => exact fun _ _ _ _ => Iff.rfl
  | cons p ps ih =>
    by_cases hps : ps = []
    · subst hps
      rw [undotted]
      split
      · next hdot =>
        rw [hdot]
        exact FileTree.sameWay_point []
      · exact fun _ _ _ _ => Iff.rfl
    · rw [undotted_cons hps]
      split
      · next hdot => exact (FileTree.sameWay_stay (.inr hdot) hps).trans ih
      · exact ih.cons p

private theorem sameWay_dropEmpty (ps : List (List Char)) :
    FileTree.SameWay tree ps (dropEmpty ps) := by
  fun_induction dropEmpty ps with
  | case1 p ps ih => exact (FileTree.sameWay_stay (.inl rfl) (List.cons_ne_nil _ _)).trans ih
  | case2 ps => exact fun _ _ _ _ => Iff.rfl

private theorem sameWay_segmentsOf (s : List Char) :
    FileTree.SameWay tree (split '/' s) (segmentsOf s) :=
  (sameWay_undotted _).trans (sameWay_dropEmpty _)

private theorem segmentsOf_eq_split (hdot : ['.'] ∉ split '/' s) (hslash : s.head? ≠ some '/') :
    segmentsOf s = split '/' s := by
  have hundotted : ∀ ps : List (List Char), ['.'] ∉ ps → undotted ps = ps := by
    intro ps hps
    induction ps with
    | nil => rfl
    | cons p ps ih =>
      obtain ⟨hp, hps⟩ := not_or.mp (List.mem_cons.not.mp hps)
      by_cases hne : ps = []
      · rw [hne, undotted, if_neg fun h => hp h.symm]
      · rw [undotted_cons hne, if_neg fun h => hp h.symm, ih hps]
  rw [segmentsOf, hundotted _ hdot, ← split_dropWhile_slash]
  cases s with
  | nil => rfl
  | cons c s =>
    rw [List.dropWhile_cons_of_neg]
    simpa using hslash

private theorem mem_undotted_of_mem (hp : p ∈ ps) (hdot : p ≠ ['.']) : p ∈ undotted ps := by
  induction ps with
  | nil => cases hp
  | cons q ps ih =>
    by_cases hps : ps = []
    · subst hps
      rw [List.mem_singleton] at hp
      rw [undotted, if_neg (hp ▸ hdot), hp]
      exact List.mem_cons_self
    · rw [undotted_cons hps]
      rcases List.mem_cons.mp hp with rfl | hp
      · rw [if_neg hdot]
        exact List.mem_cons_self
      · split
        · exact ih hp
        · exact List.mem_cons_of_mem _ (ih hp)

private theorem mem_dropEmpty_of_mem (hp : p ∈ ps) (hne : p ≠ []) : p ∈ dropEmpty ps := by
  fun_induction dropEmpty ps with
  | case1 q ps ih => exact ih ((List.mem_cons.mp hp).resolve_left hne)
  | case2 ps => exact hp

private theorem join_segmentsOf_sublist (s : List Char) :
    (join ['/'] (segmentsOf s)).Sublist s := by
  have hundotted : ∀ ps : List (List Char), (join ['/'] (undotted ps)).Sublist (join ['/'] ps) := by
    intro ps
    induction ps with
    | nil => exact .slnil
    | cons p ps ih =>
      by_cases hps : ps = []
      · subst hps
        rw [undotted]
        split
        · exact List.nil_sublist _
        · exact .refl _
      · rw [undotted_cons hps, join_cons hps]
        split
        · exact ih.trans (List.sublist_append_right _ _)
        · rw [join_cons (undotted_ne_nil hps)]
          exact (List.Sublist.refl _).append ih
  have hempty : ∀ ps : List (List Char), (join ['/'] (dropEmpty ps)).Sublist (join ['/'] ps) := by
    intro ps
    fun_induction dropEmpty ps with
    | case1 p ps ih =>
      rw [join_cons (List.cons_ne_nil p ps)]
      exact ih.trans (List.sublist_append_right _ _)
    | case2 ps => exact .refl _
  have hall := (hempty _).trans (hundotted (split '/' s))
  rwa [join_split] at hall

private theorem mem_join_segmentsOf_iff (hslash : c ≠ '/') (hdot : c ≠ '.') :
    c ∈ join ['/'] (segmentsOf s) ↔ c ∈ s := by
  have hpiece : ∀ ps : List (List Char), c ∈ join ['/'] ps → ∃ p ∈ ps, c ∈ p := by
    intro ps hc
    induction ps with
    | nil => cases hc
    | cons p ps ih =>
      by_cases hps : ps = []
      · subst hps
        exact ⟨p, List.mem_cons_self, hc⟩
      · rw [join_cons hps, List.mem_append, List.mem_append, List.mem_singleton] at hc
        rcases hc with (hc | hc) | hc
        · exact ⟨p, List.mem_cons_self, hc⟩
        · exact absurd hc hslash
        · obtain ⟨q, hq, hc⟩ := ih hc
          exact ⟨q, List.mem_cons_of_mem _ hq, hc⟩
  refine ⟨fun hc => (join_segmentsOf_sublist s).subset hc, fun hc => ?_⟩
  rw [← join_split '/' s] at hc
  obtain ⟨p, hp, hc⟩ := hpiece _ hc
  have hstays : p ∈ segmentsOf s := by
    refine mem_dropEmpty_of_mem (mem_undotted_of_mem hp ?_) (List.ne_nil_of_mem hc)
    rintro rfl
    exact hdot (List.mem_singleton.mp hc)
  exact (infix_join_of_mem hstays _).subset hc

/-- Behind the first slash of a path what a URL leaves out does not count. A path is shorter then,
so one that is too long may become one that is not. -/
theorem toOption_readText_segmentsOf (hslash : s.head? ≠ some '/')
    (hfits : ['.'] ∈ split '/' s →
      (String.ofList ('/' :: s)).utf8ByteSize ≤ FileTree.maxPathBytes) :
    (tree.readText ⟨String.ofList ('/' :: join ['/'] (segmentsOf s))⟩).toOption =
      (tree.readText ⟨String.ofList ('/' :: s)⟩).toOption := by
  by_cases hdot : ['.'] ∈ split '/' s
  · refine FileTree.toOption_readText_of_sameWay ?_ ?_ ?_
    · have hsplit := split_join_segmentsOf s
      simp only [String.toList_ofList, split, if_true, hsplit]
      exact (sameWay_segmentsOf s).symm.cons []
    · have hsize : (String.ofList ('/' :: join ['/'] (segmentsOf s))).utf8ByteSize ≤
          (String.ofList ('/' :: s)).utf8ByteSize := by
        rw [utf8ByteSize_ofList, utf8ByteSize_ofList]
        exact (utf8_sublist ((join_segmentsOf_sublist s).cons_cons '/')).length_le
      have hnul : '\x00' ∈ '/' :: join ['/'] (segmentsOf s) ↔ '\x00' ∈ '/' :: s := by
        rw [List.mem_cons, List.mem_cons, mem_join_segmentsOf_iff (by decide) (by decide)]
      have hnonempty : ∀ r : List Char, String.ofList ('/' :: r) ≠ "" := by
        intro r h
        cases String.ofList_eq_empty_iff.mp h
      have hfit := hfits hdot
      constructor
      · rintro ⟨hnul', -, -⟩
        rw [String.toList_ofList, hnul] at hnul'
        exact ⟨by rwa [String.toList_ofList], hnonempty s, hfit⟩
      · rintro ⟨hnul', -, -⟩
        rw [String.toList_ofList, ← hnul] at hnul'
        exact ⟨by rwa [String.toList_ofList], hnonempty _, hsize.trans hfit⟩
    · simp [FileTree.startOf, Path.isAbsolute]
  · rw [segmentsOf_eq_split hdot hslash, join_split]

end Url

namespace Location

open Url

variable {s : List Char}

theorem parse_path (s : List Char) :
    parse (String.ofList ('/' :: s)) = .ok (.file ⟨String.ofList ('/' :: s)⟩) := by
  have hclasspath : classpathMark.isPrefixOf? ('/' :: s) = none := rfl
  have hfile : fileMark.isPrefixOf? ('/' :: s) = none := rfl
  have hscheme : hasScheme ('/' :: s) = false := by
    have hcut : cut ':' ('/' :: s) =
        (cut ':' s).map (Prod.map ('/' :: ·) id) := rfl
    rw [hasScheme, hcut]
    cases cut ':' s with
    | none => rfl
    | some pieces => simp
  simp [parse, hclasspath, hfile, hscheme]

theorem parse_eq_ofUrl (s : List Char) :
    parse (String.ofList ("file:".toList ++ '/' :: s)) =
      ofUrl (String.ofList ("file:".toList ++ '/' :: s)) := by
  have hclasspath : classpathMark.isPrefixOf? ("file:".toList ++ '/' :: s) = none := rfl
  have hfile : fileMark.isPrefixOf? ("file:".toList ++ '/' :: s) = some ('/' :: s) := rfl
  rw [parse, String.toList_ofList, hclasspath, hfile]
  rfl

theorem ofUrl_cases {location : String} {place : Location} (h : ofUrl location = .ok place) :
    (∃ p url, place = .file p ∧ Url.parse location = .ok url ∧
      url.filePath? = some (utf8 p.text.toList)) ∨ ∃ shown, place = .undecodable shown := by
  rw [ofUrl] at h
  split at h
  · cases h
  · next url hurl =>
    split at h
    · cases h
    · next bytes hbytes =>
      split at h
      · next text htext =>
        cases h
        rw [ofBytes?_eq_some_iff.mp htext] at hbytes
        exact .inl ⟨⟨text⟩, url, rfl, hurl, hbytes⟩
      · cases h
        exact .inr ⟨_, rfl⟩

theorem parse_url (h : IsKeptText s) (hslash : s.head? ≠ some '/')
    (hdrive : ∀ a, (split '/' s).find? (· ≠ ['.']) = some [a, '|'] → a.isAlpha = false) :
    parse (String.ofList ("file:".toList ++ '/' :: s)) =
      .ok (.file ⟨String.ofList ('/' :: join ['/'] (segmentsOf s))⟩) := by
  have hclean : cleaned ('/' :: s) = '/' :: s := by
    refine cleaned_eq_self_iff.mpr
      ⟨fun c hc => ?_, List.forall_mem_cons.mpr ⟨by decide, fun c hc => ?_⟩⟩
    · cases s with
      | nil =>
        cases hc
        decide
      | cons d s => exact h.end_shown c (by rwa [List.getLast?_cons_cons] at hc)
    · have hmark := h.no_mark c hc
      simp only [List.mem_cons, not_or] at hmark ⊢
      exact hmark.2.2.2
  have hback : s.head? ≠ some '\\' :=
    fun hhead => h.no_mark _ (List.mem_of_mem_head? hhead) (by decide)
  rw [parse_eq_ofUrl, ofUrl, parse_file hclean hslash hback]
  simp only [filePath?_of_isKeptText h hdrive, ofBytes?_utf8]

end Location

end RunPlan
