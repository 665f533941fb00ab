import RunPlan.Benchmark.QueryFile
import RunPlan.Proofs.OrderedMap
import RunPlan.Proofs.Text.Lines

/-!
What a query file says. Main statements: the header is the longest run of marked lines at the start,
each of its lines with a `:` binds an attribute, and the other lines are the query; attributes that
are written in front of a query are read back.
-/

set_option autoImplicit false

namespace RunPlan.QueryFile

open RunPlan.Text

/-- A line that starts with the mark, white space in front of it aside. -/
def IsMarked (line : List Char) : Prop := headerMark <+: trimStart line

/-- What a line says behind its mark: an attribute, cut at the first `:`, or nothing. -/
inductive Says (line : List Char) : Option (String × String) → Prop
  | attribute {key value : List Char} (hline : trimStart line = headerMark ++ key ++ ':' :: value)
      (hkey : ':' ∉ key) : Says line (some (String.ofList (trim key), String.ofList (trim value)))
  | nothing {text : List Char} (hline : trimStart line = headerMark ++ text) (htext : ':' ∉ text) :
      Says line none

/-- The query is what the lines say: the attributes of the longest marked run at their start, and
the other lines, without white space around them. -/
def IsSaidBy (ls : List (List Char)) (q : Query) : Prop :=
  ∃ header body said, ls = header ++ body ∧ (∀ line ∈ header, IsMarked line) ∧
    (∀ line ∈ body.head?, ¬ IsMarked line) ∧ List.Forall₂ Says header said ∧
    OrderedMap.Collects (said.filterMap id) q.attributes ∧
    q.sql = String.ofList (trim (['\n'].intercalate body))

/-- A key and a value that a header line can hold. -/
structure IsAttribute (a : String × String) : Prop where
  key : trim a.1.toList = a.1.toList
  keyPlain : ':' ∉ a.1.toList ∧ '\n' ∉ a.1.toList
  value : trim a.2.toList = a.2.toList
  valuePlain : '\n' ∉ a.2.toList

/-- A query that does not read as a header, on lines that keep their ends. -/
structure IsBody (sql : String) : Prop where
  trimmed : trim sql.toList = sql.toList
  unmarked : ¬ headerMark <+: sql.toList
  returns : ¬ ['\r', '\n'] <:+: sql.toList

def headerLine (a : String × String) : String := "--! " ++ a.1 ++ ": " ++ a.2

/-- The text with a header line for each attribute, and the query. -/
def write (attributes : List (String × String)) (sql : String) : String :=
  attributes.foldr (fun a text => headerLine a ++ "\n" ++ text) sql

section Reading

variable {line : List Char}

private theorem headerText?_eq_some_iff {text : List Char} :
    headerText? line = some text ↔ trimStart line = headerMark ++ text := by
  rw [headerText?, List.isPrefixOf?_eq_some_iff_append_eq, eq_comm]

private theorem isSome_headerText?_iff : (headerText? line).isSome = true ↔ IsMarked line := by
  rw [Option.isSome_iff_exists]
  simp only [headerText?_eq_some_iff]
  exact ⟨fun ⟨text, h⟩ => ⟨text, h.symm⟩, fun ⟨text, h⟩ => ⟨text, h.symm⟩⟩

private theorem says_attribute? (h : IsMarked line) : Says line (attribute? line) := by
  obtain ⟨text, htext⟩ := Option.isSome_iff_exists.mp (isSome_headerText?_iff.mpr h)
  have hline := headerText?_eq_some_iff.mp htext
  rw [attribute?, htext, Option.bind_some]
  cases hcut : cut ':' text with
  | none => exact .nothing hline (cut_eq_none_iff.mp hcut)
  | some pieces =>
    obtain ⟨key, value⟩ := pieces
    obtain ⟨rfl, hkey⟩ := cut_eq_some_iff.mp hcut
    exact .attribute (by rw [hline, List.append_assoc]) hkey

private theorem cutHeader_eq (ls : List (List Char)) : cutHeader ls =
    (ls.takeWhile fun line => (headerText? line).isSome,
      ls.dropWhile fun line => (headerText? line).isSome) :=
  List.span_eq_takeWhile_dropWhile _ _

private theorem isSaidBy_read (name content : String) :
    IsSaidBy (lines content.toList) (read name content) := by
  generalize hmarked : (fun line => (headerText? line).isSome) = marked
  have hiff : ∀ line, marked line = true ↔ IsMarked line := by
    intro line
    rw [← hmarked]
    exact isSome_headerText?_iff
  have hheader : ∀ line ∈ (lines content.toList).takeWhile marked, IsMarked line := by
    intro line hline
    exact (hiff line).mp (List.all_eq_true.mp List.all_takeWhile line hline)
  refine ⟨_, _, ((lines content.toList).takeWhile marked).map attribute?,
    List.takeWhile_append_dropWhile.symm, hheader, ?_, ?_, ?_, ?_⟩
  · intro line hline hmark
    have hnot := List.head?_dropWhile_not marked (lines content.toList)
    rw [Option.mem_def.mp hline] at hnot
    exact Bool.noConfusion (((hiff line).mpr hmark).symm.trans hnot)
  · exact List.forall₂_map_right_iff.mpr (List.forall₂_same.mpr fun line hline =>
      says_attribute? (hheader line hline))
  · simp only [read, cutHeader_eq, hmarked, List.filterMap_map]
    exact OrderedMap.collects_ofList _
  · simp only [read, cutHeader_eq, hmarked, join_eq_intercalate]

end Reading

section Writing

variable {attributes : List (String × String)} {sql : String}

private theorem toList_headerLine (a : String × String) :
    (headerLine a).toList = headerMark ++ (' ' :: a.1.toList) ++ ':' :: ' ' :: a.2.toList := by
  simp [headerLine, headerMark]

private theorem toList_write_cons (a : String × String) (attributes : List (String × String))
    (sql : String) :
    (write (a :: attributes) sql).toList =
      (headerLine a).toList ++ '\n' :: (write attributes sql).toList := by
  simp [write]

private theorem trimStart_headerLine (a : String × String) :
    trimStart (headerLine a).toList = (headerLine a).toList := by
  rw [toList_headerLine]
  exact trimStart_cons_of_not_blank rfl

private theorem isMarked_headerLine (a : String × String) : IsMarked (headerLine a).toList := by
  rw [IsMarked, trimStart_headerLine, toList_headerLine, List.append_assoc]
  exact List.prefix_append _ _

private theorem notMem_headerLine {a : String × String} (h : IsAttribute a) :
    '\n' ∉ (headerLine a).toList := by
  simp [toList_headerLine, headerMark, h.keyPlain.2, h.valuePlain]

private theorem getLast?_headerLine_ne {a : String × String} (h : IsAttribute a) :
    (headerLine a).toList.getLast? ≠ some '\r' := by
  rw [toList_headerLine, List.getLast?_append_of_ne_nil _ (List.cons_ne_nil _ _),
    List.getLast?_cons_of_ne_nil (List.cons_ne_nil _ _)]
  by_cases hvalue : a.2.toList = []
  · simp [hvalue]
  · rw [List.getLast?_cons_of_ne_nil hvalue]
    intro hlast
    exact Bool.noConfusion ((IsTight.of_trim_eq hvalue h.value).stop _ hlast)

private theorem attribute?_headerLine {a : String × String} (h : IsAttribute a) :
    attribute? (headerLine a).toList = some a := by
  have htext : headerText? (headerLine a).toList =
      some ((' ' :: a.1.toList) ++ ':' :: ' ' :: a.2.toList) := by
    rw [headerText?_eq_some_iff, trimStart_headerLine, toList_headerLine, List.append_assoc]
  have hcut : cut ':' ((' ' :: a.1.toList) ++ ':' :: ' ' :: a.2.toList) =
      some (' ' :: a.1.toList, ' ' :: a.2.toList) :=
    cut_eq_some_iff.mpr ⟨rfl, by simp [h.keyPlain.1]⟩
  have htrimmed : trim (' ' :: a.1.toList) = a.1.toList ∧ trim (' ' :: a.2.toList) = a.2.toList :=
    ⟨(trim_cons_of_blank rfl _).trans h.key, (trim_cons_of_blank rfl _).trans h.value⟩
  simp only [attribute?, htext, Option.bind_some, hcut, Option.map_some, htrimmed,
    String.ofList_toList]

private theorem isBody_lines (h : IsBody sql) : join ['\n'] (lines sql.toList) = sql.toList ∧
    ∀ line ∈ (lines sql.toList).head?, ¬ IsMarked line := by
  by_cases hne : sql.toList = []
  · rw [hne]
    exact ⟨rfl, by simp [lines, split]⟩
  · have htight := IsTight.of_trim_eq hne h.trimmed
    have hlines : lines sql.toList = split '\n' sql.toList :=
      lines_eq_split h.returns hne fun hlast => Bool.noConfusion (htight.stop _ hlast)
    rw [hlines]
    refine ⟨join_split '\n' sql.toList, fun line hline hmark => h.unmarked ?_⟩
    have hprefix := prefix_of_mem_head?_split hline
    have hstart : trimStart line = line := by
      refine trimStart_eq_self_iff.mpr fun c hc => htight.start c ?_
      obtain ⟨rest, hrest⟩ := hprefix
      rw [← hrest, List.head?_append, Option.mem_def.mp hc]
      rfl
    rw [IsMarked, hstart] at hmark
    exact hmark.trans hprefix

private theorem lines_write (h : ∀ a ∈ attributes, IsAttribute a) :
    lines (write attributes sql).toList =
    attributes.map (fun a => (headerLine a).toList) ++ lines sql.toList := by
  induction attributes with
  | nil => rfl
  | cons a attributes ih =>
    obtain ⟨ha, hattributes⟩ := List.forall_mem_cons.mp h
    rw [toList_write_cons, lines_append_cons (notMem_headerLine ha),
      dropReturn_of_getLast?_ne (getLast?_headerLine_ne ha), ih hattributes]
    rfl

private theorem cutHeader_write (h : ∀ a ∈ attributes, IsAttribute a) (hsql : IsBody sql) :
    cutHeader (lines (write attributes sql).toList) =
      (attributes.map (fun a => (headerLine a).toList), lines sql.toList) := by
  have hheader : ∀ line ∈ attributes.map (fun a => (headerLine a).toList),
      (headerText? line).isSome = true := by
    intro line hline
    obtain ⟨a, -, rfl⟩ := List.mem_map.mp hline
    exact isSome_headerText?_iff.mpr (isMarked_headerLine a)
  have hbody : ∀ line ∈ (lines sql.toList).head?, ¬ (headerText? line).isSome = true :=
    fun line hline hsome => (isBody_lines hsql).2 line hline (isSome_headerText?_iff.mp hsome)
  rw [cutHeader_eq, lines_write h, List.takeWhile_append_of_pos hheader,
    List.dropWhile_append_of_pos hheader]
  cases hlines : lines sql.toList with
  | nil => simp
  | cons line ls =>
    rw [hlines] at hbody
    have hnot := hbody line rfl
    have htake : (line :: ls).takeWhile (fun line => (headerText? line).isSome) = [] :=
      List.takeWhile_cons_of_neg hnot
    have hdrop : (line :: ls).dropWhile (fun line => (headerText? line).isSome) = line :: ls :=
      List.dropWhile_cons_of_neg hnot
    rw [htake, hdrop, List.append_nil]

private theorem read_write (name : String) (h : ∀ a ∈ attributes, IsAttribute a)
    (hsql : IsBody sql) :
    read name (write attributes sql) = ⟨name, sql, OrderedMap.ofList attributes⟩ := by
  have hattributes : (attributes.map (fun a => (headerLine a).toList)).filterMap attribute? =
      attributes := by
    rw [List.filterMap_map]
    calc attributes.filterMap (attribute? ∘ fun a => (headerLine a).toList)
        = attributes.filterMap some :=
          List.filterMap_congr fun a ha => attribute?_headerLine (h a ha)
      _ = attributes := List.filterMap_some
  simp only [read, cutHeader_write h hsql, hattributes, (isBody_lines hsql).1, hsql.trimmed,
    String.ofList_toList]

/-- A query file is read by its lines, for every text; and what is written with distinct keys is
read back, the attributes in their order. -/
theorem read_content (name : String) : (∀ content, (read name content).name = name ∧
      IsSaidBy (lines content.toList) (read name content)) ∧
    ∀ attributes sql, (attributes.map Prod.fst).Nodup → (∀ a ∈ attributes, IsAttribute a) →
      IsBody sql → (read name (write attributes sql)).attributes.entries = attributes ∧
        (read name (write attributes sql)).sql = sql := by
  refine ⟨fun content => ⟨rfl, isSaidBy_read name content⟩, ?_⟩
  intro attributes sql hkeys hattributes hsql
  rw [read_write name hattributes hsql]
  exact ⟨OrderedMap.entries_ofList hkeys, rfl⟩

theorem read_sample_content :
    (read "q" "--! : a: b\n--! k: \nSELECT 1\n--! not: header").attributes.entries =
        [("", "a: b"), ("k", "")] ∧
      (read "q" "--! : a: b\n--! k: \nSELECT 1\n--! not: header").sql =
        "SELECT 1\n--! not: header" := by
  have hattributes : ∀ a ∈ [("", "a: b"), ("k", "")], IsAttribute a := by
    refine List.forall_mem_cons.mpr ⟨⟨by decide, by decide, by decide, by decide⟩, ?_⟩
    exact List.forall_mem_singleton.mpr ⟨by decide, by decide, by decide, by decide⟩
  exact (read_content "q").2 [("", "a: b"), ("k", "")] "SELECT 1\n--! not: header" (by decide)
    hattributes ⟨by decide, by decide, by decide⟩

end Writing

end RunPlan.QueryFile
