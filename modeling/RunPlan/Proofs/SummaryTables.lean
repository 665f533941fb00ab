import RunPlan.Benchmark.Summary
import RunPlan.Proofs.Text.Cutting
import RunPlan.Proofs.Text.Digits
import Mathlib.Algebra.Ring.Nat
import Mathlib.Data.List.DropRight
import Mathlib.Data.List.Induction

/-!
Tables of benchmarks. Main statement: a table laid out for some benchmarks shows any of them with
one line for each row that looks different, in the order in which the rows first come; two
benchmarks look the same exactly if their counts are equal and their names and data sources differ
in spaces at the end only, and the first two columns end at the same places in all rows.
-/

set_option autoImplicit false

namespace RunPlan.SummaryTable

open RunPlan.Text

section Cells

variable {w n n' : Nat} {s s' : String}

def withoutEnd (s : String) : List Char := s.toList.rdropWhile (· = ' ')

private theorem toList_pad (w : Nat) (s : String) :
    (pad w s).toList = s.toList ++ List.replicate (w - s.length) ' ' := by
  rw [pad, String.toList_append, String.toList_ofList]

private theorem length_pad (w : Nat) (s : String) : (pad w s).toList.length = max w s.length := by
  rw [toList_pad, List.length_append, List.length_replicate, String.length_toList]
  omega

private theorem rdropWhile_append_spaces (t : List Char) (k : Nat) :
    (t ++ List.replicate k ' ').rdropWhile (· = ' ') = t.rdropWhile (· = ' ') := by
  induction k with
  | zero => rw [List.replicate_zero, List.append_nil]
  | succ k ih =>
    rw [List.replicate_succ', ← List.append_assoc, List.rdropWhile_concat_pos _ _ _ (by simp), ih]

private theorem exists_spaces (t : List Char) :
    ∃ k, t = t.rdropWhile (· = ' ') ++ List.replicate k ' ' := by
  induction t using List.reverseRecOn with
  | nil => exact ⟨0, rfl⟩
  | append_singleton t c ih =>
    by_cases hc : c = ' '
    · obtain ⟨k, hk⟩ := ih
      refine ⟨k + 1, ?_⟩
      rw [List.rdropWhile_concat_pos _ _ _ (by simpa using hc), List.replicate_succ',
        ← List.append_assoc, ← hk, hc]
    · refine ⟨0, ?_⟩
      rw [List.rdropWhile_concat_neg _ _ _ (by simpa using hc), List.replicate_zero,
        List.append_nil]

private theorem pad_eq_iff (hs : s.length ≤ w) (hs' : s'.length ≤ w) :
    (pad w s).toList = (pad w s').toList ↔ withoutEnd s = withoutEnd s' := by
  rw [toList_pad, toList_pad, withoutEnd, withoutEnd]
  constructor
  · intro h
    have htrim := congrArg (List.rdropWhile (· = ' ')) h
    rwa [rdropWhile_append_spaces, rdropWhile_append_spaces] at htrim
  · intro h
    obtain ⟨k, hk⟩ := exists_spaces s.toList
    obtain ⟨k', hk'⟩ := exists_spaces s'.toList
    have hlength := congrArg List.length hk
    have hlength' := congrArg List.length hk'
    rw [List.length_append, List.length_replicate, String.length_toList] at hlength hlength'
    rw [← h] at hk' hlength'
    rw [hk, hk', List.append_assoc, List.append_assoc, List.replicate_append_replicate,
      List.replicate_append_replicate]
    congr 2
    omega

private theorem head?_spaces (k : Nat) (r : List Char) :
    ∀ c ∈ (List.replicate k ' ' ++ ' ' :: r).head?, c.isDigit = false := by
  intro c hc
  cases k with
  | zero => cases hc; rfl
  | succ k => cases hc; rfl

private theorem eq_of_pad_append {r r' : List Char}
    (h : (pad w (toString n)).toList ++ ' ' :: r = (pad w (toString n')).toList ++ ' ' :: r') :
    n = n' ∧ r = r' := by
  rw [toList_pad, toList_pad, List.append_assoc, List.append_assoc] at h
  have hdigits : ∀ m : Nat, ∀ c ∈ (toString m).toList, c.isDigit = true := by
    intro m c hc
    rw [toList_toString_nat] at hc
    exact isDigit_of_mem_toDigits hc
  obtain ⟨hn, hrest⟩ := eq_of_append_eq_of_forall (hdigits n) (hdigits n') (head?_spaces _ _)
    (head?_spaces _ _) h
  have hsame : n = n' := Nat.repr_inj.mp (String.toList_inj.mp hn)
  subst hsame
  exact ⟨rfl, (List.cons.inj (List.append_cancel_left hrest)).2⟩

private theorem length_toString_le {k : Nat} (hk : 0 < k) (h : n < 10 ^ k) :
    (toString n).length ≤ k := by
  rw [← String.length_toList, toList_toString_nat]
  exact (Nat.length_toDigits_le_iff (by decide) hk).mpr h

end Cells

section Rows

variable {t : SummaryTable} {b b' : Benchmark}

def bar : List Char := [' ', '|', ' ']

def countCells (b : Benchmark) : List Char :=
  (pad 4 (toString b.runs)).toList ++ (bar ++ ((pad 8 (toString b.prewarmRuns)).toList ++
    (bar ++ ((pad 11 (toString b.concurrency)).toList ++ [' ', '|']))))

private theorem toList_row (t : SummaryTable) (b : Benchmark) :
    (t.row b).toList = ['\t', '|', ' '] ++ ((pad t.nameWidth b.name).toList ++ (bar ++
      ((pad t.dataSourceWidth b.dataSource).toList ++ (bar ++ countCells b)))) := by
  unfold row line
  -- Literals are hidden from the rewriting, which would take them apart.
  generalize hstart : "\t| " = start, hbetween : " | " = between, hlast : " |" = last
  simp only [String.toList_append, countCells, List.append_assoc]
  subst hstart hbetween hlast
  rfl

private theorem eq_of_countCells_eq (h : countCells b = countCells b') :
    b.runs = b'.runs ∧ b.prewarmRuns = b'.prewarmRuns ∧ b.concurrency = b'.concurrency := by
  obtain ⟨hruns, h⟩ := eq_of_pad_append h
  obtain ⟨hprewarmRuns, h⟩ := eq_of_pad_append (List.append_cancel_left h)
  obtain ⟨hconcurrency, -⟩ := eq_of_pad_append (List.append_cancel_left h)
  exact ⟨hruns, hprewarmRuns, hconcurrency⟩

/-- The first two columns are wide enough for a benchmark. -/
structure Fits (t : SummaryTable) (b : Benchmark) : Prop where
  name : b.name.length ≤ t.nameWidth
  dataSource : b.dataSource.length ≤ t.dataSourceWidth

/-- Benchmarks of which a table shows no difference. -/
structure LookSame (b b' : Benchmark) : Prop where
  runs : b.runs = b'.runs
  prewarmRuns : b.prewarmRuns = b'.prewarmRuns
  concurrency : b.concurrency = b'.concurrency
  name : withoutEnd b.name = withoutEnd b'.name
  dataSource : withoutEnd b.dataSource = withoutEnd b'.dataSource

private theorem Fits.length_name (h : t.Fits b) :
    (pad t.nameWidth b.name).toList.length = t.nameWidth := by
  rw [length_pad]
  exact max_eq_left h.name

private theorem Fits.length_dataSource (h : t.Fits b) :
    (pad t.dataSourceWidth b.dataSource).toList.length = t.dataSourceWidth := by
  rw [length_pad]
  exact max_eq_left h.dataSource

private theorem row_eq_iff (h : t.Fits b) (h' : t.Fits b') :
    t.row b = t.row b' ↔ LookSame b b' := by
  rw [← String.toList_inj, toList_row, toList_row]
  constructor
  · intro hrow
    obtain ⟨hname, hrest⟩ := List.append_inj (List.append_cancel_left hrow)
      (h.length_name.trans h'.length_name.symm)
    obtain ⟨hsource, hrest⟩ := List.append_inj (List.append_cancel_left hrest)
      (h.length_dataSource.trans h'.length_dataSource.symm)
    obtain ⟨hruns, hprewarmRuns, hconcurrency⟩ :=
      eq_of_countCells_eq (List.append_cancel_left hrest)
    exact ⟨hruns, hprewarmRuns, hconcurrency, (pad_eq_iff h.name h'.name).mp hname,
      (pad_eq_iff h.dataSource h'.dataSource).mp hsource⟩
  · intro hsame
    rw [(pad_eq_iff h.name h'.name).mpr hsame.name,
      (pad_eq_iff h.dataSource h'.dataSource).mpr hsame.dataSource, countCells, countCells,
      hsame.runs, hsame.prewarmRuns, hsame.concurrency]

/-- A text with nothing but spaces behind it. -/
def IsCell (cell : List Char) (s : String) : Prop := ∃ k, cell = s.toList ++ List.replicate k ' '

/-- The cells of the name and of the data source end at two places of a row, each with a bar behind
it. -/
structure CellsEnd (row : String) (b : Benchmark) (nameEnd dataSourceEnd : Nat) : Prop where
  name : IsCell ((row.toList.take nameEnd).drop 3) b.name
  nameBar : (row.toList.drop nameEnd).take 3 = bar
  dataSource : IsCell ((row.toList.take dataSourceEnd).drop (nameEnd + 3)) b.dataSource
  dataSourceBar : (row.toList.drop dataSourceEnd).take 3 = bar

private theorem isCell_pad (w : Nat) (s : String) : IsCell (pad w s).toList s := ⟨_, toList_pad w s⟩

private theorem Fits.cellsEnd (h : t.Fits b) :
    CellsEnd (t.row b) b (3 + t.nameWidth) (3 + t.nameWidth + 3 + t.dataSourceWidth) := by
  have hname := isCell_pad t.nameWidth b.name
  have hsource := isCell_pad t.dataSourceWidth b.dataSource
  have hrow := toList_row t b
  rw [← h.length_name, ← h.length_dataSource]
  generalize (pad t.nameWidth b.name).toList = nameCell at *
  generalize (pad t.dataSourceWidth b.dataSource).toList = sourceCell at *
  let front := ['\t', '|', ' '] ++ nameCell
  let front' := front ++ bar ++ sourceCell
  have hcut : (t.row b).toList = front ++ (bar ++ (sourceCell ++ (bar ++ countCells b))) := by
    simp [hrow, front]
  have hcut' : (t.row b).toList = front' ++ (bar ++ countCells b) := by
    simp [hrow, front', front]
  have hlength : front.length = 3 + nameCell.length := by
    rw [List.length_append]
    rfl
  have hlength' : front'.length = 3 + nameCell.length + 3 + sourceCell.length := by
    rw [List.length_append, List.length_append, hlength]
    rfl
  constructor
  · rw [hcut, List.take_left' hlength]
    exact hname
  · rw [hcut, List.drop_left' hlength]
    rfl
  · rw [hcut', List.take_left' hlength', List.drop_left' (by rw [List.length_append, hlength]; rfl)]
    exact hsource
  · rw [hcut', List.drop_left' hlength']
    rfl

private theorem length_row (h : t.Fits b) (hruns : b.runs < 10 ^ 4)
    (hprewarmRuns : b.prewarmRuns < 10 ^ 8)
    (hconcurrency : b.concurrency < 10 ^ 11) :
    (t.row b).length = t.nameWidth + t.dataSourceWidth + 40 := by
  have hruns := length_toString_le (by decide) hruns
  have hprewarmRuns := length_toString_le (by decide) hprewarmRuns
  have hconcurrency := length_toString_le (by decide) hconcurrency
  rw [← String.length_toList, toList_row]
  simp only [List.length_append, h.length_name, h.length_dataSource, countCells, length_pad, bar,
    List.length_cons, List.length_nil]
  omega

private theorem length_le_widthOf {texts : List String} {s : String} (h : s ∈ texts) :
    s.length ≤ widthOf texts := by
  have hmem : s.length ∈ texts.map String.length := List.mem_map_of_mem h
  rw [widthOf]
  cases hmax : (texts.map String.length).max? with
  | none =>
    rw [List.max?_eq_none_iff.mp hmax] at hmem
    cases hmem
  | some longest =>
    have hle := (List.max?_eq_some_iff.mp hmax).2 _ hmem
    exact hle.trans (Nat.le_add_right longest margin)

private theorem fits_of_mem {layout : List Benchmark} (h : b ∈ layout) :
    (ofBenchmarks layout).Fits b :=
  ⟨length_le_widthOf (List.mem_map_of_mem h), length_le_widthOf (List.mem_map_of_mem h)⟩

end Rows

section Distinct

/-- The different rows among some, in the order in which they first come. -/
structure AreFirsts (rows kept : List String) : Prop where
  mem_iff : ∀ row, row ∈ kept ↔ row ∈ rows
  order : kept.Pairwise fun row row' => rows.idxOf row < rows.idxOf row'

private theorem distinct_concat (rows : List String) (row : String) :
    distinct (rows ++ [row]) =
      if row ∈ distinct rows then distinct rows else distinct rows ++ [row] := by
  have hfold : distinct (rows ++ [row]) =
      if (distinct rows).contains row then distinct rows else distinct rows ++ [row] := by
    rw [distinct, List.foldl_append]
    rfl
  rw [hfold]
  simp only [List.contains_iff_mem]

private theorem areFirsts_distinct (rows : List String) : AreFirsts rows (distinct rows) := by
  induction rows using List.reverseRecOn with
  | nil => exact ⟨fun _ => Iff.rfl, List.Pairwise.nil⟩
  | append_singleton rows row ih =>
    have hsame : ∀ r ∈ distinct rows, (rows ++ [row]).idxOf r = rows.idxOf r := by
      intro r hr
      exact List.idxOf_append_of_mem ((ih.mem_iff r).mp hr)
    have horder : (distinct rows).Pairwise
        fun r r' => (rows ++ [row]).idxOf r < (rows ++ [row]).idxOf r' := by
      refine ih.order.imp_of_mem fun hr hr' hlt => ?_
      rwa [hsame _ hr, hsame _ hr']
    rw [distinct_concat]
    by_cases hrow : row ∈ distinct rows
    · rw [if_pos hrow]
      refine ⟨fun r => ?_, horder⟩
      rw [ih.mem_iff, List.mem_append, List.mem_singleton]
      refine ⟨Or.inl, ?_⟩
      rintro (hr | rfl)
      · exact hr
      · exact (ih.mem_iff r).mp hrow
    · rw [if_neg hrow]
      have hnew : row ∉ rows := fun hmem => hrow ((ih.mem_iff row).mpr hmem)
      refine ⟨fun r => ?_, ?_⟩
      · rw [List.mem_append, List.mem_append, ih.mem_iff]
      · rw [List.pairwise_append]
        refine ⟨horder, List.pairwise_singleton _ _, fun r hr r' hr' => ?_⟩
        rw [List.mem_singleton.mp hr', hsame r hr, List.idxOf_append_of_notMem hnew]
        have hlt := List.idxOf_lt_length_iff.mpr ((ih.mem_iff r).mp hr)
        omega

end Distinct

/-- A table shows benchmarks of its layout below the titles, with one line for each row that looks
different, where it first comes. Rows are the same exactly for benchmarks that look the same, the
first two columns end at the same places in all of them, and they have the same length as long as
the counts fit their columns; a concurrency of 32 bits always does. -/
theorem render_aligns_distinct_rows (layout shown : List Benchmark)
    (h : ∀ b ∈ shown, b ∈ layout) :
    (∃ rows, (ofBenchmarks layout).render shown = (ofBenchmarks layout).header :: rows ∧
      AreFirsts (shown.map (ofBenchmarks layout).row) rows) ∧
    (∀ b ∈ layout, ∀ b' ∈ layout,
      (ofBenchmarks layout).row b = (ofBenchmarks layout).row b' ↔ LookSame b b') ∧
    (∃ nameEnd dataSourceEnd, ∀ b ∈ shown,
      CellsEnd ((ofBenchmarks layout).row b) b nameEnd dataSourceEnd) ∧
    ∃ n, ∀ b ∈ shown, b.runs < 10000 → b.prewarmRuns < 10 ^ 8 → b.concurrency < 2 ^ 32 →
      ((ofBenchmarks layout).row b).length = n := by
  have hfits : ∀ b ∈ shown, (ofBenchmarks layout).Fits b := fun b hb => fits_of_mem (h b hb)
  refine ⟨⟨_, rfl, areFirsts_distinct _⟩, fun b hb b' hb' => ?_, ?_, ?_⟩
  · exact row_eq_iff (fits_of_mem hb) (fits_of_mem hb')
  · exact ⟨_, _, fun b hb => (hfits b hb).cellsEnd⟩
  · refine ⟨(ofBenchmarks layout).nameWidth + (ofBenchmarks layout).dataSourceWidth + 40, ?_⟩
    intro b hb hruns hprewarmRuns hconcurrency
    have hwidth : b.concurrency < 10 ^ 11 := by omega
    exact length_row (hfits b hb) hruns hprewarmRuns hwidth

def Sample.benchmark (name dataSource : String) : Benchmark where
  name := name
  sequenceId := "s"
  uniqueName? := none
  dataSource := dataSource
  environment := "e"
  runs := 3
  prewarmRuns := 0
  concurrency := 2
  frequency? := none
  beforeBenchmark := []
  afterBenchmark := []
  beforeExecution := []
  afterExecution := []
  queries := []
  vars := ∅
  runs_pos := by decide
  concurrency_pos := by decide

/-- Two benchmarks that differ in spaces only, and one with a bar and characters outside ASCII. -/
def Sample.layout : List Benchmark :=
  [Sample.benchmark "multi" "foo", Sample.benchmark "multi  " "foo ", Sample.benchmark "a | é" "日本"]

theorem render_sample_aligns_distinct_rows :
    ∃ first second third, Sample.layout = [first, second, third] ∧
      (ofBenchmarks Sample.layout).row first = (ofBenchmarks Sample.layout).row second ∧
      (ofBenchmarks Sample.layout).row first ≠ (ofBenchmarks Sample.layout).row third ∧
      ∃ rows, (ofBenchmarks Sample.layout).render [third, second, first, third] =
        (ofBenchmarks Sample.layout).header :: rows ∧
        (ofBenchmarks Sample.layout).row first ∈ rows := by
  obtain ⟨⟨rows, hrender, hrows⟩, hiff, -⟩ := render_aligns_distinct_rows Sample.layout
    [Sample.benchmark "a | é" "日本", Sample.benchmark "multi  " "foo ",
      Sample.benchmark "multi" "foo", Sample.benchmark "a | é" "日本"] (by decide)
  refine ⟨_, _, _, rfl, (hiff _ (by decide) _ (by decide)).mpr ?_, fun hsame => ?_, rows, hrender,
    (hrows.mem_iff _).mpr (by decide)⟩
  · exact ⟨rfl, rfl, rfl, by decide, by decide⟩
  · have hlook := (hiff _ (by decide) _ (by decide)).mp hsame
    exact absurd hlook.name (by decide)

end RunPlan.SummaryTable
