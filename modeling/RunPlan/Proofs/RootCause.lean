import RunPlan.Loader
import RunPlan.Proofs.Template.Evaluation

/-!
Errors that are causes by themselves. Main statement: whatever goes wrong in a single file is told
without a file around it, so the layer that names the file is the only one.
-/

set_option autoImplicit false

namespace RunPlan

variable {α β ε : Type}

/-- A step whose errors have no file around them. -/
def Unlayered (x : Except LoadError α) : Prop := ∀ e, x = .error e → e.rootCause = e

namespace Unlayered

theorem ok (a : α) : Unlayered (.ok a) := nofun

theorem error {e : LoadError} (h : e.rootCause = e) :
    Unlayered (.error e : Except LoadError α) := by
  intro e' he
  cases he
  exact h

theorem bind {x : Except LoadError α} {f : α → Except LoadError β} (hx : Unlayered x)
    (hf : ∀ a, Unlayered (f a)) : Unlayered (x >>= f) := by
  cases x with
  | error e => exact error (hx e rfl)
  | ok a => exact hf a

theorem map {x : Except LoadError α} {f : α → β} (hx : Unlayered x) : Unlayered (x.map f) := by
  cases x with
  | error e => exact error (hx e rfl)
  | ok a => exact ok (f a)

theorem mapError (x : Except ε α) {f : ε → LoadError} (hf : ∀ e, (f e).rootCause = f e) :
    Unlayered (x.mapError f) := by
  cases x with
  | error e => exact error (hf e)
  | ok a => exact ok a

theorem mapM {f : α → Except LoadError β} (hf : ∀ a, Unlayered (f a)) (as : List α) :
    Unlayered (as.mapM f) := by
  induction as with
  | nil => exact ok []
  | cons a as ih =>
    rw [List.mapM_cons]
    exact bind (hf a) fun b => bind ih fun bs => ok (b :: bs)

end Unlayered

private theorem Location.parse_unlayered (location : String) :
    Unlayered (Location.parse location) := by
  rw [parse]
  split
  · exact .ok _
  · split
    · split
      · rw [ofUrl]
        split
        · exact .error rfl
        · split
          · exact .error rfl
          · split <;> exact .ok _
      · exact .ok _
    · split
      · exact .error rfl
      · exact .ok _

private theorem Reader.resolve_unlayered (reader : Reader) (tree : FileTree) (location : String) :
    Unlayered (reader.resolve tree location) := by
  refine .bind (Location.parse_unlayered location) fun found => ?_
  split
  · exact .ok _
  · exact .error rfl

private theorem Resource.readText_unlayered (file : Resource) (tree : FileTree) :
    Unlayered (file.readText tree) :=
  .mapError _ fun _ => rfl

namespace Definition

variable (tree : FileTree)

private theorem readFile_unlayered (file : Resource) : Unlayered (readFile tree file) :=
  .bind (file.readText_unlayered tree) fun _ => .mapError _ fun _ => rfl

private theorem base?_unlayered (file : Resource) (definition : Yaml.Mapping) :
    Unlayered (base? file definition) := by
  rw [base?]
  split
  · exact .ok _
  · exact .ok _
  · exact .error rfl

private theorem loadFrom_unlayered (fuel : Nat) (visited : List Place) (file : Resource) :
    Unlayered (loadFrom tree fuel visited file) := by
  induction fuel generalizing visited file with
  | zero => exact .error rfl
  | succ fuel ih =>
    rw [loadFrom]
    refine .bind (.mapError _ fun _ => rfl) fun found => ?_
    dsimp only
    split
    · exact .error rfl
    · refine .bind (readFile_unlayered tree file) fun definition => ?_
      refine .bind (base?_unlayered file definition) fun next? => ?_
      cases next? with
      | none => exact .ok _
      | some next => exact .bind (ih _ next) fun parent => .ok _

private theorem readValues_unlayered (name : String) (entries : List (Yaml.Value × Yaml.Value)) :
    Unlayered (readValues name entries) := by
  induction entries with
  | nil => exact .ok []
  | cons entry entries ih =>
    obtain ⟨key, value⟩ := entry
    rw [readValues]
    split
    · exact .map ih
    · exact .error rfl

private theorem readGroup_unlayered (name group : Yaml.Value) :
    Unlayered (readGroup name group) := by
  cases group with
  | mapping entries => exact .map (readValues_unlayered _ entries)
  | null | bool | number | string | sequence | tagged => exact .error rfl

private theorem readGroups_unlayered (groups : List (Yaml.Value × Yaml.Value)) :
    Unlayered (readGroups groups) := by
  induction groups with
  | nil => exact .ok []
  | cons entry groups ih =>
    obtain ⟨name, group⟩ := entry
    exact .bind (readGroup_unlayered name group) fun found => .bind ih fun more => .ok _

private theorem candidates_unlayered (definition : Yaml.Mapping) :
    Unlayered (candidates definition) := by
  rw [candidates]
  split
  · exact .ok _
  · exact .ok _
  · exact .map (readGroups_unlayered _)
  · exact .error rfl

end Definition

namespace Template

private theorem evaluateVariable_unlayered (vars : Variables) (name : String) :
    Unlayered (evaluateVariable vars name) := by
  rw [evaluateVariable]
  split
  · rename_i value _
    split
    · refine .map (.bind (.mapError _ fun _ => rfl) fun nodes => ?_)
      refine .bind (.mapError _ fun _ => rfl) fun rendered => ?_
      dsimp only
      split
      · exact .error rfl
      · exact .ok _
    · exact .ok _
  · exact .ok _

private theorem rootCause_of_evaluateNames {vars : Variables} {names : List String} {halt : Halt}
    (h : evaluateNames vars names = .error halt) : halt.error.rootCause = halt.error := by
  obtain ⟨_, name, _, -, -, hstep⟩ := exists_of_evaluateNames_eq_error h
  exact evaluateVariable_unlayered halt.vars name halt.error hstep

end Template

private theorem Descriptor.ofVariables_unlayered (vars : Variables) :
    Unlayered (Descriptor.ofVariables vars) := by
  rw [ofVariables]
  split
  · split
    · exact .ok _
    · exact .error rfl
  · exact .error rfl

private theorem Descriptor.count_unlayered (d : Descriptor) (key : String) :
    Unlayered (d.count key) := by
  rw [count]
  split
  · exact .ok _
  · split
    · exact .ok _
    · exact .error rfl

private theorem Descriptor.prewarmRuns_unlayered (d : Descriptor) : Unlayered d.prewarmRuns := by
  refine .bind (d.count_unlayered _) fun count? => ?_
  cases count? with
  | none => exact d.count_unlayered _
  | some n => exact .ok _

private theorem Definition.descriptors_unlayered (definition : Yaml.Mapping) :
    Unlayered (descriptors definition) := by
  refine .bind (candidates_unlayered definition) fun found => .mapM (fun candidate => ?_) found
  rw [describe]
  split
  · exact Descriptor.ofVariables_unlayered _
  · rename_i halt hhalt
    exact .error (Template.rootCause_of_evaluateNames hhalt)

private theorem BenchmarkDraft.build_unlayered (d : BenchmarkDraft) : Unlayered d.build := by
  rw [build]
  split
  · split
    · exact .ok _
    · exact .error rfl
  · exact .error rfl

private theorem Benchmark.ofDescriptor_unlayered (name sequenceId environment : String)
    (d : Descriptor)
    (queries : List Query) :
    Unlayered (Benchmark.ofDescriptor name sequenceId environment d queries) :=
  .bind (d.count_unlayered _) fun _ => .bind d.prewarmRuns_unlayered fun _ =>
    .bind (d.count_unlayered _) fun _ => .bind (d.count_unlayered _) fun _ =>
      BenchmarkDraft.build_unlayered _

theorem QuerySource.ofDirectory_unlayered (reader : Reader) (directory : String) (tree : FileTree)
    (names : List String) : Unlayered (QuerySource.ofDirectory reader directory tree names) :=
  .mapM (fun _ => .bind (reader.resolve_unlayered tree _) fun file =>
    .bind (file.readText_unlayered tree) fun _ => .ok _) names

theorem Loader.benchmarksIn_unlayered {l : Loader}
    (hqueries : ∀ tree names, Unlayered (l.queries tree names)) (tree : FileTree)
    (name sequenceId : String) (file : Resource) :
    Unlayered (l.benchmarksIn tree name sequenceId file) := by
  refine .bind (Definition.loadFrom_unlayered tree _ _ file) fun definition => ?_
  refine .bind (Definition.descriptors_unlayered definition) fun ds => .mapM (fun d => ?_) ds
  exact .bind (hqueries tree d.queryNames) fun found =>
    Benchmark.ofDescriptor_unlayered name sequenceId l.config.environmentName d found

end RunPlan
