import RunPlan.CommandLine.Run
import RunPlan.Proofs.FileTree.Writing
import RunPlan.Proofs.Toml.Documents
import Mathlib.Data.List.Nodup

/-!
Configurations in files. Main statement: a saved configuration is loaded as it was, any part of its
lines gives the settings of these lines and the standard ones for the others, and a configuration
that cannot be saved changes no file.
-/

set_option autoImplicit false

namespace RunPlan.Config

open RunPlan.Toml

/-- A setting with a line of its own at the top of a file. -/
inductive Setting
  | benchmarksDir
  | sqlDir
  | environmentName
  | activeBenchmarks
  | activeVariables
  | frequencyCheck
  | classpathRoots
  deriving DecidableEq, Repr

/-- A setting with a line of its own in the table of the service. -/
inductive ServiceSetting
  | url
  | timeout
  deriving DecidableEq, Repr

namespace Setting

def all : List Setting :=
  [benchmarksDir, sqlDir, environmentName, activeBenchmarks, activeVariables, frequencyCheck,
    classpathRoots]

def key : Setting → String
  | benchmarksDir => "benchmarks-dir"
  | sqlDir => "sql-dir"
  | environmentName => "environment-name"
  | activeBenchmarks => "active-benchmarks"
  | activeVariables => "active-variables"
  | frequencyCheck => "frequency-check-enabled"
  | classpathRoots => "classpath-roots"

/-- How a configuration writes the value of a setting. One that is not set has no line. -/
def text? (c : Config) : Setting → Option String
  | benchmarksDir => some (stringText c.benchmarksDir)
  | sqlDir => some (stringText c.sqlDir)
  | environmentName => some (stringText c.environmentName)
  | activeBenchmarks => c.activeBenchmarks?.map stringsText
  | activeVariables => c.activeVariables?.map stringText
  | frequencyCheck => some (if c.frequencyCheck then "true" else "false")
  | classpathRoots => some (stringsText (c.classpathRoots.map Path.text))

def written (c : Config) (s : Setting) : String := ((s.text? c).map (assignment s.key)).getD ""

private theorem isBare_key (s : Setting) : IsBare s.key := by
  cases s <;> exact ⟨by decide, List.all_eq_true.mp (by decide)⟩

private theorem key_injective : Function.Injective key := by
  intro s t h
  cases s <;> cases t <;> first | rfl | exact absurd h (by decide)

private theorem key_ne_service (s : Setting) : s.key ≠ "service" := by
  cases s <;> decide

end Setting

namespace ServiceSetting

def all : List ServiceSetting := [url, timeout]

def key : ServiceSetting → String
  | url => "url"
  | timeout => "timeout-secs"

def text (c : Config) : ServiceSetting → String
  | url => stringText c.serviceUrl
  | timeout => toString c.serviceTimeout

def written (c : Config) (s : ServiceSetting) : String := assignment s.key (s.text c)

private theorem isBare_key (s : ServiceSetting) : IsBare s.key := by
  cases s <;> exact ⟨by decide, List.all_eq_true.mp (by decide)⟩

private theorem key_injective : Function.Injective key := by
  intro s t h
  cases s <;> cases t <;> first | rfl | exact absurd h (by decide)

end ServiceSetting

private theorem isBare_service : IsBare "service" := ⟨by decide, List.all_eq_true.mp (by decide)⟩

/-- Which settings a file holds, each once and in any order, with a table of the service or without
one. -/
structure Part where
  settings : List Setting
  service? : Option (List ServiceSetting)
  nodup : settings.Nodup
  nodup_service : (service?.getD []).Nodup

namespace Part

def whole : Part := ⟨Setting.all, some ServiceSetting.all, by decide, by decide⟩

/-- The text of a file that holds this part of what is saved of a configuration. -/
def text (p : Part) (c : Config) : String :=
  String.join (p.settings.map (Setting.written c)) ++
    (p.service?.map fun inner =>
      header "service" ++ String.join (inner.map (ServiceSetting.written c))).getD ""

/-- The configuration with the standard settings in place of those that are not in the part. -/
def config (p : Part) (c : Config) : Config where
  benchmarksDir :=
    if .benchmarksDir ∈ p.settings then c.benchmarksDir else standard.benchmarksDir
  sqlDir := if .sqlDir ∈ p.settings then c.sqlDir else standard.sqlDir
  environmentName :=
    if .environmentName ∈ p.settings then c.environmentName else standard.environmentName
  activeBenchmarks? :=
    if .activeBenchmarks ∈ p.settings then c.activeBenchmarks? else standard.activeBenchmarks?
  activeVariables? :=
    if .activeVariables ∈ p.settings then c.activeVariables? else standard.activeVariables?
  frequencyCheck :=
    if .frequencyCheck ∈ p.settings then c.frequencyCheck else standard.frequencyCheck
  classpathRoots :=
    if .classpathRoots ∈ p.settings then c.classpathRoots else standard.classpathRoots
  serviceUrl := if .url ∈ p.service?.getD [] then c.serviceUrl else standard.serviceUrl
  serviceTimeout :=
    if .timeout ∈ p.service?.getD [] then c.serviceTimeout else standard.serviceTimeout

private theorem config_whole (c : Config) : whole.config c = c := by
  simp [config, whole, Setting.all, ServiceSetting.all]

end Part

private theorem text?_eq (c : Config) : c.text? =
    if maxInteger < c.serviceTimeout then none else some (Part.whole.text c) := by
  unfold text?
  split
  · rfl
  · simp only [Part.text, Part.whole, Setting.all, ServiceSetting.all, List.map_cons, List.map_nil,
      String.join_cons, String.join_nil, Setting.written, Setting.text?, Option.map_map,
      Option.map_some, Option.getD_some, String.append_assoc]
    rfl

section Lines

variable {c : Config} {s : Setting} {settings : List Setting} {inner : List ServiceSetting}

def Setting.value? (c : Config) : Setting → Option Toml
  | benchmarksDir => some (.string c.benchmarksDir)
  | sqlDir => some (.string c.sqlDir)
  | environmentName => some (.string c.environmentName)
  | activeBenchmarks => c.activeBenchmarks?.map fun names => .array (names.map .string)
  | activeVariables => c.activeVariables?.map .string
  | frequencyCheck => some (.boolean c.frequencyCheck)
  | classpathRoots => some (.array ((c.classpathRoots.map Path.text).map .string))

def ServiceSetting.value (c : Config) : ServiceSetting → Toml
  | url => .string c.serviceUrl
  | timeout => .integer c.serviceTimeout

private theorem Setting.written_cases (c : Config) (s : Setting) :
    (s.written c = "" ∧ s.value? c = none) ∨
      ∃ l : Line, s.written c = l.written ∧ l.key = s.key ∧ s.value? c = some l.value := by
  have hline : ∀ {text v}, s.text? c = some text → s.value? c = some v → Writes text.toList v →
      ∃ l : Line, s.written c = l.written ∧ l.key = s.key ∧ s.value? c = some l.value := by
    intro text v htext hvalue hwrites
    refine ⟨⟨s.key, text, v, s.isBare_key, hwrites⟩, ?_, rfl, hvalue⟩
    rw [written, htext]
    rfl
  cases s with
  | benchmarksDir | sqlDir | environmentName => exact .inr (hline rfl rfl (writes_stringText _))
  | activeBenchmarks =>
    cases hnames : c.activeBenchmarks? with
    | none => exact .inl (by simp [written, text?, value?, hnames])
    | some names =>
      refine .inr (hline ?_ ?_ (writes_stringsText names)) <;> simp [text?, value?, hnames]
  | activeVariables =>
    cases hexpression : c.activeVariables? with
    | none => exact .inl (by simp [written, text?, value?, hexpression])
    | some e =>
      refine .inr (hline ?_ ?_ (writes_stringText e)) <;> simp [text?, value?, hexpression]
  | frequencyCheck => exact .inr (hline rfl rfl (writes_boolean _))
  | classpathRoots => exact .inr (hline rfl rfl (writes_stringsText _))

def entries (c : Config) (settings : List Setting) : List (String × Toml) :=
  settings.filterMap fun s => (s.value? c).map (s.key, ·)

private theorem exists_lines (c : Config) (settings : List Setting) : ∃ lines : List Line,
    linesText lines = String.join (settings.map (Setting.written c)) ∧
      lines.map Line.entry = c.entries settings := by
  induction settings with
  | nil => exact ⟨[], rfl, rfl⟩
  | cons s settings ih =>
    obtain ⟨lines, htext, hentries⟩ := ih
    rcases s.written_cases c with ⟨hwritten, hvalue⟩ | ⟨l, hwritten, hkey, hvalue⟩
    · refine ⟨lines, ?_, ?_⟩
      · rw [List.map_cons, String.join_cons, hwritten, String.empty_append, htext]
      · rw [entries, List.filterMap_cons_none (by rw [hvalue]; rfl)]
        exact hentries
    · refine ⟨l :: lines, ?_, ?_⟩
      · rw [List.map_cons, String.join_cons, hwritten, linesText_cons, htext]
      · rw [entries, List.filterMap_cons_some (by rw [hvalue]; rfl), List.map_cons, hentries,
          Line.entry, hkey]
        rfl

def serviceEntries (c : Config) (inner : List ServiceSetting) : List (String × Toml) :=
  inner.map fun s => (s.key, s.value c)

private theorem exists_serviceLines (hc : c.serviceTimeout ≤ maxInteger)
    (inner : List ServiceSetting) :
    ∃ lines : List Line,
      linesText lines = String.join (inner.map (ServiceSetting.written c)) ∧
        lines.map Line.entry = c.serviceEntries inner := by
  have hwrites : ∀ s : ServiceSetting, Writes (s.text c).toList (s.value c) := by
    intro s
    cases s with
    | url => exact writes_stringText _
    | timeout => exact writes_toString hc
  refine ⟨inner.map fun s => ⟨s.key, s.text c, s.value c, s.isBare_key, hwrites s⟩, ?_, ?_⟩
  · rw [linesText, List.map_map]
    rfl
  · rw [serviceEntries, List.map_map]
    rfl

private theorem keys_entries_sublist (c : Config) (settings : List Setting) :
    ((c.entries settings).map Prod.fst).Sublist (settings.map Setting.key) := by
  induction settings with
  | nil => exact .slnil
  | cons s settings ih =>
    cases hvalue : s.value? c with
    | none =>
      rw [entries, List.filterMap_cons_none (by rw [hvalue]; rfl)]
      exact .cons _ ih
    | some v =>
      rw [entries, List.filterMap_cons_some (by rw [hvalue]; rfl)]
      exact .cons_cons _ ih

private theorem nodup_keys_entries (c : Config) (h : settings.Nodup) :
    ((c.entries settings).map Prod.fst).Nodup :=
  (List.Nodup.map Setting.key_injective h).sublist (keys_entries_sublist c settings)

private theorem service_notMem_keys (c : Config) (settings : List Setting) :
    "service" ∉ (c.entries settings).map Prod.fst := by
  intro h
  obtain ⟨s, -, hs⟩ := List.mem_map.mp ((keys_entries_sublist c settings).subset h)
  exact s.key_ne_service hs

private theorem nodup_keys_serviceEntries (c : Config) (h : inner.Nodup) :
    ((c.serviceEntries inner).map Prod.fst).Nodup := by
  rw [serviceEntries, List.map_map]
  exact List.Nodup.map ServiceSetting.key_injective h

def Part.serviceEntry? (p : Part) (c : Config) : List (String × Toml) :=
  (p.service?.map fun inner => [("service", .table (c.serviceEntries inner))]).getD []

private theorem Part.parse?_text (p : Part) (hc : c.serviceTimeout ≤ maxInteger) :
    Toml.parse? (p.text c) = some (c.entries p.settings ++ p.serviceEntry? c) := by
  obtain ⟨lines, htext, hentries⟩ := exists_lines c p.settings
  have hkeys : lines.map Line.key = (c.entries p.settings).map Prod.fst := by
    rw [← hentries, List.map_map]
    rfl
  have hnodup : (lines.map Line.key).Nodup := hkeys ▸ nodup_keys_entries c p.nodup
  have hnodup' := p.nodup_service
  rw [text, ← htext, serviceEntry?, ← hentries]
  cases hservice : p.service? with
  | none =>
    have hread := parse?_linesText hnodup
    simpa using hread
  | some inner =>
    obtain ⟨lines', htext', hentries'⟩ := exists_serviceLines hc inner
    have hkeys' : lines'.map Line.key = (c.serviceEntries inner).map Prod.fst := by
      rw [← hentries', List.map_map]
      rfl
    rw [hservice] at hnodup'
    have hinner : (lines'.map Line.key).Nodup := hkeys' ▸ nodup_keys_serviceEntries c hnodup'
    have hread := parse?_linesText_table isBare_service hnodup
      (hkeys ▸ service_notMem_keys c p.settings) hinner
    rw [htext', hentries'] at hread
    simpa [String.append_assoc] using hread

end Lines

section Loading

variable {c : Config} {settings : List Setting} {inner : List ServiceSetting}

private theorem lookup_entries (c : Config) (s : Setting) (settings : List Setting) :
    (c.entries settings).lookup s.key = if s ∈ settings then s.value? c else none := by
  induction settings with
  | nil => rfl
  | cons t settings ih =>
    by_cases hs : s = t
    · subst hs
      cases hvalue : s.value? c with
      | none =>
        rw [entries, List.filterMap_cons_none (by rw [hvalue]; rfl), ← entries, ih, hvalue]
        simp
      | some v =>
        rw [entries, List.filterMap_cons_some (by rw [hvalue]; rfl)]
        simp
    · have hkey : s.key ≠ t.key := fun h => hs (Setting.key_injective h)
      have hcons : (s ∈ t :: settings) ↔ s ∈ settings := by simp [hs]
      simp only [hcons, ← ih]
      cases hvalue : t.value? c with
      | none => rw [entries, List.filterMap_cons_none (by rw [hvalue]; rfl), ← entries]
      | some v =>
        rw [entries, List.filterMap_cons_some (by rw [hvalue]; rfl), ← entries, List.lookup_cons,
          beq_eq_false_iff_ne.mpr hkey]

private theorem lookup_serviceEntries (c : Config) (s : ServiceSetting)
    (inner : List ServiceSetting) :
    (c.serviceEntries inner).lookup s.key = if s ∈ inner then some (s.value c) else none := by
  induction inner with
  | nil => rfl
  | cons t inner ih =>
    rw [serviceEntries, List.map_cons, List.lookup_cons]
    by_cases hs : s = t
    · simp [hs]
    · have hkey : s.key ≠ t.key := fun h => hs (ServiceSetting.key_injective h)
      rw [beq_eq_false_iff_ne.mpr hkey]
      have hcons : (s ∈ t :: inner) ↔ s ∈ inner := by simp [hs]
      simp only [hcons, ← ih]
      rfl

private theorem lookup_append_serviceEntry? (p : Part) (c : Config) (s : Setting) :
    (c.entries p.settings ++ p.serviceEntry? c).lookup s.key =
      if s ∈ p.settings then s.value? c else none := by
  have hother : (p.serviceEntry? c).lookup s.key = none := by
    rw [Part.serviceEntry?]
    cases p.service? with
    | none => rfl
    | some inner => simp [s.key_ne_service]
  rw [List.lookup_append, hother, Option.or_none, lookup_entries]

private theorem lookup_service (p : Part) (c : Config) :
    (c.entries p.settings ++ p.serviceEntry? c).lookup "service" =
      p.service?.map fun inner => .table (c.serviceEntries inner) := by
  have hnone : (c.entries p.settings).lookup "service" = none := by
    rw [List.lookup_eq_none_iff]
    intro e he
    have hne : "service" ≠ e.1 :=
      fun h => service_notMem_keys c p.settings (h ▸ List.mem_map_of_mem he)
    simpa using hne
  rw [List.lookup_append, hnone, Option.none_or, Part.serviceEntry?]
  cases p.service? <;> simp

section Keys

variable {α : Type} {entries : List (String × Toml)} {key : String} {present : Prop}
  [Decidable present] {value? : Option Toml} {read : Toml → Option α} {v : Toml} {default mine : α}

private theorem readKey_eq (hentry : entries.lookup key = if present then some v else none)
    (hread : read v = some mine) :
    readKey entries key read default = some (if present then mine else default) := by
  rw [readKey, hentry]
  by_cases hpresent : present
  · rw [if_pos hpresent, if_pos hpresent]
    exact hread
  · rw [if_neg hpresent, if_neg hpresent]

private theorem readKey_map_eq {mine? : Option α} {write : α → Toml}
    (hentry : entries.lookup key = if present then mine?.map write else none)
    (hread : ∀ a, read (write a) = some a) :
    readKey entries key (fun v => (read v).map some) none =
      some (if present then mine? else none) := by
  rw [readKey, hentry]
  by_cases hpresent : present
  · rw [if_pos hpresent, if_pos hpresent]
    cases mine? with
    | none => rfl
    | some a => exact congrArg (Option.map some) (hread a)
  · rw [if_neg hpresent, if_neg hpresent]

end Keys

private theorem readTexts_map (items : List String) :
    readTexts (.array (items.map .string)) = some items := by
  have hmap : (items.map Toml.string).mapM readText = some items := by
    induction items with
    | nil => rfl
    | cons item items ih => simp [readText, ih]
  exact hmap

private theorem readPaths_map (paths : List Path) :
    (readTexts (.array ((paths.map Path.text).map .string))).map (List.map Path.mk) =
      some paths := by
  rw [readTexts_map, Option.map_some, List.map_map]
  exact congrArg some (List.map_id paths)

private theorem readNat_natCast (n : Nat) : readNat (.integer n) = some n := by
  simp [readNat]

private theorem readService_eq (c c' : Config) (inner : List ServiceSetting) :
    c'.readService (.table (c.serviceEntries inner)) = some { c' with
      serviceUrl := if .url ∈ inner then c.serviceUrl else c'.serviceUrl
      serviceTimeout := if .timeout ∈ inner then c.serviceTimeout else c'.serviceTimeout } := by
  have hurl : readKey (c.serviceEntries inner) "url" readText c'.serviceUrl =
      some (if .url ∈ inner then c.serviceUrl else c'.serviceUrl) :=
    readKey_eq (lookup_serviceEntries c .url inner) rfl
  have htimeout : readKey (c.serviceEntries inner) "timeout-secs" readNat c'.serviceTimeout =
      some (if .timeout ∈ inner then c.serviceTimeout else c'.serviceTimeout) :=
    readKey_eq (lookup_serviceEntries c .timeout inner) (readNat_natCast _)
  simp only [readService, hurl, htimeout]
  rfl

private theorem Part.parse?_text_eq (p : Part) (hc : c.serviceTimeout ≤ maxInteger) :
    Config.parse? (p.text c) = some (p.config c) := by
  rw [Config.parse?, p.parse?_text hc, Option.bind_some]
  have hlookup := lookup_append_serviceEntry? p c
  have hservice := lookup_service p c
  generalize c.entries p.settings ++ p.serviceEntry? c = entries at hlookup hservice
  have hbenchmarks : readKey entries "benchmarks-dir" readText standard.benchmarksDir =
      some (if .benchmarksDir ∈ p.settings then c.benchmarksDir else standard.benchmarksDir) :=
    readKey_eq (hlookup .benchmarksDir) rfl
  have hsql : readKey entries "sql-dir" readText standard.sqlDir =
      some (if .sqlDir ∈ p.settings then c.sqlDir else standard.sqlDir) :=
    readKey_eq (hlookup .sqlDir) rfl
  have henvironment : readKey entries "environment-name" readText standard.environmentName =
      some (if .environmentName ∈ p.settings then c.environmentName
        else standard.environmentName) :=
    readKey_eq (hlookup .environmentName) rfl
  have hactive : readKey entries "active-benchmarks" (fun v => (readTexts v).map some)
      standard.activeBenchmarks? =
      some (if .activeBenchmarks ∈ p.settings then c.activeBenchmarks?
        else standard.activeBenchmarks?) :=
    readKey_map_eq (hlookup .activeBenchmarks) readTexts_map
  have hvariables : readKey entries "active-variables" (fun v => (readText v).map some)
      standard.activeVariables? =
      some (if .activeVariables ∈ p.settings then c.activeVariables?
        else standard.activeVariables?) :=
    readKey_map_eq (hlookup .activeVariables) fun _ => rfl
  have hfrequency : readKey entries "frequency-check-enabled" readBool standard.frequencyCheck =
      some (if .frequencyCheck ∈ p.settings then c.frequencyCheck
        else standard.frequencyCheck) :=
    readKey_eq (hlookup .frequencyCheck) rfl
  have hroots : readKey entries "classpath-roots"
      (fun v => (readTexts v).map fun roots => roots.map Path.mk) standard.classpathRoots =
      some (if .classpathRoots ∈ p.settings then c.classpathRoots
        else standard.classpathRoots) :=
    readKey_eq (hlookup .classpathRoots) (readPaths_map _)
  simp only [ofEntries?, hbenchmarks, hsql, henvironment, hactive, hvariables, hfrequency, hroots,
    hservice]
  cases hinner : p.service? with
  | none => simp [config, hinner]
  | some inner => simp [config, hinner, readService_eq]

end Loading

end RunPlan.Config

namespace RunPlan.CommandLine

open RunPlan.Config

private theorem readConfig_of_readText {tree : FileTree} {path : Path} {text : String}
    (h : tree.readText path = .ok text) {c : Config} (hc : Config.parse? text = some c) :
    readConfig tree path = .ok c := by
  rw [readConfig, h]
  dsimp only
  rw [hc]

/-- A configuration with a time that the format can hold is saved wherever a file can be written,
and loaded as it was. A file with any part of its lines has the settings of these lines and the
standard ones for the others. With a greater time nothing is saved and nothing changes. -/
theorem saveConfig_loads_back (tree : FileTree) (c : Config) (path : Path) :
    (c.serviceTimeout ≤ Toml.maxInteger →
      (∀ text? tree₀, tree.writeFile path text? = .ok tree₀ →
        ∃ tree', saveConfig tree c path = (.ok (), tree') ∧
          tree'.readText path = .ok (Part.whole.text c) ∧ readConfig tree' path = .ok c) ∧
      ∀ part : Part, tree.readText path = .ok (part.text c) →
        readConfig tree path = .ok (part.config c)) ∧
    (Toml.maxInteger < c.serviceTimeout →
      saveConfig tree c path = (.error .unwritableConfig, tree)) := by
  refine ⟨fun hc => ⟨fun text? tree₀ hwrite => ?_, fun part hread => ?_⟩, fun hc => ?_⟩
  · have htext : c.text? = some (Part.whole.text c) := by
      rw [text?_eq, if_neg (Int.not_lt.mpr hc)]
    obtain ⟨tree', hwritten⟩ :=
      FileTree.writeFile_of_writeFile hwrite (some (Part.whole.text c))
    have hread := FileTree.readText_writeFile hwritten
    refine ⟨tree', ?_, hread, ?_⟩
    · rw [saveConfig, htext]
      dsimp only
      rw [hwritten]
    · have hparse := Part.whole.parse?_text_eq hc
      rw [Part.config_whole] at hparse
      exact readConfig_of_readText hread hparse
  · exact readConfig_of_readText hread (part.parse?_text_eq hc)
  · rw [saveConfig, text?_eq, if_pos hc]

def Sample.config : Config :=
  { sqlDir := "it's\n\"\\", activeBenchmarks? := some [], serviceTimeout := 5 }

def Sample.part : Part := ⟨[.activeBenchmarks, .sqlDir], some [.url], by decide, by decide⟩

def Sample.tree : FileTree := ⟨[("plan.toml", .file (some (Sample.part.text Sample.config)))], []⟩

/-- A time that is one second above the largest integer of the format. -/
def Sample.late : Config := { Sample.config with serviceTimeout := 9223372036854775808 }

theorem saveConfig_sample_loads_back :
    (∃ tree', saveConfig ⟨[], []⟩ Sample.config ⟨"plan.toml"⟩ = (.ok (), tree') ∧
      tree'.readText ⟨"plan.toml"⟩ = .ok (Part.whole.text Sample.config) ∧
      readConfig tree' ⟨"plan.toml"⟩ = .ok Sample.config) ∧
    readConfig Sample.tree ⟨"plan.toml"⟩ =
      .ok { sqlDir := "it's\n\"\\", activeBenchmarks? := some [] } ∧
    saveConfig Sample.tree Sample.late ⟨"plan.toml"⟩ = (.error .unwritableConfig, Sample.tree) := by
  refine ⟨?_, ?_, ?_⟩
  · exact ((saveConfig_loads_back _ Sample.config _).1 (by decide)).1 none _ rfl
  · exact ((saveConfig_loads_back _ Sample.config _).1 (by decide)).2 Sample.part rfl
  · exact (saveConfig_loads_back _ Sample.late _).2 (by decide)

end RunPlan.CommandLine
