import Mathlib.Data.List.Nodup
import WorkspaceServers.CommandLine.Arguments
import WorkspaceServers.Config.Load
import WorkspaceServers.Keyed.Lemmas
import WorkspaceServers.Proofs.Session.Preparing

/-!
Where launch settings come from. At every key a context goes before its defaults, with a blank
text too, so it makes no difference in which order layers are merged. What a server is launched
with is told by four choices, each between a flag and a configured text.
-/

namespace WorkspaceServers.Launch

section Layers

variable {context defaults : Context}

theorem Context.eq_of_raw?_eq {first second : Context}
    (same : ∀ key, first.raw? key = second.raw? key) : first = second := by
  obtain ⟨entries, ascending⟩ := first
  obtain ⟨entries', ascending'⟩ := second
  have equal : entries = entries' := Keyed.eq_of_find?_eq ascending ascending' same
  subst equal
  rfl

theorem raw?_empty (key : String) : Context.empty.raw? key = none := rfl

theorem raw?_mergedOver (context defaults : Context) (key : String) :
    (context.mergedOver defaults).raw? key = (context.raw? key).or (defaults.raw? key) := by
  -- The entries that are filled in are those of a map, so their order does not matter.
  have distinct : ((defaults.entries.filter fun entry =>
      !Keyed.contains entry.1 context.entries).map Prod.fst).Nodup :=
    (Keyed.nodup_keys defaults.ascending).sublist (List.filter_sublist.map Prod.fst)
  rw [Context.raw?, Context.mergedOver, Keyed.find?_insertAll, Keyed.find?_reverse distinct,
    Keyed.find?_filter key fun key => !Keyed.contains key context.entries]
  rw [Context.raw?, Context.raw?, Keyed.contains]
  cases Keyed.find? key context.entries with
  | none => simp
  | some value => simp

/-- Filling in defaults is a law of first come, first served. -/
structure Merges : Prop where
  raw : ∀ context defaults key, (Context.mergedOver context defaults).raw? key =
    (context.raw? key).or (defaults.raw? key)
  assoc : ∀ first second third : Context,
    (first.mergedOver second).mergedOver third = first.mergedOver (second.mergedOver third)
  self : ∀ context : Context, context.mergedOver context = context
  empty_left : ∀ context, Context.empty.mergedOver context = context
  empty_right : ∀ context : Context, context.mergedOver .empty = context

theorem merges : Merges := by
  refine ⟨raw?_mergedOver, ?_, ?_, ?_, ?_⟩
  · intro first second third
    apply Context.eq_of_raw?_eq
    intro key
    simp only [raw?_mergedOver, Option.or_assoc]
  · intro context
    apply Context.eq_of_raw?_eq
    intro key
    simp only [raw?_mergedOver, Option.or_self]
  · intro context
    apply Context.eq_of_raw?_eq
    intro key
    simp only [raw?_mergedOver, raw?_empty, Option.none_or]
  · intro context
    apply Context.eq_of_raw?_eq
    intro key
    simp only [raw?_mergedOver, raw?_empty, Option.or_none]

end Layers

section Choices

def Blank (value : String) : Prop := ∀ c ∈ value.toList, Text.isBlank c = true

def Unset (value? : Option String) : Prop := ∀ value, value? = some value → Blank value

variable {context : Context} {name value : String}

theorem isBlank_iff : Context.isBlank value = true ↔ Blank value := List.all_eq_true

theorem get?_eq_some_iff :
    context.get? name = some value ↔ context.raw? name = some value ∧ ¬ Blank value := by
  rw [Context.get?, Option.filter_eq_some_iff, ← isBlank_iff]
  simp

theorem get?_eq_none_iff : context.get? name = none ↔ Unset (context.raw? name) := by
  rw [Context.get?, Option.filter_eq_none_iff]
  simp only [Unset, Bool.not_eq_true', Bool.not_eq_false, isBlank_iff]

/-- The first required setting for which there is no value. -/
def FirstUnset (chosen : Setting → Option String) (setting : Setting) : Prop :=
  ∃ place : Nat, required[place]? = some setting ∧ Unset (chosen setting) ∧
    ∀ earlier other, earlier < place → required[earlier]? = some other → ¬ Unset (chosen other)

/-- The spec holds what has been chosen, as it was chosen. -/
structure Fills (chosen : Setting → Option String) (spec : Spec) : Prop where
  serverPath : chosen .serverPath = some spec.serverPath ∧ ¬ Blank spec.serverPath
  sdkPath : chosen .sdkPath = some spec.sdkPath ∧ ¬ Blank spec.sdkPath
  target : chosen .target = some spec.target ∧ ¬ Blank spec.target
  toolchain : ∀ path, spec.toolchain = some path ↔ chosen .toolchain = some path ∧ ¬ Blank path
  no_toolchain : spec.toolchain = none ↔ Unset (chosen .toolchain)

/-- The choices alone tell what a launch comes to. -/
structure Decides (chosen : Setting → Option String) (result : Except MissingSetting Spec) :
    Prop where
  refused_iff : ∀ setting, result = .error ⟨setting⟩ ↔ FirstUnset chosen setting
  filled_iff : ∀ spec, result = .ok spec ↔ Fills chosen spec

theorem firstUnset_iff {setting : Setting} :
    FirstUnset (fun setting => context.raw? setting.name) setting ↔
      ∃ place, Lacks context place setting := by
  simp only [FirstUnset, ← get?_eq_none_iff]
  constructor
  · rintro ⟨place, asked, absent, first⟩
    exact ⟨place, asked, absent, first⟩
  · rintro ⟨place, asked, absent, first⟩
    exact ⟨place, asked, absent, first⟩

theorem fills_iff {spec : Spec} :
    Fills (fun setting => context.raw? setting.name) spec ↔ Sets context spec := by
  constructor
  · rintro ⟨serverPath, sdkPath, target, toolchain, no_toolchain⟩
    refine ⟨get?_eq_some_iff.mpr serverPath, get?_eq_some_iff.mpr sdkPath,
      get?_eq_some_iff.mpr target, ?_⟩
    apply Option.ext
    intro path
    rw [get?_eq_some_iff, toolchain]
  · rintro ⟨serverPath, sdkPath, target, toolchain⟩
    refine ⟨get?_eq_some_iff.mp serverPath, get?_eq_some_iff.mp sdkPath,
      get?_eq_some_iff.mp target, fun path => ?_, ?_⟩
    · rw [← toolchain, get?_eq_some_iff]
    · rw [← toolchain, get?_eq_none_iff]

theorem Lacks.unique {place place' : Nat} {setting other : Setting}
    (lacks : Lacks context place setting) (lacks' : Lacks context place' other) :
    setting = other := by
  rcases Nat.lt_trichotomy place place' with before | rfl | behind
  · exact absurd lacks.absent (lacks'.first place setting before lacks.asked)
  · exact Option.some.inj (lacks.asked.symm.trans lacks'.asked)
  · exact absurd lacks'.absent (lacks.first place' other behind lacks'.asked)

theorem decides (context : Context) :
    Decides (fun setting => context.raw? setting.name) (Spec.ofContext context) := by
  constructor
  · intro setting
    rw [firstUnset_iff]
    rcases ofContext_cases context with ⟨place, first, lacks, refused⟩ | ⟨spec, sets, filled⟩
    · rw [refused]
      constructor
      · intro same
        cases same
        exact ⟨place, lacks⟩
      · rintro ⟨place', lacks'⟩
        rw [lacks.unique lacks']
    · rw [filled]
      constructor
      · intro wrong
        cases wrong
      · rintro ⟨place, lacks⟩
        exact absurd lacks.absent (sets.get?_ne_none lacks.asked)
  · -- All settings are there, and the spec is what they say, or it is refused.
    intro spec
    rw [fills_iff]
    rcases ofContext_cases context with ⟨place, first, lacks, refused⟩ | ⟨found, sets, filled⟩
    · rw [refused]
      constructor
      · intro wrong
        cases wrong
      · intro sets
        exact absurd lacks.absent (sets.get?_ne_none lacks.asked)
    · rw [filled]
      constructor
      · intro same
        cases same
        exact sets
      · intro sets'
        rw [sets.unique sets']

end Choices

section Sources

theorem name_inj {first second : Setting} (same : first.name = second.name) : first = second := by
  cases first <;> cases second <;> simp [Setting.name] at same ⊢

theorem ofSettings_eq (settings : List (Setting × Option String)) :
    Context.ofSettings settings =
      .ofList (settings.filterMap fun entry => entry.2.map (entry.1.name, ·)) := rfl

theorem raw?_ofSettings {settings : List (Setting × Option String)}
    (distinct : (settings.map Prod.fst).Nodup) {setting : Setting} {value? : Option String}
    (member : (setting, value?) ∈ settings) :
    (Context.ofSettings settings).raw? setting.name = value? := by
  -- Settings have different names, so no entry hides another.
  have keys : ((settings.filterMap fun entry =>
      entry.2.map (entry.1.name, ·)).map Prod.fst).Nodup := by
    refine List.pairwise_map.mpr (List.pairwise_filterMap.mpr ?_)
    refine (List.pairwise_map.mp distinct).imp ?_
    intro first second apart pair found pair' found'
    obtain ⟨_, -, rfl⟩ := Option.map_eq_some_iff.mp found
    obtain ⟨_, -, rfl⟩ := Option.map_eq_some_iff.mp found'
    exact fun same => apart (name_inj same)
  apply Option.ext
  intro value
  rw [Context.raw?, ofSettings_eq, Context.ofList, Keyed.find?_ofList,
    Keyed.find?_reverse keys, Keyed.find?_eq_some_iff_of_nodup keys, List.mem_filterMap]
  constructor
  · rintro ⟨⟨other, given⟩, member', found⟩
    obtain ⟨_, rfl, same⟩ := Option.map_eq_some_iff.mp found
    obtain ⟨named, rfl⟩ := Prod.mk.inj same
    have equal := List.inj_on_of_nodup_map distinct member' member (name_inj named)
    exact (Prod.mk.inj equal).2.symm
  · rintro rfl
    exact ⟨_, member, rfl⟩

theorem raw?_ofSettings_all (given : Setting → Option String) (setting : Setting) :
    (Context.ofSettings [(.serverPath, given .serverPath), (.sdkPath, given .sdkPath),
      (.target, given .target), (.toolchain, given .toolchain)]).raw? setting.name =
        given setting := by
  have distinct : [Setting.serverPath, .sdkPath, .target, .toolchain].Nodup := by decide
  apply raw?_ofSettings
  · exact distinct
  · cases setting <;> simp

end Sources

end WorkspaceServers.Launch

namespace WorkspaceServers

open Launch (Setting)

def CommandLine.Arguments.flag (arguments : Arguments) : Setting → Option String
  | .serverPath => arguments.serverPath
  | .sdkPath => arguments.sdkPath
  | .target => arguments.target
  | .toolchain => arguments.toolchain

def Config.Settings.configured (settings : Settings) (setting : Setting) : Option String :=
  settings.server.bind fun server =>
    match setting with
    | .serverPath => server.path
    | .sdkPath => server.sdkPath
    | .target => server.target
    | .toolchain => server.toolchain

namespace Launch

/-- The flag if it is given, else what the config file has, expanded. -/
def chosen (arguments : CommandLine.Arguments) (settings : Config.Settings)
    (environment : Environment) (setting : Setting) : Option String :=
  (arguments.flag setting).or ((settings.configured setting).map environment.expand)

theorem raw?_launchContext (arguments : CommandLine.Arguments) (setting : Setting) :
    arguments.launchContext.raw? setting.name = arguments.flag setting :=
  raw?_ofSettings_all arguments.flag setting

theorem raw?_launchDefaults (settings : Config.Settings) (environment : Environment)
    (setting : Setting) :
    (settings.launchDefaults environment).raw? setting.name =
      (settings.configured setting).map environment.expand := by
  obtain ⟨storage, server⟩ := settings
  cases server with
  | none => rfl
  | some server =>
    exact raw?_ofSettings_all (fun setting =>
      (Config.Settings.configured ⟨storage, some server⟩ setting).map environment.expand) setting

theorem raw?_launched (arguments : CommandLine.Arguments) (settings : Config.Settings)
    (environment : Environment) (setting : Setting) :
    (arguments.launchContext.mergedOver (settings.launchDefaults environment)).raw? setting.name =
      chosen arguments settings environment setting := by
  rw [raw?_mergedOver, raw?_launchContext, raw?_launchDefaults, chosen]

theorem ofContext_congr {first second : Context}
    (same : ∀ setting : Setting, first.raw? setting.name = second.raw? setting.name) :
    Spec.ofContext first = Spec.ofContext second := by
  have read (setting : Setting) : first.get? setting.name = second.get? setting.name := by
    rw [Context.get?, Context.get?, same]
  simp only [Spec.ofContext, Spec.require, read]

/-- Which of the layers settles what a server is launched with. -/
structure Precedes : Prop where
  merges : Merges
  decided : ∀ arguments settings environment,
    Decides (chosen arguments settings environment)
      (Spec.ofContext (arguments.launchContext.mergedOver (settings.launchDefaults environment)))
  others : ∀ context defaults context' defaults' : Context,
    (∀ setting : Setting, context.raw? setting.name = context'.raw? setting.name) →
    (∀ setting : Setting, defaults.raw? setting.name = defaults'.raw? setting.name) →
      Spec.ofContext (context.mergedOver defaults) = Spec.ofContext (context'.mergedOver defaults')

theorem settings_precedence : Precedes := by
  refine ⟨merges, ?_, ?_⟩
  · intro arguments settings environment
    have decided := decides
      (arguments.launchContext.mergedOver (settings.launchDefaults environment))
    simp only [raw?_launched] at decided
    exact decided
  · intro context defaults context' defaults' same same'
    apply ofContext_congr
    intro setting
    rw [raw?_mergedOver, raw?_mergedOver, same, same']

/-- A blank flag keeps the configured value out and gives none itself. -/
example : Spec.ofContext ((Context.ofList [("SDKPath", " ")]).mergedOver
    (Context.ofList [("serverPath", "lsp"), ("SDKPath", "/sdk"), ("target", "x86")])) =
      .error ⟨.sdkPath⟩ := by
  rfl

end Launch

end WorkspaceServers
