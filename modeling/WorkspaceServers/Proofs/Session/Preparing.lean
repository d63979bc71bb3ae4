import WorkspaceServers.Proofs.Workspace.Document
import WorkspaceServers.Session.Basic

/-!
What has to hold before a server is launched. Six things may stand in the way, and they are
looked for in one order; the first that is met is what the caller is told.
-/

namespace WorkspaceServers

open Launch (Context Machine Setting Spec)

namespace Launch

def required : List Setting := [.serverPath, .sdkPath, .target]

structure Sets (context : Context) (spec : Spec) : Prop where
  serverPath : context.get? Setting.serverPath.name = some spec.serverPath
  sdkPath : context.get? Setting.sdkPath.name = some spec.sdkPath
  target : context.get? Setting.target.name = some spec.target
  toolchain : context.get? Setting.toolchain.name = spec.toolchain

variable {context : Context} {spec : Spec}

theorem Sets.unique {other : Spec} (sets : Sets context spec) (sets' : Sets context other) :
    spec = other := by
  obtain ⟨serverPath, sdkPath, target, toolchain⟩ := spec
  obtain ⟨serverPath', sdkPath', target', toolchain'⟩ := other
  have same := Option.some.inj (sets.serverPath.symm.trans sets'.serverPath)
  have same' := Option.some.inj (sets.sdkPath.symm.trans sets'.sdkPath)
  have same'' := Option.some.inj (sets.target.symm.trans sets'.target)
  have same''' := sets.toolchain.symm.trans sets'.toolchain
  simp only at same same' same'' same'''
  rw [same, same', same'', same''']

theorem Sets.get?_ne_none (sets : Sets context spec) {place : Nat} {setting : Setting}
    (asked : required[place]? = some setting) : context.get? setting.name ≠ none := by
  have member := List.mem_of_getElem? asked
  simp only [required, List.mem_cons, List.not_mem_nil, or_false] at member
  rcases member with rfl | rfl | rfl
  · rw [sets.serverPath]
    exact Option.some_ne_none _
  · rw [sets.sdkPath]
    exact Option.some_ne_none _
  · rw [sets.target]
    exact Option.some_ne_none _

structure Lacks (context : Context) (place : Nat) (setting : Setting) : Prop where
  asked : required[place]? = some setting
  absent : context.get? setting.name = none
  first : ∀ earlier other, earlier < place → required[earlier]? = some other →
    context.get? other.name ≠ none

theorem ofContext_cases (context : Context) :
    (∃ place setting, Lacks context place setting ∧ Spec.ofContext context = .error ⟨setting⟩) ∨
      ∃ spec, Sets context spec ∧ Spec.ofContext context = .ok spec := by
  -- One setting after another, since the first one missing is the one that is told.
  cases serverPath : context.get? Setting.serverPath.name with
  | none =>
    refine .inl ⟨0, .serverPath, ⟨rfl, serverPath, nofun⟩, ?_⟩
    simp only [Spec.ofContext, Spec.require, serverPath, bind, Except.bind]
  | some program =>
    have given : context.get? Setting.serverPath.name ≠ none := by simp [serverPath]
    cases sdkPath : context.get? Setting.sdkPath.name with
    | none =>
      refine .inl ⟨1, .sdkPath, ⟨rfl, sdkPath, ?_⟩, ?_⟩
      · intro earlier other before asked
        obtain rfl : earlier = 0 := by omega
        cases asked
        exact given
      · simp only [Spec.ofContext, Spec.require, serverPath, sdkPath, bind, Except.bind]
    | some sdk =>
      have given' : context.get? Setting.sdkPath.name ≠ none := by simp [sdkPath]
      cases target : context.get? Setting.target.name with
      | none =>
        refine .inl ⟨2, .target, ⟨rfl, target, ?_⟩, ?_⟩
        · intro earlier other before asked
          obtain rfl | rfl : earlier = 0 ∨ earlier = 1 := by omega
          · cases asked
            exact given
          · cases asked
            exact given'
        · simp only [Spec.ofContext, Spec.require, serverPath, sdkPath, target, bind, Except.bind]
      | some platform =>
        refine .inr ⟨⟨program, sdk, platform, context.get? Setting.toolchain.name⟩,
          ⟨serverPath, sdkPath, target, rfl⟩, ?_⟩
        simp only [Spec.ofContext, Spec.require, serverPath, sdkPath, target, bind, Except.bind]
        rfl

end Launch

namespace Session

open Launch (Lacks Sets required)

/-- What stands in the way of a launch, by the place at which it is looked for. -/
inductive Obstacle (machine : Machine) (root : Path) (context : Context) : Nat → Failure → Prop
    where
  | unset {place : Nat} {setting : Setting} (asked : required[place]? = some setting)
      (absent : context.get? setting.name = none) :
      Obstacle machine root context place (.missingSetting ⟨setting⟩)
  | noUri (absent : root.fileUri? = none) : Obstacle machine root context 3 (.invalidPath root)
  | notFound {serverPath : String}
      (given : context.get? Setting.serverPath.name = some serverPath)
      (absent : machine.find? serverPath = none) :
      Obstacle machine root context 4 (.serverNotFound (.ofString serverPath))
  | notRun {spec : Spec} {program : Path} (sets : Sets context spec)
      (found : machine.find? spec.serverPath = some program)
      (refused : machine.canRun (spec.command program) = false) :
      Obstacle machine root context 5 (.notLaunched program)

def Meets (machine : Machine) (root : Path) (context : Context) (failure : Failure) : Prop :=
  ∃ place, Obstacle machine root context place failure ∧
    ∀ earlier other, earlier < place → ¬ Obstacle machine root context earlier other

structure Prepared (machine : Machine) (root : Path) (context : Context)
    (command : Launch.Command) (rootUri : String) : Prop where
  uri : root.fileUri? = some rootUri
  spec : ∃ spec program, Sets context spec ∧ machine.find? spec.serverPath = some program ∧
    command = spec.command program
  runs : machine.canRun command = true

variable {machine : Machine} {session : Session} {root : Path} {context : Context}
variable {place : Nat} {failure : Failure}

theorem place_lt_three {setting : Setting} (asked : required[place]? = some setting) :
    place < 3 :=
  (List.getElem?_eq_some_iff.mp asked).1

theorem Obstacle.unique {other : Failure} (met : Obstacle machine root context place failure)
    (met' : Obstacle machine root context place other) : failure = other := by
  -- Settings have the first three places, and each of the others has one of its own.
  cases met with
  | unset asked absent =>
    cases met' with
    | unset asked' absent' =>
      rw [asked] at asked'
      cases asked'
      rfl
    | noUri | notFound | notRun => exact absurd (place_lt_three asked) (by omega)
  | noUri absent =>
    cases met' with
    | unset asked' _ => exact absurd (place_lt_three asked') (by omega)
    | noUri => rfl
  | notFound given absent =>
    cases met' with
    | unset asked' _ => exact absurd (place_lt_three asked') (by omega)
    | notFound given' absent' =>
      rw [given] at given'
      cases given'
      rfl
  | notRun sets found refused =>
    cases met' with
    | unset asked' _ => exact absurd (place_lt_three asked') (by omega)
    | notRun sets' found' refused' =>
      cases sets.unique sets'
      rw [found] at found'
      cases found'
      rfl

theorem Meets.unique {other : Failure} (meets : Meets machine root context failure)
    (meets' : Meets machine root context other) : failure = other := by
  obtain ⟨place, met, first⟩ := meets
  obtain ⟨place', met', first'⟩ := meets'
  rcases Nat.lt_trichotomy place place' with before | same | behind
  · exact absurd met (first' place failure before)
  · subst same
    exact met.unique met'
  · exact absurd met' (first place' other behind)

section Order

variable {spec : Spec}

theorem clear_of_sets (sets : Sets context spec) (early : place < 3) :
    ¬ Obstacle machine root context place failure := by
  intro met
  cases met with
  | unset asked absent => exact sets.get?_ne_none asked absent
  | noUri | notFound | notRun => omega

theorem clear_of_uri {rootUri : String} (sets : Sets context spec)
    (uri : root.fileUri? = some rootUri) (early : place < 4) :
    ¬ Obstacle machine root context place failure := by
  intro met
  by_cases settings : place < 3
  · exact clear_of_sets sets settings met
  · obtain rfl : place = 3 := by omega
    cases met with
    | unset asked absent => exact settings (place_lt_three asked)
    | noUri absent =>
      rw [uri] at absent
      cases absent

theorem clear_of_found {rootUri : String} {program : Path} (sets : Sets context spec)
    (uri : root.fileUri? = some rootUri) (found : machine.find? spec.serverPath = some program)
    (early : place < 5) : ¬ Obstacle machine root context place failure := by
  intro met
  by_cases before : place < 4
  · exact clear_of_uri sets uri before met
  · obtain rfl : place = 4 := by omega
    cases met with
    | unset asked absent => exact absurd (place_lt_three asked) (by omega)
    | notFound given absent =>
      rw [sets.serverPath] at given
      cases given
      rw [found] at absent
      cases absent

theorem meets_of_lacks {setting : Setting} (lacks : Lacks context place setting) :
    Meets machine root context (.missingSetting ⟨setting⟩) := by
  refine ⟨place, .unset lacks.asked lacks.absent, ?_⟩
  intro earlier other before met
  have early := place_lt_three lacks.asked
  cases met with
  | unset asked absent => exact lacks.first earlier _ before asked absent
  | noUri | notFound | notRun => omega

end Order

theorem Prepared.clear {command : Launch.Command} {rootUri : String}
    (prepared : Prepared machine root context command rootUri) :
    ¬ Obstacle machine root context place failure := by
  obtain ⟨spec, program, sets, found, same⟩ := prepared.spec
  intro met
  by_cases early : place < 5
  · exact clear_of_found sets prepared.uri found early met
  · cases met with
    | unset asked absent => exact absurd (place_lt_three asked) (by omega)
    | noUri | notFound => omega
    | notRun sets' found' refused =>
      cases sets.unique sets'
      rw [found] at found'
      cases found'
      rw [← same, prepared.runs] at refused
      cases refused

theorem prepareLaunch_cases (machine : Machine) (session : Session) (context : Context) :
    (∃ failure, Meets machine session.root context failure ∧
      session.prepareLaunch machine context = .error failure) ∨
    ∃ command rootUri, Prepared machine session.root context command rootUri ∧
      session.prepareLaunch machine context = .ok (command, rootUri) := by
  rcases Launch.ofContext_cases context with
    ⟨place, setting, lacks, failed⟩ | ⟨spec, sets, settings⟩
  · refine .inl ⟨_, meets_of_lacks lacks, ?_⟩
    have missed : (Spec.ofContext context).mapError Failure.missingSetting =
        .error (.missingSetting ⟨setting⟩) := by
      rw [failed]
      rfl
    simp only [prepareLaunch, missed, bind, Except.bind]
  have given : (Spec.ofContext context).mapError Failure.missingSetting = .ok spec := by
    rw [settings]
    rfl
  -- The settings are there; what is looked for next is looked for in this order.
  cases uri : session.root.fileUri? with
  | none =>
    refine .inl ⟨_, ⟨3, .noUri uri, fun _ _ early => clear_of_sets sets early⟩, ?_⟩
    simp only [prepareLaunch, given, uri, bind, Except.bind]
  | some rootUri =>
    cases found : machine.find? spec.serverPath with
    | none =>
      refine .inl ⟨_, ⟨4, .notFound sets.serverPath found, ?_⟩, ?_⟩
      · intro earlier other early
        exact clear_of_uri sets uri early
      · simp only [prepareLaunch, given, uri, found, bind, Except.bind]
    | some program =>
      cases runs : machine.canRun (spec.command program) with
      | false =>
        refine .inl ⟨_, ⟨5, .notRun sets found runs, ?_⟩, ?_⟩
        · intro earlier other early
          exact clear_of_found sets uri found early
        · simp [prepareLaunch, given, uri, found, runs, bind, Except.bind]
      | true =>
        have prepared : Prepared machine session.root context (spec.command program) rootUri :=
          ⟨uri, ⟨spec, program, sets, found, rfl⟩, runs⟩
        refine .inr ⟨spec.command program, rootUri, prepared, ?_⟩
        simp [prepareLaunch, given, uri, found, runs, bind, Except.bind]

end Session

end WorkspaceServers
