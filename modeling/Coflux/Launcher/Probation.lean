import Coflux.Launcher.Candidacy
import Coflux.Launcher.ReleaseFloor

namespace Coflux.Launcher
open StepMachine

def CommitsSound (config : Config) (s : LauncherState) : Prop :=
  ∀ record ∈ s.commits, ∃ process vouch link, SoundCommit config record process vouch link

-- A rollback goes to the builtin or to a runtime that was committed.
def RollbacksSafe (s : LauncherState) : Prop :=
  ∀ record ∈ s.rollbacks, record.target = record.builtin ∨ record.target ∈ s.committed

-- Over all lives of the launcher. Only the commits need that no switch begins to a runtime of which
-- a process is still there.
theorem probation_sound (config : Config) (actions : List LauncherAction) :
    (launcherMachine config).Throughout RollbacksSafe freshDevice actions ∧
      ((launcherMachine config).Along (SwitchesApart config) freshDevice actions →
        (launcherMachine config).Throughout (CommitsSound config) freshDevice actions) := by
  constructor
  · exact throughout_of_preserved (fun _ launched => launched.founded.rollbacks)
      (fun _ _ _ launched step => launched_step launched (launcher_moves step)) (launched_fresh config)
  · intro apart
    exact throughout_of_along (fun _ observed => observed.tended.recorded.commits)
      (fun _ _ _ observed apart step => observed_step observed apart (launcher_moves step))
      (observed_fresh config) apart

-- Nothing the launcher has written down about its runtimes outlives what it was true of.
theorem launcher_sound (config : Config) (actions : List LauncherAction) :
    (launcherMachine config).Throughout (Launched config) freshDevice actions :=
  throughout_of_preserved (fun _ => id) (fun _ _ _ launched step => launched_step launched (launcher_moves step))
    (launched_fresh config)

structure BudgetKept (config : Config) (s : LauncherState) : Prop where
  rollbacks : ∀ record ∈ s.rollbacks, maxPendingCrashes ≤ record.failures
  terminations : ∀ record ∈ s.terminations, ∃ process, record.process = some process ∧
    process.candidacy = some record.candidacy ∧ process.spawnedAt + config.probation ≤ record.time

theorem crash_budget_own (config : Config) (actions : List LauncherAction)
    (apart : (launcherMachine config).Along (SwitchesApart config) freshDevice actions) :
    (launcherMachine config).Throughout (BudgetKept config) freshDevice actions :=
  throughout_of_along (fun _ observed => ⟨observed.tended.recorded.rollbacks,observed.tended.recorded.terminations⟩)
    (fun _ _ _ observed apart step => observed_step observed apart (launcher_moves step))
    (observed_fresh config) apart

section Runs

def isSwitch : LauncherAction → Bool
  | .switch _ _ _ => true
  | _ => false

theorem quiet_apart (quiet : ∀ action ∈ actions, isSwitch action = false) :
    (launcherMachine config).Along (SwitchesApart config) s actions := by
  refine along_of_all ?_
  intro action mem s
  cases action with
  | switch => exact absurd (quiet _ mem) nofun
  | _ => exact True.intro

theorem switch_apart (quiet : ∀ action ∈ rest, isSwitch action = false) :
    (launcherMachine exampleConfig).Along (SwitchesApart exampleConfig) freshDevice
      (started ++ .switch "v4.0.0" true (.ok ()) :: rest) := by
  have names : ((launcherMachine exampleConfig).run freshDevice started).map (fun s =>
      (s.child.map fun process => process.spec.id,
        (s.resolve exampleConfig "v4.0.0" true (.ok ())).toOption.map RuntimeSpec.id)) =
      some (some "v3.0.0",some "v4.0.0") := by decide +kernel
  obtain ⟨s,ran,names⟩ := Option.map_eq_some_iff.mp names
  obtain ⟨running,named⟩ := Prod.mk.inj names
  refine along_append ran (quiet_apart (by decide)) ⟨?_,fun _ _ => quiet_apart quiet⟩
  intro spec process resolved child same
  rw [child] at running
  rw [resolved] at named
  have running : process.spec.id = "v3.0.0" := Option.some.inj running
  have named : spec.id = "v4.0.0" := Option.some.inj named
  rw [running,named] at same
  exact absurd same (by decide)

def wholeSwitch : List LauncherAction :=
  started ++ .switch "v4.0.0" true (.ok ()) :: wholeProbation 1 1 "nonce-1" ["a","b"]

theorem probation_sound_whole_switch :
    (launcherMachine exampleConfig).Throughout (CommitsSound exampleConfig) freshDevice wholeSwitch ∧
      ((launcherMachine exampleConfig).run freshDevice wholeSwitch).map (fun s => s.commits.map fun record => record.spec.id) =
        some ["v4.0.0"] :=
  ⟨(probation_sound exampleConfig wholeSwitch).2 (switch_apart (by decide)),by decide +kernel⟩

def tick (exited : Bool) (nonce : String) (result : Except String Unit) : List LauncherAction :=
  [.wait 1000,.reap exited .done,.observe .done,.respawn nonce result .done]

-- The candidate cannot be started, then its process does not pass the checks and is terminated.
def spentBudget : List LauncherAction :=
  started ++ .switch "v4.0.0" true (.ok ()) ::
    (tick true "a" (.ok ()) ++ tick false "nonce-1" (.error "ENOENT") ++ tick false "nonce-2" (.ok ()) ++
      tick false "b" (.ok ()) ++ tick true "c" (.ok ()))

theorem crash_budget_own_spent :
    (launcherMachine exampleConfig).Throughout (BudgetKept exampleConfig) freshDevice spentBudget ∧
      ((launcherMachine exampleConfig).run freshDevice spentBudget).map (fun s =>
        (s.rollbacks.map Rollback.failures,s.terminations.length)) = some ([2],1) :=
  ⟨crash_budget_own exampleConfig spentBudget (switch_apart (by decide)),by decide +kernel⟩

def canary : RuntimeSpec := ⟨"canary","canary","/opt/coflux/canary/coflux-runtime",[]⟩

def backAgain : List LauncherAction :=
  started ++ [.register canary (.ok ()),.wait 1000,.switch "canary" false (.error "no file"),
    .switch "v3.0.0" false (.error "no file")]

-- The process that was started before both switches vouches for the candidate.
def survivorCommitted : List LauncherAction :=
  backAgain ++ [.accept (some 0),.connected 1,.ready 1 "nonce-0" [] (some 8788),.listed 1 (.ok []),.reached 1 (.ok ()),
    .settleReady 1,.reap false .done,.observe .done,.persistFloor .done]

theorem survivor_commits : ¬ (launcherMachine exampleConfig).Throughout (CommitsSound exampleConfig) freshDevice survivorCommitted := by
  intro all
  have commits : ((launcherMachine exampleConfig).run freshDevice survivorCommitted).map (fun s =>
      s.commits.map fun record => record.process.map Process.candidacy) = some [some none] := by decide +kernel
  obtain ⟨s,ran,commits⟩ := Option.map_eq_some_iff.mp commits
  obtain ⟨record,only,foreign⟩ := List.map_eq_singleton_iff.mp commits
  obtain ⟨_,_,_,sound⟩ := throughout_last all ran record (only ▸ List.mem_singleton_self record)
  rw [sound.running,Option.map_some,sound.own] at foreign
  cases foreign

def survivorCounted : List LauncherAction :=
  backAgain ++ tick true "a" (.ok ()) ++ tick false "nonce-1" (.ok ()) ++ tick true "b" (.ok ())

def survivorTerminated : List LauncherAction := backAgain ++ [.reap false .done,.observe .done]

theorem survivor_spends :
    ¬ (launcherMachine exampleConfig).Throughout (BudgetKept exampleConfig) freshDevice survivorCounted ∧
      ¬ (launcherMachine exampleConfig).Throughout (BudgetKept exampleConfig) freshDevice survivorTerminated := by
  constructor
  · intro all
    have rollbacks : ((launcherMachine exampleConfig).run freshDevice survivorCounted).map (fun s =>
        s.rollbacks.map Rollback.failures) = some [1] := by decide +kernel
    obtain ⟨s,ran,rollbacks⟩ := Option.map_eq_some_iff.mp rollbacks
    obtain ⟨record,only,once⟩ := List.map_eq_singleton_iff.mp rollbacks
    have enough := (throughout_last all ran).rollbacks record (only ▸ List.mem_singleton_self record)
    rw [once] at enough
    exact absurd enough (by decide)
  · intro all
    have terminations : ((launcherMachine exampleConfig).run freshDevice survivorTerminated).map (fun s =>
        s.terminations.map fun record => record.process.map Process.candidacy) = some [some none] := by decide +kernel
    obtain ⟨s,ran,terminations⟩ := Option.map_eq_some_iff.mp terminations
    obtain ⟨record,only,foreign⟩ := List.map_eq_singleton_iff.mp terminations
    obtain ⟨_,running,own,_⟩ :=
      (throughout_last all ran).terminations record (only ▸ List.mem_singleton_self record)
    rw [running,Option.map_some,own] at foreign
    cases foreign

end Runs

end Coflux.Launcher
