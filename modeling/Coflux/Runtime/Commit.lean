import Coflux.Runtime.ExitAcks

namespace Coflux.Runtime
open FiniteMap StepMachine Coflux.Sessiond

def CommitStage.Inside : CommitStage → Prop
  | .gated => True
  | .admitted => True
  | .collecting _ _ => True
  | .effecting _ => True
  | _ => False

def AuthStage.Inside : AuthStage → Prop
  | .gated => True
  | .advanced => True
  | .cleared => True
  | _ => False

def CatalogRuntime.Inside (r : CatalogRuntime) : GateHolder → Prop
  | .completion index => ∃ completion, r.completions[index]? = some completion ∧ completion.stage.Inside
  | .authentication index => ∃ stage, r.authentications[index]? = some stage ∧ stage.Inside

open CatalogRuntime (authStep commitStep perform setAuthentication setCompletion)

theorem getElem?_set_cases {list : List α} (found : (list.set index new)[place]? = some value) :
    (place = index ∧ value = new) ∨ (place ≠ index ∧ list[place]? = some value) := by
  by_cases same : index = place
  · subst same
    rw [List.getElem?_set_self'] at found
    cases present : list[index]? with
    | none => simp [present] at found
    | some old => exact .inl ⟨rfl,by simpa [present] using found.symm⟩
  · rw [List.getElem?_set_ne same] at found
    exact .inr ⟨Ne.symm same,found⟩

section Gate
variable {r next : CatalogRuntime}

theorem inside_setCompletion (inside : (r.setCompletion index new).Inside thread) :
    (thread = .completion index ∧ new.stage.Inside) ∨ (thread ≠ .completion index ∧ r.Inside thread) := by
  cases thread with
  | completion place =>
    obtain ⟨completion,found,within⟩ := inside
    rcases getElem?_set_cases found with ⟨rfl,rfl⟩ | ⟨other,earlier⟩
    · exact .inl ⟨rfl,within⟩
    · exact .inr ⟨fun same => other (GateHolder.completion.inj same),completion,earlier,within⟩
  | authentication place => exact .inr ⟨(by intro same; cases same),inside⟩

theorem inside_setAuthentication (inside : (r.setAuthentication index new).Inside thread) :
    (thread = .authentication index ∧ new.Inside) ∨ (thread ≠ .authentication index ∧ r.Inside thread) := by
  cases thread with
  | completion place => exact .inr ⟨(by intro same; cases same),inside⟩
  | authentication place =>
    obtain ⟨stage,found,within⟩ := inside
    rcases getElem?_set_cases found with ⟨rfl,rfl⟩ | ⟨other,earlier⟩
    · exact .inl ⟨rfl,within⟩
    · exact .inr ⟨fun same => other (GateHolder.authentication.inj same),stage,earlier,within⟩

theorem inside_of_lists (completions : next.completions = r.completions)
    (authentications : next.authentications = r.authentications) : next.Inside = r.Inside := by
  funext thread
  cases thread with
  | completion index => simp only [CatalogRuntime.Inside,completions]
  | authentication index => simp only [CatalogRuntime.Inside,authentications]

theorem perform_lists :
    (r.perform completion accepted effect).completions = r.completions ∧
    (r.perform completion accepted effect).authentications = r.authentications ∧
    (r.perform completion accepted effect).gate = r.gate ∧
    (r.perform completion accepted effect).changes = r.changes ∧
    (r.perform completion accepted effect).pending = r.pending := by
  cases effect with
  | publish catalog =>
    unfold perform
    simp only
    split <;> exact ⟨rfl,rfl,rfl,rfl,rfl⟩
  | _ => exact ⟨rfl,rfl,rfl,rfl,rfl⟩

def GateHeld (r : CatalogRuntime) : Prop := Guarded r.gate r.Inside

section
variable (held : GateHeld r)
include held

theorem gate_untouched (same : Untouched r next) : GateHeld next := by
  unfold GateHeld
  rw [same.gate,inside_of_lists same.completions same.authentications]
  exact held

theorem gate_stay (present : r.completions[index]? = some completion) (within : completion.stage.Inside) :
    GateHeld (r.setCompletion index new) := by
  refine guarded_stay held ?_
  intro thread inside
  rcases inside_setCompletion inside with ⟨rfl,_⟩ | ⟨_,earlier⟩
  · exact ⟨completion,present,within⟩
  · exact earlier

theorem gate_leave (present : r.completions[index]? = some completion) (within : completion.stage.Inside)
    (outside : ¬new.stage.Inside) : GateHeld {r.setCompletion index new with gate := none} := by
  have here : r.Inside (.completion index) := ⟨completion,present,within⟩
  refine guarded_leave held here ?_
  intro thread inside
  have inside : (r.setCompletion index new).Inside thread := by cases thread <;> exact inside
  rcases inside_setCompletion inside with ⟨rfl,entered⟩ | ⟨other,earlier⟩
  · exact absurd entered outside
  · exact ⟨earlier,other⟩

theorem gate_commit (present : r.completions[index]? = some completion)
    (move : CommitMove r index completion next) : GateHeld next := by
  cases move with
  | enter stage free =>
    refine guarded_enter held free ?_
    intro thread inside
    have inside : (r.setCompletion index {completion with stage := .gated}).Inside thread := by
      cases thread <;> exact inside
    rcases inside_setCompletion inside with ⟨rfl,_⟩ | ⟨_,earlier⟩
    · exact .inl rfl
    · exact .inr earlier
  | admitted stage same | replace stage | collect stage => exact gate_stay held present (by rw [stage]; exact True.intro)
  | reject stage other | release stage => exact gate_leave held present (by rw [stage]; exact True.intro) (by intro inside; exact inside)
  | effect stage =>
    rename_i effect _ accepted
    obtain ⟨completions,authentications,gate,_⟩ := perform_lists
    have performed : GateHeld (r.perform completion accepted effect) := by
      unfold GateHeld
      rw [gate,inside_of_lists completions authentications]
      exact held
    exact gate_stay performed ((congrArg (·[index]?) completions).trans present) (by rw [stage]; exact True.intro)
  | rerun stage =>
    refine gate_untouched ?_ sendCatalogPage_untouched
    exact gate_leave held present (by rw [stage]; exact True.intro) (by intro inside; exact inside)

theorem gate_auth (present : r.authentications[index]? = some stage)
    (move : AuthMove r index stage next) : GateHeld next := by
  cases move with
  | enter free =>
    refine guarded_enter held free ?_
    intro thread inside
    have inside : (r.setAuthentication index .gated).Inside thread := by cases thread <;> exact inside
    rcases inside_setAuthentication inside with ⟨rfl,_⟩ | ⟨_,earlier⟩
    · exact .inl rfl
    · exact .inr earlier
  | advance =>
    refine guarded_stay held ?_
    intro thread inside
    have inside : (r.setAuthentication index .advanced).Inside thread := by cases thread <;> exact inside
    rcases inside_setAuthentication inside with ⟨rfl,_⟩ | ⟨_,earlier⟩
    · exact ⟨.gated,present,True.intro⟩
    · exact earlier
  | clear =>
    refine guarded_stay held ?_
    intro thread inside
    have inside : (r.setAuthentication index .cleared).Inside thread := by cases thread <;> exact inside
    rcases inside_setAuthentication inside with ⟨rfl,_⟩ | ⟨_,earlier⟩
    · exact ⟨.advanced,present,True.intro⟩
    · exact earlier
  | release =>
    refine gate_untouched ?_ sendCatalogPage_untouched
    have here : r.Inside (.authentication index) := ⟨.cleared,present,True.intro⟩
    refine guarded_leave held here ?_
    intro thread inside
    have inside : (r.setAuthentication index .finished).Inside thread := by cases thread <;> exact inside
    rcases inside_setAuthentication inside with ⟨rfl,entered⟩ | ⟨other,earlier⟩
    · cases entered
    · exact ⟨earlier,other⟩

theorem gate_view (view : CommitView r next) : GateHeld next := by
  cases view with
  | untouched same => exact gate_untouched held same
  | extracted added =>
    unfold GateHeld
    rw [added.gate]
    refine guarded_stay held ?_
    intro thread inside
    cases thread with
    | completion place =>
      obtain ⟨completion,found,within⟩ := inside
      rw [added.completions] at found
      rcases List.mem_append.mp (List.mem_of_getElem? found) with earlier | new
      · refine ⟨completion,?_,within⟩
        by_cases bound : place < r.completions.length
        · rwa [List.getElem?_append_left bound] at found
        · rw [List.getElem?_append_right (by omega)] at found
          have last := List.mem_of_getElem? found
          rw [List.mem_singleton.mp last,added.stage] at within
          cases within
      · rw [List.mem_singleton.mp new,added.stage] at within
        cases within
    | authentication place =>
      obtain ⟨stage,found,within⟩ := inside
      exact ⟨stage,added.authentications ▸ found,within⟩
  | committed present move => exact gate_commit held present move
  | arrived =>
    refine guarded_stay held ?_
    intro thread inside
    cases thread with
    | completion place => exact inside
    | authentication place =>
      obtain ⟨stage,found,within⟩ := inside
      by_cases bound : place < r.authentications.length
      · simp only [List.getElem?_append_left bound] at found
        exact ⟨stage,found,within⟩
      · simp only [List.getElem?_append_right (Nat.le_of_not_lt bound)] at found
        rw [List.mem_singleton.mp (List.mem_of_getElem? found)] at within
        cases within
  | authenticated present move => exact gate_auth held present move

end

end Gate

-- All effects of a commit, in the order it performs them.
def Completion.effects (completion : Completion) (alive : Table String (String × Int)) (derived : List String) :
    List Effect :=
  .replaceAlive completion.newAlive :: completion.plan (completion.changedIds alive) (completion.freshIds alive) derived

-- From the comparison on, the generation of a commit is the current one.
def Recorded (changes : Nat) (completion : Completion) : Prop :=
  completion.extractedAt ≤ changes ∧
  match completion.stage with
  | .extracted => completion.performed = []
  | .gated => completion.performed = []
  | .rejected => completion.performed = []
  | .admitted => completion.performed = [] ∧ completion.query.serverGeneration = generationAfter changes
  | .collecting changed fresh =>
    (∃ alive, changed = completion.changedIds alive ∧ fresh = completion.freshIds alive) ∧
      completion.performed = [(.replaceAlive completion.newAlive,changes)] ∧
      completion.query.serverGeneration = generationAfter changes
  | .effecting remaining =>
    ∃ alive derived done, completion.effects alive derived = done ++ remaining ∧ done ≠ [] ∧
      completion.performed = done.map (·,changes) ∧
      completion.query.serverGeneration = generationAfter changes
  | .finished =>
    ∃ alive derived period, completion.performed = (completion.effects alive derived).map (·,period) ∧
      completion.query.serverGeneration = generationAfter period ∧ period ≤ changes

def Generation (n : Nat) (query : CatalogQuery) : Prop := query.serverGeneration = generationAfter n

theorem generation_rule : QueryRule Generation Generation :=
  ⟨fun _ _ => rfl,fun _ _ _ same => same,fun _ _ _ same => same,fun _ _ _ same => same⟩

structure CommitInvariant (r : CatalogRuntime) : Prop where
  gate : GateHeld r
  collects : Collects Generation Generation r
  recorded : ∀ completion ∈ r.completions, Recorded r.changes completion

section Record
variable {r : CatalogRuntime}

theorem recorded_set (recorded : ∀ completion ∈ r.completions, Recorded r.changes completion) (good : Recorded r.changes new) :
    ∀ completion ∈ (r.setCompletion index new).completions, Recorded r.changes completion := by
  intro completion mem
  rcases List.mem_or_eq_of_mem_set mem with earlier | rfl
  · exact recorded completion earlier
  · exact good

theorem commit_recorded (valid : CommitInvariant r) (present : r.completions[index]? = some completion)
    (move : CommitMove r index completion next) :
    next.changes = r.changes ∧ ∀ completion ∈ next.completions, Recorded r.changes completion := by
  have own := valid.recorded _ (List.mem_of_getElem? present)
  obtain ⟨order,own⟩ := own
  cases move with
  | enter stage free | reject stage other =>
    simp only [stage] at own
    exact ⟨rfl,recorded_set valid.recorded ⟨order,own⟩⟩
  | admitted stage same =>
    simp only [stage] at own
    exact ⟨rfl,recorded_set valid.recorded ⟨order,own,same.trans valid.collects.generation⟩⟩
  | replace stage =>
    simp only [stage] at own
    refine ⟨rfl,recorded_set valid.recorded ⟨order,⟨r.alive,rfl,rfl⟩,?_,own.2⟩⟩
    simp only [Completion.noted,own.1,List.nil_append]
    rfl
  | collect stage =>
    rename_i derived
    simp only [stage] at own
    obtain ⟨⟨alive,rfl,rfl⟩,performed,generation⟩ := own
    refine ⟨rfl,recorded_set valid.recorded ⟨order,alive,derived,[.replaceAlive completion.newAlive],rfl,?_,?_,generation⟩⟩
    · exact List.cons_ne_nil _ _
    · exact performed
  | effect stage =>
    rename_i effect _ _
    obtain ⟨completions,_,_,changes,_⟩ := perform_lists
    simp only [stage] at own
    obtain ⟨alive,derived,done,parts,_,performed,generation⟩ := own
    refine ⟨changes,?_⟩
    intro other mem
    rcases List.mem_or_eq_of_mem_set mem with earlier | rfl
    · exact valid.recorded _ (completions ▸ earlier)
    · refine ⟨order,alive,derived,done ++ [effect],?_,by simp,?_,generation⟩
      · rw [List.append_assoc]
        exact parts
      · simp only [Completion.noted,performed,List.map_append,List.map_cons,List.map_nil]
  | release stage =>
    simp only [stage] at own
    obtain ⟨alive,derived,done,parts,_,performed,generation⟩ := own
    rw [List.append_nil] at parts
    refine ⟨rfl,recorded_set valid.recorded ⟨order,alive,derived,r.changes,?_,generation,Nat.le_refl _⟩⟩
    exact performed.trans (congrArg (List.map (·,r.changes)) parts.symm)
  | rerun stage =>
    simp only [stage] at own
    obtain ⟨alive,derived,_,parts,_,performed,generation⟩ := own
    rw [List.append_nil] at parts
    obtain ⟨completions,_,_,_,changes⟩ := sendCatalogPage_untouched (r :=
      {r.setCompletion index {completion with stage := .finished} with gate := none})
    refine ⟨changes,?_⟩
    rw [completions]
    refine recorded_set valid.recorded ⟨order,alive,derived,r.changes,?_,generation,Nat.le_refl _⟩
    exact performed.trans (congrArg (List.map (·,r.changes)) parts.symm)

theorem recorded_later (recorded : Recorded changes completion) (outside : ¬completion.stage.Inside) :
    Recorded (changes + 1) completion := by
  obtain ⟨order,own⟩ := recorded
  refine ⟨Nat.le_succ_of_le order,?_⟩
  cases stage : completion.stage with
  | extracted | rejected => simpa only [stage] using own
  | finished =>
    simp only [stage] at own ⊢
    obtain ⟨alive,derived,period,performed,generation,earlier⟩ := own
    exact ⟨alive,derived,period,performed,generation,Nat.le_succ_of_le earlier⟩
  | gated | admitted | collecting | effecting => rw [stage] at outside; exact absurd True.intro outside

theorem auth_alone {index : Nat} (held : GateHeld r) (present : r.authentications[index]? = some stage) (within : stage.Inside)
    (mem : completion ∈ r.completions) : ¬completion.stage.Inside := by
  intro inside
  obtain ⟨place,found⟩ := List.getElem?_of_mem mem
  have one : r.Inside (.completion place) := ⟨completion,found,inside⟩
  have two : r.Inside (.authentication index) := ⟨stage,present,within⟩
  cases guarded_alone held one two

theorem auth_recorded (valid : CommitInvariant r) (present : r.authentications[index]? = some stage)
    (move : AuthMove r index stage next) : ∀ completion ∈ next.completions, Recorded next.changes completion := by
  cases move with
  | enter | clear => exact valid.recorded
  | advance =>
    intro completion mem
    exact recorded_later (valid.recorded _ mem) (auth_alone valid.gate present True.intro mem)
  | release =>
    obtain ⟨completions,_,_,_,changes⟩ := sendCatalogPage_untouched (r :=
      {r.setAuthentication index .finished with gate := none})
    rw [completions,changes]
    exact valid.recorded

theorem view_recorded (valid : CommitInvariant r) (view : CommitView r next) :
    ∀ completion ∈ next.completions, Recorded next.changes completion := by
  cases view with
  | untouched same =>
    rw [same.completions,same.changes]
    exact valid.recorded
  | extracted added =>
    rw [added.completions,added.changes]
    intro completion mem
    rcases List.mem_append.mp mem with earlier | new
    · exact valid.recorded _ earlier
    · rw [List.mem_singleton.mp new]
      refine ⟨Nat.le_of_eq added.extractedAt,?_⟩
      rw [added.stage]
      exact added.performed
  | committed present move =>
    obtain ⟨changes,recorded⟩ := commit_recorded valid present move
    rw [changes]
    exact recorded
  | arrived => exact valid.recorded
  | authenticated present move => exact auth_recorded valid present move

def Commits (s : CatalogSystem) : Prop := CommitInvariant s.runtime

theorem commits_step (valid : Commits s)
    (step : catalogStep codec s action = some next) : Commits next := by
  have view := catalogStep_view step
  refine ⟨gate_view valid.gate view,?_,view_recorded valid view⟩
  have kept : ∀ (query : CatalogQuery) catalog, (query.extended codec catalog).serverGeneration = query.serverGeneration :=
    fun _ _ => rfl
  refine system_collects (fun _ => Generation) (fun _ => Generation) generation_rule ?_ ?_ ?_ ?_ valid.collects
    (catalogStep_move step)
  · intro catalog sent key query taken same _ _
    exact (kept query catalog).trans same
  · intro catalog sent key query taken same _
    exact (kept query catalog).trans same
  · exact fun _ _ _ same => same
  · exact fun _ _ _ same => same

end Record

theorem catalogStart_commits : Commits (catalogStart runtimeId sessiondId owner owned) := by
  refine ⟨?_,new_collects,(by intro completion mem; cases mem)⟩
  intro thread inside
  cases thread with
  | completion index =>
    obtain ⟨_,found,_⟩ := inside
    cases found
  | authentication index =>
    obtain ⟨_,found,_⟩ := inside
    cases found

theorem commits_run (ran : (catalogMachine codec).run (catalogStart runtimeId sessiondId owner owned) actions = some s) :
    Commits s :=
  run_preserves (fun _ _ _ valid step => commits_step valid step) catalogStart_commits ran

-- Up to 2^64 - 1 changes the generation counts them.
theorem generationAfter_small (small : n ≤ u64Max) : generationAfter n = n := by
  induction n with
  | zero => rfl
  | succ n ih =>
    rw [generationAfter,ih (by omega)]
    have bound : n + 1 < 2 ^ 64 := by
      unfold u64Max at small
      omega
    rw [Nat.mod_eq_of_lt bound]
    omega

-- All effects of a completed query happen in the generation of its extraction, and once that has
-- changed it has performed all of them or none.
theorem commit_atomic (ran : (catalogMachine codec).run (catalogStart runtimeId sessiondId owner owned) actions = some s)
    (few : s.runtime.changes ≤ u64Max) :
    ∀ completion ∈ s.runtime.completions,
      (∀ effect changes, (effect,changes) ∈ completion.performed → changes = completion.extractedAt) ∧
      (completion.extractedAt < s.runtime.changes → completion.performed = [] ∨
        ∃ alive derived, completion.performed.map Prod.fst = completion.effects alive derived) := by
  have valid := commits_run ran
  intro completion mem
  obtain ⟨order,own⟩ := valid.recorded completion mem
  have extraction : completion.query.serverGeneration = generationAfter completion.extractedAt :=
    valid.collects.extracted completion mem
  -- With few changes the generation determines how many there were.
  have period : ∀ changes, changes ≤ s.runtime.changes → completion.query.serverGeneration = generationAfter changes →
      changes = completion.extractedAt := by
    intro changes earlier generation
    rw [generationAfter_small (earlier.trans few)] at generation
    rw [generationAfter_small (order.trans few)] at extraction
    exact generation.symm.trans extraction
  have quiet : completion.performed = [] →
      (∀ effect changes, (effect,changes) ∈ completion.performed → changes = completion.extractedAt) ∧
      (completion.extractedAt < s.runtime.changes → completion.performed = [] ∨
        ∃ alive derived, completion.performed.map Prod.fst = completion.effects alive derived) := by
    intro none
    rw [none]
    exact ⟨(by intro effect changes performed; cases performed),fun _ => .inl rfl⟩
  cases stage : completion.stage with
  | extracted | gated | rejected => simp only [stage] at own; exact quiet own
  | admitted => simp only [stage] at own; exact quiet own.1
  | collecting changed fresh =>
    simp only [stage] at own
    have current := period _ (Nat.le_refl _) own.2.2
    rw [own.2.1,current]
    refine ⟨by simp,?_⟩
    intro later
    omega
  | effecting remaining =>
    simp only [stage] at own
    obtain ⟨alive,derived,_,_,_,performed,generation⟩ := own
    have current := period _ (Nat.le_refl _) generation
    rw [performed,current]
    refine ⟨by simp,?_⟩
    intro later
    omega
  | finished =>
    simp only [stage] at own
    obtain ⟨alive,derived,when,performed,generation,earlier⟩ := own
    have same := period when earlier generation
    rw [performed,same]
    refine ⟨by simp,fun _ => .inr ⟨alive,derived,?_⟩⟩
    simp [Function.comp_def]

def authRound (index : Nat) : List CatalogAction :=
  .runtime .authenticate :: List.replicate 4 (.runtime (.authentication index 0 true))

theorem commit_atomic_served :
    ∃ s, (catalogMachine plainCodec).run (catalogStart 1 2 "owner" (by decide)) (shellServed ++ authRound 0) = some s ∧
      s.runtime.changes = 1 ∧ s.runtime.completions.map (·.performed.length) = [3] ∧
      ∀ completion ∈ s.runtime.completions,
        (∀ effect changes, (effect,changes) ∈ completion.performed → changes = completion.extractedAt) ∧
        (completion.extractedAt < s.runtime.changes → completion.performed = [] ∨
          ∃ alive derived, completion.performed.map Prod.fst = completion.effects alive derived) := by
  have ran : (catalogMachine plainCodec).run (catalogStart 1 2 "owner" (by decide)) (shellServed ++ authRound 0) = some _ := rfl
  exact ⟨_,ran,rfl,rfl,commit_atomic ran (by decide)⟩

theorem runtime_step (step : runtimeStep r action = some after) :
    (catalogMachine codec).step ⟨sessions,r⟩ (.runtime action) = some ⟨sessions,after⟩ := by
  simp [catalogMachine,catalogStep,step]

theorem auth_run (step : r.authStep index 0 true = some after) :
    (catalogMachine codec).step ⟨sessions,r⟩ (.runtime (.authentication index 0 true)) = some ⟨sessions,after⟩ :=
  runtime_step step

structure Authenticating (r : CatalogRuntime) (before : List AuthStage) (stage : AuthStage) (gate : Option GateHolder)
    (completions : List Completion) (changes : Nat) : Prop where
  authentications : r.authentications = before ++ [stage]
  gate : r.gate = gate
  completions : r.completions = completions
  changes : r.changes = changes

theorem auth_enter (now : Authenticating r before .arrived none completions changes) :
    ∃ next, r.authStep before.length 0 true = some next ∧
      Authenticating next before .gated (some (.authentication before.length)) completions changes := by
  refine ⟨_,by simp [authStep,now.authentications,now.gate]; rfl,?_⟩
  exact ⟨by simp [setAuthentication,now.authentications],rfl,now.completions,now.changes⟩

theorem auth_advance (now : Authenticating r before .gated gate completions changes) :
    ∃ next, r.authStep before.length 0 true = some next ∧
      Authenticating next before .advanced gate completions (changes + 1) := by
  refine ⟨_,by simp [authStep,now.authentications]; rfl,?_⟩
  refine ⟨?_,now.gate,now.completions,congrArg (· + 1) now.changes⟩
  simp [setAuthentication,CatalogRuntime.startQuery,CatalogRuntime.newCatalogQuery, CatalogRuntime.nextInternalId]

theorem auth_clear (now : Authenticating r before .advanced gate completions changes) :
    ∃ next, r.authStep before.length 0 true = some next ∧ Authenticating next before .cleared gate completions changes := by
  refine ⟨_,by simp [authStep,now.authentications]; rfl,?_⟩
  exact {now with authentications := by simp [setAuthentication,now.authentications]}

theorem auth_release (now : Authenticating r before .cleared gate completions changes) :
    ∃ next, r.authStep before.length 0 true = some next ∧ Authenticating next before .finished none completions changes := by
  refine ⟨_,by simp [authStep,now.authentications]; rfl,?_⟩
  have sent : Untouched {r.setAuthentication before.length .finished with gate := none}
    ({r.setAuthentication before.length .finished with gate := none}.sendCatalogPage internalCatalogRequestId 0 true) :=
    sendCatalogPage_untouched
  refine ⟨sent.authentications.trans ?_,sent.gate,sent.completions.trans now.completions,sent.changes.trans now.changes⟩
  simp [setAuthentication,now.authentications]

structure Between (s : CatalogSystem) (completions : List Completion) (changes : Nat) : Prop where
  gate : s.runtime.gate = none
  completions : s.runtime.completions = completions
  changes : s.runtime.changes = changes

theorem authRound_run (idle : Between s completions changes) :
    ∃ next, (catalogMachine codec).run s (authRound s.runtime.authentications.length) = some next ∧
      Between next completions (changes + 1) := by
  have arrived : Authenticating {s.runtime with authentications := s.runtime.authentications ++ [.arrived]}
      s.runtime.authentications .arrived none completions changes := {idle with authentications := rfl}
  have began : (catalogMachine codec).step s (.runtime .authenticate) = some ⟨s.sessions,
      {s.runtime with authentications := s.runtime.authentications ++ [.arrived]}⟩ := rfl
  obtain ⟨_,first,arrived⟩ := auth_enter arrived
  obtain ⟨_,second,arrived⟩ := auth_advance arrived
  obtain ⟨_,third,arrived⟩ := auth_clear arrived
  obtain ⟨four,fourth,arrived⟩ := auth_release arrived
  refine ⟨{s with runtime := four},?_,{arrived with}⟩
  unfold authRound
  rw [run_cons began]
  simp only [List.replicate]
  rw [run_cons (auth_run first),run_cons (auth_run second),run_cons (auth_run third),run_cons (auth_run fourth)]
  rfl

theorem authRounds_run (idle : Between s completions changes) :
    ∃ actions next, (catalogMachine codec).run s actions = some next ∧ Between next completions (changes + rounds) := by
  induction rounds with
  | zero => exact ⟨[],s,rfl,idle⟩
  | succ rounds ih =>
    obtain ⟨actions,middle,ran,idle⟩ := ih
    obtain ⟨next,round,idle⟩ := authRound_run idle
    exact ⟨actions ++ authRound middle.runtime.authentications.length,next,(run_append ran).trans round,idle⟩

structure Committing (r : CatalogRuntime) (completion : Completion) (generation changes : Nat) : Prop where
  completions : r.completions = [completion]
  generation : r.pending.serverGeneration = generation
  changes : r.changes = changes

section
variable (now : Committing r completion generation changes)
include now

theorem commit_enter (free : r.gate = none) (waiting : completion.stage = .extracted) :
    ∃ next, r.commitStep 0 [] true 0 true = some next ∧
      Committing next {completion with stage := .gated} generation changes := by
  refine ⟨_,by simp [commitStep,now.completions,waiting,free]; rfl,?_⟩
  exact ⟨by simp [setCompletion,now.completions],now.generation,now.changes⟩

theorem commit_admit (waiting : completion.stage = .gated) (same : completion.query.serverGeneration = generation) :
    ∃ next, r.commitStep 0 [] true 0 true = some next ∧
      Committing next {completion with stage := .admitted} generation changes := by
  have current : completion.query.serverGeneration = r.pending.serverGeneration := same.trans now.generation.symm
  refine ⟨_,by simp [commitStep,now.completions,waiting,current]; rfl,?_⟩
  exact ⟨by simp [setCompletion,now.completions],now.generation,now.changes⟩

theorem commit_replace (waiting : completion.stage = .admitted) :
    ∃ next stage, r.commitStep 0 [] true 0 true = some next ∧
      next.completions = [completion.noted (.replaceAlive completion.newAlive) changes stage] := by
  refine ⟨_,.collecting (completion.changedIds r.alive) (completion.freshIds r.alive),
    by simp [commitStep,now.completions,waiting]; rfl,?_⟩
  simp only [setCompletion,perform,now.completions,now.changes,List.set_cons_zero]

end

theorem commit_begins (now : Committing s.runtime completion generation changes) (free : s.runtime.gate = none)
    (waiting : completion.stage = .extracted) (same : completion.query.serverGeneration = generation) :
    ∃ next stage, (catalogMachine codec).run s (List.replicate 3 (.runtime (.commit 0 [] true 0 true))) = some next ∧
      next.runtime.completions =
        [{completion with stage := .admitted}.noted (.replaceAlive completion.newAlive) changes stage] := by
  obtain ⟨_,first,now⟩ := commit_enter now free waiting
  obtain ⟨_,second,now⟩ := commit_admit now rfl same
  obtain ⟨three,stage,third,noted⟩ := commit_replace now rfl
  refine ⟨⟨s.sessions,three⟩,stage,?_,noted⟩
  have steps : ∀ {r after : CatalogRuntime}, r.commitStep 0 [] true 0 true = some after →
      (catalogMachine codec).step ⟨s.sessions,r⟩ (.runtime (.commit 0 [] true 0 true)) = some ⟨s.sessions,after⟩ :=
    fun step => runtime_step step
  simp only [List.replicate]
  rw [run_cons (steps first),run_cons (steps second),run_cons (steps third)]
  rfl

theorem generation_wraps : generationAfter (u64Max + 1) = 1 := by
  rw [generationAfter,generationAfter_small (Nat.le_refl _)]
  decide

def shellExtracted : List CatalogAction :=
  shellExited ++ authRound 0 ++
    [.runtime (.requestServer "query" 0 true),.deliverRequest 1 quietReading true,.deliverAnswer 0 0 true]

-- 2^64 - 1 authentications later the generation is the same again.
theorem commit_after_wrap :
    ∃ actions s, (catalogMachine plainCodec).run (catalogStart 1 2 "owner" (by decide)) actions = some s ∧
      ∃ completion ∈ s.runtime.completions, completion.extractedAt = 1 ∧
        ∃ effect, (effect,u64Max + 1) ∈ completion.performed := by
  obtain ⟨s,completion,ran,idle,waiting,extractedAt,generation⟩ : ∃ s completion,
      (catalogMachine plainCodec).run (catalogStart 1 2 "owner" (by decide)) shellExtracted = some s ∧
      Between s [completion] 1 ∧ completion.stage = .extracted ∧ completion.extractedAt = 1 ∧
      completion.query.serverGeneration = 1 := ⟨_,_,rfl,⟨rfl,rfl,rfl⟩,rfl,rfl,rfl⟩
  obtain ⟨_,waited,authenticated,idle⟩ := authRounds_run idle
  have reached := (run_append ran).trans authenticated
  rw [Nat.add_comm] at idle
  have current : waited.runtime.pending.serverGeneration = 1 := by
    rw [(commits_run reached).collects.generation,idle.changes]
    exact generation_wraps
  obtain ⟨s,stage,began,noted⟩ := commit_begins ⟨idle.completions,current,idle.changes⟩ idle.gate waiting generation
  have mem : {completion with stage := .admitted}.noted (.replaceAlive completion.newAlive) (u64Max + 1) stage ∈
      s.runtime.completions := by simp [noted]
  refine ⟨_,s,(run_append reached).trans began,_,mem,extractedAt,?_⟩
  exact ⟨.replaceAlive completion.newAlive,List.mem_append_right _ (List.mem_singleton_self _)⟩

end Coflux.Runtime
