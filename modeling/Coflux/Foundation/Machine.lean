import Mathlib

namespace StepMachine

-- Every choice of the scheduler and of the environment is part of the action.
structure Machine (State Action : Type) where
  step : State → Action → Option State

def Machine.run {State Action : Type} (m : Machine State Action) : State → List Action → Option State
  | s,[] => some s
  | s,action :: rest => (m.step s action).bind (m.run · rest)

def Machine.only {State Action : Type} (m : Machine State Action) (may : Action → Bool) : Machine State Action :=
  ⟨fun s action => if may action then m.step s action else none⟩

variable {State Action : Type} {m : Machine State Action} {s next : State}

theorem run_nil : m.run s [] = some s := rfl

theorem run_cons (step : m.step s action = some middle) : m.run s (action :: rest) = m.run middle rest := by
  simp [Machine.run,step]

theorem run_cons_parts (ran : m.run s (action :: rest) = some next) :
    ∃ middle, m.step s action = some middle ∧ m.run middle rest = some next := by
  cases step : m.step s action with
  | none => simp [Machine.run,step] at ran
  | some middle => exact ⟨middle,rfl,by simpa [Machine.run,step] using ran⟩

theorem run_append (one : m.run s first = some middle) : m.run s (first ++ second) = m.run middle second := by
  induction first generalizing s with
  | nil => cases one; rfl
  | cons action rest ih =>
    obtain ⟨_,step,ran⟩ := run_cons_parts one
    rw [List.cons_append,run_cons step]
    exact ih ran

-- A step behind a guard.
theorem guard_parts {guard : Prop} [Decidable guard] (step : (if guard then some after else none) = some next) :
    guard ∧ after = next := by
  simpa only [Option.ite_none_right_eq_some,Option.some.injEq] using step

theorem only_parts (step : (m.only may).step s action = some next) : may action = true ∧ m.step s action = some next :=
  Option.ite_none_right_eq_some.mp step

-- The induction every safety statement of the development goes through.
theorem run_preserves {inv : State → Prop} (keeps : ∀ s action next, inv s → m.step s action = some next → inv next)
    (start : inv s) (ran : m.run s actions = some next) : inv next := by
  induction actions generalizing s with
  | nil => cases ran; exact start
  | cons action rest ih =>
    obtain ⟨_,step,ran⟩ := run_cons_parts ran
    exact ih (keeps _ _ _ start step) ran

theorem only_run (ran : (m.only may).run s actions = some next) : m.run s actions = some next := by
  induction actions generalizing s with
  | nil => exact ran
  | cons action rest ih =>
    obtain ⟨_,step,ran⟩ := run_cons_parts ran
    rw [run_cons (only_parts step).2]
    exact ih ran

theorem run_relates {inv : State → Prop} {rel : State → State → Prop}
    (refl : ∀ s, rel s s) (trans : ∀ a b c, rel a b → rel b c → rel a c)
    (keeps : ∀ s action next, inv s → m.step s action = some next → inv next ∧ rel s next)
    (start : inv s) (ran : m.run s actions = some next) : rel s next := by
  induction actions generalizing s with
  | nil => cases ran; exact refl _
  | cons action rest ih =>
    obtain ⟨_,step,ran⟩ := run_cons_parts ran
    obtain ⟨kept,related⟩ := keeps _ _ _ start step
    exact trans _ _ _ related (ih kept ran)

-- A condition on every step a run takes, read in the state before the step.
def Machine.Along (m : Machine State Action) (allowed : State → Action → Prop) :
    State → List Action → Prop
  | _,[] => True
  | s,action :: rest => allowed s action ∧ ∀ next, m.step s action = some next → m.Along allowed next rest

theorem along_cons (step : m.step s action = some next)
    (first : allowed s action) (later : m.Along allowed next rest) : m.Along allowed s (action :: rest) := by
  refine ⟨first,?_⟩
  intro after taken
  rw [step] at taken
  cases taken
  exact later

theorem along_append (ran : m.run s first = some middle) (one : m.Along allowed s first)
    (two : m.Along allowed middle second) : m.Along allowed s (first ++ second) := by
  induction first generalizing s with
  | nil => cases ran; exact two
  | cons action rest ih =>
    obtain ⟨after,step,ran⟩ := run_cons_parts ran
    exact along_cons step one.1 (ih ran (one.2 after step))

theorem along_at (along : m.Along allowed s (first ++ action :: rest))
    (ran : m.run s first = some middle) : allowed middle action := by
  induction first generalizing s with
  | nil => cases ran; exact along.1
  | cons earlier more ih =>
    obtain ⟨_,step,ran⟩ := run_cons_parts ran
    exact ih (along.2 _ step) ran

theorem along_of_all (all : ∀ action ∈ actions, ∀ s, allowed s action) : m.Along allowed s actions := by
  induction actions generalizing s with
  | nil => exact True.intro
  | cons action rest ih =>
    refine ⟨all _ List.mem_cons_self s,?_⟩
    intro next _
    exact ih fun later mem => all later (List.mem_cons_of_mem _ mem)

instance decideAlong {allowed : State → Action → Prop} [∀ s action, Decidable (allowed s action)] :
    (s : State) → (actions : List Action) → Decidable (m.Along allowed s actions)
  | _,[] => isTrue True.intro
  | s,action :: rest =>
    match stepped : m.step s action with
    | none => decidable_of_iff (allowed s action) ⟨fun first => ⟨first,by rw [stepped]; nofun⟩,fun along => along.1⟩
    | some next =>
      have : Decidable (m.Along allowed next rest) := decideAlong next rest
      decidable_of_iff (allowed s action ∧ m.Along allowed next rest)
        ⟨fun both => along_cons stepped both.1 both.2,fun along => ⟨along.1,along.2 next stepped⟩⟩

-- A property of every state a run passes through, its first and last included.
def Machine.Throughout (m : Machine State Action) (good : State → Prop) :
    State → List Action → Prop
  | s,[] => good s
  | s,action :: rest => good s ∧ ∀ next, m.step s action = some next → m.Throughout good next rest

theorem throughout_head (all : m.Throughout good s actions) : good s := by
  cases actions with
  | nil => exact all
  | cons action rest => exact all.1

theorem throughout_last (all : m.Throughout good s actions) (ran : m.run s actions = some next) : good next := by
  induction actions generalizing s with
  | nil => cases ran; exact all
  | cons action rest ih =>
    obtain ⟨_,step,ran⟩ := run_cons_parts ran
    exact ih (all.2 _ step) ran

theorem throughout_of_along {inv good : State → Prop} {allowed : State → Action → Prop} (meets : ∀ s, inv s → good s)
    (keeps : ∀ s action next, inv s → allowed s action → m.step s action = some next → inv next)
    (start : inv s) (along : m.Along allowed s actions) : m.Throughout good s actions := by
  induction actions generalizing s with
  | nil => exact meets s start
  | cons action rest ih =>
    refine ⟨meets s start,?_⟩
    intro next step
    exact ih (keeps _ _ _ start along.1 step) (along.2 next step)

theorem throughout_of_preserved {inv good : State → Prop} (meets : ∀ s, inv s → good s)
    (keeps : ∀ s action next, inv s → m.step s action = some next → inv next) (start : inv s) :
    m.Throughout good s actions :=
  throughout_of_along meets (fun s action next valid _ => keeps s action next valid) start
    (along_of_all fun _ _ _ => True.intro)

theorem along_of_along {inv : State → Prop} {allowed other : State → Action → Prop}
    (keeps : ∀ s action next, inv s → allowed s action → m.step s action = some next → inv next)
    (implies : ∀ s action, inv s → allowed s action → other s action)
    (start : inv s) (along : m.Along allowed s actions) : m.Along other s actions := by
  induction actions generalizing s with
  | nil => exact True.intro
  | cons action rest ih =>
    refine ⟨implies _ _ start along.1,?_⟩
    intro next step
    exact ih (keeps _ _ _ start along.1 step) (along.2 next step)

theorem preserves_along {inv : State → Prop} {allowed : State → Action → Prop}
    (keeps : ∀ s action next, inv s → allowed s action → m.step s action = some next → inv next) (start : inv s)
    (along : m.Along allowed s actions) (ran : m.run s actions = some next) : inv next :=
  throughout_last (throughout_of_along (fun _ valid => valid) keeps start along) ran

theorem throughout_iff_along {inv good : State → Prop} {allowed : State → Action → Prop}
    (keeps : ∀ s action next, inv s → m.step s action = some next → inv next)
    (exact : ∀ s action next, inv s → good s → m.step s action = some next → (good next ↔ allowed s action))
    (start : inv s) (initial : good s) (ran : m.run s actions = some last) :
    m.Throughout good s actions ↔ m.Along allowed s actions := by
  induction actions generalizing s with
  | nil => exact ⟨fun _ => True.intro,fun _ => initial⟩
  | cons action rest ih =>
    obtain ⟨_,stepped,ran⟩ := run_cons_parts ran
    have step := exact _ _ _ start initial stepped
    have rule := fun good => ih (keeps _ _ _ start stepped) good ran
    constructor
    · intro all
      have tail := all.2 _ stepped
      refine ⟨step.mp (throughout_head tail),?_⟩
      intro next taken
      rw [stepped] at taken; cases taken
      exact (rule (throughout_head tail)).mp tail
    · intro along
      refine ⟨initial,?_⟩
      intro next taken
      rw [stepped] at taken; cases taken
      exact (rule (step.mpr along.1)).mpr (along.2 _ stepped)

def Machine.Visits (m : Machine State Action) (s : State) (actions : List Action) (visited : State) : Prop :=
  ∃ first rest, actions = first ++ rest ∧ m.run s first = some visited

theorem run_snoc (ran : m.run s (actions ++ [action]) = some next) :
    ∃ middle, m.run s actions = some middle ∧ m.step middle action = some next := by
  induction actions generalizing s with
  | nil =>
    obtain ⟨middle,step,ran⟩ := run_cons_parts ran
    cases ran
    exact ⟨s,rfl,step⟩
  | cons first rest ih =>
    obtain ⟨_,step,ran⟩ := run_cons_parts ran
    obtain ⟨middle,before,last⟩ := ih ran
    exact ⟨middle,(run_cons step).trans before,last⟩

theorem visits_snoc (ran : m.run s (actions ++ [action]) = some next) :
    m.Visits s (actions ++ [action]) visited ↔ m.Visits s actions visited ∨ visited = next := by
  constructor
  · rintro ⟨first,rest,parts,reached⟩
    rcases List.eq_nil_or_concat rest with rfl | ⟨front,last,rfl⟩
    · rw [List.append_nil] at parts
      rw [← parts,ran] at reached
      exact .inr (Option.some.inj reached).symm
    · rw [List.concat_eq_append,← List.append_assoc] at parts
      exact .inl ⟨first,front,(List.append_inj_left' parts rfl),reached⟩
  · rintro (⟨first,rest,rfl,reached⟩ | rfl)
    · exact ⟨first,rest ++ [action],List.append_assoc _ _ _,reached⟩
    · exact ⟨_,[],(List.append_nil _).symm,ran⟩

theorem run_remembers {inv : (State → Prop) → State → Prop} (start : inv (· = s) s)
    (keeps : ∀ seen s action next, inv seen s → m.step s action = some next →
      inv (fun visited => seen visited ∨ visited = next) next)
    (ran : m.run s actions = some next) : inv (m.Visits s actions) next := by
  induction actions using List.reverseRecOn generalizing next with
  | nil =>
    cases ran
    have only : m.Visits s [] = (· = s) := by
      funext visited
      apply propext
      constructor
      · rintro ⟨first,rest,parts,reached⟩
        obtain ⟨rfl,rfl⟩ := List.append_eq_nil_iff.mp parts.symm
        exact (Option.some.inj reached).symm
      · rintro rfl
        exact ⟨[],[],rfl,rfl⟩
    rw [only]
    exact start
  | append_singleton actions action ih =>
    obtain ⟨_,before,step⟩ := run_snoc ran
    have more : m.Visits s (actions ++ [action]) = fun visited => m.Visits s actions visited ∨ visited = next :=
      funext fun _ => propext (visits_snoc ran)
    rw [more]
    exact keeps _ _ _ _ (ih before) step

-- A lock: whoever is inside the section it guards is its holder.
def Guarded {Thread : Type} (holder : Option Thread) (inside : Thread → Prop) : Prop :=
  ∀ thread, inside thread → holder = some thread

section Lock
variable {Thread : Type} {holder : Option Thread} {inside after : Thread → Prop} {me : Thread}

section
variable (guarded : Guarded holder inside)
include guarded

theorem guarded_enter (free : holder = none)
    (entered : ∀ thread, after thread → thread = me ∨ inside thread) : Guarded (some me) after := by
  intro thread now
  rcases entered thread now with rfl | earlier
  · rfl
  · rw [free] at guarded
    cases guarded thread earlier

theorem guarded_stay (kept : ∀ thread, after thread → inside thread) : Guarded holder after :=
  fun thread now => guarded _ (kept thread now)

theorem guarded_leave (here : inside me)
    (left : ∀ thread, after thread → inside thread ∧ thread ≠ me) : Guarded none after := by
  intro thread now
  obtain ⟨earlier,other⟩ := left thread now
  have same := (guarded me here).symm.trans (guarded _ earlier)
  exact absurd (Option.some.inj same).symm other

theorem guarded_alone (one : inside thread) (two : inside other) : thread = other :=
  Option.some.inj ((guarded thread one).symm.trans (guarded other two))

end

end Lock

theorem holds_until {inv holds : State → Prop} {releases : State → Action → Prop}
    (preserves : ∀ s action next, inv s → m.step s action = some next → inv next)
    (keeps : ∀ s action next, inv s → holds s → m.step s action = some next → holds next ∨ releases s action)
    (start : inv s) (initial : holds s) (ran : m.run s actions = some next) :
    holds next ∨ ∃ before action after middle, actions = before ++ action :: after ∧ m.run s before = some middle ∧
      holds middle ∧ releases middle action := by
  induction actions generalizing s with
  | nil => cases ran; exact .inl initial
  | cons action rest ih =>
    obtain ⟨_,step,ran⟩ := run_cons_parts ran
    rcases keeps _ _ _ start initial step with held | released
    · rcases ih (preserves _ _ _ start step) held ran with last | ⟨before,later,after,reached,split,led,held,released⟩
      · exact .inl last
      · exact .inr ⟨action :: before,later,after,reached,by rw [split]; rfl,by rw [run_cons step,led],held,released⟩
    · exact .inr ⟨[],action,rest,s,rfl,rfl,initial,released⟩

end StepMachine
