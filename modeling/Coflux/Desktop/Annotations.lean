import Coflux.Foundation.Machine

namespace Coflux.Desktop
open StepMachine

-- A workspace's list, its active view and the device. The loaded revision is null as long as the list is;
-- a request in flight holds the revision of its answer, once the device has made it; an effect is still to
-- run, and the last request has failed.
structure WorkspaceAnnotations where
  device : Nat
  (relayed loaded : Option Nat := none)
  inflight : Option (Option Nat) := none
  effect : Bool := true
  failed : Bool := false

inductive AnnotationAction where
  | revise (revision : Nat)
  | relay (revision : Option Nat)
  | effect
  | change
  | answer
  | listed (ok : Bool)

namespace WorkspaceAnnotations
variable (s : WorkspaceAnnotations)

def refresh : WorkspaceAnnotations := if s.inflight = none then {s with inflight := some none} else s

-- Never loaded, or the relayed revision is another.
def behind : Bool := s.loaded = none || s.relayed ≠ none && s.relayed ≠ s.loaded

def settled (revision : Nat) : WorkspaceAnnotations := {s with
  inflight := none
  failed := false
  loaded := some revision
  effect := s.effect || s.loaded ≠ some revision}

-- The annotations a change patches in are no dependency of the effect; it ends with a refresh. A list that
-- was loaded before stays when a request fails.
def step : AnnotationAction → Option WorkspaceAnnotations
  | .revise revision => some {s with device := revision}
  | .relay revision => some {s with relayed := revision,effect := s.effect || s.relayed ≠ revision}
  | .effect => if s.effect then some (if s.behind then refresh {s with effect := false} else {s with effect := false}) else none
  | .change => some s.refresh
  | .answer => if s.inflight = some none then some {s with inflight := some (some s.device)} else none
  | .listed false => if s.inflight ≠ none then some {s with inflight := none,failed := true} else none
  | .listed true => s.inflight.join.map s.settled

-- The list that arrives is another than the loaded one, or the view is not left behind by it.
def noticed : AnnotationAction → Bool
  | .listed true => s.inflight.join ≠ s.loaded || s.effect || !s.behind
  | _ => true

def CatchesUp : Prop := s.inflight = none → s.effect = false → s.failed = false → s.behind = false

end WorkspaceAnnotations

open WorkspaceAnnotations

def annotationsMachine : Machine WorkspaceAnnotations AnnotationAction := ⟨step⟩

variable {s next : WorkspaceAnnotations}

theorem refresh_inflight (s : WorkspaceAnnotations) : s.refresh.inflight ≠ none := by
  unfold refresh
  split
  · exact nofun
  · assumption

theorem step_catchesUp (up : s.CatchesUp) (noticed : s.noticed action = true) (step : s.step action = some next) :
    next.CatchesUp := by
  intro idle quiet succeeded
  cases action with
  | revise => cases step; exact up idle quiet succeeded
  | relay revision =>
    cases step
    simp only [Bool.or_eq_false_iff,decide_eq_false_iff_not,not_not] at quiet
    rw [behind,← quiet.2]
    exact up idle quiet.1 succeeded
  | effect =>
    obtain ⟨_,rfl⟩ := guard_parts step
    split at idle
    · exact absurd idle (refresh_inflight _)
    · rename_i level
      rw [if_neg level]
      exact Bool.eq_false_iff.mpr level
  | change =>
    cases step
    exact absurd idle (refresh_inflight s)
  | answer =>
    obtain ⟨_,rfl⟩ := guard_parts step
    cases idle
  | listed ok =>
    cases ok with
    | false =>
      obtain ⟨_,rfl⟩ := guard_parts step
      cases succeeded
    | true =>
      obtain ⟨revision,answered,rfl⟩ := Option.map_eq_some_iff.mp step
      simp only [settled,Bool.or_eq_false_iff,decide_eq_false_iff_not,not_not] at quiet
      simp only [WorkspaceAnnotations.noticed,answered,quiet.1,quiet.2,Bool.or_false,ne_eq,not_true_eq_false,decide_false,
        Bool.false_or,Bool.not_eq_true'] at noticed
      rw [← noticed,behind,settled,behind,quiet.2]

def loading : List AnnotationAction := [.effect,.answer,.listed true,.relay (some 1),.effect]

end Coflux.Desktop
