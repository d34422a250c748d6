import Coflux.Foundation.Machine

namespace Coflux.Client
open StepMachine

inductive ScreenPhase where
  | connecting
  | starting
  | streaming
  | paused
  | noPermission
  | locked
  | detached
  | offline
  | unsupported
  | error
  | closed
  deriving DecidableEq

inductive ScreenSessionPhase where
  | unspecified
  | noPermission
  | locked
  | paused
  | streaming
  | starting

structure ScreenSessionStatus where
  phase : ScreenSessionPhase
  error : Bool
  accessibility : Option Bool

def screenPhaseFrom (visible : Bool) : Option ScreenSessionStatus → ScreenPhase
  | none => .starting
  | some status =>
    match status.phase with
    | .noPermission => .noPermission
    | .locked => .locked
    | .paused => if visible then .streaming else .paused
    | .streaming => .streaming
    | .starting => if status.error then .error else .starting
    | .unspecified => .starting

inductive Press where
  | key (code : String)
  | button (button : Nat)
  deriving DecidableEq

-- held are heldKeys and heldButtons. History: told is what the remote was last told is down, and
-- down what the user is holding.
structure ScreenSession where
  forceNext : Bool
  phase : ScreenPhase := .connecting
  (accessibility port lanes control opened visible closed disposed reopenTimer : Bool := false)
  (held told down : List Press := [])

inductive OpenRefusal where
  | held
  | noHelper
  | other

inductive ScreenError where
  | unsupported
  | denied
  | other (control : Bool)

inductive ScreenAction where
  | input (press : Press) (down : Bool)
  | setVisible (visible : Bool)
  | releaseAll
  | resize
  | takeOver
  | retry
  | close
  | dispose
  | connected (port : Option Bool)
  | reopenFires (online : Bool)
  | openTimeout
  | lanes
  | lanesFailed (offline : Bool)
  | laneClosed (control online : Bool)
  | opened (refused : Option OpenRefusal) (status : Option ScreenSessionStatus)
  | state (status : Option ScreenSessionStatus)
  | videoAttached (ok : Bool)
  | detached
  | ended
  | error (error : ScreenError)

namespace ScreenSession
variable (s : ScreenSession)

def controllable : Bool := s.opened && s.control && s.phase = .streaming && s.accessibility

def sends : Bool := s.lanes && s.control && s.port

def put (press : Press) (down : Bool) (presses : List Press) : List Press :=
  if down then press :: presses else presses.filter (· ≠ press)

-- sendKey and sendPointer; a move of the pointer changes nothing here.
def input (press : Press) (down : Bool) : ScreenSession :=
  if !s.controllable || press = .key "" then s
  else {s with held := put press down s.held,told := if s.sends then put press down s.told else s.told}

def releaseAll : ScreenSession :=
  {s with held := [],told := if s.opened && s.sends then s.told.filter (· ∉ s.held) else s.told}

def connect : ScreenSession := if s.port || s.disposed then s else {s with phase := .connecting}

def sendOpen : ScreenSession := if s.lanes then {s with forceNext := false,phase := .starting} else s

def statusPatch (status : Option ScreenSessionStatus) (phase : ScreenPhase) : ScreenSession :=
  {s with phase := phase,accessibility := (status.bind (·.accessibility)).getD s.accessibility}

def setVisible (visible : Bool) : ScreenSession :=
  if s.disposed || s.closed then s
  else
    let s := {s with visible := visible}
    if visible then
      if s.phase = .detached then s
      else if !s.port then s.connect
      else if !s.lanes && !s.reopenTimer then {s with reopenTimer := true}
      else if s.opened && s.phase = .paused then {s with phase := .streaming}
      else s
    else if s.opened then {s.releaseAll with phase := if s.phase = .streaming then .paused else s.phase}
    else s

def takeOver : ScreenSession :=
  if s.disposed || s.closed then s
  else
    let s := {s with forceNext := true,phase := .connecting}
    if s.lanes && s.control then s.sendOpen else if !s.port then s.connect else {s with reopenTimer := true}

def retry : ScreenSession :=
  if s.disposed || s.closed || s.phase = .detached then s
  else
    let s := {s with phase := .connecting}
    if !s.port then s.connect else {s with reopenTimer := true}

def reopenFires (online : Bool) : ScreenSession :=
  if !s.reopenTimer then s
  else
    let s := {s with reopenTimer := false}
    if s.disposed || s.closed || !s.visible || s.phase = .detached && !s.forceNext then s
    else if online then {s with phase := .connecting}
    else {s with phase := .offline,reopenTimer := true}

-- Whenever a lane, the hold or the session ends, the remote releases what the client pressed.
def laneClosed (control online : Bool) : ScreenSession :=
  let s := if control then {s with control := false,told := []} else s
  if s.phase = .closed || s.closed then s
  else
    let s := {s with lanes := false,control := false,opened := false,held := [],told := []}
    if s.phase = .detached || !s.visible then s
    else {s with phase := if online then .connecting else .offline,reopenTimer := true}

def ended : ScreenSession :=
  let s := {s with held := [],told := [],opened := false}
  if s.closed then s else {s with phase := .connecting,reopenTimer := s.reopenTimer || s.visible}

def onLaneFrame : ScreenAction → ScreenSession
  | .opened (some .held) status => s.statusPatch status .detached
  | .opened (some .noHelper) _ => {s with phase := .unsupported}
  | .opened (some .other) status => s.statusPatch status .error
  | .opened none status => {s.statusPatch status (screenPhaseFrom s.visible status) with opened := true}
  | .state status => if s.opened then s.statusPatch status (screenPhaseFrom s.visible status) else s
  | .videoAttached ok => if ok then s else {s with phase := .error}
  | .detached => {s with held := [],told := [],opened := false,phase := .detached}
  | .ended => s.ended
  | .error .unsupported => {s with phase := .unsupported}
  | .error .denied => {s with phase := .error}
  | .error (.other control) => if control && s.phase = .starting then {s with phase := .error} else s
  | _ => s

def onPortMessage : ScreenAction → ScreenSession
  | .lanes => {s with lanes := true,control := true,opened := false,told := []}.sendOpen
  | .lanesFailed offline => {s with
    lanes := false,control := false,told := [],reopenTimer := true,phase := if offline then .offline else .connecting}
  | .laneClosed control online => s.laneClosed control online
  | frame => s.onLaneFrame frame

def step : ScreenAction → ScreenSession
  | .input press down => {s.input press down with down := put press down s.down}
  | .setVisible visible => s.setVisible visible
  | .releaseAll => s.releaseAll
  | .resize => s
  | .takeOver => s.takeOver
  | .retry => s.retry
  | .close => if s.closed then s else {s.releaseAll with closed := true,phase := .closed}
  | .dispose => {s with disposed := true,port := false,lanes := false,reopenTimer := false,told := []}
  | .connected none => {s with phase := .unsupported}
  | .connected (some port) =>
    if s.disposed then s else if port then {s with port := true} else {s with phase := .error}
  | .reopenFires online => s.reopenFires online
  | .openTimeout => if s.opened || s.disposed || s.closed then s else {s with phase := .error}
  | message => if s.disposed then s else s.onPortMessage message

end ScreenSession

open ScreenSession

def ScreenSession.start (takeOverOnOpen : Bool) : ScreenSession := {forceNext := takeOverOnOpen}

def screenMachine : Machine ScreenSession ScreenAction := ⟨fun s action => some (s.step action)⟩

def NothingStuck (s : ScreenSession) : Prop := s.opened = true → s.control = true → s.told ⊆ s.down

-- The release of what the remote holds down comes while the session is controllable.
def ReleaseForwarded (s : ScreenSession) : ScreenAction → Prop
  | .input press false => press ∈ s.told → s.controllable = true
  | _ => True

instance : Decidable (ReleaseForwarded s action) := by
  unfold ReleaseForwarded
  split <;> infer_instance

structure Tracked (s : ScreenSession) : Prop where
  live : s.told ≠ [] → s.opened = true ∧ s.sends = true
  held : s.told ⊆ s.held
  named : .key "" ∉ s.told

theorem released (tracked : Tracked s) : s.releaseAll.told = [] := by
  unfold ScreenSession.releaseAll
  by_cases empty : s.told = []
  · simp [empty]
  · obtain ⟨opened,sends⟩ := tracked.live empty
    simpa [opened,sends,← List.subset_def] using tracked.held

-- What every step but an input does: the remote holds nothing any more, or nothing has changed
-- about what it holds and about the way to it.
def Quiet (s next : ScreenSession) : Prop :=
  next.down = s.down ∧ (next.told = [] ∨ next.told = s.told ∧ next.held = s.held ∧
    (s.opened = true ∧ s.sends = true → next.opened = true ∧ next.sends = true))

theorem frame_quiet : Quiet s (s.onLaneFrame action) := by
  unfold ScreenSession.onLaneFrame
  split <;> grind [Quiet,ended,statusPatch,sends]

theorem message_quiet : Quiet s (s.onPortMessage action) := by
  unfold ScreenSession.onPortMessage
  split
  · grind [Quiet,sendOpen]
  · grind [Quiet]
  · grind [Quiet,laneClosed,sends]
  · exact frame_quiet

theorem step_quiet (tracked : Tracked s) (other : ∀ press down, action ≠ .input press down) : Quiet s (s.step action) := by
  have empty := released tracked
  unfold ScreenSession.step
  split
  · exact absurd rfl (other _ _)
  · grind [Quiet,setVisible,connect,sends,releaseAll]
  · grind [Quiet,releaseAll]
  · grind [Quiet]
  · grind [Quiet,takeOver,sendOpen,connect,sends]
  · grind [Quiet,retry,connect,sends]
  · grind [Quiet,releaseAll]
  · grind [Quiet]
  · grind [Quiet,sends]
  · grind [Quiet,sends]
  · grind [Quiet,reopenFires,sends]
  · grind [Quiet,sends]
  · split
    · grind [Quiet]
    · exact message_quiet

theorem quiet_tracked (quiet : Quiet s next) (tracked : Tracked s) : Tracked next := by
  obtain ⟨_,empty | ⟨told,held,way⟩⟩ := quiet
  · constructor <;> simp [empty]
  · exact ⟨fun holds => way (tracked.live (told ▸ holds)),told ▸ held ▸ tracked.held,told ▸ tracked.named⟩

theorem quiet_within (quiet : Quiet s next) (within : s.told ⊆ s.down) : next.told ⊆ next.down := by
  obtain ⟨down,empty | ⟨told,_⟩⟩ := quiet
  · simp [empty]
  · exact told ▸ down ▸ within

section
variable (tracked : Tracked s)
include tracked

theorem input_tracked : Tracked (s.step (.input press pressed)) := by
  obtain ⟨_,_,_⟩ := tracked
  constructor <;> grind [step,input,put,controllable,sends]

theorem tracked_step : Tracked (s.step action) := by
  cases action with
  | input press pressed => exact input_tracked tracked
  | _ => exact quiet_tracked (step_quiet tracked nofun) tracked

theorem nothingStuck_iff : NothingStuck s ↔ s.told ⊆ s.down := by
  refine ⟨?_,fun within _ _ => within⟩
  intro safe press mem
  obtain ⟨opened,sends⟩ := tracked.live (List.ne_nil_of_mem mem)
  simp only [ScreenSession.sends,Bool.and_eq_true] at sends
  exact safe opened sends.1.2 mem

theorem input_stuck (within : s.told ⊆ s.down) :
    (s.step (.input press pressed)).told ⊆ (s.step (.input press pressed)).down ↔ ReleaseForwarded s (.input press pressed) := by
  obtain ⟨_,_,_⟩ := tracked
  cases pressed <;> grind [step,input,put,controllable,sends,ReleaseForwarded]

theorem step_stuck (safe : NothingStuck s) : NothingStuck (s.step action) ↔ ReleaseForwarded s action := by
  have within := (nothingStuck_iff tracked).mp safe
  rw [nothingStuck_iff (tracked_step tracked)]
  cases action with
  | input press pressed => exact input_stuck tracked within
  | _ => exact iff_of_true (quiet_within (step_quiet tracked nofun) within) True.intro

end

theorem no_key_stuck_iff (ran : screenMachine.run (.start takeOverOnOpen) actions = some s) :
    screenMachine.Throughout NothingStuck (.start takeOverOnOpen) actions ↔
      screenMachine.Along ReleaseForwarded (.start takeOverOnOpen) actions := by
  refine throughout_iff_along (fun s action next (tracked : Tracked s) step => ?_) ?_ ?_ ?_ ran
  · cases step
    exact tracked_step tracked
  · intro s action next tracked safe step
    cases step
    exact step_stuck tracked safe
  · exact ⟨nofun,nofun,nofun⟩
  · exact fun _ _ => nofun

-- A key goes down while the screen is streaming.
def pressKey : List ScreenAction :=
  [.setVisible true,.connected (some true),.lanes,.opened none (some ⟨.streaming,false,some true⟩),.input (.key "KeyA") true]

theorem key_released_when_streaming :
    screenMachine.Throughout NothingStuck (.start true) (pressKey ++ [.input (.key "KeyA") false]) :=
  (no_key_stuck_iff rfl).mpr (by decide)

-- The remote is locked before the key is released.
theorem key_stuck_when_locked : ∃ s, screenMachine.run (.start true)
      (pressKey ++ [.state (some ⟨.locked,false,none⟩),.input (.key "KeyA") false]) = some s ∧
      s.opened = true ∧ s.control = true ∧ .key "KeyA" ∈ s.told ∧ .key "KeyA" ∉ s.down :=
  ⟨_,rfl,by decide⟩

end Coflux.Client
