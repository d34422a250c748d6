import Coflux.Foundation.Machine

namespace Coflux.Client
open StepMachine
open Option (bind_eq_some_iff map_eq_some_iff)

def connectedDeviceBudget : Nat := 16
def measurementConnectionBudget : Nat := connectedDeviceBudget - 2
def leaseExpiryMarginMs : Nat := 2000

inductive LaneKind where
  | session | elevated
  deriving DecidableEq

inductive ChannelKind where
  | direct | remote
  deriving DecidableEq

-- The state of the control connection; offlines counts for the statements how often it went offline.
structure Control where
  online : Bool := false
  generation : Nat := 0
  offlines : Nat := 0

-- A connection attempt that has not come to an end, with the control connection it began under.
structure Opening where
  kind : ChannelKind
  (generation leaseExpiresAt : Nat)
  began : Control

-- A channel keeps what its opening was.
abbrev DeviceChannel := Opening

structure LaneAttempt where
  directStarted : Bool := false
  remoteStarted : Bool := false

structure DeviceLane where
  attempt : Option LaneAttempt := none
  openings : List Opening := []
  active : Option DeviceChannel := none

structure SentFrame where
  (control began : Control)

-- sent and attached are history.
structure DeviceRoute where
  sessionLane : DeviceLane := {}
  elevatedLane : DeviceLane := {}
  directProbe : Option Opening := none
  generation : Nat := 0
  interactive : Bool := false
  elevatedDemand : Bool := false
  measured : Bool := false
  sent : List SentFrame := []
  attached : List Nat := []

namespace DeviceRoute
variable (route : DeviceRoute)

def sessionLaneDemand : Bool := route.interactive || route.measured

@[grind] def hasFullDemand : Bool := route.interactive || route.elevatedDemand

@[grind] def lane : LaneKind → DeviceLane
  | .session => route.sessionLane
  | .elevated => route.elevatedLane

@[grind] def setLane (lane : DeviceLane) : LaneKind → DeviceRoute
  | .session => {route with sessionLane := lane}
  | .elevated => {route with elevatedLane := lane}

@[grind] def holdsRemoteSlot : Bool :=
  [route.sessionLane,route.elevatedLane].any fun lane =>
    lane.active.any (·.kind = .remote) || lane.attempt.any (·.remoteStarted)

section
variable (control : Control) (kind : ChannelKind) (leaseExpiresAt : Nat)

@[grind] def opening : Opening :=
  ⟨kind,route.generation + 1,leaseExpiresAt,control⟩

@[grind] def openChannel (attempt : LaneAttempt) (laneKind : LaneKind) :
    DeviceRoute :=
  let lane := route.lane laneKind
  {route.setLane {lane with attempt := some attempt,openings := lane.openings ++ [route.opening control kind leaseExpiresAt]} laneKind
    with generation := route.generation + 1}

end

@[grind] def activate (channel : DeviceChannel) (laneKind : LaneKind) : DeviceRoute :=
  let lane := route.lane laneKind
  if lane.active.any fun previous => channel.generation ≤ previous.generation then route
  else route.setLane {lane with active := some channel} laneKind

@[grind] def acceptCandidate (channel : DeviceChannel) : DeviceRoute :=
  if !route.sessionLaneDemand then route
  else
    match route.sessionLane.active with
    | none => route.activate channel .session
    | some active =>
      if channel.kind = .direct ∧ active.kind = .remote ∧ active.generation < channel.generation then
        route.activate channel .session
      else route

@[grind] def loseChannel (laneKind : LaneKind) : DeviceRoute := route.setLane {route.lane laneKind with active := none} laneKind

@[grind] def closeLane (laneKind : LaneKind) : DeviceRoute := route.setLane {} laneKind

@[grind] def loseRemote : DeviceRoute :=
  let drop := fun (lane : DeviceLane) => {lane with active := lane.active.filter (·.kind = .direct)}
  {route with sessionLane := drop route.sessionLane,elevatedLane := drop route.elevatedLane}

def closed : DeviceRoute := {generation := route.generation,sent := route.sent,attached := route.attached}

@[grind] def invalidateOnlineControl : DeviceRoute := if route.elevatedLane.active.isSome then route.closeLane .elevated else route

end DeviceRoute

def channelCovers (control : Control) (now : Nat) (channel : DeviceChannel) : Bool :=
  control.online && (channel.kind = .remote || now + leaseExpiryMarginMs < channel.leaseExpiresAt)

-- What happens to one route. Timers, loading a grant and a failed direct attempt only decide when
-- the next attempt is made, so an attempt may be made at any time.
inductive RouteAction where
  | demand (interactive elevatedDemand measured : Bool)
  | ensureElevatedLane
  | startDirect (lane : LaneKind) (leaseExpiresAt : Nat)
  | startRemote (lane : LaneKind)
  | opened (lane : LaneKind) (index : Nat)
  | failed (lane : LaneKind) (index : Nat)
  | attemptDone (lane : LaneKind)
  | probeDirectPromotion
  | probed (ok : Bool)
  | loseChannel (lane : LaneKind)
  | closeLane (lane : LaneKind)
  | sendAttach
  | flushElevated (now : Nat)

def routeStep (control : Control) (route : DeviceRoute) : RouteAction → Option DeviceRoute
  | .demand interactive elevatedDemand measured =>
    some {route with interactive := interactive,elevatedDemand := elevatedDemand,measured := measured}
  | .ensureElevatedLane =>
    if control.online ∧ route.elevatedLane.attempt = none then
      some {route with elevatedLane := {route.elevatedLane with attempt := some {}}}
    else none
  | .startDirect lane leaseExpiresAt =>
    match (route.lane lane).attempt with
    | some attempt =>
      if attempt.directStarted then none
      else some (route.openChannel control .direct leaseExpiresAt {attempt with directStarted := true} lane)
    | none => none
  | .startRemote lane =>
    match (route.lane lane).attempt with
    | some attempt =>
      if attempt.remoteStarted ∨ lane = .session ∧ control.online = false then none
      else some (route.openChannel control .remote 0 {attempt with remoteStarted := true} lane)
    | none => none
  | .opened laneKind index =>
    let lane := route.lane laneKind
    match lane.openings[index]? with
    | none => none
    | some opening =>
      let rest := route.setLane {lane with openings := lane.openings.eraseIdx index} laneKind
      -- Only a remote channel is given up when the control connection has changed.
      if opening.kind = .remote ∧ (control.online = false ∨ opening.began.generation ≠ control.generation) then some rest
      else match laneKind with
        | .session => some (rest.acceptCandidate opening)
        | .elevated => some (rest.activate opening .elevated)
  | .failed laneKind index =>
    let lane := route.lane laneKind
    if index < lane.openings.length then some (route.setLane {lane with openings := lane.openings.eraseIdx index} laneKind)
    else none
  | .attemptDone laneKind =>
    let lane := route.lane laneKind
    if lane.openings = [] then some (route.setLane {lane with attempt := none} laneKind) else none
  | .probeDirectPromotion =>
    if route.directProbe = none ∧ route.sessionLane.active.any (·.kind = .remote) ∧ route.hasFullDemand then
      some {route with directProbe := some (route.opening control .direct 0),generation := route.generation + 1}
    else none
  | .probed ok =>
    match route.directProbe with
    | none => none
    | some opening =>
      let rest := {route with directProbe := none}
      if ok ∧ route.sessionLane.active.any (·.kind = .remote) ∧ route.sessionLaneDemand then
        some (rest.activate opening .session)
      else some rest
  | .loseChannel lane => some (route.loseChannel lane)
  | .closeLane lane => some (route.closeLane lane)
  | .sendAttach => route.sessionLane.active.map fun channel => {route with attached := channel.generation :: route.attached}
  | .flushElevated now =>
    route.elevatedLane.active.map fun channel =>
      if channelCovers control now channel then {route with sent := ⟨control,channel.began⟩ :: route.sent}
      else route.closeLane .elevated

structure DeviceRouter where
  control : Control
  routes : List DeviceRoute

section
variable (s : DeviceRouter)

def DeviceRouter.remoteSlotsInUse : Nat := s.routes.countP (·.holdsRemoteSlot)

def reclaimRemoteSlot : Nat → List DeviceRoute → List DeviceRoute
  | _,[] => []
  | used,route :: rest =>
    if connectedDeviceBudget ≤ used ∧ route.holdsRemoteSlot ∧ !route.hasFullDemand then
      let closed := route.closeLane .session
      closed :: reclaimRemoteSlot (if closed.holdsRemoteSlot then used else used - 1) rest
    else route :: reclaimRemoteSlot used rest

inductive RouterAction where
  | newRoute
  | route (daemon : Nat) (action : RouteAction)
  | ensureSessionLane (daemon : Nat)
  | setControlDisconnected
  | controlDataGrace
  | setControlOnline (online : Bool)
  | closeRoute (daemon : Nat)
  | logout

def DeviceRouter.offline : DeviceRouter :=
  ⟨⟨false,s.control.generation + 1,s.control.offlines + 1⟩,s.routes.map (·.invalidateOnlineControl)⟩

-- A route with full demand is admitted here and dials later.
def DeviceRouter.ensureSessionLane (daemon : Nat) (route : DeviceRoute) : Option DeviceRouter :=
  if route.sessionLane.active.isSome ∨ route.sessionLane.attempt.isSome then none
  else if route.hasFullDemand then
    let routes := if route.holdsRemoteSlot then s.routes else reclaimRemoteSlot s.remoteSlotsInUse s.routes
    some {s with routes := routes.set daemon {route with sessionLane := {route.sessionLane with attempt := some {}}}}
  else if !route.measured ∨ !s.control.online ∨
      !route.holdsRemoteSlot ∧ measurementConnectionBudget ≤ s.remoteSlotsInUse then none
  else some {s with routes := s.routes.set daemon (route.openChannel s.control .remote 0 {remoteStarted := true} .session)}

def routerStep : RouterAction → Option DeviceRouter
  | .newRoute => some {s with routes := s.routes ++ [{}]}
  | .route daemon action =>
    (s.routes[daemon]?).bind fun route => (routeStep s.control route action).map fun next =>
      {s with routes := s.routes.set daemon next}
  | .ensureSessionLane daemon => (s.routes[daemon]?).bind fun route => s.ensureSessionLane daemon route
  | .setControlDisconnected => if s.control.online then some s.offline else none
  | .controlDataGrace => if s.control.online then none else some {s with routes := s.routes.map (·.loseRemote)}
  | .setControlOnline false => some {s.offline with routes := s.offline.routes.map (·.loseRemote)}
  | .setControlOnline true =>
    if s.control.online then none else some {s with control := {s.control with online := true,generation := s.control.generation + 1}}
  | .closeRoute daemon => (s.routes[daemon]?).map fun route => {s with routes := s.routes.set daemon route.closed}
  -- The client instance is a new one.
  | .logout => some ⟨s.offline.control,s.routes.map fun route => {sent := route.sent}⟩

end

def routerMachine : Machine DeviceRouter RouterAction := ⟨routerStep⟩

inductive Came (s : DeviceRouter) : RouterAction → Control → DeviceRoute → Prop where
  | kept (member : route ∈ s.routes) : Came s action s.control route
  | new : Came s .newRoute s.control {}
  | stepped (found : s.routes[daemon]? = some route) (took : routeStep s.control route action = some after) :
      Came s (.route daemon action) s.control after
  | reclaimed (member : route ∈ s.routes) : Came s action s.control (route.closeLane .session)
  | admitted (member : route ∈ s.routes) (idle : route.sessionLane.attempt = none) :
      Came s action s.control {route with sessionLane := {route.sessionLane with attempt := some {}}}
  | measured (member : route ∈ s.routes) :
      Came s action s.control (route.openChannel s.control .remote 0 {remoteStarted := true} .session)
  | closed (member : route ∈ s.routes) : Came s action s.control route.closed
  | disconnected (member : route ∈ s.routes) : Came s .setControlDisconnected s.offline.control route.invalidateOnlineControl
  | revoked (member : route ∈ s.routes) : Came s (.setControlOnline false) s.offline.control route.invalidateOnlineControl.loseRemote
  | grace (member : route ∈ s.routes) : Came s .controlDataGrace s.control route.loseRemote
  | online (member : route ∈ s.routes) : Came s (.setControlOnline true) ⟨true,s.control.generation + 1,s.control.offlines⟩ route
  | logout (member : route ∈ s.routes) : Came s .logout s.offline.control {sent := route.sent}

theorem reclaim_routes (mem : route ∈ reclaimRemoteSlot used routes) :
    route ∈ routes ∨ ∃ old ∈ routes, route = old.closeLane .session := by
  induction routes generalizing used with
  | nil => cases mem
  | cons first rest ih =>
    unfold reclaimRemoteSlot at mem
    grind

theorem ensureSessionLane_routes (found : s.routes[daemon]? = some route)
    (ensured : s.ensureSessionLane daemon route = some next) :
    next.control = s.control ∧ ∀ after ∈ next.routes, Came s action s.control after := by
  have here := List.mem_of_getElem? found
  unfold DeviceRouter.ensureSessionLane at ensured
  split at ensured
  · cases ensured
  · rename_i free
    split at ensured
    · cases ensured
      refine ⟨rfl,?_⟩
      intro after mem
      rcases List.mem_or_eq_of_mem_set mem with old | rfl
      · split at old
        · exact .kept old
        · rcases reclaim_routes old with same | ⟨earlier,listed,rfl⟩
          · exact .kept same
          · exact .reclaimed listed
      · exact .admitted here (by simpa using (not_or.mp free).2)
    · split at ensured
      · cases ensured
      · cases ensured
        refine ⟨rfl,?_⟩
        intro after mem
        rcases List.mem_or_eq_of_mem_set mem with old | rfl
        · exact .kept old
        · exact .measured here

theorem routes_come (step : routerStep s action = some next) : ∀ route ∈ next.routes, Came s action next.control route := by
  intro route mem
  cases action with
  | newRoute => grind [routerStep,Came]
  | route daemon action =>
    obtain ⟨old,found,moved⟩ := bind_eq_some_iff.mp step
    obtain ⟨_,took,rfl⟩ := map_eq_some_iff.mp moved
    rcases List.mem_or_eq_of_mem_set mem with kept | rfl
    · exact .kept kept
    · exact .stepped found took
  | ensureSessionLane daemon =>
    obtain ⟨old,found,ensured⟩ := bind_eq_some_iff.mp step
    obtain ⟨same,routes⟩ := ensureSessionLane_routes found ensured
    rw [same]
    exact routes route mem
  | closeRoute daemon =>
    obtain ⟨_,_,rfl⟩ := map_eq_some_iff.mp step
    grind [Came,List.mem_or_eq_of_mem_set]
  | setControlOnline online => cases online <;> grind [routerStep,Came,DeviceRouter.offline]
  | setControlDisconnected | controlDataGrace | logout => grind [routerStep,Came,DeviceRouter.offline]

def SentFrame.Fresh (frame : SentFrame) : Prop := frame.control.online = true ∧ frame.began.offlines = frame.control.offlines

-- What is open on the elevated lane began after the control connection was last offline,
-- but for remote openings that are going to be given up.
structure Fresh (control : Control) (route : DeviceRoute) : Prop where
  active : ∀ channel ∈ route.elevatedLane.active, channel.began.offlines = control.offlines
  openings : ∀ opening ∈ route.elevatedLane.openings, opening.began.generation ≤ control.generation ∧
    (opening.began.offlines = control.offlines ∨ opening.kind = .remote ∧ opening.began.generation < control.generation)
  sent : ∀ frame ∈ route.sent, frame.Fresh

theorem fresh_route {control : Control} {next : DeviceRoute} (fresh : Fresh control route)
    (step : routeStep control route action = some next) : Fresh control next := by
  obtain ⟨active,openings,sent⟩ := fresh
  have erased : ∀ index opening, opening ∈ route.elevatedLane.openings.eraseIdx index → opening ∈ route.elevatedLane.openings :=
    fun _ _ => List.mem_of_mem_eraseIdx
  cases action with
  | sendAttach =>
    obtain ⟨channel,_,rfl⟩ := map_eq_some_iff.mp step
    exact ⟨active,openings,sent⟩
  | flushElevated now =>
    obtain ⟨_,_,rfl⟩ := map_eq_some_iff.mp step
    split <;> constructor <;> grind [channelCovers,SentFrame.Fresh]
  | demand | ensureElevatedLane | probeDirectPromotion | probed =>
    simp only [routeStep] at step
    constructor <;> grind
  | startDirect lane | startRemote lane | opened lane | failed lane | attemptDone lane | loseChannel lane | closeLane lane =>
    simp only [routeStep] at step
    cases lane <;> constructor <;> grind

-- No direct opening of an elevated lane is under way when the control connection goes offline.
def NoDirectUnderWay (s : DeviceRouter) : RouterAction → Prop
  | .setControlDisconnected | .setControlOnline false => ∀ route ∈ s.routes, route.elevatedLane.active = none →
      ∀ opening ∈ route.elevatedLane.openings, opening.kind = .remote
  | _ => True

instance : Decidable (NoDirectUnderWay s action) := by
  unfold NoDirectUnderWay
  split <;> infer_instance

theorem offline_fresh {s : DeviceRouter} (fresh : Fresh s.control route)
    (remote : route.elevatedLane.active = none → ∀ opening ∈ route.elevatedLane.openings, opening.kind = .remote) :
    Fresh s.offline.control route.invalidateOnlineControl := by
  obtain ⟨_,openings,sent⟩ := fresh
  unfold DeviceRoute.invalidateOnlineControl
  split
  · exact ⟨nofun,nofun,sent⟩
  · rename_i idle
    have closed : route.elevatedLane.active = none := by simpa using idle
    refine ⟨by simp [closed],?_,sent⟩
    intro opening mem
    have before := (openings opening mem).1
    exact ⟨Nat.le_succ_of_le before,.inr ⟨remote closed opening mem,Nat.lt_succ_of_le before⟩⟩

theorem lost_fresh {control : Control} (fresh : Fresh control route) : Fresh control route.loseRemote :=
  ⟨fun channel kept => fresh.active channel (Option.filter_eq_some_iff.mp kept).1,fresh.openings,fresh.sent⟩

def AllFresh (s : DeviceRouter) : Prop := ∀ route ∈ s.routes, Fresh s.control route

theorem fresh_step (fresh : AllFresh s) (allowed : NoDirectUnderWay s action) (step : routerStep s action = some next) :
    AllFresh next := by
  intro route mem
  have came := routes_come step _ mem
  generalize next.control = control at came ⊢
  cases came with
  | kept listed => exact fresh _ listed
  | new => exact ⟨nofun,nofun,nofun⟩
  | stepped found took => exact fresh_route (fresh _ (List.mem_of_getElem? found)) took
  | reclaimed listed | admitted listed | measured listed => exact {fresh _ listed with}
  | closed listed | logout listed => exact ⟨nofun,nofun,(fresh _ listed).sent⟩
  | grace listed => exact lost_fresh (fresh _ listed)
  | disconnected listed => exact offline_fresh (fresh _ listed) (allowed _ listed)
  | revoked listed => exact lost_fresh (offline_fresh (fresh _ listed) (allowed _ listed))
  | online listed =>
    refine {fresh _ listed with openings := ?_}
    intro opening under
    obtain ⟨before,began⟩ := (fresh _ listed).openings opening under
    exact ⟨Nat.le_succ_of_le before,began.imp_right fun late => ⟨late.1,Nat.lt_succ_of_lt late.2⟩⟩

def FramesFresh (s : DeviceRouter) : Prop := ∀ route ∈ s.routes, ∀ frame ∈ route.sent, frame.Fresh

theorem elevated_frames_fresh (actions : List RouterAction) (along : routerMachine.Along NoDirectUnderWay ⟨{},[]⟩ actions) :
    routerMachine.Throughout FramesFresh ⟨{},[]⟩ actions :=
  throughout_of_along (fun _ fresh route mem => (fresh route mem).sent) (fun _ _ _ => fresh_step)
    (fun _ mem => absurd mem List.not_mem_nil) along

-- A request opens its lane directly; the control connection fails and comes back meanwhile.
def elevatedDirect (between : List RouterAction) : List RouterAction :=
  [.newRoute,.setControlOnline true,.route 0 (.demand false true false),.route 0 .ensureElevatedLane,
    .route 0 (.startDirect .elevated 60000)] ++ between ++ [.route 0 (.opened .elevated 0),.route 0 (.flushElevated 0)]

theorem elevated_frames_fresh_direct : routerMachine.Throughout FramesFresh ⟨{},[]⟩ (elevatedDirect []) :=
  elevated_frames_fresh _ (by decide +kernel)

theorem elevated_frame_stale :
    ∃ last, routerMachine.run ⟨{},[]⟩ (elevatedDirect [.setControlDisconnected,.setControlOnline true]) = some last ∧
      ¬ FramesFresh last := by
  refine ⟨_,rfl,?_⟩
  intro fresh
  exact absurd (fresh _ List.mem_cons_self _ List.mem_cons_self).2 (by decide)

-- The generations of what a session lane may still attach with, against those it attached with.
structure Rising (route : DeviceRoute) : Prop where
  ordered : route.attached.Pairwise (· ≥ ·)
  past : ∀ earlier ∈ route.attached, earlier ≤ route.generation
  openings : ∀ opening ∈ route.sessionLane.openings, opening.generation ≤ route.generation
  probe : ∀ opening ∈ route.directProbe, opening.generation ≤ route.generation
  active : ∀ channel ∈ route.sessionLane.active, channel.generation ≤ route.generation ∧
    ∀ earlier ∈ route.attached, earlier ≤ channel.generation
  idle : route.sessionLane.active = none → ∀ opening ∈ route.sessionLane.openings, ∀ earlier ∈ route.attached,
    earlier ≤ opening.generation

def DeviceRoute.Newest (route : DeviceRoute) : Prop :=
  ∀ channel ∈ route.sessionLane.active, ∀ opening ∈ route.sessionLane.openings, channel.generation ≤ opening.generation

instance : Decidable (DeviceRoute.Newest route) :=
  inferInstanceAs (Decidable (∀ channel ∈ route.sessionLane.active, ∀ opening ∈ route.sessionLane.openings, _))

def LosesNewest (s : DeviceRouter) : RouterAction → Prop
  | .route daemon (.loseChannel .session) => ∀ route ∈ s.routes[daemon]?, route.Newest
  | .controlDataGrace | .setControlOnline false => ∀ route ∈ s.routes,
      route.sessionLane.active.any (·.kind = .remote) = true → route.Newest
  | _ => True

instance : Decidable (LosesNewest s action) := by
  unfold LosesNewest
  split <;> infer_instance

theorem activate_rising (rising : Rising route) (bounded : channel.generation ≤ route.generation)
    (free : route.sessionLane.active = none → ∀ earlier ∈ route.attached, earlier ≤ channel.generation) :
    Rising (route.activate channel .session) := by
  obtain ⟨_,_,_,_,_,_⟩ := rising
  unfold DeviceRoute.activate
  cases held : route.sessionLane.active <;> constructor <;> grind

theorem lose_rising (rising : Rising route) (newest : route.Newest) : Rising (route.loseChannel .session) := by
  obtain ⟨ordered,past,openings,probe,active,idle⟩ := rising
  refine ⟨ordered,past,openings,probe,nofun,?_⟩
  intro _ opening under earlier attached
  cases held : route.sessionLane.active with
  | none => exact idle held opening under earlier attached
  | some channel => exact Nat.le_trans ((active channel held).2 earlier attached) (newest channel held opening under)

theorem rising_route {control : Control} {next : DeviceRoute} (rising : Rising route)
    (newest : action = .loseChannel .session → route.Newest) (step : routeStep control route action = some next) : Rising next := by
  have erased : ∀ index opening, opening ∈ route.sessionLane.openings.eraseIdx index → opening ∈ route.sessionLane.openings :=
    fun index opening => List.mem_of_mem_eraseIdx
  cases action with
  | sendAttach =>
    obtain ⟨channel,held,rfl⟩ := map_eq_some_iff.mp step
    obtain ⟨_,above⟩ := rising.active _ held
    obtain ⟨ordered,past,openings,probe,_,_⟩ := rising
    exact ⟨.cons above ordered,by grind,openings,probe,by grind,by grind⟩
  | flushElevated now =>
    obtain ⟨_,_,rfl⟩ := map_eq_some_iff.mp step
    split <;> exact {rising with}
  | probed ok =>
    simp only [routeStep] at step
    split at step
    · cases step
    · rename_i opening probing
      have rest : Rising {route with directProbe := none} := {rising with probe := nofun}
      split at step
      · rename_i won
        cases step
        refine activate_rising rest (rising.probe _ probing) ?_
        intro idle
        simp [show route.sessionLane.active = none from idle] at won
      · cases step
        exact rest
  | opened lane index =>
    simp only [routeStep] at step
    split at step
    · cases step
    · rename_i opening found
      have under := List.mem_of_getElem? found
      cases lane with
      | elevated => constructor <;> grind [Rising]
      | session =>
        have rest : Rising {route with
            sessionLane := {route.sessionLane with openings := route.sessionLane.openings.eraseIdx index}} := by
          constructor <;> grind [Rising]
        have won := @activate_rising _ opening rest (rising.openings _ under) (rising.idle · opening under)
        grind
  | loseChannel lane =>
    cases step
    cases lane with
    | session => exact lose_rising rising (newest rfl)
    | elevated => exact {rising with}
  | demand | ensureElevatedLane | probeDirectPromotion =>
    simp only [routeStep] at step
    obtain ⟨ordered,past,openings,probe,active,idle⟩ := rising
    constructor <;> grind
  | startDirect lane | startRemote lane | failed lane | attemptDone lane | closeLane lane =>
    simp only [routeStep] at step
    obtain ⟨_,_,_,_,_,_⟩ := rising
    cases lane <;> constructor <;> grind

theorem lost_rising (rising : Rising route) (newest : route.sessionLane.active.any (·.kind = .remote) = true → route.Newest) :
    Rising route.loseRemote := by
  refine {rising with active := fun channel kept => rising.active _ (Option.filter_eq_some_iff.mp kept).1,idle := ?_}
  intro gone
  cases held : route.sessionLane.active with
  | none => exact rising.idle held
  | some channel =>
    have lost : route.sessionLane.active.filter (·.kind = .direct) = none := gone
    have remote : channel.kind = .remote := by cases via : channel.kind <;> simp_all
    exact (lose_rising rising (newest (by simp [held,remote]))).idle rfl

theorem offline_rising (rising : Rising route) : Rising route.invalidateOnlineControl := by
  unfold DeviceRoute.invalidateOnlineControl
  split
  · exact {rising with}
  · exact rising

def AllRising (s : DeviceRouter) : Prop := ∀ route ∈ s.routes, Rising route

theorem rising_step (rising : AllRising s) (allowed : LosesNewest s action) (step : routerStep s action = some next) :
    AllRising next := by
  intro route mem
  have came := routes_come step _ mem
  generalize next.control = control at came
  cases came with
  | kept listed | online listed => exact rising _ listed
  | new | logout => constructor <;> simp
  | stepped found took =>
    refine rising_route (rising _ (List.mem_of_getElem? found)) ?_ took
    rintro rfl
    exact allowed _ found
  | admitted listed => exact {rising _ listed with}
  | reclaimed listed | measured listed | closed listed =>
    obtain ⟨_,_,_,_,_,_⟩ := rising _ listed
    constructor <;> grind [DeviceRoute.closed]
  | disconnected listed => exact offline_rising (rising _ listed)
  | grace listed => exact lost_rising (rising _ listed) (allowed _ listed)
  | revoked listed => 
    rename_i old
    refine lost_rising (offline_rising (rising _ listed)) ?_
    have same : old.invalidateOnlineControl.sessionLane = old.sessionLane := by grind
    unfold DeviceRoute.Newest
    rw [same]
    exact allowed _ listed

theorem attach_generations_rise (actions : List RouterAction) (along : routerMachine.Along LosesNewest ⟨{},[]⟩ actions) :
    routerMachine.Throughout (fun s => ∀ route ∈ s.routes, route.attached.Pairwise (· ≥ ·)) ⟨{},[]⟩ actions :=
  throughout_of_along (fun _ rising route mem => (rising route mem).ordered) (fun _ _ _ => rising_step)
    (fun _ mem => absurd mem List.not_mem_nil) along

-- A direct opening and a remote one race; the remote one wins and attaches first.
def sessionRace (direct : Nat) : List RouterAction :=
  [.newRoute,.setControlOnline true,.route 0 (.demand true false false),.ensureSessionLane 0,
    .route 0 (.startDirect .session 0),.route 0 (.startRemote .session),.route 0 (.opened .session 1),.route 0 .sendAttach] ++
    List.replicate direct (.route 0 (.loseChannel .session)) ++ [.route 0 (.opened .session 0)]

theorem attach_generations_rise_race :
    routerMachine.Throughout (fun s => ∀ route ∈ s.routes, route.attached.Pairwise (· ≥ ·)) ⟨{},[]⟩ (sessionRace 0) :=
  attach_generations_rise _ (by decide +kernel)

theorem attach_generation_falls :
    ∃ last, routerMachine.run ⟨{},[]⟩ (sessionRace 1 ++ [.route 0 .sendAttach]) = some last ∧
      last.routes.map (·.attached) = [[1,2]] :=
  ⟨_,rfl,rfl⟩

@[grind] def DeviceRoute.measuredSlot (route : DeviceRoute) : Bool :=
  route.measured && !route.hasFullDemand && route.holdsRemoteSlot

@[grind] def DeviceLane.Dialed (lane : DeviceLane) : Prop :=
  ∀ opening ∈ lane.openings, opening.kind = .remote → lane.attempt.any (·.remoteStarted) = true

structure Dialed (route : DeviceRoute) : Prop where
  session : route.sessionLane.Dialed
  elevated : route.elevatedLane.Dialed
  probe : ∀ opening ∈ route.directProbe, opening.kind = .direct

theorem dialed_route {control : Control} {next : DeviceRoute} (dialed : Dialed route)
    (step : routeStep control route action = some next) :
    Dialed next ∧ ((∀ lane, action ≠ .startRemote lane) → (next.holdsRemoteSlot = true → route.holdsRemoteSlot = true)) ∧
      ((∀ interactive elevatedDemand measured, action ≠ .demand interactive elevatedDemand measured) →
        next.measured = route.measured ∧ next.hasFullDemand = route.hasFullDemand) := by
  obtain ⟨session,elevated,probe⟩ := dialed
  have erased : ∀ (lane : DeviceLane) index opening, opening ∈ lane.openings.eraseIdx index → opening ∈ lane.openings :=
    fun lane _ _ => List.mem_of_mem_eraseIdx
  cases action with
  | sendAttach =>
    obtain ⟨channel,_,rfl⟩ := map_eq_some_iff.mp step
    exact ⟨⟨session,elevated,probe⟩,fun _ => id,fun _ => ⟨rfl,rfl⟩⟩
  | flushElevated now =>
    obtain ⟨_,_,rfl⟩ := map_eq_some_iff.mp step
    split <;> refine ⟨⟨?_,?_,?_⟩,?_,?_⟩ <;> grind
  | demand | ensureElevatedLane | probeDirectPromotion | probed =>
    simp only [routeStep] at step
    refine ⟨⟨?_,?_,?_⟩,?_,?_⟩ <;> grind
  | startDirect lane | startRemote lane | opened lane | failed lane | attemptDone lane | loseChannel lane | closeLane lane =>
    simp only [routeStep] at step
    cases lane <;> refine ⟨⟨?_,?_,?_⟩,?_,?_⟩ <;> grind

theorem dialed_step (dialed : ∀ route ∈ s.routes, Dialed route) (step : routerStep s action = some next) :
    ∀ route ∈ next.routes, Dialed route := by
  intro route mem
  have came := routes_come step _ mem
  generalize next.control = control at came
  cases came with
  | kept listed | online listed => exact dialed _ listed
  | new | logout | closed => exact ⟨nofun,nofun,nofun⟩
  | stepped found took => exact (dialed_route (dialed _ (List.mem_of_getElem? found)) took).1
  | reclaimed listed | admitted listed | measured listed | grace listed | disconnected listed | revoked listed =>
    obtain ⟨_,_,_⟩ := dialed _ listed
    constructor <;> grind

@[grind] def Less (old new : DeviceRoute) : Prop :=
  (new.holdsRemoteSlot = true → old.holdsRemoteSlot = true) ∧ (new.measuredSlot = true → old.measuredSlot = true)

theorem lost_less (route : DeviceRoute) : Less route route.loseRemote := by
  have direct : ∀ active : Option DeviceChannel, (active.filter (·.kind = .direct)).any (·.kind = .remote) = false := by
    intro active
    rw [Option.any_filter,Option.any_eq_false]
    grind
  grind

theorem offline_less (route : DeviceRoute) : Less route route.invalidateOnlineControl := by
  grind

theorem set_less (less : List.Forall₂ Less olds news) (found : olds[daemon]? = some route) (moved : Less route next) :
    List.Forall₂ Less olds (news.set daemon next) := by
  induction less generalizing daemon with
  | nil => exact .nil
  | cons first rest ih =>
    cases daemon with
    | zero =>
      cases found
      exact .cons moved rest
    | succ daemon => exact .cons first (ih found)

theorem reclaim_less : List.Forall₂ Less routes (reclaimRemoteSlot used routes) := by
  induction routes generalizing used with
  | nil => exact .nil
  | cons first rest ih =>
    unfold reclaimRemoteSlot
    split
    · exact .cons (by grind) ih
    · exact .cons ⟨id,id⟩ ih

-- While a slot is held for a measurement, no more slots are in use than there are.
def WithinBudget (routes : List DeviceRoute) : Prop :=
  routes.any (·.measuredSlot) = true → routes.countP (·.holdsRemoteSlot) ≤ connectedDeviceBudget

theorem less_counts (less : List.Forall₂ Less olds news) :
    news.countP (·.holdsRemoteSlot) ≤ olds.countP (·.holdsRemoteSlot) ∧
      (news.any (·.measuredSlot) = true → olds.any (·.measuredSlot) = true) := by
  induction less with
  | nil => exact ⟨Nat.le_refl _,id⟩
  | cons first rest ih =>
    unfold Less at first
    simp only [List.countP_cons,List.any_cons,Bool.or_eq_true]
    grind

theorem less_within (less : List.Forall₂ Less olds news) (within : WithinBudget olds) : WithinBudget news := fun measured =>
  have counts := less_counts less
  Nat.le_trans counts.1 (within (counts.2 measured))

theorem less_refl : List.Forall₂ Less routes routes := List.forall₂_same.mpr fun _ _ => ⟨id,id⟩

theorem map_less (less : ∀ route, Less route (change route)) :
    List.Forall₂ Less routes (routes.map change) :=
  List.forall₂_map_right_iff.mpr (List.forall₂_same.mpr fun route _ => less route)

theorem set_within {routes : List DeviceRoute} (found : routes[daemon]? = some route)
    (room : (next :: routes).any (·.measuredSlot) = true → routes.countP (·.holdsRemoteSlot) < connectedDeviceBudget) :
    WithinBudget (routes.set daemon next) := by
  intro measured
  obtain ⟨other,mem,held⟩ := List.any_eq_true.mp measured
  obtain ⟨bound,rfl⟩ := List.getElem?_eq_some_iff.mp found
  have free := room (List.any_eq_true.mpr ⟨other,(List.mem_or_eq_of_mem_set mem).elim (.tail _) (· ▸ .head _),held⟩)
  rw [List.countP_set bound]
  grind

-- While some route is only measured a remote dial finds room for its slot.
def InBudget (s : DeviceRouter) : RouterAction → Prop
  | .route daemon (.startRemote _) => ∀ route ∈ s.routes[daemon]?, route.holdsRemoteSlot = false →
      (∃ other ∈ s.routes, other.measured = true ∧ other.hasFullDemand = false) → s.remoteSlotsInUse < connectedDeviceBudget
  | .route daemon (.demand false false true) => ∀ route ∈ s.routes[daemon]?, route.holdsRemoteSlot = true →
      s.remoteSlotsInUse ≤ connectedDeviceBudget
  | .ensureSessionLane daemon => ∀ route ∈ s.routes[daemon]?, route.hasFullDemand = false → route.holdsRemoteSlot = false
  | _ => True

instance : Decidable (InBudget s action) := by
  unfold InBudget
  split <;> infer_instance

theorem within_step (dialed : ∀ route ∈ s.routes, Dialed route) (within : WithinBudget s.routes) (allowed : InBudget s action)
    (step : routerStep s action = some next) : WithinBudget next.routes := by
  cases action with
  | newRoute =>
    cases step
    simpa [WithinBudget,DeviceRoute.measuredSlot,DeviceRoute.holdsRemoteSlot] using within
  | route daemon action =>
    obtain ⟨route,found,moved⟩ := bind_eq_some_iff.mp step
    obtain ⟨after,took,rfl⟩ := map_eq_some_iff.mp moved
    have here := List.mem_of_getElem? found
    obtain ⟨_,holds,demands⟩ := dialed_route (dialed _ here) took
    cases action with
    | startRemote lane =>
      obtain ⟨same,full⟩ := demands nofun
      by_cases held : route.holdsRemoteSlot = true
      · exact less_within (set_less less_refl found ⟨fun _ => held,by grind⟩) within
      · refine set_within found ?_
        intro measured
        refine allowed route found (by simpa using held) ?_
        grind
    | demand interactive elevatedDemand measured =>
      by_cases gained : after.measuredSlot = true
      · cases took
        obtain ⟨bound,rfl⟩ := List.getElem?_eq_some_iff.mp found
        have only : interactive = false ∧ elevatedDemand = false ∧ measured = true := by
          grind
        obtain ⟨rfl,rfl,rfl⟩ := only
        have room : s.routes.countP (·.holdsRemoteSlot) ≤ connectedDeviceBudget := allowed _ found (by grind)
        intro _
        rw [List.countP_set bound]
        grind [connectedDeviceBudget]
      · exact less_within (set_less less_refl found ⟨holds nofun,(absurd · gained)⟩) within
    | _ =>
      obtain ⟨_,_⟩ := demands nofun
      exact less_within (set_less less_refl found ⟨holds nofun,by grind⟩) within
  | ensureSessionLane daemon =>
    obtain ⟨route,found,ensured⟩ := bind_eq_some_iff.mp step
    unfold DeviceRouter.ensureSessionLane at ensured
    split at ensured
    · cases ensured
    · split at ensured
      · cases ensured
        have fewer : List.Forall₂ Less s.routes
            (if route.holdsRemoteSlot then s.routes else reclaimRemoteSlot s.remoteSlotsInUse s.routes) := by
          split
          · exact less_refl
          · exact reclaim_less
        refine less_within (set_less fewer found ?_) within
        grind
      · rename_i only
        have free := allowed route found (by simpa using only)
        split at ensured
        · cases ensured
        · cases ensured
          refine set_within found ?_
          grind [DeviceRouter.remoteSlotsInUse,measurementConnectionBudget,connectedDeviceBudget]
  | closeRoute daemon =>
    obtain ⟨_,found,rfl⟩ := map_eq_some_iff.mp step
    exact less_within (set_less less_refl found ⟨nofun,nofun⟩) within
  | setControlDisconnected =>
    obtain ⟨_,rfl⟩ := guard_parts step
    exact less_within (map_less offline_less) within
  | controlDataGrace =>
    simp only [routerStep] at step
    split at step
    · cases step
    · cases step
      exact less_within (map_less lost_less) within
  | setControlOnline online =>
    cases online with
    | false =>
      cases step
      exact less_within (map_less lost_less) (less_within (map_less offline_less) within)
    | true =>
      simp only [routerStep] at step
      split at step
      · cases step
      · cases step
        exact within
  | logout =>
    cases step
    exact less_within (map_less fun _ => ⟨nofun,nofun⟩) within

def MeasuresBelow (s : DeviceRouter) : RouterAction → Prop
  | .ensureSessionLane daemon => ∀ route ∈ s.routes[daemon]?, route.hasFullDemand = false →
      (s.ensureSessionLane daemon route).isSome = true → s.remoteSlotsInUse < measurementConnectionBudget
  | _ => True

theorem measures_below (allowed : InBudget s action) : MeasuresBelow s action := by
  cases action with
  | ensureSessionLane daemon =>
    intro route found only started
    have free := allowed route found only
    grind [DeviceRouter.ensureSessionLane]
  | _ => exact True.intro

theorem remote_budget_holds (actions : List RouterAction) (along : routerMachine.Along InBudget ⟨{},[]⟩ actions) :
    routerMachine.Throughout (fun s => WithinBudget s.routes) ⟨{},[]⟩ actions ∧ routerMachine.Along MeasuresBelow ⟨{},[]⟩ actions := by
  have keeps : ∀ s action next, ((∀ route ∈ s.routes, Dialed route) ∧ WithinBudget s.routes) → InBudget s action →
      routerMachine.step s action = some next → (∀ route ∈ next.routes, Dialed route) ∧ WithinBudget next.routes :=
    fun s _ _ inv allowed step => ⟨dialed_step inv.1 step,within_step inv.1 inv.2 allowed step⟩
  have start : (∀ route ∈ ([] : List DeviceRoute), Dialed route) ∧ WithinBudget [] :=
    ⟨fun _ mem => absurd mem List.not_mem_nil,nofun⟩
  exact ⟨throughout_of_along (fun _ inv => inv.2) keeps start along,
    along_of_along keeps (fun _ _ _ => measures_below) start along⟩

-- A device is measured; so many others are admitted before any of them dials the centre.
def measuredAmong (others : List Nat) : List RouterAction :=
  [.newRoute,.setControlOnline true,.route 0 (.demand false false true),.ensureSessionLane 0] ++
    others.flatMap (fun daemon => [.newRoute,.route daemon (.demand true false false),.ensureSessionLane daemon]) ++
    others.map (.route · (.startRemote .session))

theorem remote_budget_holds_one :
    routerMachine.Throughout (fun s => WithinBudget s.routes) ⟨{},[]⟩ (measuredAmong [1]) ∧
      routerMachine.Along MeasuresBelow ⟨{},[]⟩ (measuredAmong [1]) :=
  remote_budget_holds _ (by decide +kernel)

theorem remote_budget_exceeded :
    ∃ last, routerMachine.run ⟨{},[]⟩ (measuredAmong (List.range' 1 16)) = some last ∧ ¬ WithinBudget last.routes := by
  refine ⟨_,rfl,?_⟩
  intro within
  exact absurd (within (by decide +kernel)) (by decide +kernel)

end Coflux.Client
