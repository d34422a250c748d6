import Coflux.Foundation.Machine
import Coflux.Ptyd.Session

namespace Coflux.Ptyd
open FiniteMap StepMachine SessionInner

-- Each Write is three critical sections: the check under inner, the PTY write under write_lock, and
-- the cursor insert under both.
structure PtyWrite where
  request : WriteRequest
  complete : Bool

-- writing has written and still has to store its cursor. The log is what reached the PTY, a write
-- that stopped midway included.
structure InputState where
  inner : SessionInner
  waiting : List WriteRequest
  writing : Option WriteRequest
  log : List PtyWrite

def InputState.start (inner : SessionInner) : InputState := ⟨inner,[],none,[]⟩

inductive InputAction where
  | check (request : WriteRequest)
  | ptyWrite (index : Nat) (outcome : PtyOutcome)
  | commit
  | lifecycle (change : Lifecycle)
  | remove

section
variable (s : InputState)

def checkStep (request : WriteRequest) : InputState :=
  match admitWrite request,s.inner.checkWrite request with
  | none,.proceed _ => {s with waiting := s.waiting ++ [request]}
  | _,_ => s

def ptyWriteStep (index : Nat) (request : WriteRequest) : PtyOutcome → Option InputState
  | .written => some {s with
      waiting := s.waiting.eraseIdx index
      writing := some request
      log := s.log ++ [⟨request,true⟩]}
  | .failed written _ _ =>
    if written < request.data.length then
      some {s with
        waiting := s.waiting.eraseIdx index
        log := if written = 0 then s.log else s.log ++ [⟨request,false⟩]}
    else none

def inputStep : InputAction → Option InputState
  | .check request => some (checkStep s request)
  | .ptyWrite index outcome =>
    match s.writing,s.waiting[index]? with
    | none,some request => ptyWriteStep s index request outcome
    | _,_ => none
  | .commit => s.writing.map fun request => {s with inner := s.inner.commitWrite request,writing := none}
  | .lifecycle change => some {s with inner := change.apply s.inner}
  | .remove =>
    if s.writing = none ∧ (s.inner.pid = none ∨ s.inner.exit.isSome) then some {s with inner := s.inner.removed}
    else none

def inputMachine : Machine InputState InputAction := ⟨inputStep⟩

def seqsOf (log : List PtyWrite) (client : String) : List Nat :=
  (log.filter fun entry => entry.request.clientInstanceId = client).map fun entry => entry.request.inputSeq

-- Every client's inputs are 1,2,3,... with no number twice and none left out.
def InOrder (log : List PtyWrite) : Prop :=
  ∀ client, seqsOf log client = List.range' 1 (seqsOf log client).length

def InputGood : Prop :=
  InOrder s.log ∧ size s.inner.cursors ≤ ptydLogicalClientLimit

def CursorsKept (action : InputAction) : Prop :=
  ∀ next, inputStep s action = some next → ∀ client, cursorSeq s.inner.cursors client ≤ cursorSeq next.inner.cursors client

def Reaches : PtyOutcome → Prop
  | .written => True
  | .failed written _ _ => 0 < written

-- Repeating the check with write_lock held would change nothing, and no input is written again that
-- already reached the PTY in part.
def StillChecked : InputAction → Prop
  | .ptyWrite index outcome => ∀ request, s.waiting[index]? = some request → Reaches outcome →
      checkCursor s.inner.cursors request = none ∧
      ∀ entry ∈ s.log, entry.complete = false →
        ¬(entry.request.clientInstanceId = request.clientInstanceId ∧ entry.request.inputSeq = request.inputSeq)
  | _ => True

end

theorem seqsOf_append_same (same : entry.request.clientInstanceId = client) :
    seqsOf (log ++ [entry]) client = seqsOf log client ++ [entry.request.inputSeq] := by
  simp [seqsOf,same]

theorem seqsOf_append_other (differs : entry.request.clientInstanceId ≠ client) :
    seqsOf (log ++ [entry]) client = seqsOf log client := by
  simp [seqsOf,differs]

theorem cursorSeq_insert_same {cursors : Table String Cursor} :
    cursorSeq (cursors.insert client cursor) client = cursor.seq := by
  simp [cursorSeq]

theorem cursorSeq_insert_other {cursors : Table String Cursor} (differs : other ≠ client) :
    cursorSeq (cursors.insert client cursor) other = cursorSeq cursors other := by
  simp [cursorSeq,AList.lookup_insert_ne differs]

structure InputInvariant (s : InputState) : Prop where
  ordered : InOrder s.log
  bounded : size s.inner.cursors ≤ ptydLogicalClientLimit
  settled : ∀ client, (∀ held, s.writing = some held → held.clientInstanceId ≠ client) →
    (seqsOf s.log client).length = cursorSeq s.inner.cursors client ∨
    (seqsOf s.log client).length = cursorSeq s.inner.cursors client + 1 ∧
      ∃ entry ∈ s.log, entry.complete = false ∧ entry.request.clientInstanceId = client ∧
        entry.request.inputSeq = (seqsOf s.log client).length
  holding : ∀ held, s.writing = some held →
    (seqsOf s.log held.clientInstanceId).length = held.inputSeq ∧
    checkCursor s.inner.cursors held = none

theorem start_invariant (inner : SessionInner) (fresh : inner.cursors = ∅) : InputInvariant (.start inner) := by
  refine ⟨fun _ => rfl,?_,?_,fun _ equal => by cases equal⟩
  · simp [InputState.start,fresh,size]
  · intro client free
    simp [InputState.start,fresh,seqsOf,cursorSeq]

inductive InputEffect (s : InputState) (action : InputAction) (next : InputState) : Prop where
  | quiet : next.log = s.log → next.writing = s.writing → next.inner.cursors = s.inner.cursors → InputEffect s action next
  | reached (index : Nat) (outcome : PtyOutcome) (request : WriteRequest) (complete : Bool) :
      action = .ptyWrite index outcome → Reaches outcome → s.writing = none → s.waiting[index]? = some request →
      next.log = s.log ++ [⟨request,complete⟩] → next.writing = (if complete then some request else none) →
      next.inner = s.inner → InputEffect s action next
  | committed (request : WriteRequest) : s.writing = some request → next.log = s.log → next.writing = none →
      next.inner = s.inner.commitWrite request → InputEffect s action next

theorem checkStep_effect : InputEffect s action (checkStep s request) := by
  unfold checkStep
  split
  · exact .quiet rfl rfl rfl
  · exact .quiet rfl rfl rfl

theorem ptyWrite_effect (free : s.writing = none) (found : s.waiting[index]? = some request)
    (step : ptyWriteStep s index request outcome = some next) : InputEffect s (.ptyWrite index outcome) next := by
  cases outcome with
  | written =>
    cases step
    exact .reached index _ request true rfl True.intro free found rfl rfl rfl
  | failed written errno error =>
    obtain ⟨_,rfl⟩ := guard_parts step
    by_cases nothing : written = 0
    · exact .quiet (by simp [nothing]) rfl rfl
    · exact .reached index _ request false rfl (Nat.pos_of_ne_zero nothing) free found (by simp [nothing]) free rfl

theorem inputStep_effect (step : inputStep s action = some next) : InputEffect s action next := by
  cases action with
  | check request =>
    cases step
    exact checkStep_effect
  | ptyWrite index outcome =>
    simp only [inputStep] at step
    split at step
    · rename_i request free found
      exact ptyWrite_effect free found step
    · cases step
  | commit =>
    cases held : s.writing with
    | none => simp [inputStep,held] at step
    | some request =>
      simp only [inputStep,held,Option.map_some,Option.some.injEq] at step
      subst next
      exact .committed request held rfl rfl rfl
  | lifecycle change =>
    cases step
    exact .quiet rfl rfl (lifecycle_cursors _)
  | remove =>
    obtain ⟨_,rfl⟩ := guard_parts step
    exact .quiet rfl rfl rfl

theorem reached_next (valid : InputInvariant s) (free : s.writing = none)
    (passes : checkCursor s.inner.cursors request = none)
    (clean : ∀ entry ∈ s.log, entry.complete = false →
      ¬(entry.request.clientInstanceId = request.clientInstanceId ∧ entry.request.inputSeq = request.inputSeq)) :
    request.inputSeq = (seqsOf s.log request.clientInstanceId).length + 1 ∧
      request.inputSeq = cursorSeq s.inner.cursors request.clientInstanceId + 1 := by
  have expected := (checkCursor_none.mp passes).1
  rcases valid.settled request.clientInstanceId (by simp [free]) with level | ⟨ahead,entry,present,part,client,seq⟩
  · omega
  · exact absurd ⟨client,by omega⟩ (clean _ present part)

theorem reached_ordered (ordered : InOrder log)
    (follows : request.inputSeq = (seqsOf log request.clientInstanceId).length + 1) :
    InOrder (log ++ [⟨request,complete⟩]) := by
  intro client
  by_cases same : request.clientInstanceId = client
  · subst same
    rw [seqsOf_append_same rfl,List.length_append,List.length_singleton,List.range'_concat,← ordered,follows]
    simp [Nat.add_comm]
  · rw [seqsOf_append_other same]
    exact ordered _

theorem inputStep_preserves (s : InputState) (action : InputAction) (next : InputState) (valid : InputInvariant s)
    (allowed : StillChecked s action) (step : inputStep s action = some next) : InputInvariant next := by
  cases inputStep_effect step with
  | quiet log writing cursors =>
    exact ⟨log ▸ valid.ordered,cursors ▸ valid.bounded,by rw [log,writing,cursors]; exact valid.settled,
      by rw [log,writing,cursors]; exact valid.holding⟩
  | reached index outcome request complete taken reaches free found log writing inner =>
    subst taken
    obtain ⟨passes,clean⟩ := allowed _ found reaches
    obtain ⟨follows,_⟩ := reached_next valid free passes clean
    refine ⟨log ▸ reached_ordered valid.ordered follows,inner ▸ valid.bounded,?_,?_⟩
    · intro client others
      rw [log,inner]
      by_cases same : request.clientInstanceId = client
      · subst same
        cases complete with
        | true => exact absurd rfl (others _ writing)
        | false =>
          refine .inr ⟨by simp [seqsOf_append_same]; omega,⟨request,false⟩,by simp,rfl,rfl,?_⟩
          simp [seqsOf_append_same,follows]
      · rw [seqsOf_append_other same]
        rcases valid.settled client (by simp [free]) with equal | ⟨ahead,entry,present,rest⟩
        · exact .inl equal
        · exact .inr ⟨ahead,entry,List.mem_append_left _ present,rest⟩
    · intro held holds
      cases complete with
      | false => simp [writing] at holds
      | true =>
        simp only [writing,if_true,Option.some.injEq] at holds
        subst held
        rw [log,inner]
        exact ⟨by simp [seqsOf_append_same,follows],passes⟩
  | committed request held log writing inner =>
    obtain ⟨length,passes⟩ := valid.holding _ held
    obtain ⟨_,room⟩ := checkCursor_none.mp passes
    refine ⟨log ▸ valid.ordered,?_,?_,fun _ holds => by simp [writing] at holds⟩
    · rw [inner]
      simp only [commitWrite]
      cases found : s.inner.cursors.lookup request.clientInstanceId with
      | none => rw [size_insert_absent found]; exact room found
      | some cursor => rw [size_insert_present found]; exact valid.bounded
    · intro client _
      rw [log,inner]
      by_cases same : client = request.clientInstanceId
      · subst same
        exact .inl (by simp only [commitWrite,cursorSeq_insert_same]; exact length)
      · simp only [commitWrite,cursorSeq_insert_other same]
        exact valid.settled _ (by simp [held,Ne.symm same])

theorem cursors_kept (valid : InputInvariant s) : CursorsKept s action := by
  intro next step client
  cases inputStep_effect step with
  | quiet log writing cursors => rw [cursors]
  | reached index outcome request complete taken reaches free found log writing inner => rw [inner]
  | committed request held log writing inner =>
    have follows := (checkCursor_none.mp (valid.holding _ held).2).1
    rw [inner]
    by_cases same : client = request.clientInstanceId
    · subst same
      simp only [commitWrite,cursorSeq_insert_same]
      omega
    · simp only [commitWrite,cursorSeq_insert_other same]
      exact Nat.le_refl _

theorem input_once_in_order (file : SessionFile) (pair : PtyPair) (now : Nat) (actions : List InputAction)
    (along : inputMachine.Along StillChecked (.start (.opened file pair now)) actions) :
    inputMachine.Throughout InputGood (.start (.opened file pair now)) actions ∧
      inputMachine.Along CursorsKept (.start (.opened file pair now)) actions := by
  have start := start_invariant (.opened file pair now) rfl
  exact ⟨throughout_of_along (fun _ valid => ⟨valid.ordered,valid.bounded⟩) inputStep_preserves start along,
    along_of_along inputStep_preserves (fun _ _ valid _ => cursors_kept valid) start along⟩

def sampleSession : SessionInner :=
  .opened (.new 24 80 "") ⟨5,6,"/dev/pts/1",by decide⟩ 0

def keyOne : WriteRequest := ⟨"client",1,[97]⟩

theorem input_once_in_order_single_write : inputMachine.Throughout InputGood (.start sampleSession)
        [.lifecycle (.spawned 7 0),.check keyOne,.ptyWrite 0 .written,.commit] ∧
      inputMachine.Along CursorsKept (.start sampleSession)
        [.lifecycle (.spawned 7 0),.check keyOne,.ptyWrite 0 .written,.commit] := by
  refine input_once_in_order _ _ _ _ ?_
  refine along_cons rfl True.intro (along_cons rfl True.intro (along_cons rfl ?_ (along_cons rfl True.intro True.intro)))
  intro request found _
  cases found
  exact ⟨rfl,fun _ present => by cases present⟩

-- Both copies pass the check before either cursor is stored.
theorem input_written_twice : ∃ s, inputMachine.run (.start sampleSession)
        [.lifecycle (.spawned 7 0),.check keyOne,.check keyOne,.ptyWrite 0 .written,.commit,.ptyWrite 0 .written] = some s ∧
      seqsOf s.log "client" = [1,1] ∧ ¬InputGood s := by
  refine ⟨_,rfl,rfl,?_⟩
  intro good
  have ordered := good.1 "client"
  exact absurd ordered (by decide)

end Coflux.Ptyd
