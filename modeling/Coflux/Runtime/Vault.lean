import Coflux.Runtime.Secret

namespace Coflux.Runtime
open StepMachine FiniteMap Text
open List (map_append mem_append_left mem_map mem_map_of_mem mem_reverse nodup_cons)

def maxValueBytes : Nat := 64 * 1024
def pendingPerSession : Nat := 4
def pendingTotal : Nat := 64
def valuesPerSession : Nat := 64
def settledMemory : Nat := 256

inductive CancelReason where
  | closed | timeout | sessionEnded
  deriving DecidableEq

inductive AskOutcome where
  | provided
  | declined
  | cancelled (reason : CancelReason)
  deriving DecidableEq

inductive Settled where
  | answered | expired

inductive SecretAnswerKind where
  | unspecified | provide | decline | cancel

inductive SecretAnswerStatus where
  | accepted | alreadyAnswered | expired | unknownRequest | invalid
  deriving DecidableEq

structure PendingAsk where
  (sessionId name : String)

-- Request ids are random and distinct. sweeping are the sessions retain_sessions has found stale.
-- The last fields are history: asks, what the waiters were sent, and the values accepted.
structure VaultState where
  sessions : Table String Held := ∅
  pending : Table Nat PendingAsk := ∅
  settled : List (Nat × Settled) := []
  sweeping : List String := []
  asked : List (Nat × PendingAsk) := []
  outcomes : List (Nat × AskOutcome) := []
  provided : List (Nat × PendingAsk × Bytes) := []

def remember (settled : List (Nat × Settled)) (requestId : Nat) (how : Settled) : List (Nat × Settled) :=
  (if settledMemory ≤ settled.length then settled.drop 1 else settled) ++ [(requestId,how)]

section
variable (v : VaultState)

section
variable (requestId : Nat)

def VaultState.settledAs : Option Settled :=
  (v.settled.reverse.find? fun entry => entry.1 == requestId).map Prod.snd

def AskOutcome.settled : AskOutcome → Settled
  | .cancelled .timeout | .cancelled .sessionEnded => .expired
  | _ => .answered

-- The waiter is sent its outcome and the id is remembered.
def settle (outcome : AskOutcome) : VaultState :=
  {v with
    pending := v.pending.erase requestId
    settled := remember v.settled requestId outcome.settled
    outcomes := v.outcomes ++ [(requestId,outcome)]}

def inSession (pending : Table Nat PendingAsk) (sessionId : String) : List (Nat × PendingAsk) :=
  (entries pending).filter fun entry => entry.2.sessionId == sessionId

def beginAsk (sessionId name : String) (drawn : Nat) : Except String VaultState :=
  if pendingTotal ≤ size v.pending then
    .error "too many secret requests are waiting on this device; answer or cancel some first"
  else if (inSession v.pending sessionId).any fun entry => entry.2.name == name then
    .error s!"a request for {name} is already waiting in this terminal; wait for it or stop that command first"
  else if pendingPerSession ≤ (inSession v.pending sessionId).length then
    .error "too many secret requests are waiting in this terminal"
  else
    .ok {v with
      pending := v.pending.insert drawn ⟨sessionId,name⟩
      asked := v.asked ++ [(drawn,⟨sessionId,name⟩)]}

def withdraw : VaultState × Bool :=
  match v.pending.lookup requestId with
  | none => (v,false)
  | some _ => (settle v requestId (.cancelled .timeout),true)

-- What std::str::from_utf8 accepts is what a lossy reading leaves as it is.
def validUtf8 (value : Bytes) : Bool := (decodeLossy value).flatMap String.utf8EncodeChar == value

def validAnswer (kind : SecretAnswerKind) (value : Bytes) : Bool :=
  match kind with
  | .provide => value ≠ [] && value.length ≤ maxValueBytes && !value.contains 0 && validUtf8 value
  | .decline | .cancel => value = []
  | .unspecified => false

def VaultState.held (sessionId : String) : Held := (v.sessions.lookup sessionId).getD ⟨∅,[]⟩

def Held.hold (held : Held) (name : String) (value : Bytes) : Held :=
  ⟨held.values.insert name value,held.retired ++ (held.values.lookup name).toList⟩

def Settled.status : Settled → SecretAnswerStatus
  | .answered => .alreadyAnswered
  | .expired => .expired

-- A session that is full has an entry, so refusing the value leaves nothing behind.
def answer (kind : SecretAnswerKind) (value : Bytes) :
    VaultState × SecretAnswerStatus :=
  match v.pending.lookup requestId with
  | none => (v,((v.settledAs requestId).map Settled.status).getD .unknownRequest)
  | some ask =>
    if validAnswer kind value then
      match kind with
      | .provide =>
        let held := v.held ask.sessionId
        if ask.name ∉ held.values ∧ valuesPerSession ≤ size held.values then (v,.invalid)
        else
          (settle {v with
            sessions := v.sessions.insert ask.sessionId (held.hold ask.name value)
            provided := v.provided ++ [(requestId,ask,value)]} requestId .provided,.accepted)
      | .decline => (settle v requestId .declined,.accepted)
      | _ => (settle v requestId (.cancelled .closed),.accepted)
    else (v,.invalid)

end

def sessionEnded (sessionId : String) (ended : List Nat) : VaultState :=
  ended.foldl (settle · · (.cancelled .sessionEnded)) {v with
      sessions := v.sessions.erase sessionId
      provided := v.provided.filter fun entry => entry.2.1.sessionId ≠ sessionId}

def stale (live : List String) : List String :=
  (v.sessions.keys ++ (entries v.pending).map fun entry => entry.2.sessionId).filter fun session => !live.contains session

def cloneValue (sessionId name : String) : Option Bytes :=
  (v.sessions.lookup sessionId).bind fun held => held.values.lookup name

-- The values as they are put into the JSON reply, or the names that are missing.
def releaseReply (sessionId : String) (names : List String) :
    Except (List String) (List (String × Bytes)) :=
  let missing := names.filter fun name => (cloneValue v sessionId name).isNone
  if missing = [] then .ok (names.map fun name => (name,(cloneValue v sessionId name).getD [])) else .error missing

-- The pending requests of a session that ends are gone through in any order.
inductive VaultAction where
  | beginAsk (sessionId name : String) (drawn : Nat)
  | withdraw (requestId : Nat)
  | answer (requestId : Nat) (kind : SecretAnswerKind) (value : Bytes)
  | sessionEnded (sessionId : String) (ended : List Nat)
  | retainSessions (live : List String)
  | sweep (ended : List Nat)

def endIn (sessionId : String) (ended : List Nat) : Option VaultState :=
  if ended.Perm ((inSession v.pending sessionId).map Prod.fst) then some (sessionEnded v sessionId ended) else none

def vaultStep : VaultAction → Option VaultState
  | .beginAsk sessionId name drawn =>
    if v.asked.all fun ask => ask.1 != drawn then
      match beginAsk v sessionId name drawn with
      | .ok next => some next
      | .error _ => some v
    else none
  | .withdraw requestId => some (withdraw v requestId).1
  | .answer requestId kind value => some (answer v requestId kind value).1
  | .sessionEnded sessionId ended => endIn v sessionId ended
  | .retainSessions live => some {v with sweeping := v.sweeping ++ stale v live}
  | .sweep ended =>
    match v.sweeping with
    | [] => none
    | sessionId :: rest => endIn {v with sweeping := rest} sessionId ended

def vault : Machine VaultState VaultAction := ⟨vaultStep⟩

def Given (sessionId name : String) (value : Bytes) : Prop :=
  ∃ requestId, (requestId,⟨sessionId,name⟩,value) ∈ v.provided ∧ (requestId,⟨sessionId,name⟩) ∈ v.asked ∧
    (requestId,.provided) ∈ v.outcomes

end

-- A later answer changes nothing, and is told what became of the request unless 256 others have
-- been settled since.
structure SettledOnce (v : VaultState) : Prop where
  once : (v.outcomes.map Prod.fst).Nodup
  classified : ∀ before requestId outcome after kind value, v.outcomes = before ++ (requestId,outcome) :: after →
    answer v requestId kind value = (v,if after.length < settledMemory then outcome.settled.status else .unknownRequest)
  unknown : ∀ requestId kind value, (∀ ask, (requestId,ask) ∉ v.asked) →
    answer v requestId kind value = (v,.unknownRequest)
  cloned : ∀ sessionId name value, cloneValue v sessionId name = some value → Given v sessionId name value
  released : ∀ sessionId names values, releaseReply v sessionId names = .ok values →
    ∀ entry ∈ values, Given v sessionId entry.1 entry.2
  ended : ∀ sessionId ended next, vaultStep v (.sessionEnded sessionId ended) = some next →
    next.sessions.lookup sessionId = none ∧ inSession next.pending sessionId = []
  total : size v.pending ≤ pendingTotal
  perSession : ∀ sessionId, (inSession v.pending sessionId).length ≤ pendingPerSession
  values : ∀ sessionId held, v.sessions.lookup sessionId = some held → size held.values ≤ valuesPerSession

structure Vaulted (v : VaultState) : Prop where
  once : (v.outcomes.map Prod.fst).Nodup
  memory : v.settled = (v.outcomes.map fun entry => (entry.1,entry.2.settled)).drop (v.outcomes.length - settledMemory)
  waiting : ∀ requestId ask, v.pending.lookup requestId = some ask →
    (requestId,ask) ∈ v.asked ∧ requestId ∉ v.outcomes.map Prod.fst
  known : ∀ entry ∈ v.outcomes, entry.1 ∈ v.asked.map Prod.fst
  own : ∀ sessionId held name value, v.sessions.lookup sessionId = some held → held.values.lookup name = some value →
    Given v sessionId name value
  total : size v.pending ≤ pendingTotal
  perSession : ∀ sessionId, (inSession v.pending sessionId).length ≤ pendingPerSession
  values : ∀ sessionId held, v.sessions.lookup sessionId = some held → size held.values ≤ valuesPerSession

theorem remember_last (outcomes : List (Nat × Settled)) (requestId : Nat) (how : Settled) :
    remember (outcomes.drop (outcomes.length - settledMemory)) requestId how =
      (outcomes ++ [(requestId,how)]).drop (outcomes.length + 1 - settledMemory) := by
  unfold remember settledMemory
  by_cases full : 256 ≤ outcomes.length
  · rw [if_pos (by simp; omega),List.drop_drop,List.drop_append_of_le_length (by omega)]
    exact congrArg (fun count => outcomes.drop count ++ _) (by omega)
  · rw [if_neg (by simp; omega),Nat.sub_eq_zero_of_le (by omega),Nat.sub_eq_zero_of_le (by omega)]
    rfl

theorem erase_entries (pending : Table Nat PendingAsk) (requestId : Nat) :
    (entries (pending.erase requestId)).Sublist (entries pending) :=
  (List.kerase_sublist _ _).map _

theorem settle_keeps (inv : Vaulted v) (found : v.pending.lookup requestId = some ask) : Vaulted (settle v requestId outcome) := by
  have fresh := inv.waiting requestId ask found
  have fewer := erase_entries v.pending requestId
  constructor
  · rw [settle,map_append]
    exact List.nodup_append_comm.mp (nodup_cons.mpr ⟨fresh.2,inv.once⟩)
  · have last := remember_last (v.outcomes.map fun entry => (entry.1,entry.2.settled)) requestId outcome.settled
    rw [List.length_map,← inv.memory] at last
    simpa [settle] using last
  · intro other waits kept
    have apart := (mem_erase_parts (mem_of_lookup kept)).1
    obtain ⟨asked,unsettled⟩ := inv.waiting other waits (erase_lookup kept)
    exact ⟨asked,by simpa [settle,apart] using unsettled⟩
  · intro entry mem
    rcases List.mem_append.mp mem with old | new
    · exact inv.known entry old
    · cases List.mem_singleton.mp new
      exact mem_map_of_mem fresh.1
  · intro sessionId held name value stored present
    obtain ⟨id,gave,asked,told⟩ := inv.own sessionId held name value stored present
    exact ⟨id,gave,asked,mem_append_left _ told⟩
  · have smaller := fewer.length_le
    simp only [entries,List.length_map] at smaller
    exact Nat.le_trans smaller inv.total
  · intro sessionId
    exact Nat.le_trans (fewer.filter _).length_le (inv.perSession sessionId)
  · exact inv.values

theorem hold_keeps (inv : Vaulted v) (asked : (requestId,ask) ∈ v.asked) (told : (requestId,.provided) ∈ v.outcomes)
    (room : ¬(ask.name ∉ (v.held ask.sessionId).values ∧ valuesPerSession ≤ size (v.held ask.sessionId).values)) :
    Vaulted {v with
      sessions := v.sessions.insert ask.sessionId ((v.held ask.sessionId).hold ask.name value)
      provided := v.provided ++ [(requestId,ask,value)]} := by
  refine {inv with own := ?_,values := ?_}
  · intro sessionId held name stored found present
    have before : ∀ {sessionId}, (v.held sessionId).values.lookup name = some stored → Given v sessionId name stored := by
      intro sessionId kept
      cases old : v.sessions.lookup sessionId with
      | none => simp [VaultState.held,old] at kept
      | some held => exact inv.own _ _ _ _ old (by simpa [VaultState.held,old] using kept)
    have later : Given v sessionId name stored → Given {v with provided := v.provided ++ [(requestId,ask,value)]} sessionId name stored :=
      fun ⟨id,gave,rest⟩ => ⟨id,mem_append_left _ gave,rest⟩
    rcases insert_lookup found with ⟨rfl,rfl⟩ | ⟨_,old⟩
    · rcases insert_lookup present with ⟨rfl,rfl⟩ | ⟨_,kept⟩
      · exact ⟨requestId,by simp,asked,told⟩
      · exact later (before kept)
    · exact later (inv.own _ _ _ _ old present)
  · intro sessionId held found
    rcases insert_lookup found with ⟨rfl,rfl⟩ | ⟨_,old⟩
    · cases present : (v.held ask.sessionId).values.lookup ask.name with
      | none =>
        have absent : ask.name ∉ (v.held ask.sessionId).values := AList.lookup_eq_none.mp present
        simp only [absent,not_false_eq_true,true_and,Nat.not_le] at room
        simp only [Held.hold,size_insert_absent present]
        exact room
      | some previous =>
        simp only [Held.hold,size_insert_present present]
        cases old : v.sessions.lookup ask.sessionId with
        | none => simp [VaultState.held,old] at present
        | some held => simpa [VaultState.held,old] using inv.values _ held old
    · exact inv.values _ _ old

theorem forget_keeps (inv : Vaulted v) : Vaulted {v with
      sessions := v.sessions.erase sessionId
      provided := v.provided.filter fun entry => entry.2.1.sessionId ≠ sessionId} := by
  refine {inv with own := ?_,values := Each.erase inv.values}
  intro other held name value found present
  obtain ⟨id,gave,asked,told⟩ := inv.own other held name value (erase_lookup found) present
  have apart := (mem_erase_parts (mem_of_lookup found)).1
  exact ⟨id,List.mem_filter.mpr ⟨gave,by simpa using apart⟩,asked,told⟩

-- Requests that are settled one after the other, each still waiting when its turn comes.
theorem settle_all {ended : List Nat} (distinct : ended.Nodup) (waiting : ∀ requestId ∈ ended, requestId ∈ v.pending) (inv : Vaulted v) :
    Vaulted (ended.foldl (settle · · outcome) v) := by
  induction ended generalizing v with
  | nil => exact inv
  | cons requestId rest ih =>
    obtain ⟨_,found⟩ := Option.isSome_iff_exists.mp (AList.lookup_isSome.mpr (waiting requestId (by simp)))
    obtain ⟨apart,distinct⟩ := nodup_cons.mp distinct
    refine ih distinct ?_ (settle_keeps inv found)
    intro other mem
    refine AList.mem_erase.mpr ⟨?_,waiting other (List.mem_cons_of_mem _ mem)⟩
    rintro rfl
    exact apart mem

theorem settled_parts (v : VaultState) {ended : List Nat} :
    (ended.foldl (settle · · outcome) v).sessions = v.sessions ∧
      ∀ requestId ask, (ended.foldl (settle · · outcome) v).pending.lookup requestId = some ask →
        v.pending.lookup requestId = some ask ∧ requestId ∉ ended := by
  induction ended generalizing v with
  | nil => exact ⟨rfl,fun _ _ kept => ⟨kept,by simp⟩⟩
  | cons first rest ih =>
    obtain ⟨same,fewer⟩ := ih (settle v first outcome)
    refine ⟨same,fun requestId ask kept => ?_⟩
    obtain ⟨before,apart⟩ := fewer requestId ask kept
    refine ⟨erase_lookup before,?_⟩
    rintro (_ | ⟨_,later⟩)
    · simp [settle] at before
    · exact apart later

theorem mem_inSession : requestId ∈ (inSession pending sessionId).map Prod.fst ↔
    ∃ ask, pending.lookup requestId = some ask ∧ ask.sessionId = sessionId := by
  simp [inSession,mem_entries]

theorem ended_keeps (inv : Vaulted v) (step : endIn v sessionId ended = some next) : Vaulted next := by
  unfold endIn at step
  obtain ⟨all,rfl⟩ := guard_parts step
  refine settle_all ?_ ?_ (forget_keeps inv)
  · exact all.nodup_iff.mpr ((entries_keys_nodup _).sublist (List.filter_sublist.map _))
  · intro requestId mem
    obtain ⟨_,found,_⟩ := mem_inSession.mp (all.mem_iff.mp mem)
    exact mem_of_lookup found

theorem begun_keeps (inv : Vaulted v) (drawn : ∀ ask ∈ v.asked, ask.1 ≠ requestId)
    (begun : beginAsk v sessionId name requestId = .ok next) : Vaulted next := by
  unfold beginAsk at begun
  split at begun
  · cases begun
  split at begun
  · cases begun
  split at begun
  · cases begun
  rename_i free _ few
  cases begun
  have unseen : v.pending.lookup requestId = none := by
    cases found : v.pending.lookup requestId with
    | none => rfl
    | some ask => exact absurd rfl (drawn _ (inv.waiting _ _ found).1)
  have grown : entries (v.pending.insert requestId ⟨sessionId,name⟩) = (requestId,⟨sessionId,name⟩) :: entries v.pending := by
    rw [entries,AList.entries_insert_of_notMem (AList.lookup_eq_none.mp unseen)]
    rfl
  refine {inv with waiting := ?_,known := ?_,own := ?_,total := ?_,perSession := ?_}
  · intro other ask found
    rcases insert_lookup found with ⟨rfl,rfl⟩ | ⟨_,old⟩
    · refine ⟨by simp,fun settled => ?_⟩
      obtain ⟨entry,mem,rfl⟩ := mem_map.mp settled
      obtain ⟨ask,asked,same⟩ := mem_map.mp (inv.known entry mem)
      exact drawn ask asked same
    · exact ⟨mem_append_left _ (inv.waiting other ask old).1,(inv.waiting other ask old).2⟩
  · intro entry mem
    simpa using Or.inl (by simpa using inv.known entry mem)
  · intro sessionId held name value stored present
    obtain ⟨id,gave,asked,told⟩ := inv.own sessionId held name value stored present
    exact ⟨id,gave,mem_append_left _ asked,told⟩
  · rw [size_insert_absent unseen]
    exact Nat.lt_of_not_le free
  · intro other
    rw [inSession,grown,List.filter_cons]
    split
    · rename_i same
      rw [← eq_of_beq same]
      exact Nat.lt_of_not_le few
    · exact inv.perSession other

theorem vaultStep_keeps (v : VaultState) (action : VaultAction) {next : VaultState} (inv : Vaulted v)
    (step : vault.step v action = some next) : Vaulted next := by
  cases action with
  | beginAsk sessionId name drawn =>
    simp only [vault,vaultStep] at step
    split at step
    · rename_i fresh
      split at step
      · rename_i begun
        cases step
        exact begun_keeps inv (by simpa using fresh) begun
      · cases step
        exact inv
    · cases step
  | withdraw requestId =>
    cases step
    unfold withdraw
    split
    · exact inv
    · rename_i found
      exact settle_keeps inv found
  | answer requestId kind value =>
    cases step
    unfold answer
    split
    · exact inv
    rename_i found
    have settled : ∀ outcome, Vaulted (settle v requestId outcome) := fun _ => settle_keeps inv found
    split
    · cases kind with
      | provide =>
        dsimp only
        split
        · exact inv
        · rename_i room
          exact hold_keeps (settled .provided) (inv.waiting _ _ found).1 (by simp [settle]) room
      | decline | cancel | unspecified => exact settled _
    · exact inv
  | sessionEnded sessionId ended => exact ended_keeps inv step
  | retainSessions live =>
    cases step
    exact {inv with}
  | sweep ended =>
    simp only [vault,vaultStep] at step
    split at step
    · cases step
    · rename_i rest _
      have swept : Vaulted {v with sweeping := rest} := {inv with}
      exact ended_keeps swept step

theorem vaulted_initial : Vaulted {} := by
  constructor <;> simp [inSession,size,entries]

theorem find_nodup {settled : List (Nat × Settled)} (distinct : (settled.map Prod.fst).Nodup)
    (mem : (requestId,how) ∈ settled) : (settled.find? fun entry => entry.1 == requestId) = some (requestId,how) := by
  cases found : settled.find? fun entry => entry.1 == requestId with
  | none => simpa using List.find?_eq_none.mp found _ mem
  | some entry =>
    have same : entry.1 = requestId := by simpa using List.find?_some found
    exact congrArg some (List.inj_on_of_nodup_map distinct (List.mem_of_find?_eq_some found) mem same)

theorem settled_ids (inv : Vaulted v) :
    v.settled.map Prod.fst = (v.outcomes.map Prod.fst).drop (v.outcomes.length - settledMemory) := by
  simp [inv.memory,Function.comp_def]

theorem late_classified (inv : Vaulted v) (split : v.outcomes = before ++ (requestId,outcome) :: after) :
    (v.settledAs requestId).map Settled.status =
      if after.length < settledMemory then some outcome.settled.status else none := by
  have distinct := inv.once
  have ids := settled_ids inv
  split
  · have kept : v.outcomes.length - settledMemory ≤ before.length := by simp [split]; omega
    have mem : (requestId,outcome.settled) ∈ v.settled := by
      rw [inv.memory,split,map_append,List.drop_append_of_le_length (by simpa [split] using kept)]
      simp
    have apart : (v.settled.reverse.map Prod.fst).Nodup := by
      rw [List.map_reverse,List.nodup_reverse,ids]
      exact distinct.sublist (List.drop_sublist _ _)
    rw [VaultState.settledAs,find_nodup apart (mem_reverse.mpr mem)]
    rfl
  · obtain ⟨more,count⟩ : ∃ more, v.outcomes.length - settledMemory = (before.map Prod.fst).length + (more + 1) :=
      ⟨after.length - settledMemory,by simp [split]; omega⟩
    rw [count,split,map_append,List.drop_length_add_append] at ids
    rw [split,map_append,List.map_cons] at distinct
    have apart := (nodup_cons.mp (List.nodup_append.mp distinct).2.1).1
    have forgotten : v.settledAs requestId = none := by
      simp only [VaultState.settledAs,Option.map_eq_none_iff,List.find?_eq_none,mem_reverse,beq_iff_eq]
      rintro entry mem rfl
      have listed : entry.1 ∈ v.settled.map Prod.fst := mem_map_of_mem mem
      rw [ids] at listed
      exact apart (List.mem_of_mem_drop listed)
    rw [forgotten]
    rfl

theorem ended_gone (step : endIn v sessionId ended = some next) :
    next.sessions.lookup sessionId = none ∧ inSession next.pending sessionId = [] := by
  unfold endIn at step
  obtain ⟨all,rfl⟩ := guard_parts step
  constructor
  · rw [sessionEnded,(settled_parts _).1]
    exact AList.lookup_erase _ _
  · have none : (inSession (sessionEnded v sessionId ended).pending sessionId).map Prod.fst = [] := by
      apply List.eq_nil_iff_forall_not_mem.mpr
      intro requestId mem
      obtain ⟨ask,found,own⟩ := mem_inSession.mp mem
      obtain ⟨before,apart⟩ := (settled_parts _).2 requestId ask found
      exact apart (all.mem_iff.mpr (mem_inSession.mpr ⟨ask,before,own⟩))
    exact List.map_eq_nil_iff.mp none

theorem secret_requests_settle_once (ran : vault.run {} actions = some v) : SettledOnce v := by
  have inv : Vaulted v := run_preserves vaultStep_keeps vaulted_initial ran
  have cloned : ∀ sessionId name value, cloneValue v sessionId name = some value → Given v sessionId name value := by
    intro sessionId name value found
    obtain ⟨held,stored,present⟩ := Option.bind_eq_some_iff.mp found
    exact inv.own sessionId held name value stored present
  have settled : ∀ requestId kind value, requestId ∉ v.pending →
      answer v requestId kind value = (v,((v.settledAs requestId).map Settled.status).getD .unknownRequest) := by
    intro requestId kind value gone
    simp only [answer,AList.lookup_eq_none.mpr gone]
  have waits : ∀ requestId, requestId ∈ v.pending →
      requestId ∈ v.asked.map Prod.fst ∧ requestId ∉ v.outcomes.map Prod.fst := by
    intro requestId mem
    obtain ⟨ask,found⟩ := Option.isSome_iff_exists.mp (AList.lookup_isSome.mpr mem)
    obtain ⟨asked,unsettled⟩ := inv.waiting requestId ask found
    exact ⟨mem_map_of_mem asked,unsettled⟩
  refine ⟨inv.once,?_,?_,cloned,?_,?_,inv.total,inv.perSession,inv.values⟩
  · intro before requestId outcome after kind value split
    have gone : requestId ∉ v.pending := fun mem => (waits requestId mem).2 (by simp [split])
    rw [settled requestId kind value gone,late_classified inv split]
    split <;> rfl
  · intro requestId kind value unasked
    have missing : requestId ∉ v.asked.map Prod.fst := by simpa using unasked
    have unknown : v.settledAs requestId = none := by
      simp only [VaultState.settledAs,Option.map_eq_none_iff,List.find?_eq_none,mem_reverse,beq_iff_eq]
      rintro entry mem rfl
      have listed : entry.1 ∈ v.settled.map Prod.fst := mem_map_of_mem mem
      rw [settled_ids inv] at listed
      obtain ⟨settled,old,same⟩ := mem_map.mp (List.mem_of_mem_drop listed)
      exact missing (same ▸ inv.known settled old)
    rw [settled requestId kind value fun mem => missing (waits requestId mem).1,unknown]
    rfl
  · intro sessionId names values released entry mem
    simp only [releaseReply] at released
    split at released
    · rename_i complete
      cases released
      obtain ⟨name,listed,rfl⟩ := mem_map.mp mem
      cases found : cloneValue v sessionId name with
      | none => exact absurd found (by simpa using List.filter_eq_nil_iff.mp complete name listed)
      | some value => exact cloned sessionId name value found
    · cases released
  · exact fun _ _ _ step => ended_gone step

def firstAsks : List VaultAction :=
  [.beginAsk "s" "A" 0,.beginAsk "s" "B" 1,.answer 0 .provide (ascii "x"),.answer 0 .provide (ascii "y"),
    .sessionEnded "s" [1],.beginAsk "t" "A" 2]

theorem secret_requests_settle_once_two_sessions :
    ((vault.run {} firstAsks).map fun v => (v.outcomes,(answer v 0 .decline []).2)) =
        some ([(0,.provided),(1,.cancelled .sessionEnded)],.alreadyAnswered) ∧
      ∀ v, vault.run {} firstAsks = some v → SettledOnce v :=
  ⟨by decide +kernel,fun _ ran => secret_requests_settle_once ran⟩

-- A request is declined, 256 others are withdrawn: the id of the first is no longer known.
def manyAsks : List VaultAction :=
  [.beginAsk "s" "A" 0,.answer 0 .decline []] ++
    (List.range 256).flatMap fun other => [.beginAsk "s" "A" (other + 1),.withdraw (other + 1)]

theorem settled_request_forgotten :
    ((vault.run {} manyAsks).map fun v => (v.outcomes.head?,(answer v 0 .decline []).2)) =
      some (some (0,.declined),.unknownRequest) := by
  decide +kernel

end Coflux.Runtime
