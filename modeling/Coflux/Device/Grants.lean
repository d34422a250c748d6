import Coflux.Foundation.Eviction
import Coflux.Foundation.Framing
import Coflux.Foundation.Machine
import Coflux.Sessiond.Scanner

namespace Coflux.Device
open Eviction FiniteMap Framing Sessiond StepMachine Text

def maxGrants : Nat := 256
def maxTtlMs : Nat := 30000
def clockSkewToleranceMs : Nat := 5000
def deviceProtocolVersion : Nat := 1

structure DeviceTailcatGrant where
  (channelId accountId daemonId clientInstanceId : String)
  transportGeneration : Nat
  scopes : List Int
  expiresAt : Nat
  proofKey : Bytes
  protocolVersion : Nat

def DeviceTailcatGrant.identity (grant : DeviceTailcatGrant) : String × Bool :=
  (grant.clientInstanceId,grant.scopes.any fun scope => 3 ≤ scope)

structure Grants where
  (account device : String)
  pending : Table String DeviceTailcatGrant
  generations : Table (String × Bool) Nat
  used : List String

def transcript (channel : String) (nonce : Bytes) : Bytes :=
  ascii "coflux-tailcat-channel-v1" ++ 0 :: u32be channel.utf8ByteSize ++ utf8 channel ++ nonce

namespace Grants

def validId (id : String) : Bool := !id.isEmpty && id.utf8ByteSize ≤ 255 && !id.toList.any isControl

section
variable (s : Grants)

section
variable (grant : DeviceTailcatGrant)

def valid (now : Nat) : Bool :=
  grant.protocolVersion = deviceProtocolVersion && grant.accountId = s.account && grant.daemonId = s.device &&
  validId grant.channelId && !"__coflux-".toList.isPrefixOf grant.channelId.toList &&
  validId grant.clientInstanceId && grant.transportGeneration ≠ 0 && grant.proofKey.length = 32 &&
  now < grant.expiresAt && grant.expiresAt - now ≤ maxTtlMs + clockSkewToleranceMs &&
  !grant.scopes.isEmpty && grant.scopes.length ≤ 4 && (grant.scopes.all fun scope => 1 ≤ scope && scope ≤ 4) &&
  !((grant.scopes.any fun scope => scope ≤ 2) && grant.scopes.any fun scope => 3 ≤ scope)

def prune (now : Nat) : Grants := {s with pending := keep (fun _ value => now < value.expiresAt) s.pending}

def enter : Grants := {s with
  generations := s.generations.insert grant.identity grant.transportGeneration
  used := grant.channelId :: s.used
  pending := s.pending.insert grant.channelId grant}

def install (now : Nat) : Grants × Except String Unit :=
  let s := s.prune now
  if !s.valid grant now then (s,.error "invalid channel grant")
  else if size s.pending ≥ maxGrants ∨ grant.channelId ∈ s.used ∨ s.used.length ≥ 4096 then
    (s,.error "channel grant limit or duplicate")
  else if grant.transportGeneration < (s.generations.lookup grant.identity).getD 0 then
    (s,.error "stale transport generation")
  else if s.generations.lookup grant.identity = none ∧ size s.generations ≥ maxGrants then
    (s,.error "client identity limit")
  else (s.enter grant,.ok ())

end

def needsRotation : Bool := s.used.length ≥ 4096 || size s.generations ≥ maxGrants

def revoke (channel : String) : Grants := {s with pending := s.pending.erase channel}

end

-- HMAC-SHA-256 of the transcript under the proof key is a parameter.
def consume (verify : Bytes → Bytes → Bytes → Bool) (s : Grants) (channel : String) (nonce proof : Bytes)
    (now : Nat) : Grants × Except String DeviceTailcatGrant :=
  (s.revoke channel, match s.pending.lookup channel with
    | none => .error "unknown or consumed channel grant"
    | some grant =>
      if grant.expiresAt ≤ now ∨ s.generations.lookup grant.identity ≠ some grant.transportGeneration then
        .error "expired or stale channel grant"
      else if verify grant.proofKey (transcript channel nonce) proof then .ok grant
      else .error "channel proof rejected")

end Grants

-- The history beside the tables: the grants installed, the channels whose grant a consume or a
-- revocation has ended since, and the channels a consume has succeeded for.
structure GrantHistory where
  grants : Grants
  installed : List DeviceTailcatGrant
  (spent accepted : List String)

inductive GrantAction where
  | install (grant : DeviceTailcatGrant) (now : Nat)
  | consume (channel : String) (nonce proof : Bytes) (now : Nat)
  | revoke (channel : String)

namespace GrantHistory

def start (account device : String) : GrantHistory := ⟨⟨account,device,∅,∅,[]⟩,[],[],[]⟩

def «end» (s : GrantHistory) (channel : String) : GrantHistory := {s with
  grants := s.grants.revoke channel
  spent := if channel ∈ s.installed.map (·.channelId) then channel :: s.spent else s.spent}

def step (verify : Bytes → Bytes → Bytes → Bool) (s : GrantHistory) : GrantAction → GrantHistory
  | .install grant now => {s with
    grants := (s.grants.install grant now).1
    installed := match (s.grants.install grant now).2 with
      | .ok () => grant :: s.installed
      | .error _ => s.installed}
  | .consume channel nonce proof now => {s.end channel with
    grants := (s.grants.consume verify channel nonce proof now).1
    accepted := match (s.grants.consume verify channel nonce proof now).2 with
      | .ok _ => channel :: s.accepted
      | .error _ => s.accepted}
  | .revoke channel => s.end channel

end GrantHistory

def grantMachine (verify : Bytes → Bytes → Bytes → Bool) : Machine GrantHistory GrantAction :=
  ⟨fun s action => some (s.step verify action)⟩

variable {verify : Bytes → Bytes → Bytes → Bool} {s : GrantHistory} {grant : DeviceTailcatGrant}

-- A grant of a channel id not installed before, not older than any other of its identity.
def GrantHistory.Fresh (s : GrantHistory) (grant : DeviceTailcatGrant) : Prop :=
  ∀ other ∈ s.installed, other.channelId ≠ grant.channelId ∧
    (other.identity = grant.identity → other.transportGeneration ≤ grant.transportGeneration)

def Grants.Bounded (s : Grants) : Prop :=
  size s.pending ≤ maxGrants ∧ size s.generations ≤ maxGrants ∧ s.used.length ≤ 4096

-- The device renews its serving epoch, or the grants it still waits for are as many as it may hold.
def Grants.Exhausted (s : Grants) (now : Nat) : Prop :=
  s.needsRotation = true ∨ size s.pending = maxGrants ∧ Each (fun _ held => now < held.expiresAt) s.pending

structure GrantsSound (verify : Bytes → Bytes → Bytes → Bool) (s : GrantHistory) : Prop where
  once : s.accepted.Nodup
  bounded : s.grants.Bounded
  accepts : ∀ channel nonce proof now grant, (s.grants.consume verify channel nonce proof now).2 = .ok grant →
    grant ∈ s.installed ∧ grant.channelId = channel ∧ channel ∉ s.spent ∧ now < grant.expiresAt ∧
    verify grant.proofKey (transcript channel nonce) proof = true ∧
    ∀ other ∈ s.installed, other.identity = grant.identity → other.transportGeneration ≤ grant.transportGeneration
  refuses : ∀ grant now, s.grants.valid grant now = true → s.Fresh grant →
    (s.grants.install grant now).2 ≠ .ok () → (s.grants.install grant now).1.Exhausted now

structure GrantsValid (s : GrantHistory) : Prop where
  used : s.grants.used = s.installed.map (·.channelId)
  pending : Each (fun channel grant => grant ∈ s.installed ∧ grant.channelId = channel ∧ channel ∉ s.spent) s.grants.pending
  newest : ∀ grant ∈ s.installed, ∃ n, s.grants.generations.lookup grant.identity = some n ∧ grant.transportGeneration ≤ n
  recorded : Each (fun identity n => ∃ grant ∈ s.installed, grant.identity = identity ∧ grant.transportGeneration = n)
    s.grants.generations
  spent : s.spent ⊆ s.grants.used
  accepted : s.accepted ⊆ s.spent
  once : s.accepted.Nodup
  bounded : s.grants.Bounded

theorem consume_ok (found : (s.grants.consume verify channel nonce proof now).2 = .ok grant) :
    s.grants.pending.lookup channel = some grant ∧ now < grant.expiresAt ∧
    s.grants.generations.lookup grant.identity = some grant.transportGeneration ∧
    verify grant.proofKey (transcript channel nonce) proof = true := by
  simp only [Grants.consume] at found
  split at found
  · cases found
  · split_ifs at found with late proved
    cases found
    push Not at late
    exact ⟨by assumption,late.1,late.2,proved⟩

section
variable (valid : GrantsValid s)
include valid

theorem prune_valid : GrantsValid {s with grants := s.grants.prune now} :=
  {valid with
    pending := fun channel grant found => valid.pending channel grant (keep_lookup found).1
    bounded := ⟨Nat.le_trans (List.length_filter_le _ _) valid.bounded.1,valid.bounded.2⟩}

-- Whatever ends a grant, its place among the pending ones is gone.
theorem end_valid : GrantsValid (s.end channel) := by
  have used := valid.used
  refine {valid with
    pending := ?_,spent := ?_,accepted := ?_,bounded := ⟨Nat.le_trans size_erase_le valid.bounded.1,valid.bounded.2⟩}
  · intro other grant found
    have different : other ≠ channel := by
      rintro rfl
      simp [GrantHistory.end,Grants.revoke] at found
    have held := valid.pending other grant (erase_lookup found)
    grind [GrantHistory.end]
  · have spent := valid.spent
    grind [GrantHistory.end,Grants.revoke]
  · have accepted := valid.accepted
    grind [GrantHistory.end]

theorem enter_valid (room : size s.grants.pending < maxGrants)
    (unused : grant.channelId ∉ s.grants.used) (short : s.grants.used.length < 4096)
    (current : (s.grants.generations.lookup grant.identity).getD 0 ≤ grant.transportGeneration)
    (known : s.grants.generations.lookup grant.identity = none → size s.grants.generations < maxGrants) :
    GrantsValid {s with grants := s.grants.enter grant,installed := grant :: s.installed} := by
  have absent : s.grants.pending.lookup grant.channelId = none := by
    cases found : s.grants.pending.lookup grant.channelId with
    | none => rfl
    | some held =>
      obtain ⟨mem,named,_⟩ := valid.pending _ _ found
      exact absurd (valid.used ▸ List.mem_map.mpr ⟨held,mem,named⟩) unused
  refine {valid with
    used := congrArg (_ :: ·) valid.used,pending := ?_,newest := ?_,recorded := ?_
    spent := fun _ spent => List.mem_cons_of_mem _ (valid.spent spent),bounded := ⟨?_,?_,short⟩}
  · refine Each.insert (fun channel _ found => ?_) ⟨List.mem_cons_self,rfl,fun spent => unused (valid.spent spent)⟩
    exact (valid.pending channel _ found).imp_left (List.mem_cons_of_mem _)
  · intro other mem
    by_cases same : other.identity = grant.identity
    · refine ⟨_,by rw [same]; exact AList.lookup_insert _,?_⟩
      rcases List.mem_cons.mp mem with rfl | earlier
      · exact Nat.le_refl _
      · obtain ⟨n,found,older⟩ := valid.newest other earlier
        rw [same] at found
        exact Nat.le_trans older (by simpa [found] using current)
    · rcases List.mem_cons.mp mem with rfl | earlier
      · exact absurd rfl same
      · simpa [Grants.enter,AList.lookup_insert_ne same] using valid.newest other earlier
  · refine Each.insert (fun _ n found => ?_) ⟨grant,List.mem_cons_self,rfl,rfl⟩
    obtain ⟨other,mem,rest⟩ := valid.recorded _ n found
    exact ⟨other,List.mem_cons_of_mem _ mem,rest⟩
  · simpa only [Grants.enter,size_insert_absent absent,Nat.succ_le_iff] using room
  · cases found : s.grants.generations.lookup grant.identity with
    | none => simpa only [Grants.enter,size_insert_absent found,Nat.succ_le_iff] using known found
    | some n => simpa only [Grants.enter,size_insert_present found] using valid.bounded.2.1

theorem install_valid : GrantsValid (s.step verify (.install grant now)) := by
  have pruned : GrantsValid {s with grants := s.grants.prune now} := prune_valid valid
  unfold GrantHistory.step Grants.install
  dsimp only
  split_ifs with invalid limit stale identities
  · exact pruned
  · exact pruned
  · exact pruned
  · exact pruned
  · push Not at limit identities
    exact enter_valid pruned limit.1 limit.2.1 limit.2.2 (Nat.not_lt.mp stale) identities

theorem consume_valid : GrantsValid (s.step verify (.consume channel nonce proof now)) := by
  have ended : GrantsValid (s.end channel) := end_valid valid
  cases result : (s.grants.consume verify channel nonce proof now).2 with
  | error text =>
    simp only [GrantHistory.step,result]
    exact ended
  | ok grant =>
    obtain ⟨mem,named,unspent⟩ := valid.pending channel grant (consume_ok result).1
    simp only [GrantHistory.step,result]
    refine {ended with accepted := List.cons_subset.mpr ⟨?_,ended.accepted⟩,once := ?_}
    · simp [GrantHistory.end,show ∃ other ∈ s.installed,other.channelId = channel from ⟨grant,mem,named⟩]
    · exact List.nodup_cons.mpr ⟨fun before => unspent (valid.accepted before),valid.once⟩

theorem refused (formed : s.grants.valid grant now = true) (fresh : s.Fresh grant)
    (result : (s.grants.install grant now).2 ≠ .ok ()) : (s.grants.install grant now).1.Exhausted now := by
  have formed : (s.grants.prune now).valid grant now = true := formed
  have unused : grant.channelId ∉ (s.grants.prune now).used := by
    change _ ∉ s.grants.used
    rw [valid.used]
    intro mem
    obtain ⟨other,earlier,same⟩ := List.mem_map.mp mem
    exact (fresh other earlier).1 same
  have current : ¬ grant.transportGeneration < ((s.grants.prune now).generations.lookup grant.identity).getD 0 := by
    cases found : (s.grants.prune now).generations.lookup grant.identity with
    | none => exact Nat.not_lt_zero _
    | some n =>
      obtain ⟨other,earlier,same,rfl⟩ := valid.recorded _ n found
      exact Nat.not_lt.mpr ((fresh other earlier).2 same)
  simp only [Grants.install] at result ⊢
  split_ifs at result ⊢ with invalid limit identities
  · simp [formed] at invalid
  · rcases limit with full | duplicate | long
    · refine .inr ⟨Nat.le_antisymm (prune_valid valid).bounded.1 full,?_⟩
      exact fun _ _ found => of_decide_eq_true (keep_lookup found).2
    · exact absurd duplicate unused
    · exact .inl (Bool.or_eq_true_iff.mpr (.inl (decide_eq_true long)))
  · exact .inl (Bool.or_eq_true_iff.mpr (.inr (decide_eq_true identities.2)))
  · exact absurd rfl result

end

theorem grants_single_use (ran : (grantMachine verify).run (.start account device) actions = some s) :
    GrantsSound verify s := by
  have valid : GrantsValid s := by
    refine run_preserves (fun s action _ valid step => ?_) ?_ ran
    · cases step
      cases action with
      | install grant now => exact install_valid valid
      | consume channel nonce proof now => exact consume_valid valid
      | revoke channel => exact end_valid valid
    · exact ⟨rfl,.empty,nofun,.empty,nofun,nofun,.nil,by simp [GrantHistory.start,Grants.Bounded,size]⟩
  refine ⟨valid.once,valid.bounded,?_,fun _ _ => refused valid⟩
  intro channel nonce proof now grant result
  obtain ⟨found,live,current,proved⟩ := consume_ok result
  obtain ⟨mem,named,unspent⟩ := valid.pending channel grant found
  refine ⟨mem,named,unspent,live,proved,?_⟩
  intro other earlier same
  obtain ⟨n,newest,older⟩ := valid.newest other earlier
  rw [same,current] at newest
  exact Option.some.inj newest ▸ older

def exampleGrant : DeviceTailcatGrant := ⟨"c","a","d","i",1,[1,2],1000,List.replicate 32 0,1⟩

theorem grants_single_use_once : ∃ s, (grantMachine fun _ _ _ => true).run (.start "a" "d")
      [.install exampleGrant 5,.consume "c" [] [] 6,.consume "c" [] [] 7] = some s ∧ s.accepted = ["c"] ∧
      GrantsSound (fun _ _ _ => true) s :=
  ⟨_,rfl,by decide +kernel,@grants_single_use _ _ "a" "d" [.install exampleGrant 5,.consume "c" [] [] 6,.consume "c" [] [] 7] rfl⟩

end Coflux.Device
