import Coflux.Sessiond.Events
import Coflux.Sessiond.Stream

namespace Coflux.Sessiond
open Text
open SessionState (answer feed)

def da1Of : ScanEvent × Nat → Option Nat
  | (.da1Query,seq) => some seq
  | _ => none

def da1Seqs (base64 : Bytes → Option Bytes) (scanner : OutputScanner) (seq : Nat) (bytes : Bytes) : List Nat :=
  (scanEvents base64 scanner seq bytes).filterMap da1Of

def da1Query : TerminalQuery → Option Nat
  | .da1 seq => some seq
  | .programStatus _ => none

def Delta.carries (delta : Delta) (seq : Nat) : Prop := delta.fromSeq ≤ seq ∧ seq ≤ delta.toSeq

section Stream
theorem alike_trans (first : Alike one two) (second : Alike two three) : Alike one three := by
  refine ⟨first.state.trans second.state,first.secret.trans second.secret,?_⟩
  intro inside
  exact (first.osc inside).trans (second.osc (first.state.symm.trans inside))

section
variable (scanner : OutputScanner)

theorem scanEvents_bounds (seq : Nat) :
    ∀ event ∈ scanEvents base64 scanner seq bytes, seq ≤ event.2 ∧ event.2 < seq + bytes.length := by
  induction bytes generalizing scanner seq with
  | nil => nofun
  | cons byte rest ih =>
    intro event mem
    rw [List.length_cons]
    rcases List.mem_append.mp mem with here | later
    · obtain ⟨_,_,rfl⟩ := Option.map_eq_some_iff.mp (Option.mem_toList.mp here)
      simp only
      omega
    · obtain ⟨_,_⟩ := ih _ _ event later
      omega

theorem da1Seqs_bounds :
    ∀ query ∈ da1Seqs base64 scanner seq bytes, seq ≤ query ∧ query < seq + bytes.length := by
  intro query mem
  obtain ⟨⟨event,_⟩,inside,found⟩ := List.mem_filterMap.mp mem
  have bounds := scanEvents_bounds _ seq _ inside
  cases event with
  | da1Query =>
    cases found
    exact bounds
  | _ => cases found

theorem da1Seqs_append : da1Seqs base64 scanner seq (first ++ second) =
      da1Seqs base64 scanner seq first ++ da1Seqs base64 (scanAll base64 scanner first) (seq + first.length) second := by
  rw [da1Seqs,scanEvents_append,List.filterMap_append]
  rfl

theorem da1Seqs_alike (alike : Alike one two) :
    da1Seqs base64 one seq bytes = da1Seqs base64 two seq bytes := by
  rw [da1Seqs,(scan_alike alike seq bytes).2]
  rfl

theorem da1Seqs_rising (seq : Nat) {bytes : Bytes} : (da1Seqs base64 scanner seq bytes).Pairwise (· < ·) := by
  induction bytes generalizing scanner seq with
  | nil => exact List.Pairwise.nil
  | cons byte rest ih =>
    have parts : da1Seqs base64 scanner seq ([byte] ++ rest) = _ := da1Seqs_append _
    rw [List.singleton_append] at parts
    rw [parts,List.pairwise_append]
    refine ⟨?_,ih _ _,?_⟩
    · simp only [da1Seqs,scanEvents,List.append_nil]
      cases (scanner.feed base64 byte).2 with
      | none => exact List.Pairwise.nil
      | some event =>
        cases event with
        | da1Query => exact List.pairwise_singleton _ _
        | _ => exact List.Pairwise.nil
    · intro one first two second
      have high := (da1Seqs_bounds _ _ first).2
      have low := (da1Seqs_bounds _ _ second).1
      exact Nat.lt_of_lt_of_le high low

end

theorem queried_da1 {events : List (ScanEvent × Nat)} : (queried events).filterMap da1Query = events.filterMap da1Of := by
  rw [queried,List.filterMap_filterMap]
  congr 1
  funext event
  obtain ⟨event,_⟩ := event
  cases event <;> rfl

end Stream

theorem answer_last (human : Bool) (queries : List TerminalQuery) :
    (answer human queries).2 = if human then none else (queries.filterMap da1Query).getLast? := by
  induction queries with
  | nil => cases human <;> rfl
  | cons query rest ih =>
    cases query with
    | programStatus terminator => exact ih
    | da1 seq =>
      cases human with
      | true => exact ih
      | false =>
        have last : (answer false rest).2 = (rest.filterMap da1Query).getLast? := ih
        show some ((answer false rest).2.getD seq) = (seq :: rest.filterMap da1Query).getLast?
        rw [last,List.getLast?_cons]

theorem rising_last {seqs : List Nat} (rising : seqs.Pairwise (· < ·)) (mem : seq ∈ seqs) :
    ∃ last, seqs.getLast? = some last ∧ seq ≤ last := by
  rcases List.eq_nil_or_concat seqs with rfl | ⟨front,last,rfl⟩
  · cases mem
  · rw [List.concat_eq_append] at *
    refine ⟨last,List.getLast?_concat,?_⟩
    rcases List.mem_append.mp mem with before | here
    · exact Nat.le_of_lt ((List.pairwise_append.mp rising).2.2 seq before last (List.mem_singleton_self _))
    · exact Nat.le_of_eq (List.mem_singleton.mp here)

section Feed
variable (vendor : Vendor V) (state : SessionState V)

def batchDelta (terminal : TerminalState V) (bytes : Bytes) : Delta :=
  ⟨terminal.outputSeq + 1,terminal.outputSeq + bytes.length,bytes⟩

def answeredByHolder (bytes : Bytes) : Bool :=
  state.humanReceivesRaw (SessionState.pendingFor state.subscribers (batchDelta state.terminal bytes))

-- The marker only rises, and past every query that sessiond answers.
theorem feed_marker (nonempty : bytes ≠ []) :
    state.terminal.answeredQuerySeq ≤ (state.feed vendor bytes).1.terminal.answeredQuerySeq ∧
    (answeredByHolder state bytes = false →
      ∀ query ∈ da1Seqs vendor.base64 state.terminal.scanner (state.terminal.outputSeq + 1) bytes,
        query ≤ (state.feed vendor bytes).1.terminal.answeredQuerySeq) := by
  obtain ⟨made,_⟩ := feed_spec nonempty
  obtain ⟨watched,queries⟩ := feed_watched _
  have marker : (state.terminal.feed vendor bytes).1.answeredQuerySeq = state.terminal.answeredQuerySeq :=
    congrArg Watched.answeredQuerySeq watched
  have asked : (state.terminal.feed vendor bytes).1.queries.filterMap da1Query =
      da1Seqs vendor.base64 state.terminal.scanner (state.terminal.outputSeq + 1) bytes := by
    rw [queries,queried_da1]
    rfl
  cases fed : state.terminal.feed vendor bytes with
  | mk terminal delta =>
    rw [fed] at made marker asked
    cases made
    have last := answer_last (answeredByHolder state bytes) terminal.queries
    rw [asked] at last
    simp only [feed,fed]
    rw [show state.humanReceivesRaw (SessionState.pendingFor state.subscribers
      ⟨state.terminal.outputSeq + 1,state.terminal.outputSeq + bytes.length,bytes⟩) = answeredByHolder state bytes from rfl]
    cases found : (answer (answeredByHolder state bytes) terminal.queries).2 with
    | none =>
      refine ⟨Nat.le_of_eq marker.symm,?_⟩
      intro own query mem
      rw [own] at last found
      obtain ⟨highest,equal,_⟩ := rising_last (da1Seqs_rising _ _) mem
      rw [found,if_neg (by decide),equal] at last
      cases last
    | some highest =>
      refine ⟨(Nat.le_of_eq marker.symm).trans (Nat.le_max_left _ _),?_⟩
      intro own query mem
      rw [own] at last found
      obtain ⟨_,equal,below⟩ := rising_last (da1Seqs_rising _ _) mem
      rw [found,if_neg (by decide),equal] at last
      cases last
      exact below.trans (Nat.le_max_right _ _)

end Feed

section Resume
variable {state : SessionState V}

theorem collect_bounds (collected : TerminalState.collect next queue = some (output,last)) :
    next ≤ last ∧ ∀ delta ∈ output, next ≤ delta.fromSeq ∧ delta.toSeq < last := by
  induction queue generalizing next output with
  | nil =>
    cases collected
    exact ⟨Nat.le_refl _,nofun⟩
  | cons first rest ih =>
    simp only [TerminalState.collect] at collected
    split at collected
    · cases collected
    · obtain ⟨⟨_,_⟩,found,equal⟩ := Option.bind_eq_some_iff.mp collected
      cases equal
      obtain ⟨reach,inside⟩ := ih found
      refine ⟨by omega,?_⟩
      intro delta mem
      rcases List.mem_cons.mp mem with rfl | later
      · exact ⟨Nat.le_refl _,reach⟩
      · obtain ⟨_,high⟩ := inside _ later
        exact ⟨by omega,high⟩

def Within (low high : Nat) (replay : List Delta) : Prop := ∀ delta ∈ replay, low < delta.fromSeq ∧ delta.toSeq ≤ high

theorem deltasAfter_within {terminal : TerminalState V} (covered : terminal.deltasAfter seq = some output) :
    Within seq terminal.outputSeq output := by
  unfold TerminalState.deltasAfter at covered
  split at covered
  · split at covered
    · cases covered
      nofun
    · cases covered
  · split at covered
    · cases covered
    · simp only [Option.bind_eq_bind,Option.bind_eq_some_iff] at covered
      obtain ⟨⟨_,last⟩,collected,equal⟩ := covered
      split at equal
      · rename_i reaches
        cases equal
        intro delta mem
        obtain ⟨low,_⟩ := (collect_bounds collected).2 delta mem
        exact ⟨low,by omega⟩
      · cases equal

theorem fromRing_within (found : state.fromRing ring seq = some sent) : Within seq state.terminal.outputSeq sent := by
  unfold SessionState.fromRing at found
  dsimp only at found
  split at found
  · split at found
    · split at found
      · cases found
        intro delta mem
        rw [List.mem_singleton.mp mem]
        exact ⟨Nat.lt_succ_self _,Nat.le_refl _⟩
      · cases found
    · cases found
  · cases found

theorem resumed_within (found : state.resumed request ring = some (seq,sent)) :
    request.resumeFromSeq = some seq ∧ state.terminal.answeredQuerySeq ≤ seq ∧ Within seq state.terminal.outputSeq sent := by
  obtain ⟨_,asked,mapped⟩ := Option.bind_eq_some_iff.mp found
  obtain ⟨_,replayed,equal⟩ := Option.map_eq_some_iff.mp mapped
  cases equal
  obtain ⟨wanted,behind⟩ := Option.filter_eq_some_iff.mp asked
  refine ⟨wanted,of_decide_eq_true behind,?_⟩
  rcases Option.or_eq_some_iff.mp replayed with local_ | ⟨_,ringed⟩
  · exact deltasAfter_within local_
  · exact fromRing_within ringed

theorem takeHolder_holder (state : SessionState V) (request : AttachRequest) :
    ∃ epoch, (state.takeHolder request).1.holder =
      some ⟨request.clientInstanceId,request.transportGeneration,request.channelId,epoch⟩ := by
  unfold SessionState.takeHolder
  split
  · exact ⟨_,rfl⟩
  · split
    · exact ⟨_,rfl⟩
    · exact ⟨_,rfl⟩

theorem attach_replays (granted : state.attach vendor request ring = (session,.ok outcome)) :
    Within outcome.snapshotSeq state.terminal.outputSeq outcome.replay ∧
    (∀ delta ∈ outcome.replay, request.resumeFromSeq = some outcome.snapshotSeq ∧
      state.terminal.answeredQuerySeq ≤ outcome.snapshotSeq) ∧
    ∃ epoch, session.holder = some ⟨request.clientInstanceId,request.transportGeneration,request.channelId,epoch⟩ := by
  have terminal := takeHolder_terminal state request
  have holder := takeHolder_holder state request
  simp only [SessionState.attach] at granted
  split at granted
  · cases granted
  · split at granted
    · rename_i found
      obtain ⟨asked,marker,within⟩ := resumed_within found
      rw [terminal] at marker within
      cases granted
      exact ⟨within,fun _ _ => ⟨asked,marker⟩,holder⟩
    · cases granted
      exact ⟨nofun,nofun,holder⟩

end Resume

end Coflux.Sessiond
