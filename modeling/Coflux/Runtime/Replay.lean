import Coflux.Runtime.Lifetime

namespace Coflux.Runtime
open StepMachine Ptyd Sessiond
open RecoveryState (withPty)
open List (append_assoc append_nil drop_take length_append length_take mem_append mem_append_left mem_append_right mem_cons mem_map mem_singleton mem_singleton_self nil_append)
open Option (bind_some getD_some map_none map_some none_or some_or)

inductive VtOp where
  | byte (byte : UInt8)
  | resize (rows cols : UInt16)

-- An engine that only writes down what it is asked for.
structure Records (vendor : Vendor (List VtOp)) : Prop where
  feed : ∀ vt bytes resets, vendor.feed vt bytes resets = vt ++ bytes.map .byte
  resize : ∀ vt rows cols, vendor.resize vt rows cols = vt ++ [.resize rows cols]

def between (history : Bytes) (low high : Nat) : List VtOp := ((history.take high).drop low).map .byte

-- Output from a cursor to a target with resizes at their offsets in between.
def weave (history : Bytes) (target : Nat) : Nat → List PtydResizeEntry → List VtOp
  | cursor,[] => between history cursor target
  | cursor,entry :: rest =>
    between history cursor entry.offset ++ .resize entry.rows entry.cols :: weave history target entry.offset rest

def Rising (target : Nat) : Nat → List PtydResizeEntry → Prop
  | cursor,[] => cursor ≤ target
  | cursor,entry :: rest => cursor ≤ entry.offset ∧ Rising target entry.offset rest

def Effective : UInt16 × UInt16 → List PtydResizeEntry → UInt16 × UInt16 → Prop
  | size,[],last => size = last
  | size,entry :: rest,last => size ≠ (entry.rows,entry.cols) ∧ Effective (entry.rows,entry.cols) rest last

section Weave
@[simp] theorem between_self (history : Bytes) (low : Nat) : between history low low = [] := by
  simp [between]

theorem between_append (first : low ≤ middle) (second : middle ≤ high) :
    between history low high = between history low middle ++ between history middle high := by
  have total : high - low = (middle - low) + (high - middle) := by omega
  unfold between
  rw [← List.map_append,drop_take,drop_take,drop_take,total,List.take_add,List.drop_drop,
    Nat.add_sub_cancel' first]

theorem between_more (inside : high ≤ history.length) : between (history ++ more) low high = between history low high := by
  unfold between
  rw [List.take_append_of_le_length inside]

theorem between_taken (filled : data ≠ []) (content : history.take (low + data.length) = history.take low ++ data) :
    between history low (low + data.length) = data.map .byte := by
  have positive := List.length_pos_iff.mpr filled
  have total := congrArg List.length content
  simp only [length_take,length_append] at total
  have length : (history.take low).length = low := by
    rw [length_take]
    omega
  have rest : (history.take low ++ data).drop low = data := List.drop_left' length
  rw [between,content,rest]

section
variable (rising : Rising target cursor entries)
include rising

theorem rising_le : cursor ≤ target := by
  induction entries generalizing cursor with
  | nil => exact rising
  | cons entry rest ih => exact rising.1.trans (ih rising.2)

theorem rising_above : ∀ entry ∈ entries, cursor ≤ entry.offset := by
  induction entries generalizing cursor with
  | nil => nofun
  | cons first rest ih =>
    exact List.forall_mem_cons.mpr ⟨rising.1,fun entry inside => rising.1.trans (ih rising.2 entry inside)⟩

theorem rising_extend (reach : target ≤ later) : Rising later cursor entries := by
  induction entries generalizing cursor with
  | nil => exact Nat.le_trans rising reach
  | cons entry rest ih => exact ⟨rising.1,ih rising.2⟩

theorem rising_snoc : Rising target cursor (entries ++ [⟨target,rows,cols⟩]) := by
  induction entries generalizing cursor with
  | nil => exact ⟨rising,Nat.le_refl _⟩
  | cons entry rest ih => exact ⟨rising.1,ih rising.2⟩

end

theorem effective_snoc (effective : Effective size entries last) (differs : last ≠ (rows,cols)) :
    Effective size (entries ++ [⟨target,rows,cols⟩]) (rows,cols) := by
  induction entries generalizing size with
  | nil =>
    have same : size = last := effective
    exact ⟨same ▸ differs,rfl⟩
  | cons entry rest ih => exact ⟨effective.1,ih effective.2⟩

theorem weave_extend (rising : Rising target cursor entries) (reach : target ≤ later) :
    weave history later cursor entries = weave history target cursor entries ++ between history target later := by
  induction entries generalizing cursor with
  | nil => exact between_append rising reach
  | cons entry rest ih =>
    simp only [weave,ih rising.2,append_assoc,List.cons_append]

theorem weave_snoc :
    weave history target cursor (entries ++ [⟨target,rows,cols⟩]) = weave history target cursor entries ++ [.resize rows cols] := by
  induction entries generalizing cursor with
  | nil => simp [weave]
  | cons entry rest ih => simp [weave,ih]

theorem weave_more (rising : Rising target cursor entries) (inside : target ≤ history.length) :
    weave (history ++ more) target cursor entries = weave history target cursor entries := by
  induction entries generalizing cursor with
  | nil => exact between_more inside
  | cons entry rest ih =>
    simp only [weave,ih rising.2]
    rw [between_more ((rising_le rising.2).trans inside)]

theorem weave_advance (first : cursor ≤ later) (inside : later ≤ target) (before : ∀ entry ∈ entries.head?, later ≤ entry.offset) :
    weave history target cursor entries = between history cursor later ++ weave history target later entries := by
  cases entries with
  | nil => exact between_append first inside
  | cons entry rest =>
    simp only [weave]
    rw [between_append first (before entry rfl),append_assoc]

theorem rising_advance (rising : Rising target cursor entries) (inside : later ≤ target)
    (before : ∀ entry ∈ entries.head?, later ≤ entry.offset) : Rising target later entries := by
  cases entries with
  | nil => exact inside
  | cons entry rest => exact ⟨before entry rfl,rising.2⟩

end Weave

def dims (terminal : TerminalState V) : UInt16 × UInt16 := (terminal.rows,terminal.cols)

section
variable (file : SessionFile)

def fileDims : UInt16 × UInt16 := (file.rows,file.cols)

def sinceCut (offset : Nat) : List PtydResizeEntry :=
  file.resizes.filter fun entry => offset ≤ entry.offset

def Retained (offset : Nat) : Prop :=
  file.resizes.length < ptydResizeLogEntries ∨ ∃ first ∈ file.resizes.head?, first.offset < offset

-- No resize since the checkpoint is half done, both have the same size, ptyd carried each out with
-- no output unread and was heard, and all are still in the log.
structure Aligned (s : Life V) (flow : FlowState V) (offset : Nat) : Prop where
  settled : ∀ lock, s.lock = some lock → lock.carriedOut = false
  size : dims flow.session.terminal = fileDims flow.file
  inStep : ∀ place ∈ s.astray, place < offset
  retained : Retained flow.file offset

-- A crash finds everything aligned since the stored checkpoint, no request of the
-- dead runtime is carried out later, and the new one gets the log.
def Orderly (r : Replacement V) (s : Life V) : LifeAction V → Prop
  | .crash => ∀ flow, s.stage = .reading flow → ∀ cut ∈ s.cuts,
      flow.file.checkpoint = some cut.checkpoint.outputSeq → Aligned s flow cut.checkpoint.outputSeq
  | .resizeLate _ => ∃ flow, s.stage = .reading flow
  | .resizes answered => r.supports "resizes" = true ∧ answered = true
  | _ => True

-- The rebuilt screen has gone through the same operations as the last live one, and then through
-- the output that one had not read.
def RebuiltInOrder (s : Life (List VtOp)) : Prop :=
  ∀ pty info rebuild flow cuts, s.stage = .recovering pty info (.rebuilt rebuild) → s.crashed = some (flow,cuts) →
    ∀ restored ∈ s.cuts, ∀ taken ∈ cuts, restored.checkpoint = taken.checkpoint →
      ∃ ops, flow.session.terminal.vt = taken.vt ++ ops ∧
        rebuild.session.terminal.vt = restored.vt ++ (ops ++ between s.history flow.seq info.outputOffset) ∧
        dims rebuild.session.terminal = dims flow.session.terminal

def LogKept (logged : List PtydResizeEntry) : Prop :=
  ∃ dropped, logged = dropped ++ file.resizes ∧ (dropped = [] ∨ ptydResizeLogEntries ≤ file.resizes.length)

end

section Log
theorem logKept_push (kept : LogKept file logged) :
    LogKept (file.pushResize rows cols) (logged ++ [⟨file.end,rows,cols⟩]) := by
  obtain ⟨dropped,rfl,full⟩ := kept
  by_cases large : ptydResizeLogEntries ≤ file.resizes.length
  · obtain ⟨first,rest,parts⟩ := List.exists_cons_of_length_pos (Nat.lt_of_lt_of_le ptydResizeLogEntries_pos large)
    have pushed : (file.pushResize rows cols).resizes = rest ++ [⟨file.end,rows,cols⟩] := by
      simp only [SessionFile.pushResize,ge_iff_le]
      rw [if_pos large,parts]
      rfl
    refine ⟨dropped ++ [first],?_,.inr ?_⟩
    · simp [pushed,parts]
    · simpa [pushed,parts] using large
  · refine ⟨dropped,?_,.inl (full.resolve_right large)⟩
    simp [SessionFile.pushResize,if_neg large]

theorem retained_since (kept : LogKept file logged) (retained : Retained file offset) (split : logged = earlier ++ since)
    (low : ∀ entry ∈ earlier, entry.offset < offset) (above : ∀ entry ∈ since, offset ≤ entry.offset) :
    sinceCut file offset = since ∧ ∃ front, file.resizes = front ++ since ∧ ∀ entry ∈ front, entry.offset < offset := by
  have suffix : ∃ front, file.resizes = front ++ since ∧ ∀ entry ∈ front, entry.offset < offset := by
    obtain ⟨dropped,parts,full⟩ := kept
    rw [split] at parts
    rcases List.append_eq_append_iff.mp parts with ⟨gone,rfl,rfl⟩ | ⟨front,rfl,whole⟩
    · -- More has been dropped than lies before the checkpoint.
      rcases full with none | large
      · obtain ⟨rfl,rfl⟩ := List.append_eq_nil_iff.mp none
        exact ⟨[],rfl,nofun⟩
      · rcases retained with small | ⟨first,head,before⟩
        · exact absurd large (Nat.not_le.mpr small)
        · have mem : first ∈ gone ++ file.resizes :=
            mem_append_right _ (List.mem_of_mem_head? head)
          exact absurd before (Nat.not_lt.mpr (above first mem))
    · exact ⟨front,whole,fun entry mem => low entry (mem_append_right _ mem)⟩
  refine ⟨?_,suffix⟩
  obtain ⟨_,whole,before⟩ := suffix
  rw [sinceCut,whole,List.filter_append]
  rw [List.filter_eq_nil_iff.mpr,List.filter_eq_self.mpr,nil_append]
  · intro entry mem
    exact decide_eq_true (above entry mem)
  · intro entry mem reaches
    exact Nat.not_le.mpr (before entry mem) (of_decide_eq_true reaches)

end Log

def underway (s : Life V) (flow : FlowState V) : List PtydResizeEntry :=
  match s.lock with
  | some ⟨rows,cols,true⟩ => [⟨flow.seq,rows,cols⟩]
  | _ => []

structure CutWoven (history : Bytes) (logged waiting : List PtydResizeEntry) (terminal : TerminalState (List VtOp))
    (cut : Cut (List VtOp)) (since : List PtydResizeEntry) : Prop where
  split : ∃ earlier, logged = earlier ++ (since ++ waiting) ∧ ∀ entry ∈ earlier, entry.offset < cut.checkpoint.outputSeq
  rising : Rising terminal.outputSeq cut.checkpoint.outputSeq since
  lived : terminal.vt = cut.vt ++ weave history terminal.outputSeq cut.checkpoint.outputSeq since
  effective : Effective (cut.checkpoint.rows,cut.checkpoint.cols) since (dims terminal)

structure LiveWoven (s : Life (List VtOp)) (flow : FlowState (List VtOp)) (logged : List PtydResizeEntry) : Prop where
  log : LogKept flow.file logged
  inside : ∀ entry ∈ logged, entry.offset ≤ s.history.length ∧ (entry.offset ≤ flow.seq ∨ entry.offset ∈ s.astray)
  reach : flow.seq ≤ s.history.length
  sized : flow.file.rows ≠ 0 ∧ flow.file.cols ≠ 0
  screen : flow.session.terminal.rows ≠ 0 ∧ flow.session.terminal.cols ≠ 0
  lock : ∀ lock, s.lock = some lock → lock.rows ≠ 0 ∧ lock.cols ≠ 0 ∧ dims flow.session.terminal ≠ (lock.rows,lock.cols)
  below : ∀ cut ∈ s.cuts, cut.checkpoint.outputSeq ≤ flow.seq
  cuts : ∀ cut ∈ s.cuts, (∀ place ∈ s.astray, place < cut.checkpoint.outputSeq) →
    ∃ since, CutWoven s.history logged (underway s flow) flow.session.terminal cut since

-- What ptyd keeps of a session without a reader, compared with the last one.
structure DownWoven (history : Bytes) (file : SessionFile) (flow : FlowState (List VtOp)) (cuts : List (Cut (List VtOp)))
    (logged : List PtydResizeEntry) : Prop where
  log : LogKept file logged
  inside : ∀ entry ∈ logged, entry.offset ≤ history.length
  reach : flow.seq ≤ history.length
  sized : file.rows ≠ 0 ∧ file.cols ≠ 0
  cuts : ∀ cut ∈ cuts, file.checkpoint = some cut.checkpoint.outputSeq →
    dims flow.session.terminal = fileDims file ∧ Retained file cut.checkpoint.outputSeq ∧
      ∃ since, CutWoven history logged [] flow.session.terminal cut since

def PhaseWoven (history : Bytes) (file : SessionFile) (info : PtydSessionInfo) (cuts : List (Cut (List VtOp))) :
    Phase (List VtOp) → Prop
  | .listed => True
  | .restored rebuild => ∀ cut ∈ cuts, rebuild.cursor = cut.checkpoint.outputSeq ∧
      rebuild.session.terminal.vt = cut.vt ∧ dims rebuild.session.terminal = (cut.checkpoint.rows,cut.checkpoint.cols)
  | .replaying rebuild => ∀ cut ∈ cuts, Rising info.outputOffset rebuild.cursor rebuild.resizes ∧
      Effective (dims rebuild.session.terminal) rebuild.resizes (info.rows,info.cols) ∧
      cut.vt ++ weave history info.outputOffset cut.checkpoint.outputSeq (sinceCut file cut.checkpoint.outputSeq) =
        rebuild.session.terminal.vt ++ weave history info.outputOffset rebuild.cursor rebuild.resizes
  | .rebuilt rebuild => dims rebuild.session.terminal = (info.rows,info.cols) ∧ ∀ cut ∈ cuts,
      rebuild.session.terminal.vt =
        cut.vt ++ weave history info.outputOffset cut.checkpoint.outputSeq (sinceCut file cut.checkpoint.outputSeq)

-- A rebuild in progress. Only checkpoints of the last screen are compared.
structure ListedWoven (history : Bytes) (file : SessionFile) (info : PtydSessionInfo) (flow : FlowState (List VtOp))
    (taken restored : List (Cut (List VtOp))) (logged : List PtydResizeEntry) (phase : Phase (List VtOp)) : Prop where
  reach : flow.seq ≤ info.outputOffset ∧ info.outputOffset ≤ history.length
  inside : ∀ entry ∈ logged, entry.offset ≤ info.outputOffset
  size : (info.rows,info.cols) = fileDims file
  known : phase ≠ .listed → ∀ cut ∈ restored, (∃ old ∈ taken, old.checkpoint = cut.checkpoint) ∧
    file.checkpoint = some cut.checkpoint.outputSeq
  phase : PhaseWoven history file info restored phase

def Woven (s : Life (List VtOp)) : Prop :=
  match s.stage with
  | .reading flow => ∃ logged, LiveWoven s flow logged
  | .recovering pty info phase => ∃ flow taken logged, s.crashed = some (flow,taken) ∧
      DownWoven s.history pty.inner.file flow taken logged ∧
      ListedWoven s.history pty.inner.file info flow taken s.cuts logged phase
  | .exited pty _ | .abandoned pty => ∃ flow taken logged, s.crashed = some (flow,taken) ∧
      DownWoven s.history pty.inner.file flow taken logged

section Live
variable {r : Replacement (List VtOp)} {flow : FlowState (List VtOp)}

section
variable (woven : CutWoven history logged waiting terminal cut since)
include woven

theorem cutWoven_more (inside : terminal.outputSeq ≤ history.length) :
    CutWoven (history ++ more) logged waiting terminal cut since :=
  {woven with lived := by rw [weave_more woven.rising inside]; exact woven.lived}

theorem cutWoven_above : ∀ entry ∈ since, cut.checkpoint.outputSeq ≤ entry.offset :=
  rising_above woven.rising

end

theorem cutWoven_fed (woven : CutWoven history logged [] terminal cut since)
    (reach : terminal.outputSeq ≤ later.outputSeq) (size : dims later = dims terminal)
    (lived : later.vt = terminal.vt ++ between history terminal.outputSeq later.outputSeq) :
    CutWoven history logged [] later cut since := by
  refine ⟨woven.split,rising_extend woven.rising reach,?_,size ▸ woven.effective⟩
  rw [lived,woven.lived,weave_extend woven.rising reach,append_assoc]

theorem cutWoven_resized (woven : CutWoven history logged [⟨terminal.outputSeq,rows,cols⟩] terminal cut since)
    (differs : dims terminal ≠ (rows,cols)) (seq : later.outputSeq = terminal.outputSeq) (size : dims later = (rows,cols))
    (lived : later.vt = terminal.vt ++ [.resize rows cols]) :
    CutWoven history logged [] later cut (since ++ [⟨terminal.outputSeq,rows,cols⟩]) := by
  obtain ⟨earlier,split,low⟩ := woven.split
  refine ⟨⟨earlier,by rw [split,append_nil],low⟩,?_,?_,?_⟩
  · rw [seq]
    exact rising_snoc woven.rising
  · rw [seq,lived,woven.lived,weave_snoc,append_assoc]
  · rw [size]
    exact effective_snoc woven.effective differs

theorem live_frame (woven : LiveWoven s flow logged) (terminal : after.session.terminal = flow.session.terminal)
    (file : after.file.resizes = flow.file.resizes ∧ after.file.rows = flow.file.rows ∧ after.file.cols = flow.file.cols)
    (same : next.lock = s.lock ∧ next.astray = s.astray ∧ next.cuts = s.cuts) (history : next.history = s.history ++ more) :
    LiveWoven next after logged := by
  have seq : after.seq = flow.seq := congrArg TerminalState.outputSeq terminal
  have longer : s.history.length ≤ next.history.length := by rw [history,length_append]; exact Nat.le_add_right _ _
  obtain ⟨resizes,rows,cols⟩ := file
  obtain ⟨lock,astray,cuts⟩ := same
  refine ⟨?_,?_,?_,?_,?_,?_,?_,?_⟩
  · simpa only [LogKept,resizes] using woven.log
  · intro entry mem
    obtain ⟨inside,place⟩ := woven.inside entry mem
    rw [seq,astray]
    exact ⟨inside.trans longer,place⟩
  · rw [seq]
    exact woven.reach.trans longer
  · rw [rows,cols]
    exact woven.sized
  · rw [terminal]
    exact woven.screen
  · rw [lock,terminal]
    exact woven.lock
  · rw [cuts,seq]
    exact woven.below
  · rw [cuts,astray]
    intro cut mem inStep
    obtain ⟨since,one⟩ := woven.cuts cut mem inStep
    have waiting : underway next after = underway s flow := by simp only [underway,lock,seq]
    rw [history,waiting,terminal]
    exact ⟨since,cutWoven_more one woven.reach⟩

theorem batch_between (sound : FlowSound history flow) (joined : coalescePtyOutput arriving flow.unread = some (batch,rest)) :
    between history flow.seq (flow.seq + batch.length) = batch.map .byte := by
  obtain ⟨_,_,content⟩ := batch_parts sound joined
  rw [between,drop_take,Nat.add_sub_cancel_left,content,List.take_left]

theorem fed_screen (records : Records r.vendor) (nonempty : batch ≠ []) :
    (flow.readerBatch r.vendor supported batch rest).session.terminal.vt = flow.session.terminal.vt ++ batch.map .byte ∧
      dims (flow.readerBatch r.vendor supported batch rest).session.terminal = dims flow.session.terminal := by
  obtain ⟨⟨_,vt⟩,rows,cols⟩ := sessionFeed_screen _ nonempty
  rw [(readerBatch_parts flow nonempty).1]
  exact ⟨by rw [vt,records.feed],by rw [dims,dims,rows,cols]⟩

theorem taken_cut (idle : flow.inFlight = none) (nonempty : batch ≠ [])
    (sent : (flow.readerBatch r.vendor supported batch rest).inFlight = some checkpoint) :
    checkpoint.outputSeq = flow.seq + batch.length ∧
      (checkpoint.rows,checkpoint.cols) = dims (flow.readerBatch r.vendor supported batch rest).session.terminal := by
  obtain ⟨session,_,_,seq⟩ := readerBatch_parts flow nonempty
  obtain ⟨made,_⟩ := readerBatch_taken _ supported idle sent
  obtain ⟨_,rfl⟩ := checkpoint_fields made
  rw [← seq,FlowState.seq,session]
  exact ⟨rfl,rfl⟩

theorem fed_woven (records : Records r.vendor) (woven : LiveWoven s flow logged) (sound : FlowSound s.history flow)
    (free : s.lock = none) (idle : flow.inFlight = none)
    (joined : coalescePtyOutput arriving flow.unread = some (batch,rest)) :
    LiveWoven (s.fed r flow batch rest) (flow.readerBatch r.vendor (r.supports "checkpoint") batch rest) logged := by
  obtain ⟨nonempty,_,content⟩ := batch_parts sound joined
  obtain ⟨_,pty,_,seq⟩ := readerBatch_parts flow nonempty
  obtain ⟨vt,size⟩ := fed_screen records nonempty
  have file : (flow.readerBatch r.vendor (r.supports "checkpoint") batch rest).file = flow.file := by
    rw [FlowState.file,pty,FlowState.file]
  have length : flow.seq + batch.length ≤ s.history.length := by
    have total := congrArg List.length content
    have reach := woven.reach
    rw [List.length_drop,length_append] at total
    omega
  have positive : 0 < batch.length := List.length_pos_iff.mpr nonempty
  have waiting : ∀ after, underway (s.fed r flow batch rest) after = [] := by
    intro after
    simp only [underway,Life.fed,free]
  generalize made : flow.readerBatch r.vendor (r.supports "checkpoint") batch rest = after at *
  have rows : after.session.terminal.rows = flow.session.terminal.rows := congrArg Prod.fst size
  have cols : after.session.terminal.cols = flow.session.terminal.cols := congrArg Prod.snd size
  -- A checkpoint of this batch lies behind all resizes that were taken in step.
  have cases : ∀ cut ∈ (s.fed r flow batch rest).cuts, cut ∈ s.cuts ∨
      cut.checkpoint.outputSeq = after.seq ∧ (cut.checkpoint.rows,cut.checkpoint.cols) = dims after.session.terminal ∧
        cut.vt = after.session.terminal.vt := by
    intro cut mem
    simp only [Life.fed,made] at mem
    rcases mem_append.mp mem with old | new
    · exact .inl old
    · obtain ⟨_,sent,rfl⟩ := Option.map_eq_some_iff.mp (Option.mem_toList.mp new)
      rw [← made] at sent
      obtain ⟨offset,same⟩ := taken_cut idle nonempty sent
      rw [made] at same
      exact .inr ⟨offset.trans seq.symm,same,rfl⟩
  refine ⟨file ▸ woven.log,?_,?_,file ▸ woven.sized,?_,?_,?_,?_⟩
  · intro entry mem
    obtain ⟨inside,place⟩ := woven.inside entry mem
    exact ⟨inside,place.imp_left fun behind => behind.trans (by omega)⟩
  · rw [seq]
    exact length
  · rw [rows,cols]
    exact woven.screen
  · intro lock held
    cases free.symm.trans held
  · intro cut mem
    rcases cases cut mem with old | ⟨offset,_⟩
    · exact (woven.below cut old).trans (by omega)
    · exact Nat.le_of_eq offset
  · intro cut mem inStep
    rw [waiting]
    rcases cases cut mem with old | ⟨offset,same,equal⟩
    · obtain ⟨since,one⟩ := woven.cuts cut old inStep
      have none : underway s flow = [] := by simp only [underway,free]
      rw [none] at one
      refine ⟨since,cutWoven_fed one ?_ size ?_⟩
      · show flow.seq ≤ after.seq
        omega
      · show after.session.terminal.vt = flow.session.terminal.vt ++ between s.history flow.seq after.seq
        rw [seq,batch_between sound joined,vt]
    · refine ⟨[],⟨logged,by simp,?_⟩,?_,?_,same⟩
      · intro entry inside
        rcases (woven.inside entry inside).2 with behind | lost
        · omega
        · exact inStep _ lost
      · exact Nat.le_of_eq offset
      · rw [equal,offset]
        show after.session.terminal.vt = after.session.terminal.vt ++ between _ after.seq after.seq
        rw [between_self,append_nil]

end Live

section Resize
variable {r : Replacement (List VtOp)}

theorem clampDim_ne_zero (value : Nat) (positive : fallback ≠ 0) : clampDim value fallback ≠ 0 := by
  unfold clampDim
  split
  · exact positive
  · intro zero
    have number := congrArg UInt16.toNat zero
    simp only [minTerminalDimension,maxTerminalDimension,Nat.toUInt16_eq,UInt16.toNat_ofNat',UInt16.toNat_zero] at number
    omega

theorem atLeastOne_ne_zero : atLeastOne size ≠ 0 := by
  unfold atLeastOne
  split
  · decide
  · rename_i large
    rintro rfl
    exact large (by decide)

theorem atLeastOne_self (positive : size ≠ 0) : atLeastOne size = size := by
  unfold atLeastOne
  split
  · rename_i small
    exact absurd (UInt16.toNat_inj.mp (Nat.lt_one_iff.mp (UInt16.lt_iff_toNat_lt.mp small))) positive
  · rfl

section
variable (woven : LiveWoven s flow logged)
include woven

theorem live_locked (free : s.lock = none) (tall : rows ≠ 0) (wide : cols ≠ 0) :
    LiveWoven (s.resizeLocked flow rows cols) flow logged := by
  unfold Life.resizeLocked
  split
  · exact woven
  · rename_i differs
    refine {woven with lock := ?_,cuts := ?_}
    · intro lock held
      cases held
      exact ⟨tall,wide,fun same => differs ⟨congrArg Prod.fst same,congrArg Prod.snd same⟩⟩
    · have undone : underway s flow = [] := by simp only [underway,free]
      have cuts := woven.cuts
      rw [undone] at cuts
      exact cuts

theorem live_released (undone : underway s flow = []) (free : next.lock = none)
    (same : next.history = s.history ∧ next.astray = s.astray ∧ next.cuts = s.cuts) : LiveWoven next flow logged := by
  obtain ⟨history,astray,cuts⟩ := same
  have waiting : underway next flow = [] := by simp only [underway,free]
  refine ⟨woven.log,by rw [history,astray]; exact woven.inside,by rw [history]; exact woven.reach,woven.sized,woven.screen,?_,
    by rw [cuts]; exact woven.below,by rw [history,astray,cuts,waiting,← undone]; exact woven.cuts⟩
  intro lock held
  cases free.symm.trans held

theorem live_astray (session : after.session = flow.session) (log : LogKept after.file (logged ++ extra))
    (inside : ∀ entry ∈ extra, entry.offset ≤ s.history.length ∧ (entry.offset ≤ flow.seq ∨ entry.offset ∈ next.astray))
    (sized : after.file.rows ≠ 0 ∧ after.file.cols ≠ 0) (lost : place ∈ next.astray) (beyond : flow.seq ≤ place)
    (more : ∀ place ∈ s.astray, place ∈ next.astray) (lock : next.lock = s.lock ∨ next.lock = none)
    (same : next.history = s.history ∧ next.cuts = s.cuts) : LiveWoven next after (logged ++ extra) := by
  have seq : after.seq = flow.seq := congrArg (fun session => session.terminal.outputSeq) session
  obtain ⟨history,cuts⟩ := same
  refine ⟨log,?_,by rw [history,seq]; exact woven.reach,sized,by rw [session]; exact woven.screen,?_,
    by rw [cuts,seq]; exact woven.below,?_⟩
  · intro entry mem
    rw [history,seq]
    rcases mem_append.mp mem with old | new
    · obtain ⟨short,place⟩ := woven.inside entry old
      exact ⟨short,place.imp_right (more _)⟩
    · exact inside entry new
  · intro held equal
    rw [session]
    rcases lock with kept | free
    · exact woven.lock held (kept.symm.trans equal)
    · cases free.symm.trans equal
  · intro cut mem inStep
    rw [cuts] at mem
    exact absurd (inStep place lost) (Nat.not_lt.mpr ((woven.below cut mem).trans beyond))

theorem live_carriedOut (sound : FlowSound s.history flow) (here : s.stage = .reading flow)
    (held : s.lock = some ⟨rows,cols,false⟩) :
    LiveWoven {s with
        stage := s.stage.withPty (s.stage.pty.resized rows cols)
        lock := some ⟨rows,cols,true⟩
        astray := s.astray ++ s.lag} {flow with pty := flow.pty.resized rows cols}
      (logged ++ [⟨flow.file.end,rows,cols⟩]) := by
  obtain ⟨tall,wide,differs⟩ := woven.lock _ held
  have file : FlowState.file {flow with pty := flow.pty.resized rows cols} = flow.file.pushResize rows cols := by
    simp only [FlowState.file,PtySide.resized,SessionInner.resized,atLeastOne_self tall,atLeastOne_self wide]
  have log : LogKept (FlowState.file {flow with pty := flow.pty.resized rows cols}) (logged ++ [⟨flow.file.end,rows,cols⟩]) := by
    rw [file]
    exact logKept_push woven.log
  have ends := flow_end sound
  have lag : s.lag = if flow.seq = flow.file.end then [] else [flow.file.end] := by rw [Life.lag,here]
  refine ⟨log,?_,woven.reach,by rw [file]; exact ⟨tall,wide⟩,woven.screen,?_,woven.below,?_⟩
  · intro entry mem
    rcases mem_append.mp mem with old | new
    · obtain ⟨short,place⟩ := woven.inside entry old
      exact ⟨short,place.imp_right (mem_append_left _)⟩
    · rw [mem_singleton.mp new]
      refine ⟨Nat.le_of_eq ends,?_⟩
      by_cases level : flow.seq = flow.file.end
      · exact .inl (Nat.le_of_eq level.symm)
      · refine .inr (mem_append_right _ ?_)
        rw [lag,if_neg level]
        exact mem_singleton_self _
  · intro lock equal
    cases equal
    exact ⟨tall,wide,differs⟩
  · intro cut mem inStep
    by_cases level : flow.seq = flow.file.end
    · obtain ⟨since,one⟩ := woven.cuts cut mem fun place old => inStep place (mem_append_left _ old)
      obtain ⟨earlier,split,low⟩ := one.split
      refine ⟨since,⟨earlier,?_,low⟩,one.rising,one.lived,one.effective⟩
      simp only [underway,held] at split
      rw [split,← level,append_nil,append_assoc]
      rfl
    · have lost : flow.file.end ∈ s.astray ++ s.lag := by
        refine mem_append_right _ ?_
        rw [lag,if_neg level]
        exact mem_singleton_self _
      have beyond := (woven.below cut mem).trans woven.reach
      rw [← ends] at beyond
      exact absurd (inStep _ lost) (Nat.not_lt.mpr beyond)

end

theorem resize_screen (records : Records r.vendor) {session : SessionState (List VtOp)}
    (differs : dims session.terminal ≠ (rows,cols)) :
    (resizeSession r.vendor session rows cols).terminal.vt = session.terminal.vt ++ [.resize rows cols] ∧
      dims (resizeSession r.vendor session rows cols).terminal = (rows,cols) := by
  have other : ¬(session.terminal.rows = rows ∧ session.terminal.cols = cols) := by
    rintro ⟨rfl,rfl⟩
    exact differs rfl
  simp only [resizeSession,TerminalState.resize,if_neg other,records.resize,dims,and_self]

theorem live_answered (records : Records r.vendor) (woven : LiveWoven s flow logged) (held : s.lock = some ⟨rows,cols,true⟩) :
    LiveWoven {s with stage := .reading {flow with session := resizeSession r.vendor flow.session rows cols},lock := none}
      {flow with session := resizeSession r.vendor flow.session rows cols} logged := by
  obtain ⟨tall,wide,differs⟩ := woven.lock _ held
  obtain ⟨vt,size⟩ := resize_screen records differs
  have seq : (resizeSession r.vendor flow.session rows cols).terminal.outputSeq = flow.session.terminal.outputSeq :=
    resizeSession_seq _ _ _ _
  refine ⟨woven.log,?_,?_,woven.sized,?_,fun _ held => (by cases held),?_,?_⟩
  · intro entry mem
    simp only [FlowState.seq,seq]
    exact woven.inside entry mem
  · simp only [FlowState.seq,seq]
    exact woven.reach
  · exact ⟨fun zero => tall ((congrArg Prod.fst size).symm.trans zero),fun zero => wide ((congrArg Prod.snd size).symm.trans zero)⟩
  · simp only [FlowState.seq,seq]
    exact woven.below
  · intro cut mem inStep
    obtain ⟨_,one⟩ := woven.cuts cut mem inStep
    simp only [underway,held] at one
    exact ⟨_,cutWoven_resized one differs seq size vt⟩

end Resize

section Down
variable {r : Replacement (List VtOp)} {s : Life (List VtOp)} {file : SessionFile}

theorem live_crashed (woven : LiveWoven s flow logged)
    (aligned : ∀ cut ∈ s.cuts, flow.file.checkpoint = some cut.checkpoint.outputSeq → Aligned s flow cut.checkpoint.outputSeq) :
    DownWoven s.history flow.file flow s.cuts logged := by
  refine {woven with inside := fun entry mem => (woven.inside entry mem).1,cuts := ?_}
  intro cut mem stored
  have good := aligned cut mem stored
  obtain ⟨since,one⟩ := woven.cuts cut mem good.inStep
  have waiting : underway s flow = [] := by
    unfold underway
    split
    · rename_i held
      cases good.settled _ held
    · rfl
  rw [waiting] at one
  exact ⟨good.size,good.retained,since,one⟩

theorem down_frame (down : DownWoven history file flow taken logged)
    (same : after.resizes = file.resizes ∧ after.rows = file.rows ∧ after.cols = file.cols ∧ after.checkpoint = file.checkpoint) :
    DownWoven (history ++ more) after flow taken logged := by
  obtain ⟨resizes,rows,cols,checkpoint⟩ := same
  have longer : history.length ≤ (history ++ more).length := by rw [length_append]; exact Nat.le_add_right _ _
  refine ⟨by simpa only [LogKept,resizes] using down.log,fun entry mem => (down.inside entry mem).trans longer,
    down.reach.trans longer,by rw [rows,cols]; exact down.sized,?_⟩
  intro cut mem stored
  obtain ⟨size,retained,since,one⟩ := down.cuts cut mem (checkpoint ▸ stored)
  refine ⟨by rw [size,fileDims,fileDims,rows,cols],by simpa only [Retained,resizes] using retained,since,
    cutWoven_more one down.reach⟩

theorem down_since (down : DownWoven history file flow taken logged) (mem : old ∈ taken)
    (stored : file.checkpoint = some old.checkpoint.outputSeq) :
    Rising flow.seq old.checkpoint.outputSeq (sinceCut file old.checkpoint.outputSeq) ∧ flow.session.terminal.vt = old.vt ++
        weave history flow.seq old.checkpoint.outputSeq (sinceCut file old.checkpoint.outputSeq) ∧
      Effective (old.checkpoint.rows,old.checkpoint.cols) (sinceCut file old.checkpoint.outputSeq) (fileDims file) ∧
      ∃ front, file.resizes = front ++ sinceCut file old.checkpoint.outputSeq ∧
        ∀ entry ∈ front, entry.offset < old.checkpoint.outputSeq := by
  obtain ⟨size,retained,_,one⟩ := down.cuts _ mem stored
  obtain ⟨_,split,low⟩ := one.split
  rw [append_nil] at split
  obtain ⟨same,front⟩ := retained_since down.log retained split low (cutWoven_above one)
  rw [same,← size]
  exact ⟨one.rising,one.lived,one.effective,front⟩

theorem listed_frame (listed : ListedWoven history file info flow taken restored logged phase)
    (down : DownWoven history file flow taken logged)
    (same : after.resizes = file.resizes ∧ after.rows = file.rows ∧ after.cols = file.cols ∧ after.checkpoint = file.checkpoint) :
    ListedWoven (history ++ more) after info flow taken restored logged phase := by
  obtain ⟨resizes,rows,cols,checkpoint⟩ := same
  have since : ∀ offset, sinceCut after offset = sinceCut file offset := fun _ => by simp only [sinceCut,resizes]
  refine ⟨⟨listed.reach.1,listed.reach.2.trans ?_⟩,listed.inside,by rw [listed.size,fileDims,fileDims,rows,cols],
    by rw [checkpoint]; exact listed.known,?_⟩
  · rw [length_append]
    exact Nat.le_add_right _ _
  · have inside := listed.reach.2
    -- More output does not change what lies before the target.
    have stable : phase ≠ .listed → ∀ cut ∈ restored,
        weave (history ++ more) info.outputOffset cut.checkpoint.outputSeq (sinceCut after cut.checkpoint.outputSeq) =
          weave history info.outputOffset cut.checkpoint.outputSeq (sinceCut file cut.checkpoint.outputSeq) := by
      intro begun cut mem
      obtain ⟨⟨_,inTaken,equal⟩,stored⟩ := listed.known begun cut mem
      rw [← equal] at stored ⊢
      rw [since]
      exact weave_more (rising_extend (down_since down inTaken stored).1 listed.reach.1) inside
    have was := listed.phase
    cases phase with
    | listed => exact True.intro
    | restored rebuild => exact was
    | replaying rebuild =>
      intro cut mem
      obtain ⟨rising,effective,left⟩ := was cut mem
      refine ⟨rising,effective,?_⟩
      rw [stable nofun cut mem,weave_more rising inside]
      exact left
    | rebuilt rebuild =>
      refine ⟨was.1,?_⟩
      intro cut mem
      rw [stable nofun cut mem]
      exact was.2 cut mem

theorem blob_woven :
    PhaseWoven history file info (s.restoredCuts r info checkpoint) (.restored (r.restore info checkpoint)) := by
  intro cut mem
  cases checkpoint with
  | none => cases mem
  | some checkpoint =>
    simp only [Life.restoredCuts] at mem
    split at mem
    · rw [mem_singleton.mp mem]
      exact ⟨rfl,rfl,rfl⟩
    · cases mem

theorem restoredCuts_known (crashed : s.crashed = some (flow,taken))
    (usable : ∀ checkpoint, found = some checkpoint → file.checkpoint = some checkpoint.outputSeq) :
    ∀ cut ∈ s.restoredCuts r info found, (∃ old ∈ taken, old.checkpoint = cut.checkpoint) ∧
      file.checkpoint = some cut.checkpoint.outputSeq := by
  intro cut mem
  cases found with
  | none => cases mem
  | some checkpoint =>
    simp only [Life.restoredCuts,crashed,map_some,getD_some] at mem
    split at mem
    · rename_i among
      obtain ⟨old,inTaken,equal⟩ := mem_map.mp among
      rw [mem_singleton.mp mem]
      exact ⟨⟨old,inTaken,equal⟩,usable checkpoint rfl⟩
    · cases mem

-- The resizes due at a cursor are taken off the front of what is left to do.
theorem apply_woven (records : Records r.vendor) (history : Bytes) (session : SessionState (List VtOp))
    (rising : Rising target cursor entries) (effective : Effective (dims session.terminal) entries last) :
    (applyResizes r.vendor cursor session entries).1.terminal.vt ++
        weave history target cursor (applyResizes r.vendor cursor session entries).2 =
      session.terminal.vt ++ weave history target cursor entries ∧
    Rising target cursor (applyResizes r.vendor cursor session entries).2 ∧
    Effective (dims (applyResizes r.vendor cursor session entries).1.terminal)
      (applyResizes r.vendor cursor session entries).2 last := by
  induction entries generalizing session with
  | nil => exact ⟨rfl,rising,effective⟩
  | cons entry rest ih =>
    simp only [applyResizes]
    split
    · rename_i due
      have here : entry.offset = cursor := Nat.le_antisymm due rising.1
      obtain ⟨vt,size⟩ := resize_screen records effective.1
      obtain ⟨left,rises,stays⟩ := ih (resizeSession _ session _ _) (here ▸ rising.2)
        (by rw [size]; exact effective.2)
      refine ⟨?_,rises,stays⟩
      rw [left,vt]
      simp only [weave,here,between_self,nil_append,append_assoc,List.singleton_append]
    · exact ⟨rfl,rising,effective⟩

theorem stop_before (info : PtydSessionInfo) (entries : List PtydResizeEntry) :
    ∀ entry ∈ entries.head?, Replacement.stop info entries ≤ entry.offset := by
  intro entry head
  cases entries with
  | nil => cases head
  | cons first rest =>
    cases head
    exact Nat.min_le_left _ _

theorem blanked_dims (r : Replacement V) :
    dims (r.blanked info rebuild).session.terminal = (info.rows,info.cols) := rfl

theorem read_woven (records : Records r.vendor) (represents : Represents file history)
    (woven : PhaseWoven history file info s.cuts (.replaying rebuild)) (answered : Bool) (pty : PtySide) :
    PhaseWoven history file info (s.keptCuts (.recovering pty info (r.read info file answered rebuild)))
      (r.read info file answered rebuild) := by
  rcases read_outcome with ⟨after,replied⟩ | failed
  · rw [replied]
    obtain ⟨data,filled,rfl,content,short⟩ := read_feeds represents replied
    intro cut mem
    obtain ⟨rising,effective,left⟩ := woven cut mem
    obtain ⟨due,rises,stays⟩ := apply_woven records history _ rising effective
    have ahead := stop_before info (applyResizes r.vendor rebuild.cursor rebuild.session rebuild.resizes).2
    have below := stop_le info (applyResizes r.vendor rebuild.cursor rebuild.session rebuild.resizes).2
    generalize applyResizes r.vendor rebuild.cursor rebuild.session rebuild.resizes = applied at *
    have first : rebuild.cursor ≤ rebuild.cursor + data.length := Nat.le_add_right _ _
    have inside : rebuild.cursor + data.length ≤ info.outputOffset := short.trans below
    have before : ∀ entry ∈ applied.2.head?, rebuild.cursor + data.length ≤ entry.offset :=
      fun entry head => short.trans (ahead entry head)
    obtain ⟨⟨_,vt⟩,rows,cols⟩ := sessionFeed_screen _ filled
    refine ⟨rising_advance rises inside before,?_,?_⟩
    · rw [dims,rows,cols]
      exact stays
    · rw [left,← due,weave_advance first inside before,between_taken filled content,vt,records.feed,append_assoc]
  · rw [failed]
    exact ⟨blanked_dims r,fun _ mem => (by cases mem)⟩

theorem foldl_woven (records : Records r.vendor) (session : SessionState (List VtOp))
    (rising : Rising target target entries) (effective : Effective (dims session.terminal) entries last) :
    (entries.foldl (fun session entry => resizeSession r.vendor session entry.rows entry.cols) session).terminal.vt =
        session.terminal.vt ++ weave history target target entries ∧
      dims (entries.foldl (fun session entry => resizeSession r.vendor session entry.rows entry.cols) session).terminal = last := by
  induction entries generalizing session with
  | nil => exact ⟨by simp [weave],effective⟩
  | cons entry rest ih =>
    have here : entry.offset = target := Nat.le_antisymm (rising_le rising.2) rising.1
    obtain ⟨vt,size⟩ := resize_screen records effective.1
    obtain ⟨lived,ends⟩ := ih (resizeSession _ session _ _) (here ▸ rising.2)
      (by rw [size]; exact effective.2)
    refine ⟨?_,ends⟩
    rw [List.foldl_cons,lived,vt]
    simp only [weave,here,between_self,nil_append,append_assoc,List.singleton_append]

theorem sized_dims (r : Replacement V) :
    dims (r.sized info session).terminal = (info.rows,info.cols) ∧
      (dims session.terminal = (info.rows,info.cols) → (r.sized info session).terminal.vt = session.terminal.vt) := by
  by_cases same : session.terminal.rows = info.rows ∧ session.terminal.cols = info.cols
  · have kept : r.sized info session = session := by
      unfold Replacement.sized
      rw [if_neg]
      rintro (rows | cols)
      · exact rows same.1
      · exact cols same.2
    rw [kept]
    exact ⟨Prod.ext same.1 same.2,fun _ => rfl⟩
  · have moved : session.terminal.rows ≠ info.rows ∨ session.terminal.cols ≠ info.cols := not_and_or.mp same
    refine ⟨?_,fun equal => absurd ⟨congrArg Prod.fst equal,congrArg Prod.snd equal⟩ same⟩
    simp only [Replacement.sized,if_pos moved,resizeSession,TerminalState.resize,if_neg same,dims]

theorem replayed_woven (records : Records r.vendor) (cuts : List (Cut (List VtOp)))
    (woven : PhaseWoven history file info cuts (.replaying rebuild)) (done : rebuild.cursor = info.outputOffset) :
    PhaseWoven history file info cuts (.rebuilt (r.replayed info rebuild)) := by
  refine ⟨(sized_dims r).1,?_⟩
  intro cut mem
  obtain ⟨rising,effective,left⟩ := woven cut mem
  rw [done] at rising left
  obtain ⟨lived,size⟩ := foldl_woven records _ rising effective
  show (r.sized info _).terminal.vt = _
  rw [(sized_dims r).2 size,lived,left]

theorem replay_woven (records : Records r.vendor) (represents : Represents file history)
    (woven : PhaseWoven history file info s.cuts (.replaying rebuild)) (pty : PtySide)
    (replied : r.read info file true rebuild = .replaying later) (finished : later.cursor = info.outputOffset) :
    PhaseWoven history file info s.cuts (.rebuilt (r.replayed info later)) := by
  have after := read_woven records represents woven true pty
  rw [replied] at after
  exact replayed_woven records _ after finished

end Down

section Run
variable {r : Replacement (List VtOp)} {s : Life (List VtOp)}

theorem registered_woven (down : DownWoven s.history pty.inner.file flow taken logged)
    (listed : ListedWoven s.history pty.inner.file info flow taken s.cuts logged (.rebuilt rebuild))
    (position : rebuild.session.terminal.outputSeq = info.outputOffset) (free : s.lock = none) :
    LiveWoven {s with stage := .reading (rebuild.start pty)} (rebuild.start pty) pty.inner.file.resizes := by
  have seq : (rebuild.start pty).seq = info.outputOffset := position
  have size : dims rebuild.session.terminal = fileDims pty.inner.file := listed.phase.1.trans listed.size
  have known := listed.known nofun
  have waiting : underway {s with stage := .reading (rebuild.start pty)} (rebuild.start pty) = [] := by
    simp only [underway,free]
  have among : ∀ entry ∈ pty.inner.file.resizes, entry ∈ logged := by
    obtain ⟨_,parts,_⟩ := down.log
    intro entry mem
    rw [parts]
    exact mem_append_right _ mem
  refine ⟨⟨[],rfl,.inl rfl⟩,?_,by rw [seq]; exact listed.reach.2,down.sized,?_,?_,?_,?_⟩
  · intro entry mem
    have inside := listed.inside entry (among entry mem)
    exact ⟨inside.trans listed.reach.2,.inl (inside.trans (Nat.le_of_eq seq.symm))⟩
  · have rows : rebuild.session.terminal.rows = pty.inner.file.rows := congrArg Prod.fst size
    have cols : rebuild.session.terminal.cols = pty.inner.file.cols := congrArg Prod.snd size
    show rebuild.session.terminal.rows ≠ 0 ∧ rebuild.session.terminal.cols ≠ 0
    rw [rows,cols]
    exact down.sized
  · intro lock held
    cases free.symm.trans held
  · intro cut mem
    obtain ⟨⟨old,inTaken,equal⟩,stored⟩ := known cut mem
    rw [seq,← equal]
    rw [← equal] at stored
    exact (rising_le (down_since down inTaken stored).1).trans listed.reach.1
  · intro cut mem _
    obtain ⟨⟨_,inTaken,equal⟩,stored⟩ := known cut mem
    rw [← equal] at stored
    obtain ⟨rising,_,effective,front,parts,low⟩ := down_since down inTaken stored
    rw [equal] at rising effective parts low
    rw [waiting]
    refine ⟨sinceCut _ _,⟨front,by rw [append_nil]; exact parts,low⟩,?_,?_,?_⟩
    · show Rising rebuild.session.terminal.outputSeq _ _
      rw [position]
      exact rising_extend rising listed.reach.1
    · show rebuild.session.terminal.vt = cut.vt ++ weave s.history rebuild.session.terminal.outputSeq _ _
      rw [position]
      exact listed.phase.2 cut mem
    · show Effective _ _ (dims rebuild.session.terminal)
      rw [size]
      exact effective

theorem shell_woven (woven : Woven s) (more : Bytes)
    (same : after.inner.file.resizes = s.stage.pty.inner.file.resizes ∧ after.inner.file.rows = s.stage.pty.inner.file.rows ∧
      after.inner.file.cols = s.stage.pty.inner.file.cols ∧
      after.inner.file.checkpoint = s.stage.pty.inner.file.checkpoint)
    (reads : ∀ flow, s.stage = .reading flow → ∃ later, stage = .reading later ∧ later.session = flow.session ∧ later.pty = after)
    (waits : s.reading = none → stage = s.stage.withPty after) :
    Woven {s with stage := stage,history := s.history ++ more} := by
  unfold Woven at woven
  cases here : s.stage with
  | reading flow =>
    rw [here] at woven same
    obtain ⟨logged,live⟩ := woven
    obtain ⟨_,rfl,session,equal⟩ := reads flow here
    refine ⟨logged,live_frame live (congrArg SessionState.terminal session) ?_ ⟨rfl,rfl,rfl⟩ rfl⟩
    rw [FlowState.file,equal]
    exact ⟨same.1,same.2.1,same.2.2.1⟩
  | recovering pty info phase =>
    have moved := waits (by rw [Life.reading,here])
    rw [here] at woven same moved
    obtain ⟨flow,taken,logged,crashed,down,listed⟩ := woven
    rw [moved]
    exact ⟨flow,taken,logged,crashed,down_frame down same,listed_frame listed down same⟩
  | exited | abandoned =>
    have moved := waits (by rw [Life.reading,here])
    rw [here] at woven same moved
    obtain ⟨flow,taken,logged,crashed,down⟩ := woven
    rw [moved]
    exact ⟨flow,taken,logged,crashed,down_frame down same⟩

theorem crash_woven (woven : Woven s) (orderly : Orderly r s .crash) : Woven s.crash := by
  unfold Woven at woven
  have orderly : ∀ flow, s.stage = .reading flow → ∀ cut ∈ s.cuts,
      flow.file.checkpoint = some cut.checkpoint.outputSeq → Aligned s flow cut.checkpoint.outputSeq := orderly
  cases here : s.stage with
  | reading flow =>
    rw [here] at woven
    obtain ⟨logged,live⟩ := woven
    refine ⟨flow,s.cuts,logged,?_,?_⟩
    · simp only [Life.crash,Life.reading,here,map_some,some_or]
    · simp only [Life.crash,here]
      exact live_crashed live (orderly flow here)
  | recovering pty info phase =>
    rw [here] at woven
    obtain ⟨flow,taken,logged,crashed,down,_⟩ := woven
    refine ⟨flow,taken,logged,?_,?_⟩
    · simp only [Life.crash,Life.reading,here,map_none,none_or,crashed]
    · simp only [Life.crash,here]
      exact down
  | exited | abandoned =>
    rw [here] at woven
    obtain ⟨flow,taken,logged,crashed,down⟩ := woven
    refine ⟨flow,taken,logged,?_,?_⟩
    · simp only [Life.crash,Life.reading,here,map_none,none_or,crashed]
    · simp only [Life.crash,here]
      exact down

theorem live_late (woven : LiveWoven s flow logged) (sound : FlowSound s.history flow) (here : s.stage = .reading flow)
    (index : Nat) (rows cols : UInt16) :
    ∃ logged, LiveWoven {s with
        stage := s.stage.withPty (s.stage.pty.resized rows cols)
        overdue := s.overdue.eraseIdx index
        astray := s.astray ++ [s.stage.pty.inner.file.end]} {flow with pty := flow.pty.resized rows cols} logged := by
  have ends := flow_end sound
  have last : s.stage.pty.inner.file.end = flow.file.end := by rw [here]; rfl
  have lost : flow.file.end ∈ s.astray ++ [s.stage.pty.inner.file.end] := by
    rw [last]
    exact mem_append_right _ (mem_singleton_self _)
  refine ⟨_,live_astray woven rfl (logKept_push woven.log) ?_
    ⟨atLeastOne_ne_zero,atLeastOne_ne_zero⟩ lost (ends ▸ woven.reach)
    (fun _ old => mem_append_left _ old) (.inl rfl) ⟨rfl,rfl⟩⟩
  intro entry mem
  rw [mem_singleton.mp mem]
  exact ⟨Nat.le_of_eq ends,.inr lost⟩

theorem resized_woven (down : DownWoven history file flow taken logged)
    (listed : ListedWoven history file info flow taken restored logged (.restored rebuild))
    (supported : r.supports "resizes" = true) :
    PhaseWoven history file info restored (.replaying (r.resized file true rebuild)) := by
  intro cut mem
  obtain ⟨cursor,vt,size⟩ := listed.phase cut mem
  obtain ⟨⟨_,inTaken,equal⟩,stored⟩ := listed.known nofun cut mem
  rw [← equal] at stored
  obtain ⟨rising,_,effective,_⟩ := down_since down inTaken stored
  rw [equal] at rising effective
  have resizes : (r.resized file true rebuild).resizes = sinceCut file cut.checkpoint.outputSeq := by
    simp only [Replacement.resized,supported,Bool.and_self,if_true,cursor,sinceCut]
  have kept : (r.resized file true rebuild).cursor = cut.checkpoint.outputSeq := cursor
  rw [resizes,kept]
  refine ⟨rising_extend rising listed.reach.1,?_,?_⟩
  · show Effective (dims rebuild.session.terminal) _ _
    rw [size,listed.size]
    exact effective
  · show _ = rebuild.session.terminal.vt ++ _
    rw [vt]

section
variable (woven : Woven s)
include woven

theorem woven_reading (here : s.stage = .reading flow) : ∃ logged, LiveWoven s flow logged := by
  unfold Woven at woven
  rw [here] at woven
  exact woven

theorem woven_recovering (here : s.stage = .recovering pty info phase) :
    ∃ flow taken logged, s.crashed = some (flow,taken) ∧ DownWoven s.history pty.inner.file flow taken logged ∧
      ListedWoven s.history pty.inner.file info flow taken s.cuts logged phase := by
  unfold Woven at woven
  rw [here] at woven
  exact woven

theorem reading_woven (here : s.stage = .reading flow)
    (stage : next.stage = .reading after) (terminal : after.session.terminal = flow.session.terminal)
    (file : after.file.resizes = flow.file.resizes ∧ after.file.rows = flow.file.rows ∧ after.file.cols = flow.file.cols)
    (same : next.lock = s.lock ∧ next.astray = s.astray ∧ next.cuts = s.cuts) (history : next.history = s.history) :
    Woven next := by
  obtain ⟨logged,live⟩ := woven_reading woven here
  unfold Woven
  rw [stage]
  exact ⟨logged,live_frame live terminal file same (history.trans (append_nil _).symm)⟩

theorem givenUp_woven (here : s.stage = .reading flow) (held : s.lock = some lock) :
    Woven {s with lock := none,overdue := s.overdue ++ Life.unanswered (some lock),astray := s.astray ++ s.forgone lock} := by
  obtain ⟨logged,live⟩ := woven_reading woven here
  simp only [here]
  obtain ⟨rows,cols,carriedOut⟩ := lock
  cases carriedOut with
  | false =>
    refine ⟨logged,live_released live (by simp only [underway,held]) rfl ⟨rfl,?_,rfl⟩⟩
    exact append_nil _
  | true =>
    have lost : flow.seq ∈ s.astray ++ s.forgone ⟨rows,cols,true⟩ := by
      refine mem_append_right _ ?_
      simp [Life.forgone,Life.reading,here]
    refine ⟨logged ++ [],live_astray live rfl (by rw [append_nil]; exact live.log) (List.forall_mem_nil _) live.sized lost
      (Nat.le_refl _) (fun _ old => mem_append_left _ old) (.inr rfl) ⟨rfl,rfl⟩⟩

theorem restored_woven (here : s.stage = .recovering pty info .listed)
    (moved : recoveryStep r (.recovering pty info .listed) (.blob answered) = some after) :
    Woven {s with
      stage := after
      cuts := s.restoredCuts r info
        (if r.supports "blob" && answered then r.checkpoint info pty.inner.file.blob else none)} := by
  obtain ⟨flow,taken,logged,crashed,down,listed⟩ := woven_recovering woven here
  simp only [recoveryStep] at moved
  split at moved
  · cases moved
    exact ⟨flow,taken,logged,crashed,down⟩
  · cases moved
    refine ⟨flow,taken,logged,crashed,down,listed.reach,listed.inside,listed.size,fun _ => ?_,blob_woven⟩
    refine restoredCuts_known crashed ?_
    intro checkpoint found
    split at found
    · exact (checkpoint_of_stored found).1
    · cases found

end

theorem lifeStep_woven (records : Records r.vendor) (sound : LifeSound s) (woven : Woven s)
    (orderly : Orderly r s action) (step : lifeStep r s action = some next) : Woven next := by
  have whole := sound.stage
  cases lifeStep_move step with
  | shell own moved =>
    have file := ofShell_file own moved
    have kept := shell_woven woven [] (by rw [file]; exact ⟨rfl,rfl,rfl,rfl⟩) (fun _ here => withPty_waits here) (fun _ => rfl)
    rwa [append_nil] at kept
  | @printed piece pty appended =>
    obtain ⟨_,_,_,_,file,_⟩ := ptyAppend_parts appended
    refine shell_woven woven _ (by rw [file]; exact ⟨rfl,rfl,rfl,rfl⟩) ?_ ?_
    · intro flow here
      exact ⟨flow.appended piece pty,by rw [here]; rfl,rfl,rfl⟩
    · intro off
      cases here : s.stage with
      | reading flow => simp only [Life.reading,here,reduceCtorEq] at off
      | _ => rfl
  | flowed here clerical moved =>
    obtain ⟨session,_,resizes,rows,cols,_⟩ := clerical_parts clerical moved
    exact reading_woven woven here rfl (congrArg SessionState.terminal session) ⟨resizes,rows,cols⟩ ⟨rfl,rfl,rfl⟩ rfl
  | fed here free idle joined =>
    obtain ⟨logged,live⟩ := woven_reading woven here
    rw [here] at whole
    exact ⟨logged,fed_woven records live whole free idle joined⟩
  | @attached flow request answers here free =>
    obtain ⟨stage,history,lock,cuts,astray,_⟩ := attached_stage
    exact reading_woven woven here stage (attach_terminal _ _ _ _) ⟨rfl,rfl,rfl⟩ ⟨lock,astray,cuts⟩ history
  | clerk here free clerical =>
    exact reading_woven woven here rfl (clerk_terminal _ _ clerical) ⟨rfl,rfl,rfl⟩ ⟨rfl,rfl,rfl⟩ rfl
  | @resize flow rows cols here free =>
    obtain ⟨logged,live⟩ := woven_reading woven here
    have kept := live_locked live free (clampDim_ne_zero rows live.screen.1) (clampDim_ne_zero cols live.screen.2)
    unfold Woven
    rw [show (s.resizeLocked flow _ _).stage = .reading flow by unfold Life.resizeLocked; split <;> exact here]
    exact ⟨logged,kept⟩
  | resizeCarriedOut held =>
    obtain ⟨flow,here⟩ := sound.locked (by simp [held])
    obtain ⟨logged,live⟩ := woven_reading woven here
    have kept := live_carriedOut live (by rw [here] at whole; exact whole) here held
    simp only [here,withPty,RecoveryState.pty] at kept ⊢
    exact ⟨_,kept⟩
  | resizeAnswered here held =>
    obtain ⟨logged,live⟩ := woven_reading woven here
    exact ⟨logged,live_answered records live held⟩
  | resizeRefused held =>
    obtain ⟨flow,here⟩ := sound.locked (by simp [held])
    obtain ⟨logged,live⟩ := woven_reading woven here
    simp only [here]
    exact ⟨logged,live_released live (by simp only [underway,held]) rfl ⟨rfl,rfl,rfl⟩⟩
  | resizeGivenUp held =>
    obtain ⟨flow,here⟩ := sound.locked (by simp [held])
    exact givenUp_woven woven here held
  | @resizeLate index rows cols sent =>
    obtain ⟨flow,here⟩ : ∃ flow, s.stage = .reading flow := orderly
    obtain ⟨logged,live⟩ := woven_reading woven here
    have kept := live_late live (by rw [here] at whole; exact whole) here index rows cols
    simp only [here,withPty,RecoveryState.pty] at kept ⊢
    exact kept
  | crash => exact crash_woven woven orderly
  | @list pty sessionId here =>
    unfold Woven at woven
    rw [here] at woven whole
    obtain ⟨flow,taken,logged,crashed,down⟩ := woven
    have ends : pty.inner.file.end = s.history.length := Represents.ends whole
    refine ⟨flow,taken,logged,crashed,down,⟨?_,Nat.le_of_eq ends⟩,?_,rfl,fun begun => absurd rfl begun,True.intro⟩
    · exact down.reach.trans (Nat.le_of_eq ends.symm)
    · intro entry mem
      exact (down.inside entry mem).trans (Nat.le_of_eq ends.symm)
  | blob here moved => exact restored_woven woven here moved
  | @resizes pty info rebuild answered here =>
    obtain ⟨supported,rfl⟩ : r.supports "resizes" = true ∧ answered = true := orderly
    obtain ⟨flow,taken,logged,crashed,down,listed⟩ := woven_recovering woven here
    exact ⟨flow,taken,logged,crashed,down,listed.reach,listed.inside,listed.size,fun _ => listed.known nofun,
      resized_woven down listed supported⟩
  | @read pty info rebuild answered here more =>
    obtain ⟨flow,taken,logged,crashed,down,listed⟩ := woven_recovering woven here
    rw [here] at whole
    refine ⟨flow,taken,logged,crashed,down,listed.reach,listed.inside,listed.size,?_,
      read_woven records whole.2 listed.phase answered pty⟩
    intro _ cut mem
    exact listed.known nofun cut (keptCuts_subset mem)
  | @replayed pty info rebuild here done =>
    obtain ⟨flow,taken,logged,crashed,down,listed⟩ := woven_recovering woven here
    rw [here] at whole
    have finished : rebuild.cursor = info.outputOffset :=
      Nat.le_antisymm whole.1.phase.inside (Nat.not_lt.mp done)
    exact ⟨flow,taken,logged,crashed,down,listed.reach,listed.inside,listed.size,fun _ => listed.known nofun,
      replayed_woven records s.cuts listed.phase finished⟩
  | @register pty info rebuild opened here =>
    obtain ⟨flow,taken,logged,crashed,down,listed⟩ := woven_recovering woven here
    have free := unlocked sound (by rw [Life.reading,here])
    rw [here] at whole
    obtain ⟨rebuilding,finished⟩ := whole.1.phase
    cases opened with
    | true => exact ⟨_,registered_woven down listed (rebuilding.position.trans finished) free⟩
    | false => exact ⟨flow,taken,logged,crashed,down⟩

def InOrder (s : Life (List VtOp)) : Prop := LifeSound s ∧ Woven s

theorem start_woven : Woven (Life.start r rows cols label pair pid now) := by
  have tall : clampDim rows 24 ≠ 0 := clampDim_ne_zero rows (by decide)
  have wide : clampDim cols 80 ≠ 0 := clampDim_ne_zero cols (by decide)
  exact ⟨[],⟨[],rfl,.inl rfl⟩,nofun,Nat.le_refl _,⟨tall,wide⟩,⟨tall,wide⟩,nofun,nofun,nofun⟩

theorem inOrder_rebuilt (valid : InOrder s) : RebuiltInOrder s := by
  intro pty info rebuild flow cuts here died restored mem taken inCuts same
  obtain ⟨_,_,_,crashed,down,listed⟩ := woven_recovering valid.2 here
  obtain ⟨rfl,rfl⟩ := Prod.mk.inj (Option.some.inj (crashed.symm.trans died))
  obtain ⟨_,stored⟩ := listed.known nofun restored mem
  rw [same] at stored
  obtain ⟨rising,lived,_⟩ := down_since down inCuts stored
  refine ⟨weave _ _ _ (sinceCut _ _),lived,?_,?_⟩
  · rw [listed.phase.2 restored mem,same,weave_extend rising listed.reach.1]
  · rw [listed.phase.1,listed.size]
    exact (down.cuts taken inCuts stored).1.symm

theorem rebuild_in_order (records : Records r.vendor) (rows cols : Nat) (label : String) (pair : PtyPair) (pid : Int) (now : Nat)
    (actions : List (LifeAction (List VtOp)))
    (orderly : (lifeMachine r).Along (Orderly r) (Life.start r rows cols label pair pid now) actions) :
    (lifeMachine r).Throughout RebuiltInOrder (Life.start r rows cols label pair pid now) actions := by
  have start : InOrder (Life.start r rows cols label pair pid now) :=
    ⟨start_sound rows cols label pair pid now,start_woven⟩
  refine throughout_of_along (fun _ => inOrder_rebuilt) ?_ start orderly
  intro s action next valid allowed step
  exact ⟨lifeStep_sound s _ next valid.1 step,lifeStep_woven records valid.1 valid.2 allowed step⟩

end Run

-- It renders nothing, so plain text has one checkpoint, and its header is the only one read.
def recorder : Replacement (List VtOp) :=
  ⟨⟨fun _ _ _ => [],fun vt bytes _ => vt ++ bytes.map .byte,fun vt rows cols => vt ++ [.resize rows cols],
      fun _ _ => ⟨none,[]⟩,fun _ => none⟩,
    fun _ => true,
    fun header =>
      if header = plainCheckpoint.header then
        some ⟨checkpointFormatVersion,2097152,24,80,"",⟨false,false,0,0,none⟩,false,0,0⟩
      else none,
    fun _ => "",1000⟩

theorem recorder_records : Records recorder.vendor := ⟨fun _ _ _ => rfl,fun _ _ _ => rfl⟩

theorem recorder_reads : Checkpoint.decode recorder.header plainCheckpoint.encode = some plainCheckpoint := by decide +kernel

def recordedStart : Life (List VtOp) := .start recorder 24 80 "" shellPair 100 0

def FlowAction.inLife {V : Type} : FlowAction V → LifeAction V
  | .pty action => .shell action
  | .append => .append
  | .feed arriving => .feed arriving
  | action => .flow action

-- A life in which only the reader has moved.
open FlowAction (inLife)

structure Follows {V : Type} (s : Life V) (flow : FlowState V) : Prop where
  here : s.stage = .reading flow
  free : s.lock = none
  astray : s.astray = []
  cut : ∀ checkpoint, flow.inFlight = some checkpoint → ⟨checkpoint,flow.session.terminal.vt⟩ ∈ s.cuts

section Follows
variable {action : FlowAction V}

theorem ofReader_orderly (own : action.ofReader = true) : Orderly r s action.inLife := by
  cases action with
  | pty | append | subscribe | feed => exact True.intro
  | _ => cases own

theorem follows_step (r : Replacement V) (offered : r.supports "checkpoint" = true) (follows : Follows s flow)
    (own : action.ofReader = true) (step : flowStep r.vendor true flow action = some next) :
    ∃ after, lifeStep r s action.inLife = some after ∧ Follows after next := by
  cases flowStep_move step with
  | @pty action pty moved =>
    cases action with
    | read =>
      refine ⟨{s with stage := .reading {flow with pty := pty}},?_,{follows with here := rfl}⟩
      simp only [inLife,lifeStep,PtyAction.ofShell,if_true,follows.here,RecoveryState.pty,moved,map_some, withPty]
    | _ => cases own
  | append piece pty appended =>
    refine ⟨{s with stage := .reading (flow.appended piece pty),history := s.history ++ piece},?_,
      {follows with here := rfl}⟩
    simp only [inLife,lifeStep,follows.here,RecoveryState.pty,appended,map_some,RecoveryState.printed]
  | subscribe cursor started =>
    refine ⟨{s with stage := .reading (flow.subscribe cursor)},?_,⟨rfl,follows.free,follows.astray,?_⟩⟩
    · simp only [inLife,lifeStep,FlowAction.clerical,if_true,Life.reading,follows.here,bind_some,flowStep,started,
        map_some]
    · unfold FlowState.subscribe
      split <;> exact follows.cut
  | feed batch rest idle joined =>
    refine ⟨s.fed r flow batch rest,?_,⟨?_,follows.free,follows.astray,?_⟩⟩
    · simp only [inLife,lifeStep,Life.served,follows.free,if_true,Life.reading,follows.here,bind_some,idle,joined,
        map_some]
    · rw [Life.fed,offered]
    · intro checkpoint sent
      simp only [Life.fed,offered,sent,map_some,Option.toList_some,mem_append,mem_singleton,or_true]
  | _ => cases own

theorem follows_run (r : Replacement V) (offered : r.supports "checkpoint" = true) (follows : Follows s flow)
    (own : ∀ action ∈ actions, action.ofReader = true) (ran : (flowMachine r.vendor true).run flow actions = some next) :
    ∃ after, (lifeMachine r).run s (actions.map inLife) = some after ∧ Follows after next := by
  induction actions generalizing s flow with
  | nil =>
    cases ran
    exact ⟨s,run_nil,follows⟩
  | cons action actions ih =>
    obtain ⟨_,step,rest⟩ := run_cons_parts ran
    obtain ⟨own,owned⟩ := List.forall_mem_cons.mp own
    obtain ⟨_,went,followed⟩ := follows_step r offered follows own step
    obtain ⟨last,wentOn,ending⟩ := ih followed owned rest
    exact ⟨last,(run_cons went).trans wentOn,ending⟩

end Follows

-- The first checkpoint is stored and everything printed before it was plain.
structure Kept (s : Life (List VtOp)) (flow : FlowState (List VtOp)) : Prop
    extends PlainShell flow 2097152 (some 2097152) where
  here : s.stage = .reading flow
  free : s.lock = none
  astray : s.astray = []
  cut : ⟨plainCheckpoint,flow.session.terminal.vt⟩ ∈ s.cuts
  blob : flow.file.checkpointBlob = plainCheckpoint.encode

def printedLife (s : Life (List VtOp)) (flow : FlowState (List VtOp)) (chunk : Bytes) : Life (List VtOp) :=
  {s with stage := .reading (flow.printed chunk),history := s.history ++ chunk}

section Recorded
variable {flow : FlowState (List VtOp)}

theorem printed_run (here : s.stage = .reading flow) (caught : Caught flow printed floor) (filled : chunk ≠ [])
    (small : chunk.length ≤ readBufferBytes) (room : chunk.length ≤ flow.pty.inner.file.writeBudget) :
    (lifeMachine recorder).run s [.shell (.read chunk),.append] = some (printedLife s flow chunk) := by
  obtain ⟨holding,appended⟩ := printed_pty caught.running caught.hands filled small room
  have read : (lifeMachine recorder).step s (.shell (.read chunk)) =
      some {s with stage := .reading {flow with pty := {flow.pty with pending := chunk}}} := by
    simp only [lifeMachine,lifeStep,PtyAction.ofShell,if_true,here,RecoveryState.pty,holding,map_some,withPty]
  have append : (lifeMachine recorder).step {s with stage := .reading {flow with pty := {flow.pty with pending := chunk}}} .append =
      some (printedLife s flow chunk) := by
    simp only [lifeMachine,lifeStep,RecoveryState.pty,appended,map_some,RecoveryState.printed,FlowState.appended,
      caught.live,if_true,caught.fed,nil_append,printedLife,FlowState.printed]
  rw [run_cons read,run_cons append,run_nil]

theorem feed_one (here : s.stage = .reading flow) (free : s.lock = none) (idle : flow.inFlight = none)
    (unread : flow.unread = [chunk]) : (lifeMachine recorder).step s (.feed 0) = some (s.fed recorder flow chunk []) := by
  have joined : coalescePtyOutput 0 [chunk] = some (chunk,[]) := by simp [coalescePtyOutput,coalesceMore]
  simp only [lifeMachine,lifeStep,Life.served,free,if_true,Life.reading,here,bind_some,idle,unread,joined,map_some]

theorem stored_session : (flow.checkpointed checkpoint).settled.session = flow.session := rfl

theorem recorded_checkpoint :
    ∃ actions s flow, (lifeMachine recorder).run recordedStart actions = some s ∧ Kept s flow ∧
      ∀ action ∈ actions, ∀ s, Orderly recorder s action := by
  obtain ⟨actions,flow,ran,reader,sent,shell,blob⟩ := plain_checkpoint recorder.vendor fun _ _ => rfl
  have start : Follows recordedStart (.created recorder.vendor 24 80 1000 "" "" shellPair 100 0) := ⟨rfl,rfl,rfl,nofun⟩
  obtain ⟨s,went,follows⟩ := follows_run _ rfl start reader ran
  have heard : (lifeMachine recorder).step s (.flow .answered) =
      some {s with stage := .reading (flow.checkpointed plainCheckpoint).settled} := by
    simp only [lifeMachine,lifeStep,FlowAction.clerical,if_true,Life.reading,follows.here,bind_some,flowStep,sent,
      map_some]
  refine ⟨actions.map inLife ++ [.flow .answered],{s with stage := .reading (flow.checkpointed plainCheckpoint).settled},
    _,(run_append went).trans ((run_cons heard).trans run_nil),⟨shell,rfl,follows.free,follows.astray,by rw [stored_session]; exact follows.cut _ sent,blob⟩,
    List.forall_mem_append.mpr ⟨?_,?_⟩⟩
  · intro action mem s
    obtain ⟨own,among,rfl⟩ := mem_map.mp mem
    exact ofReader_orderly (reader own among)
  · intro action mem s
    rw [mem_singleton.mp mem]
    exact True.intro

def resizing : List (LifeAction (List VtOp)) := [.resize 30 100,.resizeCarriedOut,.resizeAnswered]

def resizedFlow (flow : FlowState (List VtOp)) : FlowState (List VtOp) :=
  {flow with pty := flow.pty.resized 30 100,session := resizeSession recorder.vendor flow.session 30 100}

theorem resizing_run (here : s.stage = .reading flow) (free : s.lock = none) (size : dims flow.session.terminal = (24,80)) :
    (lifeMachine recorder).run s resizing =
      some {s with stage := .reading (resizedFlow flow),astray := s.astray ++ s.lag} := by
  have rows : flow.session.terminal.rows = 24 := congrArg Prod.fst size
  have cols : flow.session.terminal.cols = 80 := congrArg Prod.snd size
  have tall : clampDim 30 24 = 30 := by decide
  have wide : clampDim 100 80 = 100 := by decide
  have differs : ¬((24 : UInt16) = 30 ∧ (80 : UInt16) = 100) := by decide
  have asked : (lifeMachine recorder).step s (.resize 30 100) = some {s with lock := some ⟨30,100,false⟩} := by
    simp only [lifeMachine,lifeStep,Life.served,free,if_true,Life.reading,here,map_some,Life.resizeLocked,rows,cols,
      tall,wide,if_neg differs]
  have done : (lifeMachine recorder).step {s with lock := some ⟨30,100,false⟩} .resizeCarriedOut =
      some {s with
        stage := .reading {flow with pty := flow.pty.resized 30 100}
        lock := some ⟨30,100,true⟩
        astray := s.astray ++ s.lag} := by
    simp only [lifeMachine,lifeStep,here,RecoveryState.pty,withPty,Life.lag]
  have heard : (lifeMachine recorder).step {s with
        stage := .reading {flow with pty := flow.pty.resized 30 100}
        lock := some ⟨30,100,true⟩
        astray := s.astray ++ s.lag} .resizeAnswered =
      some {s with stage := .reading (resizedFlow flow),astray := s.astray ++ s.lag} := by
    simp only [lifeMachine,lifeStep,Life.reading,map_some,resizedFlow,free]
  rw [resizing,run_cons asked,run_cons done,run_cons heard,run_nil]

theorem resizedFlow_file : (resizedFlow flow).file = flow.file.pushResize 30 100 := rfl

-- Right before the crash: one byte and one resize since the checkpoint.
structure Struck (s : Life (List VtOp)) (flow : FlowState (List VtOp)) (offset : Nat) (ops : List VtOp) : Prop where
  here : s.stage = .reading flow
  free : s.lock = none
  running : flow.pty.Running
  spawned : flow.pty.inner.pid = some 100
  ends : flow.file.end = 2097153
  blob : flow.file.blob = some (2097152,plainCheckpoint.encode)
  resizes : flow.file.resizes = [⟨offset,30,100⟩]
  size : fileDims flow.file = (30,100)
  screen : dims flow.session.terminal = (30,100)
  seq : flow.seq = 2097153
  cuts : ∃ vt, ⟨plainCheckpoint,vt⟩ ∈ s.cuts ∧ flow.session.terminal.vt = vt ++ ops
  content : between s.history 2097152 2097153 = [.byte 0x61]

theorem kept_room (kept : Kept s flow) : (plainText 1).length ≤ flow.pty.inner.file.writeBudget :=
  floor_room kept.toCaught (by decide) (by decide)

theorem kept_blob (kept : Kept s flow) : flow.file.blob = some (2097152,plainCheckpoint.encode) := by
  rw [SessionFile.blob,kept.checkpoint,kept.blob]
  rfl

theorem kept_size (kept : Kept s flow) : dims flow.session.terminal = (24,80) :=
  Prod.ext kept.plain.size.1 kept.plain.size.2

theorem pushed_resizes {file : SessionFile} (empty : file.resizes = []) :
    (file.pushResize 30 100).resizes = [⟨file.end,30,100⟩] := by
  simp only [SessionFile.pushResize,empty]
  rfl

theorem fed_early (nonempty : batch ≠ []) (rest : List Bytes)
    (early : flow.seq + batch.length - flow.lastCheckpointSeq < checkpointIntervalBytes) :
    flow.readerBatch recorder.vendor (recorder.supports "checkpoint") batch rest =
      {flow with unread := rest,session := (flow.session.feed recorder.vendor batch).1} := by
  rcases readerBatch_cases recorder.vendor (recorder.supports "checkpoint") flow nonempty with ⟨_,_,_,_,due⟩ | ⟨equal,_⟩
  · exact absurd due.interval (Nat.not_le.mpr early)
  · exact equal

theorem kept_content (sound : LifeSound s) (kept : Kept s flow) :
    between (s.history ++ plainText 1) 2097152 2097153 = [.byte 0x61] := by
  have whole := sound.stage
  rw [kept.here] at whole
  have length : s.history.length = 2097152 := (flow_end whole).symm.trans kept.ends
  have all : (s.history ++ plainText 1).length ≤ 2097153 := by rw [length_append,length,plainText_length]
  rw [between,List.take_of_length_le all,← length,List.drop_left]
  rfl

theorem struck_fed {resized : FlowState (List VtOp)} (here : s.stage = .reading resized)
    (free : s.lock = none) (running : resized.pty.Running) (spawned : resized.pty.inner.pid = some 100)
    (ends : resized.file.end = 2097153) (blob : resized.file.blob = some (2097152,plainCheckpoint.encode))
    (resizes : resized.file.resizes = [⟨offset,30,100⟩]) (size : fileDims resized.file = (30,100))
    (screen : dims resized.session.terminal = (30,100)) (seq : resized.seq = 2097152)
    (last : resized.lastCheckpointSeq = 2097152) (idle : resized.inFlight = none) (unread : resized.unread = [plainText 1])
    (cuts : ∃ vt, ⟨plainCheckpoint,vt⟩ ∈ s.cuts ∧ resized.session.terminal.vt = vt ++ before)
    (content : between s.history 2097152 2097153 = [.byte 0x61]) :
    ∃ next later, (lifeMachine recorder).run s [.feed 0] = some next ∧ next.astray = s.astray ∧
      Struck next later offset (before ++ [.byte 0x61]) := by
  have filled : plainText 1 ≠ [] := plainText_filled Nat.one_pos
  have total := plainText_length 1
  have equal := fed_early filled [] (by rw [seq,last,total]; decide : resized.seq + (plainText 1).length -
    resized.lastCheckpointSeq < checkpointIntervalBytes)
  have step := feed_one here free idle unread
  have fed : (s.fed recorder resized (plainText 1) []).cuts = s.cuts := by
    simp only [Life.fed,equal,idle,map_none,Option.toList_none,append_nil]
  obtain ⟨⟨_,vt⟩,rows,cols⟩ := sessionFeed_screen _ filled
  obtain ⟨first,one,lived⟩ := cuts
  refine ⟨_,{resized with unread := [],session := (resized.session.feed recorder.vendor (plainText 1)).1},
    (run_cons step).trans run_nil,rfl,⟨?_,free,running,spawned,ends,blob,resizes,size,?_,?_,⟨first,fed ▸ one,?_⟩,content⟩⟩
  · exact congrArg RecoveryState.reading equal
  · rw [dims,rows,cols]
    exact screen
  · rw [FlowState.seq,(sessionFeed_reads recorder.vendor resized.session filled).1,total]
    exact congrArg (· + 1) seq
  · rw [vt,recorder_records.feed,lived,append_assoc]
    rfl

theorem struck_late (sound : LifeSound s) (kept : Kept s flow) :
    ∃ next later, (lifeMachine recorder).run s ([.shell (.read (plainText 1)),.append] ++ (resizing ++ [.feed 0])) = some next ∧
      Struck next later 2097153 [.resize 30 100,.byte 0x61] := by
  have caught := kept.toCaught
  have filled : plainText 1 ≠ [] := plainText_filled Nat.one_pos
  have printed := printed_run kept.here caught filled (by decide) (kept_room kept)
  have size := kept_size kept
  obtain ⟨vt,screen⟩ := resize_screen recorder_records (show dims flow.session.terminal ≠ (30,100) by rw [size]; decide)
  have file : (flow.printed (plainText 1)).file = (flow.file.append (plainText 1)).2 := printed_file (kept_room kept)
  have ends : (flow.printed (plainText 1)).file.end = 2097153 := by
    rw [file,append_end,caught.ends,plainText_length]
  have resized := resizing_run (rfl : (printedLife s flow (plainText 1)).stage = _) kept.free size
  have resizes := pushed_resizes (show (flow.printed (plainText 1)).file.resizes = [] by rw [file]; exact kept.resizes)
  rw [ends] at resizes
  obtain ⟨next,later,fed,_,struck⟩ := struck_fed (rfl : Life.stage {printedLife s flow (plainText 1) with
      stage := .reading (resizedFlow (flow.printed (plainText 1)))
      astray := (printedLife s flow (plainText 1)).astray ++ (printedLife s flow (plainText 1)).lag} = _)
    kept.free caught.running caught.spawned ends
    (by rw [resizedFlow_file,file]; exact kept_blob kept) resizes rfl screen ((resizeSession_seq _ _ _ _).trans caught.seq)
    caught.last caught.idle rfl ⟨_,kept.cut,vt⟩ (kept_content sound kept)
  exact ⟨next,later,(run_append printed).trans ((run_append resized).trans fed),struck⟩

theorem struck_inStep (sound : LifeSound s) (kept : Kept s flow) :
    ∃ next later, (lifeMachine recorder).run s (resizing ++ ([.shell (.read (plainText 1)),.append] ++ [.feed 0])) = some next ∧
      next.astray = [] ∧ Struck next later 2097152 [.resize 30 100,.byte 0x61] := by
  have before := kept.toCaught
  have size := kept_size kept
  obtain ⟨vt,screen⟩ := resize_screen recorder_records (show dims flow.session.terminal ≠ (30,100) by rw [size]; decide)
  have resized := resizing_run kept.here kept.free size
  have level : s.lag = [] := by
    rw [Life.lag,kept.here]
    exact if_pos (before.seq.trans before.ends.symm)
  have caught : Caught (resizedFlow flow) 2097152 (some 2097152) :=
    {before with seq := (resizeSession_seq _ _ _ _).trans before.seq}
  have filled : plainText 1 ≠ [] := plainText_filled Nat.one_pos
  have room : (plainText 1).length ≤ (resizedFlow flow).pty.inner.file.writeBudget :=
    floor_room caught (by decide) (by decide)
  have printed := printed_run (rfl : Life.stage {s with stage := .reading (resizedFlow flow),astray := s.astray ++ s.lag} = _)
    caught filled (by decide) room
  have file : ((resizedFlow flow).printed (plainText 1)).file = ((resizedFlow flow).file.append (plainText 1)).2 := printed_file room
  have ends : ((resizedFlow flow).printed (plainText 1)).file.end = 2097153 := by
    rw [file,append_end,caught.ends,plainText_length]
  have blob := kept_blob kept
  have content := kept_content sound kept
  have resizes := pushed_resizes kept.resizes
  rw [before.ends] at resizes
  obtain ⟨next,later,fed,same,struck⟩ := struck_fed
    (rfl : (printedLife {s with stage := .reading (resizedFlow flow),astray := s.astray ++ s.lag} (resizedFlow flow)
      (plainText 1)).stage = _)
    kept.free caught.running caught.spawned ends
    (by rw [file]; exact blob) (by rw [file]; exact resizes) (by rw [file]; rfl) screen caught.seq
    caught.last caught.idle rfl ⟨_,kept.cut,vt⟩ content
  refine ⟨next,later,(run_append resized).trans ((run_append printed).trans fed),?_,struck⟩
  rw [same]
  show s.astray ++ s.lag = []
  rw [kept.astray,level,append_nil]

def takeover : List (LifeAction (List VtOp)) := [.crash,.list "shell",.blob true,.resizes true,.read true,.replayed]

theorem takeover_read (represents : Represents file history) (start : file.start ≤ base) (ends : file.end = base + 1)
    (target : info.outputOffset = base + 1) (cursor : rebuild.cursor = base) (resizes : rebuild.resizes = [⟨offset,30,100⟩])
    (inside : offset = base ∨ offset = base + 1) :
    ∃ later, recorder.read info file true rebuild = .replaying later ∧ later.cursor = base + 1 := by
  have stop : Replacement.stop info (applyResizes recorder.vendor base rebuild.session [⟨offset,30,100⟩]).2 = base + 1 := by
    rcases inside with rfl | rfl
    · rw [applyResizes,if_pos (Nat.le_refl _)]
      exact target
    · rw [applyResizes,if_neg (Nat.not_succ_le_self _)]
      simp only [Replacement.stop,target,Nat.min_self]
  have want : min (base + 1 - base) ptydMaxReadBytes = 1 := by
    rw [Nat.add_sub_cancel_left]
    decide
  have reply : file.read base 1 = some (base,(history.drop base).take 1) := by
    rw [read_exact represents,if_pos ⟨start,by omega⟩,ends,Nat.min_self,Nat.add_sub_cancel_left]
  have length : ((history.drop base).take 1).length = 1 := by
    rw [length_take,List.length_drop,← represents.ends,ends,Nat.add_sub_cancel_left,Nat.min_self]
  have filled : (history.drop base).take 1 ≠ [] := List.length_pos_iff.mp (by rw [length]; exact Nat.one_pos)
  have supported : recorder.supports "read" = true := rfl
  unfold Replacement.read
  dsimp only
  rw [cursor,resizes,stop,want,supported,Bool.and_self,if_pos rfl,reply,Replacement.fed,if_pos ⟨cursor.symm,filled⟩]
  exact ⟨_,rfl,by rw [cursor,length]⟩

-- What the next runtime finds after such a crash.
structure LeftBehind (s : Life (List VtOp)) (pty : PtySide) (info : PtydSessionInfo) (offset : Nat) : Prop where
  here : s.stage = .recovering pty info .listed
  alive : ¬(info.pid ≤ 0 ∨ info.exitCode.isSome)
  target : info.outputOffset = 2097153
  size : (info.rows,info.cols) = (30,100)
  blob : pty.inner.file.blob = some (2097152,plainCheckpoint.encode)
  resizes : pty.inner.file.resizes = [⟨offset,30,100⟩]
  represents : Represents pty.inner.file s.history
  ends : pty.inner.file.end = 2097153
  inside : offset = 2097152 ∨ offset = 2097153

theorem taken_since (taken : LeftBehind s pty info offset) : sinceCut pty.inner.file 2097152 = [⟨offset,30,100⟩] := by
  have reaches : 2097152 ≤ offset := by
    have inside := taken.inside
    omega
  rw [sinceCut,taken.resizes]
  exact List.filter_cons_of_pos (decide_eq_true reaches)

theorem rebuilt_run (taken : LeftBehind s pty info offset) (crashed : s.crashed = some (flow,cuts))
    (known : plainCheckpoint ∈ cuts.map Cut.checkpoint) :
    ∃ rebuild, (lifeMachine recorder).run s [.blob true,.resizes true,.read true,.replayed] =
        some {s with stage := .recovering pty info (.rebuilt rebuild),cuts := [⟨plainCheckpoint,[]⟩]} ∧
      rebuild.session.terminal.vt = weave s.history 2097153 2097152 [⟨offset,30,100⟩] := by
  have usable : recorder.checkpoint info pty.inner.file.blob = some plainCheckpoint := by
    rw [taken.blob,Replacement.checkpoint]
    simp only [recorder_reads]
    exact if_pos ⟨rfl,by rw [taken.target]; decide⟩
  have restored : s.restoredCuts recorder info (some plainCheckpoint) = [⟨plainCheckpoint,[]⟩] := by
    simp only [Life.restoredCuts,crashed,map_some,getD_some,if_pos known]
    rfl
  have blob : (lifeMachine recorder).step s (.blob true) = some {s with
      stage := .recovering pty info (.restored (recorder.restore info (some plainCheckpoint)))
      cuts := [⟨plainCheckpoint,[]⟩]} := by
    have supported : (recorder.supports "blob" && true) = true := rfl
    simp only [lifeMachine,lifeStep,taken.here,recoveryStep,if_neg taken.alive,map_some,Replacement.blobbed,supported,
      if_true,usable,restored]
  generalize start : recorder.resized pty.inner.file true (recorder.restore info (some plainCheckpoint)) = rebuild at *
  have resizes : (lifeMachine recorder).step {s with
        stage := .recovering pty info (.restored (recorder.restore info (some plainCheckpoint)))
        cuts := [⟨plainCheckpoint,[]⟩]} (.resizes true) =
      some {s with stage := .recovering pty info (.replaying rebuild),cuts := [⟨plainCheckpoint,[]⟩]} := by
    rw [← start]
    rfl
  have cursor : rebuild.cursor = 2097152 := by rw [← start]; rfl
  have left : rebuild.resizes = [⟨offset,30,100⟩] := by
    rw [← start,← taken_since taken]
    rfl
  have size : dims rebuild.session.terminal = (24,80) := by rw [← start]; rfl
  have screen : rebuild.session.terminal.vt = [] := by rw [← start]; rfl
  have place : plainCheckpoint.outputSeq = 2097152 := rfl
  have other : ((24,80) : UInt16 × UInt16) ≠ (30,100) := by decide
  have below : pty.inner.file.start ≤ 2097152 := start_le.mpr (by rw [taken.ends]; decide)
  obtain ⟨later,replied,finished⟩ := takeover_read taken.represents below taken.ends taken.target cursor left taken.inside
  have more : rebuild.cursor < info.outputOffset := by rw [cursor,taken.target]; decide
  have done : ¬later.cursor < info.outputOffset := by rw [finished,taken.target]; exact Nat.lt_irrefl _
  have read : (lifeMachine recorder).step
        {s with stage := .recovering pty info (.replaying rebuild),cuts := [⟨plainCheckpoint,[]⟩]} (.read true) =
      some {s with stage := .recovering pty info (.replaying later),cuts := [⟨plainCheckpoint,[]⟩]} := by
    simp only [lifeMachine,lifeStep,recoveryStep,if_pos more,map_some,replied,Life.keptCuts]
  have replayed : (lifeMachine recorder).step
        {s with stage := .recovering pty info (.replaying later),cuts := [⟨plainCheckpoint,[]⟩]} .replayed =
      some {s with stage := .recovering pty info (.rebuilt (recorder.replayed info later)),cuts := [⟨plainCheckpoint,[]⟩]} := by
    simp only [lifeMachine,lifeStep,recoveryStep,if_neg done,map_some]
  refine ⟨_,(run_cons blob).trans ((run_cons resizes).trans ((run_cons read).trans ((run_cons replayed).trans run_nil))),?_⟩
  have woven : PhaseWoven s.history pty.inner.file info [⟨plainCheckpoint,[]⟩] (.replaying rebuild) := by
    intro cut mem
    rw [mem_singleton.mp mem,left,cursor,taken.target,taken.size]
    have inside := taken.inside
    have low : 2097152 ≤ offset := by omega
    have high : offset ≤ 2097153 := by omega
    refine ⟨⟨low,high⟩,?_,?_⟩
    · rw [size]
      simp only [Effective,and_true]
      exact other
    · rw [place,taken_since taken,screen]
  have after : PhaseWoven s.history pty.inner.file info (Life.cuts {s with cuts := [⟨plainCheckpoint,[]⟩]})
      (.rebuilt (recorder.replayed info later)) :=
    replay_woven recorder_records taken.represents woven pty replied (finished.trans taken.target.symm)
  have last := after.2 ⟨plainCheckpoint,[]⟩ (mem_singleton_self _)
  rw [last,taken.target]
  rw [place,taken_since taken,nil_append]

section
variable (sound : LifeSound s) (struck : Struck s flow offset ops) (inside : offset = 2097152 ∨ offset = 2097153)
include sound struck inside

theorem struck_taken :
    ∃ next info, (lifeMachine recorder).run s [.crash,.list "shell"] = some next ∧ LeftBehind next flow.pty info offset ∧
      next.crashed = some (flow,s.cuts) ∧ next.history = s.history := by
  have whole := sound.stage
  rw [struck.here] at whole
  have list : (lifeMachine recorder).step s.crash (.list "shell") = some {s.crash with stage := .found flow.pty "shell"} := by
    simp only [lifeMachine,lifeStep,Life.crash,struck.here,RecoveryState.pty]
  have crash : (lifeMachine recorder).step s .crash = some s.crash := rfl
  refine ⟨_,flow.pty.inner.info "shell",(run_cons crash).trans ((run_cons list).trans run_nil),
    ⟨rfl,?_,struck.ends,struck.size,struck.blob,struck.resizes,whole.represents,struck.ends,inside⟩,?_,rfl⟩
  · have pid : (flow.pty.inner.info "shell").pid = 100 := by rw [SessionInner.info,struck.spawned]; rfl
    have exit : (flow.pty.inner.info "shell").exitCode = none := struck.running.1
    rw [pid,exit]
    decide
  · simp only [Life.crash,Life.reading,struck.here,map_some,some_or]

theorem struck_rebuilt : ∃ next info rebuild, (lifeMachine recorder).run s takeover = some next ∧
      next.stage = .recovering flow.pty info (.rebuilt rebuild) ∧ next.crashed = some (flow,s.cuts) ∧
      next.cuts = [⟨plainCheckpoint,[]⟩] ∧
      rebuild.session.terminal.vt = weave s.history 2097153 2097152 [⟨offset,30,100⟩] := by
  obtain ⟨_,info,listed,taken,crashed,history⟩ := struck_taken sound struck inside
  obtain ⟨_,among,_⟩ := struck.cuts
  obtain ⟨rebuild,replayed,screen⟩ := rebuilt_run taken crashed (List.mem_map_of_mem among)
  rw [history] at screen
  exact ⟨_,info,rebuild,(run_append listed).trans replayed,rfl,crashed,rfl,screen⟩

end

theorem recorded_sound (ran : (lifeMachine recorder).run recordedStart actions = some s) : LifeSound s :=
  run_preserves (lifeStep_sound) (start_sound 24 80 "" shellPair 100 0) ran

end Recorded

-- ptyd logs the resize behind an unread byte. The screen is resized first and reads the byte then;
-- the next runtime does it the other way round.
theorem resize_overtakes_output : Records recorder.vendor ∧ ∃ actions last pty info rebuild flow cuts restored taken,
      (lifeMachine recorder).run (Life.start recorder 24 80 "" shellPair 100 0) actions = some last ∧
      last.stage = .recovering pty info (.rebuilt rebuild) ∧ last.crashed = some (flow,cuts) ∧
      restored ∈ last.cuts ∧ taken ∈ cuts ∧ restored.checkpoint = taken.checkpoint ∧
      flow.session.terminal.vt = taken.vt ++ [.resize 30 100,.byte 0x61] ∧
      rebuild.session.terminal.vt = restored.vt ++ [.byte 0x61,.resize 30 100] ∧
      ¬RebuiltInOrder last := by
  refine ⟨recorder_records,?_⟩
  obtain ⟨_,s,_,ran,kept,_⟩ := recorded_checkpoint
  obtain ⟨before,later,moved,struck⟩ := struck_late (recorded_sound ran) kept
  have reached := (run_append ran).trans moved
  obtain ⟨next,info,rebuild,rebuilt,stage,crashed,cuts,screen⟩ := struck_rebuilt (recorded_sound reached) struck (.inr rfl)
  obtain ⟨vt,among,lived⟩ := struck.cuts
  have replayed : rebuild.session.terminal.vt = [.byte 0x61,.resize 30 100] := by
    rw [screen]
    simp only [weave,struck.content,between_self,List.singleton_append]
  have from_it : (⟨plainCheckpoint,[]⟩ : Cut (List VtOp)) ∈ next.cuts := by rw [cuts]; exact mem_singleton_self _
  refine ⟨_,next,later.pty,info,rebuild,later,before.cuts,⟨plainCheckpoint,[]⟩,⟨plainCheckpoint,vt⟩,(run_append reached).trans rebuilt,
    stage,crashed,from_it,among,rfl,lived,replayed,?_⟩
  intro ordered
  obtain ⟨_,same,again,_⟩ := ordered _ _ _ _ _ stage crashed _ from_it _ among rfl
  rw [lived] at same
  rw [replayed,← List.append_cancel_left same] at again
  cases again

theorem rebuild_in_order_resized :
    ∃ actions last pty info rebuild, (lifeMachine recorder).run (Life.start recorder 24 80 "" shellPair 100 0) actions = some last ∧
      last.stage = .recovering pty info (.rebuilt rebuild) ∧ last.cuts = [⟨plainCheckpoint,[]⟩] ∧
      rebuild.session.terminal.vt = [.resize 30 100,.byte 0x61] ∧
      (lifeMachine recorder).Throughout RebuiltInOrder (Life.start recorder 24 80 "" shellPair 100 0) actions := by
  obtain ⟨actions,s,flow,ran,kept,ordinary⟩ := recorded_checkpoint
  obtain ⟨before,later,moved,level,struck⟩ := struck_inStep (recorded_sound ran) kept
  have reached := (run_append ran).trans moved
  obtain ⟨next,info,rebuild,rebuilt,stage,_,cuts,screen⟩ := struck_rebuilt (recorded_sound reached) struck (.inl rfl)
  have replayed : rebuild.session.terminal.vt = [.resize 30 100,.byte 0x61] := by
    rw [screen]
    simp only [weave,struck.content,between_self,nil_append]
  have aligned : Orderly recorder before .crash := by
    intro flow here cut mem stored
    have same : flow = later := by
      rw [struck.here] at here
      exact (RecoveryState.reading.inj here).symm
    rw [same]
    refine ⟨?_,struck.screen.trans struck.size.symm,?_,.inl ?_⟩
    · intro lock held
      cases struck.free.symm.trans held
    · rw [level]
      nofun
    · rw [struck.resizes]
      decide
  have orderly : (lifeMachine recorder).Along (Orderly recorder) recordedStart
      (actions ++ (resizing ++ ([.shell (.read (plainText 1)),.append] ++ [.feed 0])) ++ takeover) := by
    refine along_append reached (along_append ran (along_of_all ordinary) (along_of_all ?_)) ⟨aligned,fun _ _ => along_of_all ?_⟩
    · intro action mem s
      simp only [resizing,List.cons_append,nil_append,mem_cons,List.not_mem_nil,or_false] at mem
      rcases mem with rfl | rfl | rfl | rfl | rfl | rfl <;> exact True.intro
    · intro action mem s
      simp only [mem_cons,List.not_mem_nil,or_false] at mem
      rcases mem with rfl | rfl | rfl | rfl | rfl <;> first | exact True.intro | exact ⟨rfl,rfl⟩
  exact ⟨_,next,later.pty,info,rebuild,(run_append reached).trans rebuilt,stage,cuts,replayed,
    rebuild_in_order recorder_records 24 80 "" shellPair 100 0 _ orderly⟩

end Coflux.Runtime
