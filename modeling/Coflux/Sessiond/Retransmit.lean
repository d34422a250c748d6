import Coflux.Sessiond.Stream

namespace Coflux.Sessiond
open Text
open TerminalState (collect dropOldest)

-- The deltas follow each other without a hole, from the given number up to the last.
def Span (history : Bytes) (upto : Nat) : Nat → List Delta → Prop
  | next,[] => next = upto + 1
  | next,delta :: rest => delta.fromSeq = next ∧ Slice history delta ∧ Span history upto (delta.toSeq + 1) rest

def sized (deltas : List Delta) : Nat := (deltas.map fun delta => delta.data.length).sum

structure WindowExact (history : Bytes) (terminal : TerminalState V) : Prop where
  position : terminal.outputSeq = history.length
  contiguous : Span history terminal.outputSeq terminal.earliestRetransmitSeq terminal.retransmit
  counted : terminal.retransmitBytes = sized terminal.retransmit
  within : terminal.retransmitBytes ≤ retransmitLimit

theorem span_first {terminal : TerminalState V} (span : Span history terminal.outputSeq next terminal.retransmit) :
    Span history terminal.outputSeq terminal.earliestRetransmitSeq terminal.retransmit := by
  unfold TerminalState.earliestRetransmitSeq
  cases queue : terminal.retransmit with
  | nil => rfl
  | cons delta rest =>
    rw [queue] at span
    exact ⟨rfl,span.2⟩

theorem span_bounded (span : Span history upto next deltas) : next ≤ upto + 1 ∧ ∀ delta ∈ deltas, next ≤ delta.fromSeq := by
  induction deltas generalizing next with
  | nil => exact ⟨Nat.le_of_eq span,nofun⟩
  | cons delta rest ih =>
    obtain ⟨rfl,slice,later⟩ := span
    obtain ⟨_,above⟩ := ih later
    have ordered := slice.ordered
    refine ⟨by omega,?_⟩
    intro other mem
    rcases List.mem_cons.mp mem with rfl | mem
    · exact Nat.le_refl _
    · have := above _ mem
      omega

theorem span_snoc (span : Span history upto next deltas) (slice : Slice (history ++ more) delta)
    (follows : delta.fromSeq = upto + 1) (ends : delta.toSeq = last) :
    Span (history ++ more) last next (deltas ++ [delta]) := by
  induction deltas generalizing next with
  | nil =>
    cases span
    exact ⟨follows,slice,congrArg (· + 1) ends⟩
  | cons head rest ih => exact ⟨span.1,slice_extends span.2.1 _,ih span.2.2⟩

theorem span_bytes (span : Span history upto next deltas) (positive : 1 ≤ next) :
    (deltas.map Delta.data).flatten = (history.take upto).drop (next - 1) := by
  induction deltas generalizing next with
  | nil =>
    cases span
    simp
  | cons delta rest ih =>
    obtain ⟨rfl,slice,later⟩ := span
    have ordered := slice.ordered
    have bound := (span_bounded later).1
    rw [List.map_cons,List.flatten_cons,ih later (by omega),slice.data,Nat.add_sub_cancel]
    have front : history.take delta.toSeq = (history.take upto).take delta.toSeq := by
      rw [List.take_take,Nat.min_eq_left (by omega)]
    have back : (history.take upto).drop delta.toSeq =
        ((history.take upto).drop (delta.fromSeq - 1)).drop (delta.toSeq - (delta.fromSeq - 1)) := by
      rw [List.drop_drop]
      congr 1
      omega
    rw [front,List.drop_take,back,List.take_append_drop]

theorem dropOldest_exact (span : Span history upto next queue) (counted : bytes = sized queue) :
    (∃ later, Span history upto later (dropOldest queue bytes).1) ∧
      (dropOldest queue bytes).2 = sized (dropOldest queue bytes).1 ∧
      (dropOldest queue bytes).2 ≤ retransmitLimit := by
  induction queue generalizing next bytes with
  | nil => exact ⟨⟨next,span⟩,counted,by rw [counted]; exact Nat.zero_le _⟩
  | cons delta rest ih =>
    rw [dropOldest]
    split
    · refine ih span.2.2 ?_
      rw [counted]
      simp [sized]
    · rename_i enough
      exact ⟨⟨next,span⟩,counted,Nat.not_lt.mp enough⟩

theorem feed_exact {terminal : TerminalState V} (bytes : Bytes) (exact : WindowExact history terminal) :
    WindowExact (history ++ bytes) (terminal.feed vendor bytes).1 := by
  by_cases nonempty : bytes = []
  · subst nonempty
    rw [List.append_nil]
    exact ⟨exact.position,exact.contiguous,exact.counted,exact.within⟩
  · obtain ⟨fed,_,equal,_,window⟩ := feed_pushed nonempty
    have seq : fed.outputSeq = terminal.outputSeq + bytes.length := congrArg Window.outputSeq window
    have queue : fed.retransmit = terminal.retransmit := congrArg Window.retransmit window
    have counter : fed.retransmitBytes = terminal.retransmitBytes := congrArg Window.retransmitBytes window
    have position : fed.outputSeq = (history ++ bytes).length := by
      rw [seq,exact.position,List.length_append]
    rw [equal]
    unfold TerminalState.pushRetransmit
    split
    · exact ⟨position,rfl,rfl,Nat.zero_le _⟩
    · have slice := slice_fed exact.position nonempty
      have span := span_snoc exact.contiguous slice rfl seq.symm
      have total : fed.retransmitBytes + bytes.length = sized (fed.retransmit ++
          [⟨terminal.outputSeq + 1,terminal.outputSeq + bytes.length,bytes⟩]) := by
        rw [counter,queue,exact.counted]
        simp [sized]
      rw [← queue] at span
      obtain ⟨⟨_,left⟩,counted,within⟩ := dropOldest_exact span total
      exact ⟨position,span_first left,counted,within⟩

theorem collect_span (span : Span history upto next queue) : collect next queue = some (queue,upto + 1) := by
  induction queue generalizing next with
  | nil => rw [collect,span]
  | cons delta rest ih =>
    obtain ⟨rfl,slice,later⟩ := span
    have ordered := slice.ordered
    rw [collect,if_neg (by omega),ih later]
    simp

-- The search stops at the delta that holds the wanted number.
theorem covering_span (span : Span history upto next queue) (kept : next ≤ wanted) (sent : wanted ≤ upto) :
    ∃ delta rest, queue.dropWhile (fun delta => ¬(delta.fromSeq ≤ wanted ∧ wanted ≤ delta.toSeq)) = delta :: rest ∧
      delta.fromSeq ≤ wanted ∧ wanted ≤ delta.toSeq ∧ Slice history delta ∧ Span history upto (delta.toSeq + 1) rest := by
  induction queue generalizing next with
  | nil =>
    cases span
    omega
  | cons delta rest ih =>
    obtain ⟨rfl,slice,later⟩ := span
    by_cases covers : wanted ≤ delta.toSeq
    · exact ⟨delta,rest,by simp [kept,covers],kept,covers,slice,later⟩
    · obtain ⟨found,more,equal,parts⟩ := ih later (by omega)
      refine ⟨found,more,?_,parts⟩
      rw [List.dropWhile_cons_of_pos (by simp only [decide_eq_true_eq]; omega),equal]

theorem feeds_exact (feeds : List Bytes) (exact : WindowExact history terminal) :
    WindowExact (history ++ feeds.flatten) (feeds.foldl (fun terminal bytes => (terminal.feed vendor bytes).1) terminal) := by
  induction feeds generalizing history terminal with
  | nil => simpa using exact
  | cons bytes rest ih => simpa using ih (feed_exact _ exact)

theorem deltasAfter_covered (exact : WindowExact history terminal)
    (kept : terminal.earliestRetransmitSeq ≤ last + 1) (sent : last ≤ terminal.outputSeq) :
    ∃ deltas, terminal.deltasAfter last = some deltas ∧ Span history terminal.outputSeq (last + 1) deltas := by
  unfold TerminalState.deltasAfter
  by_cases latest : last = terminal.outputSeq
  · exact ⟨[],by simp [latest],by rw [latest]; rfl⟩
  · obtain ⟨delta,rest,found,_,high,slice,later⟩ := covering_span exact.contiguous kept (by omega)
    have first := slice.positive
    have cut : Slice history ⟨last + 1,delta.toSeq,delta.data.drop (last + 1 - delta.fromSeq)⟩ := by
      refine ⟨by simp,high,slice.within,?_⟩
      simp only [slice.data,List.drop_drop]
      congr 1
      omega
    refine ⟨_ :: rest,?_,rfl,cut,later⟩
    rw [if_neg (by omega),found]
    simp only [collect]
    rw [if_neg (by omega),collect_span later]
    simp

theorem deltasAfter_evicted (exact : WindowExact history terminal)
    (evicted : last + 1 < terminal.earliestRetransmitSeq) (sent : last < terminal.outputSeq) :
    terminal.deltasAfter last = none := by
  unfold TerminalState.deltasAfter
  rw [if_neg (by omega)]
  have none : terminal.retransmit.dropWhile (fun delta => ¬(delta.fromSeq ≤ last + 1 ∧ last + 1 ≤ delta.toSeq)) = [] := by
    rw [List.dropWhile_eq_nil_iff]
    intro delta mem
    have above := (span_bounded exact.contiguous).2 delta mem
    rw [decide_eq_true_eq]
    omega
  rw [none]

-- A terminal as new, restore and setOutputSeq leave it, then any feeds.
theorem retransmit_exact (vendor : Vendor V) (start : TerminalState V) (earlier : Bytes)
    (position : start.outputSeq = earlier.length) (empty : start.retransmit = []) (zero : start.retransmitBytes = 0)
    (feeds : List Bytes) :
    let terminal := feeds.foldl (fun terminal bytes => (terminal.feed vendor bytes).1) start
    let history := earlier ++ feeds.flatten
    WindowExact history terminal ∧ ∀ last,
      if last ≤ terminal.outputSeq ∧ (last = terminal.outputSeq ∨ terminal.earliestRetransmitSeq ≤ last + 1) then
        ∃ deltas, terminal.deltasAfter last = some deltas ∧ Span history terminal.outputSeq (last + 1) deltas ∧
          (deltas.map Delta.data).flatten = history.drop last
      else terminal.deltasAfter last = none := by
  intro terminal history
  have exact : WindowExact history terminal := by
    refine feeds_exact _ ⟨position,?_,?_,?_⟩
    · rw [TerminalState.earliestRetransmitSeq,empty]
      rfl
    · rw [zero,empty]
      rfl
    · rw [zero]
      exact Nat.zero_le _
  refine ⟨exact,?_⟩
  intro last
  split
  · rename_i asked
    have first := (span_bounded exact.contiguous).1
    obtain ⟨deltas,found,span⟩ := deltasAfter_covered exact (by omega) asked.1
    refine ⟨deltas,found,span,?_⟩
    rw [span_bytes span (by omega),Nat.add_sub_cancel,exact.position,List.take_length]
  · by_cases beyond : terminal.outputSeq ≤ last
    · rw [TerminalState.deltasAfter,if_pos beyond,if_neg (by omega)]
    · exact deltasAfter_evicted exact (by omega) (by omega)

theorem retransmit_exact_fresh :
    let terminal := [[0x61,0x62],[],[0x63]].foldl (fun terminal bytes => (terminal.feed blankVendor bytes).1)
      (TerminalState.new blankVendor 24 80 0)
    WindowExact [0x61,0x62,0x63] terminal ∧ ∃ deltas, terminal.deltasAfter 1 = some deltas ∧
      (deltas.map Delta.data).flatten = [0x62,0x63] := by
  have exact := retransmit_exact blankVendor (TerminalState.new blankVendor 24 80 0) [] rfl rfl rfl
    [[0x61,0x62],[],[0x63]]
  obtain ⟨deltas,found,_,bytes⟩ := exact.2 1
  exact ⟨exact.1,deltas,found,bytes⟩

end Coflux.Sessiond
