import Coflux.Sessiond.Terminal

namespace Coflux.Sessiond
open Text

def scanEvents (base64 : Bytes → Option Bytes) : OutputScanner → Nat → Bytes → List (ScanEvent × Nat)
  | _,_,[] => []
  | scanner,seq,byte :: rest =>
    ((scanner.feed base64 byte).2.map fun event => (event,seq)).toList ++
      scanEvents base64 (scanner.feed base64 byte).1 (seq + 1) rest

theorem scanAll_append :
    scanAll base64 scanner (first ++ second) = scanAll base64 (scanAll base64 scanner first) second :=
  List.foldl_append

theorem scanEvents_append :
    scanEvents base64 scanner seq (first ++ second) = scanEvents base64 scanner seq first ++
        scanEvents base64 (scanAll base64 scanner first) (seq + first.length) second := by
  induction first generalizing scanner seq with
  | nil => rfl
  | cons byte rest ih =>
    simp only [List.cons_append,scanEvents,ih,List.append_assoc,List.length_cons]
    have count : seq + 1 + rest.length = seq + (rest.length + 1) := by omega
    rw [count]
    rfl

def titleOf : ScanEvent → Option Bytes
  | .title raw => some raw
  | _ => none

def markOf : ScanEvent → Option Mark
  | .mark mark => some mark
  | _ => none

def queryOf : ScanEvent × Nat → Option TerminalQuery
  | (.da1Query,seq) => some (.da1 seq)
  | (.programStatusProbe terminator,_) => some (.programStatus terminator)
  | _ => none

section
variable (events : List (ScanEvent × Nat))

def titles : List Bytes := events.filterMap fun event => titleOf event.1

def marks : List Mark := events.filterMap fun event => markOf event.1

def queried : List TerminalQuery := events.filterMap queryOf

end

-- The fields of a terminal that its events decide, and the scanner with them.
structure Watched where
  title : String
  command : CommandStateInfo
  (outputSeq answeredQuerySeq : Nat)
  scanner : OutputScanner

section
variable (base64 : Bytes → Option Bytes) (watched : Watched) (bytes : Bytes)

def Watched.events : List (ScanEvent × Nat) :=
  scanEvents base64 watched.scanner (watched.outputSeq + 1) bytes

def Watched.after : Watched where
  title := ((titles (watched.events base64 bytes)).getLast?.map clampTitle).getD watched.title
  command := (marks (watched.events base64 bytes)).foldl CommandStateInfo.marked watched.command
  outputSeq := watched.outputSeq + bytes.length
  answeredQuerySeq := watched.answeredQuerySeq
  scanner := scanAll base64 watched.scanner bytes

end

theorem events_append {watched : Watched} : watched.events base64 (first ++ second) =
      watched.events base64 first ++ (watched.after base64 first).events base64 second := by
  simp only [Watched.events,scanEvents_append,Watched.after]
  rw [Nat.add_right_comm]

theorem after_append {watched : Watched} :
    watched.after base64 (first ++ second) = (watched.after base64 first).after base64 second := by
  simp only [Watched.after,Watched.mk.injEq]
  refine ⟨?_,?_,by simp [Nat.add_assoc],True.intro,scanAll_append⟩
  · rw [events_append,titles,List.filterMap_append,List.getLast?_append]
    simp only [Watched.after]
    rw [← titles,← titles]
    cases (titles (Watched.events base64 _ second)).getLast? <;> rfl
  · rw [events_append,marks,List.filterMap_append,List.foldl_append]
    rfl

def TerminalState.watched (terminal : TerminalState V) : Watched :=
  ⟨terminal.title,terminal.command.state,terminal.outputSeq,terminal.answeredQuerySeq,terminal.scanner⟩

open TerminalState (checkpointFrom feed feedByte handle restore)

theorem handle_event (acc : TerminalState.Feeding V) :
    (handle acc seq index event).terminal.title = acc.terminal.title ∧
    (handle acc seq index event).pendingTitle = (titleOf event).or acc.pendingTitle ∧
    (handle acc seq index event).terminal.command.state =
      (markOf event).toList.foldl CommandStateInfo.marked acc.terminal.command.state ∧
    (handle acc seq index event).terminal.queries = acc.terminal.queries ++ (queryOf (event,seq)).toList := by
  have status : ∀ (terminal : TerminalState V) value,
      (terminal.setProgramStatus value).title = terminal.title ∧
      (terminal.setProgramStatus value).command = terminal.command ∧
      (terminal.setProgramStatus value).queries = terminal.queries := by
    intro terminal value
    unfold TerminalState.setProgramStatus
    split
    · exact ⟨rfl,rfl,rfl⟩
    · exact ⟨rfl,rfl,rfl⟩
  cases event with
  | mark mark =>
    simp only [handle]
    split
    · obtain ⟨title,command,queries⟩ := status {acc.terminal with command := acc.terminal.command.apply mark} none
      exact ⟨title,rfl,by rw [command]; rfl,by rw [queries]; simp [queryOf]⟩
    · exact ⟨rfl,rfl,rfl,by simp [queryOf]⟩
  | programStatus report =>
    simp only [handle]
    split
    · obtain ⟨title,command,queries⟩ := status _ _
      exact ⟨title,rfl,by rw [command]; rfl,by rw [queries]; simp [queryOf]⟩
    · exact ⟨rfl,rfl,rfl,by simp [queryOf]⟩
  | reset =>
    obtain ⟨title,command,queries⟩ := status _ _
    exact ⟨title,rfl,congrArg CommandTracker.state command,by simp [handle,queries,queryOf]⟩
  | da1Query | programStatusProbe => exact ⟨rfl,rfl,rfl,rfl⟩
  | graphemeClusterSet | title => exact ⟨rfl,rfl,rfl,by simp [handle,queryOf]⟩

theorem feedByte_event (acc : TerminalState.Feeding V) :
    let event := (acc.terminal.scanner.feed vendor.base64 entry.1).2
    (feedByte vendor fromSeq acc entry).terminal.title = acc.terminal.title ∧
    (feedByte vendor fromSeq acc entry).pendingTitle = (event.bind titleOf).or acc.pendingTitle ∧
    (feedByte vendor fromSeq acc entry).terminal.command.state =
      (event.bind markOf).toList.foldl CommandStateInfo.marked acc.terminal.command.state ∧
    (feedByte vendor fromSeq acc entry).terminal.queries =
      acc.terminal.queries ++ (event.bind fun event => queryOf (event,fromSeq + entry.2)).toList := by
  simp only [feedByte]
  split
  · rename_i nothing
    simp [nothing]
  · rename_i found
    rw [found]
    exact handle_event _

theorem filterMap_front (event : Option ScanEvent) :
    ((event.map fun event => (event,seq)).toList ++ events).filterMap pick =
      (event.bind fun event => pick (event,seq)).toList ++ events.filterMap pick := by
  cases event with
  | none => rfl
  | some event =>
    simp only [Option.map_some,Option.toList_some,List.singleton_append,Option.bind_some,List.filterMap_cons]
    cases pick (event,seq) <;> rfl

theorem foldl_event (start : Nat) (acc : TerminalState.Feeding V) :
    let fed := (bytes.zipIdx start).foldl (feedByte vendor fromSeq) acc
    let events := scanEvents vendor.base64 acc.terminal.scanner (fromSeq + start) bytes
    fed.terminal.title = acc.terminal.title ∧ fed.pendingTitle = (titles events).getLast?.or acc.pendingTitle ∧
    fed.terminal.command.state = (marks events).foldl CommandStateInfo.marked acc.terminal.command.state ∧
    fed.terminal.queries = acc.terminal.queries ++ queried events := by
  induction bytes generalizing acc start with
  | nil => exact ⟨rfl,rfl,rfl,(List.append_nil _).symm⟩
  | cons byte rest ih =>
    obtain ⟨title,pending,command,queries⟩ := feedByte_event _
    have scanner := (feedByte_window vendor fromSeq acc (byte,start)).2
    obtain ⟨titleMore,pendingMore,commandMore,queriesMore⟩ :=
      ih (start + 1) (feedByte vendor fromSeq acc (byte,start))
    simp only [scanner] at pendingMore commandMore queriesMore
    simp only [List.zipIdx_cons,List.foldl_cons,scanEvents]
    refine ⟨titleMore.trans title,?_,?_,?_⟩
    · rw [pendingMore,pending,← Nat.add_assoc,titles,titles,filterMap_front,List.getLast?_append,Option.or_assoc]
      cases (acc.terminal.scanner.feed vendor.base64 byte).2.bind titleOf <;> rfl
    · rw [commandMore,command,← Nat.add_assoc,marks,marks,filterMap_front,List.foldl_append]
    · rw [queriesMore,queries,← Nat.add_assoc,List.append_assoc,queried,queried,filterMap_front]

theorem pushRetransmit_watched (terminal : TerminalState V) :
    (terminal.pushRetransmit delta).watched = terminal.watched ∧
      (terminal.pushRetransmit delta).queries = terminal.queries := by
  unfold TerminalState.pushRetransmit
  split
  · exact ⟨rfl,rfl⟩
  · exact ⟨rfl,rfl⟩

theorem applyTitle_watched (terminal : TerminalState V) : (terminal.applyTitle pending).watched =
        {terminal.watched with title := (pending.map clampTitle).getD terminal.title} ∧
      (terminal.applyTitle pending).queries = terminal.queries := by
  unfold TerminalState.applyTitle
  split
  · exact ⟨rfl,rfl⟩
  · split
    · exact ⟨rfl,rfl⟩
    · rename_i same
      rw [Option.map_some,Option.getD_some,not_not.mp same]
      exact ⟨rfl,rfl⟩

theorem feed_watched (terminal : TerminalState V) {bytes : Bytes} :
    (terminal.feed vendor bytes).1.watched = terminal.watched.after vendor.base64 bytes ∧
    (terminal.feed vendor bytes).1.queries = queried (terminal.watched.events vendor.base64 bytes) := by
  by_cases empty : bytes = []
  · subst empty
    exact ⟨rfl,rfl⟩
  · have filled : ¬bytes.isEmpty := by simpa using empty
    obtain ⟨window,scanner⟩ :=
      foldl_feedByte 0 ⟨{terminal with queries := []},[],none⟩
    obtain ⟨title,pending,command,queries⟩ :=
      foldl_event 0 ⟨{terminal with queries := []},[],none⟩
    simp only [feed,if_neg filled]
    generalize List.foldl (feedByte vendor (terminal.outputSeq + 1)) _ bytes.zipIdx = acc at *
    simp only [Option.or_none,List.nil_append,Nat.add_zero] at pending command queries
    have seq : acc.terminal.outputSeq = terminal.outputSeq := congrArg Window.outputSeq window
    have answered : acc.terminal.answeredQuerySeq = terminal.answeredQuerySeq := congrArg Window.answeredQuerySeq window
    obtain ⟨titled,titledQueries⟩ := applyTitle_watched _
    simp only [TerminalState.watched,Watched.mk.injEq] at titled
    obtain ⟨titledTitle,titledCommand,titledSeq,titledAnswered,titledScanner⟩ := titled
    refine ⟨?_,?_⟩
    · rw [(pushRetransmit_watched _).1]
      simp only [TerminalState.watched,Watched.after,Watched.events,Watched.mk.injEq]
      exact ⟨by rw [titledTitle,pending,title],by rw [titledCommand,command],by rw [titledSeq,seq],
        by rw [titledAnswered,answered],by rw [titledScanner,scanner]⟩
    · rw [(pushRetransmit_watched _).2]
      exact titledQueries.trans queries

def feedAll (vendor : Vendor V) (terminal : TerminalState V) : List Bytes → TerminalState V × List TerminalQuery
  | [] => (terminal,[])
  | batch :: rest =>
    let fed := (terminal.feed vendor batch).1
    let (last,queries) := feedAll vendor fed rest
    (last,fed.queries ++ queries)

theorem feedAll_watched (vendor : Vendor V) (terminal : TerminalState V) (batches : List Bytes) :
    (feedAll vendor terminal batches).1.watched = terminal.watched.after vendor.base64 batches.flatten ∧
    (feedAll vendor terminal batches).2 = queried (terminal.watched.events vendor.base64 batches.flatten) := by
  induction batches generalizing terminal with
  | nil => exact ⟨rfl,rfl⟩
  | cons batch rest ih =>
    obtain ⟨one,queriesOne⟩ := feed_watched _
    obtain ⟨more,queriesMore⟩ := ih (terminal.feed vendor batch).1
    rw [one] at more queriesMore
    simp only [List.flatten_cons,feedAll]
    refine ⟨by rw [more,after_append],?_⟩
    rw [queriesOne,queriesMore,events_append,queried,queried,queried,List.filterMap_append]

-- Two scanners no later byte can tell apart: a capture counts only inside an OSC.
structure Alike (one two : OutputScanner) : Prop where
  state : one.state = two.state
  secret : one.secret = two.secret
  osc : one.state = .osc → one.osc = two.osc

section
variable (alike : Alike one two)
include alike

theorem dispatchOsc_alike (inside : one.state = .osc) :
    one.dispatchOsc base64 terminator = two.dispatchOsc base64 terminator := by
  simp only [OutputScanner.dispatchOsc,alike.osc inside,alike.secret]

theorem enter_alike : Alike (one.enter next) (two.enter next) := by
  unfold OutputScanner.enter
  split
  · exact ⟨rfl,alike.secret,fun _ => rfl⟩
  · rename_i other
    exact ⟨rfl,alike.secret,fun inside => absurd inside other⟩

theorem advance_alike : Alike (one.advance next) (two.advance next) := by
  cases next with
  | none => exact alike
  | some state => exact enter_alike alike

theorem anywhere_alike : one.anywhere byte = two.anywhere byte := by
  have honours : one.honoursC1 = two.honoursC1 := by simp only [OutputScanner.honoursC1,alike.state]
  unfold OutputScanner.anywhere
  rw [honours]

theorem feedState_alike : Alike (one.feedState base64 byte).1 (two.feedState base64 byte).1 ∧
      (one.feedState base64 byte).2 = (two.feedState base64 byte).2 := by
  unfold OutputScanner.feedState
  rw [← alike.state]
  cases state : one.state with
  | ground | dcsBody | sosPmApc => exact ⟨alike,rfl⟩
  | escape =>
    simp only
    split
    · exact ⟨⟨rfl,alike.secret,nofun⟩,rfl⟩
    · exact ⟨advance_alike alike,rfl⟩
  | escapeIntermediate | dcsEntry | dcsParam | dcsIntermediate => exact ⟨advance_alike alike,rfl⟩
  | csi scan =>
    simp only
    split
    · exact ⟨⟨rfl,alike.secret,nofun⟩,rfl⟩
    · exact ⟨⟨rfl,alike.secret,nofun⟩,rfl⟩
  | osc =>
    simp only
    split
    · exact ⟨⟨rfl,alike.secret,nofun⟩,dispatchOsc_alike alike state⟩
    · split
      · exact ⟨⟨rfl,alike.secret,fun _ => congrArg (OscCapture.put · byte) (alike.osc state)⟩,rfl⟩
      · exact ⟨alike,rfl⟩

theorem feed_alike : Alike (one.feed base64 byte).1 (two.feed base64 byte).1 ∧
      (one.feed base64 byte).2 = (two.feed base64 byte).2 := by
  unfold OutputScanner.feed
  rw [← alike.state,← anywhere_alike alike]
  split
  · rename_i ground
    refine ⟨?_,rfl⟩
    unfold OutputScanner.feedGround
    split
    · exact ⟨rfl,alike.secret,nofun⟩
    · exact ⟨alike.state,alike.secret,fun inside => by rw [ground] at inside; cases inside⟩
  · split
    · split
      · rename_i ended
        have closed : Alike {one with osc := .empty} {two with osc := .empty} := ⟨alike.state,alike.secret,fun _ => rfl⟩
        exact ⟨enter_alike closed,dispatchOsc_alike alike ended.1⟩
      · exact ⟨enter_alike alike,rfl⟩
    · exact feedState_alike alike

theorem scan_alike (seq : Nat) (bytes : Bytes) : Alike (scanAll base64 one bytes) (scanAll base64 two bytes) ∧
      scanEvents base64 one seq bytes = scanEvents base64 two seq bytes := by
  induction bytes generalizing one two seq with
  | nil => exact ⟨alike,rfl⟩
  | cons byte rest ih =>
    obtain ⟨kept,event⟩ := feed_alike alike
    obtain ⟨last,events⟩ := ih kept (seq + 1)
    exact ⟨last,by simp only [scanEvents,event,events]⟩

end

section
variable (scanner : OutputScanner)

theorem enter_frame :
    (scanner.enter next).secret = scanner.secret ∧ (scanner.enter next).utf8Pending = scanner.utf8Pending := by
  unfold OutputScanner.enter
  split
  · exact ⟨rfl,rfl⟩
  · exact ⟨rfl,rfl⟩

theorem advance_frame :
    (scanner.advance next).secret = scanner.secret ∧ (scanner.advance next).utf8Pending = scanner.utf8Pending := by
  cases next with
  | none => exact ⟨rfl,rfl⟩
  | some state => exact enter_frame scanner

theorem feedState_frame : (scanner.feedState base64 byte).1.secret = scanner.secret ∧
      (scanner.feedState base64 byte).1.utf8Pending = scanner.utf8Pending := by
  unfold OutputScanner.feedState
  cases scanner.state with
  | escape =>
    simp only
    split
    · exact ⟨rfl,rfl⟩
    · exact advance_frame scanner
  | csi scan =>
    simp only
    split
    · exact ⟨rfl,rfl⟩
    · exact ⟨rfl,rfl⟩
  | osc =>
    simp only
    split
    · exact ⟨rfl,rfl⟩
    · split
      · exact ⟨rfl,rfl⟩
      · exact ⟨rfl,rfl⟩
  | escapeIntermediate | dcsEntry | dcsParam | dcsIntermediate => exact advance_frame scanner
  | _ => exact ⟨rfl,rfl⟩

-- The secret stays, and the continuation bytes owed are counted in ground only.
theorem feed_frame : (scanner.feed base64 byte).1.secret = scanner.secret ∧ (scanner.feed base64 byte).1.utf8Pending =
      if scanner.state = .ground then (scanner.feedGround byte).utf8Pending else scanner.utf8Pending := by
  unfold OutputScanner.feed
  split
  · refine ⟨?_,rfl⟩
    unfold OutputScanner.feedGround
    split <;> rfl
  · split
    · split
      · exact enter_frame _
      · exact enter_frame _
    · exact feedState_frame scanner

theorem scanAll_secret (bytes : Bytes) : (scanAll base64 scanner bytes).secret = scanner.secret := by
  induction bytes generalizing scanner with
  | nil => rfl
  | cons byte rest ih => exact (ih (scanner.feed base64 byte).1).trans (feed_frame scanner).1

end

theorem pending_alike (alike : Alike one two) (same : one.utf8Pending = two.utf8Pending) {bytes : Bytes} :
    (scanAll base64 one bytes).utf8Pending = (scanAll base64 two bytes).utf8Pending := by
  induction bytes generalizing one two with
  | nil => exact same
  | cons byte rest ih =>
    refine ih (feed_alike alike).1 ?_
    rw [(feed_frame one).2,(feed_frame two).2,alike.state,same]
    split
    · unfold OutputScanner.feedGround
      split
      · rfl
      · rw [same]
    · rfl

theorem checkpoint_fields {terminal : TerminalState V}
    (taken : terminal.checkpointFrom vendor maxBytes lineLimit = some checkpoint) :
    ∃ lines, checkpoint = terminal.checkpointAt vendor lines := by
  fun_induction checkpointFrom vendor terminal maxBytes lineLimit with
  | case1 lineLimit made fits => exact ⟨lineLimit,(Option.some.inj taken).symm⟩
  | case2 checkpoint big => cases taken
  | case3 lineLimit checkpoint big more ih => exact ih taken

-- The capture of an OSC that was broken off is not restored; no byte reads it.
theorem restore_watched {vendor : Vendor V} {terminal : TerminalState V} (historyLineLimit : Nat) (eligible : terminal.checkpointEligible = true)
    (taken : terminal.checkpoint vendor maxBytes = some checkpoint) :
    let rebuilt := restore vendor checkpoint historyLineLimit terminal.scanner.secret
    rebuilt.title = terminal.title ∧ rebuilt.command.state = terminal.command.state ∧
    rebuilt.outputSeq = terminal.outputSeq ∧ rebuilt.answeredQuerySeq = terminal.answeredQuerySeq ∧
    Alike rebuilt.scanner terminal.scanner ∧ rebuilt.scanner.utf8Pending = terminal.scanner.utf8Pending := by
  obtain ⟨_,rfl⟩ := checkpoint_fields taken
  simp only [TerminalState.checkpointEligible,OutputScanner.betweenSequences,Bool.and_eq_true,decide_eq_true_eq] at eligible
  refine ⟨rfl,rfl,rfl,rfl,⟨eligible.1.symm,rfl,nofun⟩,eligible.2.symm⟩

theorem checkpoint_cut_transparent (vendor : Vendor V) (terminal : TerminalState V) (first second whole : List Bytes)
    (stream : whole.flatten = first.flatten ++ second.flatten)
    (eligible : (feedAll vendor terminal first).1.checkpointEligible = true)
    (taken : (feedAll vendor terminal first).1.checkpoint vendor maxBytes = some checkpoint) (historyLineLimit : Nat) :
    let live := feedAll vendor terminal whole
    let rebuilt := feedAll vendor (.restore vendor checkpoint historyLineLimit terminal.scanner.secret) second
    rebuilt.1.title = live.1.title ∧ rebuilt.1.command.state = live.1.command.state ∧
    rebuilt.1.outputSeq = live.1.outputSeq ∧ rebuilt.1.answeredQuerySeq = live.1.answeredQuerySeq ∧
    live.2 = (feedAll vendor terminal first).2 ++ rebuilt.2 ∧
    Alike rebuilt.1.scanner live.1.scanner ∧ rebuilt.1.scanner.utf8Pending = live.1.scanner.utf8Pending := by
  obtain ⟨before,queriesBefore⟩ := feedAll_watched _ _ _
  obtain ⟨lived,queriesLived⟩ := feedAll_watched _ _ whole
  rw [stream,after_append,← before] at lived
  rw [stream,events_append,← before] at queriesLived
  have secret : (feedAll vendor terminal first).1.scanner.secret = terminal.scanner.secret :=
    (congrArg (fun watched => watched.scanner.secret) before).trans (scanAll_secret _ _)
  generalize (feedAll vendor terminal first).1 = cut at *
  rw [← secret]
  obtain ⟨title,command,seq,answered,alike,pending⟩ := restore_watched _ eligible taken
  obtain ⟨rebuilt,queriesRebuilt⟩ := feedAll_watched vendor
    (.restore vendor checkpoint historyLineLimit cut.scanner.secret) second
  generalize restore vendor checkpoint historyLineLimit cut.scanner.secret = start at *
  obtain ⟨last,events⟩ := scan_alike alike (cut.outputSeq + 1) _
  have same : start.watched.events vendor.base64 second.flatten = cut.watched.events vendor.base64 second.flatten := by
    simp only [Watched.events,TerminalState.watched,seq]
    exact events
  have fields : start.watched.after vendor.base64 second.flatten =
      {cut.watched.after vendor.base64 second.flatten with
        scanner := scanAll vendor.base64 start.scanner second.flatten} := by
    simp only [Watched.after,same]
    simp only [TerminalState.watched,title,command,seq,answered]
  rw [fields] at rebuilt
  have scannerRebuilt : (feedAll vendor start second).1.scanner = scanAll vendor.base64 start.scanner second.flatten :=
    congrArg Watched.scanner rebuilt
  have scannerLived : (feedAll vendor terminal whole).1.scanner = scanAll vendor.base64 cut.scanner second.flatten :=
    congrArg Watched.scanner lived
  refine ⟨?_,?_,?_,?_,?_,?_,?_⟩
  · exact (congrArg Watched.title rebuilt).trans (congrArg Watched.title lived).symm
  · exact (congrArg Watched.command rebuilt).trans (congrArg Watched.command lived).symm
  · exact (congrArg Watched.outputSeq rebuilt).trans (congrArg Watched.outputSeq lived).symm
  · exact (congrArg Watched.answeredQuerySeq rebuilt).trans (congrArg Watched.answeredQuerySeq lived).symm
  · rw [queriesLived,queriesBefore,queriesRebuilt,same,queried,List.filterMap_append]
    rfl
  · rw [scannerRebuilt,scannerLived]
    exact last
  · rw [scannerRebuilt,scannerLived]
    exact pending_alike alike pending

def titleBytes : Bytes := 0x1b :: ascii "]0;one" ++ [0x07]

def da1Bytes : Bytes := 0x1b :: ascii "[c"

theorem checkpoint_cut_transparent_between : let terminal := TerminalState.new blankVendor 24 80 0
    let whole := feedAll blankVendor terminal [titleBytes.take 3,titleBytes.drop 3 ++ da1Bytes]
    ∃ checkpoint, (feedAll blankVendor terminal [titleBytes]).1.checkpoint blankVendor 1000 = some checkpoint ∧
      whole.2 = [.da1 11] ∧
      (feedAll blankVendor (.restore blankVendor checkpoint 0 "") [da1Bytes]).1.title = whole.1.title ∧
      whole.2 = (feedAll blankVendor terminal [titleBytes]).2 ++
        (feedAll blankVendor (.restore blankVendor checkpoint 0 "") [da1Bytes]).2 := by
  have taken : (feedAll blankVendor (.new blankVendor 24 80 0) [titleBytes]).1.checkpoint blankVendor 1000 =
      some ((feedAll blankVendor (.new blankVendor 24 80 0) [titleBytes]).1.checkpointAt blankVendor 0) := by
    rw [TerminalState.checkpoint,checkpointFrom]
    exact if_pos (by decide +kernel)
  have cut := checkpoint_cut_transparent _ (.new blankVendor 24 80 0) [titleBytes] [da1Bytes]
    [titleBytes.take 3,titleBytes.drop 3 ++ da1Bytes] rfl (by decide +kernel) taken 0
  exact ⟨_,taken,by decide +kernel,cut.1,cut.2.2.2.2.1⟩

end Coflux.Sessiond
