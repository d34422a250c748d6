import Coflux.Sessiond.Events

namespace Coflux.Sessiond
open Text
open OutputScanner (advance anywhere enter escapeNext feed feedGround feedState honoursC1)

def scanMarks (base64 : Bytes → Option Bytes) : OutputScanner → Bytes → List Mark
  | _,[] => []
  | scanner,byte :: rest =>
    ((scanner.feed base64 byte).2.bind markOf).toList ++ scanMarks base64 (scanner.feed base64 byte).1 rest

theorem marks_scanEvents (seq : Nat) :
    marks (scanEvents base64 scanner seq bytes) = scanMarks base64 scanner bytes := by
  induction bytes generalizing scanner seq with
  | nil => rfl
  | cons byte rest ih =>
    rw [scanEvents,marks,filterMap_front,← marks,ih]
    rfl

theorem scanMarks_append : scanMarks base64 scanner (first ++ second) =
      scanMarks base64 scanner first ++ scanMarks base64 (scanAll base64 scanner first) second := by
  rw [← marks_scanEvents 0,scanEvents_append,marks,List.filterMap_append,← marks,← marks,marks_scanEvents, marks_scanEvents]

theorem scanMarks_alike (alike : Alike one two) :
    scanMarks base64 one bytes = scanMarks base64 two bytes := by
  rw [← marks_scanEvents 0,← marks_scanEvents 0,(scan_alike alike 0 bytes).2]

-- An OSC runs until BEL, ESC, CAN or SUB; what counts of it are its bytes from
-- the space on.
def OscBody (body : Bytes) : Prop := ∀ byte ∈ body, byte ≠ 0x07 ∧ byte ≠ 0x18 ∧ byte ≠ 0x1a ∧ byte ≠ 0x1b

def payloadOf (body : Bytes) : Bytes := body.filter fun byte => 0x20 ≤ byte

def oscParams (payload : Bytes) : List Bytes := splitN oscParamLimit 0x3b payload

-- A mark of this session: an OSC 133 within the limit that presents the secret
-- after its second parameter.
structure Authentic (secret : String) (payload : Bytes) : Prop where
  named : secret ≠ ""
  limit : payload.length ≤ oscCaptureBytes
  command : (oscParams payload).head? = some (ascii "133")
  presented : ascii "coflux=" ++ utf8 secret ∈ (oscParams payload).drop 2

def captured (payload : Bytes) : OscCapture := payload.foldl OscCapture.put .empty

theorem captured_snoc : captured (payload ++ [byte]) = (captured payload).put byte :=
  List.foldl_concat ..

-- A capture that is wanted holds the front of the payload, and is truncated
-- exactly if that is not all of it.
structure Captures (capture : OscCapture) (payload : Bytes) : Prop where
  undecided : capture.kind = .undecided → capture.payload = payload ∧ payload.length ≤ 4 ∧ capture.truncated = false
  wanted : capture.kind = .wanted →
    capture.payload = payload.take oscCaptureBytes ∧ capture.truncated = decide (oscCaptureBytes < payload.length)

theorem keep_captures (capture : OscCapture) (front : capture.payload = payload.take oscCaptureBytes)
    (cut : capture.truncated = decide (oscCaptureBytes < payload.length)) (byte : UInt8) :
    (capture.keep byte).payload = (payload ++ [byte]).take oscCaptureBytes ∧
      (capture.keep byte).truncated = decide (oscCaptureBytes < (payload ++ [byte]).length) := by
  have length : capture.payload.length = min oscCaptureBytes payload.length := by rw [front,List.length_take]
  unfold OscCapture.keep
  split
  · have short : payload.length < oscCaptureBytes := by omega
    rw [List.take_of_length_le (Nat.le_of_lt short)] at front
    refine ⟨?_,?_⟩
    · rw [List.take_of_length_le (by simp; omega)]
      simp only [front]
    · simp only [cut,List.length_append,List.length_singleton,decide_eq_decide]
      omega
  · have long : oscCaptureBytes ≤ payload.length := by omega
    refine ⟨?_,?_⟩
    · rw [List.take_append_of_le_length long]
      exact front
    · simp only [List.length_append,List.length_singleton]
      exact (decide_eq_true (by omega)).symm

theorem put_captures (captures : Captures capture payload) : Captures (capture.put byte) (payload ++ [byte]) := by
  have keptKind : ∀ (capture : OscCapture), (capture.keep byte).kind = capture.kind := by
    intro capture
    unfold OscCapture.keep
    split <;> rfl
  unfold OscCapture.put
  cases kind : capture.kind with
  | ignored => exact ⟨fun other => by simp [kind] at other,fun other => by simp [kind] at other⟩
  | undecided =>
    obtain ⟨whole,_,uncut⟩ := captures.undecided kind
    have front : capture.payload = payload.take oscCaptureBytes := by
      rw [List.take_of_length_le (by simp [oscCaptureBytes]; omega)]
      exact whole
    have cut : capture.truncated = decide (oscCaptureBytes < payload.length) := by
      rw [uncut]
      exact (decide_eq_false (by simp [oscCaptureBytes]; omega)).symm
    simp only
    split
    · split
      · exact ⟨fun other => by simp [keptKind] at other,
          fun _ => keep_captures {capture with kind := .wanted} front cut byte⟩
      · exact ⟨fun other => by simp at other,fun other => by simp at other⟩
    · split
      · exact ⟨fun other => by simp at other,fun other => by simp at other⟩
      · rename_i room
        have kept := keep_captures capture front cut byte
        refine ⟨fun _ => ⟨?_,?_,?_⟩,fun other => by simp [keptKind,kind] at other⟩
        · rw [kept.1,List.take_of_length_le (by simp [oscCaptureBytes]; omega)]
        · rw [whole] at room
          simp only [List.length_append,List.length_singleton]
          omega
        · rw [kept.2]
          exact decide_eq_false (by simp [oscCaptureBytes]; omega)
  | wanted =>
    obtain ⟨front,cut⟩ := captures.wanted kind
    exact ⟨fun other => by simp [keptKind,kind] at other,fun _ => keep_captures capture front cut _⟩

theorem captured_captures : Captures (captured payload) payload := by
  induction payload using List.reverseRecOn with
  | nil => exact ⟨fun _ => ⟨rfl,Nat.zero_le _,rfl⟩,nofun⟩
  | append_singleton payload byte ih =>
    rw [captured_snoc]
    exact put_captures ih

theorem parseMark_presented (parsed : parseMark params secret = some mark) :
    secret ≠ "" ∧ ascii "coflux=" ++ utf8 secret ∈ params.drop 2 := by
  unfold parseMark at parsed
  split at parsed
  · cases parsed
  · rename_i named
    split at parsed
    · rename_i presented
      obtain ⟨param,mem,found⟩ := List.any_eq_true.mp presented
      refine ⟨?_,?_⟩
      · rintro rfl
        exact named (.inl rfl)
      · have equal : param = ascii "coflux=" ++ utf8 secret := by
          replace found := of_decide_eq_true found
          unfold stripLeading at found
          split at found
          · rename_i leads
            obtain ⟨_,rfl⟩ := List.isPrefixOf_iff_prefix.mp leads
            rw [List.drop_left] at found
            rw [Option.some.inj found]
          · cases found
        exact equal ▸ mem
    · cases parsed

theorem dispatchOsc_mark {scanner : OutputScanner} (dispatched : scanner.dispatchOsc base64 terminator = some (.mark mark)) :
    scanner.osc.kind = .wanted ∧ scanner.osc.truncated = false ∧ (oscParams scanner.osc.payload).head? = some (ascii "133") ∧
      parseMark (oscParams scanner.osc.payload) scanner.secret = some mark := by
  unfold OutputScanner.dispatchOsc at dispatched
  simp only at dispatched
  split at dispatched
  · cases dispatched
  · rename_i wanted
    split at dispatched
    · split at dispatched
      · cases dispatched
      · obtain ⟨_,_,other⟩ := Option.map_eq_some_iff.mp dispatched
        cases other
    · split at dispatched
      · rename_i split
        split at dispatched
        · cases dispatched
        · split at dispatched
          · rename_i marked
            obtain ⟨found,parsed,same⟩ := Option.map_eq_some_iff.mp dispatched
            cases same
            rw [oscParams,split]
            exact ⟨not_not.mp wanted,by simpa using marked.2,by simp [marked.1],parsed⟩
          · cases dispatched
      · split at dispatched
        · rename_i marked
          obtain ⟨_,parsed,same⟩ := Option.map_eq_some_iff.mp dispatched
          cases same
          exact ⟨not_not.mp wanted,by simpa using marked.2,marked.1,parsed⟩
        · cases dispatched

theorem dispatched_authentic {scanner : OutputScanner} (capture : scanner.osc = captured payload)
    (dispatched : scanner.dispatchOsc base64 terminator = some (.mark mark)) : Authentic scanner.secret payload := by
  obtain ⟨wanted,uncut,command,parsed⟩ := dispatchOsc_mark dispatched
  rw [capture] at wanted uncut command parsed
  obtain ⟨front,cut⟩ := captured_captures.wanted wanted
  have short : payload.length ≤ oscCaptureBytes := by
    rw [uncut] at cut
    exact Nat.not_lt.mp (of_decide_eq_false cut.symm)
  rw [List.take_of_length_le short] at front
  rw [front] at command parsed
  obtain ⟨named,presented⟩ := parseMark_presented parsed
  exact ⟨named,short,command,presented⟩

theorem anywhere_osc {scanner : OutputScanner} (inside : scanner.state = .osc) : scanner.anywhere byte =
      if byte = 0x18 || byte = 0x1a then some .ground else if byte = 0x1b then some .escape else none := by
  have deaf : scanner.honoursC1 = false := by simp [honoursC1,inside]
  simp [anywhere,deaf]

section
variable (base64 : Bytes → Option Bytes)

theorem feed_body {scanner : OutputScanner} (inside : scanner.state = .osc)
    (body : byte ≠ 0x07 ∧ byte ≠ 0x18 ∧ byte ≠ 0x1a ∧ byte ≠ 0x1b) :
    scanner.feed base64 byte = ({scanner with osc := if 0x20 ≤ byte then scanner.osc.put byte else scanner.osc},none) := by
  obtain ⟨bel,can,sub,esc⟩ := body
  have stays : scanner.anywhere byte = none := by simp [anywhere_osc inside,can,sub,esc]
  simp only [feed,inside,reduceCtorEq,if_false,stays,feedState,bel]
  split
  · rfl
  · rw [← inside]

theorem feed_bel {scanner : OutputScanner} (inside : scanner.state = .osc) :
    scanner.feed base64 0x07 = ({scanner with state := .ground,osc := .empty},scanner.dispatchOsc base64 .bel) := by
  have stays : scanner.anywhere 0x07 = none := by simp [anywhere_osc inside]
  simp [feed,inside,stays,feedState]

theorem feed_esc {scanner : OutputScanner} (inside : scanner.state = .osc) :
    scanner.feed base64 0x1b = ({scanner with state := .escape,osc := .empty},scanner.dispatchOsc base64 .st) := by
  have leaves : scanner.anywhere 0x1b = some .escape := by simp [anywhere_osc inside]
  simp [feed,inside,leaves,enter]

end

theorem feed_still_inside {scanner : OutputScanner} (inside : scanner.state = .osc)
    (still : (scanner.feed base64 byte).1.state = .osc) : byte ≠ 0x07 ∧ byte ≠ 0x18 ∧ byte ≠ 0x1a ∧ byte ≠ 0x1b := by
  refine ⟨?_,?_,?_,?_⟩
  · rintro rfl
    rw [feed_bel base64 inside] at still
    cases still
  · rintro rfl
    have leaves : scanner.anywhere 0x18 = some .ground := by simp [anywhere_osc inside]
    simp [feed,inside,leaves,enter] at still
  · rintro rfl
    have leaves : scanner.anywhere 0x1a = some .ground := by simp [anywhere_osc inside]
    simp [feed,inside,leaves,enter] at still
  · rintro rfl
    rw [feed_esc base64 inside] at still
    cases still

theorem enter_opens {scanner : OutputScanner} (opened : (scanner.enter next).state = .osc) :
    (scanner.enter next).osc = .empty := by
  unfold enter at opened ⊢
  split
  · rfl
  · rename_i other
    rw [if_neg other] at opened
    exact absurd opened other

theorem advance_opens {scanner : OutputScanner} (outside : scanner.state ≠ .osc)
    (opened : (scanner.advance next).state = .osc) : (scanner.advance next).osc = .empty := by
  cases next with
  | none => exact absurd opened outside
  | some state => exact enter_opens opened

theorem feed_opens {scanner : OutputScanner} (outside : scanner.state ≠ .osc)
    (opened : (scanner.feed base64 byte).1.state = .osc) : (scanner.feed base64 byte).1.osc = .empty := by
  unfold feed at opened ⊢
  split
  · rename_i ground
    rw [if_pos ground] at opened
    unfold feedGround at opened
    split at opened
    · cases opened
    · exact absurd opened outside
  · rename_i busy
    rw [if_neg busy] at opened
    split
    · rename_i found
      simp only [found,outside,false_and,if_false] at opened ⊢
      exact enter_opens opened
    · rename_i found
      simp only [found] at opened
      unfold feedState at opened ⊢
      cases state : scanner.state with
      | osc => exact absurd state outside
      | escape =>
        simp only [state] at opened ⊢
        split
        · rename_i reset
          rw [if_pos reset] at opened
          cases opened
        · rename_i other
          rw [if_neg other] at opened
          exact advance_opens outside opened
      | csi scan =>
        simp only [state] at opened ⊢
        split at opened <;> cases opened
      | escapeIntermediate | dcsEntry | dcsParam | dcsIntermediate => simp only [state] at opened ⊢; exact advance_opens outside opened
      | ground => exact absurd state busy
      | dcsBody | sosPmApc => simp only [state] at opened; cases opened

theorem csi_never_marks {scan : CsiScan} (ended : scan.feed byte = .inr event) :
    event ≠ some (.mark mark) := by
  unfold CsiScan.feed at ended
  split at ended
  · cases ended
  · split at ended
    · cases ended
    · split at ended
      · cases ended
      · split at ended
        · cases ended
        · split at ended
          · cases ended
            intro marked
            simp only [CsiScan.final] at marked
            repeat' split at marked
            all_goals cases marked
          · cases ended

-- The only bytes that complete a mark are BEL and ESC inside an OSC.
theorem feed_mark {scanner : OutputScanner} (marked : (scanner.feed base64 byte).2 = some (.mark mark)) :
    scanner.state = .osc ∧ (byte = 0x07 ∨ byte = 0x1b) ∧
      ∃ terminator, scanner.dispatchOsc base64 terminator = some (.mark mark) := by
  unfold feed at marked
  split at marked
  · cases marked
  · rename_i busy
    split at marked
    · split at marked
      · rename_i ended
        exact ⟨ended.1,.inr ended.2,.st,marked⟩
      · cases marked
    · unfold feedState at marked
      cases state : scanner.state with
      | osc =>
        simp only [state] at marked
        split at marked
        · rename_i bel
          exact ⟨rfl,.inl bel,.bel,marked⟩
        · split at marked <;> cases marked
      | escape =>
        simp only [state] at marked
        split at marked <;> cases marked
      | csi scan =>
        simp only [state] at marked
        split at marked
        · cases marked
        · rename_i found
          exact absurd marked (csi_never_marks found)
      | ground => exact absurd state busy
      | _ => simp only [state] at marked; cases marked

def OscOpened (base64 : Bytes → Option Bytes) (start : OutputScanner) (before : Bytes) : Prop :=
  ∃ earlier last, before = earlier ++ [last] ∧ (scanAll base64 start earlier).state ≠ .osc ∧
    (scanAll base64 start before).state = .osc

theorem scanAll_snoc :
    scanAll base64 scanner (bytes ++ [byte]) = ((scanAll base64 scanner bytes).feed base64 byte).1 :=
  List.foldl_concat ..

theorem inside_osc {start : OutputScanner} (outside : start.state ≠ .osc)
    (inside : (scanAll base64 start bytes).state = .osc) :
    ∃ before body, bytes = before ++ body ∧ OscOpened base64 start before ∧ OscBody body ∧
      (scanAll base64 start bytes).osc = captured (payloadOf body) := by
  induction bytes using List.reverseRecOn with
  | nil => exact absurd inside outside
  | append_singleton bytes byte ih =>
    rw [scanAll_snoc] at inside ⊢
    by_cases already : (scanAll base64 start bytes).state = .osc
    · obtain ⟨before,body,rfl,opened,clean,capture⟩ := ih already
      have part := feed_still_inside already inside
      refine ⟨before,body ++ [byte],List.append_assoc .. ,opened,?_,?_⟩
      · exact List.forall_mem_append.mpr ⟨clean,fun _ last => List.mem_singleton.mp last ▸ part⟩
      · rw [feed_body base64 already part]
        by_cases counts : 0x20 ≤ byte
        · simp [counts,capture,payloadOf,List.filter_append,captured_snoc]
        · simp [counts,capture,payloadOf,List.filter_append]
    · refine ⟨bytes ++ [byte],[],(List.append_nil _).symm,⟨bytes,byte,rfl,already,?_⟩,nofun,?_⟩
      · rw [scanAll_snoc]
        exact inside
      · exact feed_opens already inside

theorem marked_authentic {start : OutputScanner} (outside : start.state ≠ .osc)
    (marked : ((scanAll base64 start bytes).feed base64 byte).2 = some (.mark mark)) :
    ∃ before body, bytes = before ++ body ∧ OscOpened base64 start before ∧ OscBody body ∧
      Authentic start.secret (payloadOf body) ∧ (byte = 0x07 ∨ byte = 0x1b) := by
  obtain ⟨inside,ends,_,dispatched⟩ := feed_mark marked
  obtain ⟨before,body,parts,opened,clean,capture⟩ := inside_osc outside inside
  have authentic := dispatched_authentic capture dispatched
  rw [scanAll_secret] at authentic
  exact ⟨before,body,parts,opened,clean,authentic,ends⟩

structure Decoy (secret : String) (body : Bytes) : Prop where
  clean : OscBody body
  forged : ¬Authentic secret (payloadOf body)

def oscEnd : OscTerminator → Bytes
  | .bel => [0x07]
  | .st => [0x1b,0x5c]

def Skipped (byte : UInt8) : Prop :=
  byte ≠ 0x18 ∧ byte ≠ 0x1a ∧ byte ≠ 0x1b ∧ byte ≠ 0x63 ∧ inside 0x80 0x9f byte = false ∧
    OutputScanner.escapeNext byte = none

-- By ESC and a bracket, by the rest of that after an ESC, by the C1 byte where it is honoured.
inductive Introduces (scanner : OutputScanner) : Bytes → Prop where
  | escape (gap : Bytes) : (∀ byte ∈ gap, Skipped byte) → Introduces scanner (0x1b :: gap ++ [0x5d])
  | bracket (gap : Bytes) : scanner.state = .escape → (∀ byte ∈ gap, Skipped byte) → Introduces scanner (gap ++ [0x5d])
  | c1 : scanner.honoursC1 = true → Introduces scanner [0x9d]

def interrupted (base64 : Bytes → Option Bytes) (scanner : OutputScanner) : List Mark :=
  if scanner.state = .osc then ((scanner.dispatchOsc base64 .st).bind markOf).toList else []

theorem skipped_feed {scanner : OutputScanner} (escape : scanner.state = .escape) (skipped : Skipped byte) :
    scanner.feed base64 byte = (scanner,none) := by
  obtain ⟨can,sub,esc,reset,plain,nothing⟩ := skipped
  have stays : scanner.anywhere byte = none := by simp [anywhere,can,sub,esc,plain]
  simp only [feed,escape,reduceCtorEq,if_false,stays,feedState,reset,nothing, advance]

section
variable {base64 : Bytes → Option Bytes}

theorem bracket_opens {scanner : OutputScanner} (escape : scanner.state = .escape) (skipped : ∀ byte ∈ gap, Skipped byte) :
    scanAll base64 scanner (gap ++ [0x5d]) = {scanner with state := .osc,osc := .empty} ∧
      scanMarks base64 scanner (gap ++ [0x5d]) = [] := by
  induction gap with
  | nil =>
    have stays : scanner.anywhere 0x5d = none := by
      simp [anywhere,show inside 0x80 0x9f 0x5d = false from by decide]
    have opened : scanner.feed base64 0x5d = ({scanner with state := .osc,osc := .empty},none) := by
      simp [feed,escape,stays,feedState,advance,enter, show escapeNext 0x5d = some .osc from by decide]
    exact ⟨congrArg Prod.fst opened,by simp [scanMarks,opened]⟩
  | cons byte rest ih =>
    have passed : scanner.feed base64 byte = (scanner,none) := skipped_feed escape (skipped _ List.mem_cons_self)
    obtain ⟨state,nothing⟩ := ih fun other mem => skipped other (List.mem_cons_of_mem _ mem)
    refine ⟨?_,?_⟩
    · simp only [List.cons_append,scanAll,List.foldl_cons,passed]
      exact state
    · simp only [List.cons_append,scanMarks,passed]
      exact nothing

theorem feed_esc_outside {scanner : OutputScanner} (outside : scanner.state ≠ .osc) :
    (scanner.feed base64 0x1b).1.state = .escape ∧ (scanner.feed base64 0x1b).2 = none := by
  by_cases ground : scanner.state = .ground
  · simp [feed,ground,feedGround]
  · have leaves : scanner.anywhere 0x1b = some .escape := by simp [anywhere]
    simp [feed,ground,leaves,outside,enter]

theorem introduced {scanner : OutputScanner} (introduces : Introduces scanner intro) :
    (scanAll base64 scanner intro).state = .osc ∧ (scanAll base64 scanner intro).osc = .empty ∧
      scanMarks base64 scanner intro = interrupted base64 scanner := by
  cases introduces with
  | escape gap skipped =>
    have escaped : (scanner.feed base64 0x1b).1.state = .escape ∧
        ((scanner.feed base64 0x1b).2.bind markOf).toList = interrupted base64 scanner := by
      by_cases inside : scanner.state = .osc
      · rw [feed_esc base64 inside,interrupted,if_pos inside]
        exact ⟨rfl,rfl⟩
      · obtain ⟨state,nothing⟩ := feed_esc_outside inside
        rw [nothing,interrupted,if_neg inside]
        exact ⟨state,rfl⟩
    obtain ⟨state,nothing⟩ := bracket_opens escaped.1 skipped
    refine ⟨?_,?_,?_⟩
    · exact congrArg OutputScanner.state state
    · exact congrArg OutputScanner.osc state
    · simp only [List.cons_append,scanMarks,nothing,List.append_nil]
      exact escaped.2
  | bracket gap escape skipped =>
    obtain ⟨state,nothing⟩ := bracket_opens escape skipped
    rw [state,nothing,interrupted,if_neg (by simp [escape])]
    exact ⟨rfl,rfl,rfl⟩
  | c1 honoured =>
    have outside : scanner.state ≠ .ground ∧ scanner.state ≠ .osc := by
      simp only [honoursC1,Bool.not_eq_true',Bool.or_eq_false_iff,decide_eq_false_iff_not] at honoured
      exact honoured.1
    have opens : scanner.anywhere 0x9d = some .osc := by
      simp [anywhere,honoured,show inside 0x80 0x9f 0x9d = true from by decide]
    have fed : scanner.feed base64 0x9d = ({scanner with state := .osc,osc := .empty},none) := by
      simp [feed,outside.1,opens,enter]
    refine ⟨?_,?_,?_⟩
    · simp [scanAll,fed]
    · simp [scanAll,fed]
    · simp [scanMarks,fed,interrupted,outside.2]

theorem body_scanned {scanner : OutputScanner} (inside : scanner.state = .osc) (opened : scanner.osc = captured payload)
    (clean : OscBody body) :
    (scanAll base64 scanner body).state = .osc ∧ (scanAll base64 scanner body).osc = captured (payload ++ payloadOf body) ∧
      scanMarks base64 scanner body = [] := by
  induction body generalizing scanner payload with
  | nil => exact ⟨inside,by rw [payloadOf,List.filter_nil,List.append_nil]; exact opened,rfl⟩
  | cons byte rest ih =>
    have fed := feed_body base64 inside (clean _ List.mem_cons_self)
    have clean : OscBody rest := fun other mem => clean other (List.mem_cons_of_mem _ mem)
    have part : (scanner.feed base64 byte).1.osc = captured (payload ++ payloadOf [byte]) := by
      rw [fed]
      by_cases counts : 0x20 ≤ byte
      · simp [counts,opened,payloadOf,captured_snoc]
      · simp [counts,opened,payloadOf]
    have still : (scanner.feed base64 byte).1.state = .osc := by
      rw [fed]
      exact inside
    obtain ⟨state,capture,nothing⟩ := ih still part clean
    refine ⟨state,capture.trans ?_,?_⟩
    · rw [List.append_assoc,payloadOf,payloadOf,payloadOf,← List.filter_append]
      rfl
    · rw [scanMarks,nothing,fed]
      rfl

theorem decoy_ended {scanner : OutputScanner} (inside : scanner.state = .osc) (capture : scanner.osc = captured payload)
    (forged : ¬Authentic scanner.secret payload) :
    (scanAll base64 scanner (oscEnd terminator)).state = .ground ∧ scanMarks base64 scanner (oscEnd terminator) = [] := by
  have silent : ∀ terminator, ((scanner.dispatchOsc base64 terminator).bind markOf) = none := by
    intro terminator
    cases dispatched : scanner.dispatchOsc base64 terminator with
    | none => rfl
    | some event =>
      cases event with
      | mark mark => exact absurd (dispatched_authentic capture dispatched) forged
      | _ => rfl
  cases terminator with
  | bel =>
    have fed := feed_bel base64 inside
    refine ⟨?_,?_⟩
    · simp [oscEnd,scanAll,fed]
    · simp [oscEnd,scanMarks,fed,silent]
  | st =>
    have fed := feed_esc base64 inside
    have stays : ∀ (scanner : OutputScanner), scanner.anywhere 0x5c = none := by
      intro scanner
      simp [anywhere,show Sessiond.inside 0x80 0x9f 0x5c = false from by decide]
    have closed : ∀ (scanner : OutputScanner), scanner.state = .escape →
        scanner.feed base64 0x5c = ({scanner with state := .ground},none) := by
      intro scanner escape
      simp [feed,escape,stays,feedState,advance,enter, show escapeNext 0x5c = some .ground from by decide]
    refine ⟨?_,?_⟩
    · simp [oscEnd,scanAll,fed,closed]
    · simp [oscEnd,scanMarks,fed,closed,silent]

section
variable (introduces : Introduces scanner intro) (decoy : Decoy scanner.secret body) {terminator : OscTerminator}
include introduces decoy terminator

theorem decoy_scanned :
    Alike (scanAll base64 scanner (intro ++ body ++ oscEnd terminator)) (.withSecret scanner.secret) ∧
      scanMarks base64 scanner (intro ++ body ++ oscEnd terminator) = interrupted base64 scanner := by
  obtain ⟨state,opened,broken⟩ := introduced introduces
  obtain ⟨inside,capture,silent⟩ := body_scanned state (opened.trans (show OscCapture.empty = captured [] from rfl)) decoy.clean
  rw [List.nil_append] at capture
  have forged : ¬Authentic (scanAll base64 (scanAll base64 scanner intro) body).secret (payloadOf body) := by
    rw [scanAll_secret,scanAll_secret]
    exact decoy.forged
  obtain ⟨ground,nothing⟩ := decoy_ended inside capture forged
  rw [scanAll_append,scanAll_append,scanMarks_append,scanMarks_append,scanAll_append,broken,silent,nothing]
  refine ⟨⟨ground,?_,fun osc => by rw [ground] at osc; cases osc⟩,by simp⟩
  rw [scanAll_secret,scanAll_secret,scanAll_secret]
  rfl

theorem decoy_passed : scanMarks base64 scanner (intro ++ body ++ oscEnd terminator ++ rest) =
      interrupted base64 scanner ++ scanMarks base64 (.withSecret scanner.secret) rest := by
  obtain ⟨alike,marks⟩ := decoy_scanned introduces decoy
  rw [scanMarks_append,marks,scanMarks_alike alike]

end

end

-- Two streams that differ in decoys only.
inductive SameButDecoys (base64 : Bytes → Option Bytes) : OutputScanner → Bytes → Bytes → Prop where
  | done (scanner : OutputScanner) : SameButDecoys base64 scanner [] []
  | byte (scanner : OutputScanner) (byte : UInt8) (one two : Bytes) :
      SameButDecoys base64 (scanner.feed base64 byte).1 one two →
      SameButDecoys base64 scanner (byte :: one) (byte :: two)
  | replaced (scanner : OutputScanner) (intro body other instead one two : Bytes) (ends closes : OscTerminator) :
      Introduces scanner intro → Decoy scanner.secret body → Introduces scanner other → Decoy scanner.secret instead →
      SameButDecoys base64 (.withSecret scanner.secret) one two →
      SameButDecoys base64 scanner (intro ++ body ++ oscEnd ends ++ one) (other ++ instead ++ oscEnd closes ++ two)
  | inserted (scanner : OutputScanner) (intro body one two : Bytes) (ends : OscTerminator) :
      scanner.state = .ground → Introduces scanner intro → Decoy scanner.secret body →
      SameButDecoys base64 (.withSecret scanner.secret) one two →
      SameButDecoys base64 scanner (intro ++ body ++ oscEnd ends ++ one) two
  | removed (scanner : OutputScanner) (intro body one two : Bytes) (ends : OscTerminator) :
      scanner.state = .ground → Introduces scanner intro → Decoy scanner.secret body →
      SameButDecoys base64 (.withSecret scanner.secret) one two →
      SameButDecoys base64 scanner one (intro ++ body ++ oscEnd ends ++ two)

theorem ground_alike (ground : scanner.state = .ground) : Alike scanner (.withSecret scanner.secret) :=
  ⟨ground,rfl,fun osc => by rw [ground] at osc; cases osc⟩

theorem decoys_unmarked (same : SameButDecoys base64 scanner one two) :
    scanMarks base64 scanner one = scanMarks base64 scanner two := by
  induction same with
  | done scanner => rfl
  | byte scanner byte one two same ih => simp only [scanMarks,ih]
  | replaced scanner intro body other instead one two ends closes introduces decoy introducesOther decoyOther same ih =>
    rw [decoy_passed introduces decoy,decoy_passed introducesOther decoyOther,ih]
  | inserted scanner intro body one two ends ground introduces decoy same ih =>
    rw [decoy_passed introduces decoy,ih,← scanMarks_alike (ground_alike ground),interrupted,
      if_neg (by simp [ground]),List.nil_append]
  | removed scanner intro body one two ends ground introduces decoy same ih =>
    rw [decoy_passed introduces decoy,← ih,← scanMarks_alike (ground_alike ground),interrupted,
      if_neg (by simp [ground]),List.nil_append]

theorem feedAll_command : (feedAll vendor terminal batches).1.command.state =
      (scanMarks vendor.base64 terminal.scanner batches.flatten).foldl CommandStateInfo.marked terminal.command.state := by
  refine (congrArg Watched.command (feedAll_watched _ _ _).1).trans ?_
  simp only [Watched.after,Watched.events,marks_scanEvents]
  rfl

theorem unnamed_unmarked (outside : start.state ≠ .osc) (unnamed : start.secret = "") :
    scanMarks base64 start bytes = [] := by
  induction bytes using List.reverseRecOn with
  | nil => rfl
  | append_singleton bytes byte ih =>
    rw [scanMarks_append,ih,List.nil_append]
    cases event : ((scanAll base64 start bytes).feed base64 byte).2 with
    | none => simp [scanMarks,event]
    | some found =>
      cases found with
      | mark mark =>
        obtain ⟨_,_,_,_,_,authentic,_⟩ := marked_authentic outside event
        exact absurd unnamed authentic.named
      | _ => simp [scanMarks,event,markOf]

-- The command state changes only at the end of an OSC 133 within the limit that presents the
-- secret; without a secret it never changes.
theorem marks_are_authentic (vendor : Vendor V) (terminal : TerminalState V) (outside : terminal.scanner.state ≠ .osc) :
    (∀ bytes byte first second, first.flatten = bytes → second.flatten = bytes ++ [byte] →
      (feedAll vendor terminal second).1.command.state ≠ (feedAll vendor terminal first).1.command.state →
      ∃ before body, bytes = before ++ body ∧ OscOpened vendor.base64 terminal.scanner before ∧ OscBody body ∧
        Authentic terminal.scanner.secret (payloadOf body) ∧ (byte = 0x07 ∨ byte = 0x1b)) ∧
    (∀ first second, SameButDecoys vendor.base64 terminal.scanner first.flatten second.flatten →
      (feedAll vendor terminal first).1.command.state = (feedAll vendor terminal second).1.command.state) ∧
    (terminal.scanner.secret = "" → ∀ batches,
      (feedAll vendor terminal batches).1.command.state = terminal.command.state) := by
  refine ⟨?_,?_,?_⟩
  · intro bytes byte first second one two changed
    rw [feedAll_command,feedAll_command,one,two,scanMarks_append,List.foldl_append] at changed
    cases event : ((scanAll vendor.base64 terminal.scanner bytes).feed vendor.base64 byte).2 with
    | none => simp [scanMarks,event] at changed
    | some found =>
      cases found with
      | mark mark => exact marked_authentic outside event
      | _ => simp [scanMarks,event,markOf] at changed
  · intro first second same
    rw [feedAll_command,feedAll_command,decoys_unmarked same]
  · intro unnamed batches
    rw [feedAll_command,unnamed_unmarked outside unnamed]
    rfl

def secretTerminal : TerminalState Unit := (TerminalState.new blankVendor 24 80 0).withMarkSecret "key"

def commandMark (secret : String) : Bytes := ascii "133;C;coflux=" ++ ascii secret

theorem marks_are_authentic_forged :
    (feedAll blankVendor secretTerminal [0x1b :: ascii "]" ++ commandMark "keys" ++ [0x07]]).1.command.state =
      (feedAll blankVendor secretTerminal []).1.command.state ∧
    (feedAll blankVendor secretTerminal [0x1b :: ascii "]" ++ commandMark "key" ++ [0x07]]).1.command.state.busy = true := by
  have decoy : Decoy "key" (commandMark "keys") := by
    refine ⟨?_,?_⟩
    · unfold OscBody
      decide +kernel
    · intro authentic
      exact absurd authentic.presented (by decide +kernel)
  have inserted : SameButDecoys blankVendor.base64 secretTerminal.scanner
      (0x1b :: [] ++ [0x5d] ++ commandMark "keys" ++ oscEnd .bel ++ []) [] :=
    .inserted _ _ _ _ _ .bel rfl (.escape [] nofun) decoy (.done _)
  exact ⟨(marks_are_authentic _ secretTerminal nofun).2.1 _ _ inserted,by decide +kernel⟩

end Coflux.Sessiond
