import Coflux.Sessiond.Terminal

namespace Coflux.Sessiond
open Text

-- The parser a terminal has, after the VT500 state diagram, for UTF-8 input: 8-bit controls act
-- only outside ground and outside the strings of OSC and DCS.
inductive VtState where
  | ground
  | escape
  | escapeIntermediate
  | csiEntry
  | csiParam
  | csiIntermediate
  | csiIgnore
  | dcsEntry
  | dcsParam
  | dcsIntermediate
  | dcsPassthrough
  | dcsIgnore
  | oscString
  | sosPmApcString
deriving DecidableEq

-- How many bytes the character still wants, and the byte before them.
structure Utf8Decoder where
  need : Nat
  last : UInt8

def utf8Lead (byte : UInt8) : Nat :=
  if inside 0xc2 0xdf byte then 1 else if inside 0xe0 0xef byte then 2 else if inside 0xf0 0xf4 byte then 3 else 0

section
variable (byte : UInt8)

-- Overlong forms, surrogates and what lies beyond the last plane are cut off at the second byte. A
-- byte that does not go on replaces what is pending and is read anew.
def Utf8Decoder.step (decoder : Utf8Decoder) : Utf8Decoder :=
  if 0 < decoder.need ∧ inside 0x80 0xbf byte ∧ ¬(decoder.last = 0xe0 ∧ byte < 0xa0) ∧
      ¬(decoder.last = 0xed ∧ 0x9f < byte) ∧ ¬(decoder.last = 0xf0 ∧ byte < 0x90) ∧
      ¬(decoder.last = 0xf4 ∧ 0x8f < byte) then ⟨decoder.need - 1,byte⟩
  else ⟨utf8Lead byte,byte⟩

structure VtParser where
  state : VtState
  utf8 : Utf8Decoder

def VtState.honoursC1 : VtState → Bool
  | .ground | .oscString | .dcsPassthrough | .dcsIgnore => false
  | _ => true

def VtState.own (state : VtState) : VtState :=
  match state with
  | .escape =>
    if inside 0x20 0x2f byte then .escapeIntermediate
    else if byte = 0x50 then .dcsEntry
    else if byte = 0x5b then .csiEntry
    else if byte = 0x5d then .oscString
    else if byte = 0x58 || byte = 0x5e || byte = 0x5f then .sosPmApcString
    else if inside 0x30 0x7e byte then .ground
    else state
  | .escapeIntermediate => if inside 0x30 0x7e byte then .ground else state
  | .csiEntry =>
    if inside 0x40 0x7e byte then .ground
    else if byte = 0x3a then .csiIgnore
    else if inside 0x30 0x3f byte then .csiParam
    else if inside 0x20 0x2f byte then .csiIntermediate
    else state
  | .csiParam =>
    if inside 0x40 0x7e byte then .ground
    else if byte = 0x3a || inside 0x3c 0x3f byte then .csiIgnore
    else if inside 0x20 0x2f byte then .csiIntermediate
    else state
  | .csiIntermediate =>
    if inside 0x40 0x7e byte then .ground else if inside 0x30 0x3f byte then .csiIgnore else state
  | .csiIgnore => if inside 0x40 0x7e byte then .ground else state
  | .dcsEntry =>
    if inside 0x40 0x7e byte then .dcsPassthrough
    else if byte = 0x3a then .dcsIgnore
    else if inside 0x30 0x3f byte then .dcsParam
    else if inside 0x20 0x2f byte then .dcsIntermediate
    else state
  | .dcsParam =>
    if inside 0x40 0x7e byte then .dcsPassthrough
    else if byte = 0x3a || inside 0x3c 0x3f byte then .dcsIgnore
    else if inside 0x20 0x2f byte then .dcsIntermediate
    else state
  | .dcsIntermediate =>
    if inside 0x40 0x7e byte then .dcsPassthrough else if inside 0x30 0x3f byte then .dcsIgnore else state
  | .oscString => if byte = 0x07 then .ground else state
  | .ground | .dcsPassthrough | .dcsIgnore | .sosPmApcString => state

def VtState.next (state : VtState) : VtState :=
  if byte = 0x18 || byte = 0x1a then .ground
  else if byte = 0x1b then .escape
  else if inside 0x80 0x9f byte && state.honoursC1 then
    if byte = 0x90 then .dcsEntry
    else if byte = 0x9b then .csiEntry
    else if byte = 0x9d then .oscString
    else if byte = 0x98 || byte = 0x9e || byte = 0x9f then .sosPmApcString
    else .ground
  else state.own byte

def VtParser.step (parser : VtParser) : VtParser :=
  ⟨parser.state.next byte,if parser.state = .ground ∧ byte ≠ 0x1b then parser.utf8.step byte else ⟨0,byte⟩⟩

end

def VtParser.run (bytes : Bytes) : VtParser := bytes.foldl (fun parser byte => parser.step byte) ⟨.ground,0,0⟩

def shape : ScanState → ScanState
  | .csi _ => .csi .new
  | state => state

def covers : ScanState → VtState → Bool
  | .ground,.ground | .escape,.escape | .escapeIntermediate,.escapeIntermediate
  | .csi _,.csiEntry | .csi _,.csiParam | .csi _,.csiIntermediate | .csi _,.csiIgnore
  | .osc,.oscString | .dcsEntry,.dcsEntry | .dcsParam,.dcsParam | .dcsIntermediate,.dcsIntermediate
  | .dcsBody,.dcsPassthrough | .dcsBody,.dcsIgnore | .sosPmApc,.sosPmApcString => true
  | _,_ => false

theorem enter_state (scanner : OutputScanner) (next : ScanState) : (scanner.enter next).state = next := by
  unfold OutputScanner.enter
  split <;> rfl

theorem advance_state (scanner : OutputScanner) (next : Option ScanState) :
    (scanner.advance next).state = next.getD scanner.state := by
  cases next with
  | none => rfl
  | some state => exact enter_state _ state

-- Which state comes next does not depend on what a sequence has collected.
def ScanState.after (state : ScanState) (byte : UInt8) : ScanState :=
  shape ((⟨state,0,.empty,""⟩ : OutputScanner).feed (fun _ => none) byte).1.state

theorem csiFeed_ends (scan : CsiScan) (byte : UInt8) : (scan.feed byte).isRight = (CsiScan.new.feed byte).isRight := by
  unfold CsiScan.feed
  split_ifs <;> rfl

theorem feedState_shape {scanner : OutputScanner} (away : scanner.state ≠ .ground) :
    shape (scanner.feedState base64 byte).1.state =
        shape ((⟨shape scanner.state,0,.empty,""⟩ : OutputScanner).feedState (fun _ => none) byte).1.state := by
  unfold OutputScanner.feedState
  cases state : scanner.state with
  | ground => exact absurd state away
  | dcsBody | sosPmApc => simp [state,shape]
  | escapeIntermediate | dcsEntry | dcsParam | dcsIntermediate => simp [advance_state,state,shape]
  | escape =>
    by_cases reset : byte = 0x63
    · simp [reset,shape]
    · simp [reset,advance_state,state,shape]
  | osc =>
    by_cases bell : byte = 0x07
    · simp [bell,shape]
    · simp [bell,state,shape,apply_ite]
  | csi scan =>
    have ends := csiFeed_ends scan byte
    dsimp only [shape]
    cases one : scan.feed byte <;> cases two : CsiScan.new.feed byte <;> simp_all

theorem feed_after {scanner : OutputScanner} (away : scanner.state ≠ .ground) :
    shape (scanner.feed base64 byte).1.state = (shape scanner.state).after byte := by
  have still : shape scanner.state ≠ .ground := by
    cases state : scanner.state <;> simp_all [shape]
  have same : scanner.anywhere byte = (⟨shape scanner.state,0,.empty,""⟩ : OutputScanner).anywhere byte := by
    cases state : scanner.state <;> simp [OutputScanner.anywhere,OutputScanner.honoursC1,state,shape]
  unfold ScanState.after OutputScanner.feed
  rw [if_neg away,if_neg still,same]
  split
  · simp [apply_ite,enter_state]
  · exact feedState_shape away

theorem covers_ground : covers scan state = true → (scan = .ground ↔ state = .ground) := by
  cases scan <;> cases state <;> simp [covers]

-- Every state meets every byte.
theorem after_covers (state : VtState) : ∀ n < 256, ∀ scan ∈ [.escape,.escapeIntermediate,.csi .new,.osc,.dcsEntry,
    .dcsParam,.dcsIntermediate,.dcsBody,.sosPmApc], covers scan state →
      covers (scan.after (UInt8.ofNat n)) (state.next (UInt8.ofNat n)) := by
  cases state <;> decide +kernel

theorem covers_shape (scan : ScanState) (state : VtState) : covers (shape scan) state = covers scan state := by
  cases scan <;> cases state <;> rfl

theorem utf8Owed_lead : utf8Lead byte ≤ OutputScanner.utf8Owed pending byte := by
  have small : ∀ n < 256, inside 0x80 0xbf (UInt8.ofNat n) = true → utf8Lead (UInt8.ofNat n) = 0 := by decide +kernel
  have lead := small byte.toNat byte.toNat_lt
  rw [UInt8.ofNat_toNat] at lead
  unfold OutputScanner.utf8Owed
  split
  · rename_i follows
    rw [lead follows]
    exact Nat.zero_le _
  · exact Nat.le_refl _

structure Tracks (scanner : OutputScanner) (parser : VtParser) : Prop where
  covered : covers scanner.state parser.state = true
  owed : parser.utf8.need ≤ scanner.utf8Pending

theorem feed_tracks (tracks : Tracks scanner parser) : Tracks (scanner.feed base64 byte).1 (parser.step byte) := by
  have meets := covers_ground tracks.covered
  by_cases ground : scanner.state = .ground
  · have here := meets.mp ground
    rw [OutputScanner.feed,if_pos ground]
    by_cases escape : byte = 0x1b
    · subst escape
      simp only [OutputScanner.feedGround,VtParser.step,here]
      exact ⟨rfl,Nat.le_refl _⟩
    · have stays : VtState.next byte .ground = .ground := by
        simp [VtState.next,VtState.honoursC1,VtState.own,escape]
      rw [OutputScanner.feedGround,if_neg escape,VtParser.step,if_pos ⟨here,escape⟩,here,stays]
      refine ⟨by rw [ground]; rfl,?_⟩
      dsimp only
      unfold Utf8Decoder.step
      split
      · rename_i follows
        rw [OutputScanner.utf8Owed,if_pos follows.2.1]
        exact Nat.sub_le_sub_right tracks.owed 1
      · exact utf8Owed_lead
  · have away := mt meets.mpr ground
    refine ⟨?_,by simp [VtParser.step,away]⟩
    have among : ∀ scan : ScanState, scan ≠ .ground → shape scan ∈ [.escape,.escapeIntermediate,.csi .new,.osc,.dcsEntry,
        .dcsParam,.dcsIntermediate,.dcsBody,.sosPmApc] := by
      intro scan
      cases scan <;> simp [shape]
    have covered := tracks.covered
    rw [← covers_shape] at covered ⊢
    have next := after_covers parser.state byte.toNat byte.toNat_lt _ (among _ ground) covered
    rw [UInt8.ofNat_toNat] at next
    rw [feed_after ground]
    exact next

-- Wherever the scanner allows a checkpoint, the parser has nothing half read.
theorem checkpoint_cut_clean (vendor : Vendor V) (start : TerminalState V) (secret : String)
    (fresh : start.scanner = .withSecret secret) (feeds : List Bytes)
    (eligible : (feeds.foldl (fun terminal bytes => (terminal.feed vendor bytes).1) start).checkpointEligible = true) :
    (VtParser.run feeds.flatten).state = .ground ∧ (VtParser.run feeds.flatten).utf8.need = 0 := by
  have scanned : (feeds.foldl (fun terminal bytes => (terminal.feed vendor bytes).1) start).scanner =
      scanAll vendor.base64 start.scanner feeds.flatten := by
    clear eligible fresh
    induction feeds generalizing start with
    | nil => rfl
    | cons bytes rest ih =>
      rw [List.foldl_cons,ih,List.flatten_cons,scanAll,scanAll,List.foldl_append]
      by_cases empty : bytes = []
      · subst empty
        rfl
      · rw [(feed_spec empty).2.2.1]
        rfl
  have tracks : ∀ (bytes : Bytes) scanner parser, Tracks scanner parser →
      Tracks (scanAll vendor.base64 scanner bytes) (bytes.foldl (fun parser byte => parser.step byte) parser) := by
    intro bytes
    induction bytes with
    | nil => exact fun _ _ tracks => tracks
    | cons byte rest ih => exact fun _ _ tracks => ih _ _ (feed_tracks tracks)
  have last := tracks feeds.flatten start.scanner ⟨.ground,0,0⟩ (by rw [fresh]; exact ⟨rfl,Nat.le_refl _⟩)
  rw [← scanned] at last
  simp only [TerminalState.checkpointEligible,OutputScanner.betweenSequences,Bool.and_eq_true,decide_eq_true_eq] at eligible
  have owed := last.owed
  exact ⟨(covers_ground last.covered).mp eligible.1,by rw [eligible.2] at owed; exact Nat.le_zero.mp owed⟩

theorem checkpoint_cut_clean_split :
    (VtParser.run [0xe7,0x9c,0x9f,0x1b,0x5b,0x6d]).state = .ground := by
  exact (checkpoint_cut_clean blankVendor (.new blankVendor 24 80 0) "" rfl [[0xe7,0x9c],[],[0x9f,0x1b],[0x5b,0x6d]]
    (by decide +kernel)).1

end Coflux.Sessiond
