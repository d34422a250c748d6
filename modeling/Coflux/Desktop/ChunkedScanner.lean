import Coflux.Foundation.Text

namespace Coflux.Desktop
open Text

inductive ScanState where
  | size
  | data
  | dataCrlf
  | trailer
deriving DecidableEq

structure ChunkedScanner where
  state : ScanState := .size
  line : Bytes := []
  remaining : Nat := 0
  done : Bool := false

def hexDigit (byte : UInt8) : Option Nat :=
  if 48 ≤ byte ∧ byte ≤ 57 then some (byte.toNat - 48)
  else if 65 ≤ byte ∧ byte ≤ 70 then some (byte.toNat - 55)
  else if 97 ≤ byte ∧ byte ≤ 102 then some (byte.toNat - 87)
  else none

def isHex (byte : UInt8) : Bool := (hexDigit byte).isSome

def hexValue (digits : Bytes) : Nat := digits.foldl (fun value digit => value * 16 + (hexDigit digit).getD 0) 0

-- One to twelve digits, then nothing or blanks, a semicolon and a rest without a carriage return.
def chunkSize (line : Bytes) : Option Nat :=
  let digits := line.takeWhile isHex
  let rest := line.dropWhile isHex
  if digits.length = 0 ∨ 12 < digits.length then none
  else if rest = [] ∨ (rest.dropWhile fun byte => byte = 32 || byte = 9).head? = some 59 ∧ 13 ∉ rest then
    some (hexValue digits)
  else none

def crlf : Bytes := [13,10]

-- How many bytes were taken, and what came of them.
abbrev Scanned (α : Type) := Nat × Except String α

def ahead (n : Nat) (scanned : Scanned α) : Scanned α := (n + scanned.1,scanned.2)

def andThen (next : α → Scanned β) : Scanned α → Scanned β
  | (n,.ok s) => ahead n (next s)
  | (n,.error e) => (n,.error e)

@[simp] theorem ahead_zero (scanned : Scanned α) : ahead 0 scanned = scanned := by simp [ahead]

@[simp] theorem ahead_ahead (m n : Nat) (scanned : Scanned α) : ahead m (ahead n scanned) = ahead (m + n) scanned := by
  simp [ahead,Nat.add_assoc]

@[simp] theorem andThen_ahead (next : α → Scanned β) (n : Nat) (scanned : Scanned α) :
    andThen next (ahead n scanned) = ahead n (andThen next scanned) := by
  rcases scanned with ⟨m,e | s⟩
  · rfl
  · exact (ahead_ahead n m (next s)).symm

namespace ChunkedScanner
variable (s : ChunkedScanner)

def endLine (line : Bytes) : Except String ChunkedScanner :=
  match s.state with
  | .size =>
    match chunkSize line with
    | none => .error "invalid chunk size"
    | some n => .ok {s with remaining := n,state := if n = 0 then .trailer else .data}
  | .dataCrlf => if line ≠ [] then .error "missing CRLF after chunk" else .ok {s with state := .size}
  | _ => .ok (if line = [] then {s with done := true} else s)

def lineByte (byte : UInt8) : Except String ChunkedScanner :=
  if byte ≠ 10 then
    if 4096 < s.line.length + 1 then .error "chunk line too long" else .ok {s with line := s.line ++ [byte]}
  else if s.line.getLast? ≠ some 13 then .error "bare LF in chunked body"
  else endLine {s with line := []} s.line.dropLast

def took (n : Nat) : ChunkedScanner :=
  {s with remaining := s.remaining - n,state := if s.remaining - n = 0 then .dataCrlf else .data}

def scan (s : ChunkedScanner) (buffer : Bytes) : Scanned ChunkedScanner :=
  match buffer with
  | [] => (0,.ok s)
  | byte :: rest =>
    if s.done then (0,.ok s)
    else if s.state = .data then
      let take := min s.remaining (byte :: rest).length
      ahead take (scan (s.took take) ((byte :: rest).drop take))
    else
      match s.lineByte byte with
      | .error e => (1,.error e)
      | .ok after => ahead 1 (scan after rest)
termination_by 2 * buffer.length + if s.state = .data then 1 else 0
decreasing_by
  · simp only [took,List.length_drop,List.length_cons]
    split_ifs <;> simp_all <;> omega
  · simp only [List.length_cons]
    split_ifs <;> omega

-- Successive calls, up to the first error.
def feed : ChunkedScanner → List Bytes → Scanned ChunkedScanner
  | s,[] => (0,.ok s)
  | s,buffer :: more => andThen (fun after => after.feed more) (s.scan buffer)

variable {s : ChunkedScanner}

theorem scan_done (ended : s.done = true) (buffer : Bytes) : s.scan buffer = (0,.ok s) := by
  cases buffer <;> simp [scan,ended]

theorem took_took (s : ChunkedScanner) (m n : Nat) : (s.took m).took n = s.took (m + n) := by
  simp [took,Nat.sub_sub]

theorem scan_data (going : s.done = false) (inside : s.state = .data) (filled : buffer ≠ []) :
    s.scan buffer = ahead (min s.remaining buffer.length)
      ((s.took (min s.remaining buffer.length)).scan (buffer.drop (min s.remaining buffer.length))) := by
  cases buffer with
  | nil => exact absurd rfl filled
  | cons byte rest => rw [scan,if_neg (by simp [going]),if_pos inside]

-- A run of data may be cut anywhere.
theorem scan_run (going : s.done = false) (inside : s.state = .data) (filled : buffer ≠ []) (within : n ≤ s.remaining)
    (there : n ≤ buffer.length) : s.scan buffer = ahead n ((s.took n).scan (buffer.drop n)) := by
  rw [scan_data going inside filled]
  by_cases all : n = min s.remaining buffer.length
  · rw [all]
  · have still : (s.took n).state = .data := if_neg (by omega)
    have left : buffer.drop n ≠ [] := by simpa using (by omega : n < buffer.length)
    have count : n + min (s.remaining - n) (buffer.length - n) = min s.remaining buffer.length := by omega
    rw [scan_data (s := s.took n) going still left,ahead_ahead,List.length_drop,List.drop_drop,took_took]
    exact (congrArg (fun m => ahead m ((s.took m).scan (buffer.drop m))) count).symm

theorem scan_append (s : ChunkedScanner) (first second : Bytes) :
    s.scan (first ++ second) = andThen (fun after => after.scan second) (s.scan first) := by
  fun_induction scan s first with
  | case1 s => exact (ahead_zero _).symm
  | case2 s byte rest ended => rw [scan_done ended,andThen,scan_done ended,ahead_zero]
  | case3 s byte rest going inside take ih =>
    have there : take ≤ (byte :: rest).length := Nat.min_le_right _ _
    rw [andThen_ahead,← ih,← List.drop_append_of_le_length there]
    refine scan_run (by simpa using going) inside (List.cons_ne_nil _ _) (Nat.min_le_left _ _) ?_
    exact there.trans (List.length_append ▸ Nat.le_add_right _ _)
  | case4 s byte rest going inside e failed =>
    rw [List.cons_append,scan,if_neg going,if_neg inside,failed]
    rfl
  | case5 s byte rest going inside after passed ih =>
    rw [List.cons_append,scan,if_neg going,if_neg inside,passed,andThen_ahead,← ih]

theorem feed_flatten (s : ChunkedScanner) (buffers : List Bytes) : s.feed buffers = s.scan buffers.flatten := by
  induction buffers generalizing s with
  | nil => simp [feed,scan]
  | cons buffer more ih =>
    rw [feed,List.flatten_cons,scan_append]
    exact congrArg (andThen · _) (funext ih)

theorem scan_le (s : ChunkedScanner) (buffer : Bytes) : (s.scan buffer).1 ≤ buffer.length := by
  fun_induction scan s buffer with
  | case1 s => exact Nat.le_refl _
  | case2 s byte rest => exact Nat.zero_le _
  | case3 s byte rest going inside take ih =>
    rw [List.length_drop] at ih
    simp only [ahead]
    omega
  | case4 s byte rest => exact Nat.le_add_left _ _
  | case5 s byte rest going inside after passed ih =>
    simp only [ahead,List.length_cons]
    omega

def Takes (s : ChunkedScanner) (bytes : Bytes) (after : ChunkedScanner) : Prop := s.scan bytes = (bytes.length,.ok after)

theorem Takes.append (first : Takes s one mid) (second : Takes mid two after) : Takes s (one ++ two) after := by
  unfold Takes at *
  rw [scan_append,first,andThen,second,List.length_append]
  rfl

-- No call takes more than its buffer, so a prefix of what is taken is taken.
theorem Takes.of_append (both : Takes s (one ++ two) after) : ∃ mid, Takes s one mid ∧ Takes mid two after := by
  rw [Takes,scan_append] at both
  have bound := scan_le s one
  rcases first : s.scan one with ⟨m,e | mid⟩
  · rw [first] at both
    cases both
  · rw [first] at both bound
    have later := scan_le mid two
    rcases second : mid.scan two with ⟨n,_⟩
    rw [andThen,second] at both
    rw [second] at later
    obtain ⟨count,rfl⟩ := Prod.mk.inj both
    rw [List.length_append] at count
    exact ⟨mid,by rw [Takes,first,show m = one.length by omega],by rw [Takes,second,show n = two.length by omega]⟩

section
variable (going : s.done = false) (outside : s.state ≠ .data)
include going outside

theorem byte_takes (read : s.lineByte byte = .ok after) : Takes s [byte] after := by
  rw [Takes,scan,if_neg (by simp [going]),if_neg outside,read]
  simp [scan,ahead]

theorem text_takes (whole : 10 ∉ text) (short : s.line.length + text.length ≤ 4096) :
    Takes s text {s with line := s.line ++ text} := by
  induction text generalizing s with
  | nil => simp [Takes,scan]
  | cons byte text ih =>
    rw [List.mem_cons,not_or] at whole
    rw [List.length_cons] at short
    have kept : s.lineByte byte = .ok {s with line := s.line ++ [byte]} := by
      rw [lineByte,if_pos (Ne.symm whole.1),if_neg (by omega)]
    have later := ih (s := {s with line := s.line ++ [byte]}) going outside whole.2 (by simp; omega)
    rw [List.append_assoc] at later
    exact (byte_takes going outside kept).append later

theorem line_takes (fresh : s.line = []) (whole : 10 ∉ text) (short : text.length < 4096)
    (ended : s.endLine text = .ok after) : Takes s (text ++ crlf) after := by
  have read : Takes s (text ++ [13]) _ := text_takes going outside (by simp [whole]) (by simp [fresh]; omega)
  have same : ({s with line := []} : ChunkedScanner) = s := by rw [← fresh]
  have last : lineByte {s with line := s.line ++ (text ++ [13])} 10 = .ok after := by
    simp [lineByte,fresh,same,ended]
  have both := read.append (byte_takes (s := {s with line := s.line ++ (text ++ [13])}) going outside last)
  rwa [List.append_assoc] at both

end

-- A line that states the size n, as HTTP allows it.
structure SizeLine (n : Nat) where
  (digits extension : Bytes)
  hex : ∀ digit ∈ digits, isHex digit = true
  count : 0 < digits.length ∧ digits.length ≤ 12
  value : hexValue digits = n
  plain : extension = [] ∨ ∃ blanks rest, extension = blanks ++ 59 :: rest ∧ (∀ byte ∈ blanks, byte = 32 ∨ byte = 9) ∧
    13 ∉ rest ∧ 10 ∉ rest
  short : digits.length + extension.length < 4096

structure Chunk where
  data : Bytes
  filled : data ≠ []
  size : SizeLine data.length

structure Trailer where
  line : Bytes
  filled : line ≠ []
  whole : 10 ∉ line
  short : line.length < 4096

structure ChunkedBody where
  chunks : List Chunk
  last : SizeLine 0
  trailers : List Trailer

def SizeLine.bytes (line : SizeLine n) : Bytes := line.digits ++ line.extension ++ crlf

def Chunk.bytes (chunk : Chunk) : Bytes := chunk.size.bytes ++ (chunk.data ++ crlf)

def ChunkedBody.bytes (body : ChunkedBody) : Bytes :=
  body.chunks.flatMap Chunk.bytes ++ (body.last.bytes ++ (body.trailers.flatMap (fun trailer => trailer.line ++ crlf) ++ crlf))

theorem chunkSize_line (line : SizeLine n) :
    chunkSize (line.digits ++ line.extension) = some n ∧ 10 ∉ line.digits ++ line.extension := by
  obtain ⟨digits,_,hex,count,value,plain,_⟩ := line
  have unbroken : 10 ∉ digits := fun mem => absurd (hex 10 mem) (by decide)
  rw [chunkSize,List.takeWhile_append_of_pos hex,List.dropWhile_append_of_pos hex]
  rcases plain with rfl | ⟨blanks,rest,rfl,blank,plain,whole⟩
  · simp [count.2,Nat.pos_iff_ne_zero.mp count.1,value,unbroken]
  · have stops : (blanks ++ 59 :: rest).takeWhile isHex = [] ∧
        (blanks ++ 59 :: rest).dropWhile isHex = blanks ++ 59 :: rest := by
      cases blanks with
      | nil => exact ⟨rfl,rfl⟩
      | cons first blanks => rcases blank first List.mem_cons_self with rfl | rfl <;> exact ⟨rfl,rfl⟩
    have begins : ((blanks ++ 59 :: rest).dropWhile fun byte => byte = 32 || byte = 9).head? = some 59 := by
      rw [List.dropWhile_append_of_pos (by simpa using blank)]
      rfl
    have absent : 13 ∉ blanks ∧ 10 ∉ blanks :=
      ⟨fun mem => absurd (blank 13 mem) (by decide),fun mem => absurd (blank 10 mem) (by decide)⟩
    rw [stops.1,stops.2,List.append_nil,if_neg (by omega),if_pos (.inr ⟨begins,by simp [plain,absent]⟩),value]
    simp [unbroken,whole,absent]

theorem size_takes (line : SizeLine n) :
    Takes {} line.bytes {state := if n = 0 then .trailer else .data,remaining := n} := by
  obtain ⟨size,whole⟩ := chunkSize_line line
  refine line_takes rfl (by decide) rfl whole (by rw [List.length_append]; exact line.short) ?_
  simp only [endLine,size]

theorem chunk_takes (chunk : Chunk) : Takes {} chunk.bytes {} := by
  have positive : chunk.data.length ≠ 0 := by simpa using chunk.filled
  have size := size_takes chunk.size
  rw [if_neg positive] at size
  have data : Takes {state := .data,remaining := chunk.data.length} chunk.data {state := .dataCrlf} := by
    rw [Takes,scan_run (n := chunk.data.length) rfl rfl chunk.filled (Nat.le_refl _) (Nat.le_refl _)]
    simp [took,scan,ahead]
  exact size.append (data.append (line_takes rfl (by decide) rfl List.not_mem_nil (by decide) rfl))

theorem body_takes (body : ChunkedBody) : Takes {} body.bytes {state := .trailer,done := true} := by
  have chunks : Takes {} (body.chunks.flatMap Chunk.bytes) {} := by
    induction body.chunks with
    | nil => simp [Takes,scan]
    | cons chunk chunks ih => exact (chunk_takes chunk).append ih
  have trailers : Takes {state := .trailer} (body.trailers.flatMap fun trailer => trailer.line ++ crlf) {state := .trailer} := by
    induction body.trailers with
    | nil => simp [Takes,scan]
    | cons trailer trailers ih =>
      refine (line_takes rfl (by decide) rfl trailer.whole trailer.short ?_).append ih
      simp [endLine,trailer.filled]
  have ended := line_takes (s := {state := .trailer}) rfl (by decide) rfl List.not_mem_nil (by decide) rfl
  exact chunks.append ((size_takes body.last).append (trailers.append ended))

theorem chunked_scan_exact :
    (∀ (body : ChunkedBody) (suffix : Bytes) buffers, buffers.flatten = body.bytes ++ suffix → ∀ before, before <+: buffers →
      ∃ s, feed {} before = (min before.flatten.length body.bytes.length,.ok s) ∧
        (s.done = true ↔ body.bytes.length ≤ before.flatten.length)) ∧
      ∀ one two : List Bytes, one.flatten = two.flatten → feed {} one = feed {} two := by
  constructor
  · rintro body suffix buffers whole before ⟨more,rfl⟩
    rw [List.flatten_append] at whole
    have taken := body_takes body
    rw [feed_flatten]
    by_cases covers : body.bytes.length ≤ before.flatten.length
    · obtain ⟨rest,same⟩ := List.prefix_of_prefix_length_le ⟨suffix,whole.symm⟩ (List.prefix_append _ _) covers
      refine ⟨{state := .trailer,done := true},?_,iff_of_true rfl covers⟩
      rw [Nat.min_eq_right covers,← same,scan_append,taken,andThen,scan_done rfl]
      rfl
    · have short := Nat.lt_of_not_le covers
      obtain ⟨rest,same⟩ := List.prefix_of_prefix_length_le (List.prefix_append _ _) ⟨suffix,whole.symm⟩ short.le
      rw [← same] at taken short
      obtain ⟨s,_,second⟩ := taken.of_append
      refine ⟨s,by rwa [← same,Nat.min_eq_left short.le],iff_of_false ?_ covers⟩
      intro ended
      obtain ⟨none,_⟩ := Prod.mk.inj ((scan_done ended rest).symm.trans second)
      rw [List.length_append,← none] at short
      exact Nat.lt_irrefl _ short
  · intro one two same
    rw [feed_flatten,feed_flatten,same]

end ChunkedScanner

end Coflux.Desktop
