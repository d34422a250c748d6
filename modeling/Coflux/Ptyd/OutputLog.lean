import Coflux.Ptyd.SessionFile

namespace Coflux.Ptyd

-- What a session file is for: the whole output of one PTY, and the offset a checkpoint stands at. A
-- replacement runtime relies on retained.
structure OutputLog where
  history : Bytes
  floor : Option Nat
  resizes : List PtydResizeEntry
  retained : ∀ offset, floor = some offset →
    offset ≤ history.length ∧ history.length ≤ offset + ptydRingCapacity

namespace OutputLog

def empty : OutputLog := ⟨[],none,[],fun _ stored => by cases stored⟩

@[simp] theorem empty_history : empty.history = [] := rfl

section
variable (log : OutputLog)

def room : Nat :=
  match log.floor with
  | none => usizeMax
  | some floor => floor + ptydRingCapacity - log.history.length

theorem room_keeps (data : Bytes) (offset : Nat) (stored : log.floor = some offset) :
    offset ≤ (log.history ++ data.take log.room).length ∧
      (log.history ++ data.take log.room).length ≤ offset + ptydRingCapacity := by
  have bounds := log.retained _ stored
  simp only [room,stored,List.length_append,List.length_take]
  omega

def print (data : Bytes) : OutputLog :=
  ⟨log.history ++ data.take log.room,log.floor,log.resizes,room_keeps log data⟩

def mark (offset : Nat) : OutputLog :=
  if inside : offset ≤ log.history.length ∧ log.history.length ≤ offset + ptydRingCapacity then
    ⟨log.history,some offset,log.resizes,fun _ stored => by cases stored; exact inside⟩
  else log

def resized (rows cols : UInt16) : OutputLog :=
  {log with resizes := log.resizes ++ [⟨log.history.length,rows,cols⟩]}

end

end OutputLog

-- The read loop cuts every append to the budget before it is made.
open OutputLog (mark print resized room)

inductive FileOp where
  | append (data : Bytes)
  | setCheckpoint (offset : Nat) (blob : Bytes)
  | pushResize (rows cols : UInt16)

def FileOp.printed (file : SessionFile) : FileOp → Bytes
  | .append data => data.take file.writeBudget
  | .setCheckpoint _ _ => []
  | .pushResize _ _ => []

def FileOp.apply (file : SessionFile) : FileOp → SessionFile
  | .append data => (file.append (data.take file.writeBudget)).2
  | .setCheckpoint offset blob => (file.setCheckpoint offset blob).2
  | .pushResize rows cols => file.pushResize rows cols

def FileOp.applyLog (log : OutputLog) : FileOp → OutputLog
  | .append data => log.print data
  | .setCheckpoint offset blob => if blob.length ≤ ptydBlobCapacity then log.mark offset else log
  | .pushResize rows cols => log.resized rows cols

open FileOp (apply applyLog)

def runOps (file : SessionFile) (ops : List FileOp) : SessionFile :=
  ops.foldl FileOp.apply file

def outputOf : SessionFile → List FileOp → Bytes
  | _,[] => []
  | file,op :: rest => op.printed file ++ outputOf (op.apply file) rest

def recent (entries : List PtydResizeEntry) : List PtydResizeEntry :=
  entries.drop (entries.length - ptydResizeLogEntries)

structure Refines (file : SessionFile) (log : OutputLog) : Prop where
  represents : Represents file log.history
  floor : file.checkpoint = log.floor
  resizes : file.resizes = recent log.resizes

variable {file : SessionFile} {log : OutputLog}

theorem new_refines : Refines (.new rows cols label) .empty :=
  ⟨new_represents label,rfl,rfl⟩

theorem recent_push (entries : List PtydResizeEntry) (entry : PtydResizeEntry) : recent (entries ++ [entry]) =
      (if (recent entries).length ≥ ptydResizeLogEntries then (recent entries).drop 1 else recent entries) ++ [entry] := by
  have positive := ptydResizeLogEntries_pos
  by_cases full : ptydResizeLogEntries ≤ entries.length
  · rw [if_pos (by simp only [recent,List.length_drop]; omega)]
    have next : entries.length + 1 - ptydResizeLogEntries = entries.length - ptydResizeLogEntries + 1 := by omega
    simp only [recent,List.length_append,List.length_singleton,List.drop_drop,next]
    rw [List.drop_append_of_le_length (by omega)]
  · have short : entries.length - ptydResizeLogEntries = 0 := by omega
    have next : entries.length + 1 - ptydResizeLogEntries = 0 := by omega
    simp [recent,short,next,full]

section
variable (valid : Refines file log)
include valid

theorem room_eq_budget : log.room = file.writeBudget := by
  cases stored : file.checkpoint with
  | none => simp [room,SessionFile.writeBudget,← valid.floor,stored]
  | some floor =>
    rw [writeBudget_of_checkpoint valid.represents stored]
    simp [room,← valid.floor,stored,valid.represents.ends]

theorem setCheckpoint_refines :
    Refines (file.setCheckpoint offset blob).2 ((FileOp.setCheckpoint offset blob).applyLog log) := by
  have ends := valid.represents.ends
  have kept : Represents (file.setCheckpoint offset blob).2 log.history := setCheckpoint_represents valid.represents
  rcases setCheckpoint_cases file offset blob with ⟨_,refused,reason⟩ | ⟨stored,fits,above,_⟩
  · have same : (FileOp.setCheckpoint offset blob).applyLog log = log := by
      simp only [applyLog,mark,SessionFile.start] at reason ⊢
      split
      · rw [dif_neg (by omega)]
      · rfl
    rw [refused,same]
    exact valid
  · have moved : (FileOp.setCheckpoint offset blob).applyLog log = log.mark offset := if_pos fits
    simp only [SessionFile.start] at above
    rw [stored] at kept ⊢
    rw [moved,mark,dif_pos ⟨by omega,by omega⟩]
    exact ⟨kept,rfl,valid.resizes⟩

theorem apply_refines (op : FileOp) :
    Refines (op.apply file) (op.applyLog log) ∧ (op.applyLog log).history = log.history ++ op.printed file := by
  cases op with
  | append data =>
    have budget := room_eq_budget valid
    have fits : (data.take file.writeBudget).length ≤ file.writeBudget := by simp
    have grown := append_represents valid.represents fits
    refine ⟨⟨?_,valid.floor,valid.resizes⟩,by simp [applyLog,print,FileOp.printed,budget]⟩
    simpa [apply,applyLog,print,budget] using grown
  | setCheckpoint offset blob =>
    refine ⟨setCheckpoint_refines valid,?_⟩
    simp only [applyLog,FileOp.printed,mark]
    split <;> simp
    split <;> rfl
  | pushResize rows cols =>
    refine ⟨⟨pushResize_represents valid.represents,valid.floor,?_⟩,by simp [applyLog,resized,FileOp.printed]⟩
    simp only [apply,SessionFile.pushResize,applyLog,resized,recent_push,valid.resizes, valid.represents.ends]

theorem run_refines : Refines (runOps file ops) (ops.foldl applyLog log) ∧
      (ops.foldl applyLog log).history = log.history ++ outputOf file ops := by
  induction ops generalizing file log with
  | nil => exact ⟨valid,by simp [outputOf]⟩
  | cons op rest ih =>
    obtain ⟨kept,printed⟩ := apply_refines valid op
    obtain ⟨refined,history⟩ := ih kept
    refine ⟨refined,?_⟩
    simp only [List.foldl_cons,outputOf,history,printed,List.append_assoc]

end

-- A session file behaves as the log of everything printed.
theorem session_file_refines_output_log (rows cols : UInt16) (label : String) (ops : List FileOp) :
    let file := runOps (.new rows cols label) ops
    let history := outputOf (.new rows cols label) ops
    file.end = history.length ∧
    (∀ offset max, file.read offset max = if file.start ≤ offset ∧ offset ≤ file.end then
        some (offset,(history.drop offset).take (min file.end (offset + max) - offset))
      else none) ∧
    (∀ floor, file.checkpoint = some floor → file.start ≤ floor ∧ floor ≤ file.end ∧
      ∀ offset, floor ≤ offset → offset < file.end → history[offset]? = some (file.ring (offset % ptydRingCapacity))) ∧
    (∀ offset blob message after, file.setCheckpoint offset blob = (.error message,after) → after = file) := by
  obtain ⟨refined,printed⟩ := run_refines (new_refines)
  have valid := refined.represents
  rw [printed,OutputLog.empty_history,List.nil_append] at valid
  refine ⟨valid.ends,read_exact valid,?_,?_⟩
  · intro floor stored
    obtain ⟨above,below⟩ := valid.floor _ stored
    exact ⟨above,below,fun offset => checkpoint_survives valid stored⟩
  · intro offset blob message after refused
    rcases setCheckpoint_cases (runOps (.new rows cols label) ops) offset blob with ⟨_,equal,_⟩ | ⟨equal,_⟩
    · rw [equal] at refused
      cases refused
      rfl
    · rw [equal] at refused
      cases refused

end Coflux.Ptyd
