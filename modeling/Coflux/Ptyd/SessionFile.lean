import Coflux.Foundation.Ring
import Coflux.Ptyd.Protocol

namespace Coflux.Ptyd
open RingBuffer

-- Ring, checkpoint blob and metadata. The header copies of these fields are never read back by this
-- process.
structure SessionFile where
  ring : Nat → UInt8
  «end» : Nat
  checkpoint : Option Nat
  checkpointBlob : Bytes
  (rows cols : UInt16)
  label : String
  resizes : List PtydResizeEntry

namespace SessionFile

-- The file starts as set_len leaves it: all zero.
def new (rows cols : UInt16) (label : String) : SessionFile :=
  ⟨fun _ => 0,0,none,[],rows,cols,label,[]⟩

def create (rows cols : UInt16) (label : String) : Except String SessionFile :=
  if label.utf8ByteSize > ptydLabelMaxBytes then .error s!"label 超过 {ptydLabelMaxBytes} 字节"
  else .ok (new rows cols label)

section
variable (file : SessionFile)

def start : Nat := file.end - ptydRingCapacity

-- No checkpoint means a plain ring that never stops; with one, the bytes from
-- the checkpoint on must survive.
def writeBudget : Nat :=
  match file.checkpoint with
  | none => usizeMax
  | some floor => min (floor + ptydRingCapacity - file.end) usizeMax

def append (data : Bytes) : Nat × SessionFile :=
  (file.end,{file with
    ring := copyIn ptydRingCapacity file.ring file.end data 0
    «end» := file.end + data.length})

def read (offset max : Nat) : Option (Nat × Bytes) :=
  if offset < file.start ∨ offset > file.end then none
  else
    let length := min file.end (offset + max) - offset
    some (offset,copyOut ptydRingCapacity file.ring offset length 0 [])

def setCheckpoint (offset : Nat) (blob : Bytes) : Except String Unit × SessionFile :=
  if blob.length > ptydBlobCapacity then (.error "checkpoint blob 超过容量",file)
  else if offset < file.start ∨ offset > file.end then (.error "checkpoint 偏移不在 ring 保留范围内",file)
  else (.ok (),{file with checkpoint := some offset,checkpointBlob := blob})

def blob : Option (Nat × Bytes) :=
  file.checkpoint.map fun offset => (offset,file.checkpointBlob)

def pushResize (rows cols : UInt16) : SessionFile :=
  let kept := if file.resizes.length ≥ ptydResizeLogEntries then file.resizes.drop 1 else file.resizes
  {file with rows := rows,cols := cols,resizes := kept ++ [⟨file.end,rows,cols⟩]}

end

end SessionFile

variable {file : SessionFile} {history data blob : Bytes} {rows cols : UInt16}

@[simp] theorem append_end : (file.append data).2.end = file.end + data.length := rfl
@[simp] theorem append_checkpoint : (file.append data).2.checkpoint = file.checkpoint := rfl

theorem start_le : file.start ≤ offset ↔ file.end ≤ offset + ptydRingCapacity := by
  unfold SessionFile.start
  exact Nat.sub_le_iff_le_add

theorem setCheckpoint_cases (file : SessionFile) (offset : Nat) (blob : Bytes) :
    (∃ message, file.setCheckpoint offset blob = (.error message,file) ∧
      (blob.length > ptydBlobCapacity ∨ offset < file.start ∨ offset > file.end)) ∨
    (file.setCheckpoint offset blob = (.ok (),{file with checkpoint := some offset,checkpointBlob := blob}) ∧
      blob.length ≤ ptydBlobCapacity ∧ file.start ≤ offset ∧ offset ≤ file.end) := by
  unfold SessionFile.setCheckpoint
  split
  · rename_i large
    exact .inl ⟨_,rfl,.inl large⟩
  · split
    · rename_i outside
      exact .inl ⟨_,rfl,.inr outside⟩
    · exact .inr ⟨rfl,by omega,by omega,by omega⟩

-- Unfolding it would have the comparison with the capacity evaluated.
attribute [irreducible] SessionFile.setCheckpoint

@[simp] theorem setCheckpoint_end : (file.setCheckpoint offset blob).2.end = file.end := by
  rcases setCheckpoint_cases file offset blob with ⟨_,refused,_⟩ | ⟨stored,_⟩
  · rw [refused]
  · rw [stored]

structure Represents (file : SessionFile) (history : Bytes) : Prop where
  ends : file.end = history.length
  held : Holds ptydRingCapacity file.ring history
  floor : ∀ offset, file.checkpoint = some offset → file.start ≤ offset ∧ offset ≤ file.end

theorem new_represents (label : String) : Represents (.new rows cols label) [] :=
  ⟨rfl,holds_nil,fun _ stored => by cases stored⟩

section
variable (valid : Represents file history)
include valid

theorem append_represents (room : data.length ≤ file.writeBudget) : Represents (file.append data).2 (history ++ data) := by
  refine ⟨by simp [valid.ends],?_,?_⟩
  · have written := copyIn_holds data 0 (by simpa using valid.held) (Nat.zero_le _)
    simpa [SessionFile.append,valid.ends] using written
  · intro offset stored
    have before := valid.floor _ stored
    -- The budget is what keeps the new window above the checkpoint.
    simp only [append_checkpoint] at stored
    simp only [SessionFile.writeBudget,stored] at room
    simp only [SessionFile.start,append_end] at before ⊢
    omega

theorem setCheckpoint_represents : Represents (file.setCheckpoint offset blob).2 history := by
  rcases setCheckpoint_cases file offset blob with ⟨_,refused,_⟩ | ⟨stored,_,above,below⟩
  · rw [refused]
    exact valid
  · rw [stored]
    refine ⟨valid.ends,valid.held,?_⟩
    intro floor equal
    cases equal
    exact ⟨above,below⟩

theorem pushResize_represents : Represents (file.pushResize rows cols) history :=
  {valid with}

theorem read_exact (offset max : Nat) : file.read offset max =
      if file.start ≤ offset ∧ offset ≤ file.end then
        some (offset,(history.drop offset).take (min file.end (offset + max) - offset))
      else none := by
  by_cases inside : file.start ≤ offset ∧ offset ≤ file.end
  · have ends := valid.ends
    have window := inside.1
    simp only [SessionFile.start] at window
    rw [if_pos inside,SessionFile.read,if_neg (by omega)]
    simp only
    rw [copyOut_eq valid.held (by omega) (by omega) (Nat.zero_le _) (by simp)]
  · rw [if_neg inside,SessionFile.read,if_pos (by omega)]

end

theorem read_cases (file : SessionFile) (offset limit : Nat) :
    (file.read offset limit = none ∧ (offset < file.start ∨ offset > file.end)) ∨
    ∃ data, file.read offset limit = some (offset,data) ∧
      data.length = min file.end (offset + limit) - offset ∧ file.start ≤ offset ∧ offset ≤ file.end := by
  unfold SessionFile.read
  split
  · rename_i outside
    exact .inl ⟨rfl,outside⟩
  · rename_i inside
    obtain ⟨above,below⟩ := not_or.mp inside
    refine .inr ⟨_,rfl,?_,Nat.le_of_not_lt above,Nat.le_of_not_lt below⟩
    rw [copyOut_length,List.length_nil,Nat.zero_add,Nat.sub_zero]

section
variable (valid : Represents file history) (stored : file.checkpoint = some floor)
include valid stored

theorem checkpoint_survives (above : floor ≤ offset) (below : offset < file.end) :
    history[offset]? = some (file.ring (offset % ptydRingCapacity)) := by
  have bounds := valid.floor _ stored
  have ends := valid.ends
  simp only [SessionFile.start] at bounds
  exact valid.held _ (by omega) (by omega)

theorem writeBudget_of_checkpoint : file.writeBudget = floor + ptydRingCapacity - file.end := by
  have bounds := valid.floor _ stored
  have small := ptydRingCapacity_le_usizeMax
  simp only [SessionFile.writeBudget,stored]
  omega

end

end Coflux.Ptyd
