import Coflux.Foundation.Text

namespace Coflux.Ptyd
export Text (Bytes)

def ptydRingCapacity : Nat := 4 * 1024 * 1024
def ptydBlobCapacity : Nat := 2 * 1024 * 1024
def ptydLabelMaxBytes : Nat := 4096
def ptydMaxLiveSessions : Nat := 128
def ptydMaxInputBytes : Nat := 1024 * 1024
def ptydMaxReadBytes : Nat := 1024 * 1024
def ptydLogicalClientLimit : Nat := 256
def ptydResizeLogEntries : Nat := 256

-- usize on the 64-bit targets the daemons are built for.
def usizeMax : Nat := 2 ^ 64 - 1

-- Output offsets are Nat: no run prints 2^64 bytes, and no operation relies on the wrap.
structure PtydResizeEntry where
  offset : Nat
  (rows cols : UInt16)

theorem ptydRingCapacity_pos : 0 < ptydRingCapacity := by decide

theorem ptydRingCapacity_le_usizeMax : ptydRingCapacity ≤ usizeMax := by decide

theorem ptydResizeLogEntries_pos : 0 < ptydResizeLogEntries := by decide

instance : NeZero ptydRingCapacity := ⟨Nat.ne_of_gt ptydRingCapacity_pos⟩

end Coflux.Ptyd
