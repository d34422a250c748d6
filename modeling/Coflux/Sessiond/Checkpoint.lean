import Coflux.Sessiond.Terminal

namespace Coflux.Sessiond
open Text
open Framing (u32be readU32be read_u32be u32be_read)

-- The value that serde writes as the header.
def Checkpoint.metadata (checkpoint : Checkpoint) : CheckpointHeader :=
  ⟨checkpointFormatVersion,checkpoint.outputSeq,checkpoint.rows,checkpoint.cols,checkpoint.title,checkpoint.command,
    checkpoint.normalBeforeAlt.isSome,(checkpoint.normalBeforeAlt.map List.length).getD 0 % 2 ^ 32,
    checkpoint.answeredQuerySeq⟩

theorem normal_length (checkpoint : Checkpoint) :
    (checkpoint.normalBeforeAlt.getD []).length = (checkpoint.normalBeforeAlt.map List.length).getD 0 := by
  cases checkpoint.normalBeforeAlt <;> rfl

theorem encode_length (checkpoint : Checkpoint) : checkpoint.encode.length = checkpoint.encodedLen := by
  have four : (Framing.u32be checkpoint.header.length).length = 4 := rfl
  simp only [Checkpoint.encode,Checkpoint.encodedLen,List.length_append,four,normal_length]

-- Either a checkpoint of this very position that fits, or no rendering fits.
theorem checkpointFrom_cases (vendor : Vendor V) (terminal : TerminalState V) (maxBytes lineLimit : Nat) :
    (∃ checkpoint, terminal.checkpointFrom vendor maxBytes lineLimit = some checkpoint ∧
      checkpoint.outputSeq = terminal.outputSeq ∧ checkpoint.encodedLen ≤ maxBytes ∧
      ∃ halvings, (terminal.checkpointAt vendor (lineLimit / 2 ^ halvings)).encodedLen ≤ maxBytes) ∨
    (terminal.checkpointFrom vendor maxBytes lineLimit = none ∧
      ∀ halvings, ¬(terminal.checkpointAt vendor (lineLimit / 2 ^ halvings)).encodedLen ≤ maxBytes) := by
  fun_induction TerminalState.checkpointFrom vendor terminal maxBytes lineLimit with
  | case1 lineLimit checkpoint fits => exact .inl ⟨_,rfl,rfl,fits,0,by simpa using fits⟩
  | case2 checkpoint large => exact .inr ⟨rfl,fun halvings => by rw [Nat.zero_div]; exact large⟩
  | case3 lineLimit checkpoint large more ih =>
    rcases ih with ⟨taken,equal,seq,small,halvings,_⟩ | ⟨equal,none⟩
    · refine .inl ⟨taken,equal,seq,small,halvings + 1,?_⟩
      rwa [Nat.pow_succ',← Nat.div_div_eq_div_mul]
    · refine .inr ⟨equal,?_⟩
      intro halvings
      cases halvings with
      | zero => simpa using large
      | succ halvings =>
        rw [Nat.pow_succ',← Nat.div_div_eq_div_mul]
        exact none _

theorem decode_encode (rows : checkpoint.rows ≠ 0) (cols : checkpoint.cols ≠ 0)
    (normal : (checkpoint.normalBeforeAlt.getD []).length < 2 ^ 32) (parsed : parse checkpoint.header = some checkpoint.metadata)
    (small : checkpoint.header.length < 2 ^ 32) : Checkpoint.decode parse checkpoint.encode = some checkpoint := by
  have length := Nat.mod_eq_of_lt normal
  rw [normal_length] at length
  simp only [Checkpoint.encode,List.append_assoc]
  simp only [u32be,List.cons_append,List.nil_append,Checkpoint.decode]
  simp only [read_u32be small]
  rw [if_neg (by simp),List.take_left,List.drop_left,parsed]
  simp only [Option.bind_eq_bind,Option.bind_some,Checkpoint.metadata,length]
  rw [if_neg (by simp [rows,cols])]
  rcases checkpoint with ⟨_,_,_,_,_,_,_ | _,_⟩
  · rfl
  · simp

-- What is accepted is cut out of the bytes themselves, and nothing is left over.
theorem decode_parts (decoded : Checkpoint.decode parse bytes = some checkpoint) :
    ∃ header, header.length < 2 ^ 32 ∧
      bytes = u32be header.length ++ header ++ checkpoint.normalBeforeAlt.getD [] ++ checkpoint.snapshot ∧
      parse header = some {checkpoint.metadata with normalLen := (checkpoint.normalBeforeAlt.getD []).length} ∧
      checkpoint.rows ≠ 0 ∧ checkpoint.cols ≠ 0 := by
  unfold Checkpoint.decode at decoded
  split at decoded
  · rename_i b0 b1 b2 b3 rest
    obtain ⟨_,prefixed⟩ := u32be_read b0 b1 b2 b3
    dsimp only at decoded
    split at decoded
    · cases decoded
    · simp only [Option.bind_eq_bind,Option.bind_eq_some_iff] at decoded
      obtain ⟨fields,parsed,decoded⟩ := decoded
      have length : (rest.take (readU32be b0 b1 b2 b3)).length = readU32be b0 b1 b2 b3 := by
        rw [List.length_take]
        omega
      split at decoded
      · cases decoded
      · rename_i versioned
        split at decoded
        · cases decoded
        · rename_i plain
          split at decoded
          · cases decoded
          · cases decoded
            simp only [not_or,not_not] at versioned
            obtain ⟨version,sized⟩ := versioned
            have cut := (List.take_append_drop (readU32be b0 b1 b2 b3) rest).symm
            generalize rest.drop (readU32be b0 b1 b2 b3) = body at *
            have screen : (if fields.alt then some (body.take fields.normalLen) else none).getD [] =
                body.take fields.normalLen := by
              cases alt : fields.alt with
              | true => rfl
              | false =>
                have none : fields.normalLen = 0 := by simpa [alt] using plain
                rw [none]
                rfl
            have marked : (if fields.alt then some (body.take fields.normalLen) else none).isSome = fields.alt := by
              cases fields.alt <;> rfl
            have whole : (body.take fields.normalLen).length = fields.normalLen := by
              rw [List.length_take]
              omega
            refine ⟨rest.take (readU32be b0 b1 b2 b3),by rwa [length],?_,?_,sized⟩
            · rw [length,prefixed,screen]
              simpa using cut
            · rw [parsed]
              simp only [Checkpoint.metadata,marked,screen,whole,← version]
  · cases decoded

theorem decode_encode_iff {checkpoint : Checkpoint} (rows : checkpoint.rows ≠ 0) (cols : checkpoint.cols ≠ 0)
    (normal : (checkpoint.normalBeforeAlt.getD []).length < 2 ^ 32)
    (parsed : parse checkpoint.header = some checkpoint.metadata) :
    Checkpoint.decode parse checkpoint.encode = some checkpoint ↔ checkpoint.header.length < 2 ^ 32 := by
  refine ⟨?_,decode_encode rows cols normal parsed⟩
  intro decoded
  obtain ⟨_,_,whole,_⟩ := decode_parts decoded
  have lengths := congrArg List.length whole
  simp only [Checkpoint.encode,List.length_append,Framing.u32be_length] at lengths
  omega

theorem checkpoint_fits {terminal : TerminalState V} (taken : terminal.checkpoint vendor maxBytes = some checkpoint) :
    checkpoint.encode.length ≤ maxBytes := by
  rw [encode_length]
  rcases checkpointFrom_cases vendor terminal maxBytes terminal.historyLineLimit with ⟨_,found,_,fits,_⟩ | ⟨refused,_⟩
  · cases found.symm.trans taken
    exact fits
  · cases refused.symm.trans taken

-- Without a bound on the title the length of the header does not fit its four bytes.
theorem checkpoint_blobs (parse : Bytes → Option CheckpointHeader) :
    (∀ checkpoint : Checkpoint, checkpoint.rows ≠ 0 → checkpoint.cols ≠ 0 →
      (checkpoint.normalBeforeAlt.getD []).length < 2 ^ 32 → parse checkpoint.header = some checkpoint.metadata →
      (Checkpoint.decode parse checkpoint.encode = some checkpoint ↔ checkpoint.header.length < 2 ^ 32)) ∧
    (∀ checkpoint : Checkpoint, checkpoint.encodedLen = checkpoint.encode.length) ∧
    (∀ (V : Type) (vendor : Vendor V) (terminal : TerminalState V) (maxBytes : Nat) (checkpoint : Checkpoint),
      terminal.checkpoint vendor maxBytes = some checkpoint → checkpoint.encode.length ≤ maxBytes) ∧
    ∀ bytes, Checkpoint.decode parse bytes = none ∨
      ∃ checkpoint header, Checkpoint.decode parse bytes = some checkpoint ∧ header.length < 2 ^ 32 ∧
        bytes = u32be header.length ++ header ++ checkpoint.normalBeforeAlt.getD [] ++ checkpoint.snapshot ∧
        parse header = some {checkpoint.metadata with normalLen := (checkpoint.normalBeforeAlt.getD []).length} ∧
        checkpoint.rows ≠ 0 ∧ checkpoint.cols ≠ 0 := by
  refine ⟨fun checkpoint => decode_encode_iff,fun checkpoint => (encode_length _).symm,?_,?_⟩
  · intro V vendor terminal maxBytes checkpoint
    exact checkpoint_fits
  · intro bytes
    cases decoded : Checkpoint.decode parse bytes with
    | none => exact .inl rfl
    | some checkpoint =>
      obtain ⟨header,parts⟩ := decode_parts decoded
      exact .inr ⟨checkpoint,header,rfl,parts⟩

def titled (length : Nat) : Checkpoint :=
  ⟨0,1,1,String.ofList (List.replicate length 'a'),⟨false,false,0,0,none⟩,0,none,[]⟩

theorem titled_header (length : Nat) : length ≤ (titled length).header.length := by
  have escaped : (Json.escaped (titled length).title).length = length := by
    rw [titled,Json.escaped_plain,List.length_replicate]
    intro c mem
    rw [List.eq_of_mem_replicate mem]
    decide
  simp only [Checkpoint.header,Json.object_length,Json.field_length,List.map_cons,List.map_nil,List.sum_cons,
    Json.string_length,escaped]
  omega

theorem checkpoint_blobs_title : ∃ checkpoint : Checkpoint, checkpoint.rows ≠ 0 ∧ checkpoint.cols ≠ 0 ∧
    checkpoint.normalBeforeAlt = none ∧ checkpoint.snapshot = [] ∧
    ∀ parse, parse checkpoint.header = some checkpoint.metadata →
      Checkpoint.decode parse checkpoint.encode ≠ some checkpoint := by
  refine ⟨titled (2 ^ 32),by decide,by decide,rfl,rfl,?_⟩
  intro parse parsed decoded
  have small := (decode_encode_iff (by decide) (by decide) (by decide) parsed).mp decoded
  have large := titled_header (2 ^ 32)
  omega

theorem checkpoint_blobs_plain :
    Checkpoint.decode (fun header => if header = (titled 3).header then some (titled 3).metadata else none)
      (titled 3).encode = some (titled 3) := by
  refine ((checkpoint_blobs _).1 (titled 3) (by decide) (by decide) (by decide) (by simp)).mpr ?_
  decide +kernel

end Coflux.Sessiond
