import Mathlib

namespace Text

abbrev Bytes := List UInt8

def ascii (text : String) : Bytes := text.toList.map fun c => c.toNat.toUInt8

def utf8 (text : String) : Bytes := text.toList.flatMap String.utf8EncodeChar

def replacement : Char := Char.ofNat 0xfffd

def continuation (byte : UInt8) : Bool := 0x80 ≤ byte && byte ≤ 0xbf

def secondRange (lead : UInt8) : UInt8 × UInt8 :=
  if lead = 0xe0 then (0xa0,0xbf)
  else if lead = 0xed then (0x80,0x9f)
  else if lead = 0xf0 then (0x90,0xbf)
  else if lead = 0xf4 then (0x80,0x8f)
  else (0x80,0xbf)

def low6 (byte : UInt8) : Nat := byte.toNat % 64

-- The character a non-ASCII lead byte starts, and how many following bytes belong to it. A
-- malformed sequence becomes one replacement character.
def decodeLead (lead : UInt8) (rest : Bytes) : Char × Nat :=
  let second := fun byte => decide ((secondRange lead).1 ≤ byte ∧ byte ≤ (secondRange lead).2)
  if 0xc2 ≤ lead ∧ lead ≤ 0xdf then
    match rest with
    | b1 :: _ => if continuation b1 then (Char.ofNat (lead.toNat % 32 * 64 + low6 b1),1) else (replacement,0)
    | [] => (replacement,0)
  else if 0xe0 ≤ lead ∧ lead ≤ 0xef then
    match rest with
    | b1 :: more =>
      if second b1 then
        match more with
        | b2 :: _ =>
          if continuation b2 then (Char.ofNat (lead.toNat % 16 * 4096 + low6 b1 * 64 + low6 b2),2)
          else (replacement,1)
        | [] => (replacement,1)
      else (replacement,0)
    | [] => (replacement,0)
  else if 0xf0 ≤ lead ∧ lead ≤ 0xf4 then
    match rest with
    | b1 :: more =>
      if second b1 then
        match more with
        | b2 :: last =>
          if continuation b2 then
            match last with
            | b3 :: _ =>
              if continuation b3 then
                (Char.ofNat (lead.toNat % 8 * 262144 + low6 b1 * 4096 + low6 b2 * 64 + low6 b3),3)
              else (replacement,2)
            | [] => (replacement,2)
          else (replacement,1)
        | [] => (replacement,1)
      else (replacement,0)
    | [] => (replacement,0)
  else (replacement,0)

-- Every step takes at least one byte, so the length is enough fuel.
def decodeLossyFuel : Nat → Bytes → List Char
  | 0,_ => []
  | _,[] => []
  | fuel + 1,byte :: rest =>
    if byte < 0x80 then Char.ofNat byte.toNat :: decodeLossyFuel fuel rest
    else
      let (c,used) := decodeLead byte rest
      c :: decodeLossyFuel fuel (rest.drop used)

def decodeLossy (bytes : Bytes) : List Char := decodeLossyFuel bytes.length bytes

-- At most limit pieces; the last one keeps further separators.
def splitN : Nat → UInt8 → Bytes → List Bytes
  | 0,_,_ => []
  | 1,_,bytes => [bytes]
  | limit + 2,separator,bytes =>
    match bytes.span fun byte => byte ≠ separator with
    | (head,[]) => [head]
    | (head,_ :: tail) => head :: splitN (limit + 1) separator tail

def parseI32 (bytes : Bytes) : Option Int :=
  let (negative,digits) := match bytes with
    | 0x2d :: rest => (true,rest)
    | 0x2b :: rest => (false,rest)
    | _ => (false,bytes)
  if digits.isEmpty ∨ ¬digits.all (fun byte => 0x30 ≤ byte && byte ≤ 0x39) then none
  else
    let value : Nat := digits.foldl (fun total byte => total * 10 + (byte.toNat - 48)) 0
    let signed : Int := if negative then -(value : Int) else value
    if -(2 ^ 31) ≤ signed ∧ signed < 2 ^ 31 then some signed else none

end Text
