import Coflux.Foundation.Text

namespace Json
open Text
open List (length_append length_cons length_map length_nil)

-- No blanks, fields in the order given, only the escapes JSON requires.

def hexDigit (n : Nat) : UInt8 := if n < 10 then (48 + n).toUInt8 else (87 + n).toUInt8

def escapeChar (c : Char) : Bytes :=
  if c = Char.ofNat 0x22 then ascii "\\\""
  else if c = Char.ofNat 0x5c then ascii "\\\\"
  else if c = Char.ofNat 8 then ascii "\\b"
  else if c = Char.ofNat 9 then ascii "\\t"
  else if c = Char.ofNat 10 then ascii "\\n"
  else if c = Char.ofNat 12 then ascii "\\f"
  else if c = Char.ofNat 13 then ascii "\\r"
  else if c.toNat < 0x20 then ascii "\\u00" ++ [hexDigit (c.toNat / 16),hexDigit (c.toNat % 16)]
  else String.utf8EncodeChar c

def escaped (text : String) : Bytes := text.toList.flatMap escapeChar

def quote : UInt8 := 0x22

def string (text : String) : Bytes := quote :: escaped text ++ [quote]

def nat (n : Nat) : Bytes := (Nat.toDigits 10 n).map fun c => c.toNat.toUInt8

def unsigned (bits n : Nat) : Bytes := nat (n % 2 ^ bits)

def i32 (n : Int) : Bytes :=
  let value := n.bmod (2 ^ 32)
  if value < 0 then 0x2d :: nat value.natAbs else nat value.natAbs

def bool (b : Bool) : Bytes := if b then ascii "true" else ascii "false"

def joined : List Bytes → Bytes
  | [] => []
  | [item] => item
  | item :: rest => item ++ 0x2c :: joined rest

def array (items : List Bytes) : Bytes := 0x5b :: joined items ++ [0x5d]

def field (entry : String × Bytes) : Bytes := string entry.1 ++ 0x3a :: entry.2

def object (fields : List (String × Bytes)) : Bytes := 0x7b :: joined (fields.map field) ++ [0x7d]

theorem string_length (text : String) : (string text).length = (escaped text).length + 2 := by
  simp [string]

theorem unsigned_length (bits n digits : Nat) (positive : 0 < digits) (enough : 2 ^ bits ≤ 10 ^ digits) :
    (unsigned bits n).length ≤ digits := by
  have small : n % 2 ^ bits < 10 ^ digits :=
    Nat.lt_of_lt_of_le (Nat.mod_lt _ (Nat.two_pow_pos bits)) enough
  simpa [unsigned,nat] using Nat.toDigits_length 10 (n % 2 ^ bits) digits positive small

theorem i32_length (n : Int) : (i32 n).length ≤ 11 := by
  have low := Int.le_bmod (x := n) (m := 2 ^ 32) (by decide)
  have high := Int.bmod_le (x := n) (m := 2 ^ 32) (by decide)
  have small : (n.bmod (2 ^ 32)).natAbs < 10 ^ 10 := by omega
  have digits := Nat.toDigits_length 10 (n.bmod (2 ^ 32)).natAbs 10 (by decide) small
  simp only [i32]
  split
  · simp only [length_cons,nat,length_map]
    omega
  · simp only [nat,length_map]
    omega

theorem bool_length (b : Bool) : (bool b).length ≤ 5 := by
  cases b <;> decide

theorem escapeChar_length (c : Char) : (escapeChar c).length ≤ 6 * c.utf8Size := by
  have size := c.utf8Size_pos
  have encoded : (String.utf8EncodeChar c).length = c.utf8Size := String.length_utf8EncodeChar c
  unfold escapeChar
  have two : ∀ text : String, text.toList.length = 2 → (ascii text).length ≤ 6 * c.utf8Size := by
    intro text length
    simp only [ascii,length_map,length]
    omega
  split; exact two _ (by decide)
  split; exact two _ (by decide)
  split; exact two _ (by decide)
  split; exact two _ (by decide)
  split; exact two _ (by decide)
  split; exact two _ (by decide)
  split; exact two _ (by decide)
  split
  · have prefixed : (ascii "\\u00").length = 4 := by decide
    simp only [length_append,prefixed,length_cons,length_nil]
    omega
  · omega

theorem escaped_chars_length : (chars.flatMap escapeChar).length ≤ 6 * String.utf8Len chars := by
  induction chars with
  | nil => simp
  | cons c rest ih =>
    have one := escapeChar_length c
    simp only [List.flatMap_cons,length_append,String.utf8Len_cons]
    omega

theorem escaped_length (text : String) : (escaped text).length ≤ 6 * text.utf8ByteSize := by
  have size := String.utf8ByteSize_ofList text.toList
  rw [String.ofList_toList] at size
  rw [size]
  exact escaped_chars_length

theorem joined_length : (joined items).length = (items.map List.length).sum + (items.length - 1) := by
  fun_induction joined items with
  | case1 => rfl
  | case2 item => simp
  | case3 item rest nonempty ih =>
    have positive : 0 < rest.length := List.length_pos_iff.mpr nonempty
    simp only [length_append,length_cons,ih,List.map_cons,List.sum_cons]
    omega

@[simp] theorem array_length :
    (array items).length = (items.map List.length).sum + (items.length - 1) + 2 := by
  simp only [array,length_cons,length_append,length_nil,joined_length]

@[simp] theorem field_length :
    (field entry).length = (string entry.1).length + 1 + entry.2.length := by
  simp only [field,length_append,length_cons]
  omega

@[simp] theorem object_length {fields : List (String × Bytes)} :
    (object fields).length = (fields.map fun entry => (field entry).length).sum + (fields.length - 1) + 2 := by
  simp only [object,length_cons,length_append,length_nil,joined_length,List.map_map,length_map,
    Function.comp_def]

theorem escaped_append : escaped (left ++ right) = escaped left ++ escaped right := by
  simp [escaped]

theorem escaped_plain (plain : ∀ c ∈ chars, (escapeChar c).length = 1) :
    (escaped (String.ofList chars)).length = chars.length := by
  simp only [escaped,String.toList_ofList]
  induction chars with
  | nil => rfl
  | cons c rest ih =>
    have one := plain c List.mem_cons_self
    have more := ih fun other mem => plain other (List.mem_cons_of_mem _ mem)
    simp only [List.flatMap_cons,length_append,length_cons,one,more]
    omega

theorem utf8Len_le (chars : List Char) : String.utf8Len chars ≤ 4 * chars.length := by
  induction chars with
  | nil => simp
  | cons c rest ih =>
    have one := c.utf8Size_le_four
    simp only [String.utf8Len_cons,length_cons]
    omega

theorem decimal_size (small : n < 10 ^ 20) : (toString n).utf8ByteSize ≤ 80 := by
  have digits := Nat.toDigits_length 10 n 20 (by decide) small
  have size := utf8Len_le (Nat.toDigits 10 n)
  simp only [toString,Nat.repr,String.utf8ByteSize_ofList]
  omega

end Json
