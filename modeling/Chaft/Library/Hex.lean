import Chaft.Library.Utf8

/-!
# Hexadecimal texts

Bytes are written with two lowercase digits each, the high half first.  The reader
takes digits of both cases.
-/

namespace Hex

def digits : List Char := "0123456789abcdef".toList

def digit (nibble : UInt8) : Char :=
  digits.getD nibble.toNat '0'

def pair (byte : UInt8) : List Char :=
  [digit (byte >>> 4), digit (byte &&& 15)]

def encode (bytes : List UInt8) : String :=
  String.ofList (bytes.flatMap pair)

def decodeNibble (byte : UInt8) : Option UInt8 :=
  if 48 ≤ byte ∧ byte ≤ 57 then
    some (byte - 48)
  else if 97 ≤ byte ∧ byte ≤ 102 then
    some (byte - 97 + 10)
  else if 65 ≤ byte ∧ byte ≤ 70 then
    some (byte - 65 + 10)
  else
    none

def decodePairs : List UInt8 → Option (List UInt8)
  | high :: low :: rest => do
      let high ← decodeNibble high
      let low ← decodeNibble low
      let rest ← decodePairs rest
      some (((high <<< 4) ||| low) :: rest)
  | _ => some []

/-- The bytes of a text of pairs of digits. -/
def decode (value : String) : Option (List UInt8) :=
  let bytes := Utf8.encode value.toList
  if bytes.length % 2 = 0 then
    decodePairs bytes
  else
    none

/-- Thirty-two bytes. -/
def decode32 (value : String) : Option (List UInt8) :=
  (decode value).filter fun bytes => decide (bytes.length = 32)

theorem length_encode (bytes : List UInt8) :
    (encode bytes).toList.length = 2 * bytes.length := by
  rw [encode, String.toList_ofList, List.length_flatMap]
  induction bytes with
  | nil => rfl
  | cons byte rest inductionHypothesis =>
      rw [List.map_cons, List.sum_cons, inductionHypothesis, List.length_cons, pair,
        List.length_cons, List.length_singleton]
      omega

/-! ## Reading back -/

/-- Every nibble is written with one byte and read from it. -/
private theorem exists_digit_byte :
    ∀ nibble : Fin 16, ∃ byte,
      String.utf8EncodeChar (digit (UInt8.ofNat nibble)) = [byte] ∧
        decodeNibble byte = some (UInt8.ofNat nibble) := by
  have written :
      ∀ nibble : Fin 16,
        String.utf8EncodeChar (digit (UInt8.ofNat nibble)) =
            [(String.utf8EncodeChar (digit (UInt8.ofNat nibble))).headD 0] ∧
          decodeNibble ((String.utf8EncodeChar (digit (UInt8.ofNat nibble))).headD 0) =
            some (UInt8.ofNat nibble) := by
    decide +kernel
  exact fun nibble => ⟨_, written nibble⟩

/-- A byte is put together from its halves. -/
private theorem halves (byte : UInt8) :
    (∃ high : Fin 16, byte >>> 4 = UInt8.ofNat high) ∧
      (∃ low : Fin 16, byte &&& 15 = UInt8.ofNat low) ∧
        ((byte >>> 4) <<< 4) ||| (byte &&& 15) = byte := by
  have all :
      ∀ value : Fin 256,
        (∃ high : Fin 16, UInt8.ofNat value >>> 4 = UInt8.ofNat high) ∧
          (∃ low : Fin 16, UInt8.ofNat value &&& 15 = UInt8.ofNat low) ∧
            ((UInt8.ofNat value >>> 4) <<< 4) ||| (UInt8.ofNat value &&& 15) =
              UInt8.ofNat value := by
    decide +kernel
  have spelled := all ⟨byte.toNat, byte.toNat_lt⟩
  rwa [UInt8.ofNat_toNat] at spelled

private theorem decodePairs_encode (bytes : List UInt8) :
    decodePairs (Utf8.encode (bytes.flatMap pair)) = some bytes ∧
      (Utf8.encode (bytes.flatMap pair)).length = 2 * bytes.length := by
  induction bytes with
  | nil => exact ⟨rfl, rfl⟩
  | cons byte rest inductionHypothesis =>
      obtain ⟨decoded, length⟩ := inductionHypothesis
      obtain ⟨⟨high, isHigh⟩, ⟨low, isLow⟩, whole⟩ := halves byte
      obtain ⟨highByte, highWritten, highRead⟩ := exists_digit_byte high
      obtain ⟨lowByte, lowWritten, lowRead⟩ := exists_digit_byte low
      have written :
          Utf8.encode ((byte :: rest).flatMap pair) =
            highByte :: lowByte :: Utf8.encode (rest.flatMap pair) := by
        simp only [Utf8.encode, List.flatMap_cons, pair, isHigh, isLow, List.cons_append,
          List.nil_append, highWritten, lowWritten]
      rw [written]
      constructor
      · rw [decodePairs, highRead, lowRead, decoded, ← isHigh, ← isLow]
        simp only [Option.bind_eq_bind, Option.bind_some, whole]
      · rw [List.length_cons, List.length_cons, length, List.length_cons]
        omega

/-- What is written is read back. -/
theorem decode_encode (bytes : List UInt8) : decode (encode bytes) = some bytes := by
  obtain ⟨decoded, length⟩ := decodePairs_encode bytes
  rw [decode, encode, String.toList_ofList]
  rw [if_pos (by omega), decoded]

theorem decode32_encode
    {bytes : List UInt8} (isLong : bytes.length = 32) : decode32 (encode bytes) = some bytes := by
  rw [decode32, decode_encode, Option.filter_some, if_pos (decide_eq_true isLong)]

end Hex
