import Mathlib.Data.List.Basic

/-!
# UTF-8

The bytes of a text, and the reading of bytes that puts U+FFFD in the place of what
is not UTF-8.  One replacement stands for the longest front part of a character, or
for one byte where no character starts.  The bytes of a text are read back as they
are.
-/

namespace Utf8

def encode (text : List Char) : List UInt8 :=
  text.flatMap String.utf8EncodeChar

def decodeChar? (bytes : List UInt8) : Option Char :=
  bytes.toByteArray.utf8DecodeChar? 0

def isContinuation (byte : UInt8) : Bool :=
  decide (0x80 ≤ byte) && decide (byte ≤ 0xBF)

/-- A character of three or four bytes can start with two bytes. -/
def startsCharacter (first second : UInt8) : Bool :=
  isContinuation second &&
    ((first == 0xE0 && decide (0xA0 ≤ second)) ||
      (decide (0xE1 ≤ first) && decide (first ≤ 0xEC)) ||
      (first == 0xED && decide (second ≤ 0x9F)) ||
      (decide (0xEE ≤ first) && decide (first ≤ 0xEF)) ||
      (first == 0xF0 && decide (0x90 ≤ second)) ||
      (decide (0xF1 ≤ first) && decide (first ≤ 0xF3)) ||
      (first == 0xF4 && decide (second ≤ 0x8F)))

/-- How many bytes one replacement stands for, where no character can be read. -/
def invalidLength : List UInt8 → Nat
  | first :: second :: third :: _ =>
      if startsCharacter first second then
        if isContinuation third && decide (0xF0 ≤ first) then 3 else 2
      else
        1
  | [first, second] => if startsCharacter first second then 2 else 1
  | _ => 1

/-- Every step reads at least one byte, so that the length of the input is enough
fuel. -/
def decodeLossyFrom : Nat → List UInt8 → List Char
  | 0, _ => []
  | _, [] => []
  | fuel + 1, bytes =>
      match decodeChar? bytes with
      | some symbol => symbol :: decodeLossyFrom fuel (bytes.drop symbol.utf8Size)
      | none => '\uFFFD' :: decodeLossyFrom fuel (bytes.drop (invalidLength bytes))

def decodeLossy (bytes : List UInt8) : List Char :=
  decodeLossyFrom bytes.length bytes

theorem decodeChar?_append (symbol : Char) (rest : List UInt8) :
    decodeChar? (String.utf8EncodeChar symbol ++ rest) = some symbol := by
  rw [decodeChar?, List.toByteArray_append]
  exact ByteArray.utf8DecodeChar?_utf8EncodeChar_append

theorem decodeLossyFrom_encode
    (text : List Char) {fuel : Nat} (enough : (encode text).length ≤ fuel) :
    decodeLossyFrom fuel (encode text) = text := by
  induction text generalizing fuel with
  | nil => cases fuel <;> rfl
  | cons symbol rest inductionHypothesis =>
      have size := String.length_utf8EncodeChar symbol
      have positive := symbol.utf8Size_pos
      have split : encode (symbol :: rest) = String.utf8EncodeChar symbol ++ encode rest := rfl
      rw [split, List.length_append, size] at enough
      have notEmpty : encode (symbol :: rest) ≠ [] := by
        intro empty
        have noBytes := congrArg List.length empty
        rw [split, List.length_append, size, List.length_nil] at noBytes
        omega
      cases fuel with
      | zero => omega
      | succ fuel =>
          have first : decodeChar? (encode (symbol :: rest)) = some symbol := by
            rw [split, decodeChar?_append]
          have unread : (encode (symbol :: rest)).drop symbol.utf8Size = encode rest := by
            rw [split, ← size, List.drop_left]
          rw [decodeLossyFrom, first]
          · simp only
            rw [unread, inductionHypothesis (by omega)]
          · exact notEmpty

/-- A text is read back from its bytes. -/
@[simp]
theorem decodeLossy_encode (text : List Char) : decodeLossy (encode text) = text :=
  decodeLossyFrom_encode text (Nat.le_refl _)

/-! ## Strict reading -/

/-- The text that has these bytes, if there is one. -/
def decode? (bytes : List UInt8) : Option (List Char) :=
  if encode (decodeLossy bytes) = bytes then some (decodeLossy bytes) else none

@[simp]
theorem decode?_encode (text : List Char) : decode? (encode text) = some text := by
  rw [decode?, decodeLossy_encode, if_pos rfl]

theorem decode?_eq_some {bytes : List UInt8} {text : List Char} (read : decode? bytes = some text) :
    encode text = bytes := by
  rw [decode?] at read
  by_cases isText : encode (decodeLossy bytes) = bytes
  · rw [if_pos isText, Option.some.injEq] at read
    rw [← read, isText]
  · rw [if_neg isText] at read
    cases read

/-! ## Bytes of strings -/

private theorem toList_loop (bytes : ByteArray) (index : Nat) (listed : List UInt8) :
    ByteArray.toList.loop bytes index listed =
      listed.reverse ++ bytes.data.toList.drop index := by
  fun_induction ByteArray.toList.loop bytes index listed with
  | case1 index listed inside inductionHypothesis =>
      have next :
          bytes.data.toList.drop index =
            bytes.data.toList[index] :: bytes.data.toList.drop (index + 1) :=
        List.drop_eq_getElem_cons (by simpa using inside)
      rw [inductionHypothesis, next]
      simp [ByteArray.get!, inside]
  | case2 index listed outside =>
      have nothingLeft : bytes.data.toList.drop index = [] :=
        List.drop_of_length_le (by simpa using outside)
      rw [nothingLeft, List.append_nil]

theorem toList_eq_data (bytes : ByteArray) : bytes.toList = bytes.data.toList := by
  rw [ByteArray.toList, toList_loop, List.reverse_nil, List.nil_append, List.drop_zero]

/-- Strings of the same bytes are the same. -/
theorem toUTF8_toList_injective : Function.Injective fun text : String => text.toUTF8.toList := by
  intro left right same
  dsimp only at same
  rw [toList_eq_data, toList_eq_data, Array.toList_inj] at same
  exact String.toByteArray_inj.mp (ByteArray.ext same)

/-- A string is read back from its bytes. -/
theorem fromUTF8?_toUTF8 (text : String) :
    String.fromUTF8? text.toUTF8.toList.toByteArray = some text := by
  have bytes : text.toUTF8.toList.toByteArray = text.toByteArray := by
    apply ByteArray.ext
    apply Array.toList_inj.mp
    rw [List.toList_data_toByteArray, toList_eq_data]
    rfl
  rw [bytes, String.fromUTF8?, dif_pos text.isValidUTF8]
  rfl

-- An overlong zero, a cut character and a letter.
example : decodeLossy [0xC0, 0x80, 0xE2, 0x82, 0x61] = ['\uFFFD', '\uFFFD', '\uFFFD', 'a'] := by
  decide +kernel

end Utf8
