import Chaft.Library.Utf8
import Mathlib

/-!
# Protobuf messages

The bytes of a message: for each field a key, and then a number in groups of seven
bits or some bytes behind their length.  A field of the third language version that
holds its default is left out, unless it is optional or repeated.

The length of a message can be told from its fields, and its first byte from the
first of them.
-/

namespace Protobuf

inductive Payload where
  | number (value : Nat)
  | bytes (content : List UInt8)

structure Field where
  tag : Nat
  payload : Payload

/-! ## Fields of the types of the language -/

def numberField (tag value : Nat) : List Field :=
  if value = 0 then [] else [⟨tag, .number value⟩]

def flagField (tag : Nat) (value : Bool) : List Field :=
  numberField tag value.toNat

/-- A negative number is written with the sign in all of its 64 bits. -/
def enumField (tag : Nat) (value : Int32) : List Field :=
  numberField tag value.toInt64.toUInt64.toNat

def textBytes (text : String) : List UInt8 :=
  Utf8.encode text.toList

def bytesField (tag : Nat) (content : List UInt8) : List Field :=
  if content = [] then [] else [⟨tag, .bytes content⟩]

def textField (tag : Nat) (text : String) : List Field :=
  bytesField tag (textBytes text)

def repeatedField (tag : Nat) (contents : List (List UInt8)) : List Field :=
  contents.map fun content => ⟨tag, .bytes content⟩

def optionalField (tag : Nat) (content : Option (List UInt8)) : List Field :=
  repeatedField tag content.toList

/-! ## Bytes -/

/-- A number in groups of seven bits from the lowest one on.  Each step leaves a
smaller number, so that the number itself is enough fuel. -/
def varintFrom : Nat → Nat → List UInt8
  | 0, value => [UInt8.ofNat value]
  | fuel + 1, value =>
      if value < 128 then
        [UInt8.ofNat value]
      else
        UInt8.ofNat (value % 128 + 128) :: varintFrom fuel (value / 128)

def varint (value : Nat) : List UInt8 :=
  varintFrom value value

def Payload.wireType : Payload → Nat
  | .number _ => 0
  | .bytes _ => 2

def Field.key (field : Field) : Nat :=
  field.tag * 8 + field.payload.wireType

def Payload.encode : Payload → List UInt8
  | .number value => varint value
  | .bytes content => varint content.length ++ content

def Field.encode (field : Field) : List UInt8 :=
  varint field.key ++ field.payload.encode

def encode (fields : List Field) : List UInt8 :=
  fields.flatMap Field.encode

/-! ## Lengths -/

theorem length_textBytes (text : String) : (textBytes text).length = text.utf8ByteSize := by
  have lengths : ∀ symbols : List Char,
      (Utf8.encode symbols).length = (String.ofList symbols).utf8ByteSize := by
    intro symbols
    induction symbols with
    | nil => simp [Utf8.encode]
    | cons symbol rest inductionHypothesis =>
        have first : Utf8.encode (symbol :: rest) =
            String.utf8EncodeChar symbol ++ Utf8.encode rest := rfl
        rw [first, List.length_append, String.length_utf8EncodeChar, inductionHypothesis,
          String.ofList_cons, String.utf8ByteSize_append, String.utf8ByteSize_singleton]
  rw [textBytes, lengths, String.ofList_toList]

def varintLength (value : Nat) : Nat :=
  Nat.log2 value / 7 + 1

def Payload.encodedLength : Payload → Nat
  | .number value => varintLength value
  | .bytes content => varintLength content.length + content.length

def Field.encodedLength (field : Field) : Nat :=
  varintLength field.key + field.payload.encodedLength

def encodedLength (fields : List Field) : Nat :=
  (fields.map Field.encodedLength).sum

theorem log2_div_128 {value : Nat} (large : 128 ≤ value) :
    Nat.log2 value = Nat.log2 (value / 128) + 7 := by
  have atLeast (bits : Nat) : bits ≤ Nat.log2 (value / 128) ↔ bits + 7 ≤ Nat.log2 value := by
    have nonzero : value / 128 ≠ 0 := by omega
    have power : 2 ^ (bits + 7) = 2 ^ bits * 128 := Nat.pow_add 2 bits 7
    rw [Nat.le_log2 nonzero, Nat.le_log2 (by omega), power]
    exact Nat.le_div_iff_mul_le (by omega)
  have lower := (atLeast (Nat.log2 (value / 128))).mp (Nat.le_refl _)
  have seven : 7 ≤ Nat.log2 value := by omega
  have upper := (atLeast (Nat.log2 value - 7)).mpr (by omega)
  omega

theorem length_varintFrom {fuel value : Nat} (enough : value ≤ fuel) :
    (varintFrom fuel value).length = varintLength value := by
  induction fuel generalizing value with
  | zero =>
      have zero : value = 0 := by omega
      subst zero
      rfl
  | succ fuel inductionHypothesis =>
      rw [varintFrom]
      by_cases small : value < 128
      · have log : Nat.log2 value < 7 := by
          by_cases zero : value = 0
          · subst zero
            decide
          · exact (Nat.log2_lt zero).mpr small
        rw [if_pos small, List.length_singleton, varintLength]
        omega
      · have large : 128 ≤ value := by omega
        have rest : (varintFrom fuel (value / 128)).length = varintLength (value / 128) :=
          inductionHypothesis (by omega)
        rw [if_neg small, List.length_cons, rest, varintLength, varintLength,
          log2_div_128 large]
        omega

@[simp]
theorem length_varint (value : Nat) : (varint value).length = varintLength value :=
  length_varintFrom (Nat.le_refl value)

/-- The length of a message is the sum over its fields. -/
theorem length_encode (fields : List Field) :
    (encode fields).length = encodedLength fields := by
  have each (field : Field) : field.encode.length = field.encodedLength := by
    cases field with
    | mk tag payload =>
        cases payload <;>
          simp [Field.encode, Field.encodedLength, Payload.encode, Payload.encodedLength]
  rw [encode, List.length_flatMap, encodedLength]
  simp only [each]

/-! ## First bytes -/

theorem varint_of_small {value : Nat} (small : value < 128) :
    varint value = [UInt8.ofNat value] := by
  cases value with
  | zero => rfl
  | succ value => rw [varint, varintFrom, if_pos small]

/-- The first byte of a large number has its highest bit set. -/
theorem varint_of_large {value : Nat} (large : 128 ≤ value) :
    ∃ first rest, varint value = first :: rest ∧ 128 ≤ first := by
  cases value with
  | zero => cases large
  | succ value =>
      refine ⟨UInt8.ofNat ((value + 1) % 128 + 128), varintFrom value ((value + 1) / 128), ?_, ?_⟩
      · rw [varint, varintFrom, if_neg (by omega)]
      · have byte : (value + 1) % 128 + 128 < 2 ^ 8 := by omega
        rw [UInt8.le_iff_toNat_le, UInt8.toNat_ofNat_of_lt' byte]
        exact Nat.le_add_left 128 _

/-- A message is empty or starts with the key of one of its fields. -/
theorem encode_eq_nil_or_cons
    {fields : List Field} (small : ∀ field ∈ fields, field.key < 128) :
    encode fields = [] ∨
      ∃ field ∈ fields, ∃ rest, encode fields = UInt8.ofNat field.key :: rest := by
  cases fields with
  | nil => exact .inl rfl
  | cons field fields =>
      refine .inr ⟨field, List.mem_cons_self, field.payload.encode ++ encode fields, ?_⟩
      rw [encode, List.flatMap_cons, Field.encode, varint_of_small (small field List.mem_cons_self)]
      rfl

theorem key_of_mem_numberField
    {tag value : Nat} {field : Field} (member : field ∈ numberField tag value) :
    field.key = tag * 8 := by
  rw [numberField] at member
  split at member
  · cases member
  · rw [List.mem_singleton] at member
    rw [member]
    rfl

theorem key_of_mem_repeatedField
    {tag : Nat} {contents : List (List UInt8)} {field : Field}
    (member : field ∈ repeatedField tag contents) :
    field.key = tag * 8 + 2 := by
  obtain ⟨content, -, rfl⟩ := List.mem_map.mp member
  rfl

theorem key_of_mem_textField
    {tag : Nat} {text : String} {field : Field} (member : field ∈ textField tag text) :
    field.key = tag * 8 + 2 := by
  rw [textField, bytesField] at member
  split at member
  · cases member
  · rw [List.mem_singleton] at member
    rw [member]
    rfl

end Protobuf
