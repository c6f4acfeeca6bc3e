import Chaft.Library.Batching
import Chaft.Library.Protobuf
import Chaft.Network.SyncRequest
import Chaft.Network.WireTrustSnapshot
import Chaft.Storage.BlobAvailability

/-!
# Sync frames

Requests and responses travel as Protobuf messages in frames of a limited length.  Senders
that pack several items into a request reckon with the lengths of their fields instead of
encoding the request again and again.
-/

namespace Chaft

open Outcome Protobuf

def maxFrameLen : Nat := 16 * 1024 * 1024

/-! ## Messages -/

def optionalNumberField (tag : Nat) (value : Option UInt64) : List Field :=
  value.toList.map fun present => ⟨tag, .number present.toNat⟩

def WireBlobEnvelope.fields (blob : WireBlobEnvelope) : List Field :=
  textField 1 blob.hash ++ bytesField 2 blob.bytes

def WireBlobDescriptor.fields (descriptor : WireBlobDescriptor) : List Field :=
  textField 1 descriptor.hash ++ numberField 2 descriptor.byteLen.toNat ++
    numberField 3 descriptor.chunkSize.toNat ++
    repeatedField 4 (descriptor.chunkHashes.map textBytes)

def WireBlobAvailability.fields (availability : WireBlobAvailability) : List Field :=
  textField 1 availability.hash ++ flagField 2 availability.hasWholeBlob ++
    optionalField 3 (availability.descriptor.map fun descriptor => encode descriptor.fields) ++
    repeatedField 4 (availability.availableChunkHashes.map textBytes) ++
    repeatedField 5 (availability.missingChunkHashes.map textBytes)

section Messages

variable (eventBodyToVec : WireEventBody → List UInt8)

def WireEventEnvelope.encodedLen (envelope : WireEventEnvelope) : Nat :=
  (encode (envelope.fields eventBodyToVec)).length

def WireSyncRequest.fields (request : WireSyncRequest) : List Field :=
  enumField 1 request.kind ++ repeatedField 2 (request.eventIds.map textBytes) ++
    repeatedField 3 request.events ++ repeatedField 4 request.authorizationEvents ++
    repeatedField 5 (request.blobHashes.map textBytes) ++
    repeatedField 6 (request.blobs.map fun blob => encode blob.fields) ++
    repeatedField 7 (request.blobDescriptors.map fun descriptor => encode descriptor.fields) ++
    optionalField 8 (request.workspaceId.map textBytes) ++
    repeatedField 9 request.authorizationSnapshots ++
    repeatedField 10
      (request.eventEnvelopes.map fun envelope => encode (envelope.fields eventBodyToVec)) ++
    repeatedField 11
      (request.authorizationEventEnvelopes.map fun envelope =>
        encode (envelope.fields eventBodyToVec)) ++
    repeatedField 12
      (request.authorizationSnapshotEnvelopes.map fun snapshot =>
        encode (snapshot.fields eventBodyToVec)) ++
    optionalNumberField 13 request.inventoryStartIndex ++
    optionalNumberField 14 request.inventoryLimit

def WireSyncResponse.fields (response : WireSyncResponse) : List Field :=
  repeatedField 1 (response.eventIds.map textBytes) ++ repeatedField 2 response.events ++
    optionalField 3 (response.error.map textBytes) ++
    repeatedField 4 (response.blobs.map fun blob => encode blob.fields) ++
    repeatedField 5 (response.blobDescriptors.map fun descriptor => encode descriptor.fields) ++
    repeatedField 6
      (response.blobAvailability.map fun availability => encode availability.fields) ++
    repeatedField 7
      (response.eventEnvelopes.map fun envelope => encode (envelope.fields eventBodyToVec)) ++
    optionalNumberField 8 response.inventoryTotalCount

def encodeSyncRequest (request : WireSyncRequest) : List UInt8 :=
  encode (request.fields eventBodyToVec)

def WireSyncResponse.encodedLen (response : WireSyncResponse) : Nat :=
  (encode (response.fields eventBodyToVec)).length

def validateSyncResponseFrameLen
    (context : String) (response : WireSyncResponse) : Except NetError Unit :=
  ensure (response.encodedLen eventBodyToVec ≤ maxFrameLen)
    (.protocol (context ++ " response frame length " ++
      (response.encodedLen eventBodyToVec).repr ++ " exceeds max " ++ maxFrameLen.repr))

end Messages

/-! ## Lengths of fields -/

/-- The steps that a varint takes, one for each group of seven bits after the first. -/
def varintEncodedLenFrom : Nat → Nat → Nat
  | 0, _ => 1
  | fuel + 1, value => if 0x80 ≤ value then varintEncodedLenFrom fuel (value / 2 ^ 7) + 1 else 1

def varintEncodedLen (value : Nat) : Nat :=
  varintEncodedLenFrom value value

def messageFieldEncodedLen (messageLen : Nat) : Nat :=
  1 + varintEncodedLen messageLen + messageLen

theorem varintEncodedLen_eq (value : Nat) : varintEncodedLen value = varintLength value := by
  have steps :
      ∀ fuel value, varintEncodedLenFrom fuel value = (varintFrom fuel value).length := by
    intro fuel
    induction fuel with
    | zero => exact fun _ => rfl
    | succ fuel inductionHypothesis =>
        intro value
        rw [varintEncodedLenFrom, varintFrom]
        by_cases small : value < 128
        · rw [if_neg (by omega), if_pos small]
          rfl
        · rw [if_pos (by omega), if_neg small, List.length_cons]
          exact congrArg (· + 1) (inductionHypothesis (value / 128))
  rw [varintEncodedLen, steps]
  exact length_varint value

/-- The key of a field with a small tag is one byte. -/
theorem encodedLength_bytes
    {tag : Nat} (small : tag < 16) (content : List UInt8) :
    Field.encodedLength ⟨tag, .bytes content⟩ = messageFieldEncodedLen content.length := by
  have key : varintLength (tag * 8 + 2) = 1 := by
    interval_cases tag <;> rfl
  have isKey : Field.key ⟨tag, .bytes content⟩ = tag * 8 + 2 := rfl
  rw [Field.encodedLength, isKey, key, Payload.encodedLength, messageFieldEncodedLen,
    varintEncodedLen_eq]
  omega

theorem encodedLength_append (fields others : List Field) :
    encodedLength (fields ++ others) = encodedLength fields + encodedLength others := by
  simp [encodedLength]

theorem encodedLength_repeatedField
    {tag : Nat} (small : tag < 16) (contents : List (List UInt8)) :
    encodedLength (repeatedField tag contents) =
      (contents.map fun content => messageFieldEncodedLen content.length).sum := by
  rw [encodedLength, repeatedField, List.map_map]
  exact congrArg List.sum (List.map_congr_left fun content _ => encodedLength_bytes small content)

/-- Seven bits go into each byte of a length. -/
theorem varintLength_le {value groups : Nat} (small : value < 128 ^ (groups + 1)) :
    varintLength value ≤ groups + 1 := by
  rw [varintLength]
  by_cases isZero : value = 0
  · rw [isZero, Nat.log2_zero]
    omega
  · have powers : 128 ^ (groups + 1) = 2 ^ (7 * (groups + 1)) := by
      rw [Nat.pow_mul]
    rw [powers] at small
    have log := (Nat.log2_lt isZero).mpr small
    omega

/-- Small messages in a repeated field take a bounded room. -/
theorem encodedLength_repeatedField_le
    {tag : Nat} (smallTag : tag < 16) {contents : List (List UInt8)} {largest groups : Nat}
    (small : ∀ content ∈ contents, content.length ≤ largest)
    (short : largest < 128 ^ (groups + 1)) :
    encodedLength (repeatedField tag contents) ≤ contents.length * (largest + groups + 2) := by
  rw [encodedLength_repeatedField smallTag]
  have bounded : ∀ part ∈ contents.map fun content => messageFieldEncodedLen content.length,
      part ≤ largest + groups + 2 := by
    intro part member
    obtain ⟨content, listed, rfl⟩ := List.mem_map.mp member
    have length := small content listed
    have varint := varintLength_le (Nat.lt_of_le_of_lt length short)
    rw [messageFieldEncodedLen, varintEncodedLen_eq]
    omega
  have total := List.sum_le_card_nsmul _ _ bounded
  rwa [List.length_map, smul_eq_mul] at total

/-! ## Frames -/

/-- A number in four bytes, the highest first. -/
def toBeBytes (value : Nat) : List UInt8 :=
  [UInt8.ofNat (value / 2 ^ 24), UInt8.ofNat (value / 2 ^ 16), UInt8.ofNat (value / 2 ^ 8),
    UInt8.ofNat value]

def readU32 : List UInt8 → Option (Nat × List UInt8)
  | first :: second :: third :: fourth :: rest =>
      some
        (first.toNat * 2 ^ 24 + second.toNat * 2 ^ 16 + third.toNat * 2 ^ 8 + fourth.toNat, rest)
  | _ => none

def frameTooLong (length : Nat) : NetError :=
  .protocol ("frame length " ++ length.repr ++ " exceeds max " ++ maxFrameLen.repr)

/-- What is written to the stream. -/
def writeFrame (bytes : List UInt8) : Except NetError (List UInt8) := do
  ensure (bytes.length ≤ maxFrameLen) (frameTooLong bytes.length)
  .ok (toBeBytes bytes.length ++ bytes)

/-- A frame and what follows it in a stream that ends. -/
def readFrame (stream : List UInt8) : Except NetError (List UInt8 × List UInt8) := do
  let (length, rest) ← okOr (readU32 stream) (.io "early eof")
  ensure (length ≤ maxFrameLen) (frameTooLong length)
  ensure (length ≤ rest.length) (.io "early eof")
  .ok (rest.take length, rest.drop length)

theorem readU32_toBeBytes {value : Nat} (small : value < 2 ^ 32) (rest : List UInt8) :
    readU32 (toBeBytes value ++ rest) = some (value, rest) := by
  have bytes (part : Nat) : (UInt8.ofNat part).toNat = part % 256 := UInt8.toNat_ofNat'
  simp only [toBeBytes, List.cons_append, List.nil_append, readU32, bytes, Option.some.injEq,
    Prod.mk.injEq, and_true]
  omega

/-- What is written is read. -/
theorem readFrame_writeFrame {bytes : List UInt8} (fits : bytes.length ≤ maxFrameLen) :
    ∃ frame, writeFrame bytes = .ok frame ∧
      ∀ rest, readFrame (frame ++ rest) = .ok (bytes, rest) := by
  refine ⟨toBeBytes bytes.length ++ bytes, ?_, ?_⟩
  · simp [writeFrame, ensure, fits, bind, Except.bind]
  · intro rest
    have small : bytes.length < 2 ^ 32 := Nat.lt_of_le_of_lt fits (by decide)
    rw [List.append_assoc, readFrame, readU32_toBeBytes small]
    simp [okOr, ensure, fits, bind, Except.bind]

end Chaft
