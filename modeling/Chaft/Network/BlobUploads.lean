import Chaft.Network.SyncRequest
import Chaft.Storage.ChunkedRoundTrip

/-!
# Uploads of blobs

A peer uploads whole blobs, or descriptors with some of the chunks that they list.
The bytes that arrive are checked against their hashes.  A descriptor is checked for
its shape alone and takes the place of the manifest that was stored before it.
-/

namespace Chaft

open Outcome Keyed Effects Effects.Effect

def maxBlobUploadEnvelopesPerRequest : Nat := 128
def maxBlobUploadDescriptorsPerRequest : Nat := 128

def MediaError.toProtocol (error : MediaError) : NetError :=
  .protocol error.message

/-! ## Checks -/

def isCanonicalWireBlobHash (hash : String) : Bool :=
  decide (hash.toList.length = 64) && hash.toList.all isLowerHexDigit

def validateCanonicalWireBlobHash (context hash : String) : Except NetError Unit :=
  ensure (isCanonicalWireBlobHash hash = true)
    (.protocol (context ++ " non-canonical blob hash"))

def validateWireBlobDescriptorHashes (descriptor : WireBlobDescriptor) : Except NetError Unit := do
  validateCanonicalWireBlobHash "blob descriptor" descriptor.hash
  checkAll (validateCanonicalWireBlobHash "blob descriptor chunk") descriptor.chunkHashes

/-- A size of 64 bits always fits in a `usize`. -/
def WireBlobDescriptor.toDescriptor (descriptor : WireBlobDescriptor) : BlobDescriptor where
  hash := descriptor.hash
  byteLen := descriptor.byteLen
  chunkSize := descriptor.chunkSize
  chunkHashes := descriptor.chunkHashes

def wireToDescriptor (descriptor : WireBlobDescriptor) : Except NetError BlobDescriptor := do
  validateWireBlobDescriptorHashes descriptor
  (validateBlobDescriptor descriptor.toDescriptor).mapError MediaError.toProtocol
  .ok descriptor.toDescriptor

def duplicateValue (context : String) : NetError :=
  .protocol (context ++ " duplicate value")

def validateBlobEnvelopeHashesUnique
    (context : String) (blobs : List WireBlobEnvelope) : Except NetError Unit :=
  checkDistinct WireBlobEnvelope.hash (fun _ => duplicateValue context) [] blobs

def validateBlobDescriptorHashesUnique
    (context : String) (descriptors : List WireBlobDescriptor) : Except NetError Unit :=
  checkDistinct WireBlobDescriptor.hash (fun _ => duplicateValue context) [] descriptors

def validatePutBlobsRequestUniqueness (request : WireSyncRequest) : Except NetError Unit := do
  validateBlobEnvelopeHashesUnique
    (if request.blobDescriptors.isEmpty then "put-blobs blob" else "put-blobs chunk")
    request.blobs
  validateBlobDescriptorHashesUnique "put-blobs descriptor" request.blobDescriptors

/-- A chunk before the last one has the chunk size, the last one what is left. -/
def descriptorChunkByteLen
    (descriptor : BlobDescriptor) (chunkIndex : Nat) : Except NetError Nat :=
  if chunkIndex + 1 < descriptor.chunkHashes.length then
    .ok descriptor.chunkSize.toNat
  else do
    let consumedBefore := chunkIndex * descriptor.chunkSize.toNat
    ensure (consumedBefore < 2 ^ 64) (.protocol "blob descriptor byte length overflows")
    ensure (consumedBefore ≤ descriptor.byteLen.toNat) (.protocol "invalid blob descriptor")
    .ok (descriptor.byteLen.toNat - consumedBefore)

/-- The chunk hashes of a descriptor from `chunkIndex` on, with their lengths. -/
def descriptorChunkLengths
    (descriptor : BlobDescriptor) : Nat → List String → Except NetError (List (String × Nat))
  | _, [] => .ok []
  | chunkIndex, chunkHash :: rest => do
      let length ← descriptorChunkByteLen descriptor chunkIndex
      let others ← descriptorChunkLengths descriptor (chunkIndex + 1) rest
      .ok ((chunkHash, length) :: others)

/-- All lengths that the descriptors have for each chunk hash. -/
def descriptorChunkLengthsByHash
    (descriptors : List BlobDescriptor) : Except NetError (List (String × Nat)) := do
  let lengths ← descriptors.mapM fun descriptor =>
    descriptorChunkLengths descriptor 0 descriptor.chunkHashes
  .ok lengths.flatten

def validateChunkUploadsDeclaredByDescriptors
    (blobs : List WireBlobEnvelope) (descriptors : List BlobDescriptor) :
    Except NetError Unit :=
  checkAll
    (fun (blob : WireBlobEnvelope) =>
      ensure (blob.hash ∈ descriptors.flatMap BlobDescriptor.chunkHashes)
        (.protocol ("put-blobs chunk " ++ blob.hash ++ " not declared by descriptor")))
    blobs

section Content

variable (blake3Hex : Bytes → String)

def validateBlobEnvelopeContentHash
    (context : String) (blob : WireBlobEnvelope) : Except NetError Unit :=
  let actual := blake3Hex blob.bytes
  ensure (actual = blob.hash)
    (.protocol (context ++ " hash mismatch: declared " ++ blob.hash ++ ", actual " ++ actual))

def validateWholeBlobUploadEnvelopes (blobs : List WireBlobEnvelope) : Except NetError Unit :=
  checkAll
    (fun (blob : WireBlobEnvelope) => do
      validateCanonicalWireBlobHash "put-blobs blob" blob.hash
      validateBlobEnvelopeContentHash blake3Hex "put-blobs blob" blob)
    blobs

def validateChunkUploadPayload
    (expectedLengths : List (String × Nat)) (blob : WireBlobEnvelope) :
    Except NetError Unit := do
  validateCanonicalWireBlobHash "put-blobs chunk" blob.hash
  validateBlobEnvelopeContentHash blake3Hex "put-blobs chunk" blob
  ensure (blob.hash ∈ expectedLengths.map Prod.fst)
    (.protocol ("put-blobs chunk " ++ blob.hash ++ " not declared by descriptor"))
  ensure ((blob.hash, blob.bytes.length) ∈ expectedLengths)
    (.protocol ("put-blobs chunk " ++ blob.hash ++ " byte length " ++ blob.bytes.length.repr ++
      " does not match descriptor"))

def validateChunkUploadPayloads
    (blobs : List WireBlobEnvelope) (descriptors : List BlobDescriptor) :
    Except NetError Unit := do
  let expectedLengths ← descriptorChunkLengthsByHash descriptors
  checkAll (validateChunkUploadPayload blake3Hex expectedLengths) blobs

def validatePutBlobsRequestUploads (request : WireSyncRequest) :
    Except NetError (List BlobDescriptor) := do
  validatePutBlobsRequestUniqueness request
  if request.blobDescriptors.isEmpty then do
    validateWholeBlobUploadEnvelopes blake3Hex request.blobs
    .ok []
  else do
    let descriptors ← request.blobDescriptors.mapM wireToDescriptor
    validateChunkUploadsDeclaredByDescriptors request.blobs descriptors
    validateChunkUploadPayloads blake3Hex request.blobs descriptors
    .ok descriptors

def validatePutBlobsRequest (request : WireSyncRequest) :
    Except NetError (List BlobDescriptor) := do
  validateRequestShape request "put-blobs"
    { AllowedRequestFields.empty with blobs := true, blobDescriptors := true }
  validateRequestItemCount "put-blobs blob" request.blobs.length
    maxBlobUploadEnvelopesPerRequest
  validateRequestItemCount "put-blobs descriptor" request.blobDescriptors.length
    maxBlobUploadDescriptorsPerRequest
  validatePutBlobsRequestUploads blake3Hex request

/-! ## The handler -/

def storeUploads
    (disk : Disk) (descriptors : List BlobDescriptor) (blobs : List WireBlobEnvelope) :
    Effect BlobStore NetError Unit :=
  if descriptors.isEmpty then
    forEach
      (fun (blob : WireBlobEnvelope) =>
        mapError MediaError.toProtocol
          (BlobStore.putBytesWithHash blake3Hex disk blob.hash blob.bytes))
      blobs
  else do
    forEach
      (fun descriptor => mapError MediaError.toProtocol (BlobStore.putManifest disk descriptor))
      descriptors
    forEach
      (fun (blob : WireBlobEnvelope) =>
        mapError MediaError.toProtocol
          (BlobStore.putChunkWithHash blake3Hex disk blob.hash blob.bytes))
      blobs

/-- The answer to a request of the kind `PutBlobs`.  A server can be without a blob
store. -/
def handlePutBlobs
    (disk : Disk) (hasBlobStore : Bool) (request : WireSyncRequest) :
    Effect BlobStore NetError WireSyncResponse := do
  let descriptors ← lift (validatePutBlobsRequest blake3Hex request)
  lift (ensure (hasBlobStore = true) (.protocol "blob store unavailable"))
  storeUploads blake3Hex disk descriptors request.blobs
  pure emptySyncResponse

end Content

end Chaft
