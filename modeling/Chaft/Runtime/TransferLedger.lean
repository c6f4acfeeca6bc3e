import Chaft.Library.TextParts
import Chaft.Network.EndpointResolution
import Chaft.Runtime.LocalSecrets
import Mathlib.Data.List.Nodup

/-!
# The ledger of blob transfers

Every transfer of a blob to a peer is recorded as an attempt in one file.  A call reads the
whole ledger, changes its entries and writes it again.  Readers refuse a file above a limit
that writers do not check.
-/

namespace Chaft

open Outcome SlashPath Text

/-! ## Attempts -/

inductive BlobTransferMode where
  | wholeBlob
  | chunkedBlob
  deriving DecidableEq, Repr

inductive BlobTransferStatus where
  | inProgress
  | succeeded
  | failed
  deriving DecidableEq, Repr

structure BlobTransferAttempt where
  attemptId : String
  workspaceId : String
  peerId : String
  peerEndpoint : String
  blobHash : String
  mode : BlobTransferMode
  status : BlobTransferStatus
  attemptCount : UInt32
  totalByteLen : UInt64
  chunkSize : Option UInt64
  chunkCount : Nat
  chunkHashes : List String
  plannedChunkCount : Nat
  plannedChunkHashes : List String
  remoteAvailableChunkCount : Nat
  remoteAvailableChunkHashes : List String
  startedAtUnixMs : UInt64
  finishedAtUnixMs : Option UInt64
  error : Option String
  deriving DecidableEq, Repr

def blobTransferLedgerSchemaVersion : Nat := 1
def blobTransferLedgerMaxEntries : Nat := 512
def blobTransferLedgerMaxBytes : Nat := 16 * 1024 * 1024
def blobTransferAttemptIdMaxBytes : Nat :=
  20 + 1 + 10 + 1 + peerEndpointIdMaxBytes + 1 + attachmentBlobHashMaxBytes
def blobTransferAttemptErrorMaxBytes : Nat := 2 * 1024

/-- The characters of a text that fit before a boundary. -/
def charsWithin : Nat → List Char → List Char
  | _, [] => []
  | room, symbol :: rest =>
      if symbol.utf8Size ≤ room then
        symbol :: charsWithin (room - symbol.utf8Size) rest
      else
        []

def truncateStringBytes (value : String) (maxBytes : Nat) : String :=
  if value.utf8ByteSize ≤ maxBytes then
    value
  else
    String.ofList (charsWithin maxBytes value.toList)

def truncateStringOptionBytes (value : Option String) (maxBytes : Nat) : Option String :=
  value.map fun value => truncateStringBytes value maxBytes

def truncateStringListBytes (values : List String) (maxBytes : Nat) : List String :=
  values.map fun value => truncateStringBytes value maxBytes

theorem truncateStringBytes_of_le
    {value : String} {maxBytes : Nat} (short : value.utf8ByteSize ≤ maxBytes) :
    truncateStringBytes value maxBytes = value :=
  if_pos short

example : truncateStringBytes "aé" 2 = "a" := by
  decide +kernel

namespace BlobTransferAttempt

def refreshCounts (attempt : BlobTransferAttempt) : BlobTransferAttempt :=
  { attempt with
    chunkCount := attempt.chunkHashes.length
    plannedChunkCount := attempt.plannedChunkHashes.length
    remoteAvailableChunkCount := attempt.remoteAvailableChunkHashes.length }

def keptHashes (attempt : BlobTransferAttempt) (hashes : List String) : List String :=
  if attempt.mode = .wholeBlob then
    []
  else
    truncateStringListBytes (hashes.take blobDescriptorMaxChunks) attachmentBlobHashMaxBytes

def normalizeAfterRead (attempt : BlobTransferAttempt) : BlobTransferAttempt :=
  refreshCounts
    { attempt with
      attemptId := truncateStringBytes attempt.attemptId blobTransferAttemptIdMaxBytes
      workspaceId := truncateStringBytes attempt.workspaceId workspaceIdMaxBytes
      peerId := truncateStringBytes attempt.peerId peerEndpointIdMaxBytes
      peerEndpoint := truncateStringBytes attempt.peerEndpoint peerEndpointMaxBytes
      blobHash := truncateStringBytes attempt.blobHash attachmentBlobHashMaxBytes
      chunkSize := if attempt.mode = .wholeBlob then none else attempt.chunkSize
      chunkHashes := attempt.keptHashes attempt.chunkHashes
      plannedChunkHashes := attempt.keptHashes attempt.plannedChunkHashes
      remoteAvailableChunkHashes := attempt.keptHashes attempt.remoteAvailableChunkHashes
      error := truncateStringOptionBytes attempt.error blobTransferAttemptErrorMaxBytes }

end BlobTransferAttempt

/-! ## The file -/

structure BlobTransferLedger where
  schemaVersion : Nat
  entries : List BlobTransferAttempt
  deriving DecidableEq, Repr

def BlobTransferLedger.default : BlobTransferLedger :=
  ⟨blobTransferLedgerSchemaVersion, []⟩

/-- The writer and the reader of JSON. -/
structure LedgerJson where
  toVecPretty : BlobTransferLedger → Option (List UInt8)
  fromSlice : List UInt8 → Option BlobTransferLedger

/-- What is written is read again, whatever white space follows it. -/
def LedgerJson.RoundTrips (json : LedgerJson) : Prop :=
  ∀ ledger bytes, json.toVecPretty ledger = some bytes →
    json.fromSlice (bytes ++ [newline]) = some ledger

/-- The newest entries that the ledger has room for. -/
def drainOldest (entries : List BlobTransferAttempt) : List BlobTransferAttempt :=
  entries.drop (entries.length - blobTransferLedgerMaxEntries)

section Runtime

variable (json : LedgerJson) (place : Place)

def readBlobTransferLedger (files : SecretFiles) : Except RuntimeError BlobTransferLedger := do
  match ← readLocalMetadataFileWithLimit files place blobTransferLedgerMaxBytes
      "blob transfer ledger" with
  | none => .ok .default
  | some bytes => do
      let ledger ← okOr (json.fromSlice bytes) .serde
      if ledger.schemaVersion ≠ blobTransferLedgerSchemaVersion then
        .ok .default
      else
        .ok { ledger with
          entries := (drainOldest ledger.entries).map BlobTransferAttempt.normalizeAfterRead }

/-- File operations work. -/
def writeBlobTransferLedger
    (files : SecretFiles) (ledger : BlobTransferLedger) :
    Except RuntimeError Unit × SecretFiles :=
  match json.toVecPretty ledger with
  | none => (.error .serde, files)
  | some bytes => writeSecretFile .none files place bytes

/-! ## Recording -/

def validatePeerEndpointInput (endpoint : String) : Except RuntimeError Unit := do
  ensure (trim endpoint.toList ≠ []) .peerEndpointRequired
  validateMetadataFieldSize "peer endpoint" endpoint peerEndpointMaxBytes
  ensure (peerEndpointHintIsSupported endpoint = true) .unsupportedPeerEndpoint

def validatePeerAddress (peer : PeerAddress) : Except RuntimeError Unit := do
  validatePeerEndpointInput peer.endpoint
  validateMetadataFieldSize "peer ID" peer.peerId peerEndpointIdMaxBytes

def attemptIdText (startedAtUnixMs : UInt64) (attemptCount : UInt32) (peerId blobHash : String) :
    String :=
  truncateStringBytes
    (startedAtUnixMs.toNat.repr ++ ":" ++ attemptCount.toNat.repr ++ ":" ++ peerId ++ ":" ++
      blobHash)
    blobTransferAttemptIdMaxBytes

/-- What a caller plans to send. -/
structure PlannedTransfer where
  workspaceId : String
  peer : PeerAddress
  blobHash : String
  mode : BlobTransferMode
  totalByteLen : UInt64
  chunkSize : Option UInt64
  chunkHashes : List String
  plannedChunkHashes : List String
  remoteAvailableChunkHashes : List String
  deriving DecidableEq, Repr

namespace PlannedTransfer

variable (transfer : PlannedTransfer)

/-- The attempts for one workspace, peer, endpoint and blob are counted. -/
def nextAttemptCount (entries : List BlobTransferAttempt) : UInt32 :=
  UInt32.ofNat
      (entries.countP fun entry =>
        decide (entry.workspaceId = transfer.workspaceId ∧ entry.peerId = transfer.peer.peerId ∧
          entry.peerEndpoint = transfer.peer.endpoint ∧ entry.blobHash = transfer.blobHash)) +
    1

def attempt (entries : List BlobTransferAttempt) (nowUnixMs : UInt64) : BlobTransferAttempt where
  attemptId :=
    attemptIdText nowUnixMs (transfer.nextAttemptCount entries) transfer.peer.peerId
      transfer.blobHash
  workspaceId := transfer.workspaceId
  peerId := transfer.peer.peerId
  peerEndpoint := transfer.peer.endpoint
  blobHash := transfer.blobHash
  mode := transfer.mode
  status := .inProgress
  attemptCount := transfer.nextAttemptCount entries
  totalByteLen := transfer.totalByteLen
  chunkSize := transfer.chunkSize
  chunkCount := transfer.chunkHashes.length
  chunkHashes := transfer.chunkHashes
  plannedChunkCount := transfer.plannedChunkHashes.length
  plannedChunkHashes := transfer.plannedChunkHashes
  remoteAvailableChunkCount := transfer.remoteAvailableChunkHashes.length
  remoteAvailableChunkHashes := transfer.remoteAvailableChunkHashes
  startedAtUnixMs := nowUnixMs
  finishedAtUnixMs := none
  error := none

end PlannedTransfer

/-- Read the ledger, change it and write it again; a ledger that is not changed is not written. -/
def updateBlobTransferLedger
    {α : Type} (files : SecretFiles)
    (change : List BlobTransferAttempt → α × Option (List BlobTransferAttempt)) :
    Except RuntimeError α × SecretFiles :=
  match readBlobTransferLedger json place files with
  | .error raised => (.error raised, files)
  | .ok ledger =>
      match change ledger.entries with
      | (result, none) => (.ok result, files)
      | (result, some entries) =>
          match writeBlobTransferLedger json place files { ledger with entries := entries } with
          | (.error raised, after) => (.error raised, after)
          | (.ok (), after) => (.ok result, after)

/-- The entries with one more attempt. -/
def startedEntries
    (transfer : PlannedTransfer) (nowUnixMs : UInt64) (entries : List BlobTransferAttempt) :
    List BlobTransferAttempt :=
  drainOldest (entries ++ [transfer.attempt entries nowUnixMs])

def recordBlobTransferStarted
    (files : SecretFiles) (transfer : PlannedTransfer) (nowUnixMs : UInt64) :
    Except RuntimeError BlobTransferAttempt × SecretFiles :=
  match validatePeerAddress transfer.peer with
  | .error raised => (.error raised, files)
  | .ok () =>
      updateBlobTransferLedger json place files fun entries =>
        (transfer.attempt entries nowUnixMs, some (startedEntries transfer nowUnixMs entries))

def finishedAttempt
    (started : BlobTransferAttempt) (status : BlobTransferStatus) (error : Option String)
    (nowUnixMs : UInt64) : BlobTransferAttempt :=
  { started with
    status
    finishedAtUnixMs := some nowUnixMs
    error := truncateStringOptionBytes error blobTransferAttemptErrorMaxBytes }

/-- The first entry with the ID of the attempt is replaced. -/
def finishedEntries
    (finished : BlobTransferAttempt) (entries : List BlobTransferAttempt) :
    List BlobTransferAttempt :=
  drainOldest
    (match entries.findIdx? fun entry => decide (entry.attemptId = finished.attemptId) with
    | some index => entries.set index finished
    | none => entries ++ [finished])

def recordBlobTransferFinished
    (files : SecretFiles) (started : BlobTransferAttempt) (status : BlobTransferStatus)
    (error : Option String) (nowUnixMs : UInt64) :
    Except RuntimeError BlobTransferAttempt × SecretFiles :=
  updateBlobTransferLedger json place files fun entries =>
    (finishedAttempt started status error nowUnixMs,
      some (finishedEntries (finishedAttempt started status error nowUnixMs) entries))

def reconciledAttempt (nowUnixMs : UInt64) (entry : BlobTransferAttempt) : BlobTransferAttempt :=
  { entry with status := .succeeded, finishedAtUnixMs := some nowUnixMs, error := none }

/-- The attempts that are meant and did not succeed yet become successes. -/
def reconciledEntries
    (isMeant : BlobTransferAttempt → Bool) (nowUnixMs : UInt64)
    (entries : List BlobTransferAttempt) : List BlobTransferAttempt :=
  entries.map fun entry =>
    if isMeant entry ∧ entry.status ≠ .succeeded then
      reconciledAttempt nowUnixMs entry
    else
      entry

def reconcileBlobTransferAttempts
    (files : SecretFiles) (isMeant : BlobTransferAttempt → Bool) (nowUnixMs : UInt64) :
    Except RuntimeError (List BlobTransferAttempt) × SecretFiles :=
  updateBlobTransferLedger json place files fun entries =>
    let pending := entries.filter fun entry =>
      decide (isMeant entry ∧ entry.status ≠ .succeeded)
    (pending.map (reconciledAttempt nowUnixMs),
      if pending = [] then none else some (reconciledEntries isMeant nowUnixMs entries))

def isCompletedTransfer
    (workspaceId : String) (peer : PeerAddress) (blobHash : String)
    (entry : BlobTransferAttempt) : Bool :=
  decide (entry.workspaceId = workspaceId ∧ entry.peerId = peer.peerId ∧
    entry.peerEndpoint = peer.endpoint ∧ entry.blobHash = blobHash)

def isSatisfiedTransfer
    (workspaceId blobHash : String) (entry : BlobTransferAttempt) : Bool :=
  decide (entry.workspaceId = workspaceId ∧ entry.blobHash = blobHash)

def reconcileCompletedBlobTransferAttempts
    (files : SecretFiles) (workspaceId : String) (peer : PeerAddress) (blobHash : String)
    (nowUnixMs : UInt64) : Except RuntimeError (List BlobTransferAttempt) × SecretFiles :=
  reconcileBlobTransferAttempts json place files (isCompletedTransfer workspaceId peer blobHash)
    nowUnixMs

def reconcileSatisfiedBlobTransferAttempts
    (files : SecretFiles) (workspaceId blobHash : String) (nowUnixMs : UInt64) :
    Except RuntimeError (List BlobTransferAttempt) × SecretFiles :=
  reconcileBlobTransferAttempts json place files (isSatisfiedTransfer workspaceId blobHash)
    nowUnixMs

end Runtime

end Chaft
