import Chaft.Bindings.FfiArguments

/-!
# Outboxes

Join requests and join responses wait in outboxes until they are delivered.  An outbox is a
directory with one file for each entry; both outboxes work alike.  A submission reads an
entry, sends its text and marks the entry: other calls may come in between.
-/

namespace Chaft

open Keyed Outcome SlashPath

inductive OutboxStatus where
  | pending
  | delivered
  | failed
  | acknowledged
  deriving DecidableEq

structure OutboxEntry (Endpoint : Type) where
  schemaVersion : Nat
  entryId : String
  requestId : String
  workspaceId : Option String
  peerEndpoint : Endpoint
  createdAtUnixMs : Nat
  updatedAtUnixMs : Nat
  lastAttemptAtUnixMs : Option Nat
  deliveredAtUnixMs : Option Nat
  attemptCount : Nat
  nextAttemptAfterUnixMs : Option Nat
  status : OutboxStatus
  error : Option String
  text : String
  deriving DecidableEq

def OutboxEntry.isTerminal {Endpoint : Type} (entry : OutboxEntry Endpoint) : Bool :=
  entry.status = .delivered || entry.status = .acknowledged

/-- What an outbox takes from the JSON library; a file that is not a text does not parse. -/
structure OutboxJson (Endpoint Document : Type) where
  toVecPretty : OutboxEntry Endpoint → Document
  fromStr : Document → Except String (OutboxEntry Endpoint)
  byteLen : Document → Nat

/-- A text that may be queued, with its route. -/
structure QueuedText (Endpoint : Type) where
  peerEndpoint : Endpoint
  workspaceId : Option String
  requestId : String
  text : String

/-- What the two outboxes do not share. -/
structure Outbox (Endpoint Document : Type) where
  json : OutboxJson Endpoint Document
  /-- What the codes of its errors begin with. -/
  code : String
  name : String
  directory : String
  dataDir : List Char
  entryMaxBytes : Nat
  checkEntryId : String → Except FfiError Unit
  endpointText : Endpoint → Option String
  readMetadata : String → Except FfiError JoinMetadata
  /-- The payload must name the workspace of the entry. -/
  bindsWorkspace : Bool
  /-- Listing renames the files that it cannot read; otherwise it fails. -/
  setsInvalidAside : Bool
  peerEndpointMissing : FfiError
  checkQueued :
    (peerEndpoint workspaceId : Option String) → (text : String) →
      Except FfiError (QueuedText Endpoint)

/-- A submission on its way. -/
structure Submission where
  entryId : String
  text : String
  deriving DecidableEq

/-- The files are named by their stems, `.json` files and `.invalid` files apart. -/
structure OutboxState (Document : Type) where
  files : HashMap String Document
  setAside : HashMap String Document
  submissions : HashMap Nat Submission

def outboxSchemaVersion : Nat := 1
def outboxErrorMaxBytes : Nat := 512
def outboxListMaxEntries : Nat := 100
def outboxMaxRetryDelayMs : Nat := 5 * 60 * 1000
def maxUnixMs : Nat := 2 ^ 64 - 1
def maxAttemptCount : Nat := 2 ^ 32 - 1

def retryDelayMs (attemptCount : Nat) : Nat :=
  min (15000 * 2 ^ min (attemptCount - 1) 5) outboxMaxRetryDelayMs

def listSize (maxEntries : Nat) : Nat :=
  if maxEntries = 0 then outboxListMaxEntries else min maxEntries outboxListMaxEntries

namespace Outbox

variable {Endpoint Document : Type} (outbox : Outbox Endpoint Document)

def raise (kind message : String) : FfiError :=
  ffiError (outbox.code ++ "_" ++ kind) message

def entryPath (stem : String) : List Char :=
  join (join outbox.dataDir outbox.directory.toList) (jsonFile stem)

def validateError (error : String) : Except FfiError Unit :=
  ensure (error.utf8ByteSize ≤ outboxErrorMaxBytes)
    (outbox.raise "error_too_large" (outbox.name ++ " outbox error is too large"))

def statusArg (status : String) : Except FfiError OutboxStatus :=
  match trimmed status with
  | "pending" => .ok .pending
  | "delivered" => .ok .delivered
  | "failed" => .ok .failed
  | "acknowledged" => .ok .acknowledged
  | _ =>
      .error (outbox.raise "status_invalid"
        (outbox.name ++ " outbox status must be pending, delivered, failed, or acknowledged"))

/-! ## Entries -/

def validateEntry (entry : OutboxEntry Endpoint) : Except FfiError Unit := do
  ensure (entry.schemaVersion = outboxSchemaVersion)
    (outbox.raise "schema_unsupported"
      (outbox.name ++ " outbox entry schema " ++ entry.schemaVersion.repr ++ " is unsupported"))
  outbox.checkEntryId entry.entryId
  outbox.checkEntryId entry.requestId
  ensure (entry.entryId = entry.requestId)
    (outbox.raise "entry_id_mismatch" (outbox.name ++ " outbox entry ID must match request ID"))
  let _ ← entry.workspaceId.mapM directWorkspaceIdArg
  let _ ← (outbox.endpointText entry.peerEndpoint).mapM directPeerAddress
  let _ ← entry.error.mapM outbox.validateError
  let metadata ← outbox.readMetadata entry.text
  ensure (metadata.requestId = entry.requestId)
    (outbox.raise "payload_id_mismatch"
      (outbox.name ++ " payload request ID must match the outbox entry"))
  ensure (outbox.bindsWorkspace = false ∨ metadata.workspaceId = entry.workspaceId)
    (outbox.raise "payload_workspace_mismatch"
      (outbox.name ++ " payload workspace must match the outbox entry"))

def readEntryPath
    (files : HashMap String Document) (stem : String) : Except FfiError (OutboxEntry Endpoint) := do
  let document ← okOr files[stem]?
    (outbox.raise "read_failed" ("could not inspect " ++ outbox.name ++ " outbox entry"))
  ensure (outbox.json.byteLen document ≤ outbox.entryMaxBytes)
    (outbox.raise "entry_too_large"
      (outbox.name ++ " outbox entry " ++ String.ofList (outbox.entryPath stem) ++
        " is too large"))
  let entry ← (outbox.json.fromStr document).mapError fun error =>
    outbox.raise "read_failed" ("could not parse " ++ outbox.name ++ " outbox entry: " ++ error)
  outbox.validateEntry entry
  .ok entry

def readEntry
    (files : HashMap String Document) (entryId : String) :
    Except FfiError (OutboxEntry Endpoint) := do
  outbox.checkEntryId entryId
  outbox.readEntryPath files entryId

/-- Renaming the temporary file over the old one writes the entry at once. -/
def writeEntry
    (files : HashMap String Document) (entry : OutboxEntry Endpoint) :
    Except FfiError (HashMap String Document) := do
  outbox.validateEntry entry
  let document := outbox.json.toVecPretty entry
  ensure (outbox.json.byteLen document ≤ outbox.entryMaxBytes)
    (outbox.raise "entry_too_large"
      (outbox.name ++ " outbox entry is too large: " ++ (outbox.json.byteLen document).repr ++
        " bytes"))
  .ok (files.insert entry.entryId document)

/-! ## Calls -/

/-- The entry of a queued text keeps the delivery state of the one that it replaces. -/
def queuedEntry
    (now : Nat) (queued : QueuedText Endpoint) (existing : Option (OutboxEntry Endpoint)) :
    OutboxEntry Endpoint where
  schemaVersion := outboxSchemaVersion
  entryId := queued.requestId
  requestId := queued.requestId
  workspaceId := queued.workspaceId
  peerEndpoint := queued.peerEndpoint
  createdAtUnixMs := (existing.map OutboxEntry.createdAtUnixMs).getD now
  updatedAtUnixMs := now
  lastAttemptAtUnixMs := existing.bind OutboxEntry.lastAttemptAtUnixMs
  deliveredAtUnixMs := existing.bind OutboxEntry.deliveredAtUnixMs
  attemptCount := (existing.map OutboxEntry.attemptCount).getD 0
  nextAttemptAfterUnixMs := existing.bind OutboxEntry.nextAttemptAfterUnixMs
  status := (existing.map OutboxEntry.status).getD .pending
  error := existing.bind OutboxEntry.error
  text := queued.text

def queueEntry
    (now : Nat) (queued : QueuedText Endpoint) (files : HashMap String Document) :
    Except FfiError (OutboxEntry Endpoint × HashMap String Document) := do
  outbox.checkEntryId queued.requestId
  let existing := (outbox.readEntry files queued.requestId).toOption
  let entry := queuedEntry now queued existing
  let written ← outbox.writeEntry files entry
  .ok (entry, written)

def queue
    (now : Nat) (peerEndpoint workspaceId : Option String) (text : String)
    (files : HashMap String Document) :
    Except FfiError (OutboxEntry Endpoint × HashMap String Document) := do
  let queued ← outbox.checkQueued peerEndpoint workspaceId text
  outbox.queueEntry now queued files

def listsBefore (left right : OutboxEntry Endpoint) : Prop :=
  left.createdAtUnixMs < right.createdAtUnixMs ∨
    left.createdAtUnixMs = right.createdAtUnixMs ∧ left.entryId ≤ right.entryId

instance : DecidableRel (@listsBefore Endpoint) := fun _ _ =>
  inferInstanceAs (Decidable (_ ∨ _))

def sortEntries (entries : List (OutboxEntry Endpoint)) (maxEntries : Nat) :
    List (OutboxEntry Endpoint) :=
  (entries.insertionSort listsBefore).take maxEntries

def isReadable (files : HashMap String Document) (stem : String) : Bool :=
  (outbox.readEntryPath files stem).toOption.isSome

/-- Files that cannot be read are set aside, or fail the listing. -/
def listEntries
    (maxEntries : Nat) (state : OutboxState Document) :
    Except FfiError (List (OutboxEntry Endpoint)) × OutboxState Document :=
  let read := state.files.keys.map (outbox.readEntryPath state.files)
  if outbox.setsInvalidAside then
    (.ok (sortEntries (read.filterMap Except.toOption) maxEntries),
      { state with
        files := state.files.filter fun stem _ => outbox.isReadable state.files stem
        setAside :=
          (state.files.filter fun stem _ => !outbox.isReadable state.files stem).toList.foldl
            (fun setAside file => setAside.insert file.1 file.2) state.setAside })
  else
    ((read.mapM id).map fun entries => sortEntries entries maxEntries, state)

def isDue (now : Nat) (entry : OutboxEntry Endpoint) : Bool :=
  (outbox.endpointText entry.peerEndpoint).any (fun endpoint => decide (trimmed endpoint ≠ "")) &&
    !entry.isTerminal && entry.nextAttemptAfterUnixMs.all fun after => after ≤ now

/-- Terminal entries are deleted; the others are listed as far as they are due. -/
def listDueEntries
    (now maxEntries : Nat) (state : OutboxState Document) :
    Except FfiError (List (OutboxEntry Endpoint)) × OutboxState Document :=
  match outbox.listEntries maxUnixMs state with
  | (.error error, listed) => (.error error, listed)
  | (.ok entries, listed) =>
      let terminal := entries.filter OutboxEntry.isTerminal
      let waiting := entries.filter fun entry => !entry.isTerminal && outbox.isDue now entry
      (.ok (waiting.take maxEntries),
        { listed with
          files := terminal.foldl (fun files entry => files.erase entry.entryId) listed.files })

def markedEntry
    (now : Nat) (status : OutboxStatus) (error : Option String)
    (entry : OutboxEntry Endpoint) : OutboxEntry Endpoint :=
  let attempted := status = .delivered ∨ status = .failed
  let attemptCount :=
    if attempted then min (entry.attemptCount + 1) maxAttemptCount else entry.attemptCount
  { entry with
    status := status
    updatedAtUnixMs := now
    attemptCount := attemptCount
    lastAttemptAtUnixMs := if attempted then some now else entry.lastAttemptAtUnixMs
    deliveredAtUnixMs := if status = .delivered then some now else entry.deliveredAtUnixMs
    nextAttemptAfterUnixMs :=
      if status = .failed then some (min (now + retryDelayMs attemptCount) maxUnixMs) else none
    error := if status = .failed then error else none }

def markEntry
    (now : Nat) (entryId : String) (status : OutboxStatus) (error : Option String)
    (files : HashMap String Document) :
    Except FfiError (OutboxEntry Endpoint × HashMap String Document) := do
  let entry ← outbox.readEntry files entryId
  let marked := markedEntry now status error entry
  let written ← outbox.writeEntry files marked
  .ok (marked, written)

/-- The arguments of an explicit mark are checked first. -/
def markEntryArgs
    (now : Nat) (entryId status : String) (error : Option String)
    (files : HashMap String Document) :
    Except FfiError (OutboxEntry Endpoint × HashMap String Document) := do
  outbox.checkEntryId entryId
  let status ← outbox.statusArg status
  let error := optionalArg error
  let _ ← error.mapM outbox.validateError
  outbox.markEntry now entryId status error files

/-- Removing a file that is not there is no error. -/
def acknowledgeEntry
    (entryId : String) (files : HashMap String Document) :
    Except FfiError (HashMap String Document) := do
  outbox.checkEntryId entryId
  .ok (files.erase entryId)

/-- What a submission does before the network exchange. -/
def beginSubmission
    (entryId : String) (files : HashMap String Document) : Except FfiError Submission := do
  outbox.checkEntryId entryId
  let entry ← outbox.readEntry files entryId
  let endpoint ← okOr (outbox.endpointText entry.peerEndpoint) outbox.peerEndpointMissing
  let _ ← directPeerAddress endpoint
  .ok { entryId := entryId, text := entry.text }

end Outbox

/-! ## The two outboxes -/

section Outboxes

variable {Document : Type} (reader : PayloadReader) (dataDir : List Char)

def checkQueuedJoinRequest
    (peerEndpoint workspaceId : Option String) (requestText : String) :
    Except FfiError (QueuedText (Option String)) := do
  let peerEndpoint := optionalArg peerEndpoint
  let _ ← peerEndpoint.mapM directPeerAddress
  let workspaceId ← (optionalArg workspaceId).mapM directWorkspaceIdArg
  let metadata ← validatedJoinRequestMetadata reader requestText
  ensure
    (workspaceId.isNone ∨ metadata.workspaceId.isNone ∨ workspaceId = metadata.workspaceId)
    (ffiError "join_request_workspace_id_mismatch"
      "join request payload workspace ID must match the requested workspace")
  let workspaceId ← (workspaceId.or metadata.workspaceId).mapM directWorkspaceIdArg
  .ok
    { peerEndpoint := peerEndpoint
      workspaceId := workspaceId
      requestId := metadata.requestId
      text := requestText }

/-- A response always has an endpoint, and its workspace is not compared. -/
def checkQueuedJoinResponse
    (peerEndpoint workspaceId : Option String) (responseText : String) :
    Except FfiError (QueuedText String) := do
  let peerEndpoint ← okOr (peerEndpoint.map trimmed) (ffiError "peer_endpoint" "null pointer")
  let _ ← directPeerAddress peerEndpoint
  let workspaceId ← (optionalArg workspaceId).mapM directWorkspaceIdArg
  let metadata ← validateJoinResponsePayload reader responseText
  let workspaceId ← (workspaceId.or metadata.workspaceId).mapM directWorkspaceIdArg
  .ok
    { peerEndpoint := peerEndpoint
      workspaceId := workspaceId
      requestId := metadata.requestId
      text := responseText }

def joinRequestOutbox (json : OutboxJson (Option String) Document) :
    Outbox (Option String) Document where
  json := json
  code := "join_request_outbox"
  name := "join request"
  directory := "join-request-outbox"
  dataDir := dataDir
  entryMaxBytes := 48 * 1024
  checkEntryId := validateOutboxEntryId
  endpointText := id
  readMetadata := validatedJoinRequestMetadata reader
  bindsWorkspace := true
  setsInvalidAside := true
  peerEndpointMissing :=
    ffiError "join_request_outbox_peer_endpoint_required"
      "queued join request has no peer endpoint"
  checkQueued := checkQueuedJoinRequest reader

/-- The endpoint of a response is never missing. -/
def joinResponseOutbox (json : OutboxJson String Document) : Outbox String Document where
  json := json
  code := "join_response_outbox"
  name := "join response"
  directory := "join-response-outbox"
  dataDir := dataDir
  entryMaxBytes := 256 * 1024 + 4096
  checkEntryId := validateJoinResponseEntryId
  endpointText := some
  readMetadata := validateJoinResponsePayload reader
  bindsWorkspace := false
  setsInvalidAside := false
  peerEndpointMissing := ffiError "" ""
  checkQueued := checkQueuedJoinResponse reader

end Outboxes

end Chaft
