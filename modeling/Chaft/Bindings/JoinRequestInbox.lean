import Chaft.Bindings.FfiArguments
import Chaft.Library.Effect

/-!
# The inbox of join requests

A device that hosts a workspace keeps the join requests that reach it, one file for each
request, and hands them to its user.  The first writer of a request wins; a full inbox gives
up its oldest entry.  A request is checked again on its arrival, by rules that are not those
of the sender.
-/

namespace Chaft

open Keyed Outcome Effects Effects.Effect SlashPath

structure JoinRequestInboxEntry where
  schemaVersion : Nat
  entryId : String
  workspaceId : Option String
  receivedAtUnixMs : Nat
  requestText : String
  deriving DecidableEq

/-- What the inbox takes from the JSON library; a file that is not a text does not parse. -/
structure JoinRequestInboxJson (Document : Type) where
  toVecPretty : JoinRequestInboxEntry → Document
  fromStr : Document → Except String JoinRequestInboxEntry
  byteLen : Document → Nat

def joinRequestInboxSchemaVersion : Nat := 1
def joinRequestInboxEntryMaxBytes : Nat := 32 * 1024
def joinRequestInboxListMaxEntries : Nat := 100
def joinRequestInboxMaxEntries : Nat := 1024

/-- The reader of JSON objects, with the one field of a request that its sender does not
check. -/
structure JoinRequestReader where
  payload : PayloadReader
  deviceId : String → Option String

def validateJoinRequestInboxEntryId : String → Except FfiError Unit :=
  validateEntryId "join_request_inbox" "join request inbox"

def validateJoinRequestPayload
    (reader : JoinRequestReader) (requestText : String) : Except FfiError JoinMetadata := do
  let invalid := ffiError "join_request_payload_invalid"
  let object ← readPayload reader.payload "join_request" "join request"
    joinRequestInboxEntryMaxBytes requestText
  let kind ← requiredField object.kind (invalid "join request payload kind is required")
  ensure
    (kind = "chaft.workspace-join-request.v1" ∨ kind = workspaceInviteClaimKind)
    (invalid "join request payload kind is unsupported")
  ensure (object.schemaVersion = some 1)
    (invalid "join request payload schema version must be 1")
  let requestId ← requiredField object.requestId
    (ffiError "join_request_id_required" "join request payload must include requestId")
  validateJoinRequestInboxEntryId requestId
  let workspaceId ← (optionalArg object.workspaceId).mapM directWorkspaceIdArg
  if kind = "chaft.workspace-join-request.v1" then
    let deviceId ← requiredField (reader.deviceId requestText)
      (ffiError "join_request_device_id_required"
        "join request payload must include deviceId")
    let _ ← ffiDeviceIdArg deviceId
  else
    let claim ← object.claim.mapError fun error =>
      invalid ("invite claim payload is incomplete: " ++ error)
    ensure (claimIsComplete claim = true) (invalid "invite claim payload is incomplete")
    let _ ← ffiDeviceIdArg claim.payload.deviceId
    let _ ← ffiDeviceIdArg claim.payload.deliveryDeviceId
  .ok { requestId := requestId, workspaceId := workspaceId }

def resolveJoinRequestWorkspaceId
    (transportWorkspaceId payloadWorkspaceId : Option String) :
    Except FfiError (Option String) := do
  let transportWorkspaceId ← (optionalArg transportWorkspaceId).mapM directWorkspaceIdArg
  ensure
    (∀ transport ∈ transportWorkspaceId, ∀ payload ∈ payloadWorkspaceId, transport = payload)
    (ffiError "join_request_workspace_id_mismatch"
      "join request transport workspace does not match its payload")
  .ok (transportWorkspaceId.or payloadWorkspaceId)

/-- The order of a listing. -/
def JoinRequestInboxEntry.newestFirst (left right : JoinRequestInboxEntry) : Prop :=
  right.receivedAtUnixMs < left.receivedAtUnixMs ∨
    right.receivedAtUnixMs = left.receivedAtUnixMs ∧ right.entryId ≤ left.entryId

instance : DecidableRel JoinRequestInboxEntry.newestFirst := fun _ _ =>
  inferInstanceAs (Decidable (_ ∨ _))

def JoinRequestInboxEntry.isOlder (left right : JoinRequestInboxEntry) : Bool :=
  decide (left.receivedAtUnixMs < right.receivedAtUnixMs ∨
    left.receivedAtUnixMs = right.receivedAtUnixMs ∧ left.entryId < right.entryId)

/-- The files are named by their stems. -/
abbrev JoinRequestFiles (Document : Type) := HashMap String Document

structure FileJoinRequestInbox (Document : Type) where
  reader : JoinRequestReader
  json : JoinRequestInboxJson Document
  dataDir : List Char

namespace FileJoinRequestInbox

variable {Document : Type} (inbox : FileJoinRequestInbox Document)

def inboxEntryPath (stem : String) : List Char :=
  join (join inbox.dataDir "join-request-inbox".toList) (jsonFile stem)

def validateJoinRequestInboxEntry (entry : JoinRequestInboxEntry) : Except FfiError Unit := do
  ensure (entry.schemaVersion = joinRequestInboxSchemaVersion)
    (ffiError "join_request_inbox_schema_unsupported"
      ("join request inbox entry schema " ++ entry.schemaVersion.repr ++ " is unsupported"))
  validateJoinRequestInboxEntryId entry.entryId
  let _ ← entry.workspaceId.mapM directWorkspaceIdArg
  let metadata ← validateJoinRequestPayload inbox.reader entry.requestText
  ensure (metadata.requestId = entry.entryId)
    (ffiError "join_request_inbox_payload_id_mismatch"
      "join request payload request ID must match the inbox entry")
  ensure (metadata.workspaceId = none ∨ metadata.workspaceId = entry.workspaceId)
    (ffiError "join_request_inbox_payload_workspace_mismatch"
      "join request payload workspace must match the inbox entry")

/-! ## Reading -/

def readJoinRequestInboxEntryPath
    (files : JoinRequestFiles Document) (stem : String) :
    Except FfiError JoinRequestInboxEntry := do
  let document ← okOr files[stem]?
    (ffiError "join_request_inbox_read_failed" "could not inspect join request inbox entry")
  ensure (inbox.json.byteLen document ≤ joinRequestInboxEntryMaxBytes)
    (ffiError "join_request_inbox_entry_too_large"
      ("join request inbox entry " ++ String.ofList (inbox.inboxEntryPath stem) ++
        " is too large"))
  let entry ← (inbox.json.fromStr document).mapError fun error =>
    ffiError "join_request_inbox_read_failed"
      ("could not parse join request inbox entry: " ++ error)
  inbox.validateJoinRequestInboxEntry entry
  .ok entry

def readJoinRequestInboxEntry
    (files : JoinRequestFiles Document) (entryId : String) :
    Except FfiError JoinRequestInboxEntry := do
  validateJoinRequestInboxEntryId entryId
  inbox.readJoinRequestInboxEntryPath files entryId

/-- The loop over the files of the directory, in its order; more than `maxEntries` entries are
cut to the newest ones. -/
def collectEntries
    (files : JoinRequestFiles Document) (workspaceId : Option String) (maxEntries : Nat) :
    List JoinRequestInboxEntry → List String → Except FfiError (List JoinRequestInboxEntry)
  | entries, [] => .ok (entries.insertionSort JoinRequestInboxEntry.newestFirst)
  | entries, stem :: rest => do
      let entry ← inbox.readJoinRequestInboxEntryPath files stem
      if workspaceId.isSome = true ∧ entry.workspaceId ≠ workspaceId then
        collectEntries files workspaceId maxEntries entries rest
      else if maxEntries < (entries ++ [entry]).length then
        collectEntries files workspaceId maxEntries
          (((entries ++ [entry]).insertionSort JoinRequestInboxEntry.newestFirst).take maxEntries)
          rest
      else
        collectEntries files workspaceId maxEntries (entries ++ [entry]) rest

/-- `directory` lists the stems of the files as `read_dir` does. -/
def listJoinRequestInboxEntries
    (files : JoinRequestFiles Document) (directory : List String)
    (workspaceId : Option String) (maxEntries : Nat) :
    Except FfiError (List JoinRequestInboxEntry) :=
  if maxEntries = 0 then
    .ok []
  else
    inbox.collectEntries files (workspaceId.map trimmed) maxEntries [] directory

/-! ## Writing -/

/-- What is checked before the inbox is looked at: the ID of the request and its workspace. -/
def checkRequest
    (workspaceId : Option String) (requestText : String) : Except FfiError JoinMetadata := do
  let metadata ← validateJoinRequestPayload inbox.reader requestText
  let workspaceId ← resolveJoinRequestWorkspaceId workspaceId metadata.workspaceId
  .ok { requestId := metadata.requestId, workspaceId := workspaceId }

/-- An entry that is there already is returned if it is the same. -/
def matchExisting
    (files : JoinRequestFiles Document) (checked : JoinMetadata) (requestText : String) :
    Except FfiError JoinRequestInboxEntry := do
  let existing ← inbox.readJoinRequestInboxEntry files checked.requestId
  ensure (existing.workspaceId = checked.workspaceId ∧ existing.requestText = requestText)
    (ffiError "join_request_inbox_entry_conflict"
      ("join request inbox entry " ++ checked.requestId ++
        " conflicts with an existing request"))
  .ok existing

def newEntry (now : Nat) (checked : JoinMetadata) (requestText : String) :
    JoinRequestInboxEntry where
  schemaVersion := joinRequestInboxSchemaVersion
  entryId := checked.requestId
  workspaceId := checked.workspaceId
  receivedAtUnixMs := now
  requestText := requestText

def encodeEntry (entry : JoinRequestInboxEntry) : Except FfiError Document := do
  inbox.validateJoinRequestInboxEntry entry
  let document := inbox.json.toVecPretty entry
  ensure (inbox.json.byteLen document ≤ joinRequestInboxEntryMaxBytes)
    (ffiError "join_request_inbox_entry_too_large"
      ("join request inbox entry is too large: " ++ (inbox.json.byteLen document).repr ++
        " bytes"))
  .ok document

/-- The oldest entry so far, after one more file is read; files that do not read are passed
over. -/
def olderOf
    (files : JoinRequestFiles Document) (oldest : Option (JoinRequestInboxEntry × String))
    (stem : String) : Option (JoinRequestInboxEntry × String) :=
  match inbox.readJoinRequestInboxEntryPath files stem with
  | .error _ => oldest
  | .ok entry =>
      if oldest.all fun known => entry.isOlder known.1 then some (entry, stem) else oldest

def pruneFull : FfiError :=
  ffiError "join_request_inbox_full"
    "join request inbox is full and has no valid entry to prune"

/-- How many entries have to go before one more is linked. -/
def pruneCount (entryCount : Nat) : Nat :=
  if joinRequestInboxMaxEntries ≤ entryCount then
    entryCount - joinRequestInboxMaxEntries + 1
  else
    0

def pruneOldestValidJoinRequestInboxEntry :
    Effect (JoinRequestFiles Document) FfiError Unit := do
  let oldest ← reads fun files =>
    okOr (files.keys.foldl (inbox.olderOf files) none) pruneFull
  changes (·.erase oldest.2)

/-- A write that no other call interrupts. -/
def writeJoinRequestInboxEntry
    (now : Nat) (workspaceId : Option String) (requestText : String) :
    Effect (JoinRequestFiles Document) FfiError JoinRequestInboxEntry := do
  let checked ← lift (inbox.checkRequest workspaceId requestText)
  let isStored ← reads fun files => .ok files[checked.requestId]?.isSome
  if isStored then
    reads fun files => inbox.matchExisting files checked requestText
  else do
    let document ← lift (inbox.encodeEntry (newEntry now checked requestText))
    let entryCount ← reads fun files => .ok files.size
    forEach (fun _ => inbox.pruneOldestValidJoinRequestInboxEntry)
      (List.range (pruneCount entryCount))
    changes (·.insert checked.requestId document)
    pure (newEntry now checked requestText)

end FileJoinRequestInbox

end Chaft
