import Chaft.Bindings.FfiArguments
import Chaft.Library.Effect
import Chaft.Library.Trace

/-!
# The inbox of join responses

A device keeps the responses that others submit, one file for each request, and serves them
to their requesters.  A full inbox gives up its oldest entry.  The file is named by the
trimmed ID of the request, while the server and the client read the ID as it is written.
-/

namespace Chaft

open Keyed Outcome Effects Effects.Effect Protobuf SlashPath

structure JoinResponseInboxEntry where
  schemaVersion : Nat
  entryId : String
  requestId : String
  workspaceId : Option String
  receivedAtUnixMs : Nat
  responseText : String
  deriving DecidableEq

/-- What the inbox takes from the JSON library; a file that is not a text does not parse. -/
structure InboxJson (Document : Type) where
  toVecPretty : JoinResponseInboxEntry → Document
  fromStr : Document → Except String JoinResponseInboxEntry
  byteLen : Document → Nat

/-- What the JSON library writes it reads back. -/
def InboxJson.RoundTrips {Document : Type} (json : InboxJson Document) : Prop :=
  ∀ entry, json.fromStr (json.toVecPretty entry) = .ok entry

def joinResponseInboxSchemaVersion : Nat := 1
def joinResponseInboxEntryMaxBytes : Nat := 256 * 1024 + 4096
def joinResponseInboxListMaxEntries : Nat := 100
def joinResponseInboxMaxEntries : Nat := 1024

/-- The field `requestId` as the network reads it. -/
def requestIdField (reader : PayloadReader) (text : String) : Option (Option String) :=
  match reader text with
  | .error _ => none
  | .ok object => some (object.bind JoinPayload.requestId)

def resolveJoinResponseWorkspaceId
    (transportWorkspaceId payloadWorkspaceId : Option String) :
    Except FfiError (Option String) := do
  let transportWorkspaceId ← (optionalArg transportWorkspaceId).mapM directWorkspaceIdArg
  ensure
    (∀ transport ∈ transportWorkspaceId, ∀ payload ∈ payloadWorkspaceId, transport = payload)
    (ffiError "join_response_workspace_id_mismatch"
      "join response transport workspace does not match its payload")
  .ok (transportWorkspaceId.or payloadWorkspaceId)

def newestFirst (left right : JoinResponseInboxEntry) : Prop :=
  right.receivedAtUnixMs < left.receivedAtUnixMs ∨
    right.receivedAtUnixMs = left.receivedAtUnixMs ∧ right.entryId ≤ left.entryId

instance : DecidableRel newestFirst := fun _ _ => inferInstanceAs (Decidable (_ ∨ _))

def FfiError.toProtocol (error : FfiError) : NetError :=
  .protocol error.message

def trimmedEntryId (requestId : String) : Except FfiError String := do
  validateJoinResponseEntryId (trimmed requestId)
  .ok (trimmed requestId)

/-- The files are named by their stems. -/
abbrev InboxFiles (Document : Type) := HashMap String Document

abbrev InboxEffect (Document α : Type) := Effect (InboxFiles Document) FfiError α

structure FileJoinResponseInbox (Document : Type) where
  reader : PayloadReader
  json : InboxJson Document
  dataDir : List Char

namespace FileJoinResponseInbox

variable {Document : Type} (inbox : FileJoinResponseInbox Document)

def inboxEntryPath (stem : String) : List Char :=
  join (join inbox.dataDir "join-response-inbox".toList) (jsonFile stem)

def validateJoinResponseInboxEntry (entry : JoinResponseInboxEntry) : Except FfiError Unit := do
  ensure (entry.schemaVersion = joinResponseInboxSchemaVersion)
    (ffiError "join_response_inbox_schema_unsupported"
      ("join response inbox entry schema " ++ entry.schemaVersion.repr ++ " is unsupported"))
  validateJoinResponseEntryId entry.entryId
  validateJoinResponseEntryId entry.requestId
  ensure (entry.entryId = entry.requestId)
    (ffiError "join_response_inbox_entry_id_mismatch"
      "join response inbox entry ID must match request ID")
  let _ ← entry.workspaceId.mapM directWorkspaceIdArg
  let metadata ← validateJoinResponsePayload inbox.reader entry.responseText
  ensure (metadata.requestId = entry.requestId)
    (ffiError "join_response_inbox_payload_id_mismatch"
      "join response payload request ID must match the inbox entry")
  ensure (metadata.workspaceId = entry.workspaceId)
    (ffiError "join_response_inbox_payload_workspace_mismatch"
      "join response payload workspace must match the inbox entry")

/-! ## Reading -/

def readJoinResponseInboxEntryPath
    (files : InboxFiles Document) (stem : String) : Except FfiError JoinResponseInboxEntry := do
  let document ← okOr files[stem]?
    (ffiError "join_response_inbox_read_failed" "could not inspect join response inbox entry")
  ensure (inbox.json.byteLen document ≤ joinResponseInboxEntryMaxBytes)
    (ffiError "join_response_inbox_entry_too_large"
      ("join response inbox entry " ++ String.ofList (inbox.inboxEntryPath stem) ++
        " is too large"))
  let entry ← (inbox.json.fromStr document).mapError fun error =>
    ffiError "join_response_inbox_read_failed"
      ("could not parse join response inbox entry: " ++ error)
  inbox.validateJoinResponseInboxEntry entry
  .ok entry

def readJoinResponseInboxEntry
    (files : InboxFiles Document) (entryId : String) : Except FfiError JoinResponseInboxEntry := do
  validateJoinResponseEntryId entryId
  inbox.readJoinResponseInboxEntryPath files entryId

/-- The loop over the files; more than `maxEntries` entries are cut to the newest ones. -/
def collectMatching
    (files : InboxFiles Document) (maxEntries : Nat) (isMatch : JoinResponseInboxEntry → Bool) :
    List JoinResponseInboxEntry → List String → Except FfiError (List JoinResponseInboxEntry)
  | entries, [] => .ok (entries.insertionSort newestFirst)
  | entries, stem :: rest => do
      let entry ← inbox.readJoinResponseInboxEntryPath files stem
      if isMatch entry = false then
        collectMatching files maxEntries isMatch entries rest
      else if maxEntries < (entries ++ [entry]).length then
        collectMatching files maxEntries isMatch
          (((entries ++ [entry]).insertionSort newestFirst).take maxEntries) rest
      else
        collectMatching files maxEntries isMatch (entries ++ [entry]) rest

def listJoinResponseInboxEntriesMatching
    (files : InboxFiles Document) (maxEntries : Nat) (isMatch : JoinResponseInboxEntry → Bool) :
    Except FfiError (List JoinResponseInboxEntry) :=
  if maxEntries = 0 then
    .ok []
  else
    inbox.collectMatching files maxEntries isMatch [] files.keys

/-- `FileJoinResponseInbox::list_join_responses_for_requests`. -/
def listInboxForRequests
    (files : InboxFiles Document) (workspaceId : String) (requestIds : List String)
    (maxEntries : Nat) : Except NetError (List (List UInt8)) :=
  if requestIds = [] ∨ maxEntries = 0 then
    .ok []
  else do
    let workspaceId ← (directWorkspaceIdArg workspaceId).mapError FfiError.toProtocol
    let requestIds ← (requestIds.mapM trimmedEntryId).mapError FfiError.toProtocol
    let entries ←
      (inbox.listJoinResponseInboxEntriesMatching files
          (min maxEntries joinResponseInboxListMaxEntries) fun entry =>
        decide (entry.workspaceId = some workspaceId ∧ entry.requestId ∈ requestIds)).mapError
        FfiError.toProtocol
    .ok (entries.map fun entry => textBytes entry.responseText)

/-! ## Writing -/

/-- The oldest of the entries that can be read, with the stem of its file. -/
def oldestValidEntry
    (files : InboxFiles Document) :
    Option (JoinResponseInboxEntry × String) → List String →
      Option (JoinResponseInboxEntry × String)
  | oldest, [] => oldest
  | oldest, stem :: rest =>
      match inbox.readJoinResponseInboxEntryPath files stem with
      | .error _ => oldestValidEntry files oldest rest
      | .ok entry =>
          if oldest.all fun known =>
              decide (entry.receivedAtUnixMs < known.1.receivedAtUnixMs ∨
                entry.receivedAtUnixMs = known.1.receivedAtUnixMs ∧
                  entry.entryId < known.1.entryId) then
            oldestValidEntry files (some (entry, stem)) rest
          else
            oldestValidEntry files oldest rest

def pruneOldestValidJoinResponseInboxEntry : InboxEffect Document Unit := do
  let (_, stem) ← reads fun files =>
    okOr (inbox.oldestValidEntry files none files.keys)
      (ffiError "join_response_inbox_full"
        "join response inbox is full and has no valid entry to prune")
  changes (·.erase stem)

def pruneToCapacity : InboxEffect Document Unit := do
  let entryCount ← reads fun files => .ok files.size
  if joinResponseInboxMaxEntries ≤ entryCount then
    forEach (fun _ => inbox.pruneOldestValidJoinResponseInboxEntry)
      (List.range (entryCount - joinResponseInboxMaxEntries + 1))
  else
    pure ()

def encodeJoinResponseInboxEntry (entry : JoinResponseInboxEntry) : Except FfiError Document := do
  inbox.validateJoinResponseInboxEntry entry
  let document := inbox.json.toVecPretty entry
  ensure (inbox.json.byteLen document ≤ joinResponseInboxEntryMaxBytes)
    (ffiError "join_response_inbox_entry_too_large"
      ("join response inbox entry is too large: " ++ (inbox.json.byteLen document).repr ++ " bytes"))
  .ok document

/-- The write lock keeps other writers away from the check to the link. -/
def writeJoinResponseInboxEntry
    (now : Nat) (workspaceId : Option String) (responseText : String) :
    InboxEffect Document JoinResponseInboxEntry := do
  let metadata ← lift (validateJoinResponsePayload inbox.reader responseText)
  let workspaceId ← lift (resolveJoinResponseWorkspaceId workspaceId metadata.workspaceId)
  let stored ← reads fun files => .ok files[metadata.requestId]?.isSome
  if stored then do
    let existing ← reads fun files => inbox.readJoinResponseInboxEntry files metadata.requestId
    lift (ensure (existing.workspaceId = workspaceId ∧ existing.responseText = responseText)
      (ffiError "join_response_inbox_entry_conflict"
        ("join response inbox entry " ++ metadata.requestId ++
          " conflicts with an existing response")))
    pure existing
  else do
    let entry : JoinResponseInboxEntry :=
      { schemaVersion := joinResponseInboxSchemaVersion
        entryId := metadata.requestId
        requestId := metadata.requestId
        workspaceId := workspaceId
        receivedAtUnixMs := now
        responseText := responseText }
    let document ← lift (inbox.encodeJoinResponseInboxEntry entry)
    inbox.pruneToCapacity
    changes (·.insert entry.entryId document)
    pure entry

def submitJoinResponse
    (now : Nat) (workspaceId : Option String) (response : List UInt8) :
    Effect (InboxFiles Document) NetError Unit := do
  let responseText ← lift (okOr (Utf8.decode? response)
    (.protocol "join response payload must be UTF-8 JSON"))
  let _ ← lift ((validateJoinResponsePayload inbox.reader (String.ofList responseText)).mapError
    FfiError.toProtocol)
  let _ ← mapError FfiError.toProtocol
    (inbox.writeJoinResponseInboxEntry now workspaceId (String.ofList responseText))
  pure ()

def stageJoinResponse
    (now : Nat) (workspaceId responseText : String) :
    InboxEffect Document JoinResponseInboxEntry :=
  inbox.writeJoinResponseInboxEntry now (some workspaceId) responseText

/-- An entry that is gone is acknowledged too. -/
def acknowledgeJoinResponse (entryId : String) : InboxEffect Document Unit := do
  lift (validateJoinResponseEntryId entryId)
  changes (·.erase entryId)

end FileJoinResponseInbox

end Chaft
