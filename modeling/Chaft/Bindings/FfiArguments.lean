import Chaft.Domain.PeerEndpoint
import Chaft.Network.JoinResponses
import Chaft.Runtime.InviteMessages

/-!
# Arguments of the bindings

The bindings answer with an error of a code and a message.  Identifiers and endpoints are
trimmed before they are checked.  A join request and its response are JSON objects, read
field by field; only the invite claim and the sealed response are read as a whole.
-/

namespace Chaft

open Outcome

structure FfiError where
  code : String
  message : String
  deriving DecidableEq

def ffiError (code message : String) : FfiError where
  code := code
  message := message

/-- An argument that is blank counts as absent. -/
def optionalArg (value : Option String) : Option String :=
  (value.map trimmed).filter fun value => value ≠ ""

def directWorkspaceIdArg (value : String) : Except FfiError String := do
  let value := trimmed value
  ensure (value ≠ "") (ffiError "workspace_id_required" "workspace ID is required")
  (validateWorkspaceIdStr value).mapError fun error =>
    ffiError "workspace_id_too_large" error.message
  .ok value

def ffiDeviceIdArg (value : String) : Except FfiError String := do
  let value := trimmed value
  ensure (value ≠ "") (ffiError "device_id_required" "device ID is required")
  (validateIdBytes "device ID" value deviceIdMaxBytes).mapError fun error =>
    ffiError "device_id_too_large" error.message
  .ok value

def validatePeerEndpointText (endpoint fieldName : String) : Except FfiError Unit := do
  ensure (trimmed endpoint ≠ "") (ffiError fieldName "peer endpoint is required")
  ensure (endpoint.utf8ByteSize ≤ peerEndpointMaxBytes)
    (ffiError "peer_endpoint_too_large"
      ("peer endpoint is too large (" ++ endpoint.utf8ByteSize.repr ++ " bytes, max " ++
        peerEndpointMaxBytes.repr ++ ")"))

/-- The address that the transport dials. -/
def directPeerAddress (endpoint : String) : Except FfiError String := do
  let endpoint := trimmed endpoint
  validatePeerEndpointText endpoint "peer_endpoint"
  ensure (peerEndpointHintIsSupported endpoint = true)
    (ffiError "peer_endpoint_unsupported"
      "peer endpoint must be a direct TCP or native Iroh direct route")
  .ok endpoint

/-! ## Identifiers of entries -/

def outboxEntryIdMaxBytes : Nat := 128

def isEntryIdByte (symbol : Char) : Bool :=
  symbol.isAlphanum || symbol == '_' || symbol == '-'

/-- Requests and responses check their identifiers alike, under their own codes. -/
def validateEntryId (code name entryId : String) : Except FfiError Unit := do
  ensure (entryId ≠ "") (ffiError (code ++ "_entry_id_required") (name ++ " entry ID is required"))
  ensure
    (entryId.utf8ByteSize ≤ outboxEntryIdMaxBytes ∧ entryId.toList.all isEntryIdByte = true)
    (ffiError (code ++ "_entry_id_invalid") (name ++ " entry ID is invalid"))

def validateOutboxEntryId : String → Except FfiError Unit :=
  validateEntryId "join_request_outbox" "join request outbox"

def validateJoinResponseEntryId : String → Except FfiError Unit :=
  validateEntryId "join_response" "join response"

/-! ## Payloads -/

/-- The fields of a payload that the checks read: texts are absent where the field is
absent or not a text. -/
structure JoinPayload where
  kind : Option String
  schemaVersion : Option Nat
  displayName : Option String
  requestId : Option String
  workspaceId : Option String
  inviteId : Option String
  inviteeDeviceId : Option String
  role : Option String
  resolution : Option String
  /-- The payload read as an invite claim. -/
  claim : Except String WorkspaceInviteClaim
  /-- The payload read as a sealed response. -/
  response : Except String WorkspaceInviteResponse

/-- The reader of JSON objects; a text may also hold another value. -/
abbrev PayloadReader := String → Except String (Option JoinPayload)

/-- What the checks of a payload give; the invitee is of no use to the outbox. -/
structure JoinMetadata where
  requestId : String
  workspaceId : Option String
  deriving DecidableEq

def maxJoinRequestSubmissionBytes : Nat := 16 * 1024

section Payloads

variable (reader : PayloadReader)

/-- The part that both payloads share: a JSON object of a bounded size. -/
def readPayload
    (code name : String) (maxBytes : Nat) (text : String) : Except FfiError JoinPayload := do
  ensure (trimmed text ≠ "")
    (ffiError (code ++ "_payload_empty") (name ++ " payload is empty"))
  ensure (text.utf8ByteSize ≤ maxBytes)
    (ffiError (code ++ "_payload_too_large")
      (name ++ " payload is too large: " ++ text.utf8ByteSize.repr ++ " bytes"))
  let value ← (reader text).mapError fun error =>
    ffiError (code ++ "_payload_invalid") (name ++ " payload is not valid JSON: " ++ error)
  okOr value (ffiError (code ++ "_payload_invalid") (name ++ " payload must be a JSON object"))

/-- A text field that may not be blank. -/
def requiredField (field : Option String) (error : FfiError) : Except FfiError String :=
  okOr (optionalArg field) error

def claimIsComplete (claim : WorkspaceInviteClaim) : Bool :=
  decide
    (claim.payload.schemaVersion = 1 ∧
      (∀ field ∈
        [claim.payload.requestId, claim.payload.workspaceId, claim.payload.inviteId,
          claim.payload.deviceId, claim.payload.devicePublicKey, claim.payload.deliveryDeviceId,
          claim.payload.responseEncryptionPublicKey, claim.deviceSignature,
          claim.capabilitySignature], trimmed field ≠ "") ∧
      claim.payload.sourceType = "invite_claim" ∧
      claim.payload.sourceInviteId = claim.payload.inviteId ∧
      claim.payload.sourceApprovalPolicy = "preapproved")

def validatedJoinRequestMetadata (requestText : String) : Except FfiError JoinMetadata := do
  let object ← readPayload reader "join_request" "join request" maxJoinRequestSubmissionBytes
    requestText
  let kind := object.kind.map trimmed
  ensure
    (kind = some "chaft.workspace-join-request.v1" ∨ kind = some workspaceInviteClaimKind)
    (ffiError "join_request_payload_invalid" "join request payload kind is unsupported")
  ensure (object.schemaVersion = some 1)
    (ffiError "join_request_payload_invalid" "join request payload schema version must be 1")
  let displayName ← requiredField object.displayName
    (ffiError "join_request_display_name_required"
      "join request payload must include the joiner's display name")
  ensure (displayName.utf8ByteSize ≤ deviceDisplayNameMaxBytes)
    (ffiError "join_request_display_name_too_large"
      ("join request display name is too large: " ++ displayName.utf8ByteSize.repr ++ " bytes"))
  if kind = some workspaceInviteClaimKind then
    let claim ← object.claim.mapError fun error =>
      ffiError "join_request_payload_invalid" ("invite claim payload is incomplete: " ++ error)
    ensure (claimIsComplete claim = true)
      (ffiError "join_request_payload_invalid" "invite claim payload is incomplete")
  let requestId ← requiredField object.requestId
    (ffiError "join_request_id_required" "join request payload must include requestId")
  validateOutboxEntryId requestId
  let workspaceId ← requiredField object.workspaceId
    (ffiError "join_request_workspace_id_required"
      "join request payload must include workspaceId")
  let _ ← directWorkspaceIdArg workspaceId
  .ok { requestId := requestId, workspaceId := some workspaceId }

def responseIsComplete (response : WorkspaceInviteResponse) : Bool :=
  decide
    (∀ field ∈
      [response.payload.requestId, response.payload.workspaceId,
        response.payload.inviteeDeviceId, response.responderSignature], trimmed field ≠ "")

def validateJoinResponsePayload (responseText : String) : Except FfiError JoinMetadata := do
  let invalid := ffiError "join_response_payload_invalid"
  let object ← readPayload reader "join_response" "join response"
    maxJoinResponseSubmissionBytes responseText
  let kind ← okOr (object.kind.map trimmed) (invalid "join response payload kind is required")
  ensure
    (kind = "chaft.workspace-invite.v1" ∨ kind = workspaceInviteResponseKind ∨
      kind = "chaft.workspace-join-response.v1")
    (invalid "join response payload kind is unsupported")
  ensure (object.schemaVersion = some 1)
    (invalid "join response payload schema version must be 1")
  let workspaceId ← requiredField object.workspaceId
    (ffiError "join_response_workspace_id_required"
      "join response payload must include workspaceId")
  let _ ← directWorkspaceIdArg workspaceId
  if kind = "chaft.workspace-invite.v1" then
    let missing := fun field => invalid ("legacy invite response payload must include " ++ field)
    let _ ← requiredField object.inviteId (missing "inviteId")
    let invitee ← requiredField object.inviteeDeviceId (missing "inviteeDeviceId")
    let _ ← requiredField object.role (missing "role")
    let _ ← ffiDeviceIdArg invitee
  if kind = workspaceInviteResponseKind then
    let response ← object.response.mapError fun error =>
      invalid ("secure invite response payload is incomplete: " ++ error)
    ensure (responseIsComplete response = true)
      (invalid "secure invite response payload is incomplete")
    let _ ← ffiDeviceIdArg response.payload.inviteeDeviceId
  if kind = "chaft.workspace-join-response.v1" then
    let resolution ← requiredField object.resolution
      (ffiError "join_response_resolution_required"
        "join response payload must include resolution")
    ensure (resolution = "approved" ∨ resolution = "declined" ∨ resolution = "revoked")
      (ffiError "join_response_resolution_invalid"
        "join response payload resolution is unsupported")
  let requestId ← requiredField object.requestId
    (ffiError "join_response_request_id_required"
      "join response payload must include requestId")
  validateJoinResponseEntryId requestId
  .ok { requestId := requestId, workspaceId := some workspaceId }

end Payloads

end Chaft
