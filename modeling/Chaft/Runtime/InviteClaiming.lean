import Chaft.Runtime.InviteMessages

/-!
# Claiming invites

The inviter answers a claim in three parts.  It checks the claim, decides on it against the
materialized history, and appends three events if no other event has come in between; a
claim that was accepted before is answered again.  The response is kept in a receipt, which
is written after the events.

The clock, the random bytes and the faults of a call are arguments.
-/

namespace Chaft

open Outcome SlashPath

def inviteResponseReceiptKind : String := "chaft.workspace-invite-response-receipt.v1"
def inviteResponseReceiptSchemaVersion : UInt32 := 1
def inviteResponseReceiptMaxBytes : Nat := 64 * 1024
def inviteClaimHistoryRetryLimit : Nat := 8

structure WorkspaceInviteResponseReceipt where
  kind : String
  schemaVersion : UInt32
  response : WorkspaceInviteResponse
  deriving DecidableEq

structure ClaimedWorkspaceInvite where
  workspaceId : WorkspaceId
  inviteId : String
  requestId : String
  inviteeDeviceId : DeviceId
  role : WorkspaceRole
  memberEventId : EventId
  claimEventId : EventId
  response : WorkspaceInviteResponse
  deriving DecidableEq

/-- What the answer to a claim takes from libraries. -/
structure ClaimLibraries extends InviteLibraries where
  claimPayloadToVec : WorkspaceInviteClaimPayload → Option (List UInt8)
  workspaceKeyExportToVec : ContentKeyExport → Option (List UInt8)
  responseReceiptToVec : WorkspaceInviteResponseReceipt → Option (List UInt8)
  responseReceiptFromSlice : List UInt8 → Option WorkspaceInviteResponseReceipt
  /-- The X25519 public key of a secret. -/
  x25519PublicKey : List UInt8 → List UInt8
  /-- `OffsetDateTime::parse`, in nanoseconds. -/
  parseRfc3339 : String → Option Int

/-- What one attempt draws. -/
structure ClaimDraw where
  nowUtc : Int
  createdAt : String
  senderSecret : List UInt8
  nonce : List UInt8
  requestTimestamp : HybridTimestamp
  memberTimestamp : HybridTimestamp
  claimedTimestamp : HybridTimestamp
  /-- The events that the addition to the MLS group appends. -/
  groupEvents : List SignedEvent
  transactionFault : Option TransactionStep
  receiptFault : WriteFault

/-! ## Checks -/

def validateWorkspaceInviteClaimRecordFields
    (claim : WorkspaceInviteClaim) (inviteeDeviceId : DeviceId) : Except RuntimeError Unit := do
  let payload := claim.payload
  validateDeviceIdReference inviteeDeviceId
  ensure (trimmed payload.displayName ≠ "") .displayNameRequired
  validateMetadataFieldSize "join request ID" payload.requestId workspaceJoinRequestIdMaxBytes
  validateMetadataFieldSize "display name" (trimmed payload.displayName)
    deviceDisplayNameMaxBytes
  validateMetadataFieldSize "join request note" (trimmed payload.note)
    workspaceJoinRequestNoteMaxBytes
  validateMetadataFieldSize "join request source" payload.sourceType
    workspaceAccessPolicyMaxBytes
  validateMetadataFieldSize "source invite ID" payload.sourceInviteId workspaceInviteIdMaxBytes
  validateMetadataFieldSize "source display name" (trimmed payload.sourceDisplayName)
    deviceDisplayNameMaxBytes
  validateMetadataFieldSize "source approval policy" payload.sourceApprovalPolicy
    workspaceInviteApprovalPolicyMaxBytes
  validateMetadataFieldSize "join request response peer endpoint"
    (trimmed payload.responsePeerEndpoint) peerEndpointMaxBytes

def responseAad (workspaceId inviteId deviceId requestId : String) : List UInt8 :=
  Utf8.encode ("chaft:v1:workspace-invite-response:" ++ workspaceId ++ ":" ++ inviteId ++ ":" ++
    deviceId ++ ":" ++ requestId).toList

namespace WorkspaceInviteClaim

variable (claim : WorkspaceInviteClaim)

def workspaceId : WorkspaceId :=
  ⟨claim.payload.workspaceId⟩

def inviteeDeviceId : DeviceId :=
  ⟨claim.payload.deviceId⟩

/-- The event accepts this claim. -/
def isExactClaim (event : SignedEvent) : Bool :=
  match event.event.body with
  | .workspaceInviteClaimed inviteId inviteeDeviceId requestId =>
      decide (inviteId = claim.payload.inviteId ∧ inviteeDeviceId = claim.inviteeDeviceId ∧
        requestId = claim.payload.requestId)
  | _ => false

/-- The place and the ID of the event that accepts this claim. -/
def existingClaim (events : List SignedEvent) : Option (Nat × EventId) :=
  (events.zipIdx.find? fun entry => claim.isExactClaim entry.1).map fun entry =>
    (entry.2, entry.1.eventId)

/-- The event accepts another claim of the same device or of the same request. -/
def isClaimCollision (event : SignedEvent) : Bool :=
  match event.event.body with
  | .workspaceInviteClaimed inviteId inviteeDeviceId requestId =>
      !claim.isExactClaim event &&
        (decide (inviteId = claim.payload.inviteId ∧ inviteeDeviceId = claim.inviteeDeviceId) ||
          decide (requestId = claim.payload.requestId))
  | _ => false

/-- The event records the request in another way than the acceptance would. -/
def isJoinRequestCollision (isAccepted : Bool) (event : SignedEvent) : Bool :=
  match event.event.body with
  | .workspaceJoinRequestRecorded requestId requesterDeviceId _ _ sourceType sourceInviteId _ _ _ =>
      decide (requestId = claim.payload.requestId) &&
        (!isAccepted || decide (requesterDeviceId ≠ claim.inviteeDeviceId) ||
          decide (sourceType ≠ "invite_claim") ||
            decide (sourceInviteId ≠ claim.payload.inviteId))
  | _ => false

/-- The event makes the claimant a member. -/
def isMembership (event : SignedEvent) : Bool :=
  match event.event.body with
  | .memberInvited inviteeDeviceId _ => decide (inviteeDeviceId = claim.inviteeDeviceId)
  | _ => false

/-- The last event among some that makes the claimant a member. -/
def membershipEventId (events : List SignedEvent) : Option EventId :=
  (events.reverse.find? claim.isMembership).map SignedEvent.eventId

end WorkspaceInviteClaim

/-- What becomes of a claim. -/
inductive ClaimDecision where
  /-- The claim was accepted before, by the events. -/
  | retry (invite : WorkspaceInviteView) (memberEventId claimEventId : EventId)
  | accept
      (invite : WorkspaceInviteView) (response : WorkspaceInviteResponse)
      (request member claimed : SignedEvent)

section Claiming

variable (libraries : ClaimLibraries)

def inviteIsExpired (nowUtc : Int) (expiresAt : String) : Except RuntimeError Bool :=
  if trimmed expiresAt = "" then
    .ok false
  else do
    let expires ← okOr (libraries.parseRfc3339 expiresAt) .invalidWorkspaceInviteClaim
    .ok (decide (expires ≤ nowUtc))

variable (runtime : LocalRuntime)

namespace LocalRuntime

/-- The workspace as it is stored now. -/
def writeContext
    (store : EventStore) (workspaceId : WorkspaceId) : Except RuntimeError WorkspaceWriteContext :=
  workspaceWriteContext libraries.primitives libraries.eventJson store workspaceId

def verifyWorkspaceInviteClaim
    (store : EventStore) (claim : WorkspaceInviteClaim) : Except RuntimeError Unit := do
  let payload := claim.payload
  ensure (payload.kind = workspaceInviteClaimKind ∧
      payload.schemaVersion = workspaceInviteClaimSchemaVersion ∧ payload.workspaceId ≠ "" ∧
        payload.inviteId ≠ "" ∧ payload.requestId ≠ "" ∧ payload.deviceId ≠ "" ∧
          (Hex.decode32 payload.responseEncryptionPublicKey).isSome = true)
    .invalidWorkspaceInviteClaim
  let signingBytes ← okOr (libraries.claimPayloadToVec payload) .serde
  let devicePublicKey ← okOr (Hex.decode32 payload.devicePublicKey) .invalidWorkspaceInviteClaim
  let deviceSignature ← okOr (Hex.decode claim.deviceSignature) .invalidWorkspaceInviteClaim
  (verifyDeviceDetachedSignature libraries.primitives claim.inviteeDeviceId devicePublicKey
    signingBytes deviceSignature).mapError fun _ => .invalidWorkspaceInviteClaim
  let context ← writeContext libraries store claim.workspaceId
  let invite ← okOr context.state.invites[payload.inviteId]?
    (.workspaceInviteNotFound payload.inviteId)
  let ownDeviceId := runtime.identity.deviceId libraries.primitives
  ensure (invite.createdByDeviceId = ownDeviceId ∧
      payload.deliveryDeviceId = ownDeviceId.text ∧ payload.sourceType = "invite_claim" ∧
        payload.sourceInviteId = payload.inviteId ∧
          payload.sourceApprovalPolicy = "preapproved")
    .invalidWorkspaceInviteClaim
  let capabilityPublicKey ← okOr (Hex.decode32 invite.capabilityPublicKey)
    (.workspaceInviteNotClaimable invite.inviteId)
  let capabilitySignature ←
    okOr (Hex.decode claim.capabilitySignature) .invalidWorkspaceInviteClaim
  (verifyDetachedSignature libraries.primitives capabilityPublicKey signingBytes
    capabilitySignature).mapError fun _ => .invalidWorkspaceInviteClaim

/-! ## Responses -/

def sealWorkspaceInviteResponse
    (draw : ClaimDraw) (store : EventStore) (claim : WorkspaceInviteClaim)
    (role : WorkspaceRole) (expiresAt : String) (workspaceKey : ContentKeyExport) :
    Except RuntimeError WorkspaceInviteResponse := do
  let payload := claim.payload
  let recipientPublicKey ←
    okOr (Hex.decode32 payload.responseEncryptionPublicKey) .invalidWorkspaceInviteClaim
  let shared := libraries.diffieHellman draw.senderSecret recipientPublicKey
  let key := libraries.deriveKey responseKeyContext shared
  let aad := responseAad payload.workspaceId payload.inviteId payload.deviceId payload.requestId
  let workspaceKeyJson ← okOr (libraries.workspaceKeyExportToVec workspaceKey) .serde
  let sealedWorkspaceKey ←
    (sealAes256GcmSiv libraries.aead draw.nonce ("invite-response:" ++ payload.inviteId) key
      workspaceKeyJson aad).mapError .crypto
  let context ← writeContext libraries store claim.workspaceId
  let responsePayload : WorkspaceInviteResponsePayload :=
    { kind := workspaceInviteResponseKind
      schemaVersion := workspaceInviteResponseSchemaVersion
      requestId := payload.requestId
      workspaceId := payload.workspaceId
      workspaceName := context.state.name.getD ""
      inviteId := payload.inviteId
      inviteeDeviceId := payload.deviceId
      role := role
      expiresAt := expiresAt
      responderDeviceId := (runtime.identity.deviceId libraries.primitives).text
      responderPublicKey := Hex.encode runtime.identity.verifyingKeyBytes
      senderEphemeralPublicKey := Hex.encode (libraries.x25519PublicKey draw.senderSecret)
      sealedWorkspaceKey := sealedWorkspaceKey
      peerEndpoint := payload.deliveryPeerEndpoint
      createdAt := draw.createdAt }
  let signingBytes ← okOr (libraries.responsePayloadToVec responsePayload) .serde
  .ok
    { payload := responsePayload
      responderSignature := Hex.encode (runtime.identity.sign signingBytes) }

def validateWorkspaceInviteResponseReceipt
    (receipt : WorkspaceInviteResponseReceipt) (claim : WorkspaceInviteClaim)
    (role : WorkspaceRole) (expiresAt : String) : Except RuntimeError Unit := do
  let payload := receipt.response.payload
  let ownDeviceId := runtime.identity.deviceId libraries.primitives
  ensure (receipt.kind = inviteResponseReceiptKind ∧
      receipt.schemaVersion = inviteResponseReceiptSchemaVersion ∧
        payload.kind = workspaceInviteResponseKind ∧
          payload.schemaVersion = workspaceInviteResponseSchemaVersion ∧
            payload.workspaceId = claim.payload.workspaceId ∧
              payload.inviteId = claim.payload.inviteId ∧
                payload.requestId = claim.payload.requestId ∧
                  payload.inviteeDeviceId = claim.payload.deviceId ∧ payload.role = role ∧
                    payload.expiresAt = expiresAt ∧
                      payload.responderDeviceId = ownDeviceId.text ∧
                        payload.responderPublicKey =
                            Hex.encode runtime.identity.verifyingKeyBytes ∧
                          (Hex.decode32 payload.senderEphemeralPublicKey).isSome = true)
    .invalidWorkspaceInviteResponse
  let signature ←
    okOr (Hex.decode receipt.response.responderSignature) .invalidWorkspaceInviteResponse
  let signingBytes ← okOr (libraries.responsePayloadToVec payload) .serde
  (verifyDeviceDetachedSignature libraries.primitives ownDeviceId
    runtime.identity.verifyingKeyBytes signingBytes signature).mapError
      fun _ => .invalidWorkspaceInviteResponse

def responseReceiptPlace (inviteId requestId : String) : Place :=
  resolve runtime.secrets.here
    (join (join runtime.dataDir "invite-response-receipts".toList)
      (jsonFile (inviteFileId libraries.toInviteLibraries [inviteId, requestId])))

def receiptOf (response : WorkspaceInviteResponse) : WorkspaceInviteResponseReceipt where
  kind := inviteResponseReceiptKind
  schemaVersion := inviteResponseReceiptSchemaVersion
  response := response

/-- The response that has no receipt yet. -/
def responseToKeep
    (draw : ClaimDraw) (state : RuntimeState) (claim : WorkspaceInviteClaim)
    (role : WorkspaceRole) (expiresAt : String) :
    Option WorkspaceInviteResponse → Except RuntimeError WorkspaceInviteResponse
  | some response => .ok response
  | none => do
      let workspaceKey ←
        runtime.exportWorkspaceKey libraries.toKeyLibraries state.files claim.workspaceId
      runtime.sealWorkspaceInviteResponse libraries draw state.store claim role expiresAt
        workspaceKey

/-- The bytes of a new receipt. -/
def newReceiptBytes
    (claim : WorkspaceInviteClaim) (role : WorkspaceRole) (expiresAt : String)
    (response : WorkspaceInviteResponse) : Except RuntimeError (List UInt8) := do
  runtime.validateWorkspaceInviteResponseReceipt libraries (receiptOf response) claim role
    expiresAt
  let bytes ← okOr (libraries.responseReceiptToVec (receiptOf response)) .serde
  ensure (bytes.length + 1 ≤ inviteResponseReceiptMaxBytes)
    (.metadataFieldTooLarge "workspace invite response receipt" (bytes.length + 1)
      inviteResponseReceiptMaxBytes)
  .ok bytes

/-- The response of a receipt that is kept already. -/
def keptResponse
    (bytes : List UInt8) (claim : WorkspaceInviteClaim) (role : WorkspaceRole)
    (expiresAt : String) : Except RuntimeError WorkspaceInviteResponse := do
  let receipt ← okOr (libraries.responseReceiptFromSlice bytes) .invalidWorkspaceInviteResponse
  runtime.validateWorkspaceInviteResponseReceipt libraries receipt claim role expiresAt
  .ok receipt.response

def workspaceInviteResponseReceiptOrStore
    (draw : ClaimDraw) (state : RuntimeState) (claim : WorkspaceInviteClaim)
    (role : WorkspaceRole) (expiresAt : String) (candidate : Option WorkspaceInviteResponse) :
    Except RuntimeError WorkspaceInviteResponse × SecretFiles :=
  let place :=
    runtime.responseReceiptPlace libraries claim.payload.inviteId claim.payload.requestId
  match readLocalMetadataFileWithLimit state.files place inviteResponseReceiptMaxBytes
      "workspace invite response receipt" with
  | .error raised => (.error raised, state.files)
  | .ok (some bytes) => (runtime.keptResponse libraries bytes claim role expiresAt, state.files)
  | .ok none =>
      match runtime.responseToKeep libraries draw state claim role expiresAt candidate with
      | .error raised => (.error raised, state.files)
      | .ok response =>
          match runtime.newReceiptBytes libraries claim role expiresAt response with
          | .error raised => (.error raised, state.files)
          | .ok bytes =>
              match writeSecretFile draw.receiptFault state.files place bytes with
              | (.error raised, files) => (.error raised, files)
              | (.ok (), files) => (.ok response, files)

/-! ## Deciding -/

/-- An event of this device that belongs to no channel. -/
def workspaceEvent
    (workspaceId : WorkspaceId) (timestamp : HybridTimestamp) (parents : List EventId)
    (body : EventBody) : SignedEvent :=
  runtime.identity.signEvent libraries.primitives
    { schemaVersion := 1
      workspaceId := workspaceId
      channelId := none
      authorDeviceId := runtime.identity.deviceId libraries.primitives
      timestamp := timestamp
      parents := parents
      body := body }

def joinRequestBody (claim : WorkspaceInviteClaim) : EventBody :=
  .workspaceJoinRequestRecorded claim.payload.requestId claim.inviteeDeviceId
    (trimmed claim.payload.displayName) (trimmed claim.payload.note) "invite_claim"
    claim.payload.inviteId (trimmed claim.payload.sourceDisplayName) "preapproved"
    (trimmed claim.payload.responsePeerEndpoint)

/-- The decision on a claim that is not accepted yet. -/
def acceptClaim
    (draw : ClaimDraw) (state : RuntimeState) (claim : WorkspaceInviteClaim)
    (context : WorkspaceWriteContext) (invite : WorkspaceInviteView) :
    Except RuntimeError ClaimDecision := do
  let expired ← inviteIsExpired libraries draw.nowUtc invite.expiresAt
  ensure (expired = false) (.workspaceInviteExpired invite.inviteId)
  ensure (invite.status ≠ .revoked) (.workspaceInviteNotClaimable invite.inviteId)
  ensure (invite.claimCount < invite.maxClaims ∧ invite.status ≠ .accepted ∧
      claim.inviteeDeviceId ∉ context.state.members)
    (.workspaceInviteAlreadyClaimed invite.inviteId)
  validateWorkspaceInviteClaimRecordFields claim claim.inviteeDeviceId
  let workspaceKey ←
    runtime.exportWorkspaceKey libraries.toKeyLibraries state.files claim.workspaceId
  let response ← runtime.sealWorkspaceInviteResponse libraries draw state.store claim invite.role
    invite.expiresAt workspaceKey
  let request := runtime.workspaceEvent libraries claim.workspaceId draw.requestTimestamp
    context.headEventIds (joinRequestBody claim)
  (authorizeEventWithHistory context.events request).mapError .authorization
  let member := runtime.workspaceEvent libraries claim.workspaceId draw.memberTimestamp
    [request.eventId] (.memberInvited claim.inviteeDeviceId invite.role)
  (authorizeEventWithHistory (context.events ++ [request]) member).mapError .authorization
  let claimed := runtime.workspaceEvent libraries claim.workspaceId draw.claimedTimestamp
    [member.eventId]
    (.workspaceInviteClaimed claim.payload.inviteId claim.inviteeDeviceId claim.payload.requestId)
  (authorizeEventWithHistory (context.events ++ [request, member]) claimed).mapError
    .authorization
  .ok (.accept invite response request member claimed)

/-- The decision on a claim that an event accepts. -/
def retryClaim
    (claim : WorkspaceInviteClaim) (context : WorkspaceWriteContext)
    (invite : WorkspaceInviteView) (claimIndex : Nat) (claimEventId : EventId) :
    Except RuntimeError ClaimDecision := do
  let alreadyClaimed : RuntimeError := .workspaceInviteAlreadyClaimed invite.inviteId
  let currentMember ← okOr context.state.members[claim.inviteeDeviceId]? alreadyClaimed
  let memberEventId ←
    okOr (claim.membershipEventId (context.events.take claimIndex)) alreadyClaimed
  ensure (currentMember.membershipEventId = memberEventId) alreadyClaimed
  .ok (.retry invite memberEventId claimEventId)

/-- What is decided before anything is written. -/
def decideClaim
    (draw : ClaimDraw) (state : RuntimeState) (claim : WorkspaceInviteClaim)
    (context : WorkspaceWriteContext) : Except RuntimeError ClaimDecision := do
  let invite ← okOr context.state.invites[claim.payload.inviteId]?
    (.workspaceInviteNotFound claim.payload.inviteId)
  ensure (invite.capabilityPublicKey ≠ "") (.workspaceInviteNotClaimable invite.inviteId)
  let existing := claim.existingClaim context.events
  ensure (context.events.any claim.isClaimCollision = false ∧
      context.events.any (claim.isJoinRequestCollision existing.isSome) = false)
    (.workspaceInviteAlreadyClaimed invite.inviteId)
  match existing with
  | some (claimIndex, claimEventId) =>
      retryClaim claim context invite claimIndex claimEventId
  | none => runtime.acceptClaim libraries draw state claim context invite

/-! ## Answering -/

def claimedInvite
    (claim : WorkspaceInviteClaim) (invite : WorkspaceInviteView)
    (memberEventId claimEventId : EventId) (response : WorkspaceInviteResponse) :
    ClaimedWorkspaceInvite where
  workspaceId := claim.workspaceId
  inviteId := claim.payload.inviteId
  requestId := claim.payload.requestId
  inviteeDeviceId := claim.inviteeDeviceId
  role := invite.role
  memberEventId := memberEventId
  claimEventId := claimEventId
  response := response

/-- The answer, with the receipt of the response. -/
def answerClaim
    (draw : ClaimDraw) (state : RuntimeState) (claim : WorkspaceInviteClaim)
    (invite : WorkspaceInviteView) (memberEventId claimEventId : EventId)
    (candidate : Option WorkspaceInviteResponse) :
    Except RuntimeError ClaimedWorkspaceInvite × RuntimeState :=
  match runtime.workspaceInviteResponseReceiptOrStore libraries draw state claim invite.role
      invite.expiresAt candidate with
  | (.error raised, files) => (.error raised, { state with files := files })
  | (.ok response, files) =>
      (.ok (claimedInvite claim invite memberEventId claimEventId response),
        { state with files := files })

/-- The events are appended in one transaction; the addition to the MLS group comes after it
and may append more. -/
def appendAcceptance
    (draw : ClaimDraw) (store : EventStore) (claim : WorkspaceInviteClaim)
    (expectedEventIds : List EventId) (request member claimed : SignedEvent) :
    Except RuntimeError Unit × EventStore :=
  match store.appendEventsAtomicallyIfWorkspaceHistoryMatches libraries.primitives
      libraries.eventJson draw.transactionFault claim.workspaceId.text expectedEventIds
      [request, member, claimed] with
  | (.error raised, store) => (.error (.store raised), store)
  | (.ok (), store) =>
      (.ok (), store.after libraries.primitives libraries.eventJson draw.groupEvents)

def claimWorkspaceInviteAgainstHistory
    (draw : ClaimDraw) (state : RuntimeState) (claim : WorkspaceInviteClaim)
    (context : WorkspaceWriteContext) (expectedEventIds : List EventId) :
    Except RuntimeError ClaimedWorkspaceInvite × RuntimeState :=
  match runtime.decideClaim libraries draw state claim context with
  | .error raised => (.error raised, state)
  | .ok (.retry invite memberEventId claimEventId) =>
      runtime.answerClaim libraries draw state claim invite memberEventId claimEventId none
  | .ok (.accept invite response request member claimed) =>
      match appendAcceptance libraries draw state.store claim expectedEventIds request member
          claimed with
      | (.error raised, store) => (.error raised, { state with store := store })
      | (.ok (), store) =>
          runtime.answerClaim libraries draw { state with store := store } claim invite
            member.eventId claimed.eventId (some response)

/-- The attempts that remain. -/
def claimAttempts (claim : WorkspaceInviteClaim) :
    Nat → (Nat → ClaimDraw) → RuntimeState →
      Except RuntimeError ClaimedWorkspaceInvite × RuntimeState
  | 0, _, state => (.error (.store .workspaceHistoryChanged), state)
  | remaining + 1, draws, state =>
      let expectedEventIds := state.store.listEventIdsForWorkspace claim.workspaceId.text
      match writeContext libraries state.store claim.workspaceId with
      | .error raised => (.error raised, state)
      | .ok context =>
          let listedAgain := state.store.listEventIdsForWorkspace claim.workspaceId.text
          if listedAgain = expectedEventIds then
            match runtime.claimWorkspaceInviteAgainstHistory libraries (draws 0) state claim
                context expectedEventIds with
            | (.error (.store .workspaceHistoryChanged), state) =>
                claimAttempts claim remaining (fun attempt => draws (attempt + 1)) state
            | result => result
          else
            claimAttempts claim remaining (fun attempt => draws (attempt + 1)) state

/-- The call when no other process writes in between. -/
def claimWorkspaceInvite
    (draws : Nat → ClaimDraw) (state : RuntimeState) (claim : WorkspaceInviteClaim) :
    Except RuntimeError ClaimedWorkspaceInvite × RuntimeState :=
  match runtime.verifyWorkspaceInviteClaim libraries state.store claim with
  | .error raised => (.error raised, state)
  | .ok () => runtime.claimAttempts libraries claim inviteClaimHistoryRetryLimit draws state

end LocalRuntime

end Claiming

end Chaft
