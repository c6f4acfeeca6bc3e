import Chaft.Core.Validation
import Chaft.Library.Utf8
import Chaft.Network.WireMessages
import Chaft.Security.Identity

/-!
# Events on the wire

An event is written as a message and read back from one.  The reader drops blank
optional texts, refuses enumerations that it does not know, and names the event by
its content again, so that one field that drifts makes an event unreadable for every
peer.  For an event that passes the checks on payloads none does.

The JSON form of a body, which older peers send, is read by a parameter.
-/

namespace Chaft

open Outcome

inductive WireError where
  | decode
  | eventBody
  | eventBodyKindMissing
  | contentKeyScopeMissing
  | payloadEncryption (mode : Int32)
  | workspaceRole (role : Int32)
  | workspaceAccessPolicy (policy : Int32)
  | workspaceInviteResolution (resolution : Int32)
  | workspaceJoinRequestResolution (resolution : Int32)
  | replicaStorageClass (value : String)
  | eventIdMismatch (expected actual : String)
  | trustSnapshotFieldMissing (field : String)
  | trustSnapshot
  deriving DecidableEq

/-- The text in which an error is shown to peers. -/
def WireError.message : WireError → String
  | .decode => "protobuf decode failed"
  | .eventBody => "event body decode failed"
  | .eventBodyKindMissing => "event body protobuf kind missing"
  | .contentKeyScopeMissing => "content key scope missing"
  | .payloadEncryption mode => "unknown payload encryption mode " ++ toString mode
  | .workspaceRole role => "unknown workspace role " ++ toString role
  | .workspaceAccessPolicy policy => "unknown workspace access policy " ++ toString policy
  | .workspaceInviteResolution resolution =>
      "unknown workspace invite resolution " ++ toString resolution
  | .workspaceJoinRequestResolution resolution =>
      "unknown workspace join request resolution " ++ toString resolution
  | .replicaStorageClass value => "unknown replica storage class " ++ value
  | .eventIdMismatch expected actual =>
      "event id mismatch: expected " ++ expected ++ ", recomputed " ++ actual
  | .trustSnapshotFieldMissing field => "trust snapshot protobuf field missing: " ++ field
  | .trustSnapshot => "trust snapshot decode failed"

/-! ## Enumerations

Each enumeration of the wire has a value `Unspecified`, numbered zero, that no event
has. -/

/-- The member of an enumeration that a number stands for. -/
def enumFromWire
    {α : Type} (members : List (Int32 × α)) (unknown : Int32 → WireError) (value : Int32) :
    Except WireError α :=
  okOr (members.lookup value) (unknown value)

def roleToWire : WorkspaceRole → Int32
  | .owner => 1
  | .admin => 2
  | .member => 3
  | .guest => 4

def roleFromWire (role : Int32) : Except WireError WorkspaceRole :=
  enumFromWire [(1, .owner), (2, .admin), (3, .member), (4, .guest)] .workspaceRole role

def accessPolicyToWire : WorkspaceAccessPolicy → Int32
  | .inviteOnly => 1
  | .requestAccess => 2
  | .discoverable => 3

def accessPolicyFromWire (policy : Int32) : Except WireError WorkspaceAccessPolicy :=
  enumFromWire [(1, .inviteOnly), (2, .requestAccess), (3, .discoverable)]
    .workspaceAccessPolicy policy

def inviteResolutionToWire : WorkspaceInviteResolution → Int32
  | .revoked => 1

def inviteResolutionFromWire (resolution : Int32) :
    Except WireError WorkspaceInviteResolution :=
  enumFromWire [(1, .revoked)] .workspaceInviteResolution resolution

def joinRequestResolutionToWire : WorkspaceJoinRequestResolution → Int32
  | .approved => 1
  | .declined => 2
  | .revoked => 3

def joinRequestResolutionFromWire (resolution : Int32) :
    Except WireError WorkspaceJoinRequestResolution :=
  enumFromWire [(1, .approved), (2, .declined), (3, .revoked)]
    .workspaceJoinRequestResolution resolution

def encryptionToWire : PayloadEncryption → Int32
  | .developmentPlaintext => 1
  | .aes256GcmSiv => 2
  | .openMlsPending => 3

def encryptionFromWire (mode : Int32) : Except WireError PayloadEncryption :=
  enumFromWire [(1, .developmentPlaintext), (2, .aes256GcmSiv), (3, .openMlsPending)]
    .payloadEncryption mode

/-! ## Parts of bodies -/

def encodeContentKeyScope : ContentKeyScope → WireContentKeyScope
  | .workspace => { kind := some .workspace }
  | .channel channelId => { kind := some (.channelId channelId.text) }

def decodeContentKeyScope (scope : WireContentKeyScope) : Except WireError ContentKeyScope := do
  match ← okOr scope.kind .contentKeyScopeMissing with
  | .workspace => .ok .workspace
  | .channelId channelId => .ok (.channel ⟨channelId⟩)

def encodeEncryptedBlobRef (encryption : EncryptedBlobRef) : WireEncryptedBlobRef where
  mode := encryptionToWire encryption.mode
  keyId := encryption.keyId
  nonce := encryption.nonce
  aad := encryption.aad
  plaintextByteLen := encryption.plaintextByteLen

def decodeEncryptedBlobRef
    (encryption : WireEncryptedBlobRef) : Except WireError EncryptedBlobRef := do
  let mode ← encryptionFromWire encryption.mode
  .ok
    { mode := mode
      keyId := encryption.keyId
      nonce := encryption.nonce
      aad := encryption.aad
      plaintextByteLen := encryption.plaintextByteLen }

def encodeSealedPayload (payload : SealedPayload) : WireSealedPayload where
  mode := encryptionToWire payload.mode
  keyId := payload.keyId
  nonce := payload.nonce
  aad := payload.aad
  bytes := payload.bytes

def decodeSealedPayload (payload : WireSealedPayload) : Except WireError SealedPayload := do
  let mode ← encryptionFromWire payload.mode
  .ok
    { mode := mode
      keyId := payload.keyId
      nonce := payload.nonce
      aad := payload.aad
      bytes := payload.bytes }

def encodeAttachment (attachment : AttachmentRef) : WireAttachmentRef where
  blobHash := attachment.blobHash
  mediaType := attachment.mediaType
  byteLen := attachment.byteLen
  displayName := attachment.displayName
  encryption := attachment.encryption.map encodeEncryptedBlobRef
  attachmentId := attachment.attachmentId

def decodeAttachment (attachment : WireAttachmentRef) : Except WireError AttachmentRef := do
  let encryption ← attachment.encryption.mapM decodeEncryptedBlobRef
  .ok
    { blobHash := attachment.blobHash
      mediaType := attachment.mediaType
      byteLen := attachment.byteLen
      displayName := attachment.displayName
      attachmentId := attachment.attachmentId
      encryption := encryption }

def encodeAttachments (attachments : List AttachmentRef) : List WireAttachmentRef :=
  attachments.map encodeAttachment

def decodeAttachments
    (attachments : List WireAttachmentRef) : Except WireError (List AttachmentRef) :=
  attachments.mapM decodeAttachment

/-- `filter(|value| !value.trim().is_empty())`. -/
def withoutBlank (value : Option String) : Option String :=
  value.filter fun value => decide (Text.trim value.toList ≠ [])

/-! ## Bodies -/

def encodeEventBodyKind : EventBody → WireEventBodyKind
  | .workspaceCreated name =>
      .workspaceCreated { name := name }
  | .memberInvited inviteeDeviceId role =>
      .memberInvited
        { inviteeDeviceId := inviteeDeviceId.text
          role := roleToWire role }
  | .memberRoleUpdated memberDeviceId role =>
      .memberRoleUpdated
        { memberDeviceId := memberDeviceId.text
          role := roleToWire role }
  | .workspaceAccessPolicyUpdated policy =>
      .workspaceAccessPolicyUpdated { policy := accessPolicyToWire policy }
  | .workspaceInviteRecorded inviteId inviteeDeviceId displayName role requestId expiresAt
      approvalPolicy syncExpectation =>
      .workspaceInviteRecorded
        { inviteId := inviteId
          inviteeDeviceId := inviteeDeviceId.text
          displayName := displayName
          role := roleToWire role
          requestId := requestId
          expiresAt := expiresAt
          approvalPolicy := approvalPolicy
          syncExpectation := syncExpectation }
  | .workspaceInviteCapabilityCreated inviteId displayName role expiresAt capabilityPublicKey
      syncExpectation maxClaims =>
      .workspaceInviteCapabilityCreated
        { inviteId := inviteId
          displayName := displayName
          role := roleToWire role
          expiresAt := expiresAt
          capabilityPublicKey := capabilityPublicKey
          syncExpectation := syncExpectation
          maxClaims := maxClaims }
  | .workspaceInviteClaimed inviteId inviteeDeviceId requestId =>
      .workspaceInviteClaimed
        { inviteId := inviteId
          inviteeDeviceId := inviteeDeviceId.text
          requestId := requestId }
  | .workspaceInviteResolved inviteId resolution =>
      .workspaceInviteResolved
        { inviteId := inviteId
          resolution := inviteResolutionToWire resolution }
  | .workspaceJoinRequestRecorded requestId requesterDeviceId displayName note sourceType
      sourceInviteId sourceDisplayName sourceApprovalPolicy responsePeerEndpoint =>
      .workspaceJoinRequestRecorded
        { requestId := requestId
          requesterDeviceId := requesterDeviceId.text
          displayName := displayName
          note := note
          sourceType := sourceType
          sourceInviteId := sourceInviteId
          sourceDisplayName := sourceDisplayName
          sourceApprovalPolicy := sourceApprovalPolicy
          responsePeerEndpoint := responsePeerEndpoint }
  | .workspaceJoinRequestResolved requestId resolution =>
      .workspaceJoinRequestResolved
        { requestId := requestId
          resolution := joinRequestResolutionToWire resolution }
  | .memberRemoved removedDeviceId =>
      .memberRemoved { removedDeviceId := removedDeviceId.text }
  | .channelCreated channelId name isPrivate =>
      .channelCreated
        { channelId := channelId.text
          name := name
          isPrivate := isPrivate }
  | .directMessageChannelCreated channelId name participantDeviceIds =>
      .directMessageChannelCreated
        { channelId := channelId.text
          name := name
          participantDeviceIds := participantDeviceIds.map Identifier.text }
  | .channelDetailsUpdated channelId name topic archived =>
      .channelDetailsUpdated
        { channelId := channelId.text
          name := name
          topic := topic
          archived := archived }
  | .channelMemberAdded channelId memberDeviceId =>
      .channelMemberAdded
        { channelId := channelId.text
          memberDeviceId := memberDeviceId.text }
  | .channelMemberRemoved channelId memberDeviceId =>
      .channelMemberRemoved
        { channelId := channelId.text
          memberDeviceId := memberDeviceId.text }
  | .deviceProfileUpdated displayName avatarId =>
      .deviceProfileUpdated
        { displayName := displayName
          avatarId := avatarId }
  | .personDeviceLinked personId deviceId =>
      .personDeviceLinked
        { personId := personId.text
          deviceId := deviceId.text }
  | .personProfileUpdated personId displayName avatarId =>
      .personProfileUpdated
        { personId := personId.text
          displayName := displayName
          avatarId := avatarId }
  | .deviceKeyPackagePublished keyPackageId protocol keyPackage =>
      .deviceKeyPackagePublished
        { keyPackageId := keyPackageId.text
          protocol := protocol
          keyPackage := keyPackage }
  | .peerEndpointPublished endpointId endpoint transport isBackupPeer expiresAtMs
      replicaStorageClass replicaRetentionHint =>
      .peerEndpointPublished
        { endpointId := endpointId
          endpoint := endpoint
          transport := transport
          isBackupPeer := isBackupPeer
          expiresAtMs := expiresAtMs
          replicaStorageClass := replicaStorageClass.map ReplicaStorageClass.asStr
          replicaRetentionHint := replicaRetentionHint }
  | .openMlsWorkspaceGroupMemberAdded inviteeDeviceId inviteeKeyPackageId inviteeKeyPackageRef
      protocol ciphersuite groupId epoch commit welcome ratchetTree =>
      .openMlsWorkspaceGroupMemberAdded
        { inviteeDeviceId := inviteeDeviceId.text
          inviteeKeyPackageId := inviteeKeyPackageId.text
          inviteeKeyPackageRef := inviteeKeyPackageRef
          protocol := protocol
          ciphersuite := ciphersuite
          groupId := groupId
          epoch := epoch
          commit := commit
          welcome := welcome
          ratchetTree := ratchetTree }
  | .openMlsWorkspaceGroupMemberRemoved removedDeviceId protocol ciphersuite groupId epoch commit
      ratchetTree =>
      .openMlsWorkspaceGroupMemberRemoved
        { removedDeviceId := removedDeviceId.text
          protocol := protocol
          ciphersuite := ciphersuite
          groupId := groupId
          epoch := epoch
          commit := commit
          ratchetTree := ratchetTree }
  | .openMlsChannelGroupMemberAdded channelId inviteeDeviceId inviteeKeyPackageId
      inviteeKeyPackageRef protocol ciphersuite groupId epoch commit welcome ratchetTree =>
      .openMlsChannelGroupMemberAdded
        { channelId := channelId.text
          inviteeDeviceId := inviteeDeviceId.text
          inviteeKeyPackageId := inviteeKeyPackageId.text
          inviteeKeyPackageRef := inviteeKeyPackageRef
          protocol := protocol
          ciphersuite := ciphersuite
          groupId := groupId
          epoch := epoch
          commit := commit
          welcome := welcome
          ratchetTree := ratchetTree }
  | .openMlsChannelGroupMemberRemoved channelId removedDeviceId protocol ciphersuite groupId epoch
      commit ratchetTree =>
      .openMlsChannelGroupMemberRemoved
        { channelId := channelId.text
          removedDeviceId := removedDeviceId.text
          protocol := protocol
          ciphersuite := ciphersuite
          groupId := groupId
          epoch := epoch
          commit := commit
          ratchetTree := ratchetTree }
  | .openMlsWorkspaceGroupSelfUpdated protocol ciphersuite groupId epoch commit ratchetTree =>
      .openMlsWorkspaceGroupSelfUpdated
        { protocol := protocol
          ciphersuite := ciphersuite
          groupId := groupId
          epoch := epoch
          commit := commit
          ratchetTree := ratchetTree }
  | .openMlsChannelGroupSelfUpdated channelId protocol ciphersuite groupId epoch commit
      ratchetTree =>
      .openMlsChannelGroupSelfUpdated
        { channelId := channelId.text
          protocol := protocol
          ciphersuite := ciphersuite
          groupId := groupId
          epoch := epoch
          commit := commit
          ratchetTree := ratchetTree }
  | .contentKeyEpochPublished scope epoch keyId previousKeyId algorithm =>
      .contentKeyEpochPublished
        { scope := some (encodeContentKeyScope scope)
          epoch := epoch
          keyId := keyId
          previousKeyId := previousKeyId
          algorithm := algorithm }
  | .messageCreated messageId markdown attachments =>
      .messageCreated
        { messageId := messageId.text
          markdown := markdown
          attachments := encodeAttachments attachments }
  | .messageReplyCreated messageId replyToMessageId markdown attachments =>
      .messageReplyCreated
        { messageId := messageId.text
          replyToMessageId := replyToMessageId.text
          markdown := markdown
          attachments := encodeAttachments attachments }
  | .messageCreatedEncrypted messageId sealedMarkdown attachments =>
      .messageCreatedEncrypted
        { messageId := messageId.text
          sealedMarkdown := some (encodeSealedPayload sealedMarkdown)
          attachments := encodeAttachments attachments }
  | .messageReplyCreatedEncrypted messageId replyToMessageId sealedMarkdown attachments =>
      .messageReplyCreatedEncrypted
        { messageId := messageId.text
          replyToMessageId := replyToMessageId.text
          sealedMarkdown := some (encodeSealedPayload sealedMarkdown)
          attachments := encodeAttachments attachments }
  | .messageEdited messageId markdown =>
      .messageEdited
        { messageId := messageId.text
          markdown := markdown }
  | .messageEditedEncrypted messageId sealedMarkdown =>
      .messageEditedEncrypted
        { messageId := messageId.text
          sealedMarkdown := some (encodeSealedPayload sealedMarkdown) }
  | .messageDeleted messageId =>
      .messageDeleted { messageId := messageId.text }
  | .reactionAdded messageId reaction =>
      .reactionAdded
        { messageId := messageId.text
          reaction := reaction }
  | .reactionRemoved messageId reaction =>
      .reactionRemoved
        { messageId := messageId.text
          reaction := reaction }
  | .readMarkerUpdated channelId eventId =>
      .readMarkerUpdated
        { channelId := channelId.text
          eventId := eventId.text }

def decodeEventBodyKind : WireEventBodyKind → Except WireError EventBody
  | .workspaceCreated body => .ok (.workspaceCreated body.name)
  | .memberInvited body => do
      let role ← roleFromWire body.role
      .ok (.memberInvited ⟨body.inviteeDeviceId⟩ role)
  | .memberRoleUpdated body => do
      let role ← roleFromWire body.role
      .ok (.memberRoleUpdated ⟨body.memberDeviceId⟩ role)
  | .workspaceAccessPolicyUpdated body => do
      let policy ← accessPolicyFromWire body.policy
      .ok (.workspaceAccessPolicyUpdated policy)
  | .workspaceInviteRecorded body => do
      let role ← roleFromWire body.role
      .ok (.workspaceInviteRecorded body.inviteId ⟨body.inviteeDeviceId⟩ body.displayName role
        body.requestId body.expiresAt body.approvalPolicy body.syncExpectation)
  | .workspaceInviteCapabilityCreated body => do
      let role ← roleFromWire body.role
      .ok (.workspaceInviteCapabilityCreated body.inviteId body.displayName role body.expiresAt
        body.capabilityPublicKey body.syncExpectation body.maxClaims)
  | .workspaceInviteClaimed body =>
      .ok (.workspaceInviteClaimed body.inviteId ⟨body.inviteeDeviceId⟩ body.requestId)
  | .workspaceInviteResolved body => do
      let resolution ← inviteResolutionFromWire body.resolution
      .ok (.workspaceInviteResolved body.inviteId resolution)
  | .workspaceJoinRequestRecorded body =>
      .ok (.workspaceJoinRequestRecorded body.requestId ⟨body.requesterDeviceId⟩ body.displayName
        body.note body.sourceType body.sourceInviteId body.sourceDisplayName
        body.sourceApprovalPolicy body.responsePeerEndpoint)
  | .workspaceJoinRequestResolved body => do
      let resolution ← joinRequestResolutionFromWire body.resolution
      .ok (.workspaceJoinRequestResolved body.requestId resolution)
  | .memberRemoved body => .ok (.memberRemoved ⟨body.removedDeviceId⟩)
  | .channelCreated body => .ok (.channelCreated ⟨body.channelId⟩ body.name body.isPrivate)
  | .directMessageChannelCreated body =>
      .ok (.directMessageChannelCreated ⟨body.channelId⟩ body.name
        (body.participantDeviceIds.map Identifier.mk))
  | .channelDetailsUpdated body =>
      .ok (.channelDetailsUpdated ⟨body.channelId⟩ body.name body.topic body.archived)
  | .channelMemberAdded body => .ok (.channelMemberAdded ⟨body.channelId⟩ ⟨body.memberDeviceId⟩)
  | .channelMemberRemoved body => .ok (.channelMemberRemoved ⟨body.channelId⟩ ⟨body.memberDeviceId⟩)
  | .deviceProfileUpdated body => .ok (.deviceProfileUpdated body.displayName body.avatarId)
  | .personDeviceLinked body => .ok (.personDeviceLinked ⟨body.personId⟩ ⟨body.deviceId⟩)
  | .personProfileUpdated body =>
      .ok (.personProfileUpdated ⟨body.personId⟩ body.displayName body.avatarId)
  | .deviceKeyPackagePublished body =>
      .ok (.deviceKeyPackagePublished ⟨body.keyPackageId⟩ body.protocol body.keyPackage)
  | .peerEndpointPublished body => do
      let replicaStorageClass ←
        (withoutBlank body.replicaStorageClass).mapM fun value =>
          okOr (ReplicaStorageClass.fromWire value) (.replicaStorageClass value)
      .ok (.peerEndpointPublished body.endpointId body.endpoint body.transport body.isBackupPeer
        body.expiresAtMs replicaStorageClass (withoutBlank body.replicaRetentionHint))
  | .openMlsWorkspaceGroupMemberAdded body =>
      .ok (.openMlsWorkspaceGroupMemberAdded ⟨body.inviteeDeviceId⟩ ⟨body.inviteeKeyPackageId⟩
        body.inviteeKeyPackageRef body.protocol body.ciphersuite body.groupId body.epoch body.commit
        body.welcome body.ratchetTree)
  | .openMlsWorkspaceGroupMemberRemoved body =>
      .ok (.openMlsWorkspaceGroupMemberRemoved ⟨body.removedDeviceId⟩ body.protocol body.ciphersuite
        body.groupId body.epoch body.commit body.ratchetTree)
  | .openMlsChannelGroupMemberAdded body =>
      .ok (.openMlsChannelGroupMemberAdded ⟨body.channelId⟩ ⟨body.inviteeDeviceId⟩
        ⟨body.inviteeKeyPackageId⟩ body.inviteeKeyPackageRef body.protocol body.ciphersuite
        body.groupId body.epoch body.commit body.welcome body.ratchetTree)
  | .openMlsChannelGroupMemberRemoved body =>
      .ok (.openMlsChannelGroupMemberRemoved ⟨body.channelId⟩ ⟨body.removedDeviceId⟩ body.protocol
        body.ciphersuite body.groupId body.epoch body.commit body.ratchetTree)
  | .openMlsWorkspaceGroupSelfUpdated body =>
      .ok (.openMlsWorkspaceGroupSelfUpdated body.protocol body.ciphersuite body.groupId body.epoch
        body.commit body.ratchetTree)
  | .openMlsChannelGroupSelfUpdated body =>
      .ok (.openMlsChannelGroupSelfUpdated ⟨body.channelId⟩ body.protocol body.ciphersuite
        body.groupId body.epoch body.commit body.ratchetTree)
  | .contentKeyEpochPublished body => do
      let scope ← okOr body.scope .contentKeyScopeMissing
      let scope ← decodeContentKeyScope scope
      .ok (.contentKeyEpochPublished scope body.epoch body.keyId body.previousKeyId body.algorithm)
  | .messageCreated body => do
      let attachments ← decodeAttachments body.attachments
      .ok (.messageCreated ⟨body.messageId⟩ body.markdown attachments)
  | .messageReplyCreated body => do
      let attachments ← decodeAttachments body.attachments
      .ok (.messageReplyCreated ⟨body.messageId⟩ ⟨body.replyToMessageId⟩ body.markdown attachments)
  | .messageCreatedEncrypted body => do
      let sealedMarkdown ← okOr body.sealedMarkdown .eventBodyKindMissing
      let sealedMarkdown ← decodeSealedPayload sealedMarkdown
      let attachments ← decodeAttachments body.attachments
      .ok (.messageCreatedEncrypted ⟨body.messageId⟩ sealedMarkdown attachments)
  | .messageReplyCreatedEncrypted body => do
      let sealedMarkdown ← okOr body.sealedMarkdown .eventBodyKindMissing
      let sealedMarkdown ← decodeSealedPayload sealedMarkdown
      let attachments ← decodeAttachments body.attachments
      .ok (.messageReplyCreatedEncrypted ⟨body.messageId⟩ ⟨body.replyToMessageId⟩ sealedMarkdown
        attachments)
  | .messageEdited body => .ok (.messageEdited ⟨body.messageId⟩ body.markdown)
  | .messageEditedEncrypted body => do
      let sealedMarkdown ← okOr body.sealedMarkdown .eventBodyKindMissing
      let sealedMarkdown ← decodeSealedPayload sealedMarkdown
      .ok (.messageEditedEncrypted ⟨body.messageId⟩ sealedMarkdown)
  | .messageDeleted body => .ok (.messageDeleted ⟨body.messageId⟩)
  | .reactionAdded body => .ok (.reactionAdded ⟨body.messageId⟩ body.reaction)
  | .reactionRemoved body => .ok (.reactionRemoved ⟨body.messageId⟩ body.reaction)
  | .readMarkerUpdated body => .ok (.readMarkerUpdated ⟨body.channelId⟩ ⟨body.eventId⟩)

def encodeEventBody (body : EventBody) : WireEventBody where
  kind := some (encodeEventBodyKind body)

def decodeEventBody (body : WireEventBody) : Except WireError EventBody := do
  let kind ← okOr body.kind .eventBodyKindMissing
  decodeEventBodyKind kind

/-! ## Envelopes -/

def encodeEventEnvelope (event : SignedEvent) : WireEventEnvelope where
  eventId := event.eventId.text
  workspaceId := event.event.workspaceId.text
  channelId := event.event.channelId.map Identifier.text
  authorDeviceId := event.event.authorDeviceId.text
  physicalMs := event.event.timestamp.physicalMs
  logical := event.event.timestamp.logical
  parentIds := event.event.parents.map fun parent => Utf8.encode parent.text.toList
  bodyJson := []
  signature := event.signature
  authorPublicKey := event.authorPublicKey
  body := some (encodeEventBody event.event.body)

/-- The signed part of an event with a body that is already read. -/
def decodeSignableEvent (wire : WireEventEnvelope) (body : EventBody) : SignableEvent where
  schemaVersion := 1
  workspaceId := ⟨wire.workspaceId⟩
  channelId := wire.channelId.map Identifier.mk
  authorDeviceId := ⟨wire.authorDeviceId⟩
  timestamp := { physicalMs := wire.physicalMs, logical := wire.logical }
  parents := wire.parentIds.map fun parent => ⟨String.ofList (Utf8.decodeLossy parent)⟩
  body := body

section Decoding

variable (primitives : Primitives) (eventBodyFromSlice : List UInt8 → Option EventBody)

def decodeEventEnvelope (wire : WireEventEnvelope) : Except WireError SignedEvent := do
  let body ←
    match wire.body with
    | some body => decodeEventBody body
    | none => okOr (eventBodyFromSlice wire.bodyJson) .eventBody
  let recomputed :=
    SignedEvent.fromAuthorSignature primitives (decodeSignableEvent wire body)
      wire.authorPublicKey wire.signature
  ensure (recomputed.eventId.text = wire.eventId)
    (.eventIdMismatch wire.eventId recomputed.eventId.text)
  .ok recomputed

end Decoding

/-! ## The round trip -/

@[simp]
theorem roleFromWire_toWire (role : WorkspaceRole) :
    roleFromWire (roleToWire role) = .ok role := by
  cases role <;> rfl

@[simp]
theorem accessPolicyFromWire_toWire (policy : WorkspaceAccessPolicy) :
    accessPolicyFromWire (accessPolicyToWire policy) = .ok policy := by
  cases policy <;> rfl

@[simp]
theorem inviteResolutionFromWire_toWire (resolution : WorkspaceInviteResolution) :
    inviteResolutionFromWire (inviteResolutionToWire resolution) = .ok resolution := by
  cases resolution
  rfl

@[simp]
theorem joinRequestResolutionFromWire_toWire (resolution : WorkspaceJoinRequestResolution) :
    joinRequestResolutionFromWire (joinRequestResolutionToWire resolution) = .ok resolution := by
  cases resolution <;> rfl

@[simp]
theorem encryptionFromWire_toWire (mode : PayloadEncryption) :
    encryptionFromWire (encryptionToWire mode) = .ok mode := by
  cases mode <;> rfl

@[simp]
theorem decode_encodeContentKeyScope (scope : ContentKeyScope) :
    decodeContentKeyScope (encodeContentKeyScope scope) = .ok scope := by
  cases scope <;> rfl

theorem decode_encodeEncryptedBlobRef (encryption : EncryptedBlobRef) :
    decodeEncryptedBlobRef (encodeEncryptedBlobRef encryption) = .ok encryption := by
  simp only [decodeEncryptedBlobRef, encodeEncryptedBlobRef, bind_eq_ok_iff,
    encryptionFromWire_toWire, Except.ok.injEq, exists_eq_left']

@[simp]
theorem decode_encodeSealedPayload (payload : SealedPayload) :
    decodeSealedPayload (encodeSealedPayload payload) = .ok payload := by
  simp only [decodeSealedPayload, encodeSealedPayload, bind_eq_ok_iff,
    encryptionFromWire_toWire, Except.ok.injEq, exists_eq_left']

theorem decode_encodeAttachment (attachment : AttachmentRef) :
    decodeAttachment (encodeAttachment attachment) = .ok attachment := by
  have encryption := option_mapM_map_eq_ok decode_encodeEncryptedBlobRef attachment.encryption
  simp only [decodeAttachment, encodeAttachment, bind_eq_ok_iff, encryption, Except.ok.injEq,
    exists_eq_left']

@[simp]
theorem decode_encodeAttachments (attachments : List AttachmentRef) :
    decodeAttachments (encodeAttachments attachments) = .ok attachments :=
  mapM_map_eq_ok decode_encodeAttachment attachments

/-- Identifiers are wrapped again. -/
@[simp]
theorem mk_comp_text (kind : IdentifierKind) :
    (Identifier.mk ∘ Identifier.text : Identifier kind → Identifier kind) = id := rfl

theorem asStr_not_blank (storageClass : ReplicaStorageClass) :
    Text.trim storageClass.asStr.toList ≠ [] := by
  cases storageClass <;> decide +kernel

theorem fromWire_asStr (storageClass : ReplicaStorageClass) :
    ReplicaStorageClass.fromWire storageClass.asStr = some storageClass := by
  cases storageClass <;> decide +kernel

theorem withoutBlank_eq_self
    {value : Option String} (present : ∀ text, value = some text → Text.trim text.toList ≠ []) :
    withoutBlank value = value := by
  cases value with
  | none => rfl
  | some text => simp [withoutBlank, present text rfl]

example : withoutBlank (some " ") = none := by
  decide +kernel

/-- The optional texts of a body that a reader drops where they are blank are not
blank. -/
def ReadableBody : EventBody → Prop
  | .peerEndpointPublished _ _ _ _ _ _ replicaRetentionHint =>
      ∀ hint, replicaRetentionHint = some hint → Text.trim hint.toList ≠ []
  | _ => True

theorem readableBody_of_valid
    {body : EventBody} (valid : validateEventBodyPayloadSizes body = .ok ()) :
    ReadableBody body := by
  cases body with
  | peerEndpointPublished endpointId endpoint transport isBackupPeer expiresAtMs
      replicaStorageClass replicaRetentionHint =>
      rintro hint rfl
      simp only [validateEventBodyPayloadSizes, bind_eq_ok_iff, validateEventTextRequired,
        ensure_eq_ok_iff] at valid
      obtain ⟨_, -, _, -, _, -, _, -, _, -, _, -, _, required, -⟩ := valid
      exact required
  | _ => trivial

/-- A readable body of any kind is read back. -/
theorem decode_encodeEventBodyKind {body : EventBody} (readable : ReadableBody body) :
    decodeEventBodyKind (encodeEventBodyKind body) = .ok body := by
  cases body with
  | peerEndpointPublished endpointId endpoint transport isBackupPeer expiresAtMs
      replicaStorageClass replicaRetentionHint =>
      have storageClass :
          (withoutBlank (replicaStorageClass.map ReplicaStorageClass.asStr)).mapM (fun value =>
              okOr (ReplicaStorageClass.fromWire value) (.replicaStorageClass value)) =
            (.ok replicaStorageClass : Except WireError _) := by
        rw [withoutBlank_eq_self]
        · apply option_mapM_map_eq_ok
          intro storageClass
          rw [fromWire_asStr]
          rfl
        · intro text isText
          obtain ⟨storageClass, -, rfl⟩ := Option.map_eq_some_iff.mp isText
          exact asStr_not_blank storageClass
      have hint : withoutBlank replicaRetentionHint = replicaRetentionHint :=
        withoutBlank_eq_self readable
      simp only [encodeEventBodyKind, decodeEventBodyKind, bind_eq_ok_iff, storageClass, hint,
        Except.ok.injEq, exists_eq_left']
  | _ => simp [encodeEventBodyKind, decodeEventBodyKind, bind, Except.bind, okOr]

theorem decode_encodeSignableEvent
    {event : SignedEvent} (version : event.event.schemaVersion = 1) :
    decodeSignableEvent (encodeEventEnvelope event) event.event.body = event.event := by
  have channel :
      (event.event.channelId.map Identifier.text).map Identifier.mk = event.event.channelId := by
    cases event.event.channelId <;> rfl
  have parents :
      (event.event.parents.map fun parent => Utf8.encode parent.text.toList).map
          (fun parent => (⟨String.ofList (Utf8.decodeLossy parent)⟩ : EventId)) =
        event.event.parents := by
    rw [List.map_map]
    apply List.map_id''
    intro parent
    simp only [Function.comp_apply, Utf8.decodeLossy_encode, String.ofList_toList]
  simp only [decodeSignableEvent, encodeEventEnvelope, channel, parents, ← version]

section Envelopes

variable (primitives : Primitives) (eventBodyFromSlice : List UInt8 → Option EventBody)

theorem decode_encode_of_readable
    {event : SignedEvent}
    (version : event.event.schemaVersion = 1)
    (named :
      event.eventId =
        (SignedEvent.fromAuthorSignature primitives event.event event.authorPublicKey
          event.signature).eventId)
    (readable : ReadableBody event.event.body) :
    decodeEventEnvelope primitives eventBodyFromSlice (encodeEventEnvelope event) =
      .ok event := by
  have kind := decode_encodeEventBodyKind readable
  have content := decode_encodeSignableEvent version
  have recomputed :
      SignedEvent.fromAuthorSignature primitives event.event event.authorPublicKey
          event.signature =
        event := by
    cases event
    simp only at named
    rw [named]
    rfl
  have sameKey : (encodeEventEnvelope event).authorPublicKey = event.authorPublicKey := rfl
  have sameSignature : (encodeEventEnvelope event).signature = event.signature := rfl
  have hasBody : (encodeEventEnvelope event).body = some (encodeEventBody event.event.body) := rfl
  have body : decodeEventBody (encodeEventBody event.event.body) = .ok event.event.body := by
    simp only [decodeEventBody, encodeEventBody, bind_eq_ok_iff, okOr_eq_ok_iff,
      Option.some.injEq, exists_eq_left', kind]
  simp only [decodeEventEnvelope, hasBody, body, bind_eq_ok_iff, Except.ok.injEq,
    exists_eq_left', content, sameKey, sameSignature, recomputed, ensure_eq_ok_iff]
  exact ⟨(), rfl, trivial⟩

/-- Every event that is named by its content and whose body passes the checks is
read back from its envelope. -/
theorem decode_encodeEventEnvelope
    {event : SignedEvent}
    (version : event.event.schemaVersion = 1)
    (named :
      event.eventId =
        (SignedEvent.fromAuthorSignature primitives event.event event.authorPublicKey
          event.signature).eventId)
    (valid : validateEventBodyPayloadSizes event.event.body = .ok ()) :
    decodeEventEnvelope primitives eventBodyFromSlice (encodeEventEnvelope event) =
      .ok event :=
  decode_encode_of_readable primitives eventBodyFromSlice version named
    (readableBody_of_valid valid)

theorem decode_encodeEventEnvelope_home :
    decodeEventEnvelope homePrimitives (fun _ => none) (encodeEventEnvelope signedHome) =
      .ok signedHome :=
  decode_encodeEventEnvelope homePrimitives (fun _ => none) rfl (by decide +kernel)
    (by decide +kernel)

end Envelopes

end Chaft
