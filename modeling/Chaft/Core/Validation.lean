import Chaft.Core.Error
import Chaft.Domain.PeerEndpoint
import Chaft.Library.Outcome

/-!
# Validation of identifiers and payloads

Checks on a single event or snapshot that do not look at any workspace
history: the byte lengths of all identifiers, and for each kind of body the
sizes and required texts of its payload.
-/

namespace Chaft

open Keyed Outcome

/-! ## Single fields -/

def validateEventTextSize
    (label value : String) (maxBytes : Nat) : Except AuthorizationError Unit :=
  ensure (value.utf8ByteSize ≤ maxBytes)
    (.eventPayloadTooLarge label value.utf8ByteSize maxBytes)

def validateEventTextRequired
    (label value : String) : Except AuthorizationError Unit :=
  ensure (Text.trim value.toList ≠ []) (.eventPayloadRequired label)

def validateEventPayloadSize
    (label : String) (bytes : List UInt8) (maxBytes : Nat) :
    Except AuthorizationError Unit :=
  ensure (bytes.length ≤ maxBytes)
    (.eventPayloadTooLarge label bytes.length maxBytes)

def validateEventU64Size
    (label : String) (actualBytes maxBytes : UInt64) : Except AuthorizationError Unit :=
  ensure (actualBytes ≤ maxBytes)
    (.eventPayloadTooLarge label actualBytes.toNat maxBytes.toNat)

def validateWorkspaceIdSize (label : String) (value : WorkspaceId) :=
  validateEventTextSize label value.text workspaceIdMaxBytes

def validateChannelIdSize (label : String) (value : ChannelId) :=
  validateEventTextSize label value.text channelIdMaxBytes

def validateMessageIdSize (label : String) (value : MessageId) :=
  validateEventTextSize label value.text messageIdMaxBytes

def validateDeviceKeyPackageIdSize (label : String) (value : DeviceKeyPackageId) :=
  validateEventTextSize label value.text deviceKeyPackageIdMaxBytes

def validateEventIdSize (label : String) (value : EventId) :=
  validateEventTextSize label value.text eventIdMaxBytes

def validateDeviceIdSize (label : String) (value : DeviceId) :=
  validateEventTextSize label value.text deviceIdMaxBytes

def validatePersonIdSize (label : String) (value : PersonId) :=
  validateEventTextSize label value.text personIdMaxBytes

/-! ## Identifiers of an event -/

def validateContentKeyScopeIds : ContentKeyScope → Except AuthorizationError Unit
  | .workspace => .ok ()
  | .channel channelId => validateChannelIdSize "channel ID" channelId

def validateEventBodyIds (body : EventBody) : Except AuthorizationError Unit :=
  match body with
  | .workspaceCreated ..
  | .workspaceAccessPolicyUpdated ..
  | .deviceProfileUpdated ..
  | .peerEndpointPublished .. => .ok ()
  | .personDeviceLinked personId deviceId => do
      validatePersonIdSize "person ID" personId
      validateDeviceIdSize "linked device ID" deviceId
  | .personProfileUpdated personId .. => validatePersonIdSize "person ID" personId
  | .memberInvited inviteeDeviceId .. =>
      validateDeviceIdSize "invitee device ID" inviteeDeviceId
  | .memberRoleUpdated memberDeviceId .. =>
      validateDeviceIdSize "member device ID" memberDeviceId
  | .workspaceInviteRecorded _ inviteeDeviceId .. =>
      validateDeviceIdSize "invitee device ID" inviteeDeviceId
  | .workspaceInviteCapabilityCreated .. => .ok ()
  | .workspaceInviteClaimed _ inviteeDeviceId .. =>
      validateDeviceIdSize "invitee device ID" inviteeDeviceId
  | .workspaceInviteResolved .. => .ok ()
  | .workspaceJoinRequestRecorded _ requesterDeviceId .. =>
      validateDeviceIdSize "requester device ID" requesterDeviceId
  | .workspaceJoinRequestResolved .. => .ok ()
  | .memberRemoved removedDeviceId =>
      validateDeviceIdSize "removed device ID" removedDeviceId
  | .channelCreated channelId .. => validateChannelIdSize "channel ID" channelId
  | .directMessageChannelCreated channelId _ participantDeviceIds => do
      validateChannelIdSize "channel ID" channelId
      checkAll (validateDeviceIdSize "direct message participant device ID")
        participantDeviceIds
  | .channelDetailsUpdated channelId .. => validateChannelIdSize "channel ID" channelId
  | .channelMemberAdded channelId memberDeviceId
  | .channelMemberRemoved channelId memberDeviceId => do
      validateChannelIdSize "channel ID" channelId
      validateDeviceIdSize "member device ID" memberDeviceId
  | .deviceKeyPackagePublished keyPackageId .. =>
      validateDeviceKeyPackageIdSize "device key package ID" keyPackageId
  | .openMlsWorkspaceGroupMemberAdded inviteeDeviceId inviteeKeyPackageId .. => do
      validateDeviceIdSize "invitee device ID" inviteeDeviceId
      validateDeviceKeyPackageIdSize "invitee device key package ID" inviteeKeyPackageId
  | .openMlsWorkspaceGroupMemberRemoved removedDeviceId .. =>
      validateDeviceIdSize "removed device ID" removedDeviceId
  | .openMlsChannelGroupMemberAdded channelId inviteeDeviceId inviteeKeyPackageId .. => do
      validateChannelIdSize "channel ID" channelId
      validateDeviceIdSize "invitee device ID" inviteeDeviceId
      validateDeviceKeyPackageIdSize "invitee device key package ID" inviteeKeyPackageId
  | .openMlsChannelGroupMemberRemoved channelId removedDeviceId .. => do
      validateChannelIdSize "channel ID" channelId
      validateDeviceIdSize "removed device ID" removedDeviceId
  | .openMlsWorkspaceGroupSelfUpdated .. => .ok ()
  | .openMlsChannelGroupSelfUpdated channelId .. =>
      validateChannelIdSize "channel ID" channelId
  | .contentKeyEpochPublished scope .. => validateContentKeyScopeIds scope
  | .messageCreated messageId ..
  | .messageCreatedEncrypted messageId .. => validateMessageIdSize "message ID" messageId
  | .messageReplyCreated messageId replyToMessageId ..
  | .messageReplyCreatedEncrypted messageId replyToMessageId .. => do
      validateMessageIdSize "message ID" messageId
      validateMessageIdSize "reply target message ID" replyToMessageId
  | .messageEdited messageId ..
  | .messageEditedEncrypted messageId ..
  | .messageDeleted messageId
  | .reactionAdded messageId ..
  | .reactionRemoved messageId .. => validateMessageIdSize "message ID" messageId
  | .readMarkerUpdated channelId eventId => do
      validateChannelIdSize "channel ID" channelId
      validateEventIdSize "read marker target event ID" eventId

def validateSignedEventIds (event : SignedEvent) : Except AuthorizationError Unit := do
  validateWorkspaceIdSize "workspace ID" event.event.workspaceId
  match event.event.channelId with
  | some channelId => validateChannelIdSize "event channel ID" channelId
  | none => .ok ()
  validateDeviceIdSize "author device ID" event.event.authorDeviceId
  validateEventIdSize "event ID" event.eventId
  validateEventPayloadSize "author public key" event.authorPublicKey
    eventAuthorPublicKeyMaxBytes
  validateEventPayloadSize "event signature" event.signature eventSignatureMaxBytes
  checkAll (validateEventIdSize "parent event ID") event.event.parents
  validateEventBodyIds event.event.body

/-! ## Identifiers of a trust snapshot -/

def validateTrustSnapshotIds
    (snapshot : TrustSnapshot) : Except AuthorizationError Unit := do
  validateWorkspaceIdSize "trust snapshot workspace ID" snapshot.workspaceId
  validateEventIdSize "trust snapshot root event ID" snapshot.rootEventId
  validateDeviceIdSize "trust snapshot root author device ID" snapshot.rootAuthorDeviceId
  checkAll (fun role =>
    validateDeviceIdSize "trust snapshot role device ID" role.deviceId) snapshot.roles
  checkAll (fun channel => do
    validateChannelIdSize "trust snapshot channel ID" channel.channelId
    validateDeviceIdSize "trust snapshot channel creator device ID" channel.creatorDeviceId
    checkAll (validateDeviceIdSize "trust snapshot channel member device ID")
      channel.memberDeviceIds) snapshot.channels
  checkAll (fun message => do
    validateMessageIdSize "trust snapshot message ID" message.messageId
    validateChannelIdSize "trust snapshot message channel ID" message.channelId
    match message.authorDeviceId with
    | some authorDeviceId =>
        validateDeviceIdSize "trust snapshot message author device ID" authorDeviceId
    | none => .ok ()) snapshot.messages
  checkAll (fun eventChannel => do
    validateEventIdSize "trust snapshot event ID" eventChannel.eventId
    validateChannelIdSize "trust snapshot event channel ID" eventChannel.channelId)
    snapshot.eventChannels
  checkAll (fun link => do
    validatePersonIdSize "trust snapshot person ID" link.personId
    validateDeviceIdSize "trust snapshot person device ID" link.deviceId)
    snapshot.personDeviceLinks

/-! ## Payloads -/

def validateOpenmlsGroupMetadata
    (keyPackageRef : Option String) (protocol ciphersuite groupId : String) :
    Except AuthorizationError Unit := do
  match keyPackageRef with
  | some keyPackageRef =>
      validateEventTextSize "OpenMLS key package ref" keyPackageRef
        openmlsKeyPackageRefMaxBytes
  | none => .ok ()
  validateEventTextSize "OpenMLS protocol" protocol openmlsProtocolMaxBytes
  validateEventTextSize "OpenMLS ciphersuite" ciphersuite openmlsCiphersuiteMaxBytes
  validateEventTextSize "OpenMLS group ID" groupId openmlsGroupIdMaxBytes

def validateMessageAttachment
    (attachment : AttachmentRef) : Except AuthorizationError Unit := do
  validateEventTextSize "attachment blob hash" attachment.blobHash
    attachmentBlobHashMaxBytes
  validateEventTextSize "attachment media type" attachment.mediaType
    attachmentMediaTypeMaxBytes
  validateEventTextSize "attachment display name" attachment.displayName
    attachmentDisplayNameMaxBytes
  validateEventTextSize "attachment id" attachment.attachmentId attachmentIdMaxBytes
  validateEventU64Size "attachment ciphertext length" attachment.byteLen
    attachmentCiphertextMaxBytes
  match attachment.encryption with
  | some encryption => do
      validateEventTextSize "attachment encryption key id" encryption.keyId
        attachmentKeyIdMaxBytes
      validateEventPayloadSize "attachment encryption nonce" encryption.nonce
        sealedPayloadNonceMaxBytes
      validateEventPayloadSize "attachment encryption aad" encryption.aad
        sealedPayloadAadMaxBytes
      validateEventU64Size "attachment plaintext length" encryption.plaintextByteLen
        attachmentPlaintextMaxBytes
  | none => .ok ()

def validateMessageAttachments
    (attachments : List AttachmentRef) : Except AuthorizationError Unit := do
  ensure (attachments.length ≤ messageAttachmentMaxCount)
    (.eventItemCountTooLarge "message attachments" attachments.length
      messageAttachmentMaxCount)
  checkAll validateMessageAttachment attachments

def validateSealedMarkdownPayload
    (payload : SealedPayload) : Except AuthorizationError Unit := do
  validateEventTextSize "sealed message key ID" payload.keyId sealedPayloadKeyIdMaxBytes
  validateEventPayloadSize "sealed message ciphertext" payload.bytes
    sealedMessageMarkdownMaxBytes
  validateEventPayloadSize "sealed message nonce" payload.nonce sealedPayloadNonceMaxBytes
  validateEventPayloadSize "sealed message aad" payload.aad sealedPayloadAadMaxBytes

/-- The display name and avatar checks of device and person profiles. -/
def validateProfile (displayName avatarId : String) : Except AuthorizationError Unit := do
  validateEventTextSize "display name" displayName deviceDisplayNameMaxBytes
  validateEventTextSize "avatar ID" avatarId avatarIdMaxBytes
  match validateAvatarIdStr avatarId with
  | .ok () => .ok ()
  | .error _ => .error .invalidAvatarId

def validateEventBodyPayloadSizes (body : EventBody) : Except AuthorizationError Unit :=
  match body with
  | .workspaceCreated name =>
      validateEventTextSize "workspace name" name workspaceNameMaxBytes
  | .workspaceAccessPolicyUpdated .. => .ok ()
  | .channelCreated _ name _ =>
      validateEventTextSize "channel name" name channelNameMaxBytes
  | .directMessageChannelCreated _ name participantDeviceIds => do
      validateEventTextSize "direct message name" name channelNameMaxBytes
      ensure (participantDeviceIds.length = 2)
        (.eventItemCountTooLarge "direct message participants"
          participantDeviceIds.length 2)
      ensure ((Std.ExtTreeSet.ofList participantDeviceIds compare).size = 2)
        (.eventPayloadRequired "direct message distinct participants")
  | .channelDetailsUpdated _ name topic archived => do
      ensure (name.isSome ∨ topic.isSome ∨ archived.isSome)
        (.eventPayloadRequired "channel details")
      match name with
      | some name => validateEventTextSize "channel name" name channelNameMaxBytes
      | none => .ok ()
      match topic with
      | some topic => validateEventTextSize "channel topic" topic channelTopicMaxBytes
      | none => .ok ()
  | .deviceProfileUpdated displayName avatarId => validateProfile displayName avatarId
  | .personDeviceLinked .. => .ok ()
  | .personProfileUpdated _ displayName avatarId => validateProfile displayName avatarId
  | .workspaceInviteRecorded inviteId _ displayName _ requestId expiresAt approvalPolicy
      syncExpectation => do
      validateEventTextRequired "invite ID" inviteId
      validateEventTextSize "invite ID" inviteId workspaceInviteIdMaxBytes
      validateEventTextSize "display name" displayName deviceDisplayNameMaxBytes
      match requestId with
      | some requestId =>
          validateEventTextSize "join request ID" requestId workspaceJoinRequestIdMaxBytes
      | none => .ok ()
      validateEventTextSize "invite expiry" expiresAt workspaceInviteExpiresAtMaxBytes
      validateEventTextSize "invite approval policy" approvalPolicy
        workspaceInviteApprovalPolicyMaxBytes
      validateEventTextSize "invite sync expectation" syncExpectation
        workspaceInviteSyncExpectationMaxBytes
  | .workspaceInviteCapabilityCreated inviteId displayName _ expiresAt
      capabilityPublicKey syncExpectation maxClaims => do
      let maxClaims := effectiveWorkspaceInviteMaxClaims maxClaims
      ensure (maxClaims ≤ workspaceInviteMaxClaims)
        (.eventItemCountTooLarge "invite claims" maxClaims.toNat
          workspaceInviteMaxClaims.toNat)
      validateEventTextRequired "invite ID" inviteId
      validateEventTextSize "invite ID" inviteId workspaceInviteIdMaxBytes
      validateEventTextSize "invite label" displayName workspaceInviteLabelMaxBytes
      validateEventTextSize "invite expiry" expiresAt workspaceInviteExpiresAtMaxBytes
      validateEventTextRequired "invite capability public key" capabilityPublicKey
      validateEventTextSize "invite capability public key" capabilityPublicKey
        workspaceInviteCapabilityPublicKeyMaxBytes
      validateEventTextSize "invite sync expectation" syncExpectation
        workspaceInviteSyncExpectationMaxBytes
  | .workspaceInviteClaimed inviteId _ requestId => do
      validateEventTextRequired "invite ID" inviteId
      validateEventTextSize "invite ID" inviteId workspaceInviteIdMaxBytes
      validateEventTextRequired "join request ID" requestId
      validateEventTextSize "join request ID" requestId workspaceJoinRequestIdMaxBytes
  | .workspaceInviteResolved inviteId _ => do
      validateEventTextRequired "invite ID" inviteId
      validateEventTextSize "invite ID" inviteId workspaceInviteIdMaxBytes
  | .workspaceJoinRequestRecorded requestId _ displayName note sourceType sourceInviteId
      sourceDisplayName sourceApprovalPolicy responsePeerEndpoint => do
      validateEventTextRequired "join request ID" requestId
      validateEventTextSize "join request ID" requestId workspaceJoinRequestIdMaxBytes
      validateEventTextSize "display name" displayName deviceDisplayNameMaxBytes
      validateEventTextSize "join request note" note workspaceJoinRequestNoteMaxBytes
      validateEventTextSize "join request source" sourceType workspaceAccessPolicyMaxBytes
      validateEventTextSize "source invite ID" sourceInviteId workspaceInviteIdMaxBytes
      validateEventTextSize "source display name" sourceDisplayName
        deviceDisplayNameMaxBytes
      validateEventTextSize "source approval policy" sourceApprovalPolicy
        workspaceInviteApprovalPolicyMaxBytes
      validateEventTextSize "join request response peer endpoint" responsePeerEndpoint
        peerEndpointMaxBytes
  | .workspaceJoinRequestResolved requestId _ => do
      validateEventTextRequired "join request ID" requestId
      validateEventTextSize "join request ID" requestId workspaceJoinRequestIdMaxBytes
  | .peerEndpointPublished endpointId endpoint transport isBackupPeer _
      replicaStorageClass replicaRetentionHint => do
      validateEventTextRequired "peer endpoint ID" endpointId
      validateEventTextRequired "peer endpoint" endpoint
      validateEventTextRequired "peer endpoint transport" transport
      validateEventTextSize "peer endpoint ID" endpointId peerEndpointIdMaxBytes
      validateEventTextSize "peer endpoint" endpoint peerEndpointMaxBytes
      validateEventTextSize "peer endpoint transport" transport
        peerEndpointTransportMaxBytes
      match replicaRetentionHint with
      | some replicaRetentionHint => do
          validateEventTextRequired "replica retention hint" replicaRetentionHint
          validateEventTextSize "replica retention hint" replicaRetentionHint
            replicaRetentionHintMaxBytes
      | none => .ok ()
      ensure (peerEndpointHintIsSupported endpoint = true) .unsupportedPeerEndpoint
      ensure (peerEndpointHintTransportIsConsistent endpoint transport = true)
        .peerEndpointTransportMismatch
      ensure (isBackupPeer = true ∨
          (replicaStorageClass.isNone ∧ replicaRetentionHint.isNone))
        .replicaCapabilityRequiresBackupPeer
  | .contentKeyEpochPublished _ _ keyId previousKeyId algorithm => do
      validateEventTextSize "content key ID" keyId contentKeyIdMaxBytes
      match previousKeyId with
      | some previousKeyId =>
          validateEventTextSize "previous content key ID" previousKeyId
            contentKeyIdMaxBytes
      | none => .ok ()
      validateEventTextSize "content key algorithm" algorithm contentKeyAlgorithmMaxBytes
  | .messageCreated _ markdown attachments
  | .messageReplyCreated _ _ markdown attachments => do
      validateEventTextSize "message markdown" markdown messageMarkdownMaxBytes
      validateMessageAttachments attachments
  | .messageEdited _ markdown =>
      validateEventTextSize "message markdown" markdown messageMarkdownMaxBytes
  | .messageCreatedEncrypted _ sealedMarkdown attachments
  | .messageReplyCreatedEncrypted _ _ sealedMarkdown attachments => do
      validateSealedMarkdownPayload sealedMarkdown
      validateMessageAttachments attachments
  | .messageEditedEncrypted _ sealedMarkdown => validateSealedMarkdownPayload sealedMarkdown
  | .reactionAdded _ reaction
  | .reactionRemoved _ reaction =>
      validateEventTextSize "reaction" reaction reactionTextMaxBytes
  | .deviceKeyPackagePublished _ protocol keyPackage => do
      validateEventTextSize "device key package protocol" protocol
        deviceKeyPackageProtocolMaxBytes
      validateEventPayloadSize "OpenMLS key package" keyPackage openmlsKeyPackageMaxBytes
  | .openMlsWorkspaceGroupMemberAdded _ _ inviteeKeyPackageRef protocol ciphersuite groupId
      _ commit welcome ratchetTree
  | .openMlsChannelGroupMemberAdded _ _ _ inviteeKeyPackageRef protocol ciphersuite groupId
      _ commit welcome ratchetTree => do
      validateOpenmlsGroupMetadata (some inviteeKeyPackageRef) protocol ciphersuite groupId
      validateEventPayloadSize "OpenMLS commit" commit openmlsCommitMaxBytes
      validateEventPayloadSize "OpenMLS welcome" welcome openmlsWelcomeMaxBytes
      validateEventPayloadSize "OpenMLS ratchet tree" ratchetTree openmlsRatchetTreeMaxBytes
  | .openMlsWorkspaceGroupMemberRemoved _ protocol ciphersuite groupId _ commit ratchetTree
  | .openMlsChannelGroupMemberRemoved _ _ protocol ciphersuite groupId _ commit ratchetTree
  | .openMlsWorkspaceGroupSelfUpdated protocol ciphersuite groupId _ commit ratchetTree
  | .openMlsChannelGroupSelfUpdated _ protocol ciphersuite groupId _ commit ratchetTree => do
      validateOpenmlsGroupMetadata none protocol ciphersuite groupId
      validateEventPayloadSize "OpenMLS commit" commit openmlsCommitMaxBytes
      validateEventPayloadSize "OpenMLS ratchet tree" ratchetTree openmlsRatchetTreeMaxBytes
  | .memberInvited ..
  | .memberRoleUpdated ..
  | .memberRemoved ..
  | .channelMemberAdded ..
  | .channelMemberRemoved ..
  | .messageDeleted ..
  | .readMarkerUpdated .. => .ok ()

/-! ## What validation raises -/

/-- The refusals of validation. -/
def AuthorizationError.isPayloadRefusal : AuthorizationError → Bool
  | .eventPayloadTooLarge ..
  | .eventPayloadRequired _
  | .invalidAvatarId
  | .unsupportedPeerEndpoint
  | .peerEndpointTransportMismatch
  | .replicaCapabilityRequiresBackupPeer
  | .eventItemCountTooLarge .. => true
  | _ => false

/-- A validation fails only with refusals of validation. -/
abbrev Validates (computation : Except AuthorizationError Unit) : Prop :=
  OnlyRaises (fun raised => raised.isPayloadRefusal = true) computation

theorem validates_size (label value : String) (maxBytes : Nat) :
    Validates (validateEventTextSize label value maxBytes) :=
  onlyRaises_ensure _ rfl

theorem validates_required (label value : String) :
    Validates (validateEventTextRequired label value) :=
  onlyRaises_ensure _ rfl

theorem validates_payload (label : String) (bytes : List UInt8) (maxBytes : Nat) :
    Validates (validateEventPayloadSize label bytes maxBytes) :=
  onlyRaises_ensure _ rfl

theorem validates_length (label : String) (actualBytes maxBytes : UInt64) :
    Validates (validateEventU64Size label actualBytes maxBytes) :=
  onlyRaises_ensure _ rfl

theorem validateEventBodyIds_validates (body : EventBody) :
    Validates (validateEventBodyIds body) := by
  unfold validateEventBodyIds validateContentKeyScopeIds
  repeat' with_reducible first
    | exact onlyRaises_ok ()
    | apply onlyRaises_bind
    | apply onlyRaises_checkAll
    | intro _
    | split
  all_goals exact validates_size _ _ _

theorem validateSignedEventIds_validates (event : SignedEvent) :
    Validates (validateSignedEventIds event) := by
  unfold validateSignedEventIds
  repeat' with_reducible first
    | exact onlyRaises_ok ()
    | exact validates_payload _ _ _
    | exact validateEventBodyIds_validates _
    | apply onlyRaises_bind
    | apply onlyRaises_checkAll
    | intro _
    | split
  all_goals exact validates_size _ _ _

theorem validateMessageAttachment_validates (attachment : AttachmentRef) :
    Validates (validateMessageAttachment attachment) := by
  unfold validateMessageAttachment
  repeat' with_reducible first
    | exact onlyRaises_ok ()
    | exact validates_size _ _ _
    | exact validates_payload _ _ _
    | exact validates_length _ _ _
    | apply onlyRaises_bind
    | intro _
    | split

theorem validateMessageAttachments_validates (attachments : List AttachmentRef) :
    Validates (validateMessageAttachments attachments) := by
  unfold validateMessageAttachments
  apply onlyRaises_bind
  · exact onlyRaises_ensure _ rfl
  · intro _
    exact onlyRaises_checkAll fun attachment _ => validateMessageAttachment_validates attachment

theorem validateEventBodyPayloadSizes_validates (body : EventBody) :
    Validates (validateEventBodyPayloadSizes body) := by
  unfold validateEventBodyPayloadSizes validateProfile validateSealedMarkdownPayload
    validateOpenmlsGroupMetadata
  repeat' with_reducible first
    | exact onlyRaises_ok ()
    | exact onlyRaises_error rfl
    | exact validates_size _ _ _
    | exact validates_required _ _
    | exact validates_payload _ _ _
    | exact validateMessageAttachments_validates _
    | exact onlyRaises_ensure _ rfl
    | apply onlyRaises_bind
    | intro _
    | split

end Chaft
