import Chaft.Domain.Identifiers

/-!
# Signed events and trust snapshots

The records that devices sign, store and exchange.  An event belongs to one
workspace, names its author device and its causal parents, and carries one of
38 bodies.  `EventBody` lists them in the order of the source.
-/

namespace Chaft

/-- `None` and zero both stand for the default of one claim. -/
def normalizeWorkspaceInviteMaxClaims (maxClaims : UInt32) : UInt32 :=
  if maxClaims = 0 then 1 else maxClaims

def effectiveWorkspaceInviteMaxClaims : Option UInt32 → UInt32
  | some maxClaims => normalizeWorkspaceInviteMaxClaims maxClaims
  | none => 1

inductive ContentKeyScope where
  | workspace
  | channel (channelId : ChannelId)
  deriving DecidableEq, Repr

structure HybridTimestamp where
  physicalMs : Int64
  logical : UInt32
  deriving DecidableEq

inductive PayloadEncryption where
  | developmentPlaintext
  | aes256GcmSiv
  | openMlsPending
  deriving DecidableEq, Repr

structure EncryptedBlobRef where
  mode : PayloadEncryption
  keyId : String
  nonce : List UInt8
  aad : List UInt8
  plaintextByteLen : UInt64
  deriving DecidableEq

structure AttachmentRef where
  blobHash : String
  mediaType : String
  byteLen : UInt64
  displayName : String
  attachmentId : String
  encryption : Option EncryptedBlobRef
  deriving DecidableEq

structure SealedPayload where
  mode : PayloadEncryption
  keyId : String
  nonce : List UInt8
  aad : List UInt8
  bytes : List UInt8
  deriving DecidableEq

inductive ReplicaStorageClass where
  | ephemeralPeer
  | metadataIndex
  | partialHistory
  | fullHistory
  | fullHistoryWithBlobs
  deriving DecidableEq, Repr

namespace ReplicaStorageClass

def asStr : ReplicaStorageClass → String
  | ephemeralPeer => "ephemeral_peer"
  | metadataIndex => "metadata_index"
  | partialHistory => "partial_history"
  | fullHistory => "full_history"
  | fullHistoryWithBlobs => "full_history_with_blobs"

def fromWire (value : String) : Option ReplicaStorageClass :=
  if value = "ephemeral_peer" then some ephemeralPeer
  else if value = "metadata_index" then some metadataIndex
  else if value = "partial_history" then some partialHistory
  else if value = "full_history" then some fullHistory
  else if value = "full_history_with_blobs" then some fullHistoryWithBlobs
  else none

end ReplicaStorageClass

inductive WorkspaceRole where
  | owner
  | admin
  | member
  | guest
  deriving DecidableEq, Repr

inductive WorkspaceAccessPolicy where
  | inviteOnly
  | requestAccess
  | discoverable
  deriving DecidableEq, Repr

inductive WorkspaceInviteResolution where
  | revoked
  deriving DecidableEq, Repr

inductive WorkspaceJoinRequestResolution where
  | approved
  | declined
  | revoked
  deriving DecidableEq, Repr

inductive EventBody where
  | workspaceCreated (name : String)
  | memberInvited (inviteeDeviceId : DeviceId) (role : WorkspaceRole)
  | memberRoleUpdated (memberDeviceId : DeviceId) (role : WorkspaceRole)
  | workspaceAccessPolicyUpdated (policy : WorkspaceAccessPolicy)
  | workspaceInviteRecorded (inviteId : String) (inviteeDeviceId : DeviceId)
      (displayName : String) (role : WorkspaceRole) (requestId : Option String)
      (expiresAt approvalPolicy syncExpectation : String)
  | workspaceInviteCapabilityCreated (inviteId displayName : String)
      (role : WorkspaceRole) (expiresAt capabilityPublicKey syncExpectation : String)
      (maxClaims : Option UInt32)
  | workspaceInviteClaimed (inviteId : String) (inviteeDeviceId : DeviceId)
      (requestId : String)
  | workspaceInviteResolved (inviteId : String) (resolution : WorkspaceInviteResolution)
  | workspaceJoinRequestRecorded (requestId : String) (requesterDeviceId : DeviceId)
      (displayName note sourceType sourceInviteId sourceDisplayName
        sourceApprovalPolicy responsePeerEndpoint : String)
  | workspaceJoinRequestResolved (requestId : String)
      (resolution : WorkspaceJoinRequestResolution)
  | memberRemoved (removedDeviceId : DeviceId)
  | channelCreated (channelId : ChannelId) (name : String) (isPrivate : Bool)
  | directMessageChannelCreated (channelId : ChannelId) (name : String)
      (participantDeviceIds : List DeviceId)
  | channelDetailsUpdated (channelId : ChannelId) (name topic : Option String)
      (archived : Option Bool)
  | channelMemberAdded (channelId : ChannelId) (memberDeviceId : DeviceId)
  | channelMemberRemoved (channelId : ChannelId) (memberDeviceId : DeviceId)
  | deviceProfileUpdated (displayName avatarId : String)
  | personDeviceLinked (personId : PersonId) (deviceId : DeviceId)
  | personProfileUpdated (personId : PersonId) (displayName avatarId : String)
  | deviceKeyPackagePublished (keyPackageId : DeviceKeyPackageId) (protocol : String)
      (keyPackage : List UInt8)
  | peerEndpointPublished (endpointId endpoint transport : String)
      (isBackupPeer : Bool) (expiresAtMs : Option Int64)
      (replicaStorageClass : Option ReplicaStorageClass)
      (replicaRetentionHint : Option String)
  | openMlsWorkspaceGroupMemberAdded (inviteeDeviceId : DeviceId)
      (inviteeKeyPackageId : DeviceKeyPackageId)
      (inviteeKeyPackageRef protocol ciphersuite groupId : String) (epoch : UInt64)
      (commit welcome ratchetTree : List UInt8)
  | openMlsWorkspaceGroupMemberRemoved (removedDeviceId : DeviceId)
      (protocol ciphersuite groupId : String) (epoch : UInt64)
      (commit ratchetTree : List UInt8)
  | openMlsChannelGroupMemberAdded (channelId : ChannelId) (inviteeDeviceId : DeviceId)
      (inviteeKeyPackageId : DeviceKeyPackageId)
      (inviteeKeyPackageRef protocol ciphersuite groupId : String) (epoch : UInt64)
      (commit welcome ratchetTree : List UInt8)
  | openMlsChannelGroupMemberRemoved (channelId : ChannelId) (removedDeviceId : DeviceId)
      (protocol ciphersuite groupId : String) (epoch : UInt64)
      (commit ratchetTree : List UInt8)
  | openMlsWorkspaceGroupSelfUpdated (protocol ciphersuite groupId : String)
      (epoch : UInt64) (commit ratchetTree : List UInt8)
  | openMlsChannelGroupSelfUpdated (channelId : ChannelId)
      (protocol ciphersuite groupId : String) (epoch : UInt64)
      (commit ratchetTree : List UInt8)
  | contentKeyEpochPublished (scope : ContentKeyScope) (epoch : UInt64) (keyId : String)
      (previousKeyId : Option String) (algorithm : String)
  | messageCreated (messageId : MessageId) (markdown : String)
      (attachments : List AttachmentRef)
  | messageReplyCreated (messageId replyToMessageId : MessageId) (markdown : String)
      (attachments : List AttachmentRef)
  | messageCreatedEncrypted (messageId : MessageId) (sealedMarkdown : SealedPayload)
      (attachments : List AttachmentRef)
  | messageReplyCreatedEncrypted (messageId replyToMessageId : MessageId)
      (sealedMarkdown : SealedPayload) (attachments : List AttachmentRef)
  | messageEdited (messageId : MessageId) (markdown : String)
  | messageEditedEncrypted (messageId : MessageId) (sealedMarkdown : SealedPayload)
  | messageDeleted (messageId : MessageId)
  | reactionAdded (messageId : MessageId) (reaction : String)
  | reactionRemoved (messageId : MessageId) (reaction : String)
  | readMarkerUpdated (channelId : ChannelId) (eventId : EventId)
  deriving DecidableEq

structure SignableEvent where
  schemaVersion : UInt32
  workspaceId : WorkspaceId
  channelId : Option ChannelId
  authorDeviceId : DeviceId
  timestamp : HybridTimestamp
  parents : List EventId
  body : EventBody
  deriving DecidableEq

structure SignedEvent where
  eventId : EventId
  event : SignableEvent
  authorPublicKey : List UInt8
  signature : List UInt8
  deriving DecidableEq

/-- An unsigned event of workspace `w` with an empty timestamp, from which the
concrete histories of this development are made. -/
def draftEvent
    (eventId author : String) (channel : Option String) (parents : List String)
    (body : EventBody) : SignedEvent where
  eventId := ⟨eventId⟩
  event :=
    { schemaVersion := 1
      workspaceId := ⟨"w"⟩
      channelId := channel.map Identifier.mk
      authorDeviceId := ⟨author⟩
      timestamp := { physicalMs := 0, logical := 0 }
      parents := parents.map Identifier.mk
      body := body }
  authorPublicKey := []
  signature := []

def createsWorkspace : EventBody → Bool
  | .workspaceCreated _ => true
  | _ => false

/-- The event creates a workspace. -/
def CreatesWorkspace (event : SignedEvent) : Prop :=
  createsWorkspace event.event.body = true

instance (event : SignedEvent) : Decidable (CreatesWorkspace event) :=
  inferInstanceAs (Decidable (_ = true))

theorem CreatesWorkspace.exists_name
    {event : SignedEvent} (creates : CreatesWorkspace event) :
    ∃ name, event.event.body = .workspaceCreated name := by
  unfold CreatesWorkspace createsWorkspace at creates
  split at creates
  · exact ⟨_, by assumption⟩
  · cases creates

/-! ## Trust snapshots -/

structure TrustSnapshotRole where
  deviceId : DeviceId
  role : WorkspaceRole
  deriving DecidableEq

structure TrustSnapshotChannel where
  channelId : ChannelId
  isPrivate : Bool
  creatorDeviceId : DeviceId
  memberDeviceIds : List DeviceId
  deriving DecidableEq

structure TrustSnapshotMessage where
  messageId : MessageId
  channelId : ChannelId
  authorDeviceId : Option DeviceId
  deriving DecidableEq

structure TrustSnapshotEventChannel where
  eventId : EventId
  channelId : ChannelId
  deriving DecidableEq

structure TrustSnapshotPersonDeviceLink where
  personId : PersonId
  deviceId : DeviceId
  deriving DecidableEq

structure TrustSnapshot where
  schemaVersion : UInt32
  workspaceId : WorkspaceId
  rootEventId : EventId
  rootAuthorDeviceId : DeviceId
  roles : List TrustSnapshotRole
  channels : List TrustSnapshotChannel
  messages : List TrustSnapshotMessage
  eventChannels : List TrustSnapshotEventChannel
  personDeviceLinks : List TrustSnapshotPersonDeviceLink
  deriving DecidableEq

end Chaft
