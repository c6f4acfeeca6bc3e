/-!
# Wire messages

The records that devices exchange, as the protobuf layer reads and writes them.
An enumeration travels as a signed number and a record of a choice as an optional
one, so that a message can hold values that no event has.
-/

namespace Chaft

/-! ## Events -/

/-- The workspace scope has no fields. -/
inductive WireContentKeyScopeKind where
  | workspace
  | channelId (channelId : String)

structure WireContentKeyScope where
  kind : Option WireContentKeyScopeKind

structure WireEncryptedBlobRef where
  mode : Int32
  keyId : String
  nonce : List UInt8
  aad : List UInt8
  plaintextByteLen : UInt64

structure WireSealedPayload where
  mode : Int32
  keyId : String
  nonce : List UInt8
  aad : List UInt8
  bytes : List UInt8

structure WireAttachmentRef where
  blobHash : String
  mediaType : String
  byteLen : UInt64
  displayName : String
  encryption : Option WireEncryptedBlobRef
  attachmentId : String

structure WireWorkspaceCreated where
  name : String

structure WireMemberInvited where
  inviteeDeviceId : String
  role : Int32

structure WireMemberRoleUpdated where
  memberDeviceId : String
  role : Int32

structure WireWorkspaceAccessPolicyUpdated where
  policy : Int32

structure WireWorkspaceJoinRequestRecorded where
  requestId : String
  requesterDeviceId : String
  displayName : String
  note : String
  sourceType : String
  sourceInviteId : String
  sourceDisplayName : String
  sourceApprovalPolicy : String
  responsePeerEndpoint : String

structure WireWorkspaceInviteRecorded where
  inviteId : String
  inviteeDeviceId : String
  displayName : String
  role : Int32
  requestId : Option String
  expiresAt : String
  approvalPolicy : String
  syncExpectation : String

structure WireWorkspaceInviteResolved where
  inviteId : String
  resolution : Int32

structure WireWorkspaceInviteCapabilityCreated where
  inviteId : String
  displayName : String
  role : Int32
  expiresAt : String
  capabilityPublicKey : String
  syncExpectation : String
  maxClaims : Option UInt32

structure WireWorkspaceInviteClaimed where
  inviteId : String
  inviteeDeviceId : String
  requestId : String

structure WireWorkspaceJoinRequestResolved where
  requestId : String
  resolution : Int32

structure WireMemberRemoved where
  removedDeviceId : String

structure WireChannelCreated where
  channelId : String
  name : String
  isPrivate : Bool

structure WireDirectMessageChannelCreated where
  channelId : String
  name : String
  participantDeviceIds : List String

structure WireChannelDetailsUpdated where
  channelId : String
  name : Option String
  topic : Option String
  archived : Option Bool

structure WireChannelMemberChanged where
  channelId : String
  memberDeviceId : String

structure WireDeviceProfileUpdated where
  displayName : String
  avatarId : String

structure WirePersonDeviceLinked where
  personId : String
  deviceId : String

structure WirePersonProfileUpdated where
  personId : String
  displayName : String
  avatarId : String

structure WireDeviceKeyPackagePublished where
  keyPackageId : String
  protocol : String
  keyPackage : List UInt8

structure WirePeerEndpointPublished where
  endpointId : String
  endpoint : String
  transport : String
  isBackupPeer : Bool
  expiresAtMs : Option Int64
  replicaStorageClass : Option String
  replicaRetentionHint : Option String

structure WireOpenMlsWorkspaceGroupMemberAdded where
  inviteeDeviceId : String
  inviteeKeyPackageId : String
  inviteeKeyPackageRef : String
  protocol : String
  ciphersuite : String
  groupId : String
  epoch : UInt64
  commit : List UInt8
  welcome : List UInt8
  ratchetTree : List UInt8

structure WireOpenMlsWorkspaceGroupMemberRemoved where
  removedDeviceId : String
  protocol : String
  ciphersuite : String
  groupId : String
  epoch : UInt64
  commit : List UInt8
  ratchetTree : List UInt8

structure WireOpenMlsChannelGroupMemberAdded where
  channelId : String
  inviteeDeviceId : String
  inviteeKeyPackageId : String
  inviteeKeyPackageRef : String
  protocol : String
  ciphersuite : String
  groupId : String
  epoch : UInt64
  commit : List UInt8
  welcome : List UInt8
  ratchetTree : List UInt8

structure WireOpenMlsChannelGroupMemberRemoved where
  channelId : String
  removedDeviceId : String
  protocol : String
  ciphersuite : String
  groupId : String
  epoch : UInt64
  commit : List UInt8
  ratchetTree : List UInt8

structure WireOpenMlsWorkspaceGroupSelfUpdated where
  protocol : String
  ciphersuite : String
  groupId : String
  epoch : UInt64
  commit : List UInt8
  ratchetTree : List UInt8

structure WireOpenMlsChannelGroupSelfUpdated where
  channelId : String
  protocol : String
  ciphersuite : String
  groupId : String
  epoch : UInt64
  commit : List UInt8
  ratchetTree : List UInt8

structure WireContentKeyEpochPublished where
  scope : Option WireContentKeyScope
  epoch : UInt64
  keyId : String
  previousKeyId : Option String
  algorithm : String

structure WireMessageCreated where
  messageId : String
  markdown : String
  attachments : List WireAttachmentRef

structure WireMessageReplyCreated where
  messageId : String
  replyToMessageId : String
  markdown : String
  attachments : List WireAttachmentRef

structure WireMessageCreatedEncrypted where
  messageId : String
  sealedMarkdown : Option WireSealedPayload
  attachments : List WireAttachmentRef

structure WireMessageReplyCreatedEncrypted where
  messageId : String
  replyToMessageId : String
  sealedMarkdown : Option WireSealedPayload
  attachments : List WireAttachmentRef

structure WireMessageEdited where
  messageId : String
  markdown : String

structure WireMessageEditedEncrypted where
  messageId : String
  sealedMarkdown : Option WireSealedPayload

structure WireMessageDeleted where
  messageId : String

structure WireReactionAdded where
  messageId : String
  reaction : String

structure WireReactionRemoved where
  messageId : String
  reaction : String

structure WireReadMarkerUpdated where
  channelId : String
  eventId : String

inductive WireEventBodyKind where
  | workspaceCreated (body : WireWorkspaceCreated)
  | memberInvited (body : WireMemberInvited)
  | memberRemoved (body : WireMemberRemoved)
  | channelCreated (body : WireChannelCreated)
  | channelMemberAdded (body : WireChannelMemberChanged)
  | channelMemberRemoved (body : WireChannelMemberChanged)
  | deviceProfileUpdated (body : WireDeviceProfileUpdated)
  | deviceKeyPackagePublished (body : WireDeviceKeyPackagePublished)
  | openMlsWorkspaceGroupMemberAdded (body : WireOpenMlsWorkspaceGroupMemberAdded)
  | openMlsWorkspaceGroupMemberRemoved (body : WireOpenMlsWorkspaceGroupMemberRemoved)
  | openMlsChannelGroupMemberAdded (body : WireOpenMlsChannelGroupMemberAdded)
  | openMlsChannelGroupMemberRemoved (body : WireOpenMlsChannelGroupMemberRemoved)
  | openMlsWorkspaceGroupSelfUpdated (body : WireOpenMlsWorkspaceGroupSelfUpdated)
  | openMlsChannelGroupSelfUpdated (body : WireOpenMlsChannelGroupSelfUpdated)
  | contentKeyEpochPublished (body : WireContentKeyEpochPublished)
  | messageCreated (body : WireMessageCreated)
  | messageCreatedEncrypted (body : WireMessageCreatedEncrypted)
  | messageEdited (body : WireMessageEdited)
  | messageEditedEncrypted (body : WireMessageEditedEncrypted)
  | messageDeleted (body : WireMessageDeleted)
  | reactionAdded (body : WireReactionAdded)
  | readMarkerUpdated (body : WireReadMarkerUpdated)
  | messageReplyCreated (body : WireMessageReplyCreated)
  | messageReplyCreatedEncrypted (body : WireMessageReplyCreatedEncrypted)
  | reactionRemoved (body : WireReactionRemoved)
  | peerEndpointPublished (body : WirePeerEndpointPublished)
  | directMessageChannelCreated (body : WireDirectMessageChannelCreated)
  | channelDetailsUpdated (body : WireChannelDetailsUpdated)
  | memberRoleUpdated (body : WireMemberRoleUpdated)
  | workspaceJoinRequestRecorded (body : WireWorkspaceJoinRequestRecorded)
  | workspaceJoinRequestResolved (body : WireWorkspaceJoinRequestResolved)
  | workspaceInviteRecorded (body : WireWorkspaceInviteRecorded)
  | workspaceInviteResolved (body : WireWorkspaceInviteResolved)
  | workspaceAccessPolicyUpdated (body : WireWorkspaceAccessPolicyUpdated)
  | personDeviceLinked (body : WirePersonDeviceLinked)
  | personProfileUpdated (body : WirePersonProfileUpdated)
  | workspaceInviteCapabilityCreated (body : WireWorkspaceInviteCapabilityCreated)
  | workspaceInviteClaimed (body : WireWorkspaceInviteClaimed)

structure WireEventBody where
  kind : Option WireEventBodyKind

structure WireEventEnvelope where
  eventId : String
  workspaceId : String
  channelId : Option String
  authorDeviceId : String
  physicalMs : Int64
  logical : UInt32
  parentIds : List (List UInt8)
  bodyJson : List UInt8
  signature : List UInt8
  authorPublicKey : List UInt8
  body : Option WireEventBody

/-! ## Trust snapshots -/

structure WireTrustSnapshotRole where
  deviceId : String
  role : Int32

structure WireTrustSnapshotChannel where
  channelId : String
  isPrivate : Bool
  creatorDeviceId : String
  memberDeviceIds : List String

structure WireTrustSnapshotMessage where
  messageId : String
  channelId : String
  authorDeviceId : Option String

structure WireTrustSnapshotEventChannel where
  eventId : String
  channelId : String

structure WireTrustSnapshotPersonDeviceLink where
  personId : String
  deviceId : String

structure WireTrustSnapshot where
  schemaVersion : UInt32
  workspaceId : String
  rootEventId : String
  rootAuthorDeviceId : String
  roles : List WireTrustSnapshotRole
  channels : List WireTrustSnapshotChannel
  messages : List WireTrustSnapshotMessage
  eventChannels : List WireTrustSnapshotEventChannel
  personDeviceLinks : List WireTrustSnapshotPersonDeviceLink

structure WireSignedTrustSnapshot where
  snapshot : Option WireTrustSnapshot
  rootEvent : Option WireEventEnvelope
  authorPublicKey : List UInt8
  signature : List UInt8

/-! ## Blobs -/

structure WireBlobEnvelope where
  hash : String
  bytes : List UInt8

structure WireBlobDescriptor where
  hash : String
  byteLen : UInt64
  chunkSize : UInt64
  chunkHashes : List String

structure WireBlobAvailability where
  hash : String
  hasWholeBlob : Bool
  descriptor : Option WireBlobDescriptor
  availableChunkHashes : List String
  missingChunkHashes : List String

/-! ## Requests and responses -/

structure WireSyncRequest where
  kind : Int32
  eventIds : List String
  events : List (List UInt8)
  authorizationEvents : List (List UInt8)
  authorizationSnapshots : List (List UInt8)
  blobHashes : List String
  blobs : List WireBlobEnvelope
  blobDescriptors : List WireBlobDescriptor
  workspaceId : Option String
  eventEnvelopes : List WireEventEnvelope
  authorizationEventEnvelopes : List WireEventEnvelope
  authorizationSnapshotEnvelopes : List WireSignedTrustSnapshot
  inventoryStartIndex : Option UInt64
  inventoryLimit : Option UInt64

structure WireSyncResponse where
  eventIds : List String
  events : List (List UInt8)
  error : Option String
  blobs : List WireBlobEnvelope
  blobDescriptors : List WireBlobDescriptor
  blobAvailability : List WireBlobAvailability
  eventEnvelopes : List WireEventEnvelope
  inventoryTotalCount : Option UInt64

end Chaft
