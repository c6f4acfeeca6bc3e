import Chaft.Domain.Event

/-!
# Errors of the domain core

`AuthorizationError` is what the access index answers when it refuses an
event, with the data each refusal carries.  `CoreError` adds the refusals of
materialization.
-/

namespace Chaft

inductive AuthorizationError where
  | wrongWorkspace
  | missingWorkspaceRoot
  | workspaceAlreadyCreated
  | missingChannelContext
  | channelNotFound (channelId : ChannelId)
  | channelAlreadyCreated (channelId : ChannelId)
  | privateChannelAccessDenied (channelId : ChannelId) (deviceId : DeviceId)
  | channelMemberGrantDenied (channelId : ChannelId) (deviceId : DeviceId)
  | workspaceOpenMlsCommitterDenied (deviceId creatorDeviceId : DeviceId)
  | channelOpenMlsCommitterDenied (channelId : ChannelId)
      (deviceId creatorDeviceId : DeviceId)
  | messageNotFound (messageId : MessageId)
  | messageMutationDenied (messageId : MessageId) (deviceId authorDeviceId : DeviceId)
  | messageAuthorUnknown (messageId : MessageId)
  | channelMismatch (expected actual : ChannelId)
  | readMarkerTargetNotFound (eventId : EventId)
  | joinRequestNotFound (requestId : String)
  | inviteNotFound (inviteId : String)
  | inviteRevoked (inviteId : String)
  | inviteExhausted (inviteId : String)
  | notAMember (deviceId : DeviceId)
  | personProfileUpdateDenied (personId : PersonId) (deviceId : DeviceId)
  | personDeviceLinkDenied (deviceId linkedDeviceId : DeviceId)
  | personDeviceAlreadyLinked (deviceId : DeviceId)
      (existingPersonId requestedPersonId : PersonId)
  | personAlreadyLinked (personId : PersonId)
      (existingDeviceId requestedDeviceId : DeviceId)
  | workspaceRootCannotBeRemoved (deviceId : DeviceId)
  | workspaceRootRoleCannotBeChanged (deviceId : DeviceId)
  | insufficientRole (role : WorkspaceRole) (action : String)
  | invalidTrustSnapshot
  | eventPayloadTooLarge (label : String) (actualBytes maxBytes : Nat)
  | eventPayloadRequired (label : String)
  | invalidAvatarId
  | unsupportedPeerEndpoint
  | peerEndpointTransportMismatch
  | replicaCapabilityRequiresBackupPeer
  | eventItemCountTooLarge (label : String) (actualCount maxCount : Nat)
  deriving DecidableEq, Repr

inductive CoreError where
  | wrongWorkspace
  | missingChannel
  | authorization (error : AuthorizationError)
  | missingParents (eventId : EventId) (missingParentIds : List EventId)
  deriving DecidableEq, Repr

/-! ## Texts -/

def WorkspaceRole.debug : WorkspaceRole → String
  | owner => "Owner"
  | admin => "Admin"
  | member => "Member"
  | guest => "Guest"

/-- The text in which a refusal is shown to peers, given how texts are quoted. -/
def AuthorizationError.message (debugText : String → String) : AuthorizationError → String
  | .wrongWorkspace => "event belongs to another workspace"
  | .missingWorkspaceRoot => "workspace has no trusted root event"
  | .workspaceAlreadyCreated => "workspace root already exists"
  | .missingChannelContext => "event is missing a channel context"
  | .channelNotFound channelId =>
      "channel " ++ channelId.debug debugText ++ " is not authorized by workspace history"
  | .channelAlreadyCreated channelId =>
      "channel " ++ channelId.debug debugText ++ " is already defined by workspace history"
  | .privateChannelAccessDenied channelId deviceId =>
      "device " ++ deviceId.debug debugText ++ " is not authorized for private channel " ++
        channelId.debug debugText
  | .channelMemberGrantDenied channelId deviceId =>
      "device " ++ deviceId.debug debugText ++ " cannot add members to channel " ++
        channelId.debug debugText
  | .workspaceOpenMlsCommitterDenied deviceId creatorDeviceId =>
      "device " ++ deviceId.debug debugText ++ " is not the workspace OpenMLS committer " ++
        creatorDeviceId.debug debugText
  | .channelOpenMlsCommitterDenied channelId deviceId creatorDeviceId =>
      "device " ++ deviceId.debug debugText ++ " is not the OpenMLS committer " ++
        creatorDeviceId.debug debugText ++ " for channel " ++ channelId.debug debugText
  | .messageNotFound messageId =>
      "message " ++ messageId.debug debugText ++ " is not authorized by workspace history"
  | .messageMutationDenied messageId deviceId authorDeviceId =>
      "device " ++ deviceId.debug debugText ++ " cannot modify message " ++
        messageId.debug debugText ++ " authored by " ++ authorDeviceId.debug debugText
  | .messageAuthorUnknown messageId =>
      "message " ++ messageId.debug debugText ++ " has no trusted author metadata"
  | .channelMismatch expected actual =>
      "event channel " ++ actual.debug debugText ++ " does not match expected channel " ++
        expected.debug debugText
  | .readMarkerTargetNotFound eventId =>
      "read marker target event " ++ eventId.debug debugText ++
        " is not authorized by workspace history"
  | .joinRequestNotFound requestId =>
      "join request " ++ debugText requestId ++ " is not authorized by workspace history"
  | .inviteNotFound inviteId =>
      "invite " ++ debugText inviteId ++ " is not authorized by workspace history"
  | .inviteRevoked inviteId => "invite " ++ debugText inviteId ++ " has been revoked"
  | .inviteExhausted inviteId => "invite " ++ debugText inviteId ++ " has no claims remaining"
  | .notAMember deviceId =>
      "device " ++ deviceId.debug debugText ++ " is not a workspace member"
  | .personProfileUpdateDenied personId deviceId =>
      "device " ++ deviceId.debug debugText ++ " cannot edit person profile " ++
        personId.debug debugText
  | .personDeviceLinkDenied deviceId linkedDeviceId =>
      "device " ++ deviceId.debug debugText ++ " cannot link device " ++
        linkedDeviceId.debug debugText ++ " to a person"
  | .personDeviceAlreadyLinked deviceId existingPersonId requestedPersonId =>
      "device " ++ deviceId.debug debugText ++ " is already linked to person " ++
        existingPersonId.debug debugText ++ ", not " ++ requestedPersonId.debug debugText
  | .personAlreadyLinked personId existingDeviceId requestedDeviceId =>
      "person " ++ personId.debug debugText ++ " is already linked to device " ++
        existingDeviceId.debug debugText ++ ", not " ++ requestedDeviceId.debug debugText
  | .workspaceRootCannotBeRemoved deviceId =>
      "workspace root device " ++ deviceId.debug debugText ++ " cannot be removed"
  | .workspaceRootRoleCannotBeChanged deviceId =>
      "workspace root device " ++ deviceId.debug debugText ++ " must remain an owner"
  | .insufficientRole role action => "role " ++ role.debug ++ " cannot perform " ++ action
  | .invalidTrustSnapshot => "trust snapshot is invalid for this authorization check"
  | .eventPayloadTooLarge label actualBytes maxBytes =>
      "event " ++ label ++ " is too large (" ++ actualBytes.repr ++ " bytes, max " ++
        maxBytes.repr ++ ")"
  | .eventPayloadRequired label => "event " ++ label ++ " is required"
  | .invalidAvatarId => "event avatar ID is invalid"
  | .unsupportedPeerEndpoint => "event peer endpoint uses an unsupported P2P route"
  | .peerEndpointTransportMismatch =>
      "event peer endpoint transport does not match its route"
  | .replicaCapabilityRequiresBackupPeer =>
      "event replica capability metadata requires a backup peer endpoint"
  | .eventItemCountTooLarge label actualCount maxCount =>
      "event " ++ label ++ " has too many items (" ++ actualCount.repr ++ ", max " ++
        maxCount.repr ++ ")"

end Chaft
