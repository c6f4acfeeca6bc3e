import Chaft.Core.Validation
import Chaft.Security.ContentKeys
import Chaft.Storage.BlobDescriptor
import Chaft.Storage.EventStore

/-!
# Errors and references of the runtime

The runtime checks the identifiers that it is given before it uses them.
-/

namespace Chaft

open Outcome

inductive IoErrorKind where
  | notFound
  | other
  deriving DecidableEq, Repr

/-- The errors of the runtime, as far as the modelled operations raise them. -/
inductive RuntimeError where
  | io (kind : IoErrorKind)
  | store (error : StoreError)
  | crypto (error : CryptoError)
  | serde
  | core (error : CoreError)
  | authorization (error : AuthorizationError)
  | workspaceHasNoEvents (workspaceId : WorkspaceId)
  | metadataFieldTooLarge (field : String) (actualBytes maxBytes : Nat)
  | invalidWorkspaceKey
  | unsupportedWorkspaceKeyExport
  | channelKeyMissing (workspaceId : WorkspaceId) (channelId : ChannelId)
  | invalidChannelKey
  | unsupportedChannelKeyExport
  | unsupportedLocalSecretFile
  | invalidLocalSecretFile
  | localSecretPassphraseRequired
  | localSecretKdf
  | recoveryBundlePassphraseRequired
  | recoveryBundleKdf
  | unsupportedWorkspaceRecoveryBundle
  | invalidWorkspaceRecoveryBundle
  | workspaceInviteNotFound (inviteId : String)
  | workspaceInviteNotClaimable (inviteId : String)
  | workspaceInviteExpired (inviteId : String)
  | workspaceInviteAlreadyClaimed (inviteId : String)
  | invalidWorkspaceInviteClaim
  | invalidWorkspaceInviteResponse
  | displayNameRequired
  | media (error : MediaError)
  | mls
  | channelNotFound (workspaceId : WorkspaceId) (channelId : ChannelId)
  | channelAccessDenied (workspaceId : WorkspaceId) (channelId : ChannelId)
      (deviceId : DeviceId)
  | messageNotFound (workspaceId : WorkspaceId) (messageId : MessageId)
  | searchQueryTooLarge (actualBytes maxBytes : Nat)
  | peerEndpointRequired
  | unsupportedPeerEndpoint
  | openMlsWorkspaceGroupMissing (workspaceId : WorkspaceId)
  | openMlsChannelGroupAlreadyExists (workspaceId : WorkspaceId) (channelId : ChannelId)
  | openMlsChannelGroupMissing (workspaceId : WorkspaceId) (channelId : ChannelId)
  | openMlsChannelGroupCreatorRequired (workspaceId : WorkspaceId) (channelId : ChannelId)
  | deviceKeyPackageNotFound (workspaceId : WorkspaceId) (keyPackageId : DeviceKeyPackageId)
  | openMlsKeyPackageProtocolMismatch (workspaceId : WorkspaceId)
      (keyPackageId : DeviceKeyPackageId) (actualProtocol : String)
  | openMlsKeyPackagePublisherMismatch (publisherDeviceId : DeviceId) (packageIdentity : String)
  | openMlsKeyPackageValidationMismatch (keyPackageId : DeviceKeyPackageId)
  deriving DecidableEq

def validateIdentifierSize (result : Except IdValidationError Unit) : Except RuntimeError Unit :=
  result.mapError fun error =>
    .metadataFieldTooLarge error.field error.actualBytes error.maxBytes

def validateWorkspaceIdReference (workspaceId : WorkspaceId) : Except RuntimeError Unit :=
  validateIdentifierSize (validateIdBytes "workspace ID" workspaceId.text workspaceIdMaxBytes)

def validateMetadataFieldSize
    (field value : String) (maxBytes : Nat) : Except RuntimeError Unit :=
  ensure (value.utf8ByteSize ≤ maxBytes)
    (.metadataFieldTooLarge field value.utf8ByteSize maxBytes)

def validateDeviceIdReference (deviceId : DeviceId) : Except RuntimeError Unit :=
  validateMetadataFieldSize "device ID" deviceId.text deviceIdMaxBytes

def validateChannelIdReference (channelId : ChannelId) : Except RuntimeError Unit :=
  validateIdentifierSize (validateIdBytes "channel ID" channelId.text channelIdMaxBytes)

def validateMessageIdReference (messageId : MessageId) : Except RuntimeError Unit :=
  validateIdentifierSize (validateIdBytes "message ID" messageId.text messageIdMaxBytes)

def validateDeviceKeyPackageIdReference (keyPackageId : DeviceKeyPackageId) :
    Except RuntimeError Unit :=
  validateIdentifierSize
    (validateIdBytes "device key package ID" keyPackageId.text deviceKeyPackageIdMaxBytes)

end Chaft
