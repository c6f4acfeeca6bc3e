import Chaft.Library.Hex
import Chaft.Runtime.KeyFiles

/-!
# Invite messages and their records

A joiner answers an invite with a claim, and the inviter answers the claim with a
response that carries the sealed workspace key.  The joiner keeps a receipt of its
claim, which names the device that may respond, and a marker until its profile is
written.  Receipts and markers are files that are named after a hash.
-/

namespace Chaft

open Outcome SlashPath

/-- `str::trim`. -/
def trimmed (value : String) : String :=
  String.ofList (Text.trim value.toList)

def workspaceInviteClaimKind : String := "chaft.workspace-invite-claim.v1"
def workspaceInviteResponseKind : String := "chaft.workspace-invite-response.v1"
def workspaceInviteClaimSchemaVersion : UInt32 := 1
def workspaceInviteResponseSchemaVersion : UInt32 := 1
def responseKeyContext : String := "Chaft workspace invite response key v1"
def responseIdentityKeyContext : String := "Chaft workspace invite response identity key v1"
def inviteClaimReceiptMaxBytes : Nat := 8 * 1024
def inviteProfileFinalizationKind : String := "chaft.workspace-invite-profile-finalization.v1"
def inviteProfileFinalizationSchemaVersion : UInt32 := 1
def inviteProfileFinalizationMaxBytes : Nat := 8 * 1024

/-! ## Messages -/

structure WorkspaceInviteClaimPayload where
  kind : String
  schemaVersion : UInt32
  requestId : String
  workspaceId : String
  workspaceName : String
  inviteId : String
  deviceId : String
  devicePublicKey : String
  responseEncryptionPublicKey : String
  displayName : String
  note : String
  deliveryDeviceId : String
  deliveryDisplayName : String
  deliveryPeerEndpoint : String
  responsePeerEndpoint : String
  sourceType : String
  sourceInviteId : String
  sourceDisplayName : String
  sourceApprovalPolicy : String
  createdAt : String
  deriving DecidableEq

structure WorkspaceInviteClaim where
  payload : WorkspaceInviteClaimPayload
  deviceSignature : String
  capabilitySignature : String
  deriving DecidableEq

structure WorkspaceInviteResponsePayload where
  kind : String
  schemaVersion : UInt32
  requestId : String
  workspaceId : String
  workspaceName : String
  inviteId : String
  inviteeDeviceId : String
  role : WorkspaceRole
  expiresAt : String
  responderDeviceId : String
  responderPublicKey : String
  senderEphemeralPublicKey : String
  sealedWorkspaceKey : SealedPayload
  peerEndpoint : String
  createdAt : String
  deriving DecidableEq

structure WorkspaceInviteResponse where
  payload : WorkspaceInviteResponsePayload
  responderSignature : String
  deriving DecidableEq

/-! ## Records -/

structure WorkspaceInviteClaimReceipt where
  workspaceId : String
  inviteId : String
  requestId : String
  expectedResponderDeviceId : String
  capabilityPublicKey : String
  displayName : String
  profilePending : Bool
  profileFinalized : Bool
  profileEventIds : List String
  deriving DecidableEq

structure PendingWorkspaceInviteProfileFinalization where
  kind : String
  schemaVersion : UInt32
  workspaceId : String
  inviteId : String
  requestId : String
  deriving DecidableEq

/-- What the invite messages take from libraries. -/
structure InviteLibraries extends KeyLibraries where
  /-- The key that BLAKE3 derives from some bytes in a context. -/
  deriveKey : String → List UInt8 → ContentKey
  /-- The X25519 secret that a secret and a public key share. -/
  diffieHellman : (secretKey publicKey : List UInt8) → List UInt8
  workspaceKeyExportFromSlice : List UInt8 → Option WorkspaceKeyExport
  responsePayloadToVec : WorkspaceInviteResponsePayload → Option (List UInt8)
  claimReceiptToVec : WorkspaceInviteClaimReceipt → Option (List UInt8)
  claimReceiptFromSlice : List UInt8 → Option WorkspaceInviteClaimReceipt
  finalizationToVec : PendingWorkspaceInviteProfileFinalization → Option (List UInt8)

/-- A file of the joiner, by the hash that names it. -/
inductive InviteRecord where
  | claimReceipt (fileId : String)
  | profileFinalization (fileId : String)
  deriving DecidableEq

def InviteRecord.path (dataDir : List Char) : InviteRecord → List Char
  | claimReceipt fileId => join (join dataDir "invite-claims".toList) (jsonFile fileId)
  | profileFinalization fileId =>
      join (join dataDir "invite-profile-finalization".toList) (jsonFile fileId)

def LocalRuntime.recordPlace (runtime : LocalRuntime) (record : InviteRecord) : Place :=
  resolve runtime.secrets.here (record.path runtime.dataDir)

section Verification

variable (primitives : Primitives)

def verifyDetachedSignature
    (verifyingKeyBytes bytes signatureBytes : List UInt8) : Except IdentityError Unit := do
  ensure (signatureBytes.length = 64) .invalidSignature
  ensure (primitives.isVerifyingKey verifyingKeyBytes = true) .invalidVerifyingKey
  ensure (primitives.verify verifyingKeyBytes bytes signatureBytes = true) .invalidSignature

def verifyDeviceDetachedSignature
    (deviceId : DeviceId) (verifyingKeyBytes bytes signatureBytes : List UInt8) :
    Except IdentityError Unit := do
  ensure (DeviceId.fromPublicKeyBytes primitives verifyingKeyBytes = deviceId) .deviceIdMismatch
  verifyDetachedSignature primitives verifyingKeyBytes bytes signatureBytes

end Verification

section Records

variable (libraries : InviteLibraries) (runtime : LocalRuntime)

/-- The hash of some texts with NUL bytes between. -/
def inviteFileId (texts : List String) : String :=
  libraries.primitives.blake3Hex (Utf8.encode (String.intercalate "\x00" texts).toList)

def workspaceInviteClaimReceiptPath (inviteId requestId : String) : InviteRecord :=
  .claimReceipt (inviteFileId libraries [inviteId, requestId])

def legacyWorkspaceInviteClaimReceiptPath (inviteId : String) : InviteRecord :=
  .claimReceipt (inviteFileId libraries [inviteId])

def workspaceInviteProfileFinalizationPath
    (workspaceId inviteId requestId : String) : InviteRecord :=
  .profileFinalization (inviteFileId libraries [workspaceId, inviteId, requestId])

namespace LocalRuntime

def readClaimReceipt
    (files : SecretFiles) (record : InviteRecord) : Except RuntimeError (Option (List UInt8)) :=
  readLocalMetadataFileWithLimit files (runtime.recordPlace record) inviteClaimReceiptMaxBytes
    "workspace invite claim receipt"

/-- The receipt of a claim and the record that holds it. -/
def workspaceInviteClaimReceiptStored
    (files : SecretFiles) (inviteId requestId : String) :
    Except RuntimeError (WorkspaceInviteClaimReceipt × InviteRecord) := do
  let receiptPath := workspaceInviteClaimReceiptPath libraries inviteId requestId
  let legacyPath := legacyWorkspaceInviteClaimReceiptPath libraries inviteId
  let found ← runtime.readClaimReceipt files receiptPath
  let (bytes, record) ←
    match found with
    | some bytes => .ok (bytes, receiptPath)
    | none => do
        let older ← runtime.readClaimReceipt files legacyPath
        let bytes ← okOr older .invalidWorkspaceInviteResponse
        .ok (bytes, legacyPath)
  let receipt ← okOr (libraries.claimReceiptFromSlice bytes) .invalidWorkspaceInviteResponse
  .ok (receipt, record)

/-- The write of a record with a limit. -/
def writeRecord
    (fault : WriteFault) (files : SecretFiles) (record : InviteRecord)
    (serialized : Option (List UInt8)) (maxBytes : Nat) (field : String) :
    Except RuntimeError Unit × SecretFiles :=
  match serialized with
  | none => (.error .serde, files)
  | some bytes =>
      if maxBytes < bytes.length + 1 then
        (.error (.metadataFieldTooLarge field (bytes.length + 1) maxBytes), files)
      else
        writeSecretFile fault files (runtime.recordPlace record) bytes

def removeLocalMarkerFile
    (fault : WriteFault) (files : SecretFiles) (record : InviteRecord) :
    Except RuntimeError Unit × SecretFiles :=
  match fault with
  | .none => (.ok (), Function.update files (runtime.recordPlace record) none)
  | _ => (.error (.io .other), files)

/-- The faults of the two writes are given. -/
def markWorkspaceInviteProfilePending
    (markerFault receiptFault : WriteFault) (files : SecretFiles)
    (workspaceId inviteId requestId : String) : Except RuntimeError Unit × SecretFiles :=
  match runtime.workspaceInviteClaimReceiptStored libraries files inviteId requestId with
  | .error raised => (.error raised, files)
  | .ok (receipt, receiptPath) =>
      if receipt.workspaceId ≠ workspaceId ∨ receipt.inviteId ≠ inviteId ∨
          receipt.requestId ≠ requestId then
        (.error .invalidWorkspaceInviteResponse, files)
      else
        let markerPath :=
          workspaceInviteProfileFinalizationPath libraries workspaceId inviteId requestId
        if receipt.profileFinalized = true then
          runtime.removeLocalMarkerFile markerFault files markerPath
        else
          let marker : PendingWorkspaceInviteProfileFinalization :=
            { kind := inviteProfileFinalizationKind
              schemaVersion := inviteProfileFinalizationSchemaVersion
              workspaceId := workspaceId
              inviteId := inviteId
              requestId := requestId }
          match runtime.writeRecord markerFault files markerPath
              (libraries.finalizationToVec marker) inviteProfileFinalizationMaxBytes
              "workspace invite profile finalization" with
          | (.error raised, files) => (.error raised, files)
          | (.ok (), files) =>
              runtime.writeRecord receiptFault files receiptPath
                (libraries.claimReceiptToVec { receipt with profilePending := true })
                inviteClaimReceiptMaxBytes "workspace invite claim receipt"

end LocalRuntime

end Records

end Chaft
