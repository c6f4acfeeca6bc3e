import Chaft.Runtime.InviteMessages

/-!
# Imports of key rings

Besides single exports, a device takes rings from the recovery bundle of a workspace
and from the response to an invite.  Every import writes the whole ring that it has
read over the stored one.
-/

namespace Chaft

open Outcome SlashPath

/-! ## Recovery bundles -/

def recoveryBundleSchemaVersion : UInt32 := 1
def recoveryBundleSaltLen : Nat := 16
def recoveryBundleKdfArgon2id : String := "argon2id"
def recoveryBundleKdfBlake3DeriveKey : String := "blake3-derive-key"
def recoveryBundleKdfContext : String := "Chaft workspace recovery bundle v1"
def recoveryBundleArgon2MemoryCostKib : UInt32 := 64 * 1024
def recoveryBundleArgon2TimeCost : UInt32 := 3
def recoveryBundleArgon2Parallelism : UInt32 := 1
def recoveryBundleKdfOutputLen : UInt32 := 32
def runtimePassphraseMaxBytes : Nat := 16 * 1024

structure WorkspaceRecoveryBundleKdf where
  name : String
  context : String
  salt : List UInt8
  memoryCostKib : UInt32
  timeCost : UInt32
  parallelism : UInt32
  outputLen : UInt32
  deriving DecidableEq

structure WorkspaceRecoveryBundle where
  schemaVersion : UInt32
  workspaceId : String
  exporterDeviceId : String
  kdf : WorkspaceRecoveryBundleKdf
  sealedPayload : SealedPayload
  deriving DecidableEq

structure WorkspaceRecoveryBundlePlaintext where
  schemaVersion : UInt32
  workspaceKey : WorkspaceKeyExport
  channelKeys : List ChannelKeyExport
  deriving DecidableEq

/-- What the imports take from libraries. -/
structure ImportLibraries extends InviteLibraries where
  blake3 : List UInt8 → List UInt8
  recoveryPlaintextFromSlice : List UInt8 → Option WorkspaceRecoveryBundlePlaintext

section Bundles

variable (libraries : ImportLibraries)

def validateRecoveryBundlePassphrase (passphrase : String) : Except RuntimeError Unit := do
  ensure (passphrase.utf8ByteSize ≤ runtimePassphraseMaxBytes)
    (.metadataFieldTooLarge "recovery bundle passphrase" passphrase.utf8ByteSize
      runtimePassphraseMaxBytes)
  ensure (Text.trim passphrase.toList ≠ []) .recoveryBundlePassphraseRequired

def deriveRecoveryBundleKeyArgon2id
    (passphrase : String) (kdf : WorkspaceRecoveryBundleKdf) : Except RuntimeError ContentKey := do
  ensure (kdf.context = recoveryBundleKdfContext ∧ kdf.salt.length = recoveryBundleSaltLen ∧
      kdf.memoryCostKib = recoveryBundleArgon2MemoryCostKib ∧
        kdf.timeCost = recoveryBundleArgon2TimeCost ∧
          kdf.parallelism = recoveryBundleArgon2Parallelism ∧
            kdf.outputLen = recoveryBundleKdfOutputLen)
    .unsupportedWorkspaceRecoveryBundle
  okOr (libraries.hashPasswordInto passphrase kdf.salt) .recoveryBundleKdf

def deriveRecoveryBundleKeyBlake3
    (passphrase : String) (kdf : WorkspaceRecoveryBundleKdf) : Except RuntimeError ContentKey := do
  ensure (kdf.context = recoveryBundleKdfContext ∧ kdf.salt.length = recoveryBundleSaltLen)
    .unsupportedWorkspaceRecoveryBundle
  .ok (libraries.deriveKey recoveryBundleKdfContext
    (kdf.salt ++ Utf8.encode passphrase.toList))

def deriveRecoveryBundleKey
    (passphrase : String) (kdf : WorkspaceRecoveryBundleKdf) : Except RuntimeError ContentKey := do
  validateRecoveryBundlePassphrase passphrase
  if kdf.name = recoveryBundleKdfArgon2id then
    deriveRecoveryBundleKeyArgon2id libraries passphrase kdf
  else if kdf.name = recoveryBundleKdfBlake3DeriveKey then
    deriveRecoveryBundleKeyBlake3 libraries passphrase kdf
  else
    .error .unsupportedWorkspaceRecoveryBundle

def recoveryBundleAad
    (workspaceId exporterDeviceId kdfName kdfContext : String) (salt : List UInt8) : List UInt8 :=
  Utf8.encode ("chaft:v1:workspace_recovery_bundle:" ++ workspaceId ++ ":" ++ exporterDeviceId ++
    ":" ++ recoveryBundleSchemaVersion.toNat.repr ++ ":" ++ kdfName ++ ":" ++ kdfContext).toList ++
    libraries.blake3 salt

/-- The rings of a bundle, the one of the workspace first. -/
def openWorkspaceRecoveryBundle
    (bundle : WorkspaceRecoveryBundle) (passphrase : String) :
    Except RuntimeError (List KeyRing) := do
  validateRecoveryBundlePassphrase passphrase
  ensure (bundle.schemaVersion = recoveryBundleSchemaVersion) .unsupportedWorkspaceRecoveryBundle
  let wrappingKey ← deriveRecoveryBundleKey libraries passphrase bundle.kdf
  ensure (bundle.sealedPayload.aad =
      recoveryBundleAad libraries bundle.workspaceId bundle.exporterDeviceId bundle.kdf.name
        bundle.kdf.context bundle.kdf.salt)
    .invalidWorkspaceRecoveryBundle
  let opened ←
    (openAes256GcmSiv libraries.aead wrappingKey bundle.sealedPayload).mapError .crypto
  let plaintext ← okOr (libraries.recoveryPlaintextFromSlice opened) .serde
  ensure (plaintext.schemaVersion = recoveryBundleSchemaVersion ∧
      plaintext.workspaceKey.val.scope.workspaceId.text = bundle.workspaceId ∧
        ∀ channelKey ∈ plaintext.channelKeys,
          channelKey.val.scope.workspaceId.text = bundle.workspaceId)
    .invalidWorkspaceRecoveryBundle
  let workspaceKey ← KeyRing.fromExport plaintext.workspaceKey.val
  let channelKeys ← plaintext.channelKeys.mapM fun channelKey => KeyRing.fromExport channelKey.val
  .ok (workspaceKey :: channelKeys)

end Bundles

section Importing

variable (libraries : ImportLibraries) (runtime : LocalRuntime)

namespace LocalRuntime

/-- Rings are saved in order until a write fails. -/
def saveKeys :
    (writes : Nat → SecretWrite) → SecretFiles → List KeyRing →
      Except RuntimeError Unit × SecretFiles
  | _, files, [] => (.ok (), files)
  | writes, files, ring :: rest =>
      match runtime.saveKey libraries.toKeyLibraries (writes 0) files ring with
      | (.error raised, files) => (.error raised, files)
      | (.ok (), files) => saveKeys (fun index => writes (index + 1)) files rest

/-- The result lists the rings.  The search index is renewed afterwards; that it fails
is ignored. -/
def importWorkspaceRecoveryBundle
    (writes : Nat → SecretWrite) (files : SecretFiles) (bundle : WorkspaceRecoveryBundle)
    (passphrase : String) : Except RuntimeError (List (KeyScope × String)) × SecretFiles :=
  match openWorkspaceRecoveryBundle libraries bundle passphrase with
  | .error raised => (.error raised, files)
  | .ok rings =>
      match runtime.saveKeys libraries writes files rings with
      | (.error raised, files) => (.error raised, files)
      | (.ok (), files) => (.ok (rings.map fun ring => (ring.scope, ring.keyId)), files)

end LocalRuntime

/-! ## Responses to invites -/

def responseContentKey (shared : List UInt8) : ContentKey :=
  libraries.deriveKey responseKeyContext shared

namespace LocalRuntime

def inviteResponseSecret : List UInt8 :=
  (libraries.deriveKey responseIdentityKeyContext runtime.signingKeyBytes).bytes

/-- The export that a response carries, when the response answers a claim of this
device. -/
def openWorkspaceInviteResponse
    (files : SecretFiles) (response : WorkspaceInviteResponse) :
    Except RuntimeError WorkspaceKeyExport := do
  let payload := response.payload
  ensure (payload.kind = workspaceInviteResponseKind ∧
      payload.schemaVersion = workspaceInviteResponseSchemaVersion ∧
        payload.inviteeDeviceId = (runtime.identity.deviceId libraries.primitives).text)
    .invalidWorkspaceInviteResponse
  let (receipt, _) ←
    runtime.workspaceInviteClaimReceiptStored libraries.toInviteLibraries files payload.inviteId
      payload.requestId
  ensure (receipt.workspaceId = payload.workspaceId ∧ receipt.inviteId = payload.inviteId ∧
      receipt.requestId = payload.requestId ∧
        receipt.expectedResponderDeviceId = payload.responderDeviceId)
    .invalidWorkspaceInviteResponse
  let responderPublicKey ←
    okOr (Hex.decode32 payload.responderPublicKey) .invalidWorkspaceInviteResponse
  let responseSignature ←
    okOr (Hex.decode response.responderSignature) .invalidWorkspaceInviteResponse
  let signingBytes ← okOr (libraries.responsePayloadToVec payload) .serde
  (verifyDeviceDetachedSignature libraries.primitives ⟨payload.responderDeviceId⟩
    responderPublicKey signingBytes responseSignature).mapError
      fun _ => .invalidWorkspaceInviteResponse
  let senderPublicKey ←
    okOr (Hex.decode32 payload.senderEphemeralPublicKey) .invalidWorkspaceInviteResponse
  let shared := libraries.diffieHellman (runtime.inviteResponseSecret libraries) senderPublicKey
  let workspaceKeyBytes ←
    (openAes256GcmSiv libraries.aead (responseContentKey libraries shared)
      payload.sealedWorkspaceKey).mapError fun _ => .invalidWorkspaceInviteResponse
  let workspaceKey ←
    okOr (libraries.workspaceKeyExportFromSlice workspaceKeyBytes) .invalidWorkspaceInviteResponse
  ensure (workspaceKey.val.scope.workspaceId.text = payload.workspaceId)
    .invalidWorkspaceInviteResponse
  .ok workspaceKey

end LocalRuntime

/-- What the finalization of the profile does: it rewrites or removes records, appends
events and may fail. -/
structure ProfileFinalization where
  records : List (InviteRecord × Option (List UInt8))
  store : EventStore
  outcome : Except RuntimeError Unit

/-- The random bytes and faults of an import of a response. -/
structure ResponseWrites where
  marker : WriteFault
  receipt : WriteFault
  key : SecretWrite

structure ImportedWorkspaceInviteResponse where
  workspaceId : WorkspaceId
  inviteId : String
  requestId : String
  importerDeviceId : DeviceId
  keyId : String
  deriving DecidableEq

namespace LocalRuntime

def writeRecords
    (files : SecretFiles) (records : List (InviteRecord × Option (List UInt8))) : SecretFiles :=
  records.foldl (fun files entry => Function.update files (runtime.recordPlace entry.1) entry.2)
    files

/-- The marker is written before the key, so that a crash in between loses no work.
What the finalization does is given. -/
def importWorkspaceInviteResponse
    (writes : ResponseWrites) (finalization : ProfileFinalization) (state : RuntimeState)
    (response : WorkspaceInviteResponse) :
    Except RuntimeError ImportedWorkspaceInviteResponse × RuntimeState :=
  let payload := response.payload
  match runtime.openWorkspaceInviteResponse libraries state.files response with
  | .error raised => (.error raised, state)
  | .ok workspaceKey =>
      match runtime.markWorkspaceInviteProfilePending libraries.toInviteLibraries writes.marker
          writes.receipt state.files payload.workspaceId payload.inviteId payload.requestId with
      | (.error raised, files) => (.error raised, { state with files := files })
      | (.ok (), files) =>
          match runtime.importWorkspaceKey libraries.toKeyLibraries writes.key files
              workspaceKey with
          | (.error raised, files) => (.error raised, { state with files := files })
          | (.ok imported, files) =>
              let finalized : RuntimeState :=
                { files := runtime.writeRecords files finalization.records
                  store := finalization.store }
              match finalization.outcome with
              | .error raised => (.error raised, finalized)
              | .ok () =>
                  (.ok
                    { workspaceId := imported.scope.workspaceId
                      inviteId := payload.inviteId
                      requestId := payload.requestId
                      importerDeviceId := imported.importerDeviceId
                      keyId := imported.keyId }, finalized)

end LocalRuntime

end Importing

/-! ## Operations on key files -/

/-- A call that writes key files, with what it draws. -/
inductive KeyOperation where
  | rotateWorkspaceKey (draw : RotationDraw) (workspaceId : WorkspaceId)
  | rotateChannelKey (draw : RotationDraw) (workspaceId : WorkspaceId) (channelId : ChannelId)
  | importWorkspaceKey (write : SecretWrite) (exported : WorkspaceKeyExport)
  | importChannelKey (write : SecretWrite) (exported : ChannelKeyExport)
  | importWorkspaceRecoveryBundle
      (writes : Nat → SecretWrite) (bundle : WorkspaceRecoveryBundle) (passphrase : String)
  | importWorkspaceInviteResponse
      (writes : ResponseWrites) (finalization : ProfileFinalization)
      (response : WorkspaceInviteResponse)

/-- The state after a call, whether it succeeds or fails. -/
def KeyOperation.perform
    (libraries : ImportLibraries) (runtime : LocalRuntime) (state : RuntimeState) :
    KeyOperation → RuntimeState
  | rotateWorkspaceKey draw workspaceId =>
      (runtime.rotateWorkspaceKey libraries.toKeyLibraries draw state workspaceId).2
  | rotateChannelKey draw workspaceId channelId =>
      (runtime.rotateChannelKey libraries.toKeyLibraries draw state workspaceId channelId).2
  | importWorkspaceKey write exported =>
      { state with
        files :=
          (runtime.importWorkspaceKey libraries.toKeyLibraries write state.files exported).2 }
  | importChannelKey write exported =>
      { state with
        files :=
          (runtime.importChannelKey libraries.toKeyLibraries write state.files exported).2 }
  | importWorkspaceRecoveryBundle writes bundle passphrase =>
      { state with
        files :=
          (runtime.importWorkspaceRecoveryBundle libraries writes state.files bundle
            passphrase).2 }
  | importWorkspaceInviteResponse writes finalization response =>
      (runtime.importWorkspaceInviteResponse libraries writes finalization state response).2

end Chaft
