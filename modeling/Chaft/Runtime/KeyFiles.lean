import Chaft.Runtime.KeyRings
import Chaft.Runtime.LocalSecrets
import Chaft.Runtime.SecretPaths
import Chaft.Runtime.WriteContext

/-!
# Files of key rings

Each ring has one secret file, which holds the whole ring.  Saving a ring replaces the
file; a rotation loads the ring, saves the rotated one and then appends its event.

A runtime has a directory of secrets and an identity; the files and the event store
are its state.
-/

namespace Chaft

open Outcome SlashPath

/-- What the key files take from libraries. -/
structure KeyLibraries extends SecretLibraries where
  primitives : Primitives
  eventJson : EventJson
  keyToVecPretty : PersistedKey → Option (List UInt8)
  /-- The reader of channel keys or of workspace keys. -/
  keyFromSlice :
    (isChannel : Bool) → List UInt8 →
      Option { record : PersistedKey // record.scope.isChannel = isChannel }

structure LocalRuntime where
  dataDir : List Char
  secrets : LocalSecretStore
  identity : DeviceIdentity
  signingKeyBytes : List UInt8

structure RuntimeState where
  files : SecretFiles
  store : EventStore

/-- How the write of one secret goes: its random bytes and how far it comes. -/
structure SecretWrite where
  entropy : SecretEntropy
  fault : WriteFault

namespace KeyScope

def secretFile : KeyScope → SecretFile
  | workspace workspaceId => .workspaceKey workspaceId
  | channel workspaceId channelId => .channelKey workspaceId channelId

def secretKind : KeyScope → String
  | workspace _ => localSecretKindWorkspaceKey
  | channel .. => localSecretKindChannelKey

/-- The error of a rotation without a ring. -/
def missingForRotation : KeyScope → RuntimeError
  | workspace _ => .invalidWorkspaceKey
  | channel workspaceId channelId => .channelKeyMissing workspaceId channelId

def contentKeyScope : KeyScope → ContentKeyScope
  | workspace _ => .workspace
  | channel _ channelId => .channel channelId

end KeyScope

def contentKeyAlgorithmAes256GcmSiv : String := "aes-256-gcm-siv"

section Loading

variable (libraries : KeyLibraries)

def KeyRing.fromBytes (isChannel : Bool) (bytes : List UInt8) : Except RuntimeError KeyRing := do
  let record ← okOr (libraries.keyFromSlice isChannel bytes) .serde
  KeyRing.fromPersisted record.val

variable (runtime : LocalRuntime)

/-- The path of a key file. -/
def LocalRuntime.keyPath (scope : KeyScope) : List Char :=
  scope.secretFile.path runtime.secrets.workspaceKeysDir

/-- The place of a key file. -/
def LocalRuntime.keyPlace (scope : KeyScope) : Place :=
  resolve runtime.secrets.here (runtime.keyPath scope)

/-- `load_workspace_key` and `load_channel_key`. -/
def LocalRuntime.loadKey
    (files : SecretFiles) (scope : KeyScope) : Except RuntimeError (Option KeyRing) :=
  match runtime.secrets.readLocalSecretFile libraries.toSecretLibraries files
      (runtime.keyPath scope) scope.secretKind with
  | .ok bytes => (KeyRing.fromBytes libraries scope.isChannel bytes).map some
  | .error (.io .notFound) => .ok none
  | .error raised => .error raised

/-- `write_key_file`, which `save_workspace_key` and `save_channel_key` call. -/
def LocalRuntime.saveKey
    (write : SecretWrite) (files : SecretFiles) (ring : KeyRing) :
    Except RuntimeError Unit × SecretFiles :=
  match libraries.keyToVecPretty ring.persisted with
  | none => (.error .serde, files)
  | some bytes =>
      runtime.secrets.writeLocalSecretFile libraries.toSecretLibraries write.entropy write.fault
        files (runtime.keyPath ring.scope) ring.scope.secretKind bytes

/-- `export_workspace_key` and `export_channel_key`. -/
def LocalRuntime.exportKey
    (files : SecretFiles) (scope : KeyScope) : Except RuntimeError ContentKeyExport := do
  let found ← runtime.loadKey libraries files scope
  let ring ← okOr found scope.invalidKey
  .ok (ring.exported (runtime.identity.deviceId libraries.primitives).text)

def LocalRuntime.exportWorkspaceKey
    (files : SecretFiles) (workspaceId : WorkspaceId) : Except RuntimeError ContentKeyExport :=
  runtime.exportKey libraries files (.workspace workspaceId)

def LocalRuntime.exportChannelKey
    (files : SecretFiles) (workspaceId : WorkspaceId) (channelId : ChannelId) :
    Except RuntimeError ContentKeyExport :=
  runtime.exportKey libraries files (.channel workspaceId channelId)

/-! ## Rotations -/

/-- What a rotation draws: the clock and the new key. -/
structure RotationDraw where
  timestamp : HybridTimestamp
  generated : ContentKey
  write : SecretWrite

/-- The event that announces a rotated ring. -/
def KeyRing.epochPublished
    (scope : KeyScope) (ring : KeyRing) (previousKeyId : String) (author : DeviceId)
    (timestamp : HybridTimestamp) (parents : List EventId) : SignableEvent where
  schemaVersion := 1
  workspaceId := scope.workspaceId
  channelId := scope.channelId
  authorDeviceId := author
  timestamp := timestamp
  parents := parents
  body :=
    .contentKeyEpochPublished scope.contentKeyScope ring.epoch ring.keyId (some previousKeyId)
      contentKeyAlgorithmAes256GcmSiv

/-- The event is signed and authorized before the key is saved, and appended after. -/
def LocalRuntime.signAuthorizeSaveKeyAndAppendWithHistory
    (write : SecretWrite) (state : RuntimeState) (event : SignableEvent)
    (history : List SignedEvent) (ring : KeyRing) :
    Except RuntimeError SignedEvent × RuntimeState :=
  let signed := runtime.identity.signEvent libraries.primitives event
  match authorizeEventWithHistory history signed with
  | .error raised => (.error (.authorization raised), state)
  | .ok () =>
      match runtime.saveKey libraries write state.files ring with
      | (.error raised, files) => (.error raised, { state with files := files })
      | (.ok (), files) =>
          match state.store.appendEvent libraries.primitives libraries.eventJson signed with
          | .error raised => (.error (.store raised), { state with files := files })
          | .ok store => (.ok signed, { files := files, store := store })

/-- What a rotation reports. -/
structure RotatedKey where
  scope : KeyScope
  previousKeyId : String
  keyId : String
  epoch : UInt64
  eventId : EventId
  deriving DecidableEq

def LocalRuntime.rotateKey
    (draw : RotationDraw) (state : RuntimeState) (scope : KeyScope) :
    Except RuntimeError RotatedKey × RuntimeState :=
  match materializedWorkspaceWriteContext libraries.primitives libraries.eventJson state.store
      scope.workspaceId with
  | .error raised => (.error raised, state)
  | .ok context =>
      match runtime.loadKey libraries state.files scope with
      | .error raised => (.error raised, state)
      | .ok none => (.error scope.missingForRotation, state)
      | .ok (some ring) =>
          let rotated := ring.rotate draw.generated
          let event :=
            rotated.epochPublished scope ring.keyId
              (runtime.identity.deviceId libraries.primitives) draw.timestamp
              context.headEventIds
          match runtime.signAuthorizeSaveKeyAndAppendWithHistory libraries draw.write state event
              context.events rotated with
          | (.error raised, next) => (.error raised, next)
          | (.ok signed, next) =>
              (.ok
                { scope := scope
                  previousKeyId := ring.keyId
                  keyId := rotated.keyId
                  epoch := rotated.epoch
                  eventId := signed.eventId }, next)

def LocalRuntime.rotateWorkspaceKey
    (draw : RotationDraw) (state : RuntimeState) (workspaceId : WorkspaceId) :
    Except RuntimeError RotatedKey × RuntimeState :=
  runtime.rotateKey libraries draw state (.workspace workspaceId)

def LocalRuntime.rotateChannelKey
    (draw : RotationDraw) (state : RuntimeState) (workspaceId : WorkspaceId)
    (channelId : ChannelId) : Except RuntimeError RotatedKey × RuntimeState :=
  runtime.rotateKey libraries draw state (.channel workspaceId channelId)

/-! ## Imports -/

/-- What an import reports. -/
structure ImportedKey where
  scope : KeyScope
  keyId : String
  importerDeviceId : DeviceId
  deriving DecidableEq

/-- The search index is renewed afterwards; that it fails is ignored. -/
def LocalRuntime.importKey
    (write : SecretWrite) (files : SecretFiles) (exported : ContentKeyExport) :
    Except RuntimeError ImportedKey × SecretFiles :=
  match KeyRing.fromExport exported with
  | .error raised => (.error raised, files)
  | .ok ring =>
      match runtime.saveKey libraries write files ring with
      | (.error raised, files) => (.error raised, files)
      | (.ok (), files) =>
          (.ok
            { scope := ring.scope
              keyId := ring.keyId
              importerDeviceId := runtime.identity.deviceId libraries.primitives }, files)

def LocalRuntime.importWorkspaceKey
    (write : SecretWrite) (files : SecretFiles) (exported : WorkspaceKeyExport) :
    Except RuntimeError ImportedKey × SecretFiles :=
  runtime.importKey libraries write files exported.val

def LocalRuntime.importChannelKey
    (write : SecretWrite) (files : SecretFiles) (exported : ChannelKeyExport) :
    Except RuntimeError ImportedKey × SecretFiles :=
  runtime.importKey libraries write files exported.val

end Loading

/-! ## What the runtime relies on -/

/-- JSON reads back, also with the newline that ends a file, and the JSON of a ring is
not that of a sealed secret. -/
structure KeyLibraries.Lawful (libraries : KeyLibraries) : Prop
    extends libraries.toSecretLibraries.Lawful where
  keyReadsBack :
    ∀ record bytes, libraries.keyToVecPretty record = some bytes →
      libraries.keyFromSlice record.scope.isChannel bytes = some ⟨record, rfl⟩ ∧
        libraries.keyFromSlice record.scope.isChannel (bytes ++ [newline]) = some ⟨record, rfl⟩
  keyIsPlain :
    ∀ record bytes, libraries.keyToVecPretty record = some bytes →
      libraries.fromSlice (bytes ++ [newline]) = none

end Chaft
