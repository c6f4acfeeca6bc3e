import Mathlib.Data.String.Basic
import Chaft.Domain.Identifiers
import Chaft.Library.Containers
import Chaft.Library.Hex
import Chaft.Library.Outcome

/-!
# States of OpenMLS groups

A device keeps the state of a group as one JSON record: the whole storage of OpenMLS, the
signature keys of the device and the content keys of the epochs that it has left.  Every
operation loads the record, changes the group and writes the record anew.

OpenMLS itself is a parameter.
-/

namespace Chaft

open Keyed Outcome

def openmlsKeyPackageProtocol : String := "openmls/key-package/rfc9420"
def openmlsWorkspaceGroupProtocol : String := "openmls/workspace-group/rfc9420"
def openmlsChannelGroupProtocol : String := "openmls/channel-group/rfc9420"
def defaultOpenmlsCiphersuite : String := "MLS_128_DHKEMX25519_AES128GCM_SHA256_Ed25519"
def openmlsWorkspaceContentKeyProtocol : String := "openmls/workspace-content-key/rfc9420"
def openmlsChannelContentKeyProtocol : String := "openmls/channel-content-key/rfc9420"

def persistedKeyPackageSchemaVersion : UInt32 := 1
def persistedWorkspaceGroupSchemaVersion : UInt32 := 1
def openmlsWorkspaceContentKeyLabel : String := "chaft workspace content key v1"
def openmlsWorkspaceContentKeyContext : String :=
  "chaft:v1:workspace-message-and-attachment-content-key"
def openmlsWorkspaceContentKeyLen : Nat := 32

/-- The texts are those of the errors of OpenMLS. -/
inductive MlsError where
  | keyPackage (text : String)
  | credential (text : String)
  | group (text : String)
  | storage (text : String)
  | tlsCodec (text : String)
  | serde
  | invalidHex
  | invalidIdentityUtf8
  | unsupportedPersistedSchema
  | unsupportedPersistedWorkspaceGroupSchema
  | persistedBundleMismatch
  | persistedWorkspaceGroupMissing
  | persistedWorkspaceGroupMismatch
  | expectedWelcomeMessage
  | expectedCommitMessage
  | groupMemberNotFound (identity : String)
  | payloadTooLarge (label : String) (actualBytes maxBytes : Nat)
  deriving DecidableEq

/-! ## Records -/

structure PersistedMlsContentKey where
  protocol : String
  ciphersuite : String
  groupId : String
  epoch : UInt64
  keyId : String
  contentKey : List UInt8
  deriving DecidableEq

structure PersistedOpenMlsStorageEntry where
  key : String
  value : String
  deriving DecidableEq

structure PersistedMlsWorkspaceGroupState (SignatureKeyPair : Type) where
  schemaVersion : UInt32
  protocol : String
  ciphersuite : String
  groupId : String
  epoch : UInt64
  identity : String
  signatureKeyPair : SignatureKeyPair
  previousContentKeys : List PersistedMlsContentKey
  storageEntries : List PersistedOpenMlsStorageEntry
  deriving DecidableEq

/-- Of the bundle, joining reads these fields. -/
structure PersistedMlsKeyPackageBundle (SignatureKeyPair KeyPackageBundle : Type) where
  schemaVersion : UInt32
  identity : String
  signatureKeyPair : SignatureKeyPair
  keyPackageBundle : KeyPackageBundle

structure ValidatedMlsKeyPackage where
  protocol : String
  ciphersuite : String
  keyPackageRef : String
  identity : String
  signaturePublicKey : List UInt8
  byteLen : Nat
  deriving DecidableEq

structure ValidatedMlsWorkspaceGroup where
  protocol : String
  ciphersuite : String
  groupId : String
  epoch : UInt64
  identity : String
  memberCount : Nat
  storageEntryCount : Nat
  deriving DecidableEq

/-- `CreatedMlsWorkspaceGroup` and `JoinedMlsWorkspaceGroup`, which have the same fields. -/
structure CreatedMlsWorkspaceGroup where
  protocol : String
  ciphersuite : String
  groupId : String
  epoch : UInt64
  identity : String
  memberCount : Nat
  privateGroupState : List UInt8
  deriving DecidableEq

structure AddedMlsWorkspaceGroupMember where
  protocol : String
  ciphersuite : String
  groupId : String
  epoch : UInt64
  memberCount : Nat
  inviteeIdentity : String
  inviteeKeyPackageRef : String
  commit : List UInt8
  welcome : List UInt8
  ratchetTree : List UInt8
  updatedPrivateGroupState : List UInt8
  deriving DecidableEq

structure RemovedMlsWorkspaceGroupMember where
  protocol : String
  ciphersuite : String
  groupId : String
  epoch : UInt64
  memberCount : Nat
  removedIdentity : String
  commit : List UInt8
  ratchetTree : List UInt8
  updatedPrivateGroupState : List UInt8
  deriving DecidableEq

structure UpdatedMlsWorkspaceGroup where
  protocol : String
  ciphersuite : String
  groupId : String
  epoch : UInt64
  memberCount : Nat
  commit : List UInt8
  ratchetTree : List UInt8
  updatedPrivateGroupState : List UInt8
  deriving DecidableEq

structure AppliedMlsWorkspaceGroupCommit where
  protocol : String
  ciphersuite : String
  groupId : String
  epoch : UInt64
  identity : String
  memberCount : Nat
  selfRemoved : Bool
  updatedPrivateGroupState : List UInt8
  deriving DecidableEq

structure ExportedMlsWorkspaceContentKey where
  protocol : String
  ciphersuite : String
  groupId : String
  epoch : UInt64
  keyId : String
  contentKey : List UInt8
  deriving DecidableEq

/-! ## OpenMLS -/

/-- The storage of a provider. -/
abbrev MlsStorage := HashMap (List UInt8) (List UInt8)

/-- What the groups take from OpenMLS and from the JSON of their records.  An operation that
draws random bytes is given them, and one that writes to the storage returns it. -/
structure OpenMls where
  Group : Type
  Credential : Type
  SignatureKeyPair : Type
  KeyPackageIn : Type
  KeyPackage : Type
  KeyPackageBundle : Type
  MessageOut : Type
  MessageIn : Type
  ProtocolMessage : Type
  StagedCommit : Type
  Welcome : Type
  RatchetTreeIn : Type
  StagedWelcome : Type
  load : MlsStorage → List UInt8 → Except String (Option Group)
  groupId : Group → List UInt8
  epoch : Group → UInt64
  /-- The device is a member of the group. -/
  isActive : Group → Bool
  usesDefaultCiphersuite : Group → Bool
  members : Group → List (UInt32 × Credential)
  credential : Group → Except String Credential
  ownSignatureKey : Group → Option (List UInt8)
  basicIdentity : Credential → Except String (List UInt8)
  /-- The secret for a label, a context and a length. -/
  exportSecret : Group → String → String → Nat → Except String (List UInt8)
  exportRatchetTree : Group → Except String (List UInt8)
  newSignatureKeyPair : List UInt8 → Except String SignatureKeyPair
  storeSignatureKeyPair : SignatureKeyPair → MlsStorage → Except String MlsStorage
  publicKey : SignatureKeyPair → List UInt8
  deserializeKeyPackage : List UInt8 → Except String KeyPackageIn
  validateKeyPackage : KeyPackageIn → Except String KeyPackage
  hashRef : KeyPackage → Except String (List UInt8)
  leafCredential : KeyPackage → Credential
  leafSignatureKey : KeyPackage → List UInt8
  packageUsesDefaultCiphersuite : KeyPackage → Bool
  newWithGroupId :
    List UInt8 → MlsStorage → SignatureKeyPair → (groupId identity : List UInt8) →
      Except String (MlsStorage × Group)
  addMembers :
    List UInt8 → MlsStorage × Group → SignatureKeyPair → KeyPackage →
      Except String ((MlsStorage × Group) × MessageOut × MessageOut)
  removeMembers :
    List UInt8 → MlsStorage × Group → SignatureKeyPair → UInt32 →
      Except String ((MlsStorage × Group) × MessageOut)
  selfUpdate :
    List UInt8 → MlsStorage × Group → SignatureKeyPair →
      Except String ((MlsStorage × Group) × MessageOut)
  mergePendingCommit : MlsStorage × Group → Except String (MlsStorage × Group)
  serialize : MessageOut → Except String (List UInt8)
  deserializeMessage : List UInt8 → Except String MessageIn
  tryIntoProtocolMessage : MessageIn → Except String ProtocolMessage
  /-- The staged commit, if the message is one. -/
  processMessage :
    MlsStorage × Group → ProtocolMessage →
      Except String ((MlsStorage × Group) × Option StagedCommit)
  selfRemoved : StagedCommit → Bool
  mergeStagedCommit : MlsStorage × Group → StagedCommit → Except String (MlsStorage × Group)
  bundledKeyPackage : KeyPackageBundle → KeyPackage
  writeKeyPackage : MlsStorage → List UInt8 → KeyPackageBundle → Except String MlsStorage
  extractWelcome : MessageIn → Option Welcome
  deserializeRatchetTree : List UInt8 → Except String RatchetTreeIn
  newFromWelcome :
    MlsStorage → Welcome → RatchetTreeIn → Except String (MlsStorage × StagedWelcome)
  intoGroup : MlsStorage × StagedWelcome → Except String (MlsStorage × Group)
  groupStateToVecPretty :
    PersistedMlsWorkspaceGroupState SignatureKeyPair → Option (List UInt8)
  groupStateFromSlice :
    List UInt8 → Option (PersistedMlsWorkspaceGroupState SignatureKeyPair)
  bundleFromSlice :
    List UInt8 → Option (PersistedMlsKeyPackageBundle SignatureKeyPair KeyPackageBundle)

/-! ## Checks and encodings -/

def validatePayloadSize (label : String) (bytes : List UInt8) (maxBytes : Nat) :
    Except MlsError Unit :=
  ensure (bytes.length ≤ maxBytes) (.payloadTooLarge label bytes.length maxBytes)

def ciphersuiteLabel (isDefault : Bool) : String :=
  if isDefault then defaultOpenmlsCiphersuite else "unsupported"

def groupProtocolSupported (protocol : String) : Bool :=
  protocol == openmlsWorkspaceGroupProtocol || protocol == openmlsChannelGroupProtocol

def hexDecode (value : String) : Except MlsError (List UInt8) :=
  okOr (Hex.decode value) .invalidHex

def identityFromUtf8 (bytes : List UInt8) : Except MlsError String :=
  (okOr (Utf8.decode? bytes) .invalidIdentityUtf8).map String.ofList

def storageEntries (storage : MlsStorage) : List PersistedOpenMlsStorageEntry :=
  (storage.toList.map fun entry =>
    { key := Hex.encode entry.1, value := Hex.encode entry.2 }).insertionSort
      fun left right => left.key ≤ right.key

def readStorageEntry (entry : PersistedOpenMlsStorageEntry) :
    Except MlsError (List UInt8 × List UInt8) := do
  let key ← hexDecode entry.key
  let value ← hexDecode entry.value
  .ok (key, value)

def storageFromEntries (entries : List PersistedOpenMlsStorageEntry) :
    Except MlsError MlsStorage := do
  let values ← entries.mapM readStorageEntry
  .ok (tableOf Prod.fst Prod.snd ∅ values)

def workspaceContentKeyId (groupId : String) (epoch : UInt64) : String :=
  "openmls:workspace:" ++ groupId ++ ":content:v" ++ epoch.toNat.repr

def channelContentKeyId (groupId : String) (epoch : UInt64) : String :=
  "openmls:channel:" ++ groupId ++ ":content:v" ++ epoch.toNat.repr

namespace OpenMls

variable (openMls : OpenMls)

abbrev GroupState : Type := PersistedMlsWorkspaceGroupState openMls.SignatureKeyPair

/-- A group and the storage that holds it. -/
abbrev Provided : Type := MlsStorage × openMls.Group

def keyPackageRefHex (keyPackage : openMls.KeyPackage) : Except MlsError String :=
  ((openMls.hashRef keyPackage).mapError .keyPackage).map Hex.encode

/-- The identity in a credential. -/
def identityOf (credential : openMls.Credential) : Except MlsError String := do
  let identity ← (openMls.basicIdentity credential).mapError .credential
  identityFromUtf8 identity

def readKeyPackage (bytes : List UInt8) : Except MlsError openMls.KeyPackage := do
  let keyPackageIn ← (openMls.deserializeKeyPackage bytes).mapError .tlsCodec
  (openMls.validateKeyPackage keyPackageIn).mapError .keyPackage

/-- `chaft_mls::validate_key_package`. -/
def validatedKeyPackage (bytes : List UInt8) : Except MlsError ValidatedMlsKeyPackage := do
  validatePayloadSize "key package" bytes openmlsKeyPackageMaxBytes
  let keyPackage ← openMls.readKeyPackage bytes
  let identity ← openMls.identityOf (openMls.leafCredential keyPackage)
  let keyPackageRef ← openMls.keyPackageRefHex keyPackage
  .ok
    { protocol := openmlsKeyPackageProtocol
      ciphersuite := ciphersuiteLabel (openMls.packageUsesDefaultCiphersuite keyPackage)
      keyPackageRef := keyPackageRef
      identity := identity
      signaturePublicKey := openMls.leafSignatureKey keyPackage
      byteLen := bytes.length }

/-! ## Loading and persisting -/

def loadPersistedWorkspaceGroup (privateGroupState : List UInt8) :
    Except MlsError (openMls.GroupState × openMls.Provided) := do
  validatePayloadSize "private group state" privateGroupState openmlsPrivateGroupStateMaxBytes
  let persisted ← okOr (openMls.groupStateFromSlice privateGroupState) .serde
  ensure (persisted.schemaVersion = persistedWorkspaceGroupSchemaVersion)
    .unsupportedPersistedWorkspaceGroupSchema
  ensure (groupProtocolSupported persisted.protocol = true) .persistedWorkspaceGroupMismatch
  let groupId ← hexDecode persisted.groupId
  let storage ← storageFromEntries persisted.storageEntries
  let found ← (openMls.load storage groupId).mapError .storage
  let group ← okOr found .persistedWorkspaceGroupMissing
  .ok (persisted, storage, group)

/-- The JSON of a record within its limit. -/
def writeGroupState (persisted : openMls.GroupState) : Except MlsError (List UInt8) := do
  let bytes ← okOr (openMls.groupStateToVecPretty persisted) .serde
  validatePayloadSize "private group state" bytes openmlsPrivateGroupStateMaxBytes
  .ok bytes

/-- The record of a changed group. -/
def refreshed (persisted : openMls.GroupState) (provided : openMls.Provided) :
    openMls.GroupState :=
  { persisted with
    ciphersuite := ciphersuiteLabel (openMls.usesDefaultCiphersuite provided.2)
    groupId := Hex.encode (openMls.groupId provided.2)
    epoch := openMls.epoch provided.2
    storageEntries := storageEntries provided.1 }

def persistWorkspaceGroupState (persisted : openMls.GroupState) (provided : openMls.Provided) :
    Except MlsError (openMls.GroupState × List UInt8) := do
  ensure (groupProtocolSupported persisted.protocol = true) .persistedWorkspaceGroupMismatch
  let bytes ← openMls.writeGroupState (openMls.refreshed persisted provided)
  .ok (openMls.refreshed persisted provided, bytes)

def validatePrivateWorkspaceGroupState (bytes : List UInt8) :
    Except MlsError ValidatedMlsWorkspaceGroup := do
  let (persisted, _, group) ← openMls.loadPersistedWorkspaceGroup bytes
  let credential ← (openMls.credential group).mapError .group
  let identity ← openMls.identityOf credential
  let signaturePublicKey ←
    okOr (openMls.ownSignatureKey group) .persistedWorkspaceGroupMismatch
  ensure
    (persisted.ciphersuite = ciphersuiteLabel (openMls.usesDefaultCiphersuite group) ∧
      persisted.groupId = Hex.encode (openMls.groupId group) ∧
      persisted.epoch = openMls.epoch group ∧ persisted.identity = identity ∧
      openMls.publicKey persisted.signatureKeyPair = signaturePublicKey)
    .persistedWorkspaceGroupMismatch
  .ok
    { protocol := persisted.protocol
      ciphersuite := persisted.ciphersuite
      groupId := persisted.groupId
      epoch := persisted.epoch
      identity := identity
      memberCount := (openMls.members group).length
      storageEntryCount := persisted.storageEntries.length }

/-! ## Content keys -/

def exportLoadedGroupContentKey (persisted : openMls.GroupState) (group : openMls.Group) :
    Except MlsError ExportedMlsWorkspaceContentKey := do
  let groupId := Hex.encode (openMls.groupId group)
  let contentKey ←
    (openMls.exportSecret group openmlsWorkspaceContentKeyLabel
      openmlsWorkspaceContentKeyContext openmlsWorkspaceContentKeyLen).mapError .group
  let isChannel := persisted.protocol == openmlsChannelGroupProtocol
  .ok
    { protocol :=
        if isChannel then openmlsChannelContentKeyProtocol else openmlsWorkspaceContentKeyProtocol
      ciphersuite := ciphersuiteLabel (openMls.usesDefaultCiphersuite group)
      groupId := groupId
      epoch := openMls.epoch group
      keyId :=
        if isChannel then
          channelContentKeyId groupId (openMls.epoch group)
        else
          workspaceContentKeyId groupId (openMls.epoch group)
      contentKey := contentKey }

def exportGroupContentKey (privateGroupState : List UInt8) :
    Except MlsError ExportedMlsWorkspaceContentKey := do
  let (persisted, _, group) ← openMls.loadPersistedWorkspaceGroup privateGroupState
  openMls.exportLoadedGroupContentKey persisted group

end OpenMls

def PersistedMlsContentKey.exported (previous : PersistedMlsContentKey) :
    ExportedMlsWorkspaceContentKey where
  protocol := previous.protocol
  ciphersuite := previous.ciphersuite
  groupId := previous.groupId
  epoch := previous.epoch
  keyId := previous.keyId
  contentKey := previous.contentKey

def ExportedMlsWorkspaceContentKey.persisted (exported : ExportedMlsWorkspaceContentKey) :
    PersistedMlsContentKey where
  protocol := exported.protocol
  ciphersuite := exported.ciphersuite
  groupId := exported.groupId
  epoch := exported.epoch
  keyId := exported.keyId
  contentKey := exported.contentKey

/-- `append_previous_content_key`, on the list of the record. -/
def withPreviousContentKey
    (previousContentKeys : List PersistedMlsContentKey)
    (previous : ExportedMlsWorkspaceContentKey) : List PersistedMlsContentKey :=
  if previousContentKeys.any fun existing => existing.keyId == previous.keyId then
    previousContentKeys
  else
    (previousContentKeys ++ [previous.persisted]).insertionSort
      fun left right => left.epoch ≤ right.epoch

namespace OpenMls

variable (openMls : OpenMls)

def exportGroupContentKeyForKeyId (privateGroupState : List UInt8) (keyId : String) :
    Except MlsError (Option ExportedMlsWorkspaceContentKey) := do
  let (persisted, _, group) ← openMls.loadPersistedWorkspaceGroup privateGroupState
  let current ← openMls.exportLoadedGroupContentKey persisted group
  if current.keyId = keyId then
    .ok (some current)
  else
    .ok
      ((persisted.previousContentKeys.find? fun previous => decide (previous.keyId = keyId)).map
        PersistedMlsContentKey.exported)

def appendPreviousContentKey
    (persisted : openMls.GroupState) (previous : ExportedMlsWorkspaceContentKey) :
    openMls.GroupState :=
  { persisted with
    previousContentKeys := withPreviousContentKey persisted.previousContentKeys previous }

/-! ## Operations -/

/-- The serialized message within its limit. -/
def serializedWithin (label : String) (maxBytes : Nat) (message : openMls.MessageOut) :
    Except MlsError (List UInt8) := do
  let bytes ← (openMls.serialize message).mapError .tlsCodec
  validatePayloadSize label bytes maxBytes
  .ok bytes

def exportedRatchetTree (group : openMls.Group) : Except MlsError (List UInt8) := do
  let ratchetTree ← (openMls.exportRatchetTree group).mapError .tlsCodec
  validatePayloadSize "ratchet tree" ratchetTree openmlsRatchetTreeMaxBytes
  .ok ratchetTree

/-- The old key is exported before the merge and appended after it. -/
def addMemberToWorkspaceGroup
    (random privateGroupState inviteeKeyPackage : List UInt8) :
    Except MlsError AddedMlsWorkspaceGroupMember := do
  let (persisted, provided) ← openMls.loadPersistedWorkspaceGroup privateGroupState
  let previousContentKey ← openMls.exportLoadedGroupContentKey persisted provided.2
  validatePayloadSize "key package" inviteeKeyPackage openmlsKeyPackageMaxBytes
  let keyPackage ← openMls.readKeyPackage inviteeKeyPackage
  let inviteeKeyPackageRef ← openMls.keyPackageRefHex keyPackage
  let inviteeIdentity ← openMls.identityOf (openMls.leafCredential keyPackage)
  let (pending, commit, welcome) ←
    (openMls.addMembers random provided persisted.signatureKeyPair keyPackage).mapError .group
  let commitBytes ← (openMls.serialize commit).mapError .tlsCodec
  let welcomeBytes ← (openMls.serialize welcome).mapError .tlsCodec
  validatePayloadSize "commit" commitBytes openmlsCommitMaxBytes
  validatePayloadSize "welcome" welcomeBytes openmlsWelcomeMaxBytes
  let merged ← (openMls.mergePendingCommit pending).mapError .group
  let ratchetTree ← openMls.exportedRatchetTree merged.2
  let (updated, bytes) ←
    openMls.persistWorkspaceGroupState
      (openMls.appendPreviousContentKey persisted previousContentKey) merged
  .ok
    { protocol := updated.protocol
      ciphersuite := updated.ciphersuite
      groupId := updated.groupId
      epoch := updated.epoch
      memberCount := (openMls.members merged.2).length
      inviteeIdentity := inviteeIdentity
      inviteeKeyPackageRef := inviteeKeyPackageRef
      commit := commitBytes
      welcome := welcomeBytes
      ratchetTree := ratchetTree
      updatedPrivateGroupState := bytes }

/-- The first leaf with the identity. -/
def groupMemberIndexByIdentity (identity : List UInt8) :
    List (UInt32 × openMls.Credential) → Except MlsError (Option UInt32)
  | [] => .ok none
  | (index, credential) :: rest => do
      let memberIdentity ← (openMls.basicIdentity credential).mapError .credential
      if memberIdentity = identity then
        .ok (some index)
      else
        groupMemberIndexByIdentity identity rest

def removeMemberFromGroup
    (random privateGroupState : List UInt8) (removedIdentity : String) :
    Except MlsError RemovedMlsWorkspaceGroupMember := do
  let (persisted, provided) ← openMls.loadPersistedWorkspaceGroup privateGroupState
  let previousContentKey ← openMls.exportLoadedGroupContentKey persisted provided.2
  let found ←
    openMls.groupMemberIndexByIdentity (Utf8.encode removedIdentity.toList)
      (openMls.members provided.2)
  let removedIndex ← okOr found (.groupMemberNotFound removedIdentity)
  let (pending, commit) ←
    (openMls.removeMembers random provided persisted.signatureKeyPair removedIndex).mapError
      .group
  let commitBytes ← openMls.serializedWithin "commit" openmlsCommitMaxBytes commit
  let merged ← (openMls.mergePendingCommit pending).mapError .group
  let ratchetTree ← openMls.exportedRatchetTree merged.2
  let (updated, bytes) ←
    openMls.persistWorkspaceGroupState
      (openMls.appendPreviousContentKey persisted previousContentKey) merged
  .ok
    { protocol := updated.protocol
      ciphersuite := updated.ciphersuite
      groupId := updated.groupId
      epoch := updated.epoch
      memberCount := (openMls.members merged.2).length
      removedIdentity := removedIdentity
      commit := commitBytes
      ratchetTree := ratchetTree
      updatedPrivateGroupState := bytes }

def updateOwnLeafInGroup (random privateGroupState : List UInt8) :
    Except MlsError UpdatedMlsWorkspaceGroup := do
  let (persisted, provided) ← openMls.loadPersistedWorkspaceGroup privateGroupState
  let previousContentKey ← openMls.exportLoadedGroupContentKey persisted provided.2
  let (pending, commit) ←
    (openMls.selfUpdate random provided persisted.signatureKeyPair).mapError .group
  let commitBytes ← openMls.serializedWithin "commit" openmlsCommitMaxBytes commit
  let merged ← (openMls.mergePendingCommit pending).mapError .group
  let ratchetTree ← openMls.exportedRatchetTree merged.2
  let (updated, bytes) ←
    openMls.persistWorkspaceGroupState
      (openMls.appendPreviousContentKey persisted previousContentKey) merged
  .ok
    { protocol := updated.protocol
      ciphersuite := updated.ciphersuite
      groupId := updated.groupId
      epoch := updated.epoch
      memberCount := (openMls.members merged.2).length
      commit := commitBytes
      ratchetTree := ratchetTree
      updatedPrivateGroupState := bytes }

def applyGroupCommit (privateGroupState commit : List UInt8) :
    Except MlsError AppliedMlsWorkspaceGroupCommit := do
  let (persisted, provided) ← openMls.loadPersistedWorkspaceGroup privateGroupState
  let previousContentKey ← openMls.exportLoadedGroupContentKey persisted provided.2
  validatePayloadSize "commit" commit openmlsCommitMaxBytes
  let messageIn ← (openMls.deserializeMessage commit).mapError .tlsCodec
  let message ← (openMls.tryIntoProtocolMessage messageIn).mapError .group
  let (processed, content) ← (openMls.processMessage provided message).mapError .group
  let stagedCommit ← okOr content .expectedCommitMessage
  let merged ← (openMls.mergeStagedCommit processed stagedCommit).mapError .group
  let (updated, bytes) ←
    openMls.persistWorkspaceGroupState
      (openMls.appendPreviousContentKey persisted previousContentKey) merged
  .ok
    { protocol := updated.protocol
      ciphersuite := updated.ciphersuite
      groupId := updated.groupId
      epoch := updated.epoch
      identity := updated.identity
      memberCount := (openMls.members merged.2).length
      selfRemoved := openMls.selfRemoved stagedCommit
      updatedPrivateGroupState := bytes }

/-! ## New groups -/

/-- The record and the report of a group that the device has just come to hold. -/
def newGroupState
    (protocol identity : String) (signatureKeyPair : openMls.SignatureKeyPair)
    (ciphersuite : String) (provided : openMls.Provided) :
    Except MlsError CreatedMlsWorkspaceGroup := do
  let bytes ←
    openMls.writeGroupState
      { schemaVersion := persistedWorkspaceGroupSchemaVersion
        protocol := protocol
        ciphersuite := ciphersuite
        groupId := Hex.encode (openMls.groupId provided.2)
        epoch := openMls.epoch provided.2
        identity := identity
        signatureKeyPair := signatureKeyPair
        previousContentKeys := []
        storageEntries := storageEntries provided.1 }
  .ok
    { protocol := protocol
      ciphersuite := ciphersuite
      groupId := Hex.encode (openMls.groupId provided.2)
      epoch := openMls.epoch provided.2
      identity := identity
      memberCount := (openMls.members provided.2).length
      privateGroupState := bytes }

def createGroup (random : List UInt8) (identity protocol groupId : String) :
    Except MlsError CreatedMlsWorkspaceGroup := do
  let signatureKeyPair ← (openMls.newSignatureKeyPair random).mapError .keyPackage
  let storage ← (openMls.storeSignatureKeyPair signatureKeyPair ∅).mapError .keyPackage
  let provided ←
    (openMls.newWithGroupId random storage signatureKeyPair (Utf8.encode groupId.toList)
      (Utf8.encode identity.toList)).mapError .group
  openMls.newGroupState protocol identity signatureKeyPair defaultOpenmlsCiphersuite provided

def createWorkspaceGroup (random : List UInt8) (identity workspaceId : String) :
    Except MlsError CreatedMlsWorkspaceGroup :=
  openMls.createGroup random identity openmlsWorkspaceGroupProtocol
    ("chaft/workspace/" ++ workspaceId)

def createChannelGroup (random : List UInt8) (identity workspaceId channelId : String) :
    Except MlsError CreatedMlsWorkspaceGroup :=
  openMls.createGroup random identity openmlsChannelGroupProtocol
    ("chaft/workspace/" ++ workspaceId ++ "/channel/" ++ channelId)

def joinGroupFromWelcome
    (privateKeyPackageBundle welcome ratchetTree : List UInt8) (groupProtocol : String) :
    Except MlsError CreatedMlsWorkspaceGroup := do
  validatePayloadSize "private key package bundle" privateKeyPackageBundle
    openmlsPrivateKeyPackageBundleMaxBytes
  validatePayloadSize "welcome" welcome openmlsWelcomeMaxBytes
  validatePayloadSize "ratchet tree" ratchetTree openmlsRatchetTreeMaxBytes
  let persistedBundle ← okOr (openMls.bundleFromSlice privateKeyPackageBundle) .serde
  ensure (persistedBundle.schemaVersion = persistedKeyPackageSchemaVersion)
    .unsupportedPersistedSchema
  let signed ←
    (openMls.storeSignatureKeyPair persistedBundle.signatureKeyPair ∅).mapError .keyPackage
  let keyPackageRef ←
    (openMls.hashRef (openMls.bundledKeyPackage persistedBundle.keyPackageBundle)).mapError
      .keyPackage
  let storage ←
    (openMls.writeKeyPackage signed keyPackageRef persistedBundle.keyPackageBundle).mapError
      .storage
  let messageIn ← (openMls.deserializeMessage welcome).mapError .tlsCodec
  let welcomeIn ← okOr (openMls.extractWelcome messageIn) .expectedWelcomeMessage
  let ratchetTreeIn ← (openMls.deserializeRatchetTree ratchetTree).mapError .tlsCodec
  let stagedJoin ← (openMls.newFromWelcome storage welcomeIn ratchetTreeIn).mapError .group
  let provided ← (openMls.intoGroup stagedJoin).mapError .group
  openMls.newGroupState groupProtocol persistedBundle.identity persistedBundle.signatureKeyPair
    (ciphersuiteLabel (openMls.usesDefaultCiphersuite provided.2)) provided

def joinWorkspaceGroupFromWelcome
    (privateKeyPackageBundle welcome ratchetTree : List UInt8) :
    Except MlsError CreatedMlsWorkspaceGroup :=
  openMls.joinGroupFromWelcome privateKeyPackageBundle welcome ratchetTree
    openmlsWorkspaceGroupProtocol

def joinChannelGroupFromWelcome
    (privateKeyPackageBundle welcome ratchetTree : List UInt8) :
    Except MlsError CreatedMlsWorkspaceGroup :=
  openMls.joinGroupFromWelcome privateKeyPackageBundle welcome ratchetTree
    openmlsChannelGroupProtocol

end OpenMls

end Chaft
