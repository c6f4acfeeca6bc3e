import Chaft.Runtime.RuntimeError

/-!
# Key rings

A workspace and each of its private channels have a ring of content keys: the key of
the current epoch and the keys that rotations have replaced.  Rings leave a device as
exports and stay on it as persisted records; both are checked when they are read.

The rings of workspaces and of channels differ only in their scope.
-/

namespace Chaft

open Outcome

def workspaceKeyLen : Nat := 32

def contentKeyExportSchemaVersion : UInt32 := 2

/-- What a ring is for. -/
inductive KeyScope where
  | workspace (workspaceId : WorkspaceId)
  | channel (workspaceId : WorkspaceId) (channelId : ChannelId)
  deriving DecidableEq

def WorkspaceKey.keyIdForEpoch (workspaceId : WorkspaceId) (epoch : UInt64) : String :=
  workspaceId.text ++ ":content:v" ++ epoch.toNat.repr

def ChannelKey.keyIdForEpoch
    (workspaceId : WorkspaceId) (channelId : ChannelId) (epoch : UInt64) : String :=
  workspaceId.text ++ ":" ++ channelId.text ++ ":content:v" ++ epoch.toNat.repr

namespace KeyScope

def workspaceId : KeyScope → WorkspaceId
  | workspace workspaceId => workspaceId
  | channel workspaceId _ => workspaceId

def channelId : KeyScope → Option ChannelId
  | workspace _ => none
  | channel _ channelId => some channelId

def isChannel (scope : KeyScope) : Bool :=
  scope.channelId.isSome

def keyIdForEpoch : KeyScope → UInt64 → String
  | workspace workspaceId => WorkspaceKey.keyIdForEpoch workspaceId
  | channel workspaceId channelId => ChannelKey.keyIdForEpoch workspaceId channelId

/-- The error of a ring that is not well formed. -/
def invalidKey : KeyScope → RuntimeError
  | workspace _ => .invalidWorkspaceKey
  | channel .. => .invalidChannelKey

def unsupportedKeyExport : KeyScope → RuntimeError
  | workspace _ => .unsupportedWorkspaceKeyExport
  | channel .. => .unsupportedChannelKeyExport

end KeyScope

/-! ## Records -/

/-- A key as exports and persisted records hold it. -/
structure RawKeyMaterial where
  keyId : String
  aes256GcmSivKey : List UInt8
  deriving DecidableEq

/-- `WorkspaceKeyExport` and `ChannelKeyExport`. -/
structure ContentKeyExport where
  schemaVersion : UInt32
  scope : KeyScope
  epoch : UInt64
  keyId : String
  exporterDeviceId : String
  aes256GcmSivKey : List UInt8
  previousKeys : List RawKeyMaterial
  deriving DecidableEq

/-- The export of a workspace key. -/
abbrev WorkspaceKeyExport := { exported : ContentKeyExport // exported.scope.isChannel = false }

/-- The export of a channel key. -/
abbrev ChannelKeyExport := { exported : ContentKeyExport // exported.scope.isChannel = true }

/-- `PersistedWorkspaceKey` and `PersistedChannelKey`. -/
structure PersistedKey where
  schemaVersion : UInt32
  scope : KeyScope
  epoch : UInt64
  keyId : String
  aes256GcmSivKey : List UInt8
  previousKeys : List RawKeyMaterial
  deriving DecidableEq

structure ContentKeyMaterial where
  keyId : String
  contentKey : ContentKey
  deriving DecidableEq

def ContentKeyMaterial.raw (material : ContentKeyMaterial) : RawKeyMaterial where
  keyId := material.keyId
  aes256GcmSivKey := material.contentKey.bytes

/-- `WorkspaceKey` and `ChannelKey`.  The current key is named after the epoch. -/
structure KeyRing where
  scope : KeyScope
  epoch : UInt64
  keyId : String
  contentKey : ContentKey
  previousKeys : List ContentKeyMaterial
  named : keyId = scope.keyIdForEpoch epoch
  deriving DecidableEq

/-! ## Reading records -/

def contentKeySchemaSupported (schemaVersion : UInt32) : Bool :=
  schemaVersion == 1 || schemaVersion == contentKeyExportSchemaVersion

/-- `decode_workspace_key_material` and `decode_channel_key_material`. -/
def decodeKeyMaterial
    (invalid : RuntimeError) (raw : RawKeyMaterial) : Except RuntimeError ContentKeyMaterial :=
  if isKey : raw.aes256GcmSivKey.length = workspaceKeyLen then
    .ok { keyId := raw.keyId, contentKey := ⟨raw.aes256GcmSivKey, isKey⟩ }
  else
    .error invalid

/-- The checks that exports and persisted records share. -/
def decodeKeyRing
    (unsupported : RuntimeError) (record : PersistedKey) : Except RuntimeError KeyRing := do
  ensure (contentKeySchemaSupported record.schemaVersion = true) unsupported
  let epoch := max record.epoch 1
  if named : record.keyId = record.scope.keyIdForEpoch epoch then
    let current ←
      decodeKeyMaterial record.scope.invalidKey ⟨record.keyId, record.aes256GcmSivKey⟩
    let previousKeys ← record.previousKeys.mapM (decodeKeyMaterial record.scope.invalidKey)
    .ok
      { scope := record.scope
        epoch := epoch
        keyId := record.keyId
        contentKey := current.contentKey
        previousKeys := previousKeys
        named := named }
  else
    .error record.scope.invalidKey

/-- `from_bytes`, after the JSON. -/
def KeyRing.fromPersisted (record : PersistedKey) : Except RuntimeError KeyRing :=
  decodeKeyRing record.scope.invalidKey record

def KeyRing.fromExport (exported : ContentKeyExport) : Except RuntimeError KeyRing :=
  decodeKeyRing exported.scope.unsupportedKeyExport
    { schemaVersion := exported.schemaVersion
      scope := exported.scope
      epoch := exported.epoch
      keyId := exported.keyId
      aes256GcmSivKey := exported.aes256GcmSivKey
      previousKeys := exported.previousKeys }

/-! ## Rings -/

namespace KeyRing

/-- The ring of the first epoch, with a generated key. -/
def generate (scope : KeyScope) (generated : ContentKey) : KeyRing where
  scope := scope
  epoch := 1
  keyId := scope.keyIdForEpoch 1
  contentKey := generated
  previousKeys := []
  named := rfl

variable (ring : KeyRing)

/-- The key after the current one.  Epochs wrap around. -/
def rotate (generated : ContentKey) : KeyRing where
  scope := ring.scope
  epoch := ring.epoch + 1
  keyId := ring.scope.keyIdForEpoch (ring.epoch + 1)
  contentKey := generated
  previousKeys := ring.previousKeys ++ [⟨ring.keyId, ring.contentKey⟩]
  named := rfl

/-- The first key of the ID, the current key before the others. -/
def resolveContentKey (keyId : String) : Option ContentKey :=
  if ring.keyId = keyId then
    some ring.contentKey
  else
    (ring.previousKeys.find? fun material => decide (material.keyId = keyId)).map
      ContentKeyMaterial.contentKey

def exportedPreviousKeys : List RawKeyMaterial :=
  ring.previousKeys.map ContentKeyMaterial.raw

def exported (exporterDeviceId : String) : ContentKeyExport where
  schemaVersion := contentKeyExportSchemaVersion
  scope := ring.scope
  epoch := ring.epoch
  keyId := ring.keyId
  exporterDeviceId := exporterDeviceId
  aes256GcmSivKey := ring.contentKey.bytes
  previousKeys := ring.exportedPreviousKeys

def persisted : PersistedKey where
  schemaVersion := contentKeyExportSchemaVersion
  scope := ring.scope
  epoch := ring.epoch
  keyId := ring.keyId
  aes256GcmSivKey := ring.contentKey.bytes
  previousKeys := ring.previousKeys.map ContentKeyMaterial.raw

/-! ## Round trips -/

theorem mapM_decodeKeyMaterial_raw (invalid : RuntimeError) (materials : List ContentKeyMaterial) :
    (materials.map ContentKeyMaterial.raw).mapM (decodeKeyMaterial invalid) = .ok materials := by
  induction materials with
  | nil => rfl
  | cons material rest inductionHypothesis =>
      have decoded : decodeKeyMaterial invalid material.raw = .ok material := by
        rw [decodeKeyMaterial, dif_pos (show material.raw.aes256GcmSivKey.length = workspaceKeyLen
          from material.contentKey.length_eq)]
        rfl
      rw [List.map_cons, List.mapM_cons, decoded, inductionHypothesis]
      rfl

private theorem max_epoch {epoch : UInt64} (started : epoch ≠ 0) : max epoch 1 = epoch := by
  have positive : epoch.toNat ≠ 0 := fun isZero => started (UInt64.toNat_inj.mp isZero)
  change (if epoch ≤ 1 then 1 else epoch) = epoch
  split
  · rename_i small
    rw [UInt64.le_iff_toNat_le] at small
    have one : (1 : UInt64).toNat = 1 := rfl
    exact UInt64.toNat_inj.mp (by omega)
  · rfl

private theorem max_one_ne_zero (epoch : UInt64) : max epoch 1 ≠ 0 := by
  change (if epoch ≤ 1 then 1 else epoch) ≠ 0
  split
  · decide
  · rename_i large
    rintro rfl
    exact large (by decide)

private theorem decodeKeyRing_raw
    (started : ring.epoch ≠ 0) (unsupported : RuntimeError) :
    decodeKeyRing unsupported ring.persisted = .ok ring := by
  have named : ring.keyId = ring.scope.keyIdForEpoch (max ring.epoch 1) := by
    rw [max_epoch started, ring.named]
  have current :
      decodeKeyMaterial ring.scope.invalidKey ⟨ring.keyId, ring.contentKey.bytes⟩ =
        .ok ⟨ring.keyId, ring.contentKey⟩ := by
    rw [decodeKeyMaterial, dif_pos (show ring.contentKey.bytes.length = workspaceKeyLen
      from ring.contentKey.length_eq)]
  have previous := mapM_decodeKeyMaterial_raw ring.scope.invalidKey ring.previousKeys
  simp only [decodeKeyRing, persisted, contentKeySchemaSupported, dif_pos named, current,
    previous, ensure, bind, Except.bind]
  simp [max_epoch started]

/-- A ring of a real epoch is read from its persisted record. -/
theorem fromPersisted_persisted (started : ring.epoch ≠ 0) :
    fromPersisted ring.persisted = .ok ring :=
  ring.decodeKeyRing_raw started _

/-- A ring of a real epoch is read from its export. -/
theorem fromExport_exported (started : ring.epoch ≠ 0) (exporterDeviceId : String) :
    fromExport (ring.exported exporterDeviceId) = .ok ring :=
  ring.decodeKeyRing_raw started _

/-- Rings that are read are of a real epoch. -/
theorem epoch_of_decodeKeyRing
    {unsupported : RuntimeError} {record : PersistedKey} {ring : KeyRing}
    (isRing : decodeKeyRing unsupported record = .ok ring) : ring.epoch ≠ 0 := by
  simp only [decodeKeyRing, bind_eq_ok_iff] at isRing
  obtain ⟨_, -, isRing⟩ := isRing
  split at isRing
  · simp only [bind_eq_ok_iff, Except.ok.injEq] at isRing
    obtain ⟨_, -, _, -, rfl⟩ := isRing
    exact max_one_ne_zero record.epoch
  · cases isRing

theorem epoch_of_fromExport
    {exported : ContentKeyExport} {ring : KeyRing} (isRing : fromExport exported = .ok ring) :
    ring.epoch ≠ 0 :=
  epoch_of_decodeKeyRing isRing

/-! ## Rings that keep the keys of others -/

/-- What the other ring resolves, this one resolves to the same key. -/
def Extends (other : KeyRing) : Prop :=
  ∀ keyId key, other.resolveContentKey keyId = some key → ring.resolveContentKey keyId = some key

/-- A rotation keeps the keys of a ring that does not know the next ID and has no other
key of the current one. -/
theorem rotate_extends
    {generated : ContentKey}
    (newId : ring.resolveContentKey (ring.rotate generated).keyId = none)
    (noOther :
      ∀ material ∈ ring.previousKeys, material.keyId = ring.keyId →
        material.contentKey = ring.contentKey) :
    (ring.rotate generated).Extends ring := by
  intro keyId key resolved
  have notNext : (ring.rotate generated).keyId ≠ keyId := by
    intro isNext
    rw [isNext, resolved] at newId
    cases newId
  rw [resolveContentKey] at resolved
  rw [resolveContentKey, if_neg notNext, rotate]
  dsimp only
  rw [List.find?_append]
  cases previous : ring.previousKeys.find? fun material => decide (material.keyId = keyId) with
  | none =>
      by_cases isCurrent : ring.keyId = keyId
      · rw [if_pos isCurrent] at resolved
        simpa [isCurrent] using resolved
      · rw [if_neg isCurrent, previous] at resolved
        cases resolved
  | some material =>
      have member := List.mem_of_find?_eq_some previous
      have sameId := List.find?_some previous
      rw [decide_eq_true_eq] at sameId
      by_cases isCurrent : ring.keyId = keyId
      · rw [if_pos isCurrent] at resolved
        rw [Option.some_or, Option.map_some, noOther material member (sameId.trans isCurrent.symm)]
        exact resolved
      · rw [if_neg isCurrent, previous] at resolved
        exact resolved

end KeyRing

end Chaft
