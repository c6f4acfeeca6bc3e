import Chaft.Runtime.KeyFiles
import Chaft.Storage.BlobStore
import Chaft.View.BodyOverrides

/-!
# Decrypted snapshots

The runtime opens the sealed bodies that a snapshot can show.  The key of a body is looked
for in the MLS group of its scope and then in the key ring; a body without a key keeps its
placeholder.
-/

namespace Chaft

open Keyed Outcome

/-! ## Opening a body -/

def messageMarkdownAad
    (workspaceId : WorkspaceId) (channelId : ChannelId) (messageId : MessageId) : List UInt8 :=
  ("chaft:v1:message_markdown:" ++ workspaceId.text ++ ":" ++ channelId.text ++ ":" ++
    messageId.text).toUTF8.toList

def openMessageMarkdown
    (aead : Aead) (key : ContentKey) (payload : SealedPayload) (workspaceId : WorkspaceId)
    (channelId : ChannelId) (messageId : MessageId) : Except CryptoError String := do
  let bytes ← openAes256GcmSivWithAad aead key payload
    (messageMarkdownAad workspaceId channelId messageId)
  okOr (String.fromUTF8? bytes.toByteArray) .invalidUtf8

/-- What the MLS library makes of the group states on this device. -/
structure OpenMlsGroups where
  hasGroupState : Bool
  /-- `openmls_group_content_key_for_key_id`. -/
  contentKeyForKeyId : ContentKeyScope → String → Except RuntimeError (Option ContentKey)
  /-- Whether `openmls_channel_content_key` finds a key. -/
  channelKeyIsReady : ChannelId → Except RuntimeError Bool

/-- All that is read for a snapshot. -/
structure ReadingState extends RuntimeState where
  groups : OpenMlsGroups
  blobs : BlobStore

/-- The reader of manifests is the one library that key files do not use. -/
structure ReadingLibraries extends KeyLibraries where
  manifestFromSlice : Bytes → Option BlobDescriptor

namespace LocalRuntime

variable (libraries : ReadingLibraries) (runtime : LocalRuntime) (reading : ReadingState)
  (workspaceId : WorkspaceId)

def readerDeviceId : DeviceId :=
  runtime.identity.deviceId libraries.primitives

def contentKeyForMaterializedPayload
    (state : WorkspaceState) (workspaceKey : Option KeyRing) (channelId : ChannelId)
    (keyId : String) : Except RuntimeError (Option ContentKey) :=
  match state.channels[channelId]? with
  | none => .ok none
  | some channel =>
      if channel.isPrivate then do
        match ← reading.groups.contentKeyForKeyId (.channel channelId) keyId with
        | some key => .ok (some key)
        | none =>
            let channelKey ← runtime.loadKey libraries.toKeyLibraries reading.files
              (.channel workspaceId channelId)
            .ok (channelKey.bind fun ring => ring.resolveContentKey keyId)
      else do
        match ← reading.groups.contentKeyForKeyId .workspace keyId with
        | some key => .ok (some key)
        | none => .ok (workspaceKey.bind fun ring => ring.resolveContentKey keyId)

/-- The keys that were looked for already, by channel and key ID. -/
abbrev ResolvedKeys := List ((String × String) × Option ContentKey)

def resolveCached
    (state : WorkspaceState) (workspaceKey : Option KeyRing) (channelId : ChannelId)
    (keyId : String) (resolved : ResolvedKeys) :
    Except RuntimeError (Option ContentKey × ResolvedKeys) :=
  match resolved.lookup (channelId.text, keyId) with
  | some found => .ok (found, resolved)
  | none => do
      let key ← runtime.contentKeyForMaterializedPayload libraries reading workspaceId state
        workspaceKey channelId keyId
      .ok (key, ((channelId.text, keyId), key) :: resolved)

def overrideBody
    (state : WorkspaceState) (workspaceKey : Option KeyRing) (eventIds : HashSet EventId)
    (passed : BodyOverrides × ResolvedKeys) (message : MessageView) :
    Except RuntimeError (BodyOverrides × ResolvedKeys) :=
  if message.authorEventId ∈ eventIds ∧
      state.channelAccessibleTo message.channelId (runtime.readerDeviceId libraries) = true then
    match message.sealedMarkdown with
    | none => .ok passed
    | some payload => do
        let (key, resolved) ← runtime.resolveCached libraries reading workspaceId state
          workspaceKey message.channelId payload.keyId passed.2
        match key with
        | none => .ok (passed.1, resolved)
        | some key => do
            let plaintext ← (openMessageMarkdown libraries.aead key payload workspaceId
              message.channelId message.messageId).mapError .crypto
            .ok (passed.1.insert message.authorEventId.text plaintext, resolved)
  else
    .ok passed

def decryptedBodyOverridesForEventIds
    (state : WorkspaceState) (workspaceKey : Option KeyRing) (eventIds : HashSet EventId) :
    Except RuntimeError BodyOverrides :=
  ((listedValues state.messages).foldlM
    (runtime.overrideBody libraries reading workspaceId state workspaceKey eventIds)
    (∅, [])).map Prod.fst

/-! ## Annotations -/

def annotateChannel (channel : ChannelSnapshot) : Except RuntimeError ChannelSnapshot :=
  if channel.isPrivate then do
    let ready ←
      if ← reading.groups.channelKeyIsReady ⟨channel.channelId⟩ then
        .ok true
      else do
        let key ← runtime.loadKey libraries.toKeyLibraries reading.files
          (.channel workspaceId ⟨channel.channelId⟩)
        .ok key.isSome
    .ok
      { channel with
        localContentReady := ready
        accessState := if ready then "ready" else "key_pending" }
  else
    .ok { channel with localContentReady := true, accessState := "ready" }

def annotateAttachment (attachment : AttachmentSnapshot) :
    Except RuntimeError AttachmentSnapshot := do
  let available ← (reading.blobs.hasCompleteBlob libraries.manifestFromSlice
    attachment.blobHash).mapError .media
  .ok { attachment with localBlobAvailable := some available }

def annotateItem (item : TimelineItem) : Except RuntimeError TimelineItem := do
  let attachments ← item.attachments.mapM (annotateAttachment libraries reading)
  .ok { item with attachments := attachments }

/-- `annotate_channel_content_readiness` and then `annotate_attachment_availability`. -/
def annotateSnapshot (snapshot : WorkspaceSnapshot) : Except RuntimeError WorkspaceSnapshot := do
  let channels ← snapshot.channels.mapM
    (runtime.annotateChannel libraries reading workspaceId)
  let timeline ← snapshot.timeline.mapM (annotateItem libraries reading)
  .ok { snapshot with channels := channels, timeline := timeline }

/-! ## Snapshots -/

/-- The ring of the workspace, which may only be missing where there are MLS groups. -/
def workspaceKeyForReading : Except RuntimeError (Option KeyRing) := do
  let workspaceKey ← runtime.loadKey libraries.toKeyLibraries reading.files
    (.workspace workspaceId)
  if workspaceKey.isNone ∧ reading.groups.hasGroupState = false then
    let _ ← runtime.secrets.readLocalSecretFile libraries.toSecretLibraries reading.files
      (runtime.keyPath (.workspace workspaceId)) localSecretKindWorkspaceKey
  .ok workspaceKey

/-- The events that are listed, and those of them that are materialized. -/
def rawEvents : List SignedEvent :=
  reading.store.listParseableEventsForWorkspace libraries.eventJson workspaceId.text

def materializedEvents : List SignedEvent :=
  verifiedLocalEventsForRuntime libraries.primitives (rawEvents libraries reading workspaceId)

def validateSnapshotChannelScope
    (state : WorkspaceState) (options : WorkspaceSnapshotOptions) : Except RuntimeError Unit :=
  match options.timelineChannelId with
  | none => .ok ()
  | some channelId => do
      validateChannelIdReference channelId
      ensure (channelId ∈ state.channels) (.channelNotFound workspaceId channelId)
      ensure (state.channelAccessibleTo channelId (runtime.readerDeviceId libraries) = true)
        (.channelAccessDenied workspaceId channelId (runtime.readerDeviceId libraries))

/-- The rendering itself; `none` stands for a panic. -/
def renderedSnapshot
    (state : WorkspaceState) (report : MaterializationReport) (bodyOverrides : BodyOverrides)
    (options : WorkspaceSnapshotOptions) : Option WorkspaceSnapshot :=
  state.workspaceSnapshot workspaceId report (rawEvents libraries reading workspaceId)
    (some (runtime.readerDeviceId libraries)) bodyOverrides options
    (invalidSignaturesForSnapshot libraries.primitives
      (rawEvents libraries reading workspaceId))

def decryptedWorkspaceSnapshotWithOptions (options : WorkspaceSnapshotOptions) :
    Except RuntimeError (Option WorkspaceSnapshot) := do
  validateWorkspaceIdReference workspaceId
  let _ ← options.timelineChannelId.mapM validateChannelIdReference
  let workspaceKey ← runtime.workspaceKeyForReading libraries reading workspaceId
  match (WorkspaceState.new workspaceId).applyBatch
      (materializedEvents libraries reading workspaceId) with
  | (.error raised, _) => .error (.core raised)
  | (.ok report, state) => do
      runtime.validateSnapshotChannelScope libraries workspaceId state options
      let eventIds := state.bodyOverrideEventIdsForSnapshotWindow libraries.primitives report
        (rawEvents libraries reading workspaceId) (runtime.readerDeviceId libraries) options
      let bodyOverrides ← runtime.decryptedBodyOverridesForEventIds libraries reading workspaceId
        state workspaceKey eventIds
      (runtime.renderedSnapshot libraries reading workspaceId state report bodyOverrides
        options).mapM (runtime.annotateSnapshot libraries reading workspaceId)

end LocalRuntime

end Chaft
