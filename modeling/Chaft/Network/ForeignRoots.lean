import Chaft.Network.PublishEvents

/-!
# Events on the authority of another root

A replica that holds the creation of a workspace also stores what a trust snapshot
with another root authorizes: the root of a snapshot is compared with nothing but the
snapshot itself.  Which requests exploit this is decided by one walk over the published
events, along the history that they build under the stored root.
-/

namespace Chaft

open Outcome Effects Effects.Effect PendingAdmission

/-- The history authorizes the event, or a snapshot with the given root does. -/
def authorizedUnderRoot
    (rootEventId : EventId) (trustSnapshots : List SignedTrustSnapshot)
    (history : List SignedEvent) (event : SignedEvent) : Bool :=
  (authorizeEventWithHistory history event).isOk ||
    trustSnapshots.any fun snapshot =>
      decide (snapshot.snapshot.rootEventId = rootEventId) &&
        (authorizeEventWithTrustSnapshot snapshot.snapshot event).isOk

/-- A snapshot with another root authorizes the event. -/
def authorizedUnderForeignRoot
    (rootEventId : EventId) (trustSnapshots : List SignedTrustSnapshot)
    (event : SignedEvent) : Bool :=
  trustSnapshots.any fun snapshot =>
    decide (snapshot.snapshot.rootEventId ≠ rootEventId) &&
      (authorizeEventWithTrustSnapshot snapshot.snapshot event).isOk

section ForeignRoots

variable (primitives : Primitives) (serialization : Serialization)

theorem isOk_authorizeWithHistoryOrSnapshot
    (rootEventId : EventId) (trustSnapshots : List SignedTrustSnapshot)
    (history : List SignedEvent) (event : SignedEvent) :
    (authorizeWithHistoryOrSnapshot history trustSnapshots event).isOk =
      (authorizedUnderRoot rootEventId trustSnapshots history event ||
        authorizedUnderForeignRoot rootEventId trustSnapshots event) := by
  have split :
      (trustSnapshots.any fun snapshot =>
          (authorizeEventWithTrustSnapshot snapshot.snapshot event).isOk) =
        ((trustSnapshots.any fun snapshot =>
            decide (snapshot.snapshot.rootEventId = rootEventId) &&
              (authorizeEventWithTrustSnapshot snapshot.snapshot event).isOk) ||
          authorizedUnderForeignRoot rootEventId trustSnapshots event) := by
    rw [authorizedUnderForeignRoot]
    induction trustSnapshots with
    | nil => rfl
    | cons snapshot rest inductionHypothesis =>
        rw [List.any_cons, List.any_cons, List.any_cons, inductionHypothesis]
        by_cases same : snapshot.snapshot.rootEventId = rootEventId
        · simp [same, Bool.or_assoc]
        · simp only [same, decide_false, Bool.false_and, Bool.false_or, ne_eq, not_false_eq_true,
            decide_true, Bool.true_and]
          rw [Bool.or_left_comm]
  rw [authorizeWithHistoryOrSnapshot, authorizedUnderRoot, Bool.or_assoc, ← split]
  cases decision : authorizeEventWithHistory history event with
  | ok done => rfl
  | error refusal =>
      dsimp only
      by_cases found :
          (trustSnapshots.any fun snapshot =>
            (authorizeEventWithTrustSnapshot snapshot.snapshot event).isOk) = true
      · rw [if_pos found, found]
        rfl
      · rw [if_neg found, Bool.not_eq_true _ |>.mp found]
        rfl

/-- The stored root is trusted, all others are not. -/
def rootAuthorities
    (rootEventId : EventId) (trustSnapshots : List SignedTrustSnapshot) :
    Authorities
      (pendingGate serialization trustSnapshots (onPublishedEvent primitives serialization)) where
  trusted := authorizedUnderRoot rootEventId trustSnapshots
  untrusted := authorizedUnderForeignRoot rootEventId trustSnapshots
  authorizes := isOk_authorizeWithHistoryOrSnapshot rootEventId trustSnapshots

/-- Every newly stored event of the workspace is authorized by the history before it or
by a snapshot with the given root. -/
def StoresUnderRoot
    (store : EventStore) (request : WireSyncRequest) (workspaceId : WorkspaceId)
    (root : SignedEvent) : Prop :=
  ∀ publication history event,
    readPublication primitives serialization request = .ok publication →
      NewlyStored primitives serialization store publication history event →
        event.event.workspaceId = workspaceId →
          authorizedUnderRoot root.eventId publication.trustSnapshots history event = true

/-- Where the request is read and its proof accepted: along the published events, no event
that the privacy policy lets pass is refused under the root and authorized under another
one. -/
def HarmlessRequest
    (store : EventStore) (request : WireSyncRequest) (workspaceId : WorkspaceId)
    (root : SignedEvent) : Prop :=
  ∀ publication proved,
    readPublication primitives serialization request = .ok publication →
      proveHistory serialization store publication = (.ok (), proved) →
        publication.workspaceId = some workspaceId →
          (rootAuthorities primitives serialization root.eventId
              publication.trustSnapshots).Harmless
            (fun event => (validateReplicaEventPrivacyPolicy event).isOk)
            proved.log publication.publishEvents

section Publications

variable {primitives serialization} {store : EventStore} {request : WireSyncRequest}
variable {publication : Publication}

/-- A newly stored event was published for the workspace of the request. -/
theorem workspaceId_of_newlyStored
    {history : List SignedEvent} {event : SignedEvent}
    (accepted : readPublication primitives serialization request = .ok publication)
    (stored : NewlyStored primitives serialization store publication history event) :
    publication.workspaceId = some event.event.workspaceId := by
  obtain ⟨added, -, published, isStored⟩ :=
    @publish_stores primitives serialization store publication
  exact (readPublication_eq_ok accepted event
    (published event ((isStored event).mpr ⟨history, stored⟩))).2

theorem grewTrusted_iff
    {proved : Admission EventStore SignedEvent} (rootEventId : EventId)
    (accepted : readPublication primitives serialization request = .ok publication)
    (proof : proveHistory serialization store publication = (.ok (), proved)) :
    (∀ history event,
        NewlyStored primitives serialization store publication history event →
          authorizedUnderRoot rootEventId publication.trustSnapshots history event = true) ↔
      (rootAuthorities primitives serialization rootEventId
          publication.trustSnapshots).Harmless
        (fun event => (validateReplicaEventPrivacyPolicy event).isOk)
        proved.log publication.publishEvents := by
  have writes :
      ∀ event ∈ publication.publishEvents, ∀ current,
        (onPublishedEvent primitives serialization current event).isOk =
          (validateReplicaEventPrivacyPolicy event).isOk :=
    fun event member => onPublishedEvent_isOk (readPublication_eq_ok accepted event member).1
  have published :
      publish primitives serialization publication store =
        authorizeAndStorePublishEvents primitives serialization publication.trustSnapshots
          publication.publishEvents proved := by
    rw [publish, proof]
  rw [← Authorities.admitAll_grewTrusted_iff proved writes]
  constructor
  · intro allUnderRoot history event begins ends
    apply allUnderRoot history event
    refine ⟨proved, proof, begins, ?_⟩
    rw [published]
    exact ends
  · rintro grew history event ⟨same, sameProof, begins, ends⟩
    rw [proof, Prod.mk.injEq] at sameProof
    rw [← sameProof.2] at begins
    rw [published] at ends
    exact grew history event begins ends

theorem newlyStored_of_logs
    {proved : Admission EventStore SignedEvent} {history : List SignedEvent}
    {event : SignedEvent}
    (proof : proveHistory serialization store publication = (.ok (), proved))
    (begins : proved.log = history)
    (ends :
      (publish primitives serialization publication store).2.log = history ++ [event]) :
    NewlyStored primitives serialization store publication history event := by
  refine ⟨proved, proof, ?_, ?_⟩
  · rw [begins]
  · rw [ends]

end Publications

/-- A publication stores under the root exactly when its request is harmless. -/
theorem storesUnderRoot_iff
    (store : EventStore) (request : WireSyncRequest) (workspaceId : WorkspaceId)
    (root : SignedEvent) :
    StoresUnderRoot primitives serialization store request workspaceId root ↔
      HarmlessRequest primitives serialization store request workspaceId root := by
  constructor
  · intro underRoot publication proved accepted proof ofWorkspace
    rw [← grewTrusted_iff root.eventId accepted proof]
    intro history event stored
    have named := workspaceId_of_newlyStored accepted stored
    rw [ofWorkspace, Option.some.injEq] at named
    exact underRoot publication history event accepted stored named.symm
  · intro harmless publication history event accepted stored ofWorkspace
    have named := workspaceId_of_newlyStored accepted stored
    rw [ofWorkspace] at named
    obtain ⟨proved, proof, begins, ends⟩ := stored
    have allUnderRoot :=
      (grewTrusted_iff root.eventId accepted proof).mpr
        (harmless publication proved accepted proof named)
    exact allUnderRoot history event ⟨proved, proof, begins, ends⟩

/-- A request whose snapshots all have the stored root is harmless. -/
theorem harmlessRequest_of_ownSnapshots
    {store : EventStore} {request : WireSyncRequest} {workspaceId : WorkspaceId}
    {root : SignedEvent}
    (own :
      ∀ publication, readPublication primitives serialization request = .ok publication →
        ∀ snapshot ∈ publication.trustSnapshots, snapshot.snapshot.rootEventId = root.eventId) :
    HarmlessRequest primitives serialization store request workspaceId root := by
  intro publication proved accepted _ _
  apply Authorities.harmless_of_trusted
  intro event _
  change authorizedUnderForeignRoot root.eventId publication.trustSnapshots event = false
  rw [authorizedUnderForeignRoot, List.any_eq_false]
  intro snapshot member
  simp [own publication accepted snapshot member]

end ForeignRoots

/-! ## A stranger's workspace

The device of the second RFC 8032 test vector creates another workspace `w`, signs a
snapshot of it, and creates a channel. -/

def strangerRootHash : String :=
  "05193b49bdce2260d6016abf2c6cdb5839a963104299c2ce2a3277d811fbb5e5"

def strangerRootSignature : List UInt8 :=
  [0xc3, 0xf9, 0x1d, 0x3b, 0x0d, 0xb4, 0xf8, 0x30, 0xa8, 0xe1, 0x63, 0xe7,
    0xcc, 0x20, 0xb6, 0xe0, 0xee, 0xfd, 0x1a, 0x3d, 0x42, 0x22, 0xdd, 0x05,
    0x7b, 0xa0, 0x7d, 0xe1, 0x2b, 0xcc, 0x9a, 0x38, 0x96, 0x53, 0x42, 0x10,
    0x33, 0x21, 0x31, 0x51, 0xfc, 0x55, 0x2e, 0x50, 0xc3, 0x67, 0x02, 0xa0,
    0x56, 0x3a, 0x52, 0x14, 0x9c, 0x4a, 0x08, 0x6e, 0xc2, 0xa6, 0xca, 0x15,
    0x5f, 0x85, 0x6f, 0x01]

def lobbyHash : String :=
  "87396ef8b4e34fd2c5869a6f9a28a83593b97b423513c2d307d068b8baaab96f"

def lobbySignature : List UInt8 :=
  [0x38, 0x3f, 0x74, 0x04, 0x11, 0xe2, 0xdb, 0xf5, 0x83, 0x94, 0x78, 0xfe,
    0x26, 0x59, 0x06, 0xfd, 0x4d, 0x2f, 0xaa, 0x3f, 0x19, 0x5b, 0x9e, 0xd9,
    0x57, 0x4b, 0x07, 0xdd, 0x8d, 0x3d, 0xaf, 0x52, 0x8f, 0x35, 0x71, 0xd0,
    0xa0, 0x58, 0x0b, 0x84, 0xd8, 0x91, 0xb0, 0x95, 0x81, 0x2e, 0x7e, 0x6e,
    0x70, 0x2c, 0xf2, 0x73, 0x4b, 0xb5, 0x9b, 0x69, 0x6f, 0x61, 0x0e, 0xac,
    0xd9, 0xe7, 0xdd, 0x0d]

def strangerSnapshotSignature : List UInt8 :=
  [0x8e, 0x68, 0xbb, 0xc1, 0x96, 0x9a, 0x92, 0xa0, 0x74, 0xa8, 0xff, 0x39,
    0x72, 0x2c, 0x7d, 0x71, 0x9c, 0x5f, 0xff, 0x4a, 0x33, 0xba, 0xf8, 0x9c,
    0xd7, 0x22, 0x90, 0xbb, 0x6d, 0x72, 0x0d, 0xae, 0xae, 0x55, 0x4b, 0x68,
    0x67, 0xf3, 0x9a, 0x73, 0xcc, 0xa2, 0x77, 0x7a, 0x0c, 0x48, 0x2e, 0xd8,
    0x03, 0x80, 0x13, 0x1e, 0x78, 0x90, 0xf2, 0x94, 0xb4, 0xe3, 0xee, 0x22,
    0xd3, 0x4b, 0xf6, 0x0d]

def strangerSignable (body : EventBody) : SignableEvent :=
  { homeCreation "home" with
    authorDeviceId := ⟨"dev_" ++ strangerDeviceHash⟩
    body := body }

def lobbyBody : EventBody :=
  .channelCreated ⟨"c"⟩ "lobby" false

/-- The JSON of an event of that device, in pieces. -/
def strangerJson (bodyJson : List String) : List String :=
  ["\x7b\"schema_version\":1,", "\"workspace_id\":\"w\",", "\"channel_id\":null,",
    "\"author_device_id\":\"dev_", strangerDeviceHash, "\",", "\"timestamp\":",
    "\x7b\"physical_ms\":0,\"logical\":0\x7d,", "\"parents\":[],", "\"body\":"] ++
    bodyJson ++ ["\x7d"]

def strangerRootJson : List UInt8 :=
  asciiBytes
    (strangerJson ["\x7b\"kind\":\"workspace_created\",", "\"name\":\"home\"\x7d"])

def lobbyJson : List UInt8 :=
  asciiBytes
    (strangerJson
      ["\x7b\"kind\":\"channel_created\",", "\"channel_id\":\"c\",",
        "\"name\":\"lobby\",", "\"is_private\":false\x7d"])

def strangerSnapshotJson : List UInt8 :=
  asciiBytes
    ["\x7b\"schema_version\":1,", "\"workspace_id\":\"w\",", "\"root_event_id\":\"evt_",
      strangerRootHash, "\",", "\"root_author_device_id\":\"dev_", strangerDeviceHash, "\",",
      "\"roles\":[],", "\"channels\":[],", "\"messages\":[],", "\"event_channels\":[],",
      "\"person_device_links\":[]\x7d"]

def strangerRoot : SignedEvent where
  eventId := ⟨"evt_" ++ strangerRootHash⟩
  event := strangerSignable (.workspaceCreated "home")
  authorPublicKey := strangerKey
  signature := strangerRootSignature

def strangerLobby : SignedEvent where
  eventId := ⟨"evt_" ++ lobbyHash⟩
  event := strangerSignable lobbyBody
  authorPublicKey := strangerKey
  signature := lobbySignature

def strangerSnapshot : SignedTrustSnapshot where
  snapshot :=
    { schemaVersion := 1
      workspaceId := ⟨"w"⟩
      rootEventId := strangerRoot.eventId
      rootAuthorDeviceId := ⟨"dev_" ++ strangerDeviceHash⟩
      roles := []
      channels := []
      messages := []
      eventChannels := []
      personDeviceLinks := [] }
  rootEvent := strangerRoot
  authorPublicKey := strangerKey
  signature := strangerSnapshotSignature

/-- The primitives as they behave on the events of both devices. -/
def twoDevicePrimitives : Primitives where
  blake3Hex bytes :=
    if bytes = strangerKey then
      strangerDeviceHash
    else if bytes = strangerRootJson ++ strangerRootSignature then
      strangerRootHash
    else if bytes = lobbyJson ++ lobbySignature then
      lobbyHash
    else
      homePrimitives.blake3Hex bytes
  isVerifyingKey bytes := decide (bytes = strangerKey) || homePrimitives.isVerifyingKey bytes
  verify key bytes signature :=
    homePrimitives.verify key bytes signature ||
      decide (key = strangerKey ∧
        (bytes, signature) ∈
          [(strangerRootJson, strangerRootSignature), (lobbyJson, lobbySignature),
            (strangerSnapshotJson, strangerSnapshotSignature)])
  signableEventJson event :=
    if event = strangerRoot.event then
      strangerRootJson
    else if event = strangerLobby.event then
      lobbyJson
    else
      homePrimitives.signableEventJson event
  trustSnapshotJson snapshot :=
    if snapshot = strangerSnapshot.snapshot then strangerSnapshotJson else []

/-- The JSON of a whole event, from the JSON of its signed part. -/
def wholeEventJson (eventJson : List UInt8) (event : SignedEvent) : List UInt8 :=
  asciiBytes ["\x7b\"event_id\":\"", event.eventId.text, "\",\"event\":"] ++ eventJson ++
    asciiBytes
      ([",\"author_public_key\":"] ++ bytesJson event.authorPublicKey ++
        [",\"signature\":"] ++ bytesJson event.signature ++ ["\x7d"])

/-- The libraries as they behave on the creation of the home and on the channel. -/
def twoEventSerialization : Serialization where
  json :=
    .ofPair signedHome strangerLobby (signedCreationJson "home" signedHome)
      (wholeEventJson lobbyJson strangerLobby)
  eventBodyFromSlice _ := none
  trustSnapshotFromSlice _ := none
  eventFromBytes _ := none
  trustSnapshotFromBytes _ := none
  debugText text := "\"" ++ text ++ "\""

def homeStore : EventStore :=
  EventStore.empty.after twoDevicePrimitives twoEventSerialization.json [signedHome]

/-- The channel with the snapshot that authorizes it. -/
def strangerRequest : WireSyncRequest where
  kind := 3
  eventIds := []
  events := []
  authorizationEvents := []
  authorizationSnapshots := []
  blobHashes := []
  blobs := []
  blobDescriptors := []
  workspaceId := none
  eventEnvelopes := [encodeEventEnvelope strangerLobby]
  authorizationEventEnvelopes := []
  authorizationSnapshotEnvelopes := [encodeTrustSnapshotEnvelope strangerSnapshot]
  inventoryStartIndex := none
  inventoryLimit := none

def strangerPublication : Publication where
  proofEvents := []
  trustSnapshots := [strangerSnapshot]
  publishEvents := [strangerLobby]
  workspaceId := some ⟨"w"⟩

/-- What the replica makes of the stranger's channel, evaluated at once. -/
private theorem strangerPublication_facts :
    ((homeStore.listServableEventsForWorkspace twoEventSerialization.json
        "w").filter fun event => createsWorkspace event.event.body) = [signedHome] ∧
      readPublication twoDevicePrimitives twoEventSerialization strangerRequest =
        .ok strangerPublication ∧
      storedHistory twoEventSerialization homeStore strangerPublication = [signedHome] ∧
      (publish twoDevicePrimitives twoEventSerialization strangerPublication homeStore).2.log =
        [signedHome, strangerLobby] ∧
      authorizedUnderRoot signedHome.eventId [strangerSnapshot] [signedHome] strangerLobby =
        false := by
  decide +kernel

/-- A replica with the home in its store accepts the stranger's channel. -/
theorem publication_not_storesUnderRoot :
    ¬ ∀ (store : EventStore) (request : WireSyncRequest) (workspaceId : WorkspaceId)
        (root : SignedEvent),
      ((store.listServableEventsForWorkspace twoEventSerialization.json
            workspaceId.text).filter fun event => createsWorkspace event.event.body) = [root] →
        StoresUnderRoot twoDevicePrimitives twoEventSerialization store request workspaceId
          root := by
  intro claim
  obtain ⟨oneRoot, accepted, history, published, refused⟩ := strangerPublication_facts
  have proof :
      proveHistory twoEventSerialization homeStore strangerPublication =
        (.ok (), { store := homeStore, log := [signedHome] }) := by
    rw [← history]
    rfl
  have stored :
      NewlyStored twoDevicePrimitives twoEventSerialization homeStore strangerPublication
        [signedHome] strangerLobby :=
    newlyStored_of_logs proof rfl published
  have underRoot :=
    claim homeStore strangerRequest ⟨"w"⟩ signedHome oneRoot strangerPublication [signedHome]
      strangerLobby accepted stored rfl
  exact Bool.false_ne_true (refused.symm.trans underRoot)

end Chaft
