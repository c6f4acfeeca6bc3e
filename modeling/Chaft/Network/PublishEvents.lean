import Chaft.Core.HistoryAuthorization
import Chaft.Core.TrustSnapshot
import Chaft.Library.Admission
import Chaft.Network.SyncRequest
import Chaft.Network.WireTrustSnapshot
import Chaft.Storage.AppendOnly

/-!
# Publication of events

A peer publishes events together with what authorizes them: further events as a proof,
and trust snapshots.  The proof events join the history that the replica has stored and
are forgotten after the request.  A published event is stored when that history
authorizes it, or when one of the snapshots does.
-/

namespace Chaft

open Outcome Effects Effects.Effect PendingAdmission

def maxPublishEventsPerRequest : Nat := 128
def maxAuthorizationEventsPerRequest : Nat := 128
def maxAuthorizationSnapshotsPerRequest : Nat := 32

/-- What the handler takes from the libraries for JSON, Protobuf and texts. -/
structure Serialization where
  json : EventJson
  eventBodyFromSlice : List UInt8 → Option EventBody
  trustSnapshotFromSlice : List UInt8 → Option SignedTrustSnapshot
  eventFromBytes : List UInt8 → Option WireEventEnvelope
  trustSnapshotFromBytes : List UInt8 → Option WireSignedTrustSnapshot
  /-- A text as `{:?}` shows it. -/
  debugText : String → String

def WireError.toProtocol (error : WireError) : NetError :=
  .protocol error.message

def IdentityError.toProtocol (error : IdentityError) : NetError :=
  .protocol error.message

def StoreError.toProtocol (debugText : String → String) (error : StoreError) : NetError :=
  .protocol (error.message debugText)

/-! ## Checks -/

def validateWireWorkspaceId (context workspaceId : String) : Except NetError Unit := do
  let trimmed := Text.trim workspaceId.toList
  ensure (trimmed ≠ []) (.protocol (context ++ " workspace ID is blank"))
  ensure (trimmed = workspaceId.toList) (.protocol (context ++ " workspace ID must be trimmed"))
  (validateWorkspaceIdStr workspaceId).mapError fun error => .protocol error.message

def validateRequestWorkspaceIdOption
    (context : String) (workspaceId : Option String) : Except NetError Unit :=
  match workspaceId with
  | some workspaceId => validateWireWorkspaceId context workspaceId
  | none => .ok ()

/-- The published events, each against those before it and against the proof. -/
def validatePublishedIds
    (proofEventIds : List EventId) : List EventId → List SignedEvent → Except NetError Unit
  | _, [] => .ok ()
  | seen, event :: rest => do
      ensure (event.eventId ∉ seen)
        (.protocol ("publish-events event duplicate value " ++ event.eventId.text))
      ensure (event.eventId ∉ proofEventIds)
        (.protocol ("publish-events event also appears as proof event " ++ event.eventId.text))
      validatePublishedIds proofEventIds (event.eventId :: seen) rest

def validatePublishEventSetsUnique
    (proofEvents publishEvents : List SignedEvent) : Except NetError Unit := do
  checkDistinct SignedEvent.eventId
    (fun (event : SignedEvent) =>
      .protocol ("publish-events proof event duplicate value " ++ event.eventId.text))
    [] proofEvents
  validatePublishedIds (proofEvents.map SignedEvent.eventId) [] publishEvents

def observePublishWorkspace
    (workspaceId : Option WorkspaceId) (candidate : WorkspaceId) :
    Except NetError (Option WorkspaceId) :=
  match workspaceId with
  | none => .ok (some candidate)
  | some existing => do
      ensure (existing = candidate) (.protocol "publish request spans multiple workspaces")
      .ok (some existing)

def publishRequestWorkspaceId
    (wireWorkspaceId : Option String) (proofEvents : List SignedEvent)
    (trustSnapshots : List SignedTrustSnapshot) (publishEvents : List SignedEvent) :
    Except NetError (Option WorkspaceId) := do
  validateRequestWorkspaceIdOption "publish-events" wireWorkspaceId
  let workspaceId ←
    (publishEvents ++ proofEvents).foldlM
      (fun workspaceId (event : SignedEvent) =>
        observePublishWorkspace workspaceId event.event.workspaceId)
      (wireWorkspaceId.map Identifier.mk)
  trustSnapshots.foldlM
    (fun workspaceId (snapshot : SignedTrustSnapshot) => do
      let workspaceId ← observePublishWorkspace workspaceId snapshot.snapshot.workspaceId
      observePublishWorkspace workspaceId snapshot.rootEvent.event.workspaceId)
    workspaceId

def validateSealedMessagePayload (sealedPayload : SealedPayload) : Except NetError Unit :=
  ensure (sealedPayload.mode = .aes256GcmSiv)
    (.protocol "replica sync requires AES-256-GCM-SIV encrypted message payloads")

def validateEncryptedAttachmentRef (attachment : AttachmentRef) : Except NetError Unit := do
  let encryption ← okOr attachment.encryption
    (.protocol "replica sync requires encrypted attachment metadata")
  ensure (encryption.mode = .aes256GcmSiv)
    (.protocol "replica sync requires AES-256-GCM-SIV encrypted attachment metadata")

def validateEncryptedAttachmentRefs (attachments : List AttachmentRef) : Except NetError Unit :=
  checkAll validateEncryptedAttachmentRef attachments

def validateReplicaEventPrivacyPolicy (event : SignedEvent) : Except NetError Unit :=
  match event.event.body with
  | .messageCreated ..
  | .messageReplyCreated ..
  | .messageEdited .. => .error (.protocol "replica sync requires encrypted message payloads")
  | .messageCreatedEncrypted _ sealedMarkdown attachments
  | .messageReplyCreatedEncrypted _ _ sealedMarkdown attachments => do
      validateSealedMessagePayload sealedMarkdown
      validateEncryptedAttachmentRefs attachments
  | .messageEditedEncrypted _ sealedMarkdown => validateSealedMessagePayload sealedMarkdown
  | _ => .ok ()

section Handler

variable (primitives : Primitives) (serialization : Serialization)

def validateTrustSnapshotsUnique (snapshots : List SignedTrustSnapshot) : Except NetError Unit :=
  checkDistinct
    (fun (snapshot : SignedTrustSnapshot) =>
      (snapshot.snapshot.signingBytes primitives, snapshot.rootEvent.eventId.text,
        snapshot.authorPublicKey, snapshot.signature))
    (fun snapshot =>
      .protocol ("publish-events trust snapshot duplicate value " ++
        snapshot.snapshot.rootEventId.text))
    [] snapshots

/-! ## Reading a request -/

def validateDecodedEventSize (event : SignedEvent) : Except NetError Unit :=
  (validateSignedEventJsonSize serialization.json event).mapError
    (StoreError.toProtocol serialization.debugText)

def decodeEvent (bytes : List UInt8) : Except WireError SignedEvent := do
  let wire ← okOr (serialization.eventFromBytes bytes) .decode
  decodeEventEnvelope primitives serialization.eventBodyFromSlice wire

/-- An event that was decoded, with the check of its size. -/
def checkDecodedEvent (decoded : Except WireError SignedEvent) : Except NetError SignedEvent := do
  let event ← decoded.mapError WireError.toProtocol
  validateDecodedEventSize serialization event
  .ok event

def decodeEvents
    (eventEnvelopes : List WireEventEnvelope) (eventBytes : List (List UInt8)) :
    Except NetError (List SignedEvent) := do
  let fromEnvelopes ← eventEnvelopes.mapM fun envelope =>
    checkDecodedEvent serialization
      (decodeEventEnvelope primitives serialization.eventBodyFromSlice envelope)
  let fromBytes ← eventBytes.mapM fun bytes =>
    checkDecodedEvent serialization (decodeEvent primitives serialization bytes)
  .ok (fromEnvelopes ++ fromBytes)

def decodeAndVerifyEvents
    (eventEnvelopes : List WireEventEnvelope) (eventBytes : List (List UInt8)) :
    Except NetError (List SignedEvent) := do
  let events ← decodeEvents primitives serialization eventEnvelopes eventBytes
  checkAll
    (fun event => (verifySelfContainedEvent primitives event).mapError IdentityError.toProtocol)
    events
  .ok events

/-- A snapshot that was decoded, with its verification. -/
def checkDecodedTrustSnapshot
    (decoded : Except WireError SignedTrustSnapshot) : Except NetError SignedTrustSnapshot := do
  let snapshot ← decoded.mapError WireError.toProtocol
  (verifySelfContainedTrustSnapshot primitives snapshot).mapError IdentityError.toProtocol
  .ok snapshot

def decodeAndVerifyTrustSnapshots
    (snapshotEnvelopes : List WireSignedTrustSnapshot) (snapshotBytes : List (List UInt8)) :
    Except NetError (List SignedTrustSnapshot) := do
  let fromEnvelopes ← snapshotEnvelopes.mapM fun envelope =>
    checkDecodedTrustSnapshot primitives
      (decodeTrustSnapshotEnvelope primitives serialization.eventBodyFromSlice envelope)
  let fromBytes ← snapshotBytes.mapM fun bytes =>
    checkDecodedTrustSnapshot primitives
      (decodeTrustSnapshot primitives serialization.eventBodyFromSlice
        serialization.trustSnapshotFromSlice serialization.trustSnapshotFromBytes bytes)
  .ok (fromEnvelopes ++ fromBytes)

/-- A request that passed the checks that come before authorization. -/
structure Publication where
  proofEvents : List SignedEvent
  trustSnapshots : List SignedTrustSnapshot
  publishEvents : List SignedEvent
  workspaceId : Option WorkspaceId
  deriving DecidableEq

def readPublication (request : WireSyncRequest) : Except NetError Publication := do
  validateRequestShape request "publish-events"
    { AllowedRequestFields.empty with
      events := true
      authorizationEvents := true
      authorizationSnapshots := true
      workspaceId := true
      eventEnvelopes := true
      authorizationEventEnvelopes := true
      authorizationSnapshotEnvelopes := true }
  validateRequestWorkspaceIdOption "publish-events" request.workspaceId
  validateRequestItemCount "publish-events event"
    (request.eventEnvelopes.length + request.events.length) maxPublishEventsPerRequest
  validateRequestItemCount "publish-events authorization event"
    (request.authorizationEventEnvelopes.length + request.authorizationEvents.length)
    maxAuthorizationEventsPerRequest
  validateRequestItemCount "publish-events authorization snapshot"
    (request.authorizationSnapshotEnvelopes.length + request.authorizationSnapshots.length)
    maxAuthorizationSnapshotsPerRequest
  let proofEvents ←
    decodeAndVerifyEvents primitives serialization request.authorizationEventEnvelopes
      request.authorizationEvents
  let trustSnapshots ←
    decodeAndVerifyTrustSnapshots primitives serialization
      request.authorizationSnapshotEnvelopes request.authorizationSnapshots
  let publishEvents ←
    decodeAndVerifyEvents primitives serialization request.eventEnvelopes request.events
  validatePublishEventSetsUnique proofEvents publishEvents
  validateTrustSnapshotsUnique primitives trustSnapshots
  let workspaceId ←
    publishRequestWorkspaceId request.workspaceId proofEvents trustSnapshots publishEvents
  .ok
    { proofEvents := proofEvents
      trustSnapshots := trustSnapshots
      publishEvents := publishEvents
      workspaceId := workspaceId }

/-! ## Authorization -/

def historyContains (history : List SignedEvent) (eventId : EventId) : Bool :=
  history.any fun event => decide (event.eventId = eventId)

def authorizeWithHistoryOrSnapshot
    (history : List SignedEvent) (trustSnapshots : List SignedTrustSnapshot)
    (event : SignedEvent) : Except AuthorizationError Unit :=
  match authorizeEventWithHistory history event with
  | .ok () => .ok ()
  | .error historyError =>
      if trustSnapshots.any fun snapshot =>
          (authorizeEventWithTrustSnapshot snapshot.snapshot event).isOk then
        .ok ()
      else
        .error historyError

/-- The loop over the pending events.  A store that refuses an event on the way ends
it, and so does an event that nothing authorizes. -/
def pendingGate
    (trustSnapshots : List SignedTrustSnapshot)
    (onAuthorized : EventStore → SignedEvent → Except NetError EventStore) :
    Gate EventStore SignedEvent AuthorizationError NetError where
  known history event := historyContains history event.eventId
  authorize history event := authorizeWithHistoryOrSnapshot history trustSnapshots event
  write := onAuthorized
  refuse event error :=
    .protocol ("event " ++ event.eventId.text ++ " is not authorized by workspace history: " ++
      error.message serialization.debugText)
  mistaken := .protocol "pending event should still fail authorization"

def authorizePendingEvents
    (trustSnapshots : List SignedTrustSnapshot) (events : List SignedEvent)
    (onAuthorized : EventStore → SignedEvent → Except NetError EventStore) :
    Effect (Admission EventStore SignedEvent) NetError Unit :=
  (pendingGate serialization trustSnapshots onAuthorized).admitAll events

/-- Proof events join the history and are not stored. -/
def onProofEvent (store : EventStore) (event : SignedEvent) : Except NetError EventStore := do
  validateReplicaEventPrivacyPolicy event
  .ok store

def authorizeProofEvents (proofEvents : List SignedEvent) :
    Effect (Admission EventStore SignedEvent) NetError Unit :=
  authorizePendingEvents serialization [] proofEvents onProofEvent

def onPublishedEvent (store : EventStore) (event : SignedEvent) : Except NetError EventStore := do
  validateReplicaEventPrivacyPolicy event
  (store.appendEvent primitives serialization.json event).mapError
    (StoreError.toProtocol serialization.debugText)

def authorizeAndStorePublishEvents
    (trustSnapshots : List SignedTrustSnapshot) (events : List SignedEvent) :
    Effect (Admission EventStore SignedEvent) NetError Unit :=
  authorizePendingEvents serialization trustSnapshots events
    (onPublishedEvent primitives serialization)

/-! ## The handler -/

def storedHistory (store : EventStore) (publication : Publication) : List SignedEvent :=
  match publication.workspaceId with
  | some workspaceId => store.listServableEventsForWorkspace serialization.json workspaceId.text
  | none => []

/-- The stored history with the proof events that it authorizes. -/
def proveHistory (store : EventStore) (publication : Publication) :
    Except NetError Unit × Admission EventStore SignedEvent :=
  authorizeProofEvents serialization publication.proofEvents
    { store := store, log := storedHistory serialization store publication }

def publish (publication : Publication) (store : EventStore) :
    Except NetError Unit × Admission EventStore SignedEvent :=
  match proveHistory serialization store publication with
  | (.error raised, proved) => (.error raised, proved)
  | (.ok (), proved) =>
      authorizeAndStorePublishEvents primitives serialization publication.trustSnapshots
        publication.publishEvents proved

/-- The answer to a request of the kind `PublishEvents`. -/
def handlePublishEvents (request : WireSyncRequest) : Effect EventStore NetError WireSyncResponse :=
  fun store =>
    match readPublication primitives serialization request with
    | .error raised => (.error raised, store)
    | .ok publication =>
        match publish primitives serialization publication store with
        | (result, published) => (result.map fun _ => emptySyncResponse, published.store)

/-! ## The published events of a request -/

section Requests

variable {primitives serialization}

/-- A decoded event is small enough to be stored. -/
theorem validSize_of_decoded
    {eventEnvelopes : List WireEventEnvelope} {eventBytes : List (List UInt8)}
    {events : List SignedEvent}
    (decoded :
      decodeAndVerifyEvents primitives serialization eventEnvelopes eventBytes = .ok events) :
    ∀ event ∈ events, validateSignedEventJsonSize serialization.json event = .ok () := by
  simp only [decodeAndVerifyEvents, decodeEvents, bind_eq_ok_iff, Except.ok.injEq] at decoded
  obtain ⟨all, ⟨fromEnvelopes, envelopesRead, fromBytes, bytesRead, rfl⟩, -, -, rfl⟩ := decoded
  have sized :
      ∀ (result : Except WireError SignedEvent) (event : SignedEvent),
        checkDecodedEvent serialization result = .ok event →
          validateSignedEventJsonSize serialization.json event = .ok () := by
    intro result event checked
    simp only [checkDecodedEvent, validateDecodedEventSize, bind_eq_ok_iff, renamed_eq_ok_iff,
      Except.ok.injEq] at checked
    obtain ⟨read, -, _, fits, rfl⟩ := checked
    exact fits
  intro event member
  rcases List.mem_append.mp member with inEnvelopes | inBytes
  · obtain ⟨envelope, -, checked⟩ := exists_of_mem_mapM envelopesRead event inEnvelopes
    exact sized _ event checked
  · obtain ⟨bytes, -, checked⟩ := exists_of_mem_mapM bytesRead event inBytes
    exact sized _ event checked

/-- Whatever a workspace fold has seen is the workspace at its end. -/
theorem foldlM_observe_eq_ok
    {α : Type} {observe : Option WorkspaceId → α → Except NetError (Option WorkspaceId)}
    {names : α → WorkspaceId → Prop}
    (observes :
      ∀ before item after, observe before item = .ok after →
        (∀ workspaceId, before = some workspaceId → after = some workspaceId) ∧
          ∀ workspaceId, names item workspaceId → after = some workspaceId)
    {items : List α} {start final : Option WorkspaceId}
    (folded : items.foldlM observe start = .ok final) :
    (∀ workspaceId, start = some workspaceId → final = some workspaceId) ∧
      ∀ item ∈ items, ∀ workspaceId, names item workspaceId → final = some workspaceId := by
  induction items generalizing start with
  | nil =>
      cases folded
      exact ⟨fun _ same => same, fun _ member => absurd member List.not_mem_nil⟩
  | cons item rest inductionHypothesis =>
      rw [List.foldlM_cons, bind_eq_ok_iff] at folded
      obtain ⟨middle, observed, folded⟩ := folded
      obtain ⟨kept, seen⟩ := observes start item middle observed
      obtain ⟨laterKept, laterSeen⟩ := inductionHypothesis folded
      refine ⟨fun workspaceId same => laterKept workspaceId (kept workspaceId same), ?_⟩
      intro other member workspaceId isNamed
      rcases List.mem_cons.mp member with isItem | isLater
      · rw [isItem] at isNamed
        exact laterKept workspaceId (seen workspaceId isNamed)
      · exact laterSeen other isLater workspaceId isNamed

theorem observePublishWorkspace_eq_ok
    {before after : Option WorkspaceId} {candidate : WorkspaceId}
    (observed : observePublishWorkspace before candidate = .ok after) :
    (∀ workspaceId, before = some workspaceId → after = some workspaceId) ∧
      after = some candidate := by
  cases before with
  | none =>
      cases observed
      exact ⟨fun _ impossible => (nomatch impossible), rfl⟩
  | some existing =>
      simp only [observePublishWorkspace, bind_eq_ok_iff, ensure_eq_ok_iff, Except.ok.injEq,
        exists_const] at observed
      obtain ⟨same, rfl⟩ := observed
      exact ⟨fun _ given => given, congrArg some same⟩

example : (observePublishWorkspace (some ⟨"w"⟩) ⟨"v"⟩).isOk = false := by
  decide +kernel

theorem publishRequestWorkspaceId_eq_ok
    {wireWorkspaceId : Option String} {proofEvents publishEvents : List SignedEvent}
    {trustSnapshots : List SignedTrustSnapshot} {workspaceId : Option WorkspaceId}
    (decided :
      publishRequestWorkspaceId wireWorkspaceId proofEvents trustSnapshots publishEvents =
        .ok workspaceId) :
    ∀ event ∈ publishEvents, workspaceId = some event.event.workspaceId := by
  simp only [publishRequestWorkspaceId, bind_eq_ok_iff] at decided
  obtain ⟨-, -, afterEvents, eventsFolded, snapshotsFolded⟩ := decided
  have seen :=
    (foldlM_observe_eq_ok
      (fun _ (event : SignedEvent) _ observed =>
        (observePublishWorkspace_eq_ok observed).imp_right fun seen workspaceId
          (named : event.event.workspaceId = workspaceId) => named ▸ seen)
      eventsFolded).2
  have kept :=
    (foldlM_observe_eq_ok
      (fun _ (snapshot : SignedTrustSnapshot) _ observed => by
        obtain ⟨middle, first, second⟩ := (bind_eq_ok_iff _ _ _).mp observed
        refine ⟨fun workspaceId same => ?_, fun _ (impossible : False) => impossible.elim⟩
        exact (observePublishWorkspace_eq_ok second).1 workspaceId
          ((observePublishWorkspace_eq_ok first).1 workspaceId same))
      snapshotsFolded).1
  intro event member
  apply kept
  exact seen event (List.mem_append_left proofEvents member) event.event.workspaceId rfl

/-- The published events of an accepted request can be stored and are all of the
workspace of the request. -/
theorem readPublication_eq_ok
    {request : WireSyncRequest} {publication : Publication}
    (accepted : readPublication primitives serialization request = .ok publication) :
    ∀ event ∈ publication.publishEvents,
      validateSignedEventJsonSize serialization.json event = .ok () ∧
        publication.workspaceId = some event.event.workspaceId := by
  simp only [readPublication, bind_eq_ok_iff, Except.ok.injEq] at accepted
  obtain ⟨-, -, -, -, -, -, -, -, -, -, _, -, _, -, publishEvents, decoded, -, -, -, -, _,
    decided, rfl⟩ := accepted
  intro event member
  exact ⟨validSize_of_decoded decoded event member,
    publishRequestWorkspaceId_eq_ok decided event member⟩

/-- Whether an event can be stored does not depend on the store, and for a small one
only on the privacy policy. -/
theorem onPublishedEvent_isOk
    {event : SignedEvent}
    (fits : validateSignedEventJsonSize serialization.json event = .ok ()) (store : EventStore) :
    (onPublishedEvent primitives serialization store event).isOk =
      (validateReplicaEventPrivacyPolicy event).isOk := by
  simp only [validateSignedEventJsonSize, bind_eq_ok_iff, okOr_eq_ok_iff] at fits
  obtain ⟨bytes, written, small⟩ := fits
  have stored :
      ∃ next, store.appendEvent primitives serialization.json event = .ok next := by
    simp only [EventStore.appendEvent, serializedEvent, bind_eq_ok_iff, okOr_eq_ok_iff,
      Except.ok.injEq]
    exact ⟨_, _, ⟨bytes, written, (), small, rfl⟩, rfl⟩
  obtain ⟨next, stored⟩ := stored
  rw [onPublishedEvent, stored]
  cases validateReplicaEventPrivacyPolicy event <;> rfl

end Requests

/-! ## What a publication stores -/

/-- The handler stores the event when the history that it has built so far is `history`. -/
def NewlyStored
    (store : EventStore) (publication : Publication) (history : List SignedEvent)
    (event : SignedEvent) : Prop :=
  ∃ proved,
    proveHistory serialization store publication = (.ok (), proved) ∧
      proved.log <+: history ∧
        history ++ [event] <+: (publish primitives serialization publication store).2.log

section Stored

variable {primitives serialization} {store : EventStore} {publication : Publication}

theorem run_proveHistory :
    (proveHistory serialization store publication).2.store = store := by
  obtain ⟨added, -, ran, -⟩ :=
    (pendingGate serialization [] onProofEvent).passes_admits publication.proofEvents.length
      publication.proofEvents
      { store := store, log := storedHistory serialization store publication }
  have keeps :
      ∀ (current : EventStore) (event : SignedEvent) (next : EventStore),
        current = store → True → onProofEvent current event = .ok next → next = store := by
    intro current event next same _ accepted
    simp only [onProofEvent, bind_eq_ok_iff, Except.ok.injEq] at accepted
    obtain ⟨-, -, rfl⟩ := accepted
    exact same
  exact @Transition.GuardedRun.invariant _ _ _ _ _ _ (fun current => current = store) _ _ ran
    rfl keeps

/-- The final store of a publication is the first one with the newly stored events, in
their order. -/
theorem publish_stores :
    ∃ added,
      Transition.Run (onPublishedEvent primitives serialization) store added
          (publish primitives serialization publication store).2.store ∧
        (∀ event ∈ added, event ∈ publication.publishEvents) ∧
          ∀ event, event ∈ added ↔
            ∃ history, NewlyStored primitives serialization store publication history event := by
  have unchanged : (proveHistory serialization store publication).2.store = store :=
    run_proveHistory
  cases proof : proveHistory serialization store publication with
  | mk result proved =>
      rw [proof] at unchanged
      cases result with
      | error raised =>
          refine ⟨[], ?_, fun _ member => absurd member List.not_mem_nil, ?_⟩
          · rw [publish, proof]
            change Transition.Run _ store [] proved.store
            rw [unchanged]
            exact .start
          · intro event
            simp only [List.not_mem_nil, false_iff, NewlyStored, proof]
            rintro ⟨_, _, impossible, _⟩
            cases impossible
      | ok done =>
          obtain ⟨added, logged, ran, wasPending⟩ :=
            (pendingGate serialization publication.trustSnapshots
              (onPublishedEvent primitives serialization)).passes_admits
                publication.publishEvents.length publication.publishEvents proved
          have published :
              publish primitives serialization publication store =
                authorizeAndStorePublishEvents primitives serialization
                  publication.trustSnapshots publication.publishEvents proved := by
            rw [publish, proof]
          refine ⟨added, ?_, wasPending, ?_⟩
          · rw [published, ← unchanged]
            exact ran
          · intro event
            rw [mem_growth_iff proved.log, ← logged]
            simp only [NewlyStored, proof, published, Prod.mk.injEq, true_and, exists_eq_left']
            rfl

end Stored

end Handler

end Chaft
