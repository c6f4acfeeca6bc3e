import Chaft.Network.PeerServer

/-!
# What requests leave alone

Requests add files and events to a peer.  Whole blobs, chunks and served events stay, and so
do the manifests of the blobs that no request describes.
-/

namespace Chaft

open Outcome Keyed Transition Effects Effects.Effect

/-! ## Files -/

namespace BlobStore

section Files

variable {blake3Hex : Bytes → String} {disk : Disk} {store : BlobStore}

/-- A store with the files of an earlier one, but perhaps other manifests for some hashes. -/
structure KeepsFiles
    (blake3Hex : Bytes → String) (described : Set String) (before after : BlobStore) : Prop where
  intact : after.Intact blake3Hex
  blobs :
    ∀ (hash : String) (file : Bytes), before.blobs[hash]? = some file →
      after.blobs[hash]? = some file
  chunks :
    ∀ (hash : String) (file : Bytes), before.chunks[hash]? = some file →
      after.chunks[hash]? = some file
  manifests :
    ∀ hash : String, hash ∉ described → after.manifests[hash]? = before.manifests[hash]?

theorem keepsFiles_refl (described : Set String) (intact : store.Intact blake3Hex) :
    KeepsFiles blake3Hex described store store where
  intact := intact
  blobs _ _ found := found
  chunks _ _ found := found
  manifests _ _ := rfl

theorem KeepsFiles.trans
    {described : Set String} {first second third : BlobStore}
    (earlier : KeepsFiles blake3Hex described first second)
    (later : KeepsFiles blake3Hex described second third) :
    KeepsFiles blake3Hex described first third where
  intact := later.intact
  blobs hash file found := later.blobs hash file (earlier.blobs hash file found)
  chunks hash file found := later.chunks hash file (earlier.chunks hash file found)
  manifests hash outside := by
    rw [later.manifests hash outside, earlier.manifests hash outside]

theorem KeepsFiles.mono
    {described others : Set String} {before after : BlobStore}
    (keeps : KeepsFiles blake3Hex described before after) (contained : described ⊆ others) :
    KeepsFiles blake3Hex others before after where
  intact := keeps.intact
  blobs := keeps.blobs
  chunks := keeps.chunks
  manifests hash outside := keeps.manifests hash fun inside => outside (contained inside)

/-- In an intact store a whole blob is only written where there is none. -/
theorem putBytesWithHash_of_intact
    (intact : store.Intact blake3Hex) (disk : Disk) (hash : String) (bytes : Bytes) :
    (putBytesWithHash blake3Hex disk hash bytes store).2 = store ∨
      blake3Hex bytes = hash ∧ bytes.length ≤ blobFileMaxBytes ∧ store.blobs[hash]? = none ∧
        (putBytesWithHash blake3Hex disk hash bytes store).2 =
          store.changeFiles (·.insert hash bytes) .blobs := by
  rw [putBytesWithHash]
  cases checked : validateHash hash with
  | error raised => exact Or.inl rfl
  | ok _ =>
      have isHash : isBlobHash hash = true := (validateHash_eq_ok_iff hash ()).mp checked
      rw [bind_of_ok (lift_apply (.ok ()) store)]
      by_cases small : bytes.length ≤ blobFileMaxBytes
      · have fits : validateBlobFileSize bytes.length = .ok () :=
          (ensure_eq_ok_iff _ _ _).mpr small
        rw [fits, bind_of_ok (lift_apply (.ok ()) store)]
        by_cases named : blake3Hex bytes = hash
        · have isNamed :
              ensure (blake3Hex bytes = hash)
                (MediaError.hashMismatch hash (blake3Hex bytes)) = .ok () :=
            (ensure_eq_ok_iff _ _ _).mpr named
          have looks :
              reads (fun store : BlobStore => store.hasBlob hash) store =
                (.ok store.blobs[hash]?.isSome, store) := by
            rw [reads_apply, hasBlob_eq intact isHash]
          simp only [isNamed]
          rw [bind_of_ok (lift_apply (.ok ()) store), bind_of_ok looks]
          cases found : store.blobs[hash]? with
          | some file => exact Or.inl rfl
          | none =>
              have looksAgain :
                  (reads (fun store : BlobStore => .ok store.blobs[hash]?.isSome) :
                      BlobEffect Bool) store =
                    (.ok false, store) := by
                rw [reads_apply, found]
                rfl
              simp only [Option.isSome_none, Bool.false_eq_true, if_false]
              rw [bind_of_ok looksAgain]
              simp only [Bool.false_eq_true, if_false, writeFileAtomically]
              by_cases accepted : disk.accepts (.write .blobs hash) = true
              · right
                refine ⟨named, small, trivial, ?_⟩
                have isAccepted :
                    ensure (disk.accepts (.write .blobs hash) = true) MediaError.io = .ok () :=
                  (ensure_eq_ok_iff _ _ _).mpr accepted
                rw [isAccepted, bind_of_ok (lift_apply (.ok ()) store)]
                rfl
              · left
                have refused :
                    ensure (disk.accepts (.write .blobs hash) = true) MediaError.io =
                      .error .io :=
                  (ensure_eq_error_iff _ _ _).mpr ⟨accepted, rfl⟩
                rw [refused]
                rfl
        · left
          have refused :
              ensure (blake3Hex bytes = hash)
                  (MediaError.hashMismatch hash (blake3Hex bytes)) =
                .error (MediaError.hashMismatch hash (blake3Hex bytes)) :=
            (ensure_eq_error_iff _ _ _).mpr ⟨named, rfl⟩
          simp only [refused]
          rfl
      · left
        have refused :
            validateBlobFileSize bytes.length =
              .error (MediaError.blobTooLarge bytes.length blobFileMaxBytes) :=
          (ensure_eq_error_iff _ _ _).mpr ⟨small, rfl⟩
        rw [refused]
        rfl

theorem KeepsFiles.putBlob
    {described : Set String} {base : BlobStore}
    (keeps : KeepsFiles blake3Hex described base store) {bytes : Bytes}
    (small : bytes.length ≤ blobFileMaxBytes) (absent : store.blobs[blake3Hex bytes]? = none) :
    KeepsFiles blake3Hex described base
      (store.changeFiles (·.insert (blake3Hex bytes) bytes) .blobs) where
  intact := keeps.intact.write ⟨rfl, small⟩
  blobs hash file found := by
    have before := keeps.blobs hash file found
    rw [getElem?_blobs_insert]
    by_cases same : blake3Hex bytes = hash
    · rw [← same, absent] at before
      cases before
    · rw [if_neg same]
      exact before
  chunks := keeps.chunks
  manifests := keeps.manifests

theorem KeepsFiles.putChunk
    {described : Set String} {base : BlobStore}
    (keeps : KeepsFiles blake3Hex described base store) {bytes : Bytes}
    (small : bytes.length ≤ blobChunkFileMaxBytes)
    (absent : store.chunks[blake3Hex bytes]? = none) :
    KeepsFiles blake3Hex described base
      (store.changeFiles (·.insert (blake3Hex bytes) bytes) .chunks) where
  intact := keeps.intact.write ⟨rfl, small⟩
  blobs := keeps.blobs
  chunks hash file found := by
    have before := keeps.chunks hash file found
    rw [getElem?_chunks_insert]
    by_cases same : blake3Hex bytes = hash
    · rw [← same, absent] at before
      cases before
    · rw [if_neg same]
      exact before
  manifests := keeps.manifests

theorem KeepsFiles.putManifest
    {described : Set String} {base : BlobStore}
    (keeps : KeepsFiles blake3Hex described base store) {descriptor : BlobDescriptor}
    (valid : descriptor.Valid) (covered : descriptor.hash ∈ described) :
    KeepsFiles blake3Hex described base
      (store.changeFiles (·.insert descriptor.hash (manifestJson descriptor)) .manifests) where
  intact := keeps.intact.write ⟨descriptor, valid, rfl, rfl⟩
  blobs := keeps.blobs
  chunks := keeps.chunks
  manifests hash outside := by
    have isOther : descriptor.hash ≠ hash := by
      intro same
      rw [same] at covered
      exact outside covered
    rw [getElem?_manifests_insert, if_neg isOther]
    exact keeps.manifests hash outside

/-- Uploads keep the files, and the manifests of the blobs that they do not describe. -/
theorem storeUploads_keepsFiles
    {described : Set String} (base : BlobStore) (disk : Disk)
    (descriptors : List BlobDescriptor) (uploads : List WireBlobEnvelope)
    (covered : ∀ descriptor ∈ descriptors, descriptor.hash ∈ described) :
    Preserves (KeepsFiles blake3Hex described base)
      (storeUploads blake3Hex disk descriptors uploads) := by
  rw [storeUploads]
  split
  · apply preserves_forEach
    intro upload _
    apply preserves_mapError
    constructor
    intro before keeps
    rcases putBytesWithHash_of_intact keeps.intact disk upload.hash upload.bytes with
      same | ⟨named, small, absent, isAfter⟩
    · rw [same]
      exact keeps
    · rw [isAfter, ← named]
      exact keeps.putBlob small (named ▸ absent)
  · apply preserves_bind
    · apply preserves_forEach
      intro descriptor member
      apply preserves_mapError
      apply preserves_putManifest
      intro valid before keeps
      exact keeps.putManifest valid (covered descriptor member)
    · intro _ _ _ _
      apply preserves_forEach
      intro upload _
      apply preserves_mapError
      apply preserves_putChunkWithHash
      intro named small before keeps absent
      rw [← named]
      exact keeps.putChunk small (named ▸ absent)

/-- Whether an upload is accepted or not, it keeps the files. -/
theorem handlePutBlobs_keepsFiles
    (intact : store.Intact blake3Hex) (disk : Disk) (hasBlobStore : Bool)
    (request : WireSyncRequest) :
    KeepsFiles blake3Hex {hash | ∃ wire ∈ request.blobDescriptors, wire.hash = hash} store
      (handlePutBlobs blake3Hex disk hasBlobStore request store).2 := by
  have preserves :
      Preserves
        (KeepsFiles blake3Hex {hash | ∃ wire ∈ request.blobDescriptors, wire.hash = hash} store)
        (handlePutBlobs blake3Hex disk hasBlobStore request) := by
    apply preserves_bind (preserves_lift _)
    intro before descriptors _ accepted
    apply preserves_bind (preserves_lift _)
    intro _ _ _ _
    apply preserves_bind
    · apply storeUploads_keepsFiles
      intro descriptor member
      rw [lift_eq_ok_iff] at accepted
      rw [(validatePutBlobsRequest_eq_ok accepted.1).1] at member
      obtain ⟨wire, isWire, same⟩ := List.mem_map.mp member
      exact ⟨wire, isWire, congrArg BlobDescriptor.hash same⟩
    · intro _ _ _ _
      exact preserves_pure _
  exact preserves.kept store (keepsFiles_refl _ intact)

end Files

end BlobStore

/-! ## Events -/

section Events

variable {primitives : Primitives} {serialization : Serialization}

variable (primitives serialization) in
/-- A request publishes the event, which verifies and may be kept by a replica. -/
structure Publishes (request : WireSyncRequest) (event : SignedEvent) : Prop where
  published :
    ∃ publication, readPublication primitives serialization request = .ok publication ∧
      event ∈ publication.publishEvents
  servable : isServableEvent primitives event = true
  allowed : validateReplicaEventPrivacyPolicy event = .ok ()

/-- Storing published events one after the other is appending them. -/
theorem after_of_run
    {store final : EventStore} {added : List SignedEvent}
    (ran : Run (onPublishedEvent primitives serialization) store added final) :
    final = store.after primitives serialization.json added ∧
      ∀ event ∈ added, validateReplicaEventPrivacyPolicy event = .ok () := by
  induction ran with
  | start => exact ⟨rfl, by simp⟩
  | @extend earlier state next event _ _ written inductionHypothesis =>
      obtain ⟨isState, allowed⟩ := inductionHypothesis
      simp only [onPublishedEvent, bind_eq_ok_iff, renamed_eq_ok_iff] at written
      obtain ⟨_, isAllowed, appended⟩ := written
      constructor
      · rw [after_append, ← isState]
        simp only [EventStore.after, runSkipping, appended]
      · intro other member
        rcases List.mem_append.mp member with before | isLast
        · exact allowed other before
        · rw [List.mem_singleton.mp isLast]
          exact isAllowed

/-- What a request to publish adds to the store. -/
theorem handlePublishEvents_after (request : WireSyncRequest) (store : EventStore) :
    ∃ added,
      (handlePublishEvents primitives serialization request store).2 =
          store.after primitives serialization.json added ∧
        ∀ event ∈ added, Publishes primitives serialization request event := by
  rw [handlePublishEvents]
  cases isRead : readPublication primitives serialization request with
  | error raised => exact ⟨[], rfl, by simp⟩
  | ok publication =>
      obtain ⟨added, ran, drawn, -⟩ :=
        @publish_stores primitives serialization store publication
      obtain ⟨isAfter, allowed⟩ := after_of_run ran
      refine ⟨added, isAfter, ?_⟩
      intro event member
      refine ⟨⟨publication, isRead, drawn event member⟩, ?_, allowed event member⟩
      have read := isRead
      simp only [readPublication, decodeAndVerifyEvents, bind_eq_ok_iff, checkAll_eq_ok_iff,
        renamed_eq_ok_iff, Except.ok.injEq] at read
      obtain ⟨-, -, -, -, -, -, -, -, -, -, _, -, _, -, publishEvents,
        ⟨events, -, -, verified, rfl⟩, -, -, -, -, _, -, rfl⟩ := read
      rw [isServableEvent, verified event (drawn event member)]
      rfl

end Events

/-! ## Runs of a server -/

namespace SyncPeer

section Runs

variable {τ : Type} {peer : SyncPeer τ}

variable (peer) in
/-- A server with what an earlier one has and what some requests published. -/
structure Grew (requests : List WireSyncRequest) (before after : SyncPeerStore τ) : Prop where
  events :
    ∃ added,
      after.store = before.store.after peer.primitives peer.serialization.json added ∧
        ∀ event ∈ added, ∃ request ∈ requests,
          Publishes peer.primitives peer.serialization request event
  files :
    BlobStore.KeepsFiles peer.primitives.blake3Hex
      {hash | ∃ request ∈ requests, ∃ wire ∈ request.blobDescriptors, wire.hash = hash}
      before.blobStore after.blobStore

theorem grew_refl
    {server : SyncPeerStore τ} (intact : server.blobStore.Intact peer.primitives.blake3Hex)
    (requests : List WireSyncRequest) : peer.Grew requests server server where
  events := ⟨[], rfl, by simp⟩
  files := BlobStore.keepsFiles_refl _ intact

theorem onBlobStore_store
    {α : Type} (computation : Effect BlobStore NetError α) (server : SyncPeerStore τ) :
    (onBlobStore computation server).2.store = server.store :=
  rfl

theorem onBlobStore_blobStore
    {α : Type} (computation : Effect BlobStore NetError α) (server : SyncPeerStore τ) :
    (onBlobStore computation server).2.blobStore = (computation server.blobStore).2 :=
  rfl

theorem grew_serve
    {server : SyncPeerStore τ} (intact : server.blobStore.Intact peer.primitives.blake3Hex)
    (request : WireSyncRequest) : peer.Grew [request] server (peer.serve request server).2 := by
  have served : (peer.serve request server).2 = (peer.handleRequest request server).2 := by
    rw [serve]
    cases peer.handleRequest request server with
    | mk result after => cases result <;> rfl
  rw [served, handleRequest]
  cases WireSyncRequestKind.tryFrom request.kind with
  | none => exact grew_refl intact [request]
  | some kind =>
      cases kind with
      | unspecified | inventory | fetchEvents | fetchBlobs | fetchBlobAvailability
        | fetchJoinRequests | fetchJoinResponses => exact grew_refl intact [request]
      | submitJoinRequest | submitJoinResponse =>
          exact ⟨⟨[], rfl, by simp⟩, BlobStore.keepsFiles_refl _ intact⟩
      | publishEvents =>
          obtain ⟨added, isAfter, published⟩ :=
            @handlePublishEvents_after peer.primitives peer.serialization request server.store
          refine ⟨⟨added, isAfter, ?_⟩, BlobStore.keepsFiles_refl _ intact⟩
          intro event member
          exact ⟨request, List.mem_singleton_self request, published event member⟩
      | putBlobs =>
          have keeps :=
            BlobStore.handlePutBlobs_keepsFiles intact peer.disk peer.hasBlobStore request
          have contained :
              {hash | ∃ wire ∈ request.blobDescriptors, wire.hash = hash} ⊆
                {hash | ∃ other ∈ [request], ∃ wire ∈ other.blobDescriptors, wire.hash = hash} := by
            intro hash described
            exact ⟨request, List.mem_singleton_self request, described⟩
          change peer.Grew [request] server
            (onBlobStore
              (handlePutBlobs peer.primitives.blake3Hex peer.disk peer.hasBlobStore request)
              server).2
          refine ⟨⟨[], onBlobStore_store _ server, by simp⟩, ?_⟩
          rw [onBlobStore_blobStore]
          exact keeps.mono contained

theorem Grew.mono
    {requests others : List WireSyncRequest} {before after : SyncPeerStore τ}
    (grew : peer.Grew requests before after) (contained : requests ⊆ others) :
    peer.Grew others before after where
  events := by
    obtain ⟨added, isAfter, published⟩ := grew.events
    refine ⟨added, isAfter, ?_⟩
    intro event member
    obtain ⟨request, isRequest, publishes⟩ := published event member
    exact ⟨request, contained isRequest, publishes⟩
  files := by
    apply grew.files.mono
    intro hash described
    obtain ⟨request, isRequest, wire⟩ := described
    exact ⟨request, contained isRequest, wire⟩

theorem Grew.trans
    {requests : List WireSyncRequest} {first second third : SyncPeerStore τ}
    (earlier : peer.Grew requests first second) (later : peer.Grew requests second third) :
    peer.Grew requests first third where
  events := by
    obtain ⟨added, isSecond, published⟩ := earlier.events
    obtain ⟨others, isThird, othersPublished⟩ := later.events
    refine ⟨added ++ others, by rw [isThird, isSecond, after_append], ?_⟩
    intro event member
    rcases List.mem_append.mp member with isEarlier | isLater
    · exact published event isEarlier
    · exact othersPublished event isLater
  files := earlier.files.trans later.files

/-- Requests only add to a server. -/
theorem grew_afterRequests
    (requests : List WireSyncRequest) {server : SyncPeerStore τ}
    (intact : server.blobStore.Intact peer.primitives.blake3Hex) :
    peer.Grew requests server (peer.afterRequests server requests) := by
  induction requests generalizing server with
  | nil => exact grew_refl intact []
  | cons request rest inductionHypothesis =>
      have first := @grew_serve _ peer server intact request
      have later := inductionHypothesis first.files.intact
      have contained : [request] ⊆ request :: rest := by
        intro other member
        rw [List.mem_singleton.mp member]
        exact List.mem_cons_self
      exact (first.mono contained).trans (later.mono (List.subset_cons_self request rest))

end Runs

end SyncPeer

def homePeer : SyncPeer Unit where
  primitives := homePrimitives
  serialization := homeSerialization
  eventBodyToVec _ := []
  manifestFromSlice _ := none
  requestIdField _ := none
  disk := .sound
  hasBlobStore := true
  joinRequestInbox := none
  joinResponseInbox := none

def homeServer : SyncPeerStore Unit where
  store := EventStore.empty.after homePrimitives homeJson [signedHome]
  blobStore := BlobStore.empty
  inboxes := ()

theorem homeServer_serves :
    homeServer.store.getServableEvent homeJson signedHome.eventId = some signedHome := by
  decide +kernel

theorem homeServer_isStore :
    homeServer.store =
      EventStore.empty.after homePeer.primitives homePeer.serialization.json [signedHome] := by
  rw [homeServer, homePeer, homeSerialization]

end Chaft
