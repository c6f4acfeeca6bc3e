import Chaft.Runtime.ReadYourWrites
import Chaft.View.AccessHistory

/-!
# Access that a snapshot tells

A snapshot of a device materializes its verified events, but takes the histories of access from
all stored ones: also from events whose parents are missing, and from those whose signature does
not verify.
-/

namespace Chaft

open Keyed

/-- The histories in the channel rows of `decrypted_workspace_snapshot_with_options`. -/
def decryptedAccessHistories
    (primitives : Primitives) (workspaceId : WorkspaceId) (rawEvents : List SignedEvent)
    (deviceId : DeviceId) :
    Except CoreError (List (ChannelId × List ChannelAccessHistorySnapshot)) :=
  match (WorkspaceState.new workspaceId).applyBatch
      (verifiedLocalEventsForRuntime primitives rawEvents) with
  | (.error raised, _) => .error raised
  | (.ok _, state) =>
      .ok (state.channelAccessHistories (eventsById rawEvents) (some deviceId))

/-- The stored events that were applied. -/
def appliedAmong (report : MaterializationReport) (rawEvents : List SignedEvent) :
    List SignedEvent :=
  rawEvents.filter fun event => decide (event.eventId ∈ report.appliedEvents)

/-- The history of a channel tells what was applied if and only if every other stored event about
the channel has enough newer ones. -/
theorem accessHistory_tellsApplied_iff
    (primitives : Primitives) (workspaceId : WorkspaceId) (rawEvents : List SignedEvent)
    (distinct : (rawEvents.map SignedEvent.eventId).Nodup) (report : MaterializationReport)
    (state : WorkspaceState)
    (accepted :
      (WorkspaceState.new workspaceId).applyBatch
          (verifiedLocalEventsForRuntime primitives rawEvents) = (.ok report, state))
    (readerDeviceId : DeviceId) :
    ∃ histories,
      decryptedAccessHistories primitives workspaceId rawEvents readerDeviceId = .ok histories ∧
        ∀ shown ∈ histories,
          (shown.2 = state.newestRowsAbout shown.1 (appliedAmong report rawEvents) ↔
            ∀ event ∈ rawEvents, event.eventId ∉ report.appliedEvents →
              event.event.body.accessChannelId = some shown.1 →
                maxChannelAccessHistoryRows ≤ (newerAbout shown.1 rawEvents event).length) := by
  refine ⟨state.channelAccessHistories (eventsById rawEvents) (some readerDeviceId), ?_, ?_⟩
  · rw [decryptedAccessHistories, accepted]
  · intro shown member
    obtain ⟨channel, -, rfl⟩ := List.mem_map.mp member
    dsimp only
    rw [WorkspaceState.channelAccessHistory_eq distinct, appliedAmong,
      WorkspaceState.newestRowsAbout_eq_iff distinct]
    simp only [decide_eq_false_iff_not]

/-! ## A stranger in the history of a private room

The founder makes a private room.  A stranger, who is no member, sends an event that adds him to
it, and whose parent nobody has. -/

def roomHash : String :=
  "c8e27cada6a2e27f8135243abb92af472ef59342d8638a5160208f89e133363d"

def roomSignature : List UInt8 :=
  [0x27, 0xef, 0x2f, 0x7e, 0x12, 0x36, 0x8d, 0xcf, 0x50, 0x66, 0x88, 0x41,
    0xf8, 0x32, 0x18, 0x03, 0x1a, 0x9a, 0x72, 0x0a, 0x1f, 0x07, 0xda, 0xc1,
    0x58, 0x40, 0x21, 0x55, 0xd8, 0xf0, 0x42, 0xad, 0x26, 0x2f, 0x98, 0xe8,
    0x25, 0x0e, 0x99, 0x10, 0xcf, 0x74, 0xae, 0x06, 0x46, 0xd9, 0x07, 0x36,
    0x44, 0x01, 0x3d, 0xa8, 0x64, 0x7e, 0xb0, 0x06, 0x05, 0x1e, 0x75, 0xc6,
    0xef, 0x4e, 0x6c, 0x01]

def intruderHash : String :=
  "0e34c0405ad30973c550bf0e9773cf9bf3c33e23c2c914819f4bd2c39c54910f"

def intruderSignature : List UInt8 :=
  [0x36, 0xd2, 0x19, 0xb3, 0x8c, 0x75, 0x0c, 0x19, 0xb2, 0xba, 0x86, 0x89,
    0x44, 0xc6, 0x74, 0x31, 0xa8, 0x35, 0x8f, 0xc2, 0x8c, 0x00, 0x12, 0x0a,
    0xbb, 0x59, 0xbd, 0x40, 0xfc, 0x0d, 0xe2, 0xd2, 0xe0, 0x80, 0x34, 0x45,
    0x35, 0xe9, 0xfb, 0x4b, 0x3c, 0x80, 0xde, 0x9b, 0x41, 0xe1, 0x35, 0x35,
    0x51, 0x4c, 0xb0, 0x2a, 0xb2, 0x6e, 0xa1, 0xd8, 0xae, 0x99, 0x36, 0x8b,
    0xed, 0x3d, 0x31, 0x03]

def roomJson : List String :=
  afterHomeJson homeDeviceHash
    ["\x7b\"kind\":\"channel_created\",", "\"channel_id\":\"p\",", "\"name\":\"plans\",",
      "\"is_private\":true\x7d"]

def intruderJson : List String :=
  ["\x7b\"schema_version\":1,", "\"workspace_id\":\"w\",", "\"channel_id\":null,",
    "\"author_device_id\":\"dev_", strangerDeviceHash, "\",", "\"timestamp\":",
    "\x7b\"physical_ms\":0,\"logical\":0\x7d,", "\"parents\":[\"evt_lost\"],",
    "\"body\":\x7b\"kind\":\"channel_member_added\",", "\"channel_id\":\"p\",",
    "\"member_device_id\":\"dev_", strangerDeviceHash, "\"\x7d\x7d"]

def signedRoom : SignedEvent where
  eventId := ⟨"evt_" ++ roomHash⟩
  event := afterHome homeDeviceHash (.channelCreated ⟨"p"⟩ "plans" true)
  authorPublicKey := homeKey
  signature := roomSignature

def signedIntruder : SignedEvent where
  eventId := ⟨"evt_" ++ intruderHash⟩
  event :=
    { afterHome strangerDeviceHash
        (.channelMemberAdded ⟨"p"⟩ ⟨"dev_" ++ strangerDeviceHash⟩) with
      parents := [⟨"evt_lost"⟩] }
  authorPublicKey := strangerKey
  signature := intruderSignature

/-- The primitives as they behave on the three events. -/
def roomPrimitives : Primitives where
  blake3Hex bytes :=
    if bytes = asciiBytes roomJson ++ roomSignature then
      roomHash
    else if bytes = asciiBytes intruderJson ++ intruderSignature then
      intruderHash
    else
      invitePrimitives.blake3Hex bytes
  isVerifyingKey := invitePrimitives.isVerifyingKey
  verify key bytes signature :=
    invitePrimitives.verify key bytes signature ||
      [(homeKey, asciiBytes roomJson, roomSignature),
        (strangerKey, asciiBytes intruderJson, intruderSignature)].contains (key, bytes, signature)
  signableEventJson event :=
    if event = signedRoom.event then
      asciiBytes roomJson
    else if event = signedIntruder.event then
      asciiBytes intruderJson
    else
      invitePrimitives.signableEventJson event
  trustSnapshotJson := invitePrimitives.trustSnapshotJson

def roomHistory : List SignedEvent := [signedHome, signedRoom]

def roomState : WorkspaceState :=
  ((WorkspaceState.new ⟨"w"⟩).applyBatch roomHistory).2

def roomReport : MaterializationReport :=
  ⟨[signedHome.eventId, signedRoom.eventId], []⟩

/-- What the founder's device makes of the stored events, with and without the stranger's. -/
private theorem room_facts :
    (∀ event ∈ roomHistory ++ [signedIntruder], isServableEvent roomPrimitives event = true) ∧
      ((WorkspaceState.new ⟨"w"⟩).applyBatch roomHistory).1 = .ok roomReport ∧
      (((WorkspaceState.new ⟨"w"⟩).applyBatch (roomHistory ++ [signedIntruder])).1.map
          fun report => report.appliedEvents) = .ok roomReport.appliedEvents ∧
      ((((WorkspaceState.new ⟨"w"⟩).applyBatch
              (roomHistory ++ [signedIntruder])).2.channelAccessHistories
            (eventsById (roomHistory ++ [signedIntruder]))
            (some signedRoom.event.authorDeviceId)).map
          fun shown => (shown.1.text, shown.2.map ChannelAccessHistorySnapshot.eventId)) =
        [("p", [signedRoom.eventId.text, signedIntruder.eventId.text])] ∧
      ((roomHistory ++ [signedIntruder]).map SignedEvent.eventId).Nodup := by
  decide +kernel

private theorem verified_of_servable
    {events : List SignedEvent}
    (servable : ∀ event ∈ events, isServableEvent roomPrimitives event = true) :
    verifiedLocalEventsForRuntime roomPrimitives events = events := by
  apply List.filter_eq_self.mpr
  intro event member
  rw [servable event member, Bool.or_true]

/-- Without the stranger's event, the history tells what was applied. -/
theorem accessHistory_tellsApplied_room :
    ∃ histories,
      decryptedAccessHistories roomPrimitives ⟨"w"⟩ roomHistory signedRoom.event.authorDeviceId =
          .ok histories ∧
        ∀ shown ∈ histories,
          shown.2 = roomState.newestRowsAbout shown.1 (appliedAmong roomReport roomHistory) := by
  have verified :
      verifiedLocalEventsForRuntime roomPrimitives roomHistory = roomHistory :=
    verified_of_servable fun event member =>
      room_facts.1 event (List.mem_append_left _ member)
  have accepted :
      (WorkspaceState.new ⟨"w"⟩).applyBatch
          (verifiedLocalEventsForRuntime roomPrimitives roomHistory) =
        (.ok roomReport, roomState) := by
    rw [verified]
    exact Prod.ext room_facts.2.1 rfl
  have distinct : (roomHistory.map SignedEvent.eventId).Nodup :=
    room_facts.2.2.2.2.sublist ((List.sublist_append_left roomHistory [signedIntruder]).map _)
  obtain ⟨histories, told, tells⟩ :=
    accessHistory_tellsApplied_iff roomPrimitives ⟨"w"⟩ roomHistory distinct roomReport roomState
      accepted signedRoom.event.authorDeviceId
  refine ⟨histories, told, fun shown member => (tells shown member).mpr ?_⟩
  intro event isStored notApplied
  have allApplied : ∀ event ∈ roomHistory, event.eventId ∈ roomReport.appliedEvents :=
    fun event member => List.mem_map_of_mem member
  exact absurd (allApplied event isStored) notApplied

/-- The history of the private room tells of the stranger. -/
theorem not_accessHistory_tellsApplied :
    ¬ ∀ (primitives : Primitives) (workspaceId : WorkspaceId) (rawEvents : List SignedEvent),
      (rawEvents.map SignedEvent.eventId).Nodup →
        ∀ (report : MaterializationReport) (state : WorkspaceState),
          (WorkspaceState.new workspaceId).applyBatch
              (verifiedLocalEventsForRuntime primitives rawEvents) = (.ok report, state) →
            ∀ readerDeviceId,
              ∃ histories,
                decryptedAccessHistories primitives workspaceId rawEvents readerDeviceId =
                    .ok histories ∧
                  ∀ shown ∈ histories,
                    shown.2 =
                      state.newestRowsAbout shown.1 (appliedAmong report rawEvents) := by
  intro tells
  obtain ⟨servable, -, applied, told, distinct⟩ := room_facts
  have verified := verified_of_servable servable
  cases materialized : (WorkspaceState.new ⟨"w"⟩).applyBatch (roomHistory ++ [signedIntruder]) with
  | mk result state =>
      rw [materialized] at applied told
      cases result with
      | error raised => cases applied
      | ok report =>
          have appliedEvents : report.appliedEvents = roomReport.appliedEvents :=
            Except.ok.inj applied
          have accepted :
              (WorkspaceState.new ⟨"w"⟩).applyBatch
                  (verifiedLocalEventsForRuntime roomPrimitives
                    (roomHistory ++ [signedIntruder])) = (.ok report, state) := by
            rw [verified, materialized]
          obtain ⟨histories, isTold, tellsApplied⟩ :=
            tells roomPrimitives ⟨"w"⟩ (roomHistory ++ [signedIntruder]) distinct report state
              accepted signedRoom.event.authorDeviceId
          rw [decryptedAccessHistories, accepted, Except.ok.injEq] at isTold
          rw [isTold] at told
          obtain ⟨shown, rfl, isShown⟩ := List.map_eq_singleton_iff.mp told
          have tellsRoom := tellsApplied shown List.mem_cons_self
          have ids :
              shown.2.map ChannelAccessHistorySnapshot.eventId =
                [signedRoom.eventId.text, signedIntruder.eventId.text] :=
            congrArg Prod.snd isShown
          have isIntruder :
              signedIntruder.eventId.text ∈
                shown.2.map ChannelAccessHistorySnapshot.eventId := by
            rw [ids]
            exact List.mem_cons_of_mem _ List.mem_cons_self
          obtain ⟨row, isRow, rowId⟩ := List.mem_map.mp isIntruder
          rw [tellsRoom, WorkspaceState.newestRowsAbout] at isRow
          have listed := (List.mem_insertionSort _).mp (List.mem_of_mem_take isRow)
          obtain ⟨event, isApplied, leaves⟩ := List.mem_filterMap.mp listed
          have known := (List.mem_filter.mp isApplied).2
          rw [decide_eq_true_eq, appliedEvents] at known
          have sameId : event.eventId = signedIntruder.eventId :=
            congrArg Identifier.mk
              ((WorkspaceState.eventId_of_rowAbout leaves).1.symm.trans rowId)
          rw [sameId] at known
          exact absurd known (by decide +kernel)

end Chaft
