import Chaft.Core.IdentifierSizes
import Chaft.Core.IndexCoherence
import Chaft.Core.Reachable
import Chaft.Core.RoleProtection
import Chaft.Core.SnapshotTables

/-!
# What a snapshot keeps of its history

`trustSnapshotFromEvents` folds over the applied events in the order of its
input, which need not be the order in which the batch applied them, and the
snapshot gives the root the role of an owner whatever its history says.  A
snapshot reads back as the materialized index exactly when neither matters.
-/

namespace Chaft

open Keyed Outcome Transition

namespace WorkspaceAccessIndex

/-- Two indexes with the same contents, apart from invites and join requests. -/
structure SameTrust (left right : WorkspaceAccessIndex) : Prop where
  rootDeviceId : left.rootDeviceId = right.rootDeviceId
  roles : left.roles = right.roles
  channels : left.channels = right.channels
  messages : left.messages = right.messages
  eventChannels : left.eventChannels = right.eventChannels
  personLinks : left.personLinks = right.personLinks

end WorkspaceAccessIndex

/-- The index that a fresh workspace has after a batch. -/
def materializedIndex (workspaceId : WorkspaceId) (events : List SignedEvent) :
    WorkspaceAccessIndex :=
  ((WorkspaceState.new workspaceId).applyBatch events).2.accessIndex

/-- The applied events of a batch in the order of the input. -/
def appliedInInputOrder (workspaceId : WorkspaceId) (events : List SignedEvent) :
    List SignedEvent :=
  match ((WorkspaceState.new workspaceId).applyBatch events).1 with
  | .ok report => events.filter fun event => decide (event.eventId ∈ report.appliedEvents)
  | .error _ => []

/-- The index that results from recording the applied events, apart from the
creation of the workspace, in the order of the input. -/
def recordedIndex (workspaceId : WorkspaceId) (events : List SignedEvent) :
    WorkspaceAccessIndex :=
  ((appliedInInputOrder workspaceId events).filter fun event =>
      !createsWorkspace event.event.body).foldl
    WorkspaceAccessIndex.applyAuthorized (WorkspaceAccessIndex.new workspaceId)

/-- The order of the input does not matter and the root is still an owner. -/
structure RecordsInInputOrder
    (workspaceId : WorkspaceId) (events : List SignedEvent) (rootDeviceId : DeviceId) :
    Prop where
  root : (materializedIndex workspaceId events).rootDeviceId = some rootDeviceId
  rootOwns : (materializedIndex workspaceId events).roles[rootDeviceId]? = some .owner
  roles :
    ∀ deviceId : DeviceId, deviceId ≠ rootDeviceId →
      (recordedIndex workspaceId events).roles[deviceId]? =
        (materializedIndex workspaceId events).roles[deviceId]?
  channels :
    (recordedIndex workspaceId events).channels = (materializedIndex workspaceId events).channels
  messages :
    (recordedIndex workspaceId events).messages = (materializedIndex workspaceId events).messages
  eventChannels :
    (recordedIndex workspaceId events).eventChannels =
      (materializedIndex workspaceId events).eventChannels
  personLinks :
    (recordedIndex workspaceId events).personLinks =
      (materializedIndex workspaceId events).personLinks

namespace SnapshotTables

open WorkspaceAccessIndex

/-- The loop mirrors the recording of all events but the creation. -/
theorem mirrors_foldl
    {events : List SignedEvent} {tables : SnapshotTables} {index : WorkspaceAccessIndex}
    (mirrors : Mirrors tables index) :
    Mirrors (events.foldl noteApplied tables)
      ((events.filter fun event => !createsWorkspace event.event.body).foldl applyAuthorized
        index) := by
  induction events generalizing tables index with
  | nil => exact mirrors
  | cons event rest inductionHypothesis =>
      rw [List.foldl_cons]
      by_cases creates : CreatesWorkspace event
      · rw [noteApplied_of_createsWorkspace tables creates,
          List.filter_cons_of_neg (by simpa [CreatesWorkspace] using creates)]
        exact inductionHypothesis mirrors
      · rw [List.filter_cons_of_pos (by simpa [CreatesWorkspace] using creates), List.foldl_cons]
        exact inductionHypothesis (mirrors.noteApplied creates)

section Listings

variable {tables : SnapshotTables} {index : WorkspaceAccessIndex} (mirrors : Mirrors tables index)
  (workspaceId : WorkspaceId) (rootEvent : SignedEvent)

/-! ## What the snapshot reads back as -/

theorem snapshotIndex_roles (tables : SnapshotTables) (deviceId : DeviceId) :
    (snapshotIndex (tables.toSnapshot workspaceId rootEvent)).roles[deviceId]? =
      if deviceId = rootEvent.event.authorDeviceId then
        some .owner
      else
        tables.roles[deviceId]? := by
  unfold snapshotIndex toSnapshot
  dsimp only
  rw [tableOf_map]
  refine (getElem?_tableOf_toList id _ _ deviceId).trans ?_
  simp only [Std.ExtTreeMap.mem_erase, Std.ExtTreeMap.getElem?_erase,
    Std.ExtTreeMap.getElem?_insert, Std.LawfulEqCmp.compare_eq_iff_eq]
  by_cases isRoot : deviceId = rootEvent.event.authorDeviceId
  · simp [isRoot]
  · have different : rootEvent.event.authorDeviceId ≠ deviceId := fun same => isRoot same.symm
    rw [if_neg isRoot, if_neg different, if_neg different, Option.map_id_apply]
    split
    · rfl
    · rename_i unknown
      have unlisted : deviceId ∉ tables.roles := fun known => unknown ⟨by simpa using different, known⟩
      rw [Std.ExtTreeMap.getElem?_eq_none unlisted]
      simp

include mirrors

theorem snapshotIndex_channels :
    (snapshotIndex (tables.toSnapshot workspaceId rootEvent)).channels = index.channels := by
  apply ext_of_getElem?
  intro channelId
  rw [mirrors.channels]
  unfold snapshotIndex toSnapshot
  dsimp only
  rw [tableOf_map]
  have asEntries :=
    @tableOf_congr _ _ _ _ _
      (fun entry : ChannelId × TrustSnapshotChannel => entry.2.channelId)
      (fun entry : ChannelId × TrustSnapshotChannel => TrustSnapshotChannel.access
        { entry.2 with
          memberDeviceIds := sortedListing Identifier.le entry.2.memberDeviceIds })
      Prod.fst (fun entry : ChannelId × TrustSnapshotChannel => entry.2.access)
      tables.channels.toList
      (by
        intro entry member
        have present := Std.ExtTreeMap.mem_toList_iff_getElem?_eq_some.mp member
        exact ⟨mirrors.channelIds entry.1 entry.2 present, sortedListing_access entry.2⟩)
      ∅
  rw [asEntries]
  exact getElem?_tableOf_toList_empty TrustSnapshotChannel.access _ channelId

theorem snapshotIndex_messages :
    (snapshotIndex (tables.toSnapshot workspaceId rootEvent)).messages = index.messages := by
  apply ext_of_getElem?
  intro messageId
  rw [mirrors.messages]
  unfold snapshotIndex toSnapshot
  dsimp only
  rw [tableOf_map]
  exact getElem?_tableOf_toList_empty tableMessageAccess _ messageId

theorem snapshotIndex_eventChannels :
    (snapshotIndex (tables.toSnapshot workspaceId rootEvent)).eventChannels =
      index.eventChannels := by
  apply ext_of_getElem?
  intro eventId
  rw [← mirrors.eventChannels]
  unfold snapshotIndex toSnapshot
  dsimp only
  rw [tableOf_map]
  exact (getElem?_tableOf_toList_empty id _ eventId).trans Option.map_id_apply

theorem snapshotIndex_personLinks :
    (snapshotIndex (tables.toSnapshot workspaceId rootEvent)).personLinks =
      index.personLinks := by
  apply ext_of_getElem?
  intro deviceId
  rw [← mirrors.personLinks]
  unfold snapshotIndex toSnapshot
  dsimp only
  rw [tableOf_map]
  exact (getElem?_tableOf_toList_empty id _ deviceId).trans Option.map_id_apply

/-! ## When the snapshot is accepted -/

omit mirrors in
/-- A device with a listed role, or the root. -/
theorem knows_toSnapshot (tables : SnapshotTables) (deviceId : DeviceId) :
    (tables.toSnapshot workspaceId rootEvent).Knows deviceId ↔
      deviceId = rootEvent.event.authorDeviceId ∨ deviceId ∈ tables.roles := by
  rw [← mem_snapshotIndex_roles, Std.ExtTreeMap.mem_iff_isSome_getElem?, snapshotIndex_roles,
    Std.ExtTreeMap.mem_iff_isSome_getElem?]
  split <;> simp_all

theorem lists_toSnapshot (channelId : ChannelId) :
    (tables.toSnapshot workspaceId rootEvent).Lists channelId ↔ channelId ∈ index.channels := by
  rw [← mem_snapshotIndex_channels, snapshotIndex_channels mirrors]

theorem validateTrustSnapshotIds_toSnapshot
    (fit : index.IdentifiersFit) (workspaceFits : workspaceId.Fits)
    (rootFits : rootEvent.eventId.Fits) (rootAuthorFits : rootEvent.event.authorDeviceId.Fits) :
    validateTrustSnapshotIds (tables.toSnapshot workspaceId rootEvent) = .ok () := by
  simp only [validateTrustSnapshotIds, bind_eq_ok_iff, validateWorkspaceIdSize_eq_ok_iff,
    validateEventIdSize_eq_ok_iff, validateDeviceIdSize_eq_ok_iff, checkAll_eq_ok_iff,
    validateChannelIdSize_eq_ok_iff, validateMessageIdSize_eq_ok_iff,
    validatePersonIdSize_eq_ok_iff, toSnapshot, List.forall_mem_map, Prod.forall,
    Std.ExtTreeMap.mem_toList_iff_getElem?_eq_some, Unique.exists_iff]
  refine ⟨workspaceFits, rootFits, rootAuthorFits, ?_, ?_, ?_, ?_, ?_⟩
  · intro deviceId role present
    apply fit.roles deviceId
    rw [Std.ExtTreeMap.getElem?_erase] at present
    split at present
    · cases present
    · rw [← mirrors.roles, mem_iff_exists_getElem?]
      exact ⟨role, present⟩
  · intro channelId channel present
    have recorded := mirrors.channels channelId
    rw [present, Option.map_some] at recorded
    obtain ⟨channelFits, creatorFits, membersFit⟩ := fit.channels channelId _ recorded
    refine ⟨mirrors.channelIds channelId channel present ▸ channelFits, creatorFits, ?_⟩
    intro deviceId member
    apply membersFit deviceId
    rw [mem_sortedListing] at member
    exact (mem_foldl_insert _ _ _).mpr (Or.inr member)
  · intro messageId channelId authorDeviceId present
    have recorded := mirrors.messages messageId
    rw [present, Option.map_some] at recorded
    obtain ⟨messageFits, channelFits, authorFits⟩ := fit.messages messageId _ recorded
    exact ⟨messageFits, channelFits, authorFits authorDeviceId rfl⟩
  · intro eventId channelId present
    rw [mirrors.eventChannels] at present
    exact fit.eventChannels eventId channelId present
  · intro deviceId personId present
    rw [mirrors.personLinks] at present
    exact (fit.personLinks deviceId personId present).symm

/-- The listings are accepted when all that they refer to is known. -/
theorem acceptable_toSnapshot
    (ids : validateTrustSnapshotIds (tables.toSnapshot workspaceId rootEvent) = .ok ())
    (membersKnown :
      ∀ (channelId : ChannelId) (channel : ChannelAccess),
        index.channels[channelId]? = some channel → ∀ deviceId ∈ channel.members,
          deviceId = rootEvent.event.authorDeviceId ∨ deviceId ∈ index.roles)
    (linksKnown :
      ∀ deviceId ∈ index.personLinks,
        deviceId = rootEvent.event.authorDeviceId ∨ deviceId ∈ index.roles)
    (linksApart :
      ∀ (first second : DeviceId) (personId : PersonId),
        index.personLinks[first]? = some personId →
          index.personLinks[second]? = some personId → first = second)
    (messagesKnown :
      ∀ (messageId : MessageId) (message : MessageAccess),
        index.messages[messageId]? = some message → message.channelId ∈ index.channels)
    (eventChannelsKnown :
      ∀ (eventId : EventId) (channelId : ChannelId),
        index.eventChannels[eventId]? = some channelId → channelId ∈ index.channels) :
    (tables.toSnapshot workspaceId rootEvent).Acceptable := by
  have knows := knows_toSnapshot workspaceId rootEvent tables
  have lists := lists_toSnapshot mirrors workspaceId rootEvent
  refine
    { version := rfl
      ids := ids
      rootUnlisted := ?_
      roles := ?_
      channels := ?_
      members := ?_
      linkedDevices := ?_
      linkedPersons := ?_
      linksKnown := ?_
      messages := ?_
      messagesKnown := ?_
      eventChannels := ?_
      eventChannelsKnown := ?_ }
  · intro role member
    obtain ⟨⟨deviceId, listedRole⟩, listed, rfl⟩ := List.mem_map.mp member
    have present := Std.ExtTreeMap.mem_toList_iff_getElem?_eq_some.mp listed
    intro isRoot
    dsimp only [toSnapshot] at isRoot
    rw [isRoot, Std.ExtTreeMap.getElem?_erase_self] at present
    cases present
  · exact List.pairwise_map.mpr (toList_apart _)
  · refine List.pairwise_map.mpr ((toList_apart tables.channels).imp_of_mem ?_)
    intro first second firstMember secondMember different
    have firstPresent := Std.ExtTreeMap.mem_toList_iff_getElem?_eq_some.mp firstMember
    have secondPresent := Std.ExtTreeMap.mem_toList_iff_getElem?_eq_some.mp secondMember
    dsimp only
    rw [mirrors.channelIds first.1 first.2 firstPresent,
      mirrors.channelIds second.1 second.2 secondPresent]
    exact different
  · intro channel member
    obtain ⟨⟨channelId, listedChannel⟩, listed, rfl⟩ := List.mem_map.mp member
    refine ⟨sortedListing_nodup Identifier.le_antisymmetric _, ?_⟩
    intro deviceId isMember
    have present := Std.ExtTreeMap.mem_toList_iff_getElem?_eq_some.mp listed
    have recorded := mirrors.channels channelId
    rw [present, Option.map_some] at recorded
    rw [knows, mirrors.roles]
    apply membersKnown channelId _ recorded deviceId
    exact (mem_foldl_insert _ _ _).mpr (Or.inr ((mem_sortedListing _ _ _).mp isMember))
  · exact List.pairwise_map.mpr (toList_apart _)
  · refine List.pairwise_map.mpr ((toList_apart tables.personDeviceLinks).imp_of_mem ?_)
    intro first second firstMember secondMember different samePerson
    have firstPresent := Std.ExtTreeMap.mem_toList_iff_getElem?_eq_some.mp firstMember
    have secondPresent := Std.ExtTreeMap.mem_toList_iff_getElem?_eq_some.mp secondMember
    dsimp only at samePerson
    rw [mirrors.personLinks] at firstPresent secondPresent
    rw [← samePerson] at secondPresent
    exact different (linksApart first.1 second.1 first.2 firstPresent secondPresent)
  · intro link member
    obtain ⟨⟨deviceId, personId⟩, listed, rfl⟩ := List.mem_map.mp member
    have present := Std.ExtTreeMap.mem_toList_iff_getElem?_eq_some.mp listed
    rw [mirrors.personLinks] at present
    rw [knows, mirrors.roles]
    exact linksKnown deviceId ((mem_iff_exists_getElem? _ _).mpr ⟨personId, present⟩)
  · exact List.pairwise_map.mpr (toList_apart _)
  · intro message member
    obtain ⟨⟨messageId, channelId, authorDeviceId⟩, listed, rfl⟩ := List.mem_map.mp member
    have present := Std.ExtTreeMap.mem_toList_iff_getElem?_eq_some.mp listed
    have recorded := mirrors.messages messageId
    rw [present, Option.map_some] at recorded
    exact (lists channelId).mpr (messagesKnown messageId _ recorded)
  · exact List.pairwise_map.mpr (toList_apart _)
  · intro eventChannel member
    obtain ⟨⟨eventId, channelId⟩, listed, rfl⟩ := List.mem_map.mp member
    have present := Std.ExtTreeMap.mem_toList_iff_getElem?_eq_some.mp listed
    rw [mirrors.eventChannels] at present
    exact (lists channelId).mpr (eventChannelsKnown eventId channelId present)

end Listings

end SnapshotTables

/-! ## Faithful snapshots -/

/-- The parts of a successful summary. -/
theorem trustSnapshotFromEvents_eq_ok
    {workspaceId : WorkspaceId} {events : List SignedEvent} {snapshot : TrustSnapshot}
    {rootEvent : SignedEvent}
    (summarized : trustSnapshotFromEvents workspaceId events = .ok (snapshot, rootEvent)) :
    (∃ report, (WorkspaceState.new workspaceId).applyBatch events =
        (.ok report, ((WorkspaceState.new workspaceId).applyBatch events).2)) ∧
      rootEvent ∈ appliedInInputOrder workspaceId events ∧
        ((appliedInInputOrder workspaceId events).foldl SnapshotTables.noteApplied
          SnapshotTables.empty).toSnapshot workspaceId rootEvent = snapshot := by
  unfold trustSnapshotFromEvents at summarized
  rw [bind_eq_ok_iff] at summarized
  obtain ⟨report, applied, summarized⟩ := summarized
  simp only [bind_eq_ok_iff, okOr_eq_ok_iff, Except.ok.injEq, Prod.mk.injEq] at summarized
  obtain ⟨foundRoot, found, isSnapshot, rfl⟩ := summarized
  have listed : appliedInInputOrder workspaceId events =
      events.filter fun event => decide (event.eventId ∈ report.appliedEvents) := by
    rw [appliedInInputOrder, applied]
  rw [listed]
  refine ⟨⟨report, Prod.ext applied rfl⟩, List.mem_of_find?_eq_some found, isSnapshot⟩

theorem appliedInInputOrder_subset (workspaceId : WorkspaceId) (events : List SignedEvent) :
    appliedInInputOrder workspaceId events ⊆ events := by
  unfold appliedInInputOrder
  split
  · exact List.filter_subset_self events
  · exact List.nil_subset events

/-- A summary reads back as the materialized index exactly when the order of the
input does not matter and the root is still an owner. -/
theorem trustSnapshotFromEvents_faithful_iff
    (workspaceId : WorkspaceId) (events : List SignedEvent) (snapshot : TrustSnapshot)
    (rootEvent : SignedEvent)
    (summarized : trustSnapshotFromEvents workspaceId events = .ok (snapshot, rootEvent)) :
    (∃ index, WorkspaceAccessIndex.fromTrustSnapshot snapshot = .ok index ∧
        index.SameTrust (materializedIndex workspaceId events)) ↔
      RecordsInInputOrder workspaceId events rootEvent.event.authorDeviceId := by
  obtain ⟨⟨report, accepted⟩, rootListed, rfl⟩ := trustSnapshotFromEvents_eq_ok summarized
  have mirrors :
      SnapshotTables.Mirrors
        ((appliedInInputOrder workspaceId events).foldl SnapshotTables.noteApplied
          SnapshotTables.empty)
        (recordedIndex workspaceId events) :=
    SnapshotTables.mirrors_foldl (SnapshotTables.mirrors_new workspaceId)
  have rolesRead :=
    SnapshotTables.snapshotIndex_roles workspaceId rootEvent
      ((appliedInInputOrder workspaceId events).foldl SnapshotTables.noteApplied
        SnapshotTables.empty)
  have channelsRead := SnapshotTables.snapshotIndex_channels mirrors workspaceId rootEvent
  have messagesRead := SnapshotTables.snapshotIndex_messages mirrors workspaceId rootEvent
  have eventChannelsRead :=
    SnapshotTables.snapshotIndex_eventChannels mirrors workspaceId rootEvent
  have personLinksRead := SnapshotTables.snapshotIndex_personLinks mirrors workspaceId rootEvent
  constructor
  · rintro ⟨index, read, same⟩
    obtain ⟨-, rfl⟩ := (WorkspaceAccessIndex.fromTrustSnapshot_eq_ok_iff _ _).mp read
    refine
      { root := same.rootDeviceId.symm
        rootOwns := ?_
        roles := ?_
        channels := channelsRead.symm.trans same.channels
        messages := messagesRead.symm.trans same.messages
        eventChannels := eventChannelsRead.symm.trans same.eventChannels
        personLinks := personLinksRead.symm.trans same.personLinks }
    · rw [← same.roles, rolesRead, if_pos rfl]
    · intro deviceId notRoot
      rw [← same.roles, rolesRead, if_neg notRoot, mirrors.roles]
  · intro inOrder
    have coherent : (materializedIndex workspaceId events).Coherent := by
      obtain ⟨applied, drawn, listed, replayed⟩ := WorkspaceState.applied_of_applyBatch accepted
      have reached := WorkspaceState.Reachable.applyBatch .new accepted drawn listed replayed
      exact WorkspaceAccessIndex.coherent_of_reachable reached.ledger.index.reachable
    have validated := (WorkspaceState.replay_of_applyBatch accepted).1
    rw [WorkspaceState.validateBatch_eq_ok_iff] at validated
    have fit : (recordedIndex workspaceId events).IdentifiersFit := by
      apply WorkspaceAccessIndex.identifiersFit_foldl
        (WorkspaceAccessIndex.identifiersFit_new workspaceId)
      intro event member
      have listed := (List.mem_filter.mp member).1
      exact (validated event (appliedInInputOrder_subset workspaceId events listed)).1
    obtain ⟨rootValid, rootWorkspace⟩ :=
      validated rootEvent (appliedInInputOrder_subset workspaceId events rootListed)
    obtain ⟨workspaceFits, rootAuthorFits, rootFits, -⟩ := fits_of_validateSignedEventIds rootValid
    rw [rootWorkspace] at workspaceFits
    have known :
        ∀ deviceId ∈ (materializedIndex workspaceId events).roles,
          deviceId = rootEvent.event.authorDeviceId ∨
            deviceId ∈ (recordedIndex workspaceId events).roles := by
      intro deviceId has
      by_cases isRoot : deviceId = rootEvent.event.authorDeviceId
      · exact Or.inl isRoot
      · rw [Std.ExtTreeMap.mem_iff_isSome_getElem?] at has ⊢
        rw [inOrder.roles deviceId isRoot]
        exact Or.inr has
    refine ⟨_, (WorkspaceAccessIndex.fromTrustSnapshot_eq_ok_iff _ _).mpr ⟨?_, rfl⟩, ?_⟩
    · apply SnapshotTables.acceptable_toSnapshot mirrors workspaceId rootEvent
        (SnapshotTables.validateTrustSnapshotIds_toSnapshot mirrors workspaceId rootEvent fit
          workspaceFits rootFits rootAuthorFits)
      · rw [inOrder.channels]
        intro channelId channel present deviceId member
        exact known deviceId (coherent.membersKnown channelId channel present deviceId member)
      · rw [inOrder.personLinks]
        exact fun deviceId linked => known deviceId (coherent.linksKnown deviceId linked)
      · rw [inOrder.personLinks]
        exact coherent.linksApart
      · rw [inOrder.messages, inOrder.channels]
        exact coherent.messagesKnown
      · rw [inOrder.eventChannels, inOrder.channels]
        exact coherent.eventChannelsKnown
    · exact
        { rootDeviceId := inOrder.root.symm
          roles := by
            apply ext_of_getElem?
            intro deviceId
            rw [rolesRead]
            split
            · rename_i isRoot
              rw [isRoot, inOrder.rootOwns]
            · rename_i notRoot
              rw [mirrors.roles, inOrder.roles deviceId notRoot]
          channels := channelsRead.trans inOrder.channels
          messages := messagesRead.trans inOrder.messages
          eventChannels := eventChannelsRead.trans inOrder.eventChannels
          personLinks := personLinksRead.trans inOrder.personLinks }

/-- A workspace with a member who has become a guest, listed as it happened. -/
def demotionHistory : List SignedEvent :=
  [draftEvent "e0" "root" none [] (.workspaceCreated "home"),
    draftEvent "e1" "root" none ["e0"] (.memberInvited ⟨"bea"⟩ .member),
    draftEvent "e2" "root" none ["e1"] (.memberRoleUpdated ⟨"bea"⟩ .guest)]

/-- The same workspace, with the last event before its parent. -/
def disorderedHistory : List SignedEvent :=
  [draftEvent "e0" "root" none [] (.workspaceCreated "home"),
    draftEvent "e2" "root" none ["e1"] (.memberRoleUpdated ⟨"bea"⟩ .guest),
    draftEvent "e1" "root" none ["e0"] (.memberInvited ⟨"bea"⟩ .member)]

/-- The summary of the ordered history is faithful. -/
theorem trustSnapshotFromEvents_faithful_iff_demotionHistory :
    ∃ index,
      WorkspaceAccessIndex.fromTrustSnapshot
          { schemaVersion := 1
            workspaceId := ⟨"w"⟩
            rootEventId := ⟨"e0"⟩
            rootAuthorDeviceId := ⟨"root"⟩
            roles := [{ deviceId := ⟨"bea"⟩, role := .guest }]
            channels := []
            messages := []
            eventChannels := []
            personDeviceLinks := [] } = .ok index ∧
        index.SameTrust (materializedIndex ⟨"w"⟩ demotionHistory) := by
  refine (trustSnapshotFromEvents_faithful_iff ⟨"w"⟩ demotionHistory _
    (draftEvent "e0" "root" none [] (.workspaceCreated "home")) (by decide +kernel)).mpr ?_
  refine
    { root := by decide +kernel
      rootOwns := by decide +kernel
      roles := ?_
      channels := by decide +kernel
      messages := by decide +kernel
      eventChannels := by decide +kernel
      personLinks := by decide +kernel }
  intro deviceId notRoot
  have withRoot :
      (materializedIndex ⟨"w"⟩ demotionHistory).roles =
        (recordedIndex ⟨"w"⟩ demotionHistory).roles.insert ⟨"root"⟩ .owner := by
    decide +kernel
  rw [withRoot, Std.ExtTreeMap.getElem?_insert, if_neg]
  rw [Std.LawfulEqCmp.compare_eq_iff_eq]
  exact fun same => notRoot same.symm

/-- The summary of the disordered history gives the guest back its old role. -/
theorem trustSnapshotFromEvents_not_faithful :
    ¬ ∀ (workspaceId : WorkspaceId) (events : List SignedEvent) (snapshot : TrustSnapshot)
        (rootEvent : SignedEvent),
      trustSnapshotFromEvents workspaceId events = .ok (snapshot, rootEvent) →
        ∃ index, WorkspaceAccessIndex.fromTrustSnapshot snapshot = .ok index ∧
          index.SameTrust (materializedIndex workspaceId events) := by
  intro faithful
  obtain ⟨index, read, same⟩ :=
    faithful ⟨"w"⟩ disorderedHistory
      { schemaVersion := 1
        workspaceId := ⟨"w"⟩
        rootEventId := ⟨"e0"⟩
        rootAuthorDeviceId := ⟨"root"⟩
        roles := [{ deviceId := ⟨"bea"⟩, role := .member }]
        channels := []
        messages := []
        eventChannels := []
        personDeviceLinks := [] }
      (draftEvent "e0" "root" none [] (.workspaceCreated "home")) (by decide +kernel)
  obtain ⟨-, rfl⟩ := (WorkspaceAccessIndex.fromTrustSnapshot_eq_ok_iff _ _).mp read
  have sameRoles := same.roles
  revert sameRoles
  decide +kernel

/-! ## Histories in application order -/

namespace WorkspaceAccessIndex

/-- The role of a device after an event depends on its role before it. -/
theorem rolesAfter_congr
    {left right : HashMap DeviceId WorkspaceRole} {deviceId : DeviceId}
    (same : left[deviceId]? = right[deviceId]?) (event : SignedEvent) :
    (rolesAfter left event)[deviceId]? = (rolesAfter right event)[deviceId]? := by
  unfold rolesAfter
  split <;> simp [same]

/-- A created workspace has the author of its creation as root. -/
theorem root_of_run
    {workspaceId : WorkspaceId} {events : List SignedEvent} {index : WorkspaceAccessIndex}
    (ran : Run authorizeAndApply (new workspaceId) events index) :
    ∀ event ∈ events, CreatesWorkspace event →
      index.rootSeen = true ∧ index.rootDeviceId = some event.event.authorDeviceId := by
  induction ran with
  | start => simp
  | @extend actions state next action _ _ accepted inductionHypothesis =>
      intro event member creates
      refine ⟨rootSeen_of_accepted accepted, ?_⟩
      rw [authorizeAndApply_eq_ok_iff, authorize_eq_ok_iff] at accepted
      obtain ⟨⟨-, -, -, permitted⟩, rfl⟩ := accepted
      rw [applyAuthorized_rootDeviceId]
      unfold rootDeviceIdAfter
      rcases List.mem_append.mp member with earlier | isLast
      · obtain ⟨rooted, isRoot⟩ := inductionHypothesis event earlier creates
        cases body : action.event.body with
        | workspaceCreated name =>
            -- a second creation is refused
            simp [authorizeBody, body, rooted] at permitted
        | _ => exact isRoot
      · rw [List.mem_singleton.mp isLast] at creates ⊢
        obtain ⟨name, body⟩ := creates.exists_name
        simp only [body]

/-- Leaving out the creation of the workspace changes no role but that of the
root. -/
theorem agree_without_creation
    {workspaceId : WorkspaceId} {events : List SignedEvent} {index : WorkspaceAccessIndex}
    {rootDeviceId : DeviceId}
    (ran : Run authorizeAndApply (new workspaceId) events index)
    (byRoot :
      ∀ event ∈ events, CreatesWorkspace event → event.event.authorDeviceId = rootDeviceId)
    {recorded : WorkspaceAccessIndex}
    (isRecorded :
      (events.filter fun event => !createsWorkspace event.event.body).foldl applyAuthorized
        (new workspaceId) = recorded) :
    (∀ deviceId : DeviceId, deviceId ≠ rootDeviceId →
        recorded.roles[deviceId]? = index.roles[deviceId]?) ∧
      recorded.channels = index.channels ∧ recorded.messages = index.messages ∧
        recorded.eventChannels = index.eventChannels ∧
          recorded.personLinks = index.personLinks := by
  induction ran generalizing recorded with
  | start =>
      rw [← isRecorded]
      exact ⟨fun _ _ => rfl, rfl, rfl, rfl, rfl⟩
  | @extend actions state next action _ _ accepted inductionHypothesis =>
      obtain ⟨-, rfl⟩ := (authorizeAndApply_eq_ok_iff _ _ _).mp accepted
      obtain ⟨roles, channels, messages, eventChannels, personLinks⟩ :=
        inductionHypothesis
          (fun event member => byRoot event (List.mem_append_left _ member)) rfl
      rw [List.filter_append, List.foldl_append] at isRecorded
      rw [applyAuthorized_roles, applyAuthorized_channels, applyAuthorized_messages,
        applyAuthorized_eventChannels, applyAuthorized_personLinks, ← isRecorded]
      by_cases creates : CreatesWorkspace action
      · rw [List.filter_cons_of_neg (by simpa [CreatesWorkspace] using creates)]
        have isRoot := byRoot action (List.mem_append_right _ List.mem_cons_self) creates
        obtain ⟨name, body⟩ := creates.exists_name
        simp only [List.filter_nil, List.foldl_nil, rolesAfter, channelsAfter, messagesAfter,
          eventChannelsAfter, personLinksAfter, createdMessageId, recordedChannelId, body]
        refine ⟨?_, channels, messages, eventChannels, personLinks⟩
        intro deviceId notRoot
        rw [roles deviceId notRoot, Std.ExtTreeMap.getElem?_insert, if_neg]
        rw [Std.LawfulEqCmp.compare_eq_iff_eq, isRoot]
        exact fun same => notRoot same.symm
      · rw [List.filter_cons_of_pos (by simpa [CreatesWorkspace] using creates), List.filter_nil,
          List.foldl_cons, List.foldl_nil, applyAuthorized_roles, applyAuthorized_channels,
          applyAuthorized_messages, applyAuthorized_eventChannels, applyAuthorized_personLinks,
          channels, messages, eventChannels, personLinks]
        exact ⟨fun deviceId notRoot => rolesAfter_congr (roles deviceId notRoot) action, rfl, rfl,
          rfl, rfl⟩

end WorkspaceAccessIndex

/-- For a history whose applied events are listed as they were applied, only the
role of the root matters. -/
theorem recordsInInputOrder_iff_of_inOrder
    {workspaceId : WorkspaceId} {events : List SignedEvent} {report : MaterializationReport}
    {final : WorkspaceState} {rootEvent : SignedEvent}
    (accepted : (WorkspaceState.new workspaceId).applyBatch events = (.ok report, final))
    (distinct : (events.map SignedEvent.eventId).Nodup)
    (inOrder :
      (appliedInInputOrder workspaceId events).map SignedEvent.eventId = report.appliedEvents)
    (rootListed : rootEvent ∈ appliedInInputOrder workspaceId events)
    (creates : CreatesWorkspace rootEvent) :
    RecordsInInputOrder workspaceId events rootEvent.event.authorDeviceId ↔
      (materializedIndex workspaceId events).roles[rootEvent.event.authorDeviceId]? =
        some .owner := by
  refine ⟨RecordsInInputOrder.rootOwns, ?_⟩
  intro rootOwns
  obtain ⟨applied, drawn, listed, replayed⟩ := WorkspaceState.applied_of_applyBatch accepted
  have reached := WorkspaceState.Reachable.applyBatch .new accepted drawn listed replayed
  have ran := reached.ledger.index
  have isFinal : final.accessIndex = materializedIndex workspaceId events := by
    rw [materializedIndex, accepted]
  rw [List.nil_append, isFinal] at ran
  have sameEvents : appliedInInputOrder workspaceId events = applied := by
    have sameIds := inOrder.trans listed.symm
    apply List.ext_getElem (by simpa using congrArg List.length sameIds)
    intro position inListed inApplied
    apply List.inj_on_of_nodup_map distinct
      (appliedInInputOrder_subset workspaceId events (List.getElem_mem inListed))
      (drawn (List.getElem_mem inApplied))
    rw [← List.getElem_map SignedEvent.eventId, ← List.getElem_map SignedEvent.eventId]
    · simp only [sameIds]
    · simpa using inApplied
    · simpa using inListed
  rw [sameEvents] at rootListed
  have isRoot := WorkspaceAccessIndex.root_of_run ran rootEvent rootListed creates
  have byRoot :
      ∀ event ∈ applied, CreatesWorkspace event →
        event.event.authorDeviceId = rootEvent.event.authorDeviceId := by
    intro event member eventCreates
    have alsoRoot := (WorkspaceAccessIndex.root_of_run ran event member eventCreates).2
    rw [isRoot.2] at alsoRoot
    exact (Option.some.inj alsoRoot).symm
  have isRecorded : (applied.filter fun event => !createsWorkspace event.event.body).foldl
      WorkspaceAccessIndex.applyAuthorized (WorkspaceAccessIndex.new workspaceId) =
        recordedIndex workspaceId events := by
    rw [recordedIndex, sameEvents]
  obtain ⟨roles, channels, messages, eventChannels, personLinks⟩ :=
    WorkspaceAccessIndex.agree_without_creation ran byRoot isRecorded
  exact
    { root := isRoot.2
      rootOwns := rootOwns
      roles := roles
      channels := channels
      messages := messages
      eventChannels := eventChannels
      personLinks := personLinks }

end Chaft
