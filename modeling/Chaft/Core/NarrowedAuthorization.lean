import Chaft.Core.SnapshotNarrowing

/-!
# Decisions under a narrowed snapshot

The index of a narrowed snapshot answers as the full one does wherever an
entry is needed.  So each requirement of a target event decides the same, and
so does authorization as a whole, unless the target creates a channel or links
a person that only the full snapshot knows.
-/

namespace Chaft

open Keyed Outcome NeededEntries

/-! ## The two indexes -/

/-- A channel whose members are cut down to the needed devices. -/
def ChannelAccess.restrict (devices : HashSet DeviceId) (channel : ChannelAccess) :
    ChannelAccess :=
  { channel with members := channel.members.filter fun deviceId => decide (deviceId ∈ devices) }

/-- The narrowed index answers as the full one for needed keys and knows no others. -/
structure Restricts (needed : NeededEntries) (index narrowed : WorkspaceAccessIndex) : Prop where
  workspaceId : narrowed.workspaceId = index.workspaceId
  rootSeen : narrowed.rootSeen = index.rootSeen
  rootDeviceId : narrowed.rootDeviceId = index.rootDeviceId
  invites : narrowed.invites = index.invites
  joinRequests : narrowed.joinRequests = index.joinRequests
  roles : ∀ deviceId ∈ needed.devices, narrowed.roles[deviceId]? = index.roles[deviceId]?
  channels :
    ∀ channelId : ChannelId,
      narrowed.channels[channelId]? =
        if channelId ∈ needed.channels then
          index.channels[channelId]?.map (ChannelAccess.restrict needed.devices)
        else
          none
  messages : ∀ messageId ∈ needed.messages, narrowed.messages[messageId]? = index.messages[messageId]?
  messagesKnown :
    ∀ messageId ∈ needed.messages, ∀ message : MessageAccess,
      index.messages[messageId]? = some message → message.channelId ∈ needed.channels
  eventChannels :
    ∀ eventId ∈ needed.eventChannels, narrowed.eventChannels[eventId]? = index.eventChannels[eventId]?
  personLinks :
    ∀ deviceId : DeviceId,
      narrowed.personLinks[deviceId]? =
        if deviceId ∈ needed.devices then index.personLinks[deviceId]? else none

private theorem restricted_access
    (channel : TrustSnapshotChannel) (devices : HashSet DeviceId) :
    TrustSnapshotChannel.access
        { channel with
          memberDeviceIds :=
            channel.memberDeviceIds.filter fun deviceId => decide (deviceId ∈ devices) } =
      channel.access.restrict devices := by
  unfold TrustSnapshotChannel.access ChannelAccess.restrict
  congr 1
  apply ext_of_mem
  intro deviceId
  rw [mem_foldl_insert, List.mem_filter, mem_filter_iff, mem_foldl_insert]
  simp

/-- Narrowing a snapshot restricts its index. -/
theorem snapshotIndex_restricts (snapshot : TrustSnapshot) (targets : List SignedEvent) :
    Restricts (neededEntries snapshot targets) (WorkspaceAccessIndex.snapshotIndex snapshot)
      (WorkspaceAccessIndex.snapshotIndex (trustSnapshotForEvents snapshot targets)) := by
  have closed := neededEntries_closed snapshot targets
  constructor
  case workspaceId => rfl
  case rootSeen => rfl
  case rootDeviceId => rfl
  case invites => rfl
  case joinRequests => rfl
  case roles =>
    intro deviceId isNeeded
    have filtered :=
      @getElem?_tableOf_filter _ _ _ _ _ TrustSnapshotRole.deviceId TrustSnapshotRole.role _
        (fun deviceId => decide (deviceId ∈ (neededEntries snapshot targets).devices))
        ((∅ : HashMap DeviceId WorkspaceRole).insert snapshot.rootAuthorDeviceId .owner)
        snapshot.roles deviceId
    rw [if_pos (decide_eq_true isNeeded)] at filtered
    exact filtered
  case channels =>
    intro channelId
    have changed :=
      @getElem?_tableOf_change _ _ _ _ _ TrustSnapshotChannel.channelId
        TrustSnapshotChannel.access _
        (ChannelAccess.restrict (neededEntries snapshot targets).devices) ∅ ∅ channelId
        (by simp)
        (snapshot.channels.filter fun channel =>
          decide (channel.channelId ∈ (neededEntries snapshot targets).channels))
    have filtered :=
      @getElem?_tableOf_filter _ _ _ _ _ TrustSnapshotChannel.channelId
        TrustSnapshotChannel.access _
        (fun channelId => decide (channelId ∈ (neededEntries snapshot targets).channels)) ∅
        snapshot.channels channelId
    have narrowedChannels :
        (WorkspaceAccessIndex.snapshotIndex (trustSnapshotForEvents snapshot targets)).channels =
          tableOf TrustSnapshotChannel.channelId
            (fun channel => channel.access.restrict (neededEntries snapshot targets).devices) ∅
            (snapshot.channels.filter fun channel =>
              decide (channel.channelId ∈ (neededEntries snapshot targets).channels)) := by
      unfold WorkspaceAccessIndex.snapshotIndex trustSnapshotForEvents
      dsimp only
      rw [tableOf_map]
      simp only [restricted_access]
    rw [narrowedChannels, changed, filtered]
    by_cases isNeeded : channelId ∈ (neededEntries snapshot targets).channels
    · rw [if_pos (decide_eq_true isNeeded), if_pos isNeeded]
      rfl
    · rw [if_neg (by simpa using isNeeded), if_neg isNeeded]
      simp
  case messages =>
    intro messageId isNeeded
    have filtered :=
      @getElem?_tableOf_filter _ _ _ _ _ TrustSnapshotMessage.messageId
        TrustSnapshotMessage.access _
        (fun messageId => decide (messageId ∈ (neededEntries snapshot targets).messages)) ∅
        snapshot.messages messageId
    rw [if_pos (decide_eq_true isNeeded)] at filtered
    exact filtered
  case messagesKnown =>
    intro messageId isNeeded message isFound
    rcases getElem?_tableOf isFound with ⟨listed, member, same, rfl⟩ | ⟨_, impossible⟩
    · exact closed.messages listed member (same ▸ isNeeded)
    · simp at impossible
  case eventChannels =>
    intro eventId isNeeded
    have filtered :=
      @getElem?_tableOf_filter _ _ _ _ _ TrustSnapshotEventChannel.eventId
        TrustSnapshotEventChannel.channelId _
        (fun eventId => decide (eventId ∈ (neededEntries snapshot targets).eventChannels)) ∅
        snapshot.eventChannels eventId
    rw [if_pos (decide_eq_true isNeeded)] at filtered
    exact filtered
  case personLinks =>
    intro deviceId
    have filtered :=
      @getElem?_tableOf_filter _ _ _ _ _ TrustSnapshotPersonDeviceLink.deviceId
        TrustSnapshotPersonDeviceLink.personId _
        (fun deviceId => decide (deviceId ∈ (neededEntries snapshot targets).devices)) ∅
        snapshot.personDeviceLinks deviceId
    by_cases isNeeded : deviceId ∈ (neededEntries snapshot targets).devices
    · rw [if_pos (decide_eq_true isNeeded)] at filtered
      rw [if_pos isNeeded]
      exact filtered
    · rw [if_neg (by simpa using isNeeded)] at filtered
      rw [if_neg isNeeded]
      exact filtered.trans (by simp)

/-! ## The requirements of a target -/

namespace Restricts

variable {needed : NeededEntries} {index narrowed : WorkspaceAccessIndex}

theorem requireRootedMember_eq
    (restricts : Restricts needed index narrowed) {deviceId : DeviceId}
    (isNeeded : deviceId ∈ needed.devices) :
    narrowed.requireRootedMember deviceId = index.requireRootedMember deviceId := by
  unfold WorkspaceAccessIndex.requireRootedMember WorkspaceAccessIndex.roleFor
  rw [restricts.rootSeen, restricts.roles deviceId isNeeded]

theorem requireChannelAccess_eq
    (restricts : Restricts needed index narrowed) {channelId : ChannelId} {deviceId : DeviceId}
    (channelNeeded : channelId ∈ needed.channels) (deviceNeeded : deviceId ∈ needed.devices) :
    narrowed.requireChannelAccess channelId deviceId =
      index.requireChannelAccess channelId deviceId := by
  unfold WorkspaceAccessIndex.requireChannelAccess WorkspaceAccessIndex.requireChannel
  rw [restricts.channels, if_pos channelNeeded]
  cases index.channels[channelId]? with
  | none => rfl
  | some channel =>
      have sameMember :
          deviceId ∈ (channel.restrict needed.devices).members ↔ deviceId ∈ channel.members := by
        rw [ChannelAccess.restrict, mem_filter_iff]
        simp [deviceNeeded]
      simp only [Option.map_some, okOr, bind, Except.bind, ensure, sameMember]
      rfl

theorem requireChannelMemberGrant_eq
    (restricts : Restricts needed index narrowed) {channelId : ChannelId}
    (channelNeeded : channelId ∈ needed.channels) (deviceId : DeviceId) (role : WorkspaceRole) :
    narrowed.requireChannelMemberGrant channelId deviceId role =
      index.requireChannelMemberGrant channelId deviceId role := by
  unfold WorkspaceAccessIndex.requireChannelMemberGrant WorkspaceAccessIndex.requireChannel
  rw [restricts.channels, if_pos channelNeeded]
  cases index.channels[channelId]? <;> rfl

theorem requireWorkspaceOpenmlsCommitter_eq
    (restricts : Restricts needed index narrowed) (deviceId : DeviceId) :
    narrowed.requireWorkspaceOpenmlsCommitter deviceId =
      index.requireWorkspaceOpenmlsCommitter deviceId := by
  unfold WorkspaceAccessIndex.requireWorkspaceOpenmlsCommitter
  rw [restricts.rootDeviceId]

theorem requireChannelOpenmlsCommitter_eq
    (restricts : Restricts needed index narrowed) {channelId : ChannelId}
    (channelNeeded : channelId ∈ needed.channels) (deviceId : DeviceId) :
    narrowed.requireChannelOpenmlsCommitter channelId deviceId =
      index.requireChannelOpenmlsCommitter channelId deviceId := by
  unfold WorkspaceAccessIndex.requireChannelOpenmlsCommitter WorkspaceAccessIndex.requireChannel
  rw [restricts.channels, if_pos channelNeeded]
  cases index.channels[channelId]? <;> rfl

theorem requireMessage_eq
    (restricts : Restricts needed index narrowed) {messageId : MessageId}
    (isNeeded : messageId ∈ needed.messages) :
    narrowed.requireMessage messageId = index.requireMessage messageId := by
  unfold WorkspaceAccessIndex.requireMessage
  rw [restricts.messages messageId isNeeded]

theorem mem_channels_iff
    (restricts : Restricts needed index narrowed) (channelId : ChannelId) :
    channelId ∈ narrowed.channels ↔ channelId ∈ needed.channels ∧ channelId ∈ index.channels := by
  rw [mem_iff_exists_getElem?, mem_iff_exists_getElem?, restricts.channels]
  by_cases isNeeded : channelId ∈ needed.channels
  · simp [isNeeded]
  · simp [isNeeded]

theorem requirePersonProfileUpdate_eq
    (restricts : Restricts needed index narrowed) (personId : PersonId) {deviceId : DeviceId}
    (isNeeded : deviceId ∈ needed.devices) :
    narrowed.requirePersonProfileUpdate personId deviceId =
      index.requirePersonProfileUpdate personId deviceId := by
  unfold WorkspaceAccessIndex.requirePersonProfileUpdate
  rw [restricts.personLinks, if_pos isNeeded]

/-- The requirements of a target decide the same, unless it creates a channel or
links a person. -/
theorem authorizeBody_eq
    (restricts : Restricts needed index narrowed) {event : SignedEvent}
    (covers : Covers needed event)
    (noChannel : ∀ channelId name isPrivate,
      event.event.body ≠ .channelCreated channelId name isPrivate)
    (noLink : ∀ personId deviceId, event.event.body ≠ .personDeviceLinked personId deviceId) :
    narrowed.authorizeBody event = index.authorizeBody event := by
  have author := restricts.requireRootedMember_eq covers.author
  have covered := covers.body
  unfold WorkspaceAccessIndex.authorizeBody
  cases body : event.event.body with
  | channelCreated channelId name isPrivate => exact absurd body (noChannel _ _ _)
  | personDeviceLinked personId deviceId => exact absurd body (noLink _ _)
  | workspaceCreated name => simp only [restricts.rootSeen]
  | memberRoleUpdated memberDeviceId role =>
      rw [body] at covered
      simp only [author, restricts.requireRootedMember_eq covered, restricts.rootDeviceId]
  | memberRemoved removedDeviceId =>
      rw [body] at covered
      simp only [author, restricts.requireRootedMember_eq covered, restricts.rootDeviceId]
  | workspaceInviteClaimed | workspaceInviteResolved => simp only [author, restricts.invites]
  | workspaceJoinRequestResolved => simp only [author, restricts.joinRequests]
  | directMessageChannelCreated channelId name participantDeviceIds =>
      rw [body] at covered
      obtain ⟨channelNeeded, participantsNeeded⟩ := covered
      have sameNew :
          narrowed.requireNewChannelId channelId = index.requireNewChannelId channelId := by
        unfold WorkspaceAccessIndex.requireNewChannelId ensure
        simp only [restricts.mem_channels_iff, channelNeeded, true_and]
      have sameParticipants :
          checkAll (fun participantDeviceId => do
              let _ ← narrowed.requireRootedMember participantDeviceId
              .ok ()) participantDeviceIds =
            checkAll (fun participantDeviceId => do
              let _ ← index.requireRootedMember participantDeviceId
              .ok ()) participantDeviceIds := by
        apply checkAll_congr
        intro participantDeviceId member
        rw [restricts.requireRootedMember_eq (participantsNeeded participantDeviceId member)]
      simp only [author, sameNew, sameParticipants]
  | channelDetailsUpdated channelId =>
      rw [body] at covered
      simp only [author, restricts.requireChannelAccess_eq covered covers.author]
  | personProfileUpdated personId =>
      simp only [author, restricts.requirePersonProfileUpdate_eq personId covers.author]
  | openMlsWorkspaceGroupMemberAdded inviteeDeviceId | openMlsWorkspaceGroupMemberRemoved inviteeDeviceId =>
      rw [body] at covered
      simp only [author, restricts.requireWorkspaceOpenmlsCommitter_eq,
        restricts.requireRootedMember_eq covered, restricts.rootDeviceId]
  | openMlsWorkspaceGroupSelfUpdated =>
      simp only [author, restricts.requireWorkspaceOpenmlsCommitter_eq]
  | openMlsChannelGroupMemberAdded channelId deviceId
  | openMlsChannelGroupMemberRemoved channelId deviceId =>
      rw [body] at covered
      obtain ⟨channelNeeded, deviceNeeded⟩ := covered
      simp only [author, restricts.requireChannelOpenmlsCommitter_eq channelNeeded,
        restricts.requireRootedMember_eq deviceNeeded,
        restricts.requireChannelMemberGrant_eq channelNeeded,
        restricts.requireChannelAccess_eq channelNeeded deviceNeeded]
  | openMlsChannelGroupSelfUpdated channelId =>
      rw [body] at covered
      simp only [author, restricts.requireChannelOpenmlsCommitter_eq covered,
        restricts.requireChannelAccess_eq covered covers.author]
  | contentKeyEpochPublished scope =>
      rw [body] at covered
      cases scope with
      | workspace => simp only [author]
      | channel channelId =>
          simp only [author, restricts.requireChannelMemberGrant_eq covered]
  | channelMemberAdded channelId memberDeviceId | channelMemberRemoved channelId memberDeviceId =>
      rw [body] at covered
      obtain ⟨channelNeeded, deviceNeeded⟩ := covered
      simp only [author, restricts.requireRootedMember_eq deviceNeeded,
        restricts.requireChannelMemberGrant_eq channelNeeded,
        restricts.requireChannelAccess_eq channelNeeded deviceNeeded]
  | messageCreated | messageCreatedEncrypted =>
      dsimp only
      rw [author]
      refine bind_congr_ok fun _ _ => bind_congr_ok fun channelId inChannel => ?_
      rw [requireEventChannel_eq_ok_iff] at inChannel
      exact restricts.requireChannelAccess_eq (covers.channel channelId inChannel) covers.author
  | messageReplyCreated _ replyToMessageId | messageReplyCreatedEncrypted _ replyToMessageId =>
      rw [body] at covered
      dsimp only
      rw [author]
      refine bind_congr_ok fun _ _ => bind_congr_ok fun channelId inChannel => ?_
      rw [requireEventChannel_eq_ok_iff] at inChannel
      rw [restricts.requireChannelAccess_eq (covers.channel channelId inChannel) covers.author,
        restricts.requireMessage_eq covered]
  | messageEdited messageId | messageEditedEncrypted messageId | messageDeleted messageId
  | reactionAdded messageId | reactionRemoved messageId =>
      rw [body] at covered
      dsimp only
      rw [author, restricts.requireMessage_eq covered]
      refine bind_congr_ok fun _ _ => bind_congr_ok fun message isFound => ?_
      rw [WorkspaceAccessIndex.requireMessage_eq_ok_iff] at isFound
      rw [restricts.requireChannelAccess_eq
        (restricts.messagesKnown messageId covered message isFound) covers.author]
  | readMarkerUpdated channelId eventId =>
      rw [body] at covered
      simp only [author, restricts.requireChannelAccess_eq covered.1 covers.author,
        restricts.eventChannels eventId covered.2]
  | _ => simp only [author]

end Restricts

/-! ## What narrowing hides -/

/-- The author may create channels, but not this one, and narrowing drops the channel
that is in the way. -/
def HidesChannel
    (index : WorkspaceAccessIndex) (needed : NeededEntries) (event : SignedEvent) : Prop :=
  ∃ channelId name isPrivate role,
    event.event.body = .channelCreated channelId name isPrivate ∧
      index.roles[event.event.authorDeviceId]? = some role ∧ Action.createChannel.AllowedFor role ∧
        channelId ∈ index.channels ∧ channelId ∉ needed.channels

/-- An unlinked member links itself to a person, and narrowing drops the device that
holds the person. -/
def HidesLink
    (index : WorkspaceAccessIndex) (needed : NeededEntries) (event : SignedEvent) : Prop :=
  ∃ personId,
    event.event.body = .personDeviceLinked personId event.event.authorDeviceId ∧
      event.event.authorDeviceId ∈ index.roles ∧
        index.personLinks[event.event.authorDeviceId]? = none ∧
          (∃ other : DeviceId, index.personLinks[other]? = some personId) ∧
            ∀ other : DeviceId, index.personLinks[other]? = some personId → other ∉ needed.devices

/-- A well-formed event of the workspace whose obstacle is narrowed away. -/
def HidesObstacle
    (index : WorkspaceAccessIndex) (needed : NeededEntries) (event : SignedEvent) : Prop :=
  validateSignedEventIds event = .ok () ∧ event.event.workspaceId = index.workspaceId ∧
    validateEventBodyPayloadSizes event.event.body = .ok () ∧
      (HidesChannel index needed event ∨ HidesLink index needed event)

namespace Restricts

variable {needed : NeededEntries} {index narrowed : WorkspaceAccessIndex}

private theorem channelCreated_agrees_iff
    (restricts : Restricts needed index narrowed) (rooted : index.rootSeen = true)
    {event : SignedEvent} (covers : Covers needed event) {channelId : ChannelId} {name : String}
    {isPrivate : Bool} (body : event.event.body = .channelCreated channelId name isPrivate) :
    (narrowed.authorizeBody event = .ok () ↔ index.authorizeBody event = .ok ()) ↔
      ¬ HidesChannel index needed event := by
  have decides (tested : WorkspaceAccessIndex) (testedRooted : tested.rootSeen = true) :
      tested.authorizeBody event = .ok () ↔
        ∃ role, tested.roles[event.event.authorDeviceId]? = some role ∧
          Action.createChannel.AllowedFor role ∧ channelId ∉ tested.channels := by
    unfold WorkspaceAccessIndex.authorizeBody
    simp [body, testedRooted]
  rw [decides index rooted, decides narrowed (restricts.rootSeen.trans rooted),
    restricts.roles _ covers.author, restricts.mem_channels_iff]
  have hides :
      HidesChannel index needed event ↔
        ∃ role, index.roles[event.event.authorDeviceId]? = some role ∧
          Action.createChannel.AllowedFor role ∧ channelId ∈ index.channels ∧
            channelId ∉ needed.channels := by
    unfold HidesChannel
    simp [body]
  rw [hides]
  constructor
  · rintro agree ⟨role, isRole, allowed, present, unneeded⟩
    obtain ⟨_, _, _, absent⟩ := agree.mp ⟨role, isRole, allowed, fun both => unneeded both.1⟩
    exact absent present
  · intro visible
    constructor
    · rintro ⟨role, isRole, allowed, notBoth⟩
      refine ⟨role, isRole, allowed, fun present => ?_⟩
      have isNeeded : channelId ∈ needed.channels := by
        by_contra unneeded
        exact visible ⟨role, isRole, allowed, present, unneeded⟩
      exact notBoth ⟨isNeeded, present⟩
    · rintro ⟨role, isRole, allowed, absent⟩
      exact ⟨role, isRole, allowed, fun both => absent both.2⟩

private theorem personDeviceLinked_agrees_iff
    (restricts : Restricts needed index narrowed) (rooted : index.rootSeen = true)
    {event : SignedEvent} (covers : Covers needed event) {personId : PersonId}
    {deviceId : DeviceId} (body : event.event.body = .personDeviceLinked personId deviceId) :
    (narrowed.authorizeBody event = .ok () ↔ index.authorizeBody event = .ok ()) ↔
      ¬ HidesLink index needed event := by
  have deviceNeeded : deviceId ∈ needed.devices := by
    have covered := covers.body
    rw [body] at covered
    exact covered
  have decides (tested : WorkspaceAccessIndex) (testedRooted : tested.rootSeen = true) :
      tested.authorizeBody event = .ok () ↔
        (∃ role, tested.roles[event.event.authorDeviceId]? = some role) ∧
          deviceId = event.event.authorDeviceId ∧
            (tested.personLinks[deviceId]? = some personId ∨
              tested.personLinks[deviceId]? = none ∧
                ∀ other : DeviceId, tested.personLinks[other]? ≠ some personId) := by
    unfold WorkspaceAccessIndex.authorizeBody
    simp [body, testedRooted]
  have narrowedLinks :
      (∀ other : DeviceId, narrowed.personLinks[other]? ≠ some personId) ↔
        ∀ other : DeviceId, index.personLinks[other]? = some personId → other ∉ needed.devices := by
    apply forall_congr'
    intro other
    rw [restricts.personLinks]
    by_cases isNeeded : other ∈ needed.devices <;> simp [isNeeded]
  rw [decides index rooted, decides narrowed (restricts.rootSeen.trans rooted),
    restricts.roles _ covers.author, narrowedLinks, restricts.personLinks, if_pos deviceNeeded]
  have hides :
      HidesLink index needed event ↔
        deviceId = event.event.authorDeviceId ∧
          (∃ role, index.roles[event.event.authorDeviceId]? = some role) ∧
            index.personLinks[deviceId]? = none ∧
              (∃ other : DeviceId, index.personLinks[other]? = some personId) ∧
                ∀ other : DeviceId,
                  index.personLinks[other]? = some personId → other ∉ needed.devices := by
    unfold HidesLink
    rw [← mem_iff_exists_getElem?]
    constructor
    · rintro ⟨hidden, isLink, isMember, unlinked, held, unneeded⟩
      rw [body] at isLink
      cases isLink
      exact ⟨rfl, isMember, unlinked, held, unneeded⟩
    · rintro ⟨rfl, isMember, unlinked, held, unneeded⟩
      exact ⟨personId, body, isMember, unlinked, held, unneeded⟩
  rw [hides]
  constructor
  · rintro agree ⟨isAuthor, isMember, unlinked, ⟨other, held⟩, unneeded⟩
    obtain ⟨_, _, linked | ⟨_, unheld⟩⟩ :=
      agree.mp ⟨isMember, isAuthor, Or.inr ⟨unlinked, unneeded⟩⟩
    · rw [unlinked] at linked
      cases linked
    · exact unheld other held
  · intro visible
    constructor
    · rintro ⟨isMember, isAuthor, linked | ⟨unlinked, unneeded⟩⟩
      · exact ⟨isMember, isAuthor, Or.inl linked⟩
      · refine ⟨isMember, isAuthor, Or.inr ⟨unlinked, fun other held => ?_⟩⟩
        exact visible ⟨isAuthor, isMember, unlinked, ⟨other, held⟩, unneeded⟩
    · rintro ⟨isMember, isAuthor, linked | ⟨unlinked, unheld⟩⟩
      · exact ⟨isMember, isAuthor, Or.inl linked⟩
      · exact ⟨isMember, isAuthor, Or.inr ⟨unlinked, fun other held => absurd held (unheld other)⟩⟩

/-- A covered event is decided the same under both indexes if and only if narrowing
hides nothing that stands in its way. -/
theorem authorize_agrees_iff
    (restricts : Restricts needed index narrowed) (rooted : index.rootSeen = true)
    {event : SignedEvent} (covers : Covers needed event) :
    (narrowed.authorize event = .ok () ↔ index.authorize event = .ok ()) ↔
      ¬ HidesObstacle index needed event := by
  rw [WorkspaceAccessIndex.authorize_eq_ok_iff, WorkspaceAccessIndex.authorize_eq_ok_iff,
    restricts.workspaceId]
  by_cases wellFormed :
      validateSignedEventIds event = .ok () ∧ event.event.workspaceId = index.workspaceId ∧
        validateEventBodyPayloadSizes event.event.body = .ok ()
  · obtain ⟨validIds, sameWorkspace, validSizes⟩ := wellFormed
    simp only [HidesObstacle, validIds, sameWorkspace, validSizes, true_and]
    cases body : event.event.body with
    | channelCreated channelId name isPrivate =>
        rw [restricts.channelCreated_agrees_iff rooted covers body]
        have noLink : ¬ HidesLink index needed event := by
          rintro ⟨personId, isLink, -⟩
          rw [body] at isLink
          cases isLink
        simp only [noLink, or_false]
    | personDeviceLinked personId deviceId =>
        rw [restricts.personDeviceLinked_agrees_iff rooted covers body]
        have noChannel : ¬ HidesChannel index needed event := by
          rintro ⟨channelId, name, isPrivate, role, isCreation, -⟩
          rw [body] at isCreation
          cases isCreation
        simp only [noChannel, false_or]
    | _ =>
        rw [restricts.authorizeBody_eq covers (by simp [body]) (by simp [body])]
        refine iff_of_true Iff.rfl ?_
        rintro (⟨_, _, _, _, isCreation, -⟩ | ⟨_, isLink, -⟩)
        · rw [body] at isCreation
          cases isCreation
        · rw [body] at isLink
          cases isLink
  · refine iff_of_true ?_ ?_
    · constructor
      · rintro ⟨validIds, sameWorkspace, validSizes, -⟩
        exact absurd ⟨validIds, sameWorkspace, validSizes⟩ wellFormed
      · rintro ⟨validIds, sameWorkspace, validSizes, -⟩
        exact absurd ⟨validIds, sameWorkspace, validSizes⟩ wellFormed
    · rintro ⟨validIds, sameWorkspace, validSizes, -⟩
      exact wellFormed ⟨validIds, sameWorkspace, validSizes⟩

end Restricts

/-- A narrowed snapshot is accepted, and it decides a target event as the full one
does if and only if nothing that stands in the way of the event is narrowed away. -/
theorem trustSnapshotForEvents_decides_iff
    (snapshot : TrustSnapshot) (index : WorkspaceAccessIndex)
    (accepted : WorkspaceAccessIndex.fromTrustSnapshot snapshot = .ok index)
    (targets : List SignedEvent) (event : SignedEvent) (isTarget : event ∈ targets) :
    (∃ narrowed,
        WorkspaceAccessIndex.fromTrustSnapshot (trustSnapshotForEvents snapshot targets) =
          .ok narrowed) ∧
      ((authorizeEventWithTrustSnapshot (trustSnapshotForEvents snapshot targets) event = .ok () ↔
          authorizeEventWithTrustSnapshot snapshot event = .ok ()) ↔
        ¬ HidesObstacle index (neededEntries snapshot targets) event) := by
  obtain ⟨acceptable, rfl⟩ :=
    (WorkspaceAccessIndex.fromTrustSnapshot_eq_ok_iff snapshot index).mp accepted
  have narrowedAccepted :
      WorkspaceAccessIndex.fromTrustSnapshot (trustSnapshotForEvents snapshot targets) =
        .ok (WorkspaceAccessIndex.snapshotIndex (trustSnapshotForEvents snapshot targets)) := by
    rw [WorkspaceAccessIndex.fromTrustSnapshot_eq_ok_iff]
    exact ⟨acceptable_trustSnapshotForEvents acceptable targets, rfl⟩
  refine ⟨⟨_, narrowedAccepted⟩, ?_⟩
  unfold authorizeEventWithTrustSnapshot
  rw [accepted, narrowedAccepted]
  exact (snapshotIndex_restricts snapshot targets).authorize_agrees_iff rfl
    ((neededEntries_closed snapshot targets).covers event isTarget)

/-- A workspace with one channel and one other member, who holds a person. -/
def sampleSnapshot : TrustSnapshot where
  schemaVersion := 1
  workspaceId := ⟨"w"⟩
  rootEventId := ⟨"e0"⟩
  rootAuthorDeviceId := ⟨"root"⟩
  roles := [{ deviceId := ⟨"guest"⟩, role := .member }]
  channels :=
    [{ channelId := ⟨"general"⟩
       isPrivate := false
       creatorDeviceId := ⟨"root"⟩
       memberDeviceIds := [] }]
  messages := []
  eventChannels := []
  personDeviceLinks := [{ personId := ⟨"ada"⟩, deviceId := ⟨"guest"⟩ }]

/-- A message to the channel needs nothing that narrowing drops. -/
theorem trustSnapshotForEvents_decides_iff_sampleSnapshot :
    authorizeEventWithTrustSnapshot
        (trustSnapshotForEvents sampleSnapshot
          [draftEvent "e1" "root" (some "general") [] (.messageCreated ⟨"hello"⟩ "hello" [])])
        (draftEvent "e1" "root" (some "general") [] (.messageCreated ⟨"hello"⟩ "hello" [])) =
          .ok () ↔
      authorizeEventWithTrustSnapshot sampleSnapshot
        (draftEvent "e1" "root" (some "general") [] (.messageCreated ⟨"hello"⟩ "hello" [])) =
          .ok () := by
  refine (trustSnapshotForEvents_decides_iff sampleSnapshot
    (WorkspaceAccessIndex.snapshotIndex sampleSnapshot) (by decide +kernel) _ _
    List.mem_cons_self).2.mpr ?_
  rintro ⟨-, -, -, ⟨_, _, _, _, isCreation, -⟩ | ⟨_, isLink, -⟩⟩
  · cases isCreation
  · cases isLink

/-- Narrowed to its own creation, a channel that exists can be created again. -/
theorem trustSnapshotForEvents_not_decides :
    ¬ ∀ (snapshot : TrustSnapshot) (index : WorkspaceAccessIndex),
      WorkspaceAccessIndex.fromTrustSnapshot snapshot = .ok index →
        ∀ (targets : List SignedEvent), ∀ event ∈ targets,
          (∃ narrowed,
              WorkspaceAccessIndex.fromTrustSnapshot (trustSnapshotForEvents snapshot targets) =
                .ok narrowed) ∧
            (authorizeEventWithTrustSnapshot (trustSnapshotForEvents snapshot targets) event =
                .ok () ↔
              authorizeEventWithTrustSnapshot snapshot event = .ok ()) := by
  intro decides
  have refused :=
    (decides sampleSnapshot (WorkspaceAccessIndex.snapshotIndex sampleSnapshot)
      (by decide +kernel)
      [draftEvent "e1" "root" none [] (.channelCreated ⟨"general"⟩ "general" false)]
      _ List.mem_cons_self).2.mp (by decide +kernel)
  revert refused
  decide +kernel

end Chaft
