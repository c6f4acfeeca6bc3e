import Chaft.Core.SnapshotIndex

/-!
# Narrowing a snapshot

`trustSnapshotForEvents` keeps what its target events depend on, and the
narrowed snapshot is always accepted.  Authorization then consults the same
entries, except for two checks that something is absent: a new channel ID is
not collected, and a person may be linked to a device that is not.
-/

namespace Chaft

open Keyed Outcome

attribute [local simp] Unique.exists_iff

/-! ## What is collected -/

namespace NeededEntries

/-- Everything needed before is needed after. -/
structure Within (before after : NeededEntries) : Prop where
  devices : ∀ deviceId ∈ before.devices, deviceId ∈ after.devices
  channels : ∀ channelId ∈ before.channels, channelId ∈ after.channels
  messages : ∀ messageId ∈ before.messages, messageId ∈ after.messages
  eventChannels : ∀ eventId ∈ before.eventChannels, eventId ∈ after.eventChannels

variable (needed : NeededEntries)

theorem Within.refl : Within needed needed :=
  ⟨fun _ => id, fun _ => id, fun _ => id, fun _ => id⟩

variable {needed}

theorem Within.trans
    {first second third : NeededEntries} (earlier : Within first second)
    (later : Within second third) : Within first third :=
  ⟨fun deviceId member => later.devices deviceId (earlier.devices deviceId member),
    fun channelId member => later.channels channelId (earlier.channels channelId member),
    fun messageId member => later.messages messageId (earlier.messages messageId member),
    fun eventId member => later.eventChannels eventId (earlier.eventChannels eventId member)⟩

@[simp]
theorem mem_insert_iff
    {kind : IdentifierKind} (members : HashSet (Identifier kind)) (item tested : Identifier kind) :
    tested ∈ members.insert item ↔ item = tested ∨ tested ∈ members := by
  rw [Std.ExtTreeSet.mem_insert, Std.LawfulEqCmp.compare_eq_iff_eq]

theorem within_needDevice (needed : NeededEntries) (deviceId : DeviceId) :
    Within needed (needed.needDevice deviceId) :=
  ⟨fun _ member => (mem_insert_iff _ _ _).mpr (Or.inr member), fun _ => id, fun _ => id,
    fun _ => id⟩

theorem within_needChannel (needed : NeededEntries) (channelId : ChannelId) :
    Within needed (needed.needChannel channelId) :=
  ⟨fun _ => id, fun _ member => (mem_insert_iff _ _ _).mpr (Or.inr member), fun _ => id,
    fun _ => id⟩

theorem within_needMessage (needed : NeededEntries) (messageId : MessageId) :
    Within needed (needed.needMessage messageId) :=
  ⟨fun _ => id, fun _ => id, fun _ member => (mem_insert_iff _ _ _).mpr (Or.inr member),
    fun _ => id⟩

theorem within_needEventChannel (needed : NeededEntries) (eventId : EventId) :
    Within needed (needed.needEventChannel eventId) :=
  ⟨fun _ => id, fun _ => id, fun _ => id,
    fun _ member => (mem_insert_iff _ _ _).mpr (Or.inr member)⟩

/-- Collecting step by step only adds. -/
theorem within_foldl
    {α : Type} {collect : NeededEntries → α → NeededEntries}
    (grows : ∀ needed item, Within needed (collect needed item)) (items : List α)
    (needed : NeededEntries) :
    Within needed (items.foldl collect needed) := by
  induction items generalizing needed with
  | nil => exact .refl needed
  | cons item rest inductionHypothesis =>
      exact (grows needed item).trans (inductionHypothesis _)

theorem mem_foldl_needDevice
    (deviceIds : List DeviceId) (needed : NeededEntries) {deviceId : DeviceId}
    (member : deviceId ∈ deviceIds) :
    deviceId ∈ (deviceIds.foldl needDevice needed).devices := by
  induction deviceIds generalizing needed with
  | nil => cases member
  | cons first rest inductionHypothesis =>
      rcases List.mem_cons.mp member with isFirst | later
      · apply (within_foldl within_needDevice rest (needed.needDevice first)).devices
        rw [isFirst]
        exact (mem_insert_iff _ _ _).mpr (Or.inl rfl)
      · exact inductionHypothesis (needed.needDevice first) later

theorem within_collectBody (needed : NeededEntries) (body : EventBody) :
    Within needed (needed.collectBody body) := by
  unfold collectBody
  split
  all_goals try split
  all_goals first
    | exact .refl needed
    | exact within_needDevice _ _
    | exact within_needChannel _ _
    | exact within_needMessage _ _
    | exact (within_needChannel _ _).trans (within_needDevice _ _)
    | exact (within_needChannel _ _).trans (within_needEventChannel _ _)
    | exact (within_needChannel _ _).trans (within_foldl within_needDevice _ _)

theorem within_collect (needed : NeededEntries) (event : SignedEvent) :
    Within needed (needed.collectTrustSnapshotDependencies event) := by
  unfold collectTrustSnapshotDependencies
  apply Within.trans _ (within_collectBody _ _)
  cases event.event.channelId with
  | none => exact within_needDevice _ _
  | some channelId => exact (within_needDevice _ _).trans (within_needChannel _ _)

/-- The entries that authorization looks up for a body are needed. -/
def CoversBody (needed : NeededEntries) : EventBody → Prop
  | .memberRoleUpdated deviceId _
  | .memberRemoved deviceId
  | .openMlsWorkspaceGroupMemberAdded deviceId ..
  | .openMlsWorkspaceGroupMemberRemoved deviceId ..
  | .personDeviceLinked _ deviceId => deviceId ∈ needed.devices
  | .directMessageChannelCreated channelId _ participantDeviceIds =>
      channelId ∈ needed.channels ∧ ∀ deviceId ∈ participantDeviceIds, deviceId ∈ needed.devices
  | .channelDetailsUpdated channelId ..
  | .openMlsChannelGroupSelfUpdated channelId ..
  | .contentKeyEpochPublished (.channel channelId) .. => channelId ∈ needed.channels
  | .channelMemberAdded channelId deviceId
  | .channelMemberRemoved channelId deviceId
  | .openMlsChannelGroupMemberAdded channelId deviceId ..
  | .openMlsChannelGroupMemberRemoved channelId deviceId .. =>
      channelId ∈ needed.channels ∧ deviceId ∈ needed.devices
  | .messageReplyCreated _ messageId ..
  | .messageReplyCreatedEncrypted _ messageId ..
  | .messageEdited messageId ..
  | .messageEditedEncrypted messageId ..
  | .messageDeleted messageId
  | .reactionAdded messageId ..
  | .reactionRemoved messageId .. => messageId ∈ needed.messages
  | .readMarkerUpdated channelId eventId =>
      channelId ∈ needed.channels ∧ eventId ∈ needed.eventChannels
  | _ => True

/-- The entries that authorization looks up for an event are needed. -/
structure Covers (needed : NeededEntries) (event : SignedEvent) : Prop where
  author : event.event.authorDeviceId ∈ needed.devices
  channel : ∀ channelId, event.event.channelId = some channelId → channelId ∈ needed.channels
  body : CoversBody needed event.event.body

theorem CoversBody.mono
    {before after : NeededEntries} (within : Within before after) {body : EventBody}
    (covers : CoversBody before body) : CoversBody after body := by
  cases body with
  | contentKeyEpochPublished scope =>
      cases scope with
      | workspace => trivial
      | channel channelId => exact within.channels channelId covers
  | directMessageChannelCreated channelId =>
      exact ⟨within.channels _ covers.1,
        fun deviceId member => within.devices _ (covers.2 deviceId member)⟩
  | readMarkerUpdated channelId eventId =>
      exact ⟨within.channels _ covers.1, within.eventChannels _ covers.2⟩
  | channelMemberAdded | channelMemberRemoved | openMlsChannelGroupMemberAdded
  | openMlsChannelGroupMemberRemoved =>
      exact ⟨within.channels _ covers.1, within.devices _ covers.2⟩
  | channelDetailsUpdated | openMlsChannelGroupSelfUpdated =>
      exact within.channels _ covers
  | messageReplyCreated | messageReplyCreatedEncrypted | messageEdited | messageEditedEncrypted
  | messageDeleted | reactionAdded | reactionRemoved => exact within.messages _ covers
  | memberRoleUpdated | memberRemoved | openMlsWorkspaceGroupMemberAdded
  | openMlsWorkspaceGroupMemberRemoved | personDeviceLinked => exact within.devices _ covers
  | _ => trivial

theorem Covers.mono
    {before after : NeededEntries} (within : Within before after) {event : SignedEvent}
    (covers : Covers before event) : Covers after event :=
  ⟨within.devices _ covers.author,
    fun channelId inChannel => within.channels _ (covers.channel channelId inChannel),
    covers.body.mono within⟩

private theorem coversBody_collectBody (needed : NeededEntries) (body : EventBody) :
    CoversBody (needed.collectBody body) body := by
  cases body with
  | contentKeyEpochPublished scope => cases scope <;> simp [CoversBody, collectBody, needChannel]
  | directMessageChannelCreated channelId name participantDeviceIds =>
      constructor
      · apply (within_foldl within_needDevice participantDeviceIds _).channels
        exact (mem_insert_iff _ _ _).mpr (Or.inl rfl)
      · exact fun deviceId member => mem_foldl_needDevice participantDeviceIds _ member
  | _ =>
      simp [CoversBody, collectBody, needDevice, needChannel, needMessage, needEventChannel]

theorem covers_collect (needed : NeededEntries) (event : SignedEvent) :
    Covers (needed.collectTrustSnapshotDependencies event) event := by
  unfold collectTrustSnapshotDependencies
  have within := within_collectBody
  constructor
  · apply (within _ _).devices
    cases event.event.channelId with
    | none => exact (mem_insert_iff _ _ _).mpr (Or.inl rfl)
    | some channelId =>
        exact (within_needChannel _ channelId).devices _ ((mem_insert_iff _ _ _).mpr (Or.inl rfl))
  · intro channelId inChannel
    apply (within _ _).channels
    rw [inChannel]
    exact (mem_insert_iff _ _ _).mpr (Or.inl rfl)
  · exact coversBody_collectBody _ _

theorem covers_foldl_collect
    (targets : List SignedEvent) (needed : NeededEntries) {event : SignedEvent}
    (member : event ∈ targets) :
    Covers (targets.foldl collectTrustSnapshotDependencies needed) event := by
  induction targets generalizing needed with
  | nil => cases member
  | cons first rest inductionHypothesis =>
      rcases List.mem_cons.mp member with isFirst | later
      · rw [isFirst]
        exact (covers_collect needed first).mono (within_foldl within_collect rest _)
      · exact inductionHypothesis _ later

/-! ## What follows from the snapshot -/

theorem within_followMessage (needed : NeededEntries) (message : TrustSnapshotMessage) :
    Within needed (needed.followMessage message) := by
  unfold followMessage
  split
  · split
    · exact (within_needChannel _ _).trans (within_needDevice _ _)
    · exact within_needChannel _ _
  · exact .refl needed

theorem within_followEventChannel
    (needed : NeededEntries) (eventChannel : TrustSnapshotEventChannel) :
    Within needed (needed.followEventChannel eventChannel) := by
  unfold followEventChannel
  split
  · exact within_needChannel _ _
  · exact .refl needed

@[simp]
theorem followMessage_messages (needed : NeededEntries) (message : TrustSnapshotMessage) :
    (needed.followMessage message).messages = needed.messages := by
  unfold followMessage
  repeat' split
  all_goals rfl

@[simp]
theorem followMessage_eventChannels (needed : NeededEntries) (message : TrustSnapshotMessage) :
    (needed.followMessage message).eventChannels = needed.eventChannels := by
  unfold followMessage
  repeat' split
  all_goals rfl

@[simp]
theorem followEventChannel_messages
    (needed : NeededEntries) (eventChannel : TrustSnapshotEventChannel) :
    (needed.followEventChannel eventChannel).messages = needed.messages := by
  unfold followEventChannel
  split <;> rfl

@[simp]
theorem followEventChannel_eventChannels
    (needed : NeededEntries) (eventChannel : TrustSnapshotEventChannel) :
    (needed.followEventChannel eventChannel).eventChannels = needed.eventChannels := by
  unfold followEventChannel
  split <;> rfl

/-- A loop that needs the channel of every needed item. -/
private theorem follow_needs
    {α : Type} {follow : NeededEntries → α → NeededEntries} {channelOf : α → ChannelId}
    {isNeeded : NeededEntries → α → Prop}
    (grows : ∀ needed item, Within needed (follow needed item))
    (kept : ∀ needed item other, isNeeded (follow needed item) other ↔ isNeeded needed other)
    (adds : ∀ needed item, isNeeded needed item → channelOf item ∈ (follow needed item).channels)
    (items : List α) (needed : NeededEntries) :
    (∀ other, isNeeded (items.foldl follow needed) other ↔ isNeeded needed other) ∧
      ∀ item ∈ items, isNeeded needed item → channelOf item ∈ (items.foldl follow needed).channels := by
  induction items generalizing needed with
  | nil => simp
  | cons first rest inductionHypothesis =>
      obtain ⟨restKept, restAdds⟩ := inductionHypothesis (follow needed first)
      constructor
      · intro other
        rw [List.foldl_cons, restKept, kept]
      · intro item member itemNeeded
        rcases List.mem_cons.mp member with isFirst | later
        · rw [isFirst] at itemNeeded ⊢
          exact (within_foldl grows rest _).channels _ (adds needed first itemNeeded)
        · exact restAdds item later ((kept needed first item).mpr itemNeeded)

private theorem followMessage_needs (messages : List TrustSnapshotMessage)
    (needed : NeededEntries) :
    (∀ other : TrustSnapshotMessage,
        other.messageId ∈ (messages.foldl followMessage needed).messages ↔
          other.messageId ∈ needed.messages) ∧
      ∀ message ∈ messages, message.messageId ∈ needed.messages →
        message.channelId ∈ (messages.foldl followMessage needed).channels := by
  refine @follow_needs _ followMessage TrustSnapshotMessage.channelId
    (fun needed message => message.messageId ∈ needed.messages) within_followMessage ?_ ?_
    messages needed
  · intro current item other
    rw [followMessage_messages]
  · intro current message isNeeded
    unfold followMessage
    rw [if_pos isNeeded]
    split <;> exact (mem_insert_iff _ _ _).mpr (Or.inl rfl)

private theorem followEventChannel_needs (eventChannels : List TrustSnapshotEventChannel)
    (needed : NeededEntries) :
    (∀ other : TrustSnapshotEventChannel,
        other.eventId ∈ (eventChannels.foldl followEventChannel needed).eventChannels ↔
          other.eventId ∈ needed.eventChannels) ∧
      ∀ eventChannel ∈ eventChannels, eventChannel.eventId ∈ needed.eventChannels →
        eventChannel.channelId ∈ (eventChannels.foldl followEventChannel needed).channels := by
  refine @follow_needs _ followEventChannel TrustSnapshotEventChannel.channelId
    (fun needed eventChannel => eventChannel.eventId ∈ needed.eventChannels)
    within_followEventChannel ?_ ?_ eventChannels needed
  · intro current item other
    rw [followEventChannel_eventChannels]
  · intro current eventChannel isNeeded
    unfold followEventChannel
    rw [if_pos isNeeded]
    exact (mem_insert_iff _ _ _).mpr (Or.inl rfl)

private theorem foldl_followEventChannel_messages
    (eventChannels : List TrustSnapshotEventChannel) (needed : NeededEntries) :
    (eventChannels.foldl followEventChannel needed).messages = needed.messages := by
  induction eventChannels generalizing needed with
  | nil => rfl
  | cons first rest inductionHypothesis =>
      rw [List.foldl_cons, inductionHypothesis, followEventChannel_messages]

/-- The needed entries of a snapshot. -/
structure Closed
    (needed : NeededEntries) (snapshot : TrustSnapshot) (targets : List SignedEvent) : Prop where
  root : snapshot.rootAuthorDeviceId ∈ needed.devices
  covers : ∀ event ∈ targets, Covers needed event
  messages :
    ∀ message ∈ snapshot.messages, message.messageId ∈ needed.messages →
      message.channelId ∈ needed.channels
  eventChannels :
    ∀ eventChannel ∈ snapshot.eventChannels, eventChannel.eventId ∈ needed.eventChannels →
      eventChannel.channelId ∈ needed.channels

end NeededEntries

open NeededEntries

/-- The root is needed, the targets are covered, and needed messages and events
need their channels. -/
theorem neededEntries_closed (snapshot : TrustSnapshot) (targets : List SignedEvent) :
    Closed (neededEntries snapshot targets) snapshot targets := by
  unfold neededEntries
  have afterMessages := within_foldl within_followMessage snapshot.messages
  have afterEvents := within_foldl within_followEventChannel snapshot.eventChannels
  constructor
  · apply (afterEvents _).devices
    apply (afterMessages _).devices
    apply (within_foldl within_collect targets _).devices
    exact (mem_insert_iff _ _ _).mpr (Or.inl rfl)
  · intro event member
    exact (covers_foldl_collect targets _ member).mono ((afterMessages _).trans (afterEvents _))
  · intro message member isNeeded
    rw [foldl_followEventChannel_messages] at isNeeded
    apply (afterEvents _).channels
    have needs := followMessage_needs snapshot.messages
    exact (needs _).2 message member (((needs _).1 message).mp isNeeded)
  · intro eventChannel member isNeeded
    have needs := followEventChannel_needs snapshot.eventChannels
    exact (needs _).2 eventChannel member (((needs _).1 eventChannel).mp isNeeded)

/-! ## The narrowed snapshot is accepted -/

/-- The IDs of a snapshot are valid when those of its entries are. -/
theorem validateTrustSnapshotIds_narrowed
    {snapshot : TrustSnapshot} {targets : List SignedEvent}
    (valid : validateTrustSnapshotIds snapshot = .ok ()) :
    validateTrustSnapshotIds (trustSnapshotForEvents snapshot targets) = .ok () := by
  unfold validateTrustSnapshotIds trustSnapshotForEvents at *
  simp only [bind_eq_ok_iff, checkAll_eq_ok_iff, Unique.exists_iff, List.mem_filter,
    List.mem_map] at *
  obtain ⟨workspace, rootEvent, rootAuthor, roles, channels, messages, eventChannels, links⟩ :=
    valid
  refine ⟨workspace, rootEvent, rootAuthor, fun role member => roles role member.1, ?_,
    fun message member => messages message member.1,
    fun eventChannel member => eventChannels eventChannel member.1,
    fun link member => links link member.1⟩
  rintro channel ⟨original, ⟨member, _⟩, rfl⟩
  obtain ⟨channelId, creator, members⟩ := channels original member
  exact ⟨channelId, creator, fun deviceId kept => members deviceId (List.mem_filter.mp kept).1⟩

section Acceptance

variable {snapshot : TrustSnapshot} {targets : List SignedEvent}

private theorem knows_narrowed
    {deviceId : DeviceId} (knows : snapshot.Knows deviceId)
    (isNeeded : deviceId ∈ (neededEntries snapshot targets).devices) :
    (trustSnapshotForEvents snapshot targets).Knows deviceId := by
  rcases knows with isRoot | ⟨role, member, same⟩
  · exact Or.inl isRoot
  · refine Or.inr ⟨role, List.mem_filter.mpr ⟨member, ?_⟩, same⟩
    rw [same]
    exact decide_eq_true isNeeded

private theorem lists_narrowed
    {channelId : ChannelId} (lists : snapshot.Lists channelId)
    (isNeeded : channelId ∈ (neededEntries snapshot targets).channels) :
    (trustSnapshotForEvents snapshot targets).Lists channelId := by
  obtain ⟨channel, member, same⟩ := lists
  refine ⟨_, List.mem_map.mpr ⟨channel, List.mem_filter.mpr ⟨member, ?_⟩, rfl⟩, same⟩
  rw [same]
  exact decide_eq_true isNeeded

/-- A narrowed snapshot is acceptable if the full one is. -/
theorem acceptable_trustSnapshotForEvents
    (acceptable : snapshot.Acceptable) (targets : List SignedEvent) :
    (trustSnapshotForEvents snapshot targets).Acceptable := by
  have closed := neededEntries_closed snapshot targets
  constructor
  case version => exact acceptable.version
  case ids => exact validateTrustSnapshotIds_narrowed acceptable.ids
  case rootUnlisted =>
    exact fun role member => acceptable.rootUnlisted role (List.mem_filter.mp member).1
  case roles => exact acceptable.roles.filter _
  case channels => exact List.pairwise_map.mpr (acceptable.channels.filter _)
  case members =>
    intro channel member
    obtain ⟨original, isKept, rfl⟩ := List.mem_map.mp member
    obtain ⟨distinct, known⟩ := acceptable.members original (List.mem_filter.mp isKept).1
    refine ⟨distinct.filter _, ?_⟩
    intro deviceId isMember
    obtain ⟨wasMember, isNeeded⟩ := List.mem_filter.mp isMember
    exact knows_narrowed (known deviceId wasMember) (of_decide_eq_true isNeeded)
  case linkedDevices => exact acceptable.linkedDevices.filter _
  case linkedPersons => exact acceptable.linkedPersons.filter _
  case linksKnown =>
    intro link member
    obtain ⟨wasMember, isNeeded⟩ := List.mem_filter.mp member
    exact knows_narrowed (acceptable.linksKnown link wasMember) (of_decide_eq_true isNeeded)
  case messages => exact acceptable.messages.filter _
  case messagesKnown =>
    intro message member
    obtain ⟨wasMember, isNeeded⟩ := List.mem_filter.mp member
    exact lists_narrowed (acceptable.messagesKnown message wasMember)
      (closed.messages message wasMember (of_decide_eq_true isNeeded))
  case eventChannels => exact acceptable.eventChannels.filter _
  case eventChannelsKnown =>
    intro eventChannel member
    obtain ⟨wasMember, isNeeded⟩ := List.mem_filter.mp member
    exact lists_narrowed (acceptable.eventChannelsKnown eventChannel wasMember)
      (closed.eventChannels eventChannel wasMember (of_decide_eq_true isNeeded))

end Acceptance

end Chaft
