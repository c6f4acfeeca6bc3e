import Chaft.Core.MessageOwnership

/-!
# What the views refer to

A message view names the event that created it, and a read marker the event up to which
a channel is read.  In every reachable state both are applied events.
-/

namespace Chaft

open Keyed Outcome StableReplay Transition

/-- An event of the history created the message: under its ID, in its channel and as a
reply to the same message. -/
structure CreatedBy
    (history : List SignedEvent) (messageId : MessageId) (message : MessageView)
    (event : SignedEvent) : Prop where
  member : event ∈ history
  eventId : event.eventId = message.authorEventId
  sameId : message.messageId = messageId
  body : WorkspaceAccessIndex.createdMessageId event.event.body = some messageId
  channelId : event.event.channelId = some message.channelId

namespace CreatedBy

variable {history : List SignedEvent} {messageId : MessageId} {message : MessageView}
  {event : SignedEvent}

theorem extend
    (created : CreatedBy history messageId message event) (last : SignedEvent) :
    CreatedBy (history ++ [last]) messageId message event :=
  { created with member := List.mem_append_left _ created.member }

/-- A change of a message leaves its origin. -/
theorem of_change
    (created : CreatedBy history messageId message event) {last : SignedEvent}
    {changedId : MessageId} {change : MessageView → MessageView}
    (changes : messageChange last = some (changedId, change)) :
    CreatedBy history messageId (change message) event := by
  have same :
      (change message).messageId = message.messageId ∧
        (change message).channelId = message.channelId ∧
          (change message).authorEventId = message.authorEventId := by
    unfold messageChange at changes
    cases body : last.event.body with
    | messageEdited | messageEditedEncrypted | messageDeleted =>
        simp only [body, Option.some.injEq, Prod.mk.injEq] at changes
        obtain ⟨-, rfl⟩ := changes
        exact ⟨rfl, rfl, rfl⟩
    | reactionAdded changed reaction =>
        simp only [body, Option.some.injEq, Prod.mk.injEq] at changes
        obtain ⟨-, rfl⟩ := changes
        unfold MessageView.addReaction
        dsimp only
        split <;> exact ⟨rfl, rfl, rfl⟩
    | reactionRemoved changed reaction =>
        simp only [body, Option.some.injEq, Prod.mk.injEq] at changes
        obtain ⟨-, rfl⟩ := changes
        unfold MessageView.removeReaction
        dsimp only
        repeat' split
        all_goals exact ⟨rfl, rfl, rfl⟩
    | _ => simp [body] at changes
  obtain ⟨sameId, sameChannel, sameEvent⟩ := same
  exact
    { member := created.member
      eventId := created.eventId.trans sameEvent.symm
      sameId := sameId.trans created.sameId
      body := created.body
      channelId := by rw [sameChannel, created.channelId] }

end CreatedBy

namespace WorkspaceState

/-- Every message view comes from an event of the history. -/
def MessagesCreated (history : List SignedEvent) (state : WorkspaceState) : Prop :=
  ∀ (messageId : MessageId) (message : MessageView),
    state.messages[messageId]? = some message →
      ∃ event, CreatedBy history messageId message event

theorem MessagesCreated.apply
    {history : List SignedEvent} {state next : WorkspaceState} {event : SignedEvent}
    (known : MessagesCreated history state)
    (accepted : state.apply event = (.ok (), next)) :
    MessagesCreated (history ++ [event]) next := by
  have applied := ((apply_eq_ok_iff _ _ _).mp accepted).2
  intro messageId message present
  rw [applyReadyEvent_messages applied] at present
  unfold messageViewsAfter at present
  cases creation : createdMessage event with
  | some created =>
      simp only [creation, Std.ExtTreeMap.getElem?_insert,
        Std.LawfulEqCmp.compare_eq_iff_eq] at present
      by_cases same : created.messageId = messageId
      · rw [if_pos same, Option.some.injEq] at present
        subst present
        obtain ⟨body, channelId, authorEventId⟩ := createdMessage_eq_some creation
        exact ⟨event, List.mem_append_right _ List.mem_cons_self, authorEventId.symm, same,
          same ▸ body, channelId⟩
      · rw [if_neg same] at present
        obtain ⟨origin, created⟩ := known messageId message present
        exact ⟨origin, created.extend event⟩
  | none =>
      cases changed : messageChange event with
      | none =>
          simp only [creation, changed] at present
          obtain ⟨origin, created⟩ := known messageId message present
          exact ⟨origin, created.extend event⟩
      | some both =>
          obtain ⟨changedId, change⟩ := both
          simp only [creation, changed, getElem?_modify_same] at present
          by_cases same : changedId = messageId
          · rw [if_pos same, Option.map_eq_some_iff] at present
            obtain ⟨before, wasPresent, rfl⟩ := present
            obtain ⟨origin, created⟩ := known messageId before wasPresent
            exact ⟨origin, (created.of_change changed).extend event⟩
          · rw [if_neg same] at present
            obtain ⟨origin, created⟩ := known messageId message present
            exact ⟨origin, created.extend event⟩

theorem Reachable.messagesCreated
    {workspaceId : WorkspaceId} {history : List SignedEvent} {state : WorkspaceState}
    (reached : Reachable workspaceId history state) :
    MessagesCreated history state := by
  have ran := reached.run
  clear reached
  induction ran with
  | start =>
      intro messageId message present
      simp [WorkspaceState.new] at present
  | extend _ _ accepted inductionHypothesis =>
      exact inductionHypothesis.apply ((applyStep_eq_ok_iff _ _ _).mp accepted)

/-! ## Read markers -/

/-- What an event notes in the read markers. -/
def readMarkersAfter
    (readMarkers : HashMap DeviceId (HashMap ChannelId EventId)) (signed : SignedEvent) :
    HashMap DeviceId (HashMap ChannelId EventId) :=
  match signed.event.body with
  | .readMarkerUpdated channelId eventId =>
      readMarkers.insert signed.event.authorDeviceId
        ((readMarkers.getD signed.event.authorDeviceId ∅).insert channelId eventId)
  | _ => readMarkers

theorem writeViews_readMarkers
    {state written : WorkspaceState} {signed : SignedEvent}
    (finished : state.writeViews signed = .ok written) :
    written.readMarkers = readMarkersAfter state.readMarkers signed := by
  unfold writeViews at finished
  unfold readMarkersAfter
  cases body : signed.event.body with
  | workspaceInviteRecorded inviteId inviteeDeviceId displayName role requestId expiresAt
      approvalPolicy syncExpectation =>
      simp only [body] at finished
      split at finished <;> cases finished <;> rfl
  | messageCreated | messageReplyCreated | messageCreatedEncrypted
  | messageReplyCreatedEncrypted =>
      simp only [body, insertMessage, bind_eq_ok_iff] at finished
      obtain ⟨channelId, -, stored⟩ := finished
      cases stored
      rfl
  | _ =>
      simp only [body, modifyMessage] at finished
      cases finished
      rfl

theorem applyReadyEvent_readMarkers
    {state next : WorkspaceState} {signed : SignedEvent}
    (applied : state.applyReadyEvent signed = (.ok (), next)) :
    next.readMarkers = readMarkersAfter state.readMarkers signed := by
  obtain ⟨written, finished, rfl⟩ := applyReadyEvent_writes applied
  have marked :
      (markInvitesAcceptedByEvent
          { state with accessIndex := state.accessIndex.applyAuthorized signed }
          signed).readMarkers = state.readMarkers := by
    unfold markInvitesAcceptedByEvent
    split <;> rfl
  exact (writeViews_readMarkers finished).trans (by rw [marked])

/-- The events that the index and the markers name are applied. -/
structure MarkersApplied (state : WorkspaceState) : Prop where
  eventChannels :
    ∀ eventId ∈ state.accessIndex.eventChannels, eventId ∈ state.appliedEventIds
  readMarkers :
    ∀ (deviceId : DeviceId) (channels : HashMap ChannelId EventId),
      state.readMarkers[deviceId]? = some channels →
        ∀ (channelId : ChannelId) (eventId : EventId),
          channels[channelId]? = some eventId → eventId ∈ state.appliedEventIds

theorem mem_eventChannelsAfter
    {eventChannels : HashMap EventId ChannelId} {messages : HashMap MessageId MessageAccess}
    {event : SignedEvent} {eventId : EventId}
    (member :
      eventId ∈ WorkspaceAccessIndex.eventChannelsAfter eventChannels messages event) :
    event.eventId = eventId ∨ eventId ∈ eventChannels := by
  unfold WorkspaceAccessIndex.eventChannelsAfter at member
  split at member
  · rw [Std.ExtTreeMap.mem_insert, Std.LawfulEqCmp.compare_eq_iff_eq] at member
    exact member
  · exact Or.inr member

/-- A marker is permitted only for an event that the index knows. -/
theorem mem_eventChannels_of_permitted
    {index : WorkspaceAccessIndex} {event : SignedEvent} {channelId : ChannelId}
    {target : EventId} (permitted : index.authorizeBody event = .ok ())
    (body : event.event.body = .readMarkerUpdated channelId target) :
    target ∈ index.eventChannels := by
  simp only [WorkspaceAccessIndex.authorizeBody, body, bind_eq_ok_iff,
    okOr_eq_ok_iff] at permitted
  obtain ⟨_, _, _, _, _, _, _, _, targetChannelId, known, _⟩ := permitted
  exact (mem_iff_exists_getElem? _ _).mpr ⟨targetChannelId, known⟩

theorem MarkersApplied.apply
    {state next : WorkspaceState} {event : SignedEvent}
    (known : state.MarkersApplied) (accepted : state.apply event = (.ok (), next)) :
    next.MarkersApplied := by
  have applied := ((apply_eq_ok_iff _ _ _).mp accepted).2
  obtain ⟨-, authorized, -, -, recorded, index⟩ := applyReadyEvent_ok applied
  obtain ⟨-, -, -, permitted⟩ := (WorkspaceAccessIndex.authorize_eq_ok_iff _ _ _).mp authorized
  have kept :
      ∀ eventId, eventId ∈ state.appliedEventIds → eventId ∈ next.appliedEventIds := by
    intro eventId isApplied
    rw [recorded, Std.ExtTreeSet.mem_insert]
    exact Or.inr isApplied
  constructor
  · intro eventId member
    rw [index, WorkspaceAccessIndex.applyAuthorized_eventChannels] at member
    rcases mem_eventChannelsAfter member with rfl | earlier
    · rw [recorded]
      exact Std.ExtTreeSet.mem_insert_self
    · exact kept eventId (known.eventChannels eventId earlier)
  · intro deviceId channels present channelId eventId marked
    rw [applyReadyEvent_readMarkers applied] at present
    unfold readMarkersAfter at present
    split at present
    · rename_i markedChannelId target body
      have targetApplied :=
        kept target (known.eventChannels target (mem_eventChannels_of_permitted permitted body))
      simp only [Std.ExtTreeMap.getElem?_insert, Std.LawfulEqCmp.compare_eq_iff_eq] at present
      by_cases author : event.event.authorDeviceId = deviceId
      · rw [if_pos author, Option.some.injEq] at present
        subst present
        simp only [Std.ExtTreeMap.getElem?_insert,
          Std.LawfulEqCmp.compare_eq_iff_eq] at marked
        by_cases sameChannel : markedChannelId = channelId
        · rw [if_pos sameChannel, Option.some.injEq] at marked
          exact marked ▸ targetApplied
        · rw [if_neg sameChannel, author, Std.ExtTreeMap.getD_eq_getD_getElem?] at marked
          cases before : state.readMarkers[deviceId]? with
          | none => simp [before] at marked
          | some earlier =>
              rw [before, Option.getD_some] at marked
              exact kept eventId (known.readMarkers deviceId earlier before channelId eventId marked)
      · rw [if_neg author] at present
        exact kept eventId
          (known.readMarkers deviceId channels present channelId eventId marked)
    · exact kept eventId
        (known.readMarkers deviceId channels present channelId eventId marked)

theorem Reachable.markersApplied
    {workspaceId : WorkspaceId} {history : List SignedEvent} {state : WorkspaceState}
    (reached : Reachable workspaceId history state) :
    state.MarkersApplied := by
  have ran := reached.run
  clear reached
  induction ran with
  | start =>
      constructor
      · intro eventId member
        simp [WorkspaceState.new, WorkspaceAccessIndex.new] at member
      · intro deviceId channels present
        simp [WorkspaceState.new] at present
  | extend _ _ accepted inductionHypothesis =>
      exact inductionHypothesis.apply ((applyStep_eq_ok_iff _ _ _).mp accepted)

/-! ## Names of channels -/

/-- Every channel is stored under its own ID. -/
def ChannelsNamed (state : WorkspaceState) : Prop :=
  ∀ (channelId : ChannelId) (channel : ChannelView),
    state.channels[channelId]? = some channel → channel.channelId = channelId

theorem ChannelsNamed.modify
    {state : WorkspaceState} (named : state.ChannelsNamed) {changedChannelId : ChannelId}
    {change : ChannelView → ChannelView}
    (keepsId : ∀ channel, (change channel).channelId = channel.channelId)
    {channelId : ChannelId} {channel : ChannelView}
    (present : (state.channels.modify changedChannelId change)[channelId]? = some channel) :
    channel.channelId = channelId := by
  rw [getElem?_modify_same] at present
  split at present
  · obtain ⟨earlier, wasPresent, rfl⟩ := Option.map_eq_some_iff.mp present
    rw [keepsId]
    exact named channelId earlier wasPresent
  · exact named channelId channel present

theorem ChannelsNamed.writeViews
    {state written : WorkspaceState} (named : state.ChannelsNamed) {signed : SignedEvent}
    (finished : state.writeViews signed = .ok written) :
    written.ChannelsNamed := by
  intro channelId channel present
  unfold WorkspaceState.writeViews at finished
  cases body : signed.event.body with
  | memberRemoved removedDeviceId =>
      simp only [body] at finished
      cases finished
      simp only [Std.ExtTreeMap.getElem?_map, Option.map_eq_some_iff] at present
      obtain ⟨earlier, wasPresent, rfl⟩ := present
      exact named channelId earlier wasPresent
  | channelCreated | directMessageChannelCreated =>
      simp only [body] at finished
      cases finished
      simp only [Std.ExtTreeMap.getElem?_insert] at present
      split at present
      · rename_i compared
        cases present
        exact Std.LawfulEqCmp.compare_eq_iff_eq.mp compared
      · exact named channelId channel present
  | channelDetailsUpdated | channelMemberRemoved =>
      simp only [body] at finished
      cases finished
      refine named.modify ?_ present
      exact fun _ => rfl
  | channelMemberAdded =>
      simp only [body] at finished
      cases finished
      refine named.modify ?_ present
      intro earlier
      split <;> rfl
  | workspaceInviteRecorded =>
      simp only [body] at finished
      split at finished <;> cases finished <;> exact named channelId channel present
  | messageCreated | messageReplyCreated | messageCreatedEncrypted
  | messageReplyCreatedEncrypted =>
      simp only [body, insertMessage, bind_eq_ok_iff] at finished
      obtain ⟨storedChannelId, _, stored⟩ := finished
      cases stored
      exact named channelId channel present
  | _ =>
      simp only [body, modifyMessage] at finished
      cases finished
      exact named channelId channel present

theorem Reachable.channelsNamed
    {workspaceId : WorkspaceId} {history : List SignedEvent} {state : WorkspaceState}
    (reached : Reachable workspaceId history state) :
    state.ChannelsNamed := by
  have ran := reached.run
  clear reached
  induction ran with
  | start =>
      intro channelId channel present
      simp [WorkspaceState.new] at present
  | @extend _ earlier _ event _ _ accepted inductionHypothesis =>
      have applied := ((apply_eq_ok_iff _ _ _).mp ((applyStep_eq_ok_iff _ _ _).mp accepted)).2
      obtain ⟨written, finished, rfl⟩ := applyReadyEvent_writes applied
      have marked :
          (markInvitesAcceptedByEvent
            { earlier with accessIndex := earlier.accessIndex.applyAuthorized event }
            event).ChannelsNamed := by
        unfold markInvitesAcceptedByEvent
        split <;> exact inductionHypothesis
      have named : written.ChannelsNamed := marked.writeViews finished
      exact named

/-- The materialized state of some events of workspace `w`. -/
def materialized (events : List SignedEvent) : WorkspaceState :=
  ((new ⟨"w"⟩).applyBatch events).2

end WorkspaceState

end Chaft
