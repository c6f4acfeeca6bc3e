import Chaft.Core.StoredReferences
import Chaft.View.BodyOverrides
import Chaft.View.TimelineRows

/-!
# The bodies of a window suffice

A row, a preview or a latest activity looks up bodies under the ID of its event and under
the ID of the event that created its message.  Only the latter can have a body, and a
window wants it wherever it shows it.
-/

namespace Chaft

open Keyed StableReplay

theorem eventId_of_eventsById
    {events : List SignedEvent} {eventId : EventId} {event : SignedEvent}
    (found : (eventsById events)[eventId]? = some event) :
    event ∈ events ∧ event.eventId = eventId := by
  rcases getElem?_tableOf found with ⟨other, member, same, rfl⟩ | ⟨-, absent⟩
  · exact ⟨member, same⟩
  · simp at absent

theorem eventTimelineMessageId_eq (body : EventBody) :
    eventTimelineMessageId body = WorkspaceAccessIndex.createdMessageId body := by
  cases body <;> rfl

theorem activityMessageId_of_creates
    {body : EventBody} {messageId : MessageId}
    (creates : eventTimelineMessageId body = some messageId) :
    activityMessageId body = some messageId := by
  cases body <;> first | exact creates | cases creates

namespace WorkspaceState

/-- Every message of the state comes from one of the events. -/
def MessagesFrom (events : List SignedEvent) (state : WorkspaceState) : Prop :=
  (events.map SignedEvent.eventId).Nodup ∧ MessagesCreated events state

section Lookups

variable {events : List SignedEvent} {state : WorkspaceState}
  {opens : MessageView → Option String} {wanted : EventId → Bool}

/-- The event of a message, as the table knows it. -/
theorem MessagesFrom.found
    (origins : MessagesFrom events state) {messageId : MessageId} {message : MessageView}
    (stored : state.messages[messageId]? = some message) :
    ∃ event, (eventsById events)[message.authorEventId]? = some event ∧
      eventTimelineMessageId event.event.body = some messageId := by
  obtain ⟨distinct, created⟩ := origins
  obtain ⟨event, origin⟩ := created messageId message stored
  have found := getElem?_eventsById distinct origin.member
  rw [origin.eventId] at found
  exact ⟨event, found, (eventTimelineMessageId_eq _).trans origin.body⟩

/-- A body belongs to a sealed message. -/
theorem exists_message_of_openedBody
    {key body : String}
    (opened : (state.openedBodies opens wanted)[key]? = some body) :
    ∃ messageId message, state.messages[(messageId : MessageId)]? = some message ∧
      message.sealedMarkdown.isSome = true ∧ message.authorEventId.text = key := by
  rcases getElem?_tableOf opened with ⟨pair, listed, isKey, -⟩ | ⟨-, absent⟩
  · obtain ⟨message, isListed, isOpened⟩ := List.mem_filterMap.mp listed
    obtain ⟨messageId, stored⟩ := (mem_listedValues _ _).mp (List.mem_filter.mp isListed).1
    unfold openedBody at isOpened
    split at isOpened
    · rename_i isSealed
      rw [Option.map_eq_some_iff] at isOpened
      obtain ⟨text, -, rfl⟩ := isOpened
      exact ⟨messageId, message, stored, isSealed, isKey⟩
    · cases isOpened
  · simp at absent

/-- Wanting fewer bodies gives the same bodies for them. -/
theorem openedBodies_wanted (eventId : EventId) :
    (state.openedBodies opens wanted)[eventId.text]? =
      if wanted eventId = true then
        (state.openedBodies opens fun _ => true)[eventId.text]?
      else
        none := by
  have sameListing :
      ((listedValues state.messages).filter fun message =>
          wanted message.authorEventId).filterMap (openedBody opens) =
        ((listedValues state.messages).filterMap (openedBody opens)).filter
          fun pair => wanted ⟨pair.1⟩ := by
    induction listedValues state.messages with
    | nil => rfl
    | cons message rest inductionHypothesis =>
        cases isOpened : openedBody opens message with
        | none =>
            rw [List.filterMap_cons, isOpened]
            dsimp only
            rw [← inductionHypothesis, List.filter_cons]
            split
            · rw [List.filterMap_cons, isOpened]
            · rfl
        | some pair =>
            have isKey : pair.1 = message.authorEventId.text := by
              unfold openedBody at isOpened
              split at isOpened
              · rw [Option.map_eq_some_iff] at isOpened
                obtain ⟨text, -, rfl⟩ := isOpened
                rfl
              · cases isOpened
            have sameWanted : wanted ⟨pair.1⟩ = wanted message.authorEventId := by
              rw [isKey]
            rw [List.filterMap_cons, isOpened]
            dsimp only
            rw [List.filter_cons, List.filter_cons, sameWanted, ← inductionHypothesis]
            split
            · rw [List.filterMap_cons, isOpened]
            · rfl
  unfold openedBodies
  rw [sameListing, List.filter_eq_self.mpr fun _ _ => rfl,
    getElem?_tableOf_filter (fun key => wanted ⟨key⟩)]
  simp

variable (opens) in
/-- An event has a body only if it created its message, and then the body is wanted. -/
theorem openedBodies_agree
    (origins : MessagesFrom events state)
    {eventId : EventId} {event : SignedEvent} {messageId : MessageId} {message : MessageView}
    (found : (eventsById events)[eventId]? = some event)
    (about : activityMessageId event.event.body = some messageId)
    (stored : state.messages[messageId]? = some message)
    (isWanted : message.sealedMarkdown.isSome = true → wanted message.authorEventId = true) :
    (state.openedBodies opens wanted)[event.eventId.text]? =
      (state.openedBodies opens fun _ => true)[event.eventId.text]? := by
  rw [openedBodies_wanted]
  split
  · rfl
  · rename_i unwanted
    cases opened : (state.openedBodies opens fun _ => true)[event.eventId.text]? with
    | none => rfl
    | some body =>
        obtain ⟨otherId, other, otherStored, isSealed, sameText⟩ :=
          exists_message_of_openedBody opened
        have sameEvent : other.authorEventId = event.eventId :=
          Identifier.text_injective sameText
        obtain ⟨origin, originFound, creates⟩ := origins.found otherStored
        rw [sameEvent, (eventId_of_eventsById found).2, found, Option.some.injEq] at originFound
        subst originFound
        have sameId : otherId = messageId := by
          rw [activityMessageId_of_creates creates, Option.some.injEq] at about
          exact about
        rw [sameId, stored, Option.some.injEq] at otherStored
        subst otherStored
        exact absurd (sameEvent ▸ isWanted isSealed) unwanted

/-- A line about a message is the same with the bodies that are wanted. -/
theorem messageActivityPreview_agrees
    (origins : MessagesFrom events state)
    {eventId : EventId} {event : SignedEvent} {messageId : MessageId} {message : MessageView}
    (found : (eventsById events)[eventId]? = some event)
    (about : activityMessageId event.event.body = some messageId)
    (stored : state.messages[messageId]? = some message)
    (isWanted : ∀ overrideId ∈ bodyOverrideEventIdForMessage message, wanted overrideId = true) :
    messageActivityPreview message event.eventId (state.openedBodies opens wanted) =
      messageActivityPreview message event.eventId
        (state.openedBodies opens fun _ => true) := by
  unfold messageActivityPreview
  cases isDeleted : message.deleted with
  | true => rfl
  | false =>
      have sealedWanted :
          message.sealedMarkdown.isSome = true → wanted message.authorEventId = true := by
        intro isSealed
        refine isWanted message.authorEventId ?_
        simp [bodyOverrideEventIdForMessage, isDeleted, isSealed]
      obtain ⟨origin, originFound, creates⟩ := origins.found stored
      have ofOrigin :=
        openedBodies_agree opens origins originFound
          (activityMessageId_of_creates creates) stored sealedWanted
      rw [(eventId_of_eventsById originFound).2] at ofOrigin
      rw [openedBodies_agree opens origins found about stored sealedWanted, ofOrigin]

variable (opens wanted) in
theorem activityPreview_agrees
    (origins : MessagesFrom events state)
    {eventId : EventId} {event : SignedEvent} {messageId : MessageId} {message : MessageView}
    (found : (eventsById events)[eventId]? = some event)
    (about : activityMessageId event.event.body = some messageId)
    (stored : state.messages[messageId]? = some message)
    (isWanted :
      needsMessageBody event.event.body = true →
        ∀ overrideId ∈ bodyOverrideEventIdForMessage message, wanted overrideId = true) :
    activityPreview event message (state.openedBodies opens wanted) =
      activityPreview event message (state.openedBodies opens fun _ => true) := by
  unfold activityPreview
  cases body : event.event.body with
  | messageDeleted | reactionAdded | reactionRemoved => rfl
  | _ =>
      have needed := isWanted (by rw [body]; rfl)
      rw [messageActivityPreview_agrees origins found about stored needed]

end Lookups

/-! ## Channel rows -/

section ChannelRows

variable {events : List SignedEvent} {state : WorkspaceState} {report : MaterializationReport}
  {readerDeviceId : Option DeviceId} {opens : MessageView → Option String}
  {wanted : EventId → Bool}

/-- The accessible message that an event is about. -/
def activityMessage
    (state : WorkspaceState) (readerDeviceId : Option DeviceId) (event : SignedEvent) :
    Option MessageView := do
  let messageId ← activityMessageId event.event.body
  let message ← state.messages[messageId]?
  if state.shownTo readerDeviceId message.channelId then some message else none

theorem activityMessage_eq_some
    {event : SignedEvent} {message : MessageView}
    (isMessage : state.activityMessage readerDeviceId event = some message) :
    ∃ messageId, activityMessageId event.event.body = some messageId ∧
      state.messages[messageId]? = some message := by
  unfold activityMessage at isMessage
  simp only [Option.bind_eq_bind, Option.bind_eq_some_iff] at isMessage
  obtain ⟨messageId, about, other, stored, shown⟩ := isMessage
  split at shown
  · cases shown
    exact ⟨messageId, about, stored⟩
  · cases shown

theorem channelActivityForEvent_eq_map (event : SignedEvent) (bodyOverrides : BodyOverrides) :
    state.channelActivityForEvent event readerDeviceId bodyOverrides =
      (state.activityMessage readerDeviceId event).map fun message =>
        (message.channelId, state.channelActivity event message bodyOverrides) := by
  unfold channelActivityForEvent activityMessage
  cases activityMessageId event.event.body with
  | none => rfl
  | some messageId =>
      simp only [Option.bind_eq_bind, Option.bind_some]
      cases state.messages[messageId]? with
      | none => rfl
      | some message =>
          simp only [Option.bind_some]
          split <;> rfl

theorem channelActivityBodyOverrideEventId_eq_map (event : SignedEvent) :
    state.channelActivityBodyOverrideEventId event readerDeviceId =
      (state.activityMessage readerDeviceId event).map fun message =>
        (message.channelId,
          if needsMessageBody event.event.body then bodyOverrideEventIdForMessage message
          else none) := by
  unfold channelActivityBodyOverrideEventId activityMessage
  cases activityMessageId event.event.body with
  | none => rfl
  | some messageId =>
      simp only [Option.bind_eq_bind, Option.bind_some]
      cases state.messages[messageId]? with
      | none => rfl
      | some message =>
          simp only [Option.bind_some]
          split <;> rfl

/-- Two projections and the noted IDs stem from the same latest events. -/
structure SameActivities
    (events : List SignedEvent) (state : WorkspaceState) (left right : BodyOverrides)
    (projection other : ChannelProjection)
    (noted : HashMap ChannelId (Option EventId)) : Prop where
  unreadCounts : projection.unreadCounts = other.unreadCounts
  latestActivity :
    ∀ channelId : ChannelId,
      projection.latestActivity[channelId]? = none ∧
          other.latestActivity[channelId]? = none ∨
        ∃ eventId event messageId message,
          (eventsById events)[(eventId : EventId)]? = some event ∧
            activityMessageId event.event.body = some messageId ∧
              state.messages[messageId]? = some message ∧
                projection.latestActivity[channelId]? =
                    some (state.channelActivity event message left) ∧
                  other.latestActivity[channelId]? =
                      some (state.channelActivity event message right) ∧
                    noted[channelId]? =
                      some
                        (if needsMessageBody event.event.body then
                          bodyOverrideEventIdForMessage message
                        else
                          none)

theorem SameActivities.project
    {left right : BodyOverrides} {projection other : ChannelProjection}
    {noted : HashMap ChannelId (Option EventId)}
    (same : SameActivities events state left right projection other noted)
    (eventId : EventId) (index : Nat) :
    SameActivities events state left right
      (state.projectApplied report (eventsById events) readerDeviceId left projection
        (eventId, index))
      (state.projectApplied report (eventsById events) readerDeviceId right other
        (eventId, index))
      (state.noteLatestActivity (eventsById events) readerDeviceId noted eventId) := by
  unfold projectApplied noteLatestActivity
  dsimp only
  cases found : (eventsById events)[eventId]? with
  | none => exact same
  | some event =>
      rw [Option.bind_some, channelActivityBodyOverrideEventId_eq_map]
      unfold projectEvent
      dsimp only
      rw [channelActivityForEvent_eq_map, channelActivityForEvent_eq_map]
      cases isMessage : state.activityMessage readerDeviceId event with
      | none =>
          simp only [Option.map_none]
          exact { unreadCounts := by rw [same.unreadCounts], latestActivity := same.latestActivity }
      | some message =>
          obtain ⟨messageId, about, stored⟩ := activityMessage_eq_some isMessage
          simp only [Option.map_some]
          refine { unreadCounts := by rw [same.unreadCounts], latestActivity := ?_ }
          intro channelId
          simp only [Std.ExtTreeMap.getElem?_insert, Std.LawfulEqCmp.compare_eq_iff_eq]
          by_cases here : message.channelId = channelId
          · simp only [if_pos here]
            exact Or.inr ⟨eventId, event, messageId, message, found, about, stored, rfl, rfl, rfl⟩
          · simp only [if_neg here]
            exact same.latestActivity channelId

theorem sameActivities_of_report
    (events : List SignedEvent) (state : WorkspaceState) (report : MaterializationReport)
    (readerDeviceId : Option DeviceId) (left right : BodyOverrides) :
    SameActivities events state left right
      (state.channelProjectionByChannel report (eventsById events) readerDeviceId left)
      (state.channelProjectionByChannel report (eventsById events) readerDeviceId right)
      (report.appliedEvents.foldl
        (state.noteLatestActivity (eventsById events) readerDeviceId) ∅) := by
  have along :
      ∀ (ids : List EventId) (start : Nat) (projection other : ChannelProjection)
        (noted : HashMap ChannelId (Option EventId)),
        SameActivities events state left right projection other noted →
          SameActivities events state left right
            ((ids.zipIdx start).foldl
              (state.projectApplied report (eventsById events) readerDeviceId left) projection)
            ((ids.zipIdx start).foldl
              (state.projectApplied report (eventsById events) readerDeviceId right) other)
            (ids.foldl (state.noteLatestActivity (eventsById events) readerDeviceId) noted) := by
    intro ids
    induction ids with
    | nil => exact fun _ _ _ _ same => same
    | cons eventId rest inductionHypothesis =>
        intro start projection other noted same
        rw [List.zipIdx_cons]
        exact inductionHypothesis (start + 1) _ _ _ (same.project eventId start)
  refine along _ 0 _ _ _ { unreadCounts := rfl, latestActivity := fun channelId => Or.inl ?_ }
  simp

/-- The bodies that the latest activities want are enough for the channel rows. -/
theorem channelSnapshots_agree
    (origins : MessagesFrom events state)
    (isWanted :
      ∀ overrideId ∈ state.latestActivityBodyOverrideEventIds report (eventsById events)
        readerDeviceId, wanted overrideId = true) :
    state.channelSnapshotsFromStateReport report (eventsById events) readerDeviceId
        (state.openedBodies opens wanted) =
      state.channelSnapshotsFromStateReport report (eventsById events) readerDeviceId
        (state.openedBodies opens fun _ => true) := by
  have same :=
    sameActivities_of_report events state report readerDeviceId (state.openedBodies opens wanted)
      (state.openedBodies opens fun _ => true)
  have sameProjection :
      state.channelProjectionByChannel report (eventsById events) readerDeviceId
          (state.openedBodies opens wanted) =
        state.channelProjectionByChannel report (eventsById events) readerDeviceId
          (state.openedBodies opens fun _ => true) := by
    refine ChannelProjection.ext (ext_of_getElem? fun channelId => ?_) same.unreadCounts
    rcases same.latestActivity channelId with
      ⟨left, right⟩ | ⟨eventId, event, messageId, message, found, about, stored, left, right, noted⟩
    · rw [left, right]
    · have samePreview :=
        activityPreview_agrees opens wanted origins found about stored
          (by
            intro needed overrideId isOverride
            rw [if_pos needed] at noted
            refine isWanted overrideId (List.mem_filterMap.mpr ⟨_, ?_, isOverride⟩)
            exact (mem_listedValues _ _).mpr ⟨channelId, noted⟩)
      rw [left, right, channelActivity, channelActivity, samePreview]
  unfold channelSnapshotsFromStateReport
  rw [sameProjection]

end ChannelRows

/-! ## Rows -/

section Rows

variable {events : List SignedEvent} {state : WorkspaceState}
  {readerDeviceId : Option DeviceId} (opens : MessageView → Option String)
  {wanted : EventId → Bool}

theorem threadReplyPreviewBodyOverrideEventIds_eq
    (message : MessageView) (threadReplies : ThreadReplyIndex) :
    threadReplyPreviewBodyOverrideEventIds message threadReplies =
      (lastReplies (threadReplies.getD message.messageId [])).filterMap fun reply =>
        bodyOverrideEventIdForMessage reply.message := by
  unfold threadReplyPreviewBodyOverrideEventIds
  rw [Std.ExtTreeMap.getD_eq_getD_getElem?]
  cases threadReplies[message.messageId]? with
  | none => rfl
  | some replies => rfl

/-- The preview of a stored message. -/
theorem replyPreviewSnapshot_agrees
    (origins : MessagesFrom events state) {messageId : MessageId} {message : MessageView}
    {event : SignedEvent} (stored : state.messages[messageId]? = some message)
    (found : (eventsById events)[message.authorEventId]? = some event)
    (isWanted : ∀ overrideId ∈ bodyOverrideEventIdForMessage message, wanted overrideId = true) :
    state.replyPreviewSnapshot message event (state.openedBodies opens wanted) =
      state.replyPreviewSnapshot message event (state.openedBodies opens fun _ => true) := by
  obtain ⟨origin, originFound, creates⟩ := origins.found stored
  rw [found, Option.some.injEq] at originFound
  subst originFound
  unfold replyPreviewSnapshot
  rw [messageActivityPreview_agrees origins found (activityMessageId_of_creates creates) stored
    isWanted]

theorem replyPreviewForMessage_agrees
    (origins : MessagesFrom events state) (message : MessageView)
    (isWanted :
      ∀ replyToMessageId ∈ message.replyToMessageId,
        ∀ replyTo ∈ state.messages[replyToMessageId]?,
          ∀ overrideId ∈ bodyOverrideEventIdForMessage replyTo, wanted overrideId = true) :
    state.replyPreviewForMessage (eventsById events) message (state.openedBodies opens wanted) =
      state.replyPreviewForMessage (eventsById events) message
        (state.openedBodies opens fun _ => true) := by
  unfold replyPreviewForMessage
  cases repliesTo : message.replyToMessageId with
  | none => rfl
  | some parentId =>
      simp only [Option.bind_eq_bind, Option.bind_some]
      cases stored : state.messages[parentId]? with
      | none => rfl
      | some parent =>
          simp only [Option.bind_some]
          cases found : (eventsById events)[parent.authorEventId]? with
          | none => rfl
          | some event =>
              simp only [Option.bind_some]
              rw [replyPreviewSnapshot_agrees opens origins stored found
                (isWanted parentId repliesTo parent stored)]

/-- The replies that a row lists are the same in every window that has the row. -/
theorem threadSummary_agrees
    (origins : MessagesFrom events state) {messageId : MessageId} {message : MessageView}
    (stored : state.messages[messageId]? = some message)
    {windowIds allIds : HashSet MessageId} (inWindow : messageId ∈ windowIds)
    (amongAll : messageId ∈ allIds)
    (isWanted :
      ∀ overrideId ∈ threadReplyPreviewBodyOverrideEventIds message
          (state.threadReplyIndex (eventsById events) windowIds), wanted overrideId = true) :
    state.threadSummaryForMessage (state.threadReplyIndex (eventsById events) windowIds) message
        (state.openedBodies opens wanted) =
      state.threadSummaryForMessage (state.threadReplyIndex (eventsById events) allIds) message
        (state.openedBodies opens fun _ => true) := by
  have same : message.messageId = messageId := by
    obtain ⟨_, origin⟩ := origins.2 messageId message stored
    exact origin.sameId
  rw [threadReplyPreviewBodyOverrideEventIds_eq, threadReplyIndex_getD, same,
    if_pos inWindow] at isWanted
  rw [threadSummaryForMessage_eq, threadSummaryForMessage_eq, threadReplyIndex_getD,
    threadReplyIndex_getD, same, if_pos inWindow, if_pos amongAll]
  have samePreviews :
      (lastReplies (sortThreadReplies (state.replyRefs (eventsById events) messageId))).map
          (fun reply =>
            state.replyPreviewSnapshot reply.message reply.event
              (state.openedBodies opens wanted)) =
        (lastReplies (sortThreadReplies (state.replyRefs (eventsById events) messageId))).map
          fun reply =>
            state.replyPreviewSnapshot reply.message reply.event
              (state.openedBodies opens fun _ => true) := by
    refine List.map_congr_left fun reply isLast => ?_
    have listed := List.mem_of_mem_drop isLast
    rw [sortThreadReplies, List.mem_insertionSort] at listed
    obtain ⟨-, found, replyId, replyStored⟩ := (mem_replyRefs_iff _ _).mp listed
    refine replyPreviewSnapshot_agrees opens origins replyStored found ?_
    intro overrideId isOverride
    exact isWanted overrideId (List.mem_filterMap.mpr ⟨reply, isLast, isOverride⟩)
  rw [samePreviews]

/-- The bodies that a row wants are enough for its item. -/
theorem timelineItem_agrees
    (origins : MessagesFrom events state) {windowIds allIds : HashSet MessageId}
    (eventId : EventId)
    (inWindow :
      ∀ event ∈ (eventsById events)[eventId]?,
        ∀ messageId ∈ eventTimelineMessageId event.event.body,
          messageId ∈ windowIds ∧ messageId ∈ allIds)
    (isWanted :
      ∀ overrideId ∈ state.collectAppliedTimelineBodyOverrideEventIds (eventsById events)
          (state.threadReplyIndex (eventsById events) windowIds) readerDeviceId eventId,
        wanted overrideId = true) :
    state.timelineItemForAppliedEvent (eventsById events)
        (state.threadReplyIndex (eventsById events) windowIds) readerDeviceId
        (state.openedBodies opens wanted) eventId =
      state.timelineItemForAppliedEvent (eventsById events)
        (state.threadReplyIndex (eventsById events) allIds) readerDeviceId
        (state.openedBodies opens fun _ => true) eventId := by
  unfold collectAppliedTimelineBodyOverrideEventIds at isWanted
  unfold timelineItemForAppliedEvent
  cases found : (eventsById events)[eventId]? with
  | none => rfl
  | some event =>
      rw [found] at isWanted
      simp only [Option.bind_eq_bind, Option.bind_some] at isWanted ⊢
      cases creates : eventTimelineMessageId event.event.body with
      | none => rfl
      | some messageId =>
          obtain ⟨inside, amongAll⟩ := inWindow event found messageId creates
          rw [creates] at isWanted
          simp only [Option.bind_some] at isWanted ⊢
          cases stored : state.messages[messageId]? with
          | none => rfl
          | some message =>
              rw [stored] at isWanted
              simp only [Option.bind_some] at isWanted ⊢
              by_cases shown : state.shownTo readerDeviceId message.channelId = true
              · simp only [if_pos shown, List.mem_append] at isWanted
                have ownWanted :
                    ∀ overrideId ∈ bodyOverrideEventIdForMessage message,
                      wanted overrideId = true := fun overrideId isOverride =>
                  isWanted overrideId (Or.inl (Or.inl (Option.mem_toList.mpr isOverride)))
                have samePreview :=
                  replyPreviewForMessage_agrees opens origins message
                    (fun parentId isParent parent isStored overrideId isOverride => by
                      refine isWanted overrideId (Or.inl (Or.inr (Option.mem_toList.mpr ?_)))
                      rw [Option.mem_def] at isParent isStored
                      rw [isParent, Option.bind_some, isStored]
                      exact isOverride)
                have sameSummary :=
                  threadSummary_agrees opens origins stored inside amongAll
                    fun overrideId isOverride => isWanted overrideId (Or.inr isOverride)
                rw [if_pos shown, if_pos shown, samePreview, sameSummary]
                cases isDeleted : message.deleted with
                | true => simp only [if_true, Bool.not_true, Bool.false_and]
                | false =>
                    have sealedWanted :
                        message.sealedMarkdown.isSome = true →
                          wanted message.authorEventId = true := by
                      intro isSealed
                      refine ownWanted message.authorEventId ?_
                      simp [bodyOverrideEventIdForMessage, isDeleted, isSealed]
                    rw [openedBodies_agree opens origins found
                      (activityMessageId_of_creates creates) stored sealedWanted]
              · rw [if_neg shown, if_neg shown]

end Rows

end WorkspaceState

end Chaft
