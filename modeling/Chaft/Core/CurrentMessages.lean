import Chaft.Core.StoredReferences

/-!
# Which event a message stands for

A message view comes from the last event that creates its message, and is deleted if an event
after it deletes the message.  So an event stands for the message exactly if no event after it
creates or deletes the message again.
-/

namespace Chaft

open Keyed Outcome StableReplay Transition

/-- The message that an event deletes. -/
def deletedMessageId : EventBody → Option MessageId
  | .messageDeleted messageId => some messageId
  | _ => none

/-- The event creates the message or deletes it. -/
def SignedEvent.settlesMessage (messageId : MessageId) (event : SignedEvent) : Bool :=
  decide (WorkspaceAccessIndex.createdMessageId event.event.body = some messageId) ||
    decide (deletedMessageId event.event.body = some messageId)

/-- The last event that creates or deletes the message. -/
def lastSettling (messageId : MessageId) (history : List SignedEvent) : Option SignedEvent :=
  history.reverse.find? (SignedEvent.settlesMessage messageId)

theorem lastSettling_append
    (messageId : MessageId) (history : List SignedEvent) (event : SignedEvent) :
    lastSettling messageId (history ++ [event]) =
      if event.settlesMessage messageId = true then
        some event
      else
        lastSettling messageId history := by
  rw [lastSettling, List.reverse_append, List.reverse_singleton, List.singleton_append,
    List.find?_cons]
  cases settles : event.settlesMessage messageId with
  | true => rfl
  | false => rfl

/-- An event of some ID creates the message in a channel. -/
structure SignedEvent.CreatesAs
    (event : SignedEvent) (eventId : EventId) (messageId : MessageId) (channelId : ChannelId) :
    Prop where
  eventId : event.eventId = eventId
  body : WorkspaceAccessIndex.createdMessageId event.event.body = some messageId
  channelId : event.event.channelId = some channelId

/-- The last event that creates or deletes the message creates it, under some ID and in some
channel. -/
def StandsFor
    (history : List SignedEvent) (eventId : EventId) (messageId : MessageId)
    (channelId : ChannelId) : Prop :=
  ∃ event, lastSettling messageId history = some event ∧
    event.CreatesAs eventId messageId channelId

namespace WorkspaceState

/-- The message is there and not deleted, and comes from an event in a channel. -/
def ShowsMessage
    (messages : HashMap MessageId MessageView) (eventId : EventId) (messageId : MessageId)
    (channelId : ChannelId) : Prop :=
  ∃ message, messages[messageId]? = some message ∧ message.deleted = false ∧
    message.authorEventId = eventId ∧ message.channelId = channelId

section Settling

variable {event : SignedEvent} {messageId : MessageId}

theorem deletedMessageId_of_creates
    {created : MessageId}
    (creates : WorkspaceAccessIndex.createdMessageId event.event.body = some created) :
    deletedMessageId event.event.body = none := by
  cases body : event.event.body with
  | messageDeleted deleted => simp [body, WorkspaceAccessIndex.createdMessageId] at creates
  | _ => rfl

/-- A created view is not deleted. -/
theorem not_deleted_of_created
    {created : MessageView} (creates : createdMessage event = some created) :
    created.deleted = false := by
  unfold createdMessage at creates
  cases body : event.event.body with
  | messageCreated | messageReplyCreated | messageCreatedEncrypted
  | messageReplyCreatedEncrypted =>
      simp only [body, Option.map_eq_some_iff] at creates
      obtain ⟨channelId, -, rfl⟩ := creates
      rfl
  | _ => simp [body] at creates

/-- What a change makes of a view: it stays in its place, and is deleted by a deletion only. -/
theorem change_shows
    {changed : MessageId} {change : MessageView → MessageView}
    (changes : messageChange event = some (changed, change)) (message : MessageView) :
    (change message).authorEventId = message.authorEventId ∧
      (change message).channelId = message.channelId ∧
        (change message).deleted =
          (decide (deletedMessageId event.event.body = some changed) || message.deleted) := by
  unfold messageChange at changes
  cases body : event.event.body with
  | messageEdited edited markdown | messageEditedEncrypted edited markdown =>
      simp only [body, Option.some.injEq, Prod.mk.injEq] at changes
      obtain ⟨-, rfl⟩ := changes
      exact ⟨rfl, rfl, rfl⟩
  | messageDeleted deleted =>
      simp only [body, Option.some.injEq, Prod.mk.injEq] at changes
      obtain ⟨rfl, rfl⟩ := changes
      refine ⟨rfl, rfl, ?_⟩
      simp [deletedMessageId]
  | reactionAdded reacted reaction =>
      simp only [body, Option.some.injEq, Prod.mk.injEq] at changes
      obtain ⟨-, rfl⟩ := changes
      have same := message.addReaction_sameContent reaction event.event.authorDeviceId
      exact ⟨same.authorEventId, same.channelId, same.deleted.trans rfl⟩
  | reactionRemoved reacted reaction =>
      simp only [body, Option.some.injEq, Prod.mk.injEq] at changes
      obtain ⟨-, rfl⟩ := changes
      have same := message.removeReaction_sameContent reaction event.event.authorDeviceId
      exact ⟨same.authorEventId, same.channelId, same.deleted.trans rfl⟩
  | _ => simp [body] at changes

/-- What deletes a message is a change of it. -/
theorem messageChange_of_deletes
    {deleted : MessageId} (deletes : deletedMessageId event.event.body = some deleted) :
    ∃ change, messageChange event = some (deleted, change) := by
  unfold messageChange
  cases body : event.event.body with
  | messageDeleted other =>
      rw [body] at deletes
      cases deletes
      exact ⟨_, rfl⟩
  | _ =>
      rw [body] at deletes
      cases deletes

variable {messages : HashMap MessageId MessageView} {eventId : EventId} {channelId : ChannelId}

/-- A creation stores a new message and leaves the others. -/
private theorem showsMessage_created
    {created : MessageView} (creation : createdMessage event = some created) :
    ShowsMessage (messages.insert created.messageId created) eventId messageId channelId ↔
      if event.settlesMessage messageId = true then
        event.CreatesAs eventId messageId channelId
      else
        ShowsMessage messages eventId messageId channelId := by
  obtain ⟨body, inChannel, authorEventId⟩ := createdMessage_eq_some creation
  unfold ShowsMessage
  simp only [Std.ExtTreeMap.getElem?_insert, Std.LawfulEqCmp.compare_eq_iff_eq]
  by_cases same : created.messageId = messageId
  · have settles : event.settlesMessage messageId = true := by
      simp [SignedEvent.settlesMessage, body, same]
    rw [if_pos same, if_pos settles]
    constructor
    · rintro ⟨message, isMessage, -, isEvent, isChannel⟩
      cases isMessage
      refine ⟨authorEventId.symm.trans isEvent, same ▸ body, ?_⟩
      rw [inChannel, isChannel]
    · intro creates
      refine ⟨created, rfl, not_deleted_of_created creation, ?_, ?_⟩
      · exact authorEventId.trans creates.eventId
      · exact Option.some.inj (inChannel.symm.trans creates.channelId)
  · have settlesNot : event.settlesMessage messageId = false := by
      simp [SignedEvent.settlesMessage, body, same, deletedMessageId_of_creates body]
    rw [if_neg same, settlesNot, if_neg Bool.false_ne_true]

/-- A change shows the message as before, unless it deletes it. -/
private theorem showsMessage_changed
    (createsNone : WorkspaceAccessIndex.createdMessageId event.event.body = none)
    {changedId : MessageId} {change : MessageView → MessageView}
    (changed : messageChange event = some (changedId, change)) :
    ShowsMessage (messages.modify changedId change) eventId messageId channelId ↔
      if event.settlesMessage messageId = true then
        event.CreatesAs eventId messageId channelId
      else
        ShowsMessage messages eventId messageId channelId := by
  unfold ShowsMessage
  simp only [getElem?_modify_same]
  by_cases same : changedId = messageId
  · rw [if_pos same]
    by_cases deletes : deletedMessageId event.event.body = some changedId
    · have settles : event.settlesMessage messageId = true := by
        simp [SignedEvent.settlesMessage, deletes, same]
      rw [if_pos settles]
      constructor
      · rintro ⟨message, isMessage, notDeleted, -⟩
        obtain ⟨origin, -, rfl⟩ := Option.map_eq_some_iff.mp isMessage
        rw [(change_shows changed origin).2.2, decide_eq_true deletes] at notDeleted
        cases notDeleted
      · intro creates
        rw [creates.body] at createsNone
        cases createsNone
    · have settlesNot : event.settlesMessage messageId = false := by
        rw [SignedEvent.settlesMessage, createsNone, ← same, decide_eq_false deletes]
        rfl
      rw [settlesNot, if_neg Bool.false_ne_true]
      constructor
      · rintro ⟨message, isMessage, notDeleted, isEvent, isChannel⟩
        obtain ⟨origin, present, rfl⟩ := Option.map_eq_some_iff.mp isMessage
        obtain ⟨sameEvent, sameChannel, sameDeleted⟩ := change_shows changed origin
        rw [decide_eq_false deletes, Bool.false_or] at sameDeleted
        exact ⟨origin, present, sameDeleted ▸ notDeleted, sameEvent ▸ isEvent,
          sameChannel ▸ isChannel⟩
      · rintro ⟨origin, present, notDeleted, isEvent, isChannel⟩
        obtain ⟨sameEvent, sameChannel, sameDeleted⟩ := change_shows changed origin
        rw [decide_eq_false deletes, Bool.false_or] at sameDeleted
        exact ⟨change origin, by rw [present, Option.map_some], sameDeleted.trans notDeleted,
          sameEvent.trans isEvent, sameChannel.trans isChannel⟩
  · have settlesNot : event.settlesMessage messageId = false := by
      cases deletes : deletedMessageId event.event.body with
      | none => simp [SignedEvent.settlesMessage, createsNone, deletes]
      | some deleted =>
          obtain ⟨other, isChange⟩ := messageChange_of_deletes deletes
          rw [changed, Option.some.injEq, Prod.mk.injEq] at isChange
          simp [SignedEvent.settlesMessage, createsNone, deletes, ← isChange.1, same]
    rw [if_neg same, settlesNot, if_neg Bool.false_ne_true]

/-- What a permitted event makes of the messages that show. -/
theorem showsMessage_after
    {index : WorkspaceAccessIndex} (permitted : index.authorizeBody event = .ok ()) :
    ShowsMessage (messageViewsAfter messages event) eventId messageId channelId ↔
      if event.settlesMessage messageId = true then
        event.CreatesAs eventId messageId channelId
      else
        ShowsMessage messages eventId messageId channelId := by
  unfold messageViewsAfter
  cases creation : createdMessage event with
  | some created => exact showsMessage_created creation
  | none =>
      have createsNone : WorkspaceAccessIndex.createdMessageId event.event.body = none := by
        cases creates : WorkspaceAccessIndex.createdMessageId event.event.body with
        | none => rfl
        | some createdId =>
            obtain ⟨stored, isStored, -⟩ := createdMessage_of_permitted permitted creates
            rw [creation] at isStored
            cases isStored
      cases changed : messageChange event with
      | some both => exact showsMessage_changed createsNone changed
      | none =>
          have settlesNot : event.settlesMessage messageId = false := by
            cases deletes : deletedMessageId event.event.body with
            | none => simp [SignedEvent.settlesMessage, createsNone, deletes]
            | some deleted =>
                obtain ⟨change, isChange⟩ := messageChange_of_deletes deletes
                rw [changed] at isChange
                cases isChange
          rw [settlesNot, if_neg Bool.false_ne_true]

end Settling

/-- A message shows exactly what the last event about it leaves. -/
theorem showsMessage_iff
    {workspaceId : WorkspaceId} {history : List SignedEvent} {state : WorkspaceState}
    (reached : Reachable workspaceId history state) (eventId : EventId) (messageId : MessageId)
    (channelId : ChannelId) :
    ShowsMessage state.messages eventId messageId channelId ↔
      StandsFor history eventId messageId channelId := by
  have ran := reached.run
  clear reached
  induction ran with
  | start =>
      constructor
      · rintro ⟨message, present, -⟩
        simp [WorkspaceState.new] at present
      · rintro ⟨event, isLast, -⟩
        cases isLast
  | @extend earlier before after event _ _ accepted inductionHypothesis =>
      have applied :=
        ((apply_eq_ok_iff _ _ _).mp ((applyStep_eq_ok_iff _ _ _).mp accepted)).2
      obtain ⟨_, authorized, -⟩ := applyReadyEvent_ok applied
      obtain ⟨_, _, _, permitted⟩ :=
        (WorkspaceAccessIndex.authorize_eq_ok_iff _ _ _).mp authorized
      rw [applyReadyEvent_messages applied, showsMessage_after permitted, StandsFor,
        lastSettling_append]
      by_cases settles : event.settlesMessage messageId = true
      · rw [if_pos settles, if_pos settles]
        constructor
        · intro creates
          exact ⟨event, rfl, creates⟩
        · rintro ⟨other, isOther, creates⟩
          cases isOther
          exact creates
      · rw [if_neg settles, if_neg settles]
        exact inductionHypothesis

end WorkspaceState

end Chaft
