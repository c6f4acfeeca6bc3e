import Chaft.Core.Reachable

/-!
# Whose message it is

Edits and deletions ask for the author of the message.  Creations and replies
do not ask whether their message ID is taken, so they are the one way to
replace the message of another device.
-/

namespace Chaft

open Keyed Outcome StableReplay Transition

namespace MessageView

/-- Equal in everything but the reactions. -/
structure SameContent (before after : MessageView) : Prop where
  channelId : after.channelId = before.channelId
  authorEventId : after.authorEventId = before.authorEventId
  replyToMessageId : after.replyToMessageId = before.replyToMessageId
  markdown : after.markdown = before.markdown
  sealedMarkdown : after.sealedMarkdown = before.sealedMarkdown
  attachments : after.attachments = before.attachments
  deleted : after.deleted = before.deleted

theorem SameContent.refl (message : MessageView) : SameContent message message :=
  ⟨rfl, rfl, rfl, rfl, rfl, rfl, rfl⟩

theorem SameContent.trans
    {first second third : MessageView}
    (earlier : SameContent first second) (later : SameContent second third) :
    SameContent first third :=
  ⟨later.channelId.trans earlier.channelId,
    later.authorEventId.trans earlier.authorEventId,
    later.replyToMessageId.trans earlier.replyToMessageId,
    later.markdown.trans earlier.markdown,
    later.sealedMarkdown.trans earlier.sealedMarkdown,
    later.attachments.trans earlier.attachments,
    later.deleted.trans earlier.deleted⟩

theorem addReaction_sameContent
    (message : MessageView) (reaction : String) (deviceId : DeviceId) :
    SameContent message (message.addReaction reaction deviceId) := by
  unfold addReaction
  dsimp only
  split <;> exact ⟨rfl, rfl, rfl, rfl, rfl, rfl, rfl⟩

theorem removeReaction_sameContent
    (message : MessageView) (reaction : String) (deviceId : DeviceId) :
    SameContent message (message.removeReaction reaction deviceId) := by
  unfold removeReaction
  dsimp only
  repeat' split
  all_goals exact ⟨rfl, rfl, rfl, rfl, rfl, rfl, rfl⟩

end MessageView

/-- The message view that a creation or reply event stores. -/
def createdMessage (signed : SignedEvent) : Option MessageView :=
  match signed.event.body with
  | .messageCreated messageId markdown attachments =>
      signed.event.channelId.map fun channelId =>
        MessageView.new messageId channelId signed.eventId none markdown none attachments
  | .messageReplyCreated messageId replyToMessageId markdown attachments =>
      signed.event.channelId.map fun channelId =>
        MessageView.new messageId channelId signed.eventId (some replyToMessageId) markdown
          none attachments
  | .messageCreatedEncrypted messageId sealedMarkdown attachments =>
      signed.event.channelId.map fun channelId =>
        MessageView.new messageId channelId signed.eventId none "" (some sealedMarkdown)
          attachments
  | .messageReplyCreatedEncrypted messageId replyToMessageId sealedMarkdown attachments =>
      signed.event.channelId.map fun channelId =>
        MessageView.new messageId channelId signed.eventId (some replyToMessageId) ""
          (some sealedMarkdown) attachments
  | _ => none

/-- The author of the last event of a history that creates the message. -/
def messageCreator (messageId : MessageId) (history : List SignedEvent) : Option DeviceId :=
  history.foldl
    (fun creator event =>
      if WorkspaceAccessIndex.createdMessageId event.event.body = some messageId then
        some event.event.authorDeviceId
      else
        creator)
    none

theorem messageCreator_append
    (messageId : MessageId) (history : List SignedEvent) (event : SignedEvent) :
    messageCreator messageId (history ++ [event]) =
      if WorkspaceAccessIndex.createdMessageId event.event.body = some messageId then
        some event.event.authorDeviceId
      else
        messageCreator messageId history := by
  simp [messageCreator, List.foldl_append]

/-- The change that an edit, deletion or reaction makes to its message. -/
def messageChange (signed : SignedEvent) : Option (MessageId × (MessageView → MessageView)) :=
  match signed.event.body with
  | .messageEdited messageId markdown =>
      some (messageId, fun message =>
        { message with markdown := markdown, sealedMarkdown := none })
  | .messageEditedEncrypted messageId sealedMarkdown =>
      some (messageId, fun message =>
        { message with markdown := "", sealedMarkdown := some sealedMarkdown })
  | .messageDeleted messageId => some (messageId, fun message => { message with deleted := true })
  | .reactionAdded messageId reaction =>
      some (messageId, fun message => message.addReaction reaction signed.event.authorDeviceId)
  | .reactionRemoved messageId reaction =>
      some (messageId, fun message => message.removeReaction reaction signed.event.authorDeviceId)
  | _ => none

namespace WorkspaceState

/-- The message views after an authorized event. -/
def messageViewsAfter
    (messages : HashMap MessageId MessageView) (signed : SignedEvent) :
    HashMap MessageId MessageView :=
  match createdMessage signed, messageChange signed with
  | some created, _ => messages.insert created.messageId created
  | none, some (messageId, change) => messages.modify messageId change
  | none, none => messages

theorem markInvitesAcceptedByEvent_messages (state : WorkspaceState) (signed : SignedEvent) :
    (state.markInvitesAcceptedByEvent signed).messages = state.messages := by
  unfold markInvitesAcceptedByEvent
  split <;> rfl

theorem writeViews_messages
    {state written : WorkspaceState} {signed : SignedEvent}
    (finished : state.writeViews signed = .ok written) :
    written.messages = messageViewsAfter state.messages signed := by
  unfold writeViews at finished
  unfold messageViewsAfter createdMessage messageChange
  cases body : signed.event.body with
  | workspaceInviteRecorded inviteId inviteeDeviceId displayName role requestId expiresAt
      approvalPolicy syncExpectation =>
      simp only [body] at finished
      split at finished <;> cases finished <;> rfl
  | messageCreated messageId markdown attachments
  | messageReplyCreated messageId replyToMessageId markdown attachments
  | messageCreatedEncrypted messageId sealedMarkdown attachments
  | messageReplyCreatedEncrypted messageId replyToMessageId sealedMarkdown attachments =>
      simp only [body, insertMessage, bind_eq_ok_iff, okOr_eq_ok_iff] at finished
      obtain ⟨channelId, inChannel, stored⟩ := finished
      cases stored
      simp [inChannel, MessageView.new]
  | _ =>
      simp only [body, modifyMessage] at finished
      cases finished
      rfl

theorem applyReadyEvent_messages
    {state next : WorkspaceState} {signed : SignedEvent}
    (applied : state.applyReadyEvent signed = (.ok (), next)) :
    next.messages = messageViewsAfter state.messages signed := by
  obtain ⟨written, finished, rfl⟩ := applyReadyEvent_writes applied
  exact (writeViews_messages finished).trans (by rw [markInvitesAcceptedByEvent_messages])

/-! ## The author of a stored message -/

/-- What the access index knows about a stored message. -/
def KnowsCreator
    (history : List SignedEvent) (state : WorkspaceState) : Prop :=
  ∀ (messageId : MessageId) (message : MessageView),
    state.messages[messageId]? = some message →
      ∃ creator, messageCreator messageId history = some creator ∧
        state.accessIndex.messages[messageId]? =
          some { channelId := message.channelId, authorDeviceId := some creator }

/-- What a stored message takes from its event. -/
theorem createdMessage_eq_some
    {signed : SignedEvent} {created : MessageView}
    (creates : createdMessage signed = some created) :
    WorkspaceAccessIndex.createdMessageId signed.event.body = some created.messageId ∧
      signed.event.channelId = some created.channelId ∧
        created.authorEventId = signed.eventId := by
  unfold createdMessage at creates
  cases body : signed.event.body with
  | messageCreated messageId markdown attachments
  | messageReplyCreated messageId replyToMessageId markdown attachments
  | messageCreatedEncrypted messageId sealedMarkdown attachments
  | messageReplyCreatedEncrypted messageId replyToMessageId sealedMarkdown attachments =>
      simp only [body, Option.map_eq_some_iff] at creates
      obtain ⟨channelId, inChannel, rfl⟩ := creates
      exact ⟨rfl, inChannel, rfl⟩
  | _ => simp [body] at creates

/-- A permitted creation is in a channel, so it stores a message. -/
theorem createdMessage_of_permitted
    {index : WorkspaceAccessIndex} {signed : SignedEvent} {messageId : MessageId}
    (permitted : index.authorizeBody signed = .ok ())
    (creates : WorkspaceAccessIndex.createdMessageId signed.event.body = some messageId) :
    ∃ created, createdMessage signed = some created ∧ created.messageId = messageId := by
  unfold WorkspaceAccessIndex.authorizeBody at permitted
  unfold createdMessage
  cases body : signed.event.body with
  | messageCreated created markdown attachments
  | messageReplyCreated created replyToMessageId markdown attachments
  | messageCreatedEncrypted created sealedMarkdown attachments
  | messageReplyCreatedEncrypted created replyToMessageId sealedMarkdown attachments =>
      simp only [body, bind_eq_ok_iff, requireEventChannel_eq_ok_iff] at permitted
      obtain ⟨_, _, channelId, inChannel, _⟩ := permitted
      rw [body] at creates
      cases creates
      rw [inChannel]
      exact ⟨_, rfl, rfl⟩
  | _ => simp [body, WorkspaceAccessIndex.createdMessageId] at creates

/-- A change stays in its channel, and is a reaction or a change by the author of
the message. -/
private theorem messageChange_of_permitted
    {index : WorkspaceAccessIndex} {signed : SignedEvent} {messageId : MessageId}
    {change : MessageView → MessageView}
    (permitted : index.authorizeBody signed = .ok ())
    (changes : messageChange signed = some (messageId, change)) :
    (∀ message, (change message).channelId = message.channelId) ∧
      ((∀ message, MessageView.SameContent message (change message)) ∨
        ∃ access, index.messages[messageId]? = some access ∧
          access.authorDeviceId = some signed.event.authorDeviceId) := by
  unfold WorkspaceAccessIndex.authorizeBody at permitted
  unfold messageChange at changes
  cases body : signed.event.body with
  | reactionAdded changed reaction =>
      simp only [body, Option.some.injEq, Prod.mk.injEq] at changes
      obtain ⟨-, rfl⟩ := changes
      have same := fun message : MessageView =>
        message.addReaction_sameContent reaction signed.event.authorDeviceId
      exact ⟨fun message => (same message).channelId, Or.inl same⟩
  | reactionRemoved changed reaction =>
      simp only [body, Option.some.injEq, Prod.mk.injEq] at changes
      obtain ⟨-, rfl⟩ := changes
      have same := fun message : MessageView =>
        message.removeReaction_sameContent reaction signed.event.authorDeviceId
      exact ⟨fun message => (same message).channelId, Or.inl same⟩
  | messageEdited changed markdown
  | messageEditedEncrypted changed sealedMarkdown
  | messageDeleted changed =>
      simp only [body, Option.some.injEq, Prod.mk.injEq] at changes
      obtain ⟨rfl, rfl⟩ := changes
      refine ⟨fun message => rfl, Or.inr ?_⟩
      simp only [body, bind_eq_ok_iff, WorkspaceAccessIndex.requireMessage_eq_ok_iff] at permitted
      obtain ⟨_, _, access, present, _, _, _, _, _, _, byAuthor⟩ := permitted
      refine ⟨access, present, ?_⟩
      cases author : access.authorDeviceId with
      | none => simp [author] at byAuthor
      | some authorDeviceId =>
          simp only [author, ensure_eq_ok_iff] at byAuthor
          rw [byAuthor]
  | _ => simp [body] at changes

/-- `apply` keeps the index informed about the author of every message. -/
private theorem KnowsCreator.apply
    {history : List SignedEvent} {state next : WorkspaceState} {event : SignedEvent}
    (knows : KnowsCreator history state) (accepted : state.apply event = (.ok (), next)) :
    KnowsCreator (history ++ [event]) next := by
  obtain ⟨_, applied⟩ := (apply_eq_ok_iff _ _ _).mp accepted
  obtain ⟨_, authorized, _, _, _, indexAfter⟩ := applyReadyEvent_ok applied
  obtain ⟨_, _, _, permitted⟩ :=
    (WorkspaceAccessIndex.authorize_eq_ok_iff _ _ _).mp authorized
  intro messageId message present
  rw [applyReadyEvent_messages applied] at present
  rw [indexAfter, WorkspaceAccessIndex.applyAuthorized_messages, messageCreator_append]
  unfold messageViewsAfter at present
  cases created : createdMessage event with
  | some stored =>
      obtain ⟨createsId, inChannel, _⟩ := createdMessage_eq_some created
      simp only [created, Std.ExtTreeMap.getElem?_insert,
        Std.LawfulEqCmp.compare_eq_iff_eq] at present
      simp only [WorkspaceAccessIndex.messagesAfter, createsId, inChannel,
        Std.ExtTreeMap.getElem?_insert, Std.LawfulEqCmp.compare_eq_iff_eq, Option.some.injEq]
      by_cases same : stored.messageId = messageId
      · rw [if_pos same, Option.some.injEq] at present
        rw [if_pos same, if_pos same, present]
        exact ⟨event.event.authorDeviceId, rfl, rfl⟩
      · rw [if_neg same] at present
        rw [if_neg same, if_neg same]
        exact knows messageId message present
  | none =>
      have noCreation :
          WorkspaceAccessIndex.createdMessageId event.event.body = none := by
        cases creates : WorkspaceAccessIndex.createdMessageId event.event.body with
        | none => rfl
        | some createdId =>
            obtain ⟨stored, isStored, _⟩ := createdMessage_of_permitted permitted creates
            rw [created] at isStored
            cases isStored
      simp only [WorkspaceAccessIndex.messagesAfter, noCreation, reduceCtorEq, if_false]
      cases changes : messageChange event with
      | none =>
          simp only [created, changes] at present
          exact knows messageId message present
      | some changed =>
          obtain ⟨changedId, change⟩ := changed
          simp only [created, changes, getElem?_modify_same] at present
          by_cases same : changedId = messageId
          · rw [if_pos same, Option.map_eq_some_iff] at present
            obtain ⟨before, wasPresent, rfl⟩ := present
            obtain ⟨sameChannel, _⟩ := messageChange_of_permitted permitted changes
            rw [sameChannel before]
            exact knows messageId before wasPresent
          · rw [if_neg same] at present
            exact knows messageId message present

private theorem Reachable.knowsCreator
    {workspaceId : WorkspaceId} {history : List SignedEvent} {state : WorkspaceState}
    (reached : Reachable workspaceId history state) :
    KnowsCreator history state := by
  have ran := reached.run
  clear reached
  induction ran with
  | start =>
      intro messageId message present
      simp [WorkspaceState.new] at present
  | extend _ _ accepted inductionHypothesis =>
      exact inductionHypothesis.apply ((applyStep_eq_ok_iff _ _ _).mp accepted)

/-- The event stores no message under the given ID, or one with the content that
is there already. -/
def LeavesMessage
    (messageId : MessageId) (message : MessageView) (event : SignedEvent) : Prop :=
  ∀ created, createdMessage event = some created → created.messageId = messageId →
    MessageView.SameContent message created

/-- The content of a message after an accepted event of another device. -/
private theorem message_after_iff
    {history : List SignedEvent} {state next : WorkspaceState} {event : SignedEvent}
    {messageId : MessageId} {message : MessageView} {creator : DeviceId}
    (knows : KnowsCreator history state)
    (present : state.messages[messageId]? = some message)
    (isCreator : messageCreator messageId history = some creator)
    (other : event.event.authorDeviceId ≠ creator)
    (accepted : state.apply event = (.ok (), next)) :
    (∃ after, next.messages[messageId]? = some after ∧
        MessageView.SameContent message after) ↔
      LeavesMessage messageId message event := by
  obtain ⟨_, applied⟩ := (apply_eq_ok_iff _ _ _).mp accepted
  obtain ⟨_, authorized, _, _, _, _⟩ := applyReadyEvent_ok applied
  obtain ⟨_, _, _, permitted⟩ :=
    (WorkspaceAccessIndex.authorize_eq_ok_iff _ _ _).mp authorized
  rw [applyReadyEvent_messages applied]
  unfold messageViewsAfter LeavesMessage
  cases created : createdMessage event with
  | some stored =>
      simp only [Std.ExtTreeMap.getElem?_insert, Std.LawfulEqCmp.compare_eq_iff_eq,
        Option.some.injEq]
      by_cases same : stored.messageId = messageId
      · rw [if_pos same]
        constructor
        · rintro ⟨after, isAfter, sameContent⟩ other rfl _
          rw [Option.some.inj isAfter]
          exact sameContent
        · intro leaves
          exact ⟨stored, rfl, leaves stored rfl same⟩
      · rw [if_neg same]
        constructor
        · rintro _ other rfl isSame
          exact absurd isSame same
        · intro _
          exact ⟨message, present, MessageView.SameContent.refl message⟩
  | none =>
      have leaves :
          ∀ created : MessageView, (none : Option MessageView) = some created →
            created.messageId = messageId → MessageView.SameContent message created := by
        intro created impossible
        cases impossible
      refine iff_of_true ?_ leaves
      cases changes : messageChange event with
      | none => exact ⟨message, present, MessageView.SameContent.refl message⟩
      | some changed =>
          obtain ⟨changedId, change⟩ := changed
          simp only [getElem?_modify_same]
          by_cases same : changedId = messageId
          · rw [if_pos same, present]
            rcases (messageChange_of_permitted permitted changes).2 with
              reaction | ⟨access, found, byAuthor⟩
            · exact ⟨change message, rfl, reaction message⟩
            · -- only the creator may edit, and the event is by another device
              obtain ⟨known, isKnown, indexed⟩ := knows messageId message present
              rw [same, indexed, Option.some.injEq] at found
              rw [← found, Option.some.injEq] at byAuthor
              rw [isCreator, Option.some.injEq] at isKnown
              exact absurd (byAuthor.symm.trans isKnown.symm) other
          · rw [if_neg same]
            exact ⟨message, present, MessageView.SameContent.refl message⟩

/-- The event creates no message over the one of another device, unless it says the
same. -/
def KeepsMessages (state : WorkspaceState) (event : SignedEvent) : Prop :=
  ∀ created, createdMessage event = some created →
    ∀ message, state.messages[created.messageId]? = some message →
      ∀ access, state.accessIndex.messages[created.messageId]? = some access →
        access.authorDeviceId ≠ some event.event.authorDeviceId →
          MessageView.SameContent message created

/-- Every message of another device has the same content after the event. -/
def ForeignMessagesKept
    (history : List SignedEvent) (state next : WorkspaceState) (event : SignedEvent) : Prop :=
  ∀ (messageId : MessageId) (message : MessageView) (creator : DeviceId),
    state.messages[messageId]? = some message →
      messageCreator messageId history = some creator →
        event.event.authorDeviceId ≠ creator →
          ∃ after, next.messages[messageId]? = some after ∧
            MessageView.SameContent message after

private theorem foreignMessagesKept_iff
    {history : List SignedEvent} {state next : WorkspaceState} {event : SignedEvent}
    (knows : KnowsCreator history state)
    (accepted : state.apply event = (.ok (), next)) :
    ForeignMessagesKept history state next event ↔ KeepsMessages state event := by
  constructor
  · intro kept created creates message present access found other
    obtain ⟨creator, isCreator, indexed⟩ := knows created.messageId message present
    rw [indexed, Option.some.injEq] at found
    rw [← found, ne_eq, Option.some.injEq] at other
    have byOther : event.event.authorDeviceId ≠ creator := fun same => other same.symm
    have leaves :=
      (message_after_iff knows present isCreator byOther accepted).mp
        (kept created.messageId message creator present isCreator byOther)
    exact leaves created creates rfl
  · intro keeps messageId message creator present isCreator byOther
    refine (message_after_iff knows present isCreator byOther accepted).mpr ?_
    rintro created creates rfl
    obtain ⟨known, isKnown, indexed⟩ := knows created.messageId message present
    rw [isCreator, Option.some.injEq] at isKnown
    refine keeps created creates message present _ indexed ?_
    rw [← isKnown, ne_eq, Option.some.injEq]
    exact fun same => byOther same.symm

/-- The device is the author of a message that the index knows. -/
def IsAuthorOf (state : WorkspaceState) (deviceId : DeviceId) (messageId : MessageId) : Prop :=
  ∃ access, state.accessIndex.messages[messageId]? = some access ∧
    access.authorDeviceId = some deviceId

/-- A step of the other devices that keeps the messages. -/
def ForeignStep (messageId : MessageId) (state : WorkspaceState) (event : SignedEvent) : Prop :=
  KeepsMessages state event ∧ ¬ state.IsAuthorOf event.event.authorDeviceId messageId

/-- Along a run of the other devices a message keeps its content. -/
private theorem content_of_foreignRun
    {workspaceId : WorkspaceId} {history later : List SignedEvent}
    {state final : WorkspaceState} {messageId : MessageId} {message : MessageView}
    (reached : Reachable workspaceId history state)
    (present : state.messages[messageId]? = some message)
    (ran : GuardedRun applyStep (ForeignStep messageId) state later final) :
    Reachable workspaceId (history ++ later) final ∧
      ∃ after, final.messages[messageId]? = some after ∧
        MessageView.SameContent message after := by
  induction ran with
  | start =>
      rw [List.append_nil]
      exact ⟨reached, message, present, MessageView.SameContent.refl message⟩
  | extend _ guarded accepted inductionHypothesis =>
      rename_i middle next event _
      obtain ⟨reachedMiddle, before, presentMiddle, sameBefore⟩ := inductionHypothesis
      have applied := (applyStep_eq_ok_iff _ _ _).mp accepted
      have knows := reachedMiddle.knowsCreator
      obtain ⟨creator, isCreator, indexed⟩ := knows messageId before presentMiddle
      have byOther : event.event.authorDeviceId ≠ creator := by
        intro same
        exact guarded.2 ⟨_, indexed, by rw [same]⟩
      obtain ⟨after, isAfter, sameAfter⟩ :=
        (foreignMessagesKept_iff knows applied).mpr guarded.1 messageId before creator
          presentMiddle isCreator byOther
      rw [← List.append_assoc]
      exact ⟨reachedMiddle.apply applied, after, isAfter, sameBefore.trans sameAfter⟩

/-- In every reachable state an accepted event leaves the messages of the other
devices alone if and only if it does not create one of them anew.  In a run of
such events a message keeps its content until its author changes it. -/
theorem foreignMessages_kept_iff
    (workspaceId : WorkspaceId) (history : List SignedEvent) (state : WorkspaceState)
    (reached : Reachable workspaceId history state) :
    (∀ (event : SignedEvent) (next : WorkspaceState),
        state.apply event = (.ok (), next) →
          (ForeignMessagesKept history state next event ↔ KeepsMessages state event)) ∧
      ∀ (messageId : MessageId) (message : MessageView),
        state.messages[messageId]? = some message →
          ∀ (later : List SignedEvent) (final : WorkspaceState),
            GuardedRun applyStep (ForeignStep messageId) state later final →
              ∃ after, final.messages[messageId]? = some after ∧
                MessageView.SameContent message after :=
  ⟨fun _ _ accepted => foreignMessagesKept_iff reached.knowsCreator accepted,
    fun _ _ present _ _ ran => (content_of_foreignRun reached present ran).2⟩

/-- The root says hello in a channel where another device is a member too. -/
def helloHistory : List SignedEvent :=
  [draftEvent "e0" "root" none [] (.workspaceCreated "home"),
    draftEvent "e1" "root" none ["e0"] (.channelCreated ⟨"general"⟩ "general" false),
    draftEvent "e2" "root" none ["e0"] (.memberInvited ⟨"guest"⟩ .member),
    draftEvent "e3" "root" (some "general") ["e1"] (.messageCreated ⟨"hello"⟩ "hello" [])]

/-- The member sends a message under the ID of the root's. -/
def takeover : SignedEvent :=
  draftEvent "e4" "guest" (some "general") ["e2", "e3"]
    (.messageCreated ⟨"hello"⟩ "goodbye" [])

/-- The member greets the root's message. -/
def greeting : SignedEvent :=
  draftEvent "e4" "guest" (some "general") ["e2", "e3"] (.reactionAdded ⟨"hello"⟩ "wave")

/-- A reaction creates no message. -/
theorem foreignMessages_kept_iff_greeting :
    ForeignMessagesKept helloHistory (stateAfter helloHistory)
      ((stateAfter helloHistory).apply greeting).2 greeting := by
  refine ((foreignMessages_kept_iff ⟨"w"⟩ helloHistory (stateAfter helloHistory)
    (stateAfter_reachable (by decide +kernel))).1 greeting _
      (Prod.ext (by decide +kernel) rfl)).mpr ?_
  intro created creates
  cases creates

/-- Another device can replace the root's message. -/
theorem foreignMessages_not_kept :
    ¬ ∀ (workspaceId : WorkspaceId) (history : List SignedEvent) (state : WorkspaceState),
      Reachable workspaceId history state →
        ∀ event next, state.apply event = (.ok (), next) →
          ForeignMessagesKept history state next event := by
  intro kept
  obtain ⟨message, present, saysHello⟩ :
      ∃ message : MessageView,
        (stateAfter helloHistory).messages[(⟨"hello"⟩ : MessageId)]? = some message ∧
          message.markdown = "hello" :=
    Option.map_eq_some_iff.mp (by decide +kernel)
  obtain ⟨replaced, isReplaced, saysGoodbye⟩ :
      ∃ message : MessageView,
        ((stateAfter helloHistory).apply takeover).2.messages[(⟨"hello"⟩ : MessageId)]? =
            some message ∧
          message.markdown = "goodbye" :=
    Option.map_eq_some_iff.mp (by decide +kernel)
  have accepted :
      (stateAfter helloHistory).apply takeover =
        (.ok (), ((stateAfter helloHistory).apply takeover).2) :=
    Prod.ext (by decide +kernel) rfl
  obtain ⟨after, isAfter, same⟩ :=
    kept ⟨"w"⟩ helloHistory (stateAfter helloHistory) (stateAfter_reachable (by decide +kernel))
      takeover _ accepted ⟨"hello"⟩ message ⟨"root"⟩ present (by decide +kernel)
      (by decide +kernel)
  rw [isReplaced, Option.some.injEq] at isAfter
  have markdown := same.markdown
  rw [← isAfter, saysGoodbye, saysHello] at markdown
  exact absurd markdown (by decide)

end WorkspaceState

end Chaft
