import Chaft.Core.InviteViews
import Chaft.Core.ReactionCounts
import Chaft.Core.StateViews
import Chaft.Library.TextParts

/-!
# Views and index never drift apart

Everything that a state holds twice agrees in every reachable state.  Reaction
counts are the one place where a view shows less than there is: a count of 32
bits stops at its largest value, and more devices than that can react.
-/

namespace Chaft

open Keyed Outcome Transition

namespace WorkspaceState

/-! ## Messages and join requests -/

def MessagesMatch (state : WorkspaceState) (index : WorkspaceAccessIndex) : Prop :=
  ∀ messageId : MessageId,
    state.messages[messageId]?.map MessageView.channelId =
      index.messages[messageId]?.map MessageAccess.channelId

def JoinRequestsMatch (state : WorkspaceState) (index : WorkspaceAccessIndex) : Prop :=
  ∀ requestId : String, requestId ∈ state.joinRequests ↔ requestId ∈ index.joinRequests

section Steps

variable {state written : WorkspaceState} {index : WorkspaceAccessIndex} {signed : SignedEvent}

/-- Edits and reactions stay in the channel of their message. -/
theorem messageChange_channelId
    {messageId : MessageId} {change : MessageView → MessageView}
    (changes : messageChange signed = some (messageId, change)) (message : MessageView) :
    (change message).channelId = message.channelId := by
  unfold messageChange at changes
  cases body : signed.event.body with
  | reactionAdded changed reaction =>
      simp only [body, Option.some.injEq, Prod.mk.injEq] at changes
      rw [← changes.2]
      exact (message.addReaction_sameContent reaction _).channelId
  | reactionRemoved changed reaction =>
      simp only [body, Option.some.injEq, Prod.mk.injEq] at changes
      rw [← changes.2]
      exact (message.removeReaction_sameContent reaction _).channelId
  | messageEdited | messageEditedEncrypted | messageDeleted =>
      simp only [body, Option.some.injEq, Prod.mk.injEq] at changes
      rw [← changes.2]
  | _ => simp [body] at changes

theorem MessagesMatch.after
    (same : MessagesMatch state index) (permitted : index.authorizeBody signed = .ok ())
    (messageId : MessageId) :
    (messageViewsAfter state.messages signed)[messageId]?.map MessageView.channelId =
      (WorkspaceAccessIndex.messagesAfter index.messages signed)[messageId]?.map
        MessageAccess.channelId := by
  have before := same messageId
  unfold messageViewsAfter WorkspaceAccessIndex.messagesAfter
  cases isCreated : createdMessage signed with
  | some created =>
      obtain ⟨createsId, inChannel, -⟩ := createdMessage_eq_some isCreated
      simp only [createsId, inChannel, Std.ExtTreeMap.getElem?_insert]
      split
      · rfl
      · exact before
  | none =>
      have noCreation : WorkspaceAccessIndex.createdMessageId signed.event.body = none := by
        rw [Option.eq_none_iff_forall_ne_some]
        intro createdId creates
        obtain ⟨created, contrary, -⟩ := createdMessage_of_permitted permitted creates
        rw [isCreated] at contrary
        cases contrary
      cases changes : messageChange signed with
      | none =>
          simp only [noCreation]
          exact before
      | some changed =>
          simp only [noCreation, getElem?_modify_same]
          split
          · rw [Option.map_map, ← before]
            congr 1
            funext message
            exact messageChange_channelId changes message
          · exact before

theorem JoinRequestsMatch.after
    (same : JoinRequestsMatch state index) (finished : state.writeViews signed = .ok written)
    (requestId : String) :
    requestId ∈ written.joinRequests ↔
      requestId ∈ WorkspaceAccessIndex.joinRequestsAfter index.joinRequests signed := by
  have before := same requestId
  unfold writeViews at finished
  unfold WorkspaceAccessIndex.joinRequestsAfter
  cases body : signed.event.body with
  | memberInvited inviteeDeviceId role =>
      simp only [body] at finished
      cases finished
      simp only [Std.ExtTreeMap.mem_map]
      exact before
  | workspaceInviteRecorded inviteId inviteeDeviceId displayName role invitedRequestId =>
      simp only [body] at finished
      cases invitedRequestId with
      | none =>
          cases finished
          exact before
      | some invitedRequestId =>
          cases finished
          simp only [approveJoinRequestFromInvite, Std.ExtTreeMap.mem_modify]
          exact before
  | workspaceInviteClaimed inviteId inviteeDeviceId claimedRequestId =>
      simp only [body] at finished
      cases finished
      simp only [approveJoinRequestFromInvite, Std.ExtTreeMap.mem_modify]
      exact before
  | workspaceJoinRequestRecorded recordedId =>
      simp only [body] at finished
      cases finished
      simp only [Std.ExtTreeMap.mem_insert, Std.ExtTreeSet.mem_insert]
      exact or_congr_right before
  | workspaceJoinRequestResolved resolvedId resolution =>
      simp only [body] at finished
      cases finished
      simp only [Std.ExtTreeMap.mem_modify]
      exact before
  | messageCreated | messageReplyCreated | messageCreatedEncrypted
  | messageReplyCreatedEncrypted =>
      simp only [body, insertMessage, bind_eq_ok_iff] at finished
      obtain ⟨channelId, _, stored⟩ := finished
      cases stored
      exact before
  | _ =>
      simp only [body, modifyMessage] at finished
      cases finished
      exact before

end Steps

/-- Marking invites changes neither messages nor join requests. -/
theorem markInvitesAcceptedByEvent_joinRequests (state : WorkspaceState) (signed : SignedEvent) :
    (state.markInvitesAcceptedByEvent signed).joinRequests = state.joinRequests := by
  unfold markInvitesAcceptedByEvent
  split <;> rfl

/-- What the views hold a second time, besides members, channels and links. -/
structure RecordsMatch (state : WorkspaceState) (index : WorkspaceAccessIndex) : Prop where
  messages : MessagesMatch state index
  joinRequests : JoinRequestsMatch state index
  invites : InvitesMatch state.invites index.invites

theorem recordsMatch_new (workspaceId : WorkspaceId) :
    (new workspaceId).RecordsMatch (WorkspaceAccessIndex.new workspaceId) where
  messages := by simp [MessagesMatch, new, WorkspaceAccessIndex.new]
  joinRequests := by simp [JoinRequestsMatch, new, WorkspaceAccessIndex.new]
  invites := by simp [InvitesMatch, new, WorkspaceAccessIndex.new]

theorem RecordsMatch.apply
    {state next : WorkspaceState} {signed : SignedEvent}
    (recordsMatch : state.RecordsMatch state.accessIndex)
    (accepted : state.apply signed = (.ok (), next)) :
    next.RecordsMatch next.accessIndex := by
  obtain ⟨-, applied⟩ := (apply_eq_ok_iff _ _ _).mp accepted
  obtain ⟨-, authorized, -, -, -, indexAfter⟩ := applyReadyEvent_ok applied
  obtain ⟨-, -, valid, permitted⟩ :=
    (WorkspaceAccessIndex.authorize_eq_ok_iff _ _ _).mp authorized
  have messagesAfter := applyReadyEvent_messages applied
  obtain ⟨written, finished, rfl⟩ := applyReadyEvent_writes applied
  rw [indexAfter]
  constructor
  · intro messageId
    rw [messagesAfter, WorkspaceAccessIndex.applyAuthorized_messages]
    exact recordsMatch.messages.after permitted messageId
  · intro requestId
    rw [WorkspaceAccessIndex.applyAuthorized_joinRequests]
    refine JoinRequestsMatch.after ?_ finished requestId
    intro earlierId
    rw [markInvitesAcceptedByEvent_joinRequests]
    exact recordsMatch.joinRequests earlierId
  · rw [WorkspaceAccessIndex.applyAuthorized_invites]
    have invites :
        InvitesMatch written.invites
          (WorkspaceAccessIndex.invitesAfter state.accessIndex.invites signed) := by
      refine InvitesMatch.after ?_ valid permitted finished
      exact recordsMatch.invites
    exact invites

theorem Reachable.recordsMatch
    {workspaceId : WorkspaceId} {history : List SignedEvent} {state : WorkspaceState}
    (reached : Reachable workspaceId history state) :
    state.RecordsMatch state.accessIndex := by
  have ran := reached.run
  clear reached
  induction ran with
  | start => exact recordsMatch_new workspaceId
  | extend _ _ accepted inductionHypothesis =>
      exact inductionHypothesis.apply ((applyStep_eq_ok_iff _ _ _).mp accepted)

/-! ## Agreement -/

/-- Everything that a state holds twice agrees.  `shown` is the number that a
reaction shows for a number of devices. -/
structure ViewsAgree
    (shown : Nat → Nat) (history : List SignedEvent) (state : WorkspaceState) : Prop where
  members :
    ∀ deviceId : DeviceId,
      state.members[deviceId]?.map WorkspaceMemberView.role =
        state.accessIndex.roles[deviceId]?
  channels :
    ∀ channelId : ChannelId,
      state.channels[channelId]?.map ChannelView.authority =
        state.accessIndex.channels[channelId]?.map ChannelAccess.authority
  messages :
    ∀ messageId : MessageId,
      state.messages[messageId]?.map MessageView.channelId =
        state.accessIndex.messages[messageId]?.map MessageAccess.channelId
  personDeviceLinks :
    ∀ deviceId : DeviceId,
      state.personDeviceLinks[deviceId]?.map PersonDeviceLinkView.personId =
        state.accessIndex.personLinks[deviceId]?
  joinRequests :
    ∀ requestId : String,
      requestId ∈ state.joinRequests ↔ requestId ∈ state.accessIndex.joinRequests
  inviteIds :
    ∀ inviteId : String, inviteId ∈ state.invites ↔ inviteId ∈ state.accessIndex.invites
  invites :
    ∀ (inviteId : String) (view : WorkspaceInviteView) (access : WorkspaceInviteAccess),
      state.invites[inviteId]? = some view →
        state.accessIndex.invites[inviteId]? = some access →
          (view.status = .revoked ↔ access.revoked = true) ∧
            (view.status = .invited ↔
              access.revoked = false ∧ access.claimCount < access.maxClaims)
  appliedEventIds :
    ∀ eventId : EventId, eventId ∈ state.appliedEventIds ↔ eventId ∈ state.appliedEvents
  reactionAuthors :
    ∀ (messageId : MessageId) (message : MessageView),
      state.messages[messageId]? = some message →
        ∀ reaction : String,
          message.reactionAuthors.getD reaction ∅ = reactors messageId reaction history
  /-- A reaction without an entry counts as zero. -/
  reactionCounts :
    ∀ (messageId : MessageId) (message : MessageView),
      state.messages[messageId]? = some message →
        ∀ reaction : String,
          (message.reactions.getD reaction 0).toNat =
              shown (reactors messageId reaction history).size ∧
            message.reactions[reaction]? ≠ some 0

/-- The number that a reaction of 32 bits can show. -/
def shownCount (devices : Nat) : Nat :=
  min devices (2 ^ 32 - 1)

theorem counts_of_showsReactors
    {message : MessageView} {reaction : String} {devices : HashSet DeviceId}
    (shows : message.ShowsReactors reaction devices) :
    (message.reactions.getD reaction 0).toNat = shownCount devices.size ∧
      message.reactions[reaction]? ≠ some 0 := by
  rw [Std.ExtTreeMap.getD_eq_getD_getElem?, shows.count]
  by_cases isEmpty : devices = ∅
  · rw [if_pos isEmpty, isEmpty, Std.ExtTreeSet.size_empty]
    exact ⟨rfl, by simp⟩
  · rw [if_neg isEmpty]
    have positive : devices.size ≠ 0 :=
      fun none => isEmpty (Std.ExtTreeSet.eq_empty_iff_size_eq_zero.mpr none)
    refine ⟨reactionCount_toNat devices.size, ?_⟩
    intro zero
    have counted := reactionCount_toNat devices.size
    rw [Option.some.inj zero] at counted
    have zeroIsZero : (0 : UInt32).toNat = 0 := rfl
    omega

/-- In every reachable state the views agree with the access index, and every
reaction shows the number of reacting devices up to the largest number of 32
bits. -/
theorem views_agree
    (workspaceId : WorkspaceId) (history : List SignedEvent) (state : WorkspaceState)
    (reached : Reachable workspaceId history state) :
    ViewsAgree shownCount history state := by
  have views := reached.viewsMatch
  have records := reached.recordsMatch
  have ledger := reached.ledger
  exact
    { members := views.members
      channels := views.channels
      messages := records.messages
      personDeviceLinks := views.personDeviceLinks
      joinRequests := records.joinRequests
      inviteIds := by
        intro inviteId
        rw [mem_iff_exists_getElem?, mem_iff_exists_getElem?]
        exact exists_iff_of_rel (records.invites inviteId)
      invites := by
        intro inviteId view access isView isAccess
        have shows := records.invites inviteId
        rw [isView, isAccess, Option.rel_some_some] at shows
        exact ⟨shows.revoked, shows.invited⟩
      appliedEventIds := by
        intro eventId
        rw [ledger.mem_appliedEventIds, ledger.appliedEvents]
      reactionAuthors := by
        intro messageId message present reaction
        exact (reached.showsReactors messageId message present reaction).getD
      reactionCounts := by
        intro messageId message present reaction
        exact counts_of_showsReactors (reached.showsReactors messageId message present reaction) }

/-- The root says hello and a member waves at it. -/
theorem views_agree_greeting :
    ViewsAgree shownCount (helloHistory ++ [greeting])
      (stateAfter (helloHistory ++ [greeting])) :=
  views_agree ⟨"w"⟩ _ _ (stateAfter_reachable (by decide +kernel))

end WorkspaceState

/-! ## A crowd -/

/-- The last 40 binary digits of a number. -/
def binaryText (number : Nat) : String :=
  String.ofList ((List.range 40).map fun bit => if number.testBit bit then '1' else '0')

theorem binaryText_injective
    {left right : Nat} (leftSmall : left < 2 ^ 40) (rightSmall : right < 2 ^ 40)
    (same : binaryText left = binaryText right) :
    left = right := by
  have digits := congrArg String.toList same
  rw [binaryText, binaryText, String.toList_ofList, String.toList_ofList, List.map_inj_left]
    at digits
  apply Nat.eq_of_testBit_eq
  intro bit
  by_cases small : bit < 40
  · have sameDigit := digits bit (List.mem_range.mpr small)
    cases leftBit : left.testBit bit <;> cases rightBit : right.testBit bit <;>
      simp [leftBit, rightBit] at sameDigit ⊢
  · have large : 2 ^ 40 ≤ 2 ^ bit := Nat.pow_le_pow_right (by decide) (by omega)
    rw [Nat.testBit_lt_two_pow (leftSmall.trans_le large),
      Nat.testBit_lt_two_pow (rightSmall.trans_le large)]

theorem binaryText_utf8ByteSize (number : Nat) : (binaryText number).utf8ByteSize = 40 := by
  rw [binaryText, Text.utf8ByteSize_ofList, List.length_map, List.length_range]
  intro symbol member
  obtain ⟨bit, -, rfl⟩ := List.mem_map.mp member
  split <;> rfl

theorem binaryText_ne_root (number : Nat) : binaryText number ≠ "root" := by
  intro same
  have lengths := congrArg String.length same
  rw [binaryText, String.length_ofList, List.length_map, List.length_range] at lengths
  exact absurd lengths (by decide)

namespace WorkspaceState

/-- The root invites one more device. -/
def crowdInvitation (number : Nat) : SignedEvent :=
  draftEvent ("i" ++ binaryText number) "root" none []
    (.memberInvited ⟨binaryText number⟩ .member)

/-- The invited device waves at the root's message. -/
def crowdReaction (number : Nat) : SignedEvent :=
  draftEvent ("r" ++ binaryText number) (binaryText number) (some "general") []
    (.reactionAdded ⟨"hello"⟩ "wave")

def crowdHistory : Nat → List SignedEvent
  | 0 => helloHistory
  | devices + 1 => crowdHistory devices ++ [crowdInvitation devices] ++ [crowdReaction devices]

/-- The root can invite, and every member can react to its message. -/
structure Welcoming (index : WorkspaceAccessIndex) : Prop where
  workspaceId : index.workspaceId = ⟨"w"⟩
  rooted : index.rootSeen = true
  rootIsOwner : index.roles[(⟨"root"⟩ : DeviceId)]? = some .owner
  channel :
    ∃ channel, index.channels[(⟨"general"⟩ : ChannelId)]? = some channel ∧
      channel.isPrivate = false
  message :
    ∃ message, index.messages[(⟨"hello"⟩ : MessageId)]? = some message ∧
      message.channelId = ⟨"general"⟩

theorem Welcoming.invites
    {index : WorkspaceAccessIndex} (welcoming : Welcoming index) (number : Nat) :
    index.authorize (crowdInvitation number) = .ok () ∧
      Welcoming (index.applyAuthorized (crowdInvitation number)) ∧
        (index.applyAuthorized (crowdInvitation number)).roles[
            (⟨binaryText number⟩ : DeviceId)]? = some .member := by
  have size := binaryText_utf8ByteSize number
  have other : (⟨binaryText number⟩ : DeviceId) ≠ ⟨"root"⟩ :=
    fun same => binaryText_ne_root number (congrArg Identifier.text same)
  have body :
      (crowdInvitation number).event.body = .memberInvited ⟨binaryText number⟩ .member := rfl
  have author : (crowdInvitation number).event.authorDeviceId = ⟨"root"⟩ := rfl
  have idsFit : validateSignedEventIds (crowdInvitation number) = .ok () := by
    simp [validateSignedEventIds, crowdInvitation, draftEvent, validateEventBodyIds,
      validateWorkspaceIdSize, validateDeviceIdSize, validateEventIdSize, validateEventTextSize,
      validateEventPayloadSize, checkAll, String.utf8ByteSize_append]
    rw [size]
    decide
  have authorized : index.authorizeBody (crowdInvitation number) = .ok () := by
    simp only [WorkspaceAccessIndex.authorizeBody, body, author, bind_eq_ok_iff,
      WorkspaceAccessIndex.requireRootedMember_eq_ok_iff, WorkspaceAccessIndex.requireRoleOver_eq_ok_iff]
    exact ⟨.owner, ⟨welcoming.rooted, welcoming.rootIsOwner⟩, Or.inl rfl⟩
  refine ⟨?_, ?_, ?_⟩
  · rw [WorkspaceAccessIndex.authorize_eq_ok_iff]
    exact ⟨idsFit, welcoming.workspaceId.symm, by rw [body]; rfl, authorized⟩
  · exact
      { workspaceId := by
          rw [WorkspaceAccessIndex.applyAuthorized_workspaceId, welcoming.workspaceId]
        rooted := by
          rw [WorkspaceAccessIndex.applyAuthorized_rootSeen, WorkspaceAccessIndex.rootSeenAfter,
            body]
          exact welcoming.rooted
        rootIsOwner := by
          rw [WorkspaceAccessIndex.applyAuthorized_roles, WorkspaceAccessIndex.rolesAfter, body]
          simp only [Std.ExtTreeMap.getElem?_insert, Std.LawfulEqCmp.compare_eq_iff_eq, other,
            if_false]
          exact welcoming.rootIsOwner
        channel := by
          rw [WorkspaceAccessIndex.applyAuthorized_channels, WorkspaceAccessIndex.channelsAfter,
            body]
          exact welcoming.channel
        message := by
          rw [WorkspaceAccessIndex.applyAuthorized_messages]
          exact welcoming.message }
  · rw [WorkspaceAccessIndex.applyAuthorized_roles, WorkspaceAccessIndex.rolesAfter, body]
    exact Std.ExtTreeMap.getElem?_insert_self

theorem Welcoming.reacts
    {index : WorkspaceAccessIndex} (welcoming : Welcoming index) {number : Nat}
    (member : index.roles[(⟨binaryText number⟩ : DeviceId)]? = some .member) :
    index.authorize (crowdReaction number) = .ok () ∧
      Welcoming (index.applyAuthorized (crowdReaction number)) := by
  have size := binaryText_utf8ByteSize number
  have body : (crowdReaction number).event.body = .reactionAdded ⟨"hello"⟩ "wave" := rfl
  have author : (crowdReaction number).event.authorDeviceId = ⟨binaryText number⟩ := rfl
  have inChannel : (crowdReaction number).event.channelId = some ⟨"general"⟩ := rfl
  obtain ⟨channel, isChannel, isPublic⟩ := welcoming.channel
  obtain ⟨message, isMessage, inGeneral⟩ := welcoming.message
  have idsFit : validateSignedEventIds (crowdReaction number) = .ok () := by
    simp [validateSignedEventIds, crowdReaction, draftEvent, validateEventBodyIds,
      validateWorkspaceIdSize, validateChannelIdSize, validateDeviceIdSize, validateEventIdSize,
      validateMessageIdSize, validateEventTextSize, validateEventPayloadSize, checkAll,
      String.utf8ByteSize_append]
    rw [size]
    decide
  have authorized : index.authorizeBody (crowdReaction number) = .ok () := by
    simp only [WorkspaceAccessIndex.authorizeBody, body, author, bind_eq_ok_iff,
      WorkspaceAccessIndex.requireRootedMember_eq_ok_iff,
      WorkspaceAccessIndex.requireMessage_eq_ok_iff, requireEventChannel_eq_ok_iff,
      requireChannelMatch_eq_ok_iff, WorkspaceAccessIndex.requireChannelAccess_eq_ok_iff]
    exact ⟨.member, ⟨welcoming.rooted, member⟩, message, isMessage, ⟨"general"⟩, inChannel, (),
      inGeneral.symm, channel, by rw [inGeneral]; exact isChannel, Or.inl isPublic⟩
  refine ⟨?_, ?_⟩
  · rw [WorkspaceAccessIndex.authorize_eq_ok_iff]
    exact ⟨idsFit, welcoming.workspaceId.symm, by rw [body]; rfl, authorized⟩
  · exact
      { workspaceId := by
          rw [WorkspaceAccessIndex.applyAuthorized_workspaceId, welcoming.workspaceId]
        rooted := by
          rw [WorkspaceAccessIndex.applyAuthorized_rootSeen, WorkspaceAccessIndex.rootSeenAfter,
            body]
          exact welcoming.rooted
        rootIsOwner := by
          rw [WorkspaceAccessIndex.applyAuthorized_roles, WorkspaceAccessIndex.rolesAfter, body]
          exact welcoming.rootIsOwner
        channel := by
          rw [WorkspaceAccessIndex.applyAuthorized_channels, WorkspaceAccessIndex.channelsAfter,
            body]
          exact welcoming.channel
        message := by
          rw [WorkspaceAccessIndex.applyAuthorized_messages]
          exact welcoming.message }

/-- An event without parents is applied when it is authorized. -/
theorem Reachable.apply_of_authorized
    {history : List SignedEvent} {state : WorkspaceState} {event : SignedEvent}
    (reached : Reachable ⟨"w"⟩ history state) (inWorkspace : event.event.workspaceId = ⟨"w"⟩)
    (noParents : event.event.parents = [])
    (authorized : state.accessIndex.authorize event = .ok ()) :
    ∃ next, Reachable ⟨"w"⟩ (history ++ [event]) next ∧
      next.accessIndex = state.accessIndex.applyAuthorized event := by
  have sameWorkspace : event.event.workspaceId = state.workspaceId := by
    rw [inWorkspace, reached.ledger.ownWorkspace]
  obtain ⟨next, applied, -, -, -, indexAfter⟩ :=
    applyReadyEvent_of_authorized sameWorkspace authorized
  have noneMissing : state.unappliedParentIds event = [] := by
    rw [unappliedParentIds, noParents, List.filter_nil]
  exact ⟨next, reached.apply ((apply_eq_ok_iff _ _ _).mpr ⟨noneMissing, applied⟩), indexAfter⟩

theorem crowdHistory_reached (devices : Nat) :
    ∃ state, Reachable ⟨"w"⟩ (crowdHistory devices) state ∧ Welcoming state.accessIndex := by
  induction devices with
  | zero =>
      refine ⟨stateAfter helloHistory, stateAfter_reachable (by decide +kernel), ?_⟩
      exact
        { workspaceId := by decide +kernel
          rooted := by decide +kernel
          rootIsOwner := by decide +kernel
          channel := Option.map_eq_some_iff.mp (by decide +kernel)
          message := Option.map_eq_some_iff.mp (by decide +kernel) }
  | succ devices inductionHypothesis =>
      obtain ⟨state, reached, welcoming⟩ := inductionHypothesis
      obtain ⟨invites, stillWelcoming, isMember⟩ := welcoming.invites devices
      obtain ⟨invited, reachedInvited, indexInvited⟩ :=
        reached.apply_of_authorized rfl rfl invites
      rw [← indexInvited] at stillWelcoming isMember
      obtain ⟨reacts, finallyWelcoming⟩ := stillWelcoming.reacts isMember
      obtain ⟨reacted, reachedReacted, indexReacted⟩ :=
        reachedInvited.apply_of_authorized rfl rfl reacts
      rw [← indexReacted] at finallyWelcoming
      exact ⟨reacted, reachedReacted, finallyWelcoming⟩

/-- The reactors grow by one device. -/
theorem reactors_crowdHistory_succ (devices : Nat) :
    reactors ⟨"hello"⟩ "wave" (crowdHistory (devices + 1)) =
      (reactors ⟨"hello"⟩ "wave" (crowdHistory devices)).insert ⟨binaryText devices⟩ := by
  rw [crowdHistory, reactors_append, reactors_append]
  rfl

theorem mem_reactors_crowdHistory
    {devices : Nat} {deviceId : DeviceId}
    (reacts : deviceId ∈ reactors ⟨"hello"⟩ "wave" (crowdHistory devices)) :
    ∃ number < devices, deviceId = ⟨binaryText number⟩ := by
  induction devices with
  | zero =>
      have nobody : reactors ⟨"hello"⟩ "wave" helloHistory = ∅ := by decide +kernel
      rw [crowdHistory, nobody] at reacts
      simp at reacts
  | succ devices inductionHypothesis =>
      rw [reactors_crowdHistory_succ, Std.ExtTreeSet.mem_insert,
        Std.LawfulEqCmp.compare_eq_iff_eq] at reacts
      rcases reacts with isLast | earlier
      · exact ⟨devices, by omega, isLast.symm⟩
      · obtain ⟨number, before, same⟩ := inductionHypothesis earlier
        exact ⟨number, by omega, same⟩

theorem size_reactors_crowdHistory {devices : Nat} (small : devices ≤ 2 ^ 40) :
    (reactors ⟨"hello"⟩ "wave" (crowdHistory devices)).size = devices := by
  induction devices with
  | zero =>
      have nobody : reactors ⟨"hello"⟩ "wave" helloHistory = ∅ := by decide +kernel
      rw [crowdHistory, nobody]
      rfl
  | succ devices inductionHypothesis =>
      have isNew :
          (⟨binaryText devices⟩ : DeviceId) ∉
            reactors ⟨"hello"⟩ "wave" (crowdHistory devices) := by
        intro reacts
        obtain ⟨number, before, same⟩ := mem_reactors_crowdHistory reacts
        have sameNumber :=
          binaryText_injective (by omega) (by omega) (congrArg Identifier.text same)
        omega
      rw [reactors_crowdHistory_succ, Std.ExtTreeSet.size_insert]
      simp only [Std.ExtTreeSet.contains_iff_mem, isNew, if_false]
      rw [inductionHypothesis (by omega)]

/-- With `2 ^ 32` devices in the crowd the count is too small by one. -/
theorem views_not_agree_exactly :
    ¬ ∀ (workspaceId : WorkspaceId) (history : List SignedEvent) (state : WorkspaceState),
      Reachable workspaceId history state → ViewsAgree (fun devices => devices) history state := by
  intro agree
  obtain ⟨state, reached, welcoming⟩ := crowdHistory_reached (2 ^ 32)
  obtain ⟨access, present, -⟩ := welcoming.message
  have views := agree ⟨"w"⟩ (crowdHistory (2 ^ 32)) state reached
  have shown := views.messages ⟨"hello"⟩
  rw [present, Option.map_some, Option.map_eq_some_iff] at shown
  obtain ⟨message, isMessage, -⟩ := shown
  have counted := (views.reactionCounts ⟨"hello"⟩ message isMessage "wave").1
  have everyone :
      (reactors ⟨"hello"⟩ "wave" (crowdHistory (2 ^ 32))).size = 2 ^ 32 :=
    size_reactors_crowdHistory (by decide)
  rw [everyone] at counted
  have narrow := (message.reactions.getD "wave" 0).toNat_lt
  omega

end WorkspaceState

end Chaft
