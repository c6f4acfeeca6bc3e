import Chaft.Core.AccessEffects
import Chaft.Library.Run

/-!
# References of the access index

What a reached index refers to, it knows: channel members and linked devices
have roles, and the channels of messages and remembered events exist.  No two
devices are linked to one person.
-/

namespace Chaft

open Keyed Outcome Transition

namespace WorkspaceAccessIndex

structure Coherent (index : WorkspaceAccessIndex) : Prop where
  membersKnown :
    ∀ (channelId : ChannelId) (channel : ChannelAccess),
      index.channels[channelId]? = some channel →
        ∀ deviceId ∈ channel.members, deviceId ∈ index.roles
  linksKnown : ∀ deviceId ∈ index.personLinks, deviceId ∈ index.roles
  linksApart :
    ∀ (first second : DeviceId) (personId : PersonId),
      index.personLinks[first]? = some personId → index.personLinks[second]? = some personId →
        first = second
  messagesKnown :
    ∀ (messageId : MessageId) (message : MessageAccess),
      index.messages[messageId]? = some message → message.channelId ∈ index.channels
  eventChannelsKnown :
    ∀ (eventId : EventId) (channelId : ChannelId),
      index.eventChannels[eventId]? = some channelId → channelId ∈ index.channels

theorem coherent_new (workspaceId : WorkspaceId) : (new workspaceId).Coherent where
  membersKnown := by simp [new]
  linksKnown := by simp [new]
  linksApart := by simp [new]
  messagesKnown := by simp [new]
  eventChannelsKnown := by simp [new]

section Steps

variable {index : WorkspaceAccessIndex} {event : SignedEvent}

/-- Only the removal of a device takes its role. -/
theorem mem_rolesAfter
    {deviceId : DeviceId} (known : deviceId ∈ index.roles)
    (notRemoved : event.event.body ≠ .memberRemoved deviceId) :
    deviceId ∈ rolesAfter index.roles event := by
  unfold rolesAfter
  split
  · exact Std.ExtTreeMap.mem_insert.mpr (Or.inr known)
  · exact Std.ExtTreeMap.mem_insert.mpr (Or.inr known)
  · exact Std.ExtTreeMap.mem_insert.mpr (Or.inr known)
  · rename_i removedDeviceId body
    rw [Std.ExtTreeMap.mem_erase]
    refine ⟨?_, known⟩
    intro compared
    rw [Std.LawfulEqCmp.compare_eq_iff_eq] at compared
    exact notRemoved (compared ▸ body)
  · exact known

/-- No event deletes a channel. -/
theorem mem_channelsAfter
    {channelId : ChannelId} (known : channelId ∈ index.channels) :
    channelId ∈ channelsAfter index.channels event := by
  unfold channelsAfter
  split
  · rw [Std.ExtTreeMap.mem_map]
    exact known
  · exact Std.ExtTreeMap.mem_insert.mpr (Or.inr known)
  · exact Std.ExtTreeMap.mem_insert.mpr (Or.inr known)
  · rw [Std.ExtTreeMap.mem_modify]
    exact known
  · rw [Std.ExtTreeMap.mem_modify]
    exact known
  · exact known

theorem Coherent.membersKnown_after
    (coherent : index.Coherent) (permitted : index.authorizeBody event = .ok ())
    {channelId : ChannelId} {channel : ChannelAccess}
    (present : (channelsAfter index.channels event)[channelId]? = some channel)
    {deviceId : DeviceId} (member : deviceId ∈ channel.members) :
    deviceId ∈ rolesAfter index.roles event := by
  have before := coherent.membersKnown channelId
  unfold authorizeBody at permitted
  unfold channelsAfter at present
  cases body : event.event.body with
  | memberRemoved removedDeviceId =>
      simp only [body, Std.ExtTreeMap.getElem?_map, Option.map_eq_some_iff] at present
      obtain ⟨earlier, wasPresent, rfl⟩ := present
      rw [Std.ExtTreeSet.mem_erase] at member
      apply mem_rolesAfter (before earlier wasPresent deviceId member.2)
      rw [body]
      rintro ⟨rfl⟩
      exact member.1 Std.ReflOrd.compare_self
  | channelCreated createdChannelId name isPrivate =>
      simp only [body, bind_eq_ok_iff, requireRootedMember_eq_ok_iff] at permitted
      obtain ⟨role, ⟨-, authorHas⟩, -⟩ := permitted
      simp only [body, Std.ExtTreeMap.getElem?_insert] at present
      apply mem_rolesAfter _ (by simp [body])
      split at present
      · rw [← Option.some.inj present] at member
        cases isPrivate with
        | true =>
            rw [if_pos rfl, Std.ExtTreeSet.mem_insert, Std.LawfulEqCmp.compare_eq_iff_eq] at member
            rcases member with isAuthor | impossible
            · rw [← isAuthor, mem_iff_exists_getElem?]
              exact ⟨role, authorHas⟩
            · simp at impossible
        | false => simp at member
      · exact before channel present deviceId member
  | directMessageChannelCreated createdChannelId name participantDeviceIds =>
      simp only [body, bind_eq_ok_iff, requireRootedMember_eq_ok_iff, checkAll_eq_ok_iff,
        ensure_eq_ok_iff] at permitted
      obtain ⟨role, ⟨-, authorHas⟩, -, -, -, -, -, -, -, authorListed, everyKnown⟩ := permitted
      simp only [body, Std.ExtTreeMap.getElem?_insert] at present
      apply mem_rolesAfter _ (by simp [body])
      split at present
      · rw [← Option.some.inj present, Std.ExtTreeSet.mem_insert,
          Std.LawfulEqCmp.compare_eq_iff_eq] at member
        have listed : deviceId ∈ participantDeviceIds := by
          rcases member with isAuthor | isListed
          · rw [← isAuthor]
            exact authorListed
          · simpa using isListed
        obtain ⟨participantRole, ⟨-, has⟩, -⟩ := everyKnown deviceId listed
        exact (mem_iff_exists_getElem? _ _).mpr ⟨participantRole, has⟩
      · exact before channel present deviceId member
  | channelMemberAdded changedChannelId memberDeviceId =>
      simp only [body, bind_eq_ok_iff, requireRootedMember_eq_ok_iff] at permitted
      obtain ⟨-, -, memberRole, ⟨-, memberHas⟩, -⟩ := permitted
      simp only [body, getElem?_modify_same] at present
      apply mem_rolesAfter _ (by simp [body])
      split at present
      · obtain ⟨earlier, wasPresent, rfl⟩ := Option.map_eq_some_iff.mp present
        rw [Std.ExtTreeSet.mem_insert, Std.LawfulEqCmp.compare_eq_iff_eq] at member
        rcases member with isAdded | wasMember
        · rw [← isAdded, mem_iff_exists_getElem?]
          exact ⟨memberRole, memberHas⟩
        · exact before earlier wasPresent deviceId wasMember
      · exact before channel present deviceId member
  | channelMemberRemoved changedChannelId memberDeviceId =>
      simp only [body, getElem?_modify_same] at present
      apply mem_rolesAfter _ (by simp [body])
      split at present
      · obtain ⟨earlier, wasPresent, rfl⟩ := Option.map_eq_some_iff.mp present
        exact before earlier wasPresent deviceId (Std.ExtTreeSet.mem_erase.mp member).2
      · exact before channel present deviceId member
  | _ =>
      simp only [body] at present
      exact mem_rolesAfter (before channel present deviceId member) (by simp [body])

theorem Coherent.linksKnown_after
    (coherent : index.Coherent) (permitted : index.authorizeBody event = .ok ())
    {deviceId : DeviceId} (linked : deviceId ∈ personLinksAfter index.personLinks event) :
    deviceId ∈ rolesAfter index.roles event := by
  unfold authorizeBody at permitted
  unfold personLinksAfter at linked
  cases body : event.event.body with
  | memberRemoved removedDeviceId =>
      simp only [body, Std.ExtTreeMap.mem_erase] at linked
      apply mem_rolesAfter (coherent.linksKnown deviceId linked.2)
      rw [body]
      rintro ⟨rfl⟩
      exact linked.1 Std.ReflOrd.compare_self
  | personDeviceLinked personId linkedDeviceId =>
      simp only [body, bind_eq_ok_iff, requireRootedMember_eq_ok_iff,
        requirePersonDeviceLink_eq_ok_iff] at permitted
      obtain ⟨role, ⟨-, authorHas⟩, isAuthor, -⟩ := permitted
      apply mem_rolesAfter _ (by simp [body])
      simp only [body, Std.ExtTreeMap.mem_insert, Std.LawfulEqCmp.compare_eq_iff_eq] at linked
      rcases linked with isLinked | wasLinked
      · rw [← isLinked, isAuthor, mem_iff_exists_getElem?]
        exact ⟨role, authorHas⟩
      · exact coherent.linksKnown deviceId wasLinked
  | _ =>
      simp only [body] at linked
      exact mem_rolesAfter (coherent.linksKnown deviceId linked) (by simp [body])

theorem Coherent.linksApart_after
    (coherent : index.Coherent) (permitted : index.authorizeBody event = .ok ())
    {first second : DeviceId} {personId : PersonId}
    (firstLinked : (personLinksAfter index.personLinks event)[first]? = some personId)
    (secondLinked : (personLinksAfter index.personLinks event)[second]? = some personId) :
    first = second := by
  have before := coherent.linksApart first second personId
  unfold authorizeBody at permitted
  unfold personLinksAfter at firstLinked secondLinked
  cases body : event.event.body with
  | memberRemoved removedDeviceId =>
      simp only [body, Std.ExtTreeMap.getElem?_erase] at firstLinked secondLinked
      split at firstLinked
      · cases firstLinked
      · split at secondLinked
        · cases secondLinked
        · exact before firstLinked secondLinked
  | personDeviceLinked linkedPersonId linkedDeviceId =>
      simp only [body, bind_eq_ok_iff, requirePersonDeviceLink_eq_ok_iff] at permitted
      obtain ⟨-, -, -, repeated⟩ := permitted
      simp only [body, Std.ExtTreeMap.getElem?_insert, Std.LawfulEqCmp.compare_eq_iff_eq]
        at firstLinked secondLinked
      have apart := coherent.linksApart linkedDeviceId
      grind
  | _ =>
      simp only [body] at firstLinked secondLinked
      exact before firstLinked secondLinked

/-- The channel in which a message is created exists. -/
theorem channel_of_createdMessage
    (permitted : index.authorizeBody event = .ok ())
    {messageId : MessageId} (creates : createdMessageId event.event.body = some messageId)
    {channelId : ChannelId} (inChannel : event.event.channelId = some channelId) :
    channelId ∈ index.channels := by
  rw [mem_iff_exists_getElem?]
  unfold authorizeBody at permitted
  unfold createdMessageId at creates
  split at creates
  case h_5 => cases creates
  all_goals
    rename_i body
    simp only [body, bind_eq_ok_iff, requireEventChannel_eq_ok_iff,
      requireChannelAccess_eq_ok_iff, inChannel] at permitted
    grind

theorem Coherent.messagesKnown_after
    (coherent : index.Coherent) (permitted : index.authorizeBody event = .ok ())
    {messageId : MessageId} {message : MessageAccess}
    (present : (messagesAfter index.messages event)[messageId]? = some message) :
    message.channelId ∈ channelsAfter index.channels event := by
  apply mem_channelsAfter
  unfold messagesAfter at present
  split at present
  · rename_i createdId channelId creates inChannel
    rw [Std.ExtTreeMap.getElem?_insert] at present
    split at present
    · rw [← Option.some.inj present]
      exact channel_of_createdMessage permitted creates inChannel
    · exact coherent.messagesKnown messageId message present
  · exact coherent.messagesKnown messageId message present

/-- The channel recorded for an event exists once the event is applied. -/
theorem Coherent.recordedChannelId_known
    (coherent : index.Coherent) (permitted : index.authorizeBody event = .ok ())
    {channelId : ChannelId} (recorded : recordedChannelId index.messages event = some channelId) :
    channelId ∈ channelsAfter index.channels event := by
  unfold recordedChannelId at recorded
  cases body : event.event.body with
  | channelCreated createdChannelId name isPrivate =>
      simp only [body, Option.some.injEq] at recorded
      simp only [channelsAfter, body, recorded]
      exact Std.ExtTreeMap.mem_insert_self
  | directMessageChannelCreated createdChannelId name participantDeviceIds =>
      simp only [body, Option.some.injEq] at recorded
      simp only [channelsAfter, body, recorded]
      exact Std.ExtTreeMap.mem_insert_self
  | messageCreated | messageCreatedEncrypted | messageReplyCreated
  | messageReplyCreatedEncrypted =>
      simp only [body] at recorded
      exact mem_channelsAfter
        (channel_of_createdMessage permitted (by rw [body]; rfl) recorded)
  | messageEdited | messageEditedEncrypted | messageDeleted | reactionAdded | reactionRemoved =>
      simp only [body, Option.map_eq_some_iff] at recorded
      obtain ⟨message, present, rfl⟩ := recorded
      exact mem_channelsAfter (coherent.messagesKnown _ message present)
  | contentKeyEpochPublished scope =>
      cases scope with
      | workspace => simp [body] at recorded
      | channel keyChannelId =>
          simp only [body, Option.some.injEq] at recorded
          apply mem_channelsAfter
          rw [mem_iff_exists_getElem?]
          simp only [authorizeBody, body, recorded, bind_eq_ok_iff,
            requireChannelMemberGrant_eq_ok_iff] at permitted
          grind
  | channelMemberRemoved changedChannelId memberDeviceId =>
      simp only [body, Option.some.injEq] at recorded
      apply mem_channelsAfter
      rw [mem_iff_exists_getElem?]
      simp only [authorizeBody, body, recorded, bind_eq_ok_iff] at permitted
      obtain ⟨authorRole, -, memberRole, -, rest⟩ := permitted
      have accessed : ∃ done, index.requireChannelAccess channelId memberDeviceId = .ok done := by
        split at rest
        · exact ⟨(), (bind_eq_ok_iff _ _ _).mp rest |>.choose_spec.2⟩
        · exact ⟨(), rest⟩
      simp only [requireChannelAccess_eq_ok_iff] at accessed
      grind
  | channelDetailsUpdated | channelMemberAdded | openMlsChannelGroupMemberAdded
  | openMlsChannelGroupMemberRemoved | openMlsChannelGroupSelfUpdated | readMarkerUpdated =>
      simp only [body, Option.some.injEq] at recorded
      apply mem_channelsAfter
      rw [mem_iff_exists_getElem?]
      simp only [authorizeBody, body, recorded, bind_eq_ok_iff,
        requireChannelMemberGrant_eq_ok_iff, requireChannelAccess_eq_ok_iff,
        requireChannelOpenmlsCommitter_eq_ok_iff] at permitted
      grind
  | _ => simp [body] at recorded

theorem Coherent.applyAuthorized
    (coherent : index.Coherent) (permitted : index.authorizeBody event = .ok ()) :
    (index.applyAuthorized event).Coherent where
  membersKnown := by
    intro channelId channel present deviceId member
    rw [applyAuthorized_channels] at present
    rw [applyAuthorized_roles]
    exact coherent.membersKnown_after permitted present member
  linksKnown := by
    intro deviceId linked
    rw [applyAuthorized_personLinks] at linked
    rw [applyAuthorized_roles]
    exact coherent.linksKnown_after permitted linked
  linksApart := by
    intro first second personId firstLinked secondLinked
    rw [applyAuthorized_personLinks] at firstLinked secondLinked
    exact coherent.linksApart_after permitted firstLinked secondLinked
  messagesKnown := by
    intro messageId message present
    rw [applyAuthorized_messages] at present
    rw [applyAuthorized_channels]
    exact coherent.messagesKnown_after permitted present
  eventChannelsKnown := by
    intro eventId channelId present
    rw [applyAuthorized_eventChannels] at present
    rw [applyAuthorized_channels]
    unfold eventChannelsAfter at present
    split at present
    · rename_i recordedId recorded
      rw [Std.ExtTreeMap.getElem?_insert] at present
      split at present
      · rw [← Option.some.inj present]
        exact coherent.recordedChannelId_known permitted recorded
      · exact mem_channelsAfter (coherent.eventChannelsKnown eventId channelId present)
    · exact mem_channelsAfter (coherent.eventChannelsKnown eventId channelId present)

end Steps

/-- Every reached index is coherent. -/
theorem coherent_of_reachable
    {workspaceId : WorkspaceId} {index : WorkspaceAccessIndex}
    (reached : Reachable authorizeAndApply (new workspaceId) index) :
    index.Coherent := by
  apply reached.invariant (coherent_new workspaceId)
  intro state event next coherent accepted
  rw [authorizeAndApply_eq_ok_iff, authorize_eq_ok_iff] at accepted
  obtain ⟨⟨-, -, -, permitted⟩, rfl⟩ := accepted
  exact coherent.applyAuthorized permitted

end WorkspaceAccessIndex

end Chaft
