import Chaft.Core.AccessIndex

/-!
# What authorization asks and what it writes

Authorization is read here as a list of conditions: each requirement of the
index gets the condition under which it passes.  Recording an accepted event
is read field by field: every field of the index after an event is a function
of the same field before it, except that the channel of an edit or reaction is
looked up among the messages.
-/

namespace Chaft

open Keyed Outcome

attribute [local simp] Unique.exists_iff

/-! ## Requirements as conditions -/

@[simp]
theorem requireRole_eq_ok_iff (role : WorkspaceRole) (action : Action) (done : Unit) :
    requireRole role action = .ok done ↔ action.AllowedFor role := by
  simp [requireRole]

@[simp]
theorem requireEventChannel_eq_ok_iff (event : SignedEvent) (channelId : ChannelId) :
    requireEventChannel event = .ok channelId ↔ event.event.channelId = some channelId := by
  simp [requireEventChannel]

@[simp]
theorem requireChannelMatch_eq_ok_iff (expected actual : ChannelId) (done : Unit) :
    requireChannelMatch expected actual = .ok done ↔ actual = expected := by
  simp [requireChannelMatch]

/-- A counter below a limit counts on. -/
theorem saturatingAdd_one_toNat
    {count limit : UInt32} (below : count < limit) :
    (saturatingAdd count 1).toNat = count.toNat + 1 := by
  have countBelow : count.toNat < limit.toNat := UInt32.lt_iff_toNat_lt.mp below
  have limitBelow : limit.toNat < UInt32.size := limit.toNat_lt_size
  have oneIsOne : (1 : UInt32).toNat = 1 := rfl
  have width : UInt32.size = 2 ^ 32 := rfl
  have fits : min (count.toNat + 1) (UInt32.size - 1) = count.toNat + 1 := by omega
  rw [saturatingAdd, oneIsOne, fits, UInt32.toNat_ofNat']
  exact Nat.mod_eq_of_lt (by omega)

namespace WorkspaceAccessIndex

variable (index : WorkspaceAccessIndex)

@[simp]
theorem requireChannel_eq_ok_iff (channelId : ChannelId) (channel : ChannelAccess) :
    index.requireChannel channelId = .ok channel ↔
      index.channels[channelId]? = some channel := by
  simp [requireChannel]

@[simp]
theorem requireChannelAccess_eq_ok_iff
    (channelId : ChannelId) (deviceId : DeviceId) (done : Unit) :
    index.requireChannelAccess channelId deviceId = .ok done ↔
      ∃ channel, index.channels[channelId]? = some channel ∧
        (channel.isPrivate = false ∨ deviceId ∈ channel.members) := by
  simp [requireChannelAccess]

@[simp]
theorem requireChannelMemberGrant_eq_ok_iff
    (channelId : ChannelId) (deviceId : DeviceId) (role : WorkspaceRole) (done : Unit) :
    index.requireChannelMemberGrant channelId deviceId role = .ok done ↔
      ∃ channel, index.channels[channelId]? = some channel ∧
        (channel.isPrivate = false ∨ channel.creatorDeviceId = deviceId ∨
          role.IsPrivileged) := by
  simp [requireChannelMemberGrant]

@[simp]
theorem requireWorkspaceOpenmlsCommitter_eq_ok_iff (deviceId : DeviceId) (done : Unit) :
    index.requireWorkspaceOpenmlsCommitter deviceId = .ok done ↔
      index.rootDeviceId = some deviceId := by
  simp [requireWorkspaceOpenmlsCommitter]

@[simp]
theorem requireChannelOpenmlsCommitter_eq_ok_iff
    (channelId : ChannelId) (deviceId : DeviceId) (done : Unit) :
    index.requireChannelOpenmlsCommitter channelId deviceId = .ok done ↔
      ∃ channel, index.channels[channelId]? = some channel ∧
        channel.creatorDeviceId = deviceId := by
  simp [requireChannelOpenmlsCommitter]

@[simp]
theorem requireMessage_eq_ok_iff (messageId : MessageId) (message : MessageAccess) :
    index.requireMessage messageId = .ok message ↔
      index.messages[messageId]? = some message := by
  simp [requireMessage]

@[simp]
theorem requireNewChannelId_eq_ok_iff (channelId : ChannelId) (done : Unit) :
    index.requireNewChannelId channelId = .ok done ↔ channelId ∉ index.channels := by
  simp [requireNewChannelId]

@[simp]
theorem requirePersonProfileUpdate_eq_ok_iff
    (personId : PersonId) (deviceId : DeviceId) (done : Unit) :
    index.requirePersonProfileUpdate personId deviceId = .ok done ↔
      index.personLinks[deviceId]? = some personId := by
  simp [requirePersonProfileUpdate]

theorem deviceLinkedTo_eq_none_iff (personId : PersonId) :
    index.deviceLinkedTo personId = none ↔
      ∀ deviceId : DeviceId, index.personLinks[deviceId]? ≠ some personId := by
  simp only [deviceLinkedTo, Option.map_eq_none_iff, List.find?_eq_none, Prod.forall,
    Std.ExtTreeMap.mem_toList_iff_getElem?_eq_some, decide_eq_true_eq]
  constructor
  · intro unlinked deviceId linked
    exact unlinked deviceId personId linked rfl
  · intro unlinked deviceId linkedPersonId linked same
    rw [same] at linked
    exact unlinked deviceId linked

/-- A link is new, or it repeats the one the device already has. -/
@[simp]
theorem requirePersonDeviceLink_eq_ok_iff
    (personId : PersonId) (deviceId authorDeviceId : DeviceId) (done : Unit) :
    index.requirePersonDeviceLink personId deviceId authorDeviceId = .ok done ↔
      deviceId = authorDeviceId ∧
        (index.personLinks[deviceId]? = some personId ∨
          index.personLinks[deviceId]? = none ∧
            ∀ other : DeviceId, index.personLinks[other]? ≠ some personId) := by
  cases existing : index.personLinks[deviceId]? with
  | some existingPersonId => simp [requirePersonDeviceLink, existing]
  | none =>
      rw [← deviceLinkedTo_eq_none_iff]
      cases linked : index.deviceLinkedTo personId <;>
        simp [requirePersonDeviceLink, existing, linked]

@[simp]
theorem requireRootedMember_eq_ok_iff (deviceId : DeviceId) (role : WorkspaceRole) :
    index.requireRootedMember deviceId = .ok role ↔
      index.rootSeen = true ∧ index.roles[deviceId]? = some role := by
  simp [requireRootedMember, roleFor]

@[simp]
theorem requireRoleOver_eq_ok_iff
    (authorRole target : WorkspaceRole) (action : Action) (done : Unit) :
    requireRoleOver authorRole target action = .ok done ↔
      if target.IsPrivileged then authorRole = .owner else action.AllowedFor authorRole := by
  unfold requireRoleOver
  split <;> simp [Action.AllowedFor]

theorem authorize_eq_ok_iff (event : SignedEvent) (done : Unit) :
    index.authorize event = .ok done ↔
      validateSignedEventIds event = .ok () ∧
        event.event.workspaceId = index.workspaceId ∧
          validateEventBodyPayloadSizes event.event.body = .ok () ∧
            index.authorizeBody event = .ok () := by
  simp [authorize]

theorem authorizeAndApply_eq_ok_iff (event : SignedEvent) (next : WorkspaceAccessIndex) :
    index.authorizeAndApply event = .ok next ↔
      index.authorize event = .ok () ∧ index.applyAuthorized event = next := by
  simp [authorizeAndApply]

theorem authorizeAndApply_eq_error_iff
    (event : SignedEvent) (raised : AuthorizationError) :
    index.authorizeAndApply event = .error raised ↔ index.authorize event = .error raised := by
  simp [authorizeAndApply]

/-- Any event but the creation of the workspace needs a rooted index in which
its author has a role. -/
theorem author_of_permitted
    {event : SignedEvent}
    (permitted : index.authorizeBody event = .ok ())
    (noRoot : ∀ name, event.event.body ≠ .workspaceCreated name) :
    index.rootSeen = true ∧
      ∃ role, index.roles[event.event.authorDeviceId]? = some role := by
  unfold authorizeBody at permitted
  cases body : event.event.body with
  | workspaceCreated name => exact absurd body (noRoot name)
  | _ =>
      simp only [body, bind_eq_ok_iff, requireRootedMember_eq_ok_iff] at permitted
      grind

/-! ## Fields after an event -/

def rolesAfter
    (roles : HashMap DeviceId WorkspaceRole) (event : SignedEvent) :
    HashMap DeviceId WorkspaceRole :=
  match event.event.body with
  | .workspaceCreated .. => roles.insert event.event.authorDeviceId .owner
  | .memberInvited inviteeDeviceId role => roles.insert inviteeDeviceId role
  | .memberRoleUpdated memberDeviceId role => roles.insert memberDeviceId role
  | .memberRemoved removedDeviceId => roles.erase removedDeviceId
  | _ => roles

def channelsAfter
    (channels : HashMap ChannelId ChannelAccess) (event : SignedEvent) :
    HashMap ChannelId ChannelAccess :=
  match event.event.body with
  | .memberRemoved removedDeviceId =>
      channels.map fun _ channel =>
        { channel with members := channel.members.erase removedDeviceId }
  | .channelCreated channelId _ isPrivate =>
      channels.insert channelId
        { isPrivate := isPrivate
          creatorDeviceId := event.event.authorDeviceId
          members :=
            if isPrivate then
              (∅ : HashSet DeviceId).insert event.event.authorDeviceId
            else
              ∅ }
  | .directMessageChannelCreated channelId _ participantDeviceIds =>
      channels.insert channelId
        { isPrivate := true
          creatorDeviceId := event.event.authorDeviceId
          members :=
            (Std.ExtTreeSet.ofList participantDeviceIds compare).insert
              event.event.authorDeviceId }
  | .channelMemberAdded channelId memberDeviceId =>
      channels.modify channelId fun channel =>
        { channel with members := channel.members.insert memberDeviceId }
  | .channelMemberRemoved channelId memberDeviceId =>
      channels.modify channelId fun channel =>
        { channel with members := channel.members.erase memberDeviceId }
  | _ => channels

/-- The message that a creation or reply event introduces. -/
def createdMessageId : EventBody → Option MessageId
  | .messageCreated messageId ..
  | .messageCreatedEncrypted messageId ..
  | .messageReplyCreated messageId ..
  | .messageReplyCreatedEncrypted messageId .. => some messageId
  | _ => none

def messagesAfter
    (messages : HashMap MessageId MessageAccess) (event : SignedEvent) :
    HashMap MessageId MessageAccess :=
  match createdMessageId event.event.body, event.event.channelId with
  | some messageId, some channelId =>
      messages.insert messageId
        { channelId := channelId
          authorDeviceId := some event.event.authorDeviceId }
  | _, _ => messages

/-- The channel that the index remembers for an event. -/
def recordedChannelId
    (messages : HashMap MessageId MessageAccess) (event : SignedEvent) : Option ChannelId :=
  match event.event.body with
  | .channelCreated channelId ..
  | .directMessageChannelCreated channelId ..
  | .channelDetailsUpdated channelId ..
  | .channelMemberAdded channelId _
  | .channelMemberRemoved channelId _
  | .openMlsChannelGroupMemberAdded channelId ..
  | .openMlsChannelGroupMemberRemoved channelId ..
  | .openMlsChannelGroupSelfUpdated channelId ..
  | .readMarkerUpdated channelId _ => some channelId
  | .contentKeyEpochPublished scope .. =>
      match scope with
      | .channel channelId => some channelId
      | .workspace => none
  | .messageCreated ..
  | .messageCreatedEncrypted ..
  | .messageReplyCreated ..
  | .messageReplyCreatedEncrypted .. => event.event.channelId
  | .messageEdited messageId ..
  | .messageEditedEncrypted messageId ..
  | .messageDeleted messageId
  | .reactionAdded messageId ..
  | .reactionRemoved messageId .. => messages[messageId]?.map MessageAccess.channelId
  | _ => none

def eventChannelsAfter
    (eventChannels : HashMap EventId ChannelId) (messages : HashMap MessageId MessageAccess)
    (event : SignedEvent) : HashMap EventId ChannelId :=
  match recordedChannelId messages event with
  | some channelId => eventChannels.insert event.eventId channelId
  | none => eventChannels

def personLinksAfter
    (personLinks : HashMap DeviceId PersonId) (event : SignedEvent) :
    HashMap DeviceId PersonId :=
  match event.event.body with
  | .memberRemoved removedDeviceId => personLinks.erase removedDeviceId
  | .personDeviceLinked personId deviceId => personLinks.insert deviceId personId
  | _ => personLinks

def invitesAfter
    (invites : HashMap String WorkspaceInviteAccess) (event : SignedEvent) :
    HashMap String WorkspaceInviteAccess :=
  match event.event.body with
  | .workspaceInviteRecorded inviteId inviteeDeviceId .. =>
      invites.insert inviteId
        { maxClaims := 1
          claimCount := 0
          revoked := false
          inviteeDeviceId := some inviteeDeviceId }
  | .workspaceInviteCapabilityCreated inviteId _ _ _ _ _ maxClaims =>
      invites.insert inviteId
        { maxClaims := effectiveWorkspaceInviteMaxClaims maxClaims
          claimCount := 0
          revoked := false
          inviteeDeviceId := none }
  | .workspaceInviteClaimed inviteId .. =>
      invites.modify inviteId fun invite =>
        { invite with claimCount := saturatingAdd invite.claimCount 1 }
  | .workspaceInviteResolved inviteId _ =>
      invites.modify inviteId fun invite => { invite with revoked := true }
  | _ => exhaustInvitesOf invites event

def joinRequestsAfter (joinRequests : HashSet String) (event : SignedEvent) : HashSet String :=
  match event.event.body with
  | .workspaceJoinRequestRecorded requestId .. => joinRequests.insert requestId
  | _ => joinRequests

def rootDeviceIdAfter
    (rootDeviceId : Option DeviceId) (event : SignedEvent) : Option DeviceId :=
  match event.event.body with
  | .workspaceCreated .. => some event.event.authorDeviceId
  | _ => rootDeviceId

def rootSeenAfter (rootSeen : Bool) (event : SignedEvent) : Bool :=
  match event.event.body with
  | .workspaceCreated .. => true
  | _ => rootSeen

section Effects

variable (event : SignedEvent)

@[simp]
theorem applyAuthorized_workspaceId :
    (index.applyAuthorized event).workspaceId = index.workspaceId := by
  unfold applyAuthorized applyBody
  cases event.event.body <;> (try dsimp only) <;> (repeat' split) <;> rfl

@[simp]
theorem applyAuthorized_roles :
    (index.applyAuthorized event).roles = rolesAfter index.roles event := by
  unfold applyAuthorized applyBody rolesAfter
  cases event.event.body <;> dsimp only <;> (repeat' split) <;> rfl

@[simp]
theorem applyAuthorized_channels :
    (index.applyAuthorized event).channels = channelsAfter index.channels event := by
  unfold applyAuthorized applyBody channelsAfter
  cases event.event.body <;> dsimp only <;> (repeat' split) <;> rfl

@[simp]
theorem applyAuthorized_messages :
    (index.applyAuthorized event).messages = messagesAfter index.messages event := by
  unfold applyAuthorized applyBody messagesAfter
  cases event.event.body <;> dsimp only [createdMessageId] <;> (repeat' split) <;>
    simp_all

@[simp]
theorem applyAuthorized_eventChannels :
    (index.applyAuthorized event).eventChannels =
      eventChannelsAfter index.eventChannels index.messages event := by
  unfold applyAuthorized applyBody eventChannelsAfter recordedChannelId
  cases event.event.body <;> dsimp only <;> (repeat' split) <;> simp_all

@[simp]
theorem applyAuthorized_personLinks :
    (index.applyAuthorized event).personLinks = personLinksAfter index.personLinks event := by
  unfold applyAuthorized applyBody personLinksAfter
  cases event.event.body <;> dsimp only <;> (repeat' split) <;> rfl

@[simp]
theorem applyAuthorized_invites :
    (index.applyAuthorized event).invites = invitesAfter index.invites event := by
  unfold applyAuthorized applyBody invitesAfter
  cases body : event.event.body <;> dsimp only <;> (repeat' split) <;>
    simp only [exhaustInvitesOf, managesInvites, body] <;> rfl

@[simp]
theorem applyAuthorized_joinRequests :
    (index.applyAuthorized event).joinRequests = joinRequestsAfter index.joinRequests event := by
  unfold applyAuthorized applyBody joinRequestsAfter
  cases event.event.body <;> dsimp only <;> (repeat' split) <;> rfl

@[simp]
theorem applyAuthorized_rootDeviceId :
    (index.applyAuthorized event).rootDeviceId = rootDeviceIdAfter index.rootDeviceId event := by
  unfold applyAuthorized applyBody rootDeviceIdAfter
  cases event.event.body <;> dsimp only <;> (repeat' split) <;> rfl

@[simp]
theorem applyAuthorized_rootSeen :
    (index.applyAuthorized event).rootSeen = rootSeenAfter index.rootSeen event := by
  unfold applyAuthorized applyBody rootSeenAfter
  cases event.event.body <;> dsimp only <;> (repeat' split) <;> rfl

end Effects

end WorkspaceAccessIndex

end Chaft
