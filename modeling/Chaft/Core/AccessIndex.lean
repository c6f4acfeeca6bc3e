import Chaft.Core.Validation

/-!
# The workspace access index

The index keeps what authorization consults: roles, channel membership,
message authors, the channel of each event, invites, join requests and person
links.  `authorize` decides one event against the index and
`applyAuthorized` records an accepted one.

Both functions are long matches over the event body.  The three checks that
precede the match of `authorize` do not depend on the index, so the match
itself is the separate `authorizeBody`.
-/

namespace Chaft

open Keyed Outcome

structure ChannelAccess where
  isPrivate : Bool
  creatorDeviceId : DeviceId
  members : HashSet DeviceId
  deriving DecidableEq

structure MessageAccess where
  channelId : ChannelId
  authorDeviceId : Option DeviceId
  deriving DecidableEq

structure WorkspaceInviteAccess where
  maxClaims : UInt32
  claimCount : UInt32
  revoked : Bool
  inviteeDeviceId : Option DeviceId
  deriving DecidableEq

structure WorkspaceAccessIndex where
  workspaceId : WorkspaceId
  roles : HashMap DeviceId WorkspaceRole
  channels : HashMap ChannelId ChannelAccess
  messages : HashMap MessageId MessageAccess
  eventChannels : HashMap EventId ChannelId
  invites : HashMap String WorkspaceInviteAccess
  joinRequests : HashSet String
  personLinks : HashMap DeviceId PersonId
  rootDeviceId : Option DeviceId
  rootSeen : Bool
  deriving DecidableEq

/-! ## Roles and actions -/

inductive Action where
  | managePrivilegedRoles
  | inviteMember
  | manageWorkspaceSettings
  | manageJoinRequests
  | updateMemberRole
  | removeMember
  | createChannel
  | rotateContentKey
  | manageOpenMlsGroup
  deriving DecidableEq, Repr

def Action.label : Action → String
  | .managePrivilegedRoles => "manage_privileged_roles"
  | .inviteMember => "invite_member"
  | .manageWorkspaceSettings => "manage_workspace_settings"
  | .manageJoinRequests => "manage_join_requests"
  | .updateMemberRole => "update_member_role"
  | .removeMember => "remove_member"
  | .createChannel => "create_channel"
  | .rotateContentKey => "rotate_content_key"
  | .manageOpenMlsGroup => "manage_openmls_group"

/-- The pattern `Owner | Admin`. -/
def WorkspaceRole.IsPrivileged (role : WorkspaceRole) : Prop :=
  role = .owner ∨ role = .admin

instance (role : WorkspaceRole) : Decidable role.IsPrivileged :=
  inferInstanceAs (Decidable (role = .owner ∨ role = .admin))

/-- The roles that may perform an action. -/
def Action.AllowedFor (role : WorkspaceRole) : Action → Prop
  | .managePrivilegedRoles => role = .owner
  | .createChannel => role = .owner ∨ role = .admin ∨ role = .member
  | .inviteMember
  | .manageWorkspaceSettings
  | .manageJoinRequests
  | .updateMemberRole
  | .removeMember
  | .rotateContentKey
  | .manageOpenMlsGroup => role.IsPrivileged

instance (role : WorkspaceRole) (action : Action) : Decidable (action.AllowedFor role) := by
  cases action <;> unfold Action.AllowedFor <;> infer_instance

def requireRole (role : WorkspaceRole) (action : Action) : Except AuthorizationError Unit :=
  ensure (action.AllowedFor role) (.insufficientRole role action.label)

def requireEventChannel (event : SignedEvent) : Except AuthorizationError ChannelId :=
  okOr event.event.channelId .missingChannelContext

/-- The comparison of an event's channel with the channel it should be in. -/
def requireChannelMatch (expected actual : ChannelId) : Except AuthorizationError Unit :=
  ensure (actual = expected) (.channelMismatch expected actual)

/-- `saturating_add` on 32-bit counters. -/
def saturatingAdd (left right : UInt32) : UInt32 :=
  UInt32.ofNat (min (left.toNat + right.toNat) (UInt32.size - 1))

namespace WorkspaceAccessIndex

def new (workspaceId : WorkspaceId) : WorkspaceAccessIndex where
  workspaceId := workspaceId
  roles := ∅
  channels := ∅
  messages := ∅
  eventChannels := ∅
  invites := ∅
  joinRequests := ∅
  personLinks := ∅
  rootDeviceId := none
  rootSeen := false

def roleFor (index : WorkspaceAccessIndex) (deviceId : DeviceId) : Option WorkspaceRole :=
  index.roles[deviceId]?

def channelAccessibleTo
    (index : WorkspaceAccessIndex) (channelId : ChannelId) (deviceId : DeviceId) : Bool :=
  if index.rootSeen = false ∨ deviceId ∉ index.roles then
    false
  else
    match index.channels[channelId]? with
    | some channel => !channel.isPrivate || decide (deviceId ∈ channel.members)
    | none => false

/-! ## Requirements -/

def requireChannel
    (index : WorkspaceAccessIndex) (channelId : ChannelId) :
    Except AuthorizationError ChannelAccess :=
  okOr index.channels[channelId]? (.channelNotFound channelId)

def requireChannelAccess
    (index : WorkspaceAccessIndex) (channelId : ChannelId) (deviceId : DeviceId) :
    Except AuthorizationError Unit := do
  let channel ← index.requireChannel channelId
  ensure (channel.isPrivate = false ∨ deviceId ∈ channel.members)
    (.privateChannelAccessDenied channelId deviceId)

def requireChannelMemberGrant
    (index : WorkspaceAccessIndex) (channelId : ChannelId) (deviceId : DeviceId)
    (role : WorkspaceRole) :
    Except AuthorizationError Unit := do
  let channel ← index.requireChannel channelId
  ensure (channel.isPrivate = false ∨ channel.creatorDeviceId = deviceId ∨
      role.IsPrivileged)
    (.channelMemberGrantDenied channelId deviceId)

def requireWorkspaceOpenmlsCommitter
    (index : WorkspaceAccessIndex) (deviceId : DeviceId) :
    Except AuthorizationError Unit := do
  let creatorDeviceId ← okOr index.rootDeviceId .missingWorkspaceRoot
  ensure (creatorDeviceId = deviceId)
    (.workspaceOpenMlsCommitterDenied deviceId creatorDeviceId)

def requireChannelOpenmlsCommitter
    (index : WorkspaceAccessIndex) (channelId : ChannelId) (deviceId : DeviceId) :
    Except AuthorizationError Unit := do
  let channel ← index.requireChannel channelId
  ensure (channel.creatorDeviceId = deviceId)
    (.channelOpenMlsCommitterDenied channelId deviceId channel.creatorDeviceId)

def requireMessage
    (index : WorkspaceAccessIndex) (messageId : MessageId) :
    Except AuthorizationError MessageAccess :=
  okOr index.messages[messageId]? (.messageNotFound messageId)

def requireNewChannelId
    (index : WorkspaceAccessIndex) (channelId : ChannelId) :
    Except AuthorizationError Unit :=
  ensure (channelId ∉ index.channels) (.channelAlreadyCreated channelId)

def requirePersonProfileUpdate
    (index : WorkspaceAccessIndex) (personId : PersonId) (deviceId : DeviceId) :
    Except AuthorizationError Unit :=
  ensure (index.personLinks[deviceId]? = some personId)
    (.personProfileUpdateDenied personId deviceId)

/-- Some device that holds a person; the source takes the first one its hash
table yields. -/
def deviceLinkedTo
    (index : WorkspaceAccessIndex) (personId : PersonId) : Option DeviceId :=
  (index.personLinks.toList.find? fun link => link.2 = personId).map Prod.fst

def requirePersonDeviceLink
    (index : WorkspaceAccessIndex) (personId : PersonId)
    (deviceId authorDeviceId : DeviceId) :
    Except AuthorizationError Unit := do
  ensure (deviceId = authorDeviceId) (.personDeviceLinkDenied authorDeviceId deviceId)
  match index.personLinks[deviceId]? with
  | some existingPersonId =>
      ensure (existingPersonId = personId)
        (.personDeviceAlreadyLinked deviceId existingPersonId personId)
  | none =>
      match index.deviceLinkedTo personId with
      | some existingDeviceId =>
          .error (.personAlreadyLinked personId existingDeviceId deviceId)
      | none => .ok ()

def requireRootedMember
    (index : WorkspaceAccessIndex) (deviceId : DeviceId) :
    Except AuthorizationError WorkspaceRole := do
  ensure (index.rootSeen = true) .missingWorkspaceRoot
  okOr (index.roleFor deviceId) (.notAMember deviceId)

/-! ## Authorization -/

/-- The role an author needs to give a role to a device, or to take one from
a device that has it. -/
def requireRoleOver
    (authorRole : WorkspaceRole) (target : WorkspaceRole) (action : Action) :
    Except AuthorizationError Unit :=
  if target.IsPrivileged then
    requireRole authorRole .managePrivilegedRoles
  else
    requireRole authorRole action

def authorizeBody
    (index : WorkspaceAccessIndex) (event : SignedEvent) :
    Except AuthorizationError Unit :=
  let author := event.event.authorDeviceId
  match event.event.body with
  | .workspaceCreated .. => ensure (index.rootSeen = false) .workspaceAlreadyCreated
  | .memberInvited _ role => do
      let authorRole ← index.requireRootedMember author
      requireRoleOver authorRole role .inviteMember
  | .memberRoleUpdated memberDeviceId role => do
      let authorRole ← index.requireRootedMember author
      let existingRole ← index.requireRootedMember memberDeviceId
      ensure (index.rootDeviceId ≠ some memberDeviceId)
        (.workspaceRootRoleCannotBeChanged memberDeviceId)
      if role.IsPrivileged ∨ existingRole.IsPrivileged then
        requireRole authorRole .managePrivilegedRoles
      else
        requireRole authorRole .updateMemberRole
  | .workspaceAccessPolicyUpdated .. => do
      let authorRole ← index.requireRootedMember author
      requireRole authorRole .manageWorkspaceSettings
  | .workspaceInviteRecorded _ _ _ role ..
  | .workspaceInviteCapabilityCreated _ _ role .. => do
      let authorRole ← index.requireRootedMember author
      requireRoleOver authorRole role .inviteMember
  | .workspaceInviteClaimed inviteId .. => do
      let authorRole ← index.requireRootedMember author
      requireRole authorRole .inviteMember
      let invite ← okOr index.invites[inviteId]? (.inviteNotFound inviteId)
      ensure (invite.revoked = false) (.inviteRevoked inviteId)
      ensure (invite.claimCount < invite.maxClaims) (.inviteExhausted inviteId)
  | .workspaceInviteResolved inviteId _ => do
      let authorRole ← index.requireRootedMember author
      requireRole authorRole .inviteMember
      ensure (inviteId ∈ index.invites) (.inviteNotFound inviteId)
  | .workspaceJoinRequestRecorded .. => do
      let authorRole ← index.requireRootedMember author
      requireRole authorRole .manageJoinRequests
  | .workspaceJoinRequestResolved requestId _ => do
      let authorRole ← index.requireRootedMember author
      requireRole authorRole .manageJoinRequests
      ensure (requestId ∈ index.joinRequests) (.joinRequestNotFound requestId)
  | .memberRemoved removedDeviceId => do
      let authorRole ← index.requireRootedMember author
      let removedRole ← index.requireRootedMember removedDeviceId
      ensure (index.rootDeviceId ≠ some removedDeviceId)
        (.workspaceRootCannotBeRemoved removedDeviceId)
      requireRoleOver authorRole removedRole .removeMember
  | .channelCreated channelId .. => do
      let authorRole ← index.requireRootedMember author
      requireRole authorRole .createChannel
      index.requireNewChannelId channelId
  | .directMessageChannelCreated channelId _ participantDeviceIds => do
      let authorRole ← index.requireRootedMember author
      requireRole authorRole .createChannel
      index.requireNewChannelId channelId
      ensure (participantDeviceIds.length = 2)
        (.eventItemCountTooLarge "direct message participants"
          participantDeviceIds.length 2)
      ensure (author ∈ participantDeviceIds)
        (.eventPayloadRequired "direct message author participant")
      checkAll (fun participantDeviceId => do
        let _ ← index.requireRootedMember participantDeviceId
        .ok ()) participantDeviceIds
  | .channelDetailsUpdated channelId .. => do
      let authorRole ← index.requireRootedMember author
      requireRole authorRole .createChannel
      index.requireChannelAccess channelId author
  | .deviceProfileUpdated .. => do
      let _ ← index.requireRootedMember author
      .ok ()
  | .personDeviceLinked personId deviceId => do
      let _ ← index.requireRootedMember author
      index.requirePersonDeviceLink personId deviceId author
  | .personProfileUpdated personId .. => do
      let _ ← index.requireRootedMember author
      index.requirePersonProfileUpdate personId author
  | .deviceKeyPackagePublished .. => do
      let _ ← index.requireRootedMember author
      .ok ()
  | .peerEndpointPublished .. => do
      let _ ← index.requireRootedMember author
      .ok ()
  | .openMlsWorkspaceGroupMemberAdded inviteeDeviceId .. => do
      index.requireWorkspaceOpenmlsCommitter author
      let authorRole ← index.requireRootedMember author
      let _ ← index.requireRootedMember inviteeDeviceId
      requireRole authorRole .manageOpenMlsGroup
  | .openMlsWorkspaceGroupMemberRemoved removedDeviceId .. => do
      index.requireWorkspaceOpenmlsCommitter author
      let authorRole ← index.requireRootedMember author
      let removedRole ← index.requireRootedMember removedDeviceId
      ensure (index.rootDeviceId ≠ some removedDeviceId)
        (.workspaceRootCannotBeRemoved removedDeviceId)
      requireRoleOver authorRole removedRole .manageOpenMlsGroup
  | .openMlsChannelGroupMemberAdded channelId inviteeDeviceId .. => do
      index.requireChannelOpenmlsCommitter channelId author
      let authorRole ← index.requireRootedMember author
      let _ ← index.requireRootedMember inviteeDeviceId
      let actualChannelId ← requireEventChannel event
      requireChannelMatch channelId actualChannelId
      index.requireChannelMemberGrant channelId author authorRole
      index.requireChannelAccess channelId inviteeDeviceId
  | .openMlsChannelGroupMemberRemoved channelId removedDeviceId .. => do
      index.requireChannelOpenmlsCommitter channelId author
      let authorRole ← index.requireRootedMember author
      let _ ← index.requireRootedMember removedDeviceId
      let actualChannelId ← requireEventChannel event
      requireChannelMatch channelId actualChannelId
      index.requireChannelMemberGrant channelId author authorRole
      index.requireChannelAccess channelId removedDeviceId
  | .openMlsWorkspaceGroupSelfUpdated .. => do
      index.requireWorkspaceOpenmlsCommitter author
      let _ ← index.requireRootedMember author
      .ok ()
  | .openMlsChannelGroupSelfUpdated channelId .. => do
      index.requireChannelOpenmlsCommitter channelId author
      let _ ← index.requireRootedMember author
      let actualChannelId ← requireEventChannel event
      requireChannelMatch channelId actualChannelId
      index.requireChannelAccess channelId author
  | .contentKeyEpochPublished scope .. => do
      let authorRole ← index.requireRootedMember author
      match scope with
      | .workspace => requireRole authorRole .rotateContentKey
      | .channel channelId => do
          let actualChannelId ← requireEventChannel event
          requireChannelMatch channelId actualChannelId
          index.requireChannelMemberGrant channelId author authorRole
  | .channelMemberAdded channelId memberDeviceId => do
      let authorRole ← index.requireRootedMember author
      let _ ← index.requireRootedMember memberDeviceId
      index.requireChannelMemberGrant channelId author authorRole
  | .channelMemberRemoved channelId memberDeviceId => do
      let authorRole ← index.requireRootedMember author
      let _ ← index.requireRootedMember memberDeviceId
      if author ≠ memberDeviceId then
        index.requireChannelMemberGrant channelId author authorRole
      index.requireChannelAccess channelId memberDeviceId
  | .messageCreated ..
  | .messageCreatedEncrypted .. => do
      let _ ← index.requireRootedMember author
      let channelId ← requireEventChannel event
      index.requireChannelAccess channelId author
  | .messageReplyCreated _ replyToMessageId ..
  | .messageReplyCreatedEncrypted _ replyToMessageId .. => do
      let _ ← index.requireRootedMember author
      let channelId ← requireEventChannel event
      index.requireChannelAccess channelId author
      let reply ← index.requireMessage replyToMessageId
      requireChannelMatch reply.channelId channelId
  | .messageEdited messageId ..
  | .messageEditedEncrypted messageId ..
  | .messageDeleted messageId => do
      let _ ← index.requireRootedMember author
      let message ← index.requireMessage messageId
      let actualChannelId ← requireEventChannel event
      requireChannelMatch message.channelId actualChannelId
      index.requireChannelAccess message.channelId author
      match message.authorDeviceId with
      | some authorDeviceId =>
          ensure (author = authorDeviceId)
            (.messageMutationDenied messageId author authorDeviceId)
      | none => .error (.messageAuthorUnknown messageId)
  | .reactionAdded messageId ..
  | .reactionRemoved messageId .. => do
      let _ ← index.requireRootedMember author
      let message ← index.requireMessage messageId
      let actualChannelId ← requireEventChannel event
      requireChannelMatch message.channelId actualChannelId
      index.requireChannelAccess message.channelId author
  | .readMarkerUpdated channelId eventId => do
      let _ ← index.requireRootedMember author
      let actualChannelId ← requireEventChannel event
      requireChannelMatch channelId actualChannelId
      index.requireChannelAccess channelId author
      let targetChannelId ← okOr index.eventChannels[eventId]? (.readMarkerTargetNotFound eventId)
      requireChannelMatch channelId targetChannelId

def authorize
    (index : WorkspaceAccessIndex) (event : SignedEvent) :
    Except AuthorizationError Unit := do
  validateSignedEventIds event
  ensure (event.event.workspaceId = index.workspaceId) .wrongWorkspace
  validateEventBodyPayloadSizes event.event.body
  index.authorizeBody event

/-! ## Recording an accepted event -/

/-- What an accepted body writes, apart from the exhaustion of targeted
invites. -/
def applyBody (index : WorkspaceAccessIndex) (event : SignedEvent) : WorkspaceAccessIndex :=
  let author := event.event.authorDeviceId
  let recordEventChannel (channelId : ChannelId) :=
    index.eventChannels.insert event.eventId channelId
  match event.event.body with
  | .workspaceCreated .. =>
      { index with
        rootSeen := true
        rootDeviceId := some author
        roles := index.roles.insert author .owner }
  | .memberInvited inviteeDeviceId role =>
      { index with roles := index.roles.insert inviteeDeviceId role }
  | .memberRoleUpdated memberDeviceId role =>
      { index with roles := index.roles.insert memberDeviceId role }
  | .workspaceInviteRecorded inviteId inviteeDeviceId .. =>
      { index with
        invites := index.invites.insert inviteId
          { maxClaims := 1
            claimCount := 0
            revoked := false
            inviteeDeviceId := some inviteeDeviceId } }
  | .workspaceInviteCapabilityCreated inviteId _ _ _ _ _ maxClaims =>
      { index with
        invites := index.invites.insert inviteId
          { maxClaims := effectiveWorkspaceInviteMaxClaims maxClaims
            claimCount := 0
            revoked := false
            inviteeDeviceId := none } }
  | .workspaceInviteClaimed inviteId .. =>
      { index with
        invites := index.invites.modify inviteId fun invite =>
          { invite with claimCount := saturatingAdd invite.claimCount 1 } }
  | .workspaceInviteResolved inviteId _ =>
      { index with
        invites := index.invites.modify inviteId fun invite =>
          { invite with revoked := true } }
  | .workspaceJoinRequestRecorded requestId .. =>
      { index with joinRequests := index.joinRequests.insert requestId }
  | .memberRemoved removedDeviceId =>
      { index with
        roles := index.roles.erase removedDeviceId
        personLinks := index.personLinks.erase removedDeviceId
        channels := index.channels.map fun _ channel =>
          { channel with members := channel.members.erase removedDeviceId } }
  | .channelCreated channelId _ isPrivate =>
      { index with
        channels := index.channels.insert channelId
          { isPrivate := isPrivate
            creatorDeviceId := author
            members := if isPrivate then (∅ : HashSet DeviceId).insert author else ∅ }
        eventChannels := recordEventChannel channelId }
  | .directMessageChannelCreated channelId _ participantDeviceIds =>
      { index with
        channels := index.channels.insert channelId
          { isPrivate := true
            creatorDeviceId := author
            members := (Std.ExtTreeSet.ofList participantDeviceIds compare).insert author }
        eventChannels := recordEventChannel channelId }
  | .channelDetailsUpdated channelId .. =>
      { index with eventChannels := recordEventChannel channelId }
  | .channelMemberAdded channelId memberDeviceId =>
      { index with
        channels := index.channels.modify channelId fun channel =>
          { channel with members := channel.members.insert memberDeviceId }
        eventChannels := recordEventChannel channelId }
  | .channelMemberRemoved channelId memberDeviceId =>
      { index with
        channels := index.channels.modify channelId fun channel =>
          { channel with members := channel.members.erase memberDeviceId }
        eventChannels := recordEventChannel channelId }
  | .workspaceAccessPolicyUpdated ..
  | .workspaceJoinRequestResolved ..
  | .deviceProfileUpdated ..
  | .personProfileUpdated ..
  | .deviceKeyPackagePublished ..
  | .peerEndpointPublished ..
  | .openMlsWorkspaceGroupMemberAdded ..
  | .openMlsWorkspaceGroupMemberRemoved ..
  | .openMlsWorkspaceGroupSelfUpdated .. => index
  | .personDeviceLinked personId deviceId =>
      { index with personLinks := index.personLinks.insert deviceId personId }
  | .openMlsChannelGroupMemberAdded channelId ..
  | .openMlsChannelGroupMemberRemoved channelId ..
  | .openMlsChannelGroupSelfUpdated channelId .. =>
      { index with eventChannels := recordEventChannel channelId }
  | .contentKeyEpochPublished scope .. =>
      match scope with
      | .channel channelId => { index with eventChannels := recordEventChannel channelId }
      | .workspace => index
  | .messageCreated messageId ..
  | .messageCreatedEncrypted messageId ..
  | .messageReplyCreated messageId ..
  | .messageReplyCreatedEncrypted messageId .. =>
      match event.event.channelId with
      | some channelId =>
          { index with
            messages := index.messages.insert messageId
              { channelId := channelId
                authorDeviceId := some author }
            eventChannels := recordEventChannel channelId }
      | none => index
  | .messageEdited messageId ..
  | .messageEditedEncrypted messageId ..
  | .messageDeleted messageId
  | .reactionAdded messageId ..
  | .reactionRemoved messageId .. =>
      match index.messages[messageId]? with
      | some message => { index with eventChannels := recordEventChannel message.channelId }
      | none => index
  | .readMarkerUpdated channelId _ =>
      { index with eventChannels := recordEventChannel channelId }

/-- The four bodies whose author does not count as an accepted invitee. -/
def managesInvites : EventBody → Bool
  | .workspaceInviteRecorded ..
  | .workspaceInviteCapabilityCreated ..
  | .workspaceInviteClaimed ..
  | .workspaceInviteResolved .. => true
  | _ => false

/-- Any other event of an invited device uses up the invites made for it. -/
def exhaustInvitesOf
    (invites : HashMap String WorkspaceInviteAccess) (event : SignedEvent) :
    HashMap String WorkspaceInviteAccess :=
  if managesInvites event.event.body then
    invites
  else
    invites.map fun _ invite =>
      if invite.inviteeDeviceId = some event.event.authorDeviceId then
        { invite with claimCount := invite.maxClaims }
      else
        invite

def applyAuthorized
    (index : WorkspaceAccessIndex) (event : SignedEvent) : WorkspaceAccessIndex :=
  let written := index.applyBody event
  { written with invites := exhaustInvitesOf written.invites event }

def authorizeAndApply
    (index : WorkspaceAccessIndex) (event : SignedEvent) :
    Except AuthorizationError WorkspaceAccessIndex := do
  index.authorize event
  .ok (index.applyAuthorized event)

end WorkspaceAccessIndex

end Chaft
