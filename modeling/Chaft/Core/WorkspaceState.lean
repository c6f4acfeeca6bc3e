import Chaft.Core.AccessIndex

/-!
# Materialized workspace state

The views a replica shows to its user, next to the access index that decides
which events they may absorb.  `applyReadyEvent` authorizes one event, writes
the views and records the event as applied; `apply` first asks that all
parents of the event are applied.

A refusal leaves the state as it was.  Operations that change a state in place
return the state beside their result, so that what a failing call leaves
behind is part of the model.
-/

namespace Chaft

open Keyed Outcome

structure ChannelView where
  channelId : ChannelId
  name : String
  topic : String
  archived : Bool
  isPrivate : Bool
  memberDeviceIds : List DeviceId
  directMessage : Bool
  directMessageParticipantDeviceIds : List DeviceId
  deriving DecidableEq

structure MessageView where
  messageId : MessageId
  channelId : ChannelId
  authorEventId : EventId
  replyToMessageId : Option MessageId
  markdown : String
  sealedMarkdown : Option SealedPayload
  attachments : List AttachmentRef
  reactions : HashMap String UInt32
  reactionAuthors : HashMap String (HashSet DeviceId)
  deleted : Bool
  deriving DecidableEq

structure WorkspaceMemberView where
  deviceId : DeviceId
  role : WorkspaceRole
  membershipEventId : EventId
  deriving DecidableEq

structure DeviceProfileView where
  deviceId : DeviceId
  displayName : String
  avatarId : String
  updatedEventId : EventId
  deriving DecidableEq

structure PersonProfileView where
  personId : PersonId
  displayName : String
  avatarId : String
  updatedEventId : EventId
  updatedByDeviceId : DeviceId
  deriving DecidableEq

structure PersonDeviceLinkView where
  personId : PersonId
  deviceId : DeviceId
  linkedEventId : EventId
  deriving DecidableEq

structure DeviceKeyPackageView where
  deviceId : DeviceId
  keyPackageId : DeviceKeyPackageId
  protocol : String
  keyPackage : List UInt8
  publishedEventId : EventId
  physicalMs : Int64
  deriving DecidableEq

structure PeerEndpointView where
  deviceId : DeviceId
  endpointId : String
  endpoint : String
  transport : String
  isBackupPeer : Bool
  expiresAtMs : Option Int64
  replicaStorageClass : Option ReplicaStorageClass
  replicaRetentionHint : Option String
  publishedEventId : EventId
  physicalMs : Int64
  deriving DecidableEq

inductive WorkspaceInviteStatus where
  | invited
  | accepted
  | revoked
  deriving DecidableEq, Repr

structure WorkspaceInviteView where
  inviteId : String
  inviteeDeviceId : DeviceId
  displayName : String
  inviteeDisplayName : Option String
  inviteLabel : String
  role : WorkspaceRole
  requestId : Option String
  expiresAt : String
  approvalPolicy : String
  syncExpectation : String
  capabilityPublicKey : String
  maxClaims : UInt32
  claimCount : UInt32
  createdEventId : EventId
  createdByDeviceId : DeviceId
  createdPhysicalMs : Int64
  status : WorkspaceInviteStatus
  acceptedEventId : Option EventId
  acceptedPhysicalMs : Option Int64
  resolvedEventId : Option EventId
  resolvedByDeviceId : Option DeviceId
  resolvedPhysicalMs : Option Int64
  deriving DecidableEq

inductive WorkspaceJoinRequestStatus where
  | waiting
  | approved
  | declined
  | revoked
  deriving DecidableEq, Repr

structure WorkspaceJoinRequestView where
  requestId : String
  requesterDeviceId : DeviceId
  displayName : String
  note : String
  sourceType : String
  sourceInviteId : String
  sourceDisplayName : String
  sourceApprovalPolicy : String
  responsePeerEndpoint : String
  requestedEventId : EventId
  requestedByDeviceId : DeviceId
  requestedPhysicalMs : Int64
  status : WorkspaceJoinRequestStatus
  resolvedEventId : Option EventId
  resolvedByDeviceId : Option DeviceId
  resolvedPhysicalMs : Option Int64
  deriving DecidableEq

def joinRequestStatusForResolution :
    WorkspaceJoinRequestResolution → WorkspaceJoinRequestStatus
  | .approved => .approved
  | .declined => .declined
  | .revoked => .revoked

/-- The key `(DeviceId, String)` of a published peer endpoint. -/
structure PeerEndpointKey where
  deviceId : DeviceId
  endpointId : String
  deriving DecidableEq, Repr

namespace PeerEndpointKey

instance : Ord PeerEndpointKey :=
  ⟨compareLex (compareOn PeerEndpointKey.deviceId) (compareOn PeerEndpointKey.endpointId)⟩

instance : Std.TransOrd PeerEndpointKey :=
  inferInstanceAs (Std.TransCmp
    (compareLex (compareOn PeerEndpointKey.deviceId) (compareOn PeerEndpointKey.endpointId)))

instance : Std.LawfulEqOrd PeerEndpointKey where
  eq_of_compare := by
    intro left right same
    obtain ⟨sameDevice, sameEndpoint⟩ :
        compareOn PeerEndpointKey.deviceId left right = .eq ∧
          compareOn PeerEndpointKey.endpointId left right = .eq :=
      compareLex_eq_eq.mp same
    cases left
    cases right
    rw [PeerEndpointKey.mk.injEq]
    exact ⟨Std.LawfulEqOrd.eq_of_compare sameDevice,
      Std.LawfulEqOrd.eq_of_compare sameEndpoint⟩

end PeerEndpointKey

structure WorkspaceState where
  workspaceId : WorkspaceId
  name : Option String
  accessPolicy : WorkspaceAccessPolicy
  channels : HashMap ChannelId ChannelView
  messages : HashMap MessageId MessageView
  members : HashMap DeviceId WorkspaceMemberView
  profiles : HashMap DeviceId DeviceProfileView
  personProfiles : HashMap PersonId PersonProfileView
  personDeviceLinks : HashMap DeviceId PersonDeviceLinkView
  keyPackages : HashMap DeviceKeyPackageId DeviceKeyPackageView
  peerEndpoints : HashMap PeerEndpointKey PeerEndpointView
  invites : HashMap String WorkspaceInviteView
  joinRequests : HashMap String WorkspaceJoinRequestView
  readMarkers : HashMap DeviceId (HashMap ChannelId EventId)
  appliedEvents : List EventId
  appliedEventIds : HashSet EventId
  accessIndex : WorkspaceAccessIndex
  deriving DecidableEq

/-! ## Reactions of one message -/

namespace MessageView

def new
    (messageId : MessageId) (channelId : ChannelId) (authorEventId : EventId)
    (replyToMessageId : Option MessageId) (markdown : String)
    (sealedMarkdown : Option SealedPayload) (attachments : List AttachmentRef) :
    MessageView where
  messageId := messageId
  channelId := channelId
  authorEventId := authorEventId
  replyToMessageId := replyToMessageId
  markdown := markdown
  sealedMarkdown := sealedMarkdown
  attachments := attachments
  reactions := ∅
  reactionAuthors := ∅
  deleted := false

/-- Counts are 32 bits wide and saturate. -/
def setReactionCount
    (reactions : HashMap String UInt32) (reaction : String) (count : Nat) :
    HashMap String UInt32 :=
  reactions.insert reaction (UInt32.ofNat (min count (UInt32.size - 1)))

def addReaction
    (message : MessageView) (reaction : String) (authorDeviceId : DeviceId) : MessageView :=
  let authors := message.reactionAuthors.getD reaction ∅
  if authorDeviceId ∈ authors then
    { message with reactionAuthors := message.reactionAuthors.insert reaction authors }
  else
    let authors := authors.insert authorDeviceId
    { message with
      reactionAuthors := message.reactionAuthors.insert reaction authors
      reactions := setReactionCount message.reactions reaction authors.size }

def removeReaction
    (message : MessageView) (reaction : String) (authorDeviceId : DeviceId) : MessageView :=
  match message.reactionAuthors[reaction]? with
  | none => message
  | some authors =>
      if authorDeviceId ∉ authors then
        message
      else
        let authors := authors.erase authorDeviceId
        if authors.isEmpty then
          { message with
            reactionAuthors := message.reactionAuthors.erase reaction
            reactions := message.reactions.erase reaction }
        else
          { message with
            reactionAuthors := message.reactionAuthors.insert reaction authors
            reactions := setReactionCount message.reactions reaction authors.size }

end MessageView

namespace WorkspaceState

def new (workspaceId : WorkspaceId) : WorkspaceState where
  workspaceId := workspaceId
  name := none
  accessPolicy := .inviteOnly
  channels := ∅
  messages := ∅
  members := ∅
  profiles := ∅
  personProfiles := ∅
  personDeviceLinks := ∅
  keyPackages := ∅
  peerEndpoints := ∅
  invites := ∅
  joinRequests := ∅
  readMarkers := ∅
  appliedEvents := []
  appliedEventIds := ∅
  accessIndex := WorkspaceAccessIndex.new workspaceId

/-- The `missing_parent_ids` of a gap report, without the checks around it. -/
def unappliedParentIds (state : WorkspaceState) (signed : SignedEvent) : List EventId :=
  signed.event.parents.filter fun parentId => decide (parentId ∉ state.appliedEventIds)

def missingParentIds
    (state : WorkspaceState) (signed : SignedEvent) : Except CoreError (List EventId) := do
  (validateSignedEventIds signed).mapError .authorization
  ensure (signed.event.workspaceId = state.workspaceId) .wrongWorkspace
  .ok (state.unappliedParentIds signed)

def channelAccessibleTo
    (state : WorkspaceState) (channelId : ChannelId) (deviceId : DeviceId) : Bool :=
  state.accessIndex.channelAccessibleTo channelId deviceId

/-! ## Writing the views -/

/-- A waiting join request that an event approves. -/
def approveJoinRequest
    (request : WorkspaceJoinRequestView) (signed : SignedEvent) : WorkspaceJoinRequestView :=
  { request with
    status := .approved
    resolvedEventId := some signed.eventId
    resolvedByDeviceId := some signed.event.authorDeviceId
    resolvedPhysicalMs := some signed.event.timestamp.physicalMs }

def approveJoinRequestFromInvite
    (state : WorkspaceState) (requestId : String) (inviteeDeviceId : DeviceId)
    (signed : SignedEvent) : WorkspaceState :=
  { state with
    joinRequests := state.joinRequests.modify requestId fun request =>
      if request.requesterDeviceId = inviteeDeviceId ∧ request.status = .waiting then
        approveJoinRequest request signed
      else
        request }

def markInvitesAcceptedByEvent
    (state : WorkspaceState) (signed : SignedEvent) : WorkspaceState :=
  if WorkspaceAccessIndex.managesInvites signed.event.body then
    state
  else
    { state with
      invites := state.invites.map fun _ invite =>
        if invite.inviteeDeviceId = signed.event.authorDeviceId ∧
            invite.status = .invited ∧ invite.capabilityPublicKey.isEmpty then
          { invite with
            status := .accepted
            claimCount := invite.maxClaims
            acceptedEventId := some signed.eventId
            acceptedPhysicalMs := some signed.event.timestamp.physicalMs }
        else
          invite }

/-- The avatar of an updated profile: a blank one keeps the old avatar. -/
def updatedAvatarId (avatarId : String) (existing : Option String) : String :=
  if (Text.trim avatarId.toList).isEmpty then existing.getD "" else avatarId

/-- The message view that a creation or reply event stores. -/
def insertMessage
    (state : WorkspaceState) (signed : SignedEvent) (messageId : MessageId)
    (replyToMessageId : Option MessageId) (markdown : String)
    (sealedMarkdown : Option SealedPayload) (attachments : List AttachmentRef) :
    Except CoreError WorkspaceState := do
  let channelId ← okOr signed.event.channelId .missingChannel
  .ok { state with
    messages := state.messages.insert messageId
      (MessageView.new messageId channelId signed.eventId replyToMessageId markdown
        sealedMarkdown attachments) }

def modifyMessage
    (state : WorkspaceState) (messageId : MessageId) (change : MessageView → MessageView) :
    Except CoreError WorkspaceState :=
  .ok { state with messages := state.messages.modify messageId change }

/-- An invite of this workspace that carries a join request; the source takes
the first one its hash table yields. -/
def inviteForRequest
    (state : WorkspaceState) (requestId : String) (requesterDeviceId : DeviceId) :
    Option WorkspaceInviteView :=
  state.invites.values.find? fun invite =>
    invite.requestId = some requestId ∧ invite.inviteeDeviceId = requesterDeviceId

/-- The view changes of an authorized event. -/
def writeViews
    (state : WorkspaceState) (signed : SignedEvent) : Except CoreError WorkspaceState :=
  let author := signed.event.authorDeviceId
  let physicalMs := signed.event.timestamp.physicalMs
  match signed.event.body with
  | .workspaceCreated name =>
      .ok { state with
        name := some name
        members := state.members.insert author
          { deviceId := author
            role := .owner
            membershipEventId := signed.eventId } }
  | .memberInvited inviteeDeviceId role =>
      .ok { state with
        members := state.members.insert inviteeDeviceId
          { deviceId := inviteeDeviceId
            role := role
            membershipEventId := signed.eventId }
        joinRequests := state.joinRequests.map fun _ request =>
          if request.requesterDeviceId = inviteeDeviceId ∧ request.status = .waiting then
            approveJoinRequest request signed
          else
            request }
  | .memberRoleUpdated memberDeviceId role =>
      .ok { state with
        members := state.members.modify memberDeviceId fun member =>
          { member with
            role := role
            membershipEventId := signed.eventId } }
  | .workspaceAccessPolicyUpdated policy => .ok { state with accessPolicy := policy }
  | .workspaceInviteRecorded inviteId inviteeDeviceId displayName role requestId expiresAt
      approvalPolicy syncExpectation =>
      let recorded : WorkspaceState :=
        { state with
          invites := state.invites.insert inviteId
            { inviteId := inviteId
              inviteeDeviceId := inviteeDeviceId
              displayName := displayName
              inviteeDisplayName :=
                if (Text.trim displayName.toList).isEmpty then none else some displayName
              inviteLabel := ""
              role := role
              requestId := requestId
              expiresAt := expiresAt
              approvalPolicy := approvalPolicy
              syncExpectation := syncExpectation
              capabilityPublicKey := ""
              maxClaims := 1
              claimCount := 0
              createdEventId := signed.eventId
              createdByDeviceId := author
              createdPhysicalMs := physicalMs
              status := .invited
              acceptedEventId := none
              acceptedPhysicalMs := none
              resolvedEventId := none
              resolvedByDeviceId := none
              resolvedPhysicalMs := none } }
      match requestId with
      | some requestId =>
          .ok (recorded.approveJoinRequestFromInvite requestId inviteeDeviceId signed)
      | none => .ok recorded
  | .workspaceInviteCapabilityCreated inviteId displayName role expiresAt
      capabilityPublicKey syncExpectation maxClaims =>
      .ok { state with
        invites := state.invites.insert inviteId
          { inviteId := inviteId
            inviteeDeviceId := ⟨""⟩
            displayName := displayName
            inviteeDisplayName := none
            inviteLabel := displayName
            role := role
            requestId := none
            expiresAt := expiresAt
            approvalPolicy := "preapproved"
            syncExpectation := syncExpectation
            capabilityPublicKey := capabilityPublicKey
            maxClaims := effectiveWorkspaceInviteMaxClaims maxClaims
            claimCount := 0
            createdEventId := signed.eventId
            createdByDeviceId := author
            createdPhysicalMs := physicalMs
            status := .invited
            acceptedEventId := none
            acceptedPhysicalMs := none
            resolvedEventId := none
            resolvedByDeviceId := none
            resolvedPhysicalMs := none } }
  | .workspaceInviteClaimed inviteId inviteeDeviceId requestId =>
      let claimed : WorkspaceState :=
        { state with
          invites := state.invites.modify inviteId fun invite =>
            let counted : WorkspaceInviteView :=
              { invite with
                inviteeDeviceId := inviteeDeviceId
                requestId := some requestId
                claimCount := saturatingAdd invite.claimCount 1 }
            if counted.maxClaims ≤ counted.claimCount then
              { counted with
                status := .accepted
                acceptedEventId := some signed.eventId
                acceptedPhysicalMs := some physicalMs
                resolvedEventId := some signed.eventId
                resolvedByDeviceId := some author
                resolvedPhysicalMs := some physicalMs }
            else
              counted }
      .ok (claimed.approveJoinRequestFromInvite requestId inviteeDeviceId signed)
  | .workspaceInviteResolved inviteId resolution =>
      .ok { state with
        invites := state.invites.modify inviteId fun invite =>
          { invite with
            status := match resolution with
              | .revoked => .revoked
            resolvedEventId := some signed.eventId
            resolvedByDeviceId := some author
            resolvedPhysicalMs := some physicalMs } }
  | .workspaceJoinRequestRecorded requestId requesterDeviceId displayName note sourceType
      sourceInviteId sourceDisplayName sourceApprovalPolicy responsePeerEndpoint =>
      let existingMember := state.members[requesterDeviceId]?
      let existingInvite := state.inviteForRequest requestId requesterDeviceId
      .ok { state with
        joinRequests := state.joinRequests.insert requestId
          { requestId := requestId
            requesterDeviceId := requesterDeviceId
            displayName := displayName
            note := note
            sourceType := sourceType
            sourceInviteId := sourceInviteId
            sourceDisplayName := sourceDisplayName
            sourceApprovalPolicy := sourceApprovalPolicy
            responsePeerEndpoint := responsePeerEndpoint
            requestedEventId := signed.eventId
            requestedByDeviceId := author
            requestedPhysicalMs := physicalMs
            status :=
              if existingMember.isSome || existingInvite.isSome then .approved else .waiting
            resolvedEventId :=
              (existingMember.map WorkspaceMemberView.membershipEventId).or
                (existingInvite.map WorkspaceInviteView.createdEventId)
            resolvedByDeviceId := existingInvite.map WorkspaceInviteView.createdByDeviceId
            resolvedPhysicalMs := existingInvite.map WorkspaceInviteView.createdPhysicalMs } }
  | .workspaceJoinRequestResolved requestId resolution =>
      .ok { state with
        joinRequests := state.joinRequests.modify requestId fun request =>
          { request with
            status := joinRequestStatusForResolution resolution
            resolvedEventId := some signed.eventId
            resolvedByDeviceId := some author
            resolvedPhysicalMs := some physicalMs } }
  | .memberRemoved removedDeviceId =>
      .ok { state with
        members := state.members.erase removedDeviceId
        personDeviceLinks := state.personDeviceLinks.erase removedDeviceId
        channels := state.channels.map fun _ channel =>
          { channel with
            memberDeviceIds :=
              channel.memberDeviceIds.filter fun deviceId => decide (deviceId ≠ removedDeviceId) } }
  | .channelCreated channelId name isPrivate =>
      .ok { state with
        channels := state.channels.insert channelId
          { channelId := channelId
            name := name
            topic := ""
            archived := false
            isPrivate := isPrivate
            memberDeviceIds := if isPrivate then [author] else []
            directMessage := false
            directMessageParticipantDeviceIds := [] } }
  | .directMessageChannelCreated channelId name participantDeviceIds =>
      let memberDeviceIds :=
        if author ∈ participantDeviceIds then
          participantDeviceIds
        else
          participantDeviceIds ++ [author]
      .ok { state with
        channels := state.channels.insert channelId
          { channelId := channelId
            name := name
            topic := ""
            archived := false
            isPrivate := true
            memberDeviceIds := sortedListing Identifier.le memberDeviceIds
            directMessage := true
            directMessageParticipantDeviceIds := participantDeviceIds } }
  | .channelDetailsUpdated channelId name topic archived =>
      .ok { state with
        channels := state.channels.modify channelId fun channel =>
          { channel with
            name := name.getD channel.name
            topic := topic.getD channel.topic
            archived := archived.getD channel.archived } }
  | .deviceProfileUpdated displayName avatarId =>
      .ok { state with
        profiles := state.profiles.insert author
          { deviceId := author
            displayName := displayName
            avatarId :=
              updatedAvatarId avatarId (state.profiles[author]?.map DeviceProfileView.avatarId)
            updatedEventId := signed.eventId } }
  | .personDeviceLinked personId deviceId =>
      .ok { state with
        personDeviceLinks := state.personDeviceLinks.insert deviceId
          { personId := personId
            deviceId := deviceId
            linkedEventId := signed.eventId } }
  | .personProfileUpdated personId displayName avatarId =>
      .ok { state with
        personProfiles := state.personProfiles.insert personId
          { personId := personId
            displayName := displayName
            avatarId :=
              updatedAvatarId avatarId
                (state.personProfiles[personId]?.map PersonProfileView.avatarId)
            updatedEventId := signed.eventId
            updatedByDeviceId := author } }
  | .deviceKeyPackagePublished keyPackageId protocol keyPackage =>
      .ok { state with
        keyPackages := state.keyPackages.insert keyPackageId
          { deviceId := author
            keyPackageId := keyPackageId
            protocol := protocol
            keyPackage := keyPackage
            publishedEventId := signed.eventId
            physicalMs := physicalMs } }
  | .peerEndpointPublished endpointId endpoint transport isBackupPeer expiresAtMs
      replicaStorageClass replicaRetentionHint =>
      .ok { state with
        peerEndpoints := state.peerEndpoints.insert ⟨author, endpointId⟩
          { deviceId := author
            endpointId := endpointId
            endpoint := endpoint
            transport := transport
            isBackupPeer := isBackupPeer
            expiresAtMs := expiresAtMs
            replicaStorageClass := replicaStorageClass
            replicaRetentionHint := replicaRetentionHint
            publishedEventId := signed.eventId
            physicalMs := physicalMs } }
  | .openMlsWorkspaceGroupMemberAdded ..
  | .openMlsWorkspaceGroupMemberRemoved ..
  | .openMlsChannelGroupMemberAdded ..
  | .openMlsChannelGroupMemberRemoved ..
  | .openMlsWorkspaceGroupSelfUpdated ..
  | .openMlsChannelGroupSelfUpdated ..
  | .contentKeyEpochPublished .. => .ok state
  | .messageCreated messageId markdown attachments =>
      state.insertMessage signed messageId none markdown none attachments
  | .messageReplyCreated messageId replyToMessageId markdown attachments =>
      state.insertMessage signed messageId (some replyToMessageId) markdown none attachments
  | .messageCreatedEncrypted messageId sealedMarkdown attachments =>
      state.insertMessage signed messageId none "" (some sealedMarkdown) attachments
  | .messageReplyCreatedEncrypted messageId replyToMessageId sealedMarkdown attachments =>
      state.insertMessage signed messageId (some replyToMessageId) "" (some sealedMarkdown)
        attachments
  | .messageEdited messageId markdown =>
      state.modifyMessage messageId fun message =>
        { message with markdown := markdown, sealedMarkdown := none }
  | .messageEditedEncrypted messageId sealedMarkdown =>
      state.modifyMessage messageId fun message =>
        { message with markdown := "", sealedMarkdown := some sealedMarkdown }
  | .messageDeleted messageId =>
      state.modifyMessage messageId fun message => { message with deleted := true }
  | .reactionAdded messageId reaction =>
      state.modifyMessage messageId fun message => message.addReaction reaction author
  | .reactionRemoved messageId reaction =>
      state.modifyMessage messageId fun message => message.removeReaction reaction author
  | .readMarkerUpdated channelId eventId =>
      .ok { state with
        readMarkers := state.readMarkers.insert author
          ((state.readMarkers.getD author ∅).insert channelId eventId) }
  | .channelMemberAdded channelId memberDeviceId =>
      .ok { state with
        channels := state.channels.modify channelId fun channel =>
          if memberDeviceId ∈ channel.memberDeviceIds then
            channel
          else
            { channel with
              memberDeviceIds :=
                (channel.memberDeviceIds ++ [memberDeviceId]).insertionSort Identifier.le } }
  | .channelMemberRemoved channelId memberDeviceId =>
      .ok { state with
        channels := state.channels.modify channelId fun channel =>
          { channel with
            memberDeviceIds :=
              channel.memberDeviceIds.filter fun deviceId => decide (deviceId ≠ memberDeviceId) } }

def recordApplied (state : WorkspaceState) (signed : SignedEvent) : WorkspaceState :=
  { state with
    appliedEvents := state.appliedEvents ++ [signed.eventId]
    appliedEventIds := state.appliedEventIds.insert signed.eventId }

/-! ## Applying one event -/

def applyReadyEvent
    (state : WorkspaceState) (signed : SignedEvent) :
    Except CoreError Unit × WorkspaceState :=
  if signed.event.workspaceId ≠ state.workspaceId then
    (.error .wrongWorkspace, state)
  else
    match state.accessIndex.authorizeAndApply signed with
    | .error refusal => (.error (.authorization refusal), state)
    | .ok accessIndex =>
        let marked := markInvitesAcceptedByEvent { state with accessIndex := accessIndex } signed
        match marked.writeViews signed with
        | .error raised => (.error raised, marked)
        | .ok written => (.ok (), written.recordApplied signed)

def apply
    (state : WorkspaceState) (signed : SignedEvent) :
    Except CoreError Unit × WorkspaceState :=
  match state.missingParentIds signed with
  | .error raised => (.error raised, state)
  | .ok (missing :: others) =>
      (.error (.missingParents signed.eventId (missing :: others)), state)
  | .ok [] => state.applyReadyEvent signed

end WorkspaceState

end Chaft
