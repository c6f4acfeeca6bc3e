import Chaft.Core.RoleProtection

/-!
# Private channels and outsiders

An outsider of a private channel is neither its creator nor one of its
members, and is no owner or admin.  Nothing that outsiders sign changes the
record of the channel: creations need a fresh channel ID, grants need the
creator or a privileged role, and leaving a channel needs access to it.
-/

namespace Chaft

open Keyed Outcome Transition

namespace WorkspaceAccessIndex

/-- Neither member nor creator of the channel, and neither owner nor admin. -/
def IsOutsider
    (index : WorkspaceAccessIndex) (channel : ChannelAccess) (deviceId : DeviceId) : Prop :=
  deviceId ∉ channel.members ∧ channel.creatorDeviceId ≠ deviceId ∧
    ∀ role, index.roles[deviceId]? = some role → ¬ role.IsPrivileged

section Steps

variable {index : WorkspaceAccessIndex} {event : SignedEvent} {channelId : ChannelId}
  {channel : ChannelAccess}

/-- An accepted event of an outsider leaves a private channel as it was. -/
theorem channel_of_permitted_outsider
    (permitted : index.authorizeBody event = .ok ())
    (present : index.channels[channelId]? = some channel)
    (isPrivate : channel.isPrivate = true)
    (outsider : index.IsOutsider channel event.event.authorDeviceId) :
    (channelsAfter index.channels event)[channelId]? = some channel := by
  obtain ⟨notMember, notCreator, unprivileged⟩ := outsider
  unfold authorizeBody at permitted
  cases body : event.event.body with
  | memberRemoved removedDeviceId =>
      simp only [body, bind_eq_ok_iff, requireRootedMember_eq_ok_iff,
        requireRoleOver_eq_ok_iff] at permitted
      obtain ⟨authorRole, ⟨-, authorHas⟩, existing, -, -, -, allowed⟩ := permitted
      have notPrivileged := unprivileged authorRole authorHas
      grind [Action.AllowedFor, WorkspaceRole.IsPrivileged]
  | channelCreated created name createdPrivate =>
      simp only [body, bind_eq_ok_iff, requireNewChannelId_eq_ok_iff] at permitted
      obtain ⟨-, -, -, -, fresh⟩ := permitted
      simp only [channelsAfter, body]
      grind
  | directMessageChannelCreated created name participantDeviceIds =>
      simp only [body, bind_eq_ok_iff, requireNewChannelId_eq_ok_iff] at permitted
      obtain ⟨-, -, -, -, -, fresh, -⟩ := permitted
      simp only [channelsAfter, body]
      grind
  | channelMemberAdded changed memberDeviceId =>
      simp only [body, bind_eq_ok_iff, requireRootedMember_eq_ok_iff,
        requireChannelMemberGrant_eq_ok_iff] at permitted
      obtain ⟨authorRole, ⟨-, authorHas⟩, -, -, granted, grantedPresent, grant⟩ := permitted
      have notPrivileged := unprivileged authorRole authorHas
      simp only [channelsAfter, body, getElem?_modify_same]
      grind
  | channelMemberRemoved changed memberDeviceId =>
      simp only [body, bind_eq_ok_iff, requireRootedMember_eq_ok_iff] at permitted
      obtain ⟨authorRole, ⟨-, authorHas⟩, -, -, rest⟩ := permitted
      have notPrivileged := unprivileged authorRole authorHas
      simp only [channelsAfter, body, getElem?_modify_same]
      -- removing another device needs a grant, leaving needs access
      split at rest
      · rw [bind_eq_ok_iff] at rest
        obtain ⟨_, granted, _⟩ := rest
        rw [requireChannelMemberGrant_eq_ok_iff] at granted
        grind
      · rw [requireChannelAccess_eq_ok_iff] at rest
        grind
  | _ => simpa [channelsAfter, body] using present

end Steps

/-- Outsiders of a private channel never get in: after any events they sign the
channel has the same creator and members, is still private, and is closed to
each of them. -/
theorem private_channel_closed_to_outsiders
    (workspaceId : WorkspaceId) (index : WorkspaceAccessIndex)
    (reached : Reachable authorizeAndApply (new workspaceId) index)
    (channelId : ChannelId) (channel : ChannelAccess)
    (present : index.channels[channelId]? = some channel)
    (isPrivate : channel.isPrivate = true) (coalition : Set DeviceId)
    (outsiders : ∀ deviceId ∈ coalition, index.IsOutsider channel deviceId)
    (events : List SignedEvent)
    (byCoalition : ∀ event ∈ events, event.event.authorDeviceId ∈ coalition) :
    (∃ channelAfter,
        (runSkipping authorizeAndApply index events).channels[channelId]? =
            some channelAfter ∧
          channelAfter.creatorDeviceId = channel.creatorDeviceId ∧
            channelAfter.isPrivate = true ∧ channelAfter.members = channel.members) ∧
      ∀ deviceId ∈ coalition,
        (runSkipping authorizeAndApply index events).channelAccessibleTo channelId
          deviceId = false := by
  have rooted : index.rootSeen = true := by
    rcases rooted_or_new reached with isNew | isRooted
    · simp [isNew, new] at present
    · exact isRooted
  have unprivileged :
      ∀ deviceId ∈ coalition, ∀ role,
        index.roles[deviceId]? = some role → ¬ role.IsPrivileged :=
    fun deviceId member => (outsiders deviceId member).2.2
  have kept :
      (runSkipping authorizeAndApply index events).roles = index.roles ∧
        (runSkipping authorizeAndApply index events).channels[channelId]? =
          some channel := by
    have whole :
        (runSkipping authorizeAndApply index events).rootSeen = true ∧
          (runSkipping authorizeAndApply index events).roles = index.roles ∧
            (runSkipping authorizeAndApply index events).channels[channelId]? =
              some channel := by
      apply @runSkipping_invariant _ _ _ authorizeAndApply
        (fun state => state.rootSeen = true ∧ state.roles = index.roles ∧
          state.channels[channelId]? = some channel)
        (fun event => event.event.authorDeviceId ∈ coalition) _ _ byCoalition
      · exact ⟨rooted, rfl, present⟩
      · rintro state event next ⟨stateRooted, sameRoles, stateHas⟩ member accepted
        refine ⟨rootSeen_of_accepted accepted, ?_⟩
        rw [authorizeAndApply_eq_ok_iff, authorize_eq_ok_iff] at accepted
        obtain ⟨⟨-, -, -, permitted⟩, rfl⟩ := accepted
        rw [applyAuthorized_roles, applyAuthorized_channels]
        constructor
        · rcases roles_of_permitted permitted stateRooted with
            unchanged | ⟨authorRole, authorHas, authorPrivileged, -⟩
          · rw [unchanged, sameRoles]
          · rw [sameRoles] at authorHas
            exact absurd authorPrivileged (unprivileged _ member authorRole authorHas)
        · apply channel_of_permitted_outsider permitted stateHas isPrivate
          obtain ⟨notMember, notCreator, -⟩ := outsiders _ member
          refine ⟨notMember, notCreator, ?_⟩
          rw [sameRoles]
          exact unprivileged _ member
    exact whole.2
  refine ⟨⟨channel, kept.2, rfl, isPrivate, rfl⟩, ?_⟩
  intro deviceId member
  have notMember := (outsiders deviceId member).1
  unfold channelAccessibleTo
  split
  · rfl
  · simp [kept.2, isPrivate, notMember]

/-- A workspace with a guest and a private channel of its owner. -/
def secretHome : WorkspaceAccessIndex :=
  { new ⟨"w"⟩ with
    roles :=
      ((∅ : HashMap DeviceId WorkspaceRole).insert ⟨"root"⟩ .owner).insert ⟨"guest"⟩ .guest
    channels := (∅ : HashMap ChannelId ChannelAccess).insert ⟨"secret"⟩
      { isPrivate := true
        creatorDeviceId := ⟨"root"⟩
        members := (∅ : HashSet DeviceId).insert ⟨"root"⟩ }
    eventChannels := (∅ : HashMap EventId ChannelId).insert ⟨"e2"⟩ ⟨"secret"⟩
    rootDeviceId := some ⟨"root"⟩
    rootSeen := true }

private theorem secretHome_reached :
    Reachable authorizeAndApply (new ⟨"w"⟩) secretHome := by
  refine (@run_of_run_eq_ok _ _ _ _
    [draftEvent "e0" "root" none [] (.workspaceCreated "home"),
      draftEvent "e1" "root" none ["e0"] (.memberInvited ⟨"guest"⟩ .guest),
      draftEvent "e2" "root" none ["e0"] (.channelCreated ⟨"secret"⟩ "secret" true)] _ _ ?_).reachable
  decide +kernel

/-- The guest of this workspace adds itself to the channel in vain. -/
theorem private_channel_closed_to_outsiders_secretHome :
    (runSkipping authorizeAndApply secretHome
        [draftEvent "e3" "guest" none ["e2"]
          (.channelMemberAdded ⟨"secret"⟩ ⟨"guest"⟩)]).channelAccessibleTo ⟨"secret"⟩
      ⟨"guest"⟩ = false := by
  refine (private_channel_closed_to_outsiders ⟨"w"⟩ secretHome secretHome_reached ⟨"secret"⟩
    { isPrivate := true
      creatorDeviceId := ⟨"root"⟩
      members := (∅ : HashSet DeviceId).insert ⟨"root"⟩ } ?_ rfl {⟨"guest"⟩} ?_ _ ?_).2
    ⟨"guest"⟩ rfl
  · decide +kernel
  · intro deviceId member
    rw [Set.mem_singleton_iff.mp member]
    refine ⟨by decide +kernel, by decide, ?_⟩
    intro role
    cases role <;> decide +kernel
  · intro event member
    rw [List.mem_singleton.mp member]
    rfl

end WorkspaceAccessIndex

end Chaft
