import Chaft.Core.Reachable

/-!
# Views and access index

Members, channels and person links exist twice in a state: in the views and in
the access index.  Both show the same roles, the same privacy and members of
channels, and the same links.
-/

namespace Chaft

open Keyed Outcome Transition

/-- The privacy and the members that a view shows. -/
def ChannelView.authority (view : ChannelView) : Bool × HashSet DeviceId :=
  (view.isPrivate, Std.ExtTreeSet.ofList view.memberDeviceIds compare)

def ChannelAccess.authority (channel : ChannelAccess) : Bool × HashSet DeviceId :=
  (channel.isPrivate, channel.members)

namespace WorkspaceState

/-- The views show what an index holds. -/
structure ViewsMatch (state : WorkspaceState) (index : WorkspaceAccessIndex) : Prop where
  members :
    ∀ deviceId : DeviceId,
      state.members[deviceId]?.map WorkspaceMemberView.role = index.roles[deviceId]?
  channels :
    ∀ channelId : ChannelId,
      state.channels[channelId]?.map ChannelView.authority =
        index.channels[channelId]?.map ChannelAccess.authority
  personDeviceLinks :
    ∀ deviceId : DeviceId,
      state.personDeviceLinks[deviceId]?.map PersonDeviceLinkView.personId =
        index.personLinks[deviceId]?

theorem viewsMatch_new (workspaceId : WorkspaceId) :
    (new workspaceId).ViewsMatch (WorkspaceAccessIndex.new workspaceId) where
  members := by simp [new, WorkspaceAccessIndex.new]
  channels := by simp [new, WorkspaceAccessIndex.new]
  personDeviceLinks := by simp [new, WorkspaceAccessIndex.new]

/-! ## Changes of members -/

theorem authority_removeMember
    {view : ChannelView} {access : ChannelAccess} (shown : view.authority = access.authority)
    (removed : DeviceId) :
    ChannelView.authority
        { view with
          memberDeviceIds :=
            view.memberDeviceIds.filter fun deviceId => decide (deviceId ≠ removed) } =
      ChannelAccess.authority { access with members := access.members.erase removed } := by
  rw [ChannelView.authority, ChannelAccess.authority, Prod.mk.injEq] at shown ⊢
  exact ⟨shown.1, by rw [ofList_filter_ne, shown.2]⟩

/-- A new member is listed at the end and the listing sorted again. -/
theorem authority_addMember
    {view : ChannelView} {access : ChannelAccess} (shown : view.authority = access.authority)
    (added : DeviceId) :
    ChannelView.authority
        (if added ∈ view.memberDeviceIds then
          view
        else
          { view with
            memberDeviceIds :=
              (view.memberDeviceIds ++ [added]).insertionSort Identifier.le }) =
      ChannelAccess.authority { access with members := access.members.insert added } := by
  rw [ChannelView.authority, ChannelAccess.authority, Prod.mk.injEq] at shown
  rw [ChannelView.authority, ChannelAccess.authority, Prod.mk.injEq, ← shown.2]
  split
  · rename_i listed
    exact ⟨shown.1, (insert_ofList_of_mem listed).symm⟩
  · refine ⟨shown.1, ?_⟩
    rw [← ofList_append_singleton]
    exact ofList_congr fun _ => List.mem_insertionSort _

/-- Changes that keep single channels alike keep optional channels alike. -/
theorem map_authority_congr
    {view : Option ChannelView} {access : Option ChannelAccess}
    (same : view.map ChannelView.authority = access.map ChannelAccess.authority)
    {changeView : ChannelView → ChannelView} {changeAccess : ChannelAccess → ChannelAccess}
    (alike :
      ∀ view access, view.authority = access.authority →
        (changeView view).authority = (changeAccess access).authority) :
    view.map (ChannelView.authority ∘ changeView) =
      access.map (ChannelAccess.authority ∘ changeAccess) := by
  cases view with
  | none =>
      cases access with
      | none => rfl
      | some access => cases same
  | some view =>
      cases access with
      | none => cases same
      | some access => exact congrArg some (alike view access (Option.some.inj same))

/-! ## One event -/

section Steps

variable {before written : WorkspaceState} {index : WorkspaceAccessIndex} {signed : SignedEvent}

theorem ViewsMatch.members_after
    (viewsMatch : before.ViewsMatch index) (permitted : index.authorizeBody signed = .ok ())
    (finished : before.writeViews signed = .ok written) (deviceId : DeviceId) :
    written.members[deviceId]?.map WorkspaceMemberView.role =
      (WorkspaceAccessIndex.rolesAfter index.roles signed)[deviceId]? := by
  have same := viewsMatch.members
  unfold writeViews at finished
  unfold WorkspaceAccessIndex.rolesAfter
  cases body : signed.event.body with
  | workspaceCreated name =>
      simp only [body] at finished
      cases finished
      simp only [Std.ExtTreeMap.getElem?_insert]
      split
      · rfl
      · exact same deviceId
  | memberInvited inviteeDeviceId role =>
      simp only [body] at finished
      cases finished
      simp only [Std.ExtTreeMap.getElem?_insert]
      split
      · rfl
      · exact same deviceId
  | memberRoleUpdated memberDeviceId role =>
      -- the view modifies a member that authorization has found
      simp only [WorkspaceAccessIndex.authorizeBody, body, bind_eq_ok_iff,
        WorkspaceAccessIndex.requireRootedMember_eq_ok_iff] at permitted
      obtain ⟨-, -, memberRole, ⟨-, memberHas⟩, -⟩ := permitted
      simp only [body] at finished
      cases finished
      simp only [getElem?_modify_same, Std.ExtTreeMap.getElem?_insert,
        Std.LawfulEqCmp.compare_eq_iff_eq]
      split
      · rename_i isMember
        have known := same deviceId
        rw [← isMember, memberHas, Option.map_eq_some_iff] at known
        obtain ⟨member, present, -⟩ := known
        rw [← isMember, present]
        rfl
      · exact same deviceId
  | memberRemoved removedDeviceId =>
      simp only [body] at finished
      cases finished
      simp only [Std.ExtTreeMap.getElem?_erase]
      split
      · rfl
      · exact same deviceId
  | workspaceInviteRecorded inviteId inviteeDeviceId displayName role requestId =>
      simp only [body] at finished
      split at finished <;> cases finished <;> exact same deviceId
  | messageCreated | messageReplyCreated | messageCreatedEncrypted
  | messageReplyCreatedEncrypted =>
      simp only [body, insertMessage, bind_eq_ok_iff] at finished
      obtain ⟨channelId, _, stored⟩ := finished
      cases stored
      exact same deviceId
  | _ =>
      simp only [body, modifyMessage] at finished
      cases finished
      exact same deviceId

theorem ViewsMatch.channels_after
    (viewsMatch : before.ViewsMatch index) (finished : before.writeViews signed = .ok written)
    (channelId : ChannelId) :
    written.channels[channelId]?.map ChannelView.authority =
      (WorkspaceAccessIndex.channelsAfter index.channels signed)[channelId]?.map
        ChannelAccess.authority := by
  have same := viewsMatch.channels channelId
  unfold writeViews at finished
  unfold WorkspaceAccessIndex.channelsAfter
  cases body : signed.event.body with
  | memberRemoved removedDeviceId =>
      simp only [body] at finished
      cases finished
      simp only [Std.ExtTreeMap.getElem?_map, Option.map_map]
      exact map_authority_congr same fun view access shown =>
        authority_removeMember shown removedDeviceId
  | channelCreated createdChannelId name isPrivate =>
      simp only [body] at finished
      cases finished
      simp only [Std.ExtTreeMap.getElem?_insert]
      split
      · cases isPrivate <;> rfl
      · exact same
  | directMessageChannelCreated createdChannelId name participantDeviceIds =>
      simp only [body] at finished
      cases finished
      simp only [Std.ExtTreeMap.getElem?_insert]
      split
      · rw [Option.map_some, Option.map_some, ChannelView.authority, ChannelAccess.authority,
          ofList_sortedListing_with]
      · exact same
  | channelDetailsUpdated changedChannelId name topic archived =>
      simp only [body] at finished
      cases finished
      simp only [getElem?_modify_same]
      split
      · rw [Option.map_map]
        exact same
      · exact same
  | channelMemberAdded changedChannelId memberDeviceId =>
      simp only [body] at finished
      cases finished
      simp only [getElem?_modify_same]
      split
      · rw [Option.map_map, Option.map_map]
        exact map_authority_congr same fun view access shown =>
          authority_addMember shown memberDeviceId
      · exact same
  | channelMemberRemoved changedChannelId memberDeviceId =>
      simp only [body] at finished
      cases finished
      simp only [getElem?_modify_same]
      split
      · rw [Option.map_map, Option.map_map]
        exact map_authority_congr same fun view access shown =>
          authority_removeMember shown memberDeviceId
      · exact same
  | workspaceInviteRecorded inviteId inviteeDeviceId displayName role requestId =>
      simp only [body] at finished
      split at finished <;> cases finished <;> exact same
  | messageCreated | messageReplyCreated | messageCreatedEncrypted
  | messageReplyCreatedEncrypted =>
      simp only [body, insertMessage, bind_eq_ok_iff] at finished
      obtain ⟨storedChannelId, _, stored⟩ := finished
      cases stored
      exact same
  | _ =>
      simp only [body, modifyMessage] at finished
      cases finished
      exact same

theorem ViewsMatch.personDeviceLinks_after
    (viewsMatch : before.ViewsMatch index) (finished : before.writeViews signed = .ok written)
    (deviceId : DeviceId) :
    written.personDeviceLinks[deviceId]?.map PersonDeviceLinkView.personId =
      (WorkspaceAccessIndex.personLinksAfter index.personLinks signed)[deviceId]? := by
  have same := viewsMatch.personDeviceLinks deviceId
  unfold writeViews at finished
  unfold WorkspaceAccessIndex.personLinksAfter
  cases body : signed.event.body with
  | memberRemoved removedDeviceId =>
      simp only [body] at finished
      cases finished
      simp only [Std.ExtTreeMap.getElem?_erase]
      split
      · rfl
      · exact same
  | personDeviceLinked personId linkedDeviceId =>
      simp only [body] at finished
      cases finished
      simp only [Std.ExtTreeMap.getElem?_insert]
      split
      · rfl
      · exact same
  | workspaceInviteRecorded inviteId inviteeDeviceId displayName role requestId =>
      simp only [body] at finished
      split at finished <;> cases finished <;> exact same
  | messageCreated | messageReplyCreated | messageCreatedEncrypted
  | messageReplyCreatedEncrypted =>
      simp only [body, insertMessage, bind_eq_ok_iff] at finished
      obtain ⟨channelId, _, stored⟩ := finished
      cases stored
      exact same
  | _ =>
      simp only [body, modifyMessage] at finished
      cases finished
      exact same

/-- Marking invites changes none of the three views. -/
theorem ViewsMatch.marked (viewsMatch : before.ViewsMatch index) (signed : SignedEvent) :
    (before.markInvitesAcceptedByEvent signed).ViewsMatch index := by
  unfold markInvitesAcceptedByEvent
  split
  · exact viewsMatch
  · exact ⟨viewsMatch.members, viewsMatch.channels, viewsMatch.personDeviceLinks⟩

theorem ViewsMatch.apply
    {state next : WorkspaceState} (viewsMatch : state.ViewsMatch state.accessIndex)
    (accepted : state.apply signed = (.ok (), next)) :
    next.ViewsMatch next.accessIndex := by
  obtain ⟨-, applied⟩ := (apply_eq_ok_iff _ _ _).mp accepted
  obtain ⟨-, authorized, -, -, -, indexAfter⟩ := applyReadyEvent_ok applied
  obtain ⟨-, -, -, permitted⟩ :=
    (WorkspaceAccessIndex.authorize_eq_ok_iff _ _ _).mp authorized
  obtain ⟨written, finished, rfl⟩ := applyReadyEvent_writes applied
  have indexed :
      ({ state with accessIndex := state.accessIndex.applyAuthorized signed } :
        WorkspaceState).ViewsMatch state.accessIndex :=
    ⟨viewsMatch.members, viewsMatch.channels, viewsMatch.personDeviceLinks⟩
  have marked := indexed.marked signed
  rw [indexAfter]
  constructor
  · intro deviceId
    rw [WorkspaceAccessIndex.applyAuthorized_roles]
    exact marked.members_after permitted finished deviceId
  · intro channelId
    rw [WorkspaceAccessIndex.applyAuthorized_channels]
    exact marked.channels_after finished channelId
  · intro deviceId
    rw [WorkspaceAccessIndex.applyAuthorized_personLinks]
    exact marked.personDeviceLinks_after finished deviceId

end Steps

/-- The views of every reachable state show what its access index holds. -/
theorem Reachable.viewsMatch
    {workspaceId : WorkspaceId} {history : List SignedEvent} {state : WorkspaceState}
    (reached : Reachable workspaceId history state) :
    state.ViewsMatch state.accessIndex := by
  have ran := reached.run
  clear reached
  induction ran with
  | start => exact viewsMatch_new workspaceId
  | extend _ _ accepted inductionHypothesis =>
      exact inductionHypothesis.apply ((applyStep_eq_ok_iff _ _ _).mp accepted)

end WorkspaceState

end Chaft
