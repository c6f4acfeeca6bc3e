import Chaft.Core.StateViews

/-!
# Who gets the keys of a private channel

Provisioning reads the members of a private channel, its creator and the creator of the
workspace from the applied events once more, without asking what was authorized.  It agrees
with the state that the same events lead to.
-/

namespace Chaft

open Keyed Outcome Transition WorkspaceState

/-! ## The replay of provisioning -/

section Replay

variable (events : List SignedEvent) (expectedChannelId : ChannelId)

def createdPrivately (event : SignedEvent) : Option DeviceId :=
  match event.event.body with
  | .channelCreated channelId _ isPrivate =>
      if isPrivate = true ∧ channelId = expectedChannelId then
        some event.event.authorDeviceId
      else
        none
  | .directMessageChannelCreated channelId .. =>
      if channelId = expectedChannelId then some event.event.authorDeviceId else none
  | _ => none

def privateChannelCreatorDeviceIdFromEvents : Option DeviceId :=
  events.findSome? (createdPrivately expectedChannelId)

def createdWorkspace (event : SignedEvent) : Option DeviceId :=
  match event.event.body with
  | .workspaceCreated .. => some event.event.authorDeviceId
  | _ => none

def workspaceCreatorDeviceIdFromEvents : Option DeviceId :=
  events.findSome? createdWorkspace

def recordMembership (memberIds : HashSet String) (event : SignedEvent) : HashSet String :=
  match event.event.body with
  | .channelCreated channelId _ isPrivate =>
      if channelId = expectedChannelId ∧ isPrivate = true then
        memberIds.insert event.event.authorDeviceId.text
      else
        memberIds
  | .directMessageChannelCreated channelId _ participantDeviceIds =>
      if channelId = expectedChannelId then
        ((participantDeviceIds.map Identifier.text).foldl (fun ids id => ids.insert id)
          memberIds).insert event.event.authorDeviceId.text
      else
        memberIds
  | .channelMemberAdded channelId memberDeviceId =>
      if channelId = expectedChannelId then memberIds.insert memberDeviceId.text else memberIds
  | .channelMemberRemoved channelId memberDeviceId =>
      if channelId = expectedChannelId then memberIds.erase memberDeviceId.text else memberIds
  | .memberRemoved removedDeviceId => memberIds.erase removedDeviceId.text
  | _ => memberIds

def currentPrivateChannelMemberIdsFromEvents : HashSet String :=
  events.foldl (recordMembership expectedChannelId) ∅

end Replay

/-! ## Texts that name a set of devices -/

/-- The texts are those of the devices. -/
def NamesDevices (names : HashSet String) (devices : HashSet DeviceId) : Prop :=
  ∀ device : DeviceId, device.text ∈ names ↔ device ∈ devices

section Names

variable {names : HashSet String} {devices : HashSet DeviceId}

theorem NamesDevices.insert (same : NamesDevices names devices) (added : DeviceId) :
    NamesDevices (names.insert added.text) (devices.insert added) := by
  intro device
  rw [Std.ExtTreeSet.mem_insert, Std.ExtTreeSet.mem_insert, same device,
    Std.LawfulEqCmp.compare_eq_iff_eq, Std.LawfulEqCmp.compare_eq_iff_eq,
    Identifier.text_injective.eq_iff]

theorem NamesDevices.erase (same : NamesDevices names devices) (removed : DeviceId) :
    NamesDevices (names.erase removed.text) (devices.erase removed) := by
  intro device
  rw [Std.ExtTreeSet.mem_erase, Std.ExtTreeSet.mem_erase, same device, ne_eq, ne_eq,
    Std.LawfulEqCmp.compare_eq_iff_eq, Std.LawfulEqCmp.compare_eq_iff_eq,
    Identifier.text_injective.eq_iff]

theorem namesDevices_empty : NamesDevices ∅ ∅ := by
  intro device
  simp

theorem namesDevices_ofList (listed : List DeviceId) :
    NamesDevices ((listed.map Identifier.text).foldl (fun ids id => ids.insert id) ∅)
      (Std.ExtTreeSet.ofList listed compare) := by
  intro device
  rw [foldl_insert_eq_ofList, mem_ofList_iff, mem_ofList_iff,
    List.mem_map_of_injective Identifier.text_injective]

end Names

/-! ## One event -/

/-- The replay of some events shows a channel as the index holds it: no member of an unknown
channel, and the members and the creator of a private one. -/
structure ReplaysChannel
    (events : List SignedEvent) (channelId : ChannelId) (index : WorkspaceAccessIndex) : Prop where
  unknown :
    index.channels[channelId]? = none →
      currentPrivateChannelMemberIdsFromEvents events channelId = ∅ ∧
        privateChannelCreatorDeviceIdFromEvents events channelId = none
  isPrivate :
    ∀ channel : ChannelAccess, index.channels[channelId]? = some channel →
      channel.isPrivate = true →
        NamesDevices (currentPrivateChannelMemberIdsFromEvents events channelId) channel.members ∧
          privateChannelCreatorDeviceIdFromEvents events channelId = some channel.creatorDeviceId

theorem members_append (events : List SignedEvent) (event : SignedEvent) (channelId : ChannelId) :
    currentPrivateChannelMemberIdsFromEvents (events ++ [event]) channelId =
      recordMembership channelId (currentPrivateChannelMemberIdsFromEvents events channelId)
        event := by
  rw [currentPrivateChannelMemberIdsFromEvents, List.foldl_append]
  rfl

theorem creator_append (events : List SignedEvent) (event : SignedEvent) (channelId : ChannelId) :
    privateChannelCreatorDeviceIdFromEvents (events ++ [event]) channelId =
      (privateChannelCreatorDeviceIdFromEvents events channelId).or
        (createdPrivately channelId event) := by
  rw [privateChannelCreatorDeviceIdFromEvents, List.findSome?_append, List.findSome?_singleton]
  rfl

theorem workspaceCreator_append (events : List SignedEvent) (event : SignedEvent) :
    workspaceCreatorDeviceIdFromEvents (events ++ [event]) =
      (workspaceCreatorDeviceIdFromEvents events).or (createdWorkspace event) := by
  rw [workspaceCreatorDeviceIdFromEvents, List.findSome?_append, List.findSome?_singleton]
  rfl

section Step

variable {events : List SignedEvent} {event : SignedEvent} {channelId : ChannelId}
  {index : WorkspaceAccessIndex}

/-- An event that changes the members of a known channel, or nothing. -/
theorem ReplaysChannel.changed
    (replays : ReplaysChannel events channelId index)
    {changeNames : HashSet String → HashSet String}
    {changeDevices : HashSet DeviceId → HashSet DeviceId}
    (recorded : ∀ names, recordMembership channelId names event = changeNames names)
    (notCreated : createdPrivately channelId event = none)
    (after :
      (WorkspaceAccessIndex.channelsAfter index.channels event)[channelId]? =
        index.channels[channelId]?.map fun channel =>
          { channel with members := changeDevices channel.members })
    (alike :
      ∀ names devices, NamesDevices names devices →
        NamesDevices (changeNames names) (changeDevices devices))
    (noneAdded : index.channels[channelId]? = none → changeNames ∅ = ∅) :
    ReplaysChannel (events ++ [event]) channelId (index.applyAuthorized event) := by
  constructor
  · intro isUnknown
    rw [WorkspaceAccessIndex.applyAuthorized_channels, after, Option.map_eq_none_iff] at isUnknown
    obtain ⟨noMembers, noCreator⟩ := replays.unknown isUnknown
    rw [members_append, creator_append, noMembers, noCreator, notCreated, recorded]
    exact ⟨noneAdded isUnknown, rfl⟩
  · intro channel known privately
    rw [WorkspaceAccessIndex.applyAuthorized_channels, after, Option.map_eq_some_iff] at known
    obtain ⟨held, isHeld, rfl⟩ := known
    obtain ⟨members, creator⟩ := replays.isPrivate held isHeld privately
    rw [members_append, creator_append, creator, recorded]
    exact ⟨alike _ _ members, rfl⟩

theorem ReplaysChannel.unchanged
    (replays : ReplaysChannel events channelId index)
    (recorded : ∀ names, recordMembership channelId names event = names)
    (notCreated : createdPrivately channelId event = none)
    (after :
      (WorkspaceAccessIndex.channelsAfter index.channels event)[channelId]? =
        index.channels[channelId]?) :
    ReplaysChannel (events ++ [event]) channelId (index.applyAuthorized event) := by
  refine @ReplaysChannel.changed events event channelId index replays id id recorded notCreated
    ?_ (fun _ _ same => same) (fun _ => rfl)
  rw [after]
  cases index.channels[channelId]? <;> rfl

/-- An event that creates the channel. -/
theorem ReplaysChannel.created
    (replays : ReplaysChannel events channelId index) (isNew : channelId ∉ index.channels)
    {created : ChannelAccess}
    (after :
      (WorkspaceAccessIndex.channelsAfter index.channels event)[channelId]? = some created)
    (members :
      created.isPrivate = true →
        NamesDevices (recordMembership channelId ∅ event) created.members)
    (creator :
      created.isPrivate = true →
        createdPrivately channelId event = some created.creatorDeviceId) :
    ReplaysChannel (events ++ [event]) channelId (index.applyAuthorized event) := by
  obtain ⟨noMembers, noCreator⟩ := replays.unknown (Std.ExtTreeMap.getElem?_eq_none isNew)
  constructor
  · intro isUnknown
    rw [WorkspaceAccessIndex.applyAuthorized_channels, after] at isUnknown
    cases isUnknown
  · intro channel known privately
    rw [WorkspaceAccessIndex.applyAuthorized_channels, after, Option.some.injEq] at known
    subst known
    rw [members_append, creator_append, noMembers, noCreator, creator privately]
    exact ⟨members privately, rfl⟩

/-- Each accepted event keeps the replay of a channel and the index alike. -/
theorem ReplaysChannel.step
    (replays : ReplaysChannel events channelId index)
    (permitted : index.authorizeBody event = .ok ()) :
    ReplaysChannel (events ++ [event]) channelId (index.applyAuthorized event) := by
  unfold WorkspaceAccessIndex.authorizeBody at permitted
  cases body : event.event.body with
  | channelCreated createdChannelId name isPrivate =>
      simp only [body, bind_eq_ok_iff, WorkspaceAccessIndex.requireNewChannelId_eq_ok_iff]
        at permitted
      obtain ⟨-, -, -, -, isNew⟩ := permitted
      by_cases same : createdChannelId = channelId
      · subst same
        have after :
            (WorkspaceAccessIndex.channelsAfter index.channels event)[createdChannelId]? =
              some
                { isPrivate := isPrivate
                  creatorDeviceId := event.event.authorDeviceId
                  members :=
                    if isPrivate then
                      (∅ : HashSet DeviceId).insert event.event.authorDeviceId
                    else
                      ∅ } := by
          rw [WorkspaceAccessIndex.channelsAfter, body]
          exact Std.ExtTreeMap.getElem?_insert_self
        refine replays.created isNew after ?_ ?_
        · intro (privately : isPrivate = true)
          simp only [recordMembership, body, privately, and_self, if_true]
          exact namesDevices_empty.insert _
        · intro (privately : isPrivate = true)
          simp only [createdPrivately, body, privately, and_self, if_true]
      · refine replays.unchanged ?_ ?_ ?_
        · intro names
          simp [recordMembership, body, same]
        · simp [createdPrivately, body, same]
        · simp [WorkspaceAccessIndex.channelsAfter, body, Std.ExtTreeMap.getElem?_insert,
            Std.LawfulEqCmp.compare_eq_iff_eq, same]
  | directMessageChannelCreated createdChannelId name participantDeviceIds =>
      simp only [body, bind_eq_ok_iff, WorkspaceAccessIndex.requireNewChannelId_eq_ok_iff]
        at permitted
      obtain ⟨-, -, -, -, -, isNew, -⟩ := permitted
      by_cases same : createdChannelId = channelId
      · subst same
        have after :
            (WorkspaceAccessIndex.channelsAfter index.channels event)[createdChannelId]? =
              some
                { isPrivate := true
                  creatorDeviceId := event.event.authorDeviceId
                  members :=
                    (Std.ExtTreeSet.ofList participantDeviceIds compare).insert
                      event.event.authorDeviceId } := by
          rw [WorkspaceAccessIndex.channelsAfter, body]
          exact Std.ExtTreeMap.getElem?_insert_self
        refine replays.created isNew after ?_ ?_
        · intro _
          simp only [recordMembership, body, if_true]
          exact (namesDevices_ofList participantDeviceIds).insert _
        · intro _
          simp only [createdPrivately, body, if_true]
      · refine replays.unchanged ?_ ?_ ?_
        · intro names
          simp [recordMembership, body, same]
        · simp [createdPrivately, body, same]
        · simp [WorkspaceAccessIndex.channelsAfter, body, Std.ExtTreeMap.getElem?_insert,
            Std.LawfulEqCmp.compare_eq_iff_eq, same]
  | channelMemberAdded changedChannelId memberDeviceId =>
      -- the grant finds the channel, so nobody joins a channel before it exists
      simp only [body, bind_eq_ok_iff, WorkspaceAccessIndex.requireChannelMemberGrant_eq_ok_iff]
        at permitted
      obtain ⟨-, -, -, -, held, isHeld, -⟩ := permitted
      by_cases same : changedChannelId = channelId
      · subst same
        refine @ReplaysChannel.changed events event _ index replays
          (fun names => names.insert memberDeviceId.text)
          (fun devices => devices.insert memberDeviceId) ?_ ?_ ?_ ?_ ?_
        · intro names
          simp [recordMembership, body]
        · simp [createdPrivately, body]
        · simp [WorkspaceAccessIndex.channelsAfter, body]
        · exact fun _ _ alike => alike.insert memberDeviceId
        · intro isUnknown
          rw [isHeld] at isUnknown
          cases isUnknown
      · refine replays.unchanged ?_ ?_ ?_
        · intro names
          simp [recordMembership, body, same]
        · simp [createdPrivately, body]
        · rw [WorkspaceAccessIndex.channelsAfter, body, getElem?_modify_same, if_neg same]
  | channelMemberRemoved changedChannelId memberDeviceId =>
      by_cases same : changedChannelId = channelId
      · subst same
        refine @ReplaysChannel.changed events event _ index replays
          (fun names => names.erase memberDeviceId.text)
          (fun devices => devices.erase memberDeviceId) ?_ ?_ ?_ ?_ ?_
        · intro names
          simp [recordMembership, body]
        · simp [createdPrivately, body]
        · simp [WorkspaceAccessIndex.channelsAfter, body]
        · exact fun _ _ alike => alike.erase memberDeviceId
        · exact fun _ => Std.ExtTreeSet.erase_empty
      · refine replays.unchanged ?_ ?_ ?_
        · intro names
          simp [recordMembership, body, same]
        · simp [createdPrivately, body]
        · rw [WorkspaceAccessIndex.channelsAfter, body, getElem?_modify_same, if_neg same]
  | memberRemoved removedDeviceId =>
      refine @ReplaysChannel.changed events event _ index replays
        (fun names => names.erase removedDeviceId.text)
        (fun devices => devices.erase removedDeviceId) ?_ ?_ ?_ ?_ ?_
      · intro names
        simp [recordMembership, body]
      · simp [createdPrivately, body]
      · simp [WorkspaceAccessIndex.channelsAfter, body]
      · exact fun _ _ alike => alike.erase removedDeviceId
      · exact fun _ => Std.ExtTreeSet.erase_empty
  | _ =>
      refine replays.unchanged ?_ ?_ ?_
      · intro names
        simp [recordMembership, body]
      · simp [createdPrivately, body]
      · simp [WorkspaceAccessIndex.channelsAfter, body]

/-- The index and the replay agree on who created the workspace. -/
def ReplaysRoot (events : List SignedEvent) (index : WorkspaceAccessIndex) : Prop :=
  workspaceCreatorDeviceIdFromEvents events = index.rootDeviceId ∧
    (index.rootSeen = false → index.rootDeviceId = none)

theorem ReplaysRoot.step
    (replays : ReplaysRoot events index) (permitted : index.authorizeBody event = .ok ()) :
    ReplaysRoot (events ++ [event]) (index.applyAuthorized event) := by
  unfold WorkspaceAccessIndex.authorizeBody at permitted
  rw [ReplaysRoot, workspaceCreator_append, replays.1,
    WorkspaceAccessIndex.applyAuthorized_rootDeviceId,
    WorkspaceAccessIndex.applyAuthorized_rootSeen]
  cases body : event.event.body with
  | workspaceCreated name =>
      simp only [body, ensure_eq_ok_iff] at permitted
      simp [createdWorkspace, WorkspaceAccessIndex.rootDeviceIdAfter,
        WorkspaceAccessIndex.rootSeenAfter, body, replays.2 permitted]
  | _ =>
      simp only [createdWorkspace, WorkspaceAccessIndex.rootDeviceIdAfter,
        WorkspaceAccessIndex.rootSeenAfter, body, Option.or_none, true_and]
      exact replays.2

end Step

/-! ## Histories -/

section Histories

variable {workspaceId : WorkspaceId} {history : List SignedEvent}

theorem replays_of_run
    {index : WorkspaceAccessIndex}
    (ran :
      Run WorkspaceAccessIndex.authorizeAndApply (WorkspaceAccessIndex.new workspaceId) history
        index) :
    (∀ channelId, ReplaysChannel history channelId index) ∧ ReplaysRoot history index := by
  induction ran with
  | start =>
      refine ⟨fun channelId => ⟨fun _ => ⟨rfl, rfl⟩, ?_⟩, rfl, fun _ => rfl⟩
      intro channel known
      simp [WorkspaceAccessIndex.new] at known
  | extend _ _ accepted inductionHypothesis =>
      obtain ⟨authorized, rfl⟩ :=
        (WorkspaceAccessIndex.authorizeAndApply_eq_ok_iff _ _ _).mp accepted
      obtain ⟨-, -, -, permitted⟩ :=
        (WorkspaceAccessIndex.authorize_eq_ok_iff _ _ ()).mp authorized
      exact ⟨fun channelId => (inductionHypothesis.1 channelId).step permitted,
        inductionHypothesis.2.step permitted⟩

/-- What provisioning reads from the events that a state has applied is what the state
holds. -/
structure ProvisioningAgrees (applied : List SignedEvent) (state : WorkspaceState) : Prop where
  members :
    ∀ (channelId : ChannelId) (view : ChannelView), state.channels[channelId]? = some view →
      view.isPrivate = true →
        ∀ device : DeviceId,
          device.text ∈ currentPrivateChannelMemberIdsFromEvents applied channelId ↔
            device ∈ view.memberDeviceIds
  creator :
    ∀ (channelId : ChannelId) (view : ChannelView), state.channels[channelId]? = some view →
      view.isPrivate = true →
        ∃ channel : ChannelAccess, state.accessIndex.channels[channelId]? = some channel ∧
          privateChannelCreatorDeviceIdFromEvents applied channelId = some channel.creatorDeviceId
  root : workspaceCreatorDeviceIdFromEvents applied = state.accessIndex.rootDeviceId

theorem provisioningAgrees_of_reachable
    {state : WorkspaceState} (reached : WorkspaceState.Reachable workspaceId history state) :
    ProvisioningAgrees history state := by
  obtain ⟨replaysChannel, replaysRoot⟩ := replays_of_run reached.ledger.index
  have shown :
      ∀ (channelId : ChannelId) (view : ChannelView), state.channels[channelId]? = some view →
        ∃ channel : ChannelAccess, state.accessIndex.channels[channelId]? = some channel ∧
          view.authority = channel.authority := by
    intro channelId view isView
    have same := reached.viewsMatch.channels channelId
    rw [isView, Option.map_some, eq_comm, Option.map_eq_some_iff] at same
    obtain ⟨channel, known, alike⟩ := same
    exact ⟨channel, known, alike.symm⟩
  refine { members := ?_, creator := ?_, root := replaysRoot.1 }
  · intro channelId view isView privately device
    obtain ⟨channel, known, alike⟩ := shown channelId view isView
    rw [ChannelView.authority, ChannelAccess.authority, Prod.mk.injEq] at alike
    obtain ⟨names, -⟩ :=
      (replaysChannel channelId).isPrivate channel known (alike.1.symm.trans privately)
    rw [names device, ← alike.2, mem_ofList_iff]
  · intro channelId view isView privately
    obtain ⟨channel, known, alike⟩ := shown channelId view isView
    rw [ChannelView.authority, ChannelAccess.authority, Prod.mk.injEq] at alike
    obtain ⟨-, creator⟩ :=
      (replaysChannel channelId).isPrivate channel known (alike.1.symm.trans privately)
    exact ⟨channel, known, creator⟩

end Histories

/-- The events of a batch that were applied, in that order. -/
structure AppliedInOrder
    (workspaceId : WorkspaceId) (events : List SignedEvent) (report : MaterializationReport)
    (final : WorkspaceState) (applied : List SignedEvent) : Prop where
  drawn : applied ⊆ events
  listed : applied.map SignedEvent.eventId = report.appliedEvents
  replayed : Run applyStep (WorkspaceState.new workspaceId) applied final

/-- A batch that succeeds on a fresh state has applied events, and provisioning reads from
them what the state holds. -/
theorem provisioning_agrees
    (workspaceId : WorkspaceId) (events : List SignedEvent) (report : MaterializationReport)
    (final : WorkspaceState)
    (accepted : (WorkspaceState.new workspaceId).applyBatch events = (.ok report, final)) :
    (∃ applied, AppliedInOrder workspaceId events report final applied) ∧
      ∀ applied, AppliedInOrder workspaceId events report final applied →
        ProvisioningAgrees applied final := by
  constructor
  · obtain ⟨applied, drawn, listed, replayed⟩ := applied_of_applyBatch accepted
    exact ⟨applied, drawn, listed, replayed⟩
  · intro applied inOrder
    exact provisioningAgrees_of_reachable (reachable_of_run inOrder.replayed)

/-- A member joins a private channel, leaves the workspace and comes back to the workspace
only. -/
def returningHistory : List SignedEvent :=
  [draftEvent "e0" "root" none [] (.workspaceCreated "home"),
    draftEvent "e1" "root" none ["e0"] (.memberInvited ⟨"guest"⟩ .member),
    draftEvent "e2" "root" none ["e1"] (.channelCreated ⟨"plans"⟩ "plans" true),
    draftEvent "e3" "root" none ["e2"] (.channelMemberAdded ⟨"plans"⟩ ⟨"guest"⟩),
    draftEvent "e4" "root" none ["e3"] (.memberRemoved ⟨"guest"⟩),
    draftEvent "e5" "root" none ["e4"] (.memberInvited ⟨"guest"⟩ .member)]

theorem provisioning_agrees_returning :
    ∃ report,
      (∃ applied,
        AppliedInOrder ⟨"w"⟩ returningHistory report
          ((WorkspaceState.new ⟨"w"⟩).applyBatch returningHistory).2 applied) ∧
        ∀ applied,
          AppliedInOrder ⟨"w"⟩ returningHistory report
              ((WorkspaceState.new ⟨"w"⟩).applyBatch returningHistory).2 applied →
            ProvisioningAgrees applied
              ((WorkspaceState.new ⟨"w"⟩).applyBatch returningHistory).2 := by
  have succeeds : ((WorkspaceState.new ⟨"w"⟩).applyBatch returningHistory).1.isOk = true := by
    decide +kernel
  cases outcome : ((WorkspaceState.new ⟨"w"⟩).applyBatch returningHistory).1 with
  | error raised =>
      rw [outcome] at succeeds
      cases succeeds
  | ok report =>
      exact ⟨report, provisioning_agrees ⟨"w"⟩ returningHistory report _ (Prod.ext outcome rfl)⟩

end Chaft
