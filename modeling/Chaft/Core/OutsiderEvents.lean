import Chaft.Core.BatchCompleteness
import Chaft.Core.RoleProtection
import Chaft.Core.StateViews
import Chaft.Library.ReplaySimulation

/-!
# Events of outsiders

A stranger can place an event in the store of a replica, and `applyBatch`
looks at it before it authorizes anything: at the channel it claims to create,
at its parents and in every round at its turn.  An event whose author is never
a member stays a gap and moves nothing else, with one exception: if it claims
the ID of a channel that the workspace has, the definition of that channel is
disputed and waits too.
-/

namespace Chaft

open Keyed Outcome StableReplay Transition

namespace WorkspaceAccessIndex

/-- A rooted index authorizes nothing that a device without a role has signed. -/
theorem authorize_of_outsider
    {index : WorkspaceAccessIndex} {event : SignedEvent}
    (rooted : index.rootSeen = true)
    (outside : index.roles[event.event.authorDeviceId]? = none) :
    index.authorize event ≠ .ok () := by
  intro authorized
  obtain ⟨-, -, -, permitted⟩ := (authorize_eq_ok_iff _ _ _).mp authorized
  by_cases creates : ∃ name, event.event.body = .workspaceCreated name
  · obtain ⟨name, body⟩ := creates
    simp [authorizeBody, body, rooted] at permitted
  · have noRoot : ∀ name, event.event.body ≠ .workspaceCreated name :=
      fun name body => creates ⟨name, body⟩
    obtain ⟨-, role, isMember⟩ := index.author_of_permitted permitted noRoot
    rw [outside] at isMember
    cases isMember

/-- The device that a body makes a member, or whose role it sets. -/
def grantsRoleTo (event : SignedEvent) : Option DeviceId :=
  match event.event.body with
  | .workspaceCreated .. => some event.event.authorDeviceId
  | .memberInvited inviteeDeviceId _ => some inviteeDeviceId
  | .memberRoleUpdated memberDeviceId _ => some memberDeviceId
  | _ => none

/-- Nobody has a role that no event of the history grants. -/
theorem roles_of_ungranted
    {workspaceId : WorkspaceId} {history : List SignedEvent} {index : WorkspaceAccessIndex}
    (ran : Run authorizeAndApply (new workspaceId) history index) {deviceId : DeviceId}
    (ungranted : ∀ event ∈ history, grantsRoleTo event ≠ some deviceId) :
    index.roles[deviceId]? = none := by
  induction ran with
  | start => simp [new]
  | @extend earlier index next event _ _ accepted inductionHypothesis =>
      have before : index.roles[deviceId]? = none :=
        inductionHypothesis fun other member => ungranted other (List.mem_append_left _ member)
      have notHere := ungranted event (List.mem_append_right _ List.mem_cons_self)
      obtain ⟨-, rfl⟩ := (authorizeAndApply_eq_ok_iff _ _ _).mp accepted
      rw [applyAuthorized_roles]
      cases body : event.event.body with
      | workspaceCreated | memberInvited | memberRoleUpdated =>
          simp only [grantsRoleTo, body, ne_eq, Option.some.injEq] at notHere
          simp only [rolesAfter, body, Std.ExtTreeMap.getElem?_insert,
            Std.LawfulEqCmp.compare_eq_iff_eq, notHere, if_false, before]
      | memberRemoved removedDeviceId =>
          simp only [rolesAfter, body, Std.ExtTreeMap.getElem?_erase, before, ite_self]
      | _ => simpa only [rolesAfter, body] using before

end WorkspaceAccessIndex

namespace WorkspaceState

/-! ## States and settled events of a batch -/

/-- A state that the materialization of a batch on a new state passes through. -/
def BatchVisits
    (workspaceId : WorkspaceId) (events : List SignedEvent) (visited : WorkspaceState) : Prop :=
  ∃ scan earlier,
    replay (scanAttempt (conflictingChannelIds events)) (new workspaceId) events = .ok scan ∧
      PassesThrough (scanAttempt (conflictingChannelIds events)) (new workspaceId)
        scan.advanced scan.state earlier visited

/-- The batch has settled the event: nobody disputes it, and it is applied after
its parents. -/
structure Settled
    (events : List SignedEvent) (final : WorkspaceState) (event : SignedEvent) : Prop where
  undisputed : ∀ channelId, CreatesChannel event channelId → ¬ DisputedChannel events channelId
  parentsApplied : ∀ parentId ∈ event.event.parents, parentId ∈ final.appliedEventIds
  isApplied : event.eventId ∈ final.appliedEventIds

theorem channelDefinitionConflict_eq_false_iff (events : List SignedEvent) (event : SignedEvent) :
    channelDefinitionConflict (conflictingChannelIds events) event = false ↔
      ∀ channelId, CreatesChannel event channelId → ¬ DisputedChannel events channelId := by
  rw [← Bool.not_eq_true, channelDefinitionConflict_iff]
  push Not
  rfl

theorem settled_iff (events : List SignedEvent) (final : WorkspaceState) (event : SignedEvent) :
    Settled events final event ↔
      scanAttempt (conflictingChannelIds events) final event = .drop := by
  rw [scanAttempt_eq_drop_iff, channelDefinitionConflict_eq_false_iff,
    unappliedParentIds_eq_nil_iff]
  exact ⟨fun settled => ⟨settled.1, settled.2, settled.3⟩,
    fun ⟨undisputed, parentsApplied, isApplied⟩ => ⟨undisputed, parentsApplied, isApplied⟩⟩

section Replays

variable {workspaceId : WorkspaceId} {events : List SignedEvent} {outsider : SignedEvent}
  {scan late : Scan WorkspaceState SignedEvent}

/-- What a replay advanced or dropped is settled at its end. -/
theorem settled_of_replay
    (scanned :
      replay (scanAttempt (conflictingChannelIds events)) (new workspaceId) events = .ok scan)
    {event : SignedEvent}
    (handled :
      event ∈ scan.advanced ∨
        DroppedAlong (scanAttempt (conflictingChannelIds events)) (new workspaceId)
          scan.advanced scan.state event) :
    Settled events scan.state event := by
  have isApplied := applied_of_settled scanned handled
  rcases handled with isAdvanced | ⟨middle, _, _, _, _, dropped, toFinal⟩
  · obtain ⟨_, _, middle, next, _, _, advanced, toFinal⟩ :=
      (replay_advances scanned).exists_step isAdvanced
    obtain ⟨undisputed, noneMissing, -, applied⟩ :=
      (scanAttempt_eq_advance_iff _ _ _ _).mp advanced
    obtain ⟨-, -, -, -, recorded, -⟩ := applyReadyEvent_ok applied
    refine ⟨(channelDefinitionConflict_eq_false_iff _ _).mp undisputed, ?_, isApplied⟩
    intro parentId isParent
    apply appliedEventIds_of_advances toFinal
    rw [recorded, Std.ExtTreeSet.mem_insert]
    exact Or.inr ((unappliedParentIds_eq_nil_iff middle event).mp noneMissing parentId isParent)
  · obtain ⟨undisputed, noneMissing, -⟩ := (scanAttempt_eq_drop_iff _ _ _).mp dropped
    refine ⟨(channelDefinitionConflict_eq_false_iff _ _).mp undisputed, ?_, isApplied⟩
    intro parentId isParent
    exact appliedEventIds_of_advances toFinal
      ((unappliedParentIds_eq_nil_iff middle event).mp noneMissing parentId isParent)

/-- A replay keeps exactly what it has not settled. -/
theorem kept_eq_filter
    (scanned :
      replay (scanAttempt (conflictingChannelIds events)) (new workspaceId) events = .ok scan)
    (unsettled : SignedEvent → Bool)
    (decides : ∀ event, unsettled event = true ↔ ¬ Settled events scan.state event) :
    scan.kept = events.filter unsettled := by
  have keptUnsettled : scan.kept.filter unsettled = scan.kept := by
    rw [List.filter_eq_self]
    intro event kept
    rw [decides, settled_iff, replay_fixpoint scanned event kept]
    simp
  rw [← keptUnsettled]
  refine replay_kept_filter unsettled scanned ?_
  intro event handled
  rw [← Bool.not_eq_true, decides, not_not]
  exact settled_of_replay scanned handled

/-- The visited states after the first advance are rooted, and all are reachable. -/
theorem reachable_of_passesThrough
    {conflicting : HashSet ChannelId} {advanced earlier : List SignedEvent}
    {final visited : WorkspaceState}
    (through :
      PassesThrough (scanAttempt conflicting) (new workspaceId) advanced final earlier visited) :
    Reachable workspaceId earlier visited := by
  obtain ⟨-, -, toVisited, -⟩ := through
  exact reachable_of_run (run_of_advances toVisited)

/-- A device that no event of the batch grants a role is a member of no visited
state. -/
theorem not_member_of_ungranted
    {visited : WorkspaceState} {deviceId : DeviceId}
    (visits : BatchVisits workspaceId events visited)
    (ungranted : ∀ event ∈ events, WorkspaceAccessIndex.grantsRoleTo event ≠ some deviceId) :
    deviceId ∉ visited.members := by
  obtain ⟨scan, earlier, scanned, through⟩ := visits
  have reached := reachable_of_passesThrough through
  have noRole : visited.accessIndex.roles[deviceId]? = none := by
    refine WorkspaceAccessIndex.roles_of_ungranted reached.ledger.index ?_
    intro event member
    obtain ⟨later, split, -⟩ := through
    have isAdvanced : event ∈ scan.advanced := by
      rw [split]
      exact List.mem_append_left _ member
    exact ungranted event (replay_advanced_subset scanned isAdvanced)
  rw [← reached.viewsMatch.members, Option.map_eq_none_iff] at noRole
  intro member
  rw [Std.ExtTreeMap.mem_iff_isSome_getElem?, noRole] at member
  cases member

/-! ## One more event in the batch -/

/-- A channel of the longer batch is disputed by the batch itself or by the last
event. -/
theorem disputedChannel_append_iff (channelId : ChannelId) :
    DisputedChannel (events ++ [outsider]) channelId ↔
      DisputedChannel events channelId ∨
        CreatesChannel outsider channelId ∧
          ∃ rival ∈ events, CreatesChannel rival channelId ∧ rival.eventId ≠ outsider.eventId := by
  constructor
  · intro ⟨first, firstMember, second, secondMember, firstCreates, secondCreates, different⟩
    rcases List.mem_append.mp firstMember with firstEarlier | firstLast
    · rcases List.mem_append.mp secondMember with secondEarlier | secondLast
      · exact Or.inl ⟨first, firstEarlier, second, secondEarlier, firstCreates, secondCreates,
          different⟩
      · rw [List.mem_singleton.mp secondLast] at secondCreates different
        exact Or.inr ⟨secondCreates, first, firstEarlier, firstCreates, different⟩
    · rw [List.mem_singleton.mp firstLast] at firstCreates different
      rcases List.mem_append.mp secondMember with secondEarlier | secondLast
      · exact Or.inr ⟨firstCreates, second, secondEarlier, secondCreates, different.symm⟩
      · rw [List.mem_singleton.mp secondLast] at different
        exact absurd rfl different
  · intro disputed
    rcases disputed with
      ⟨first, firstMember, second, secondMember, creates⟩ |
        ⟨creates, rival, member, rivalCreates, different⟩
    · exact ⟨first, List.mem_append_left _ firstMember, second,
        List.mem_append_left _ secondMember, creates⟩
    · exact ⟨rival, List.mem_append_left _ member, outsider,
        List.mem_append_right _ List.mem_cons_self, rivalCreates, creates, different⟩

/-- The last event claims a channel that a settled event of the batch creates. -/
def ClaimsSettledChannel
    (events : List SignedEvent) (final : WorkspaceState) (outsider : SignedEvent) : Prop :=
  ∃ event ∈ events, Settled events final event ∧
    ∃ channelId, CreatesChannel event channelId ∧ CreatesChannel outsider channelId

/-- The events that only the longer batch disputes. -/
private def NewlyDisputed
    (events : List SignedEvent) (outsider event : SignedEvent) : Prop :=
  event ∈ events ∧
    channelDefinitionConflict (conflictingChannelIds events) event = false ∧
      channelDefinitionConflict (conflictingChannelIds (events ++ [outsider])) event = true

private theorem holdsBack_newlyDisputed :
    HoldsBack (scanAttempt (conflictingChannelIds events))
      (scanAttempt (conflictingChannelIds (events ++ [outsider]))) events
      (NewlyDisputed events outsider) where
  agrees := by
    intro state event member notNew
    have sameConflict :
        channelDefinitionConflict (conflictingChannelIds (events ++ [outsider])) event =
          channelDefinitionConflict (conflictingChannelIds events) event := by
      cases before : channelDefinitionConflict (conflictingChannelIds events) event with
      | true =>
          obtain ⟨channelId, creates, disputed⟩ := (channelDefinitionConflict_iff _ _).mp before
          rw [channelDefinitionConflict_iff]
          exact ⟨channelId, creates, (disputedChannel_append_iff channelId).mpr (Or.inl disputed)⟩
      | false =>
          by_contra differs
          exact notNew ⟨member, before, Bool.eq_true_of_not_eq_false differs⟩
    simp only [scanAttempt, sameConflict]
  waits := by
    intro state event _ held
    rw [scanAttempt_eq_keep_iff]
    exact Or.inl held.2.2

private theorem claims_of_newlyDisputed
    {event : SignedEvent} (held : NewlyDisputed events outsider event) :
    ∃ channelId, CreatesChannel event channelId ∧ CreatesChannel outsider channelId := by
  obtain ⟨-, before, after⟩ := held
  obtain ⟨channelId, creates, disputed⟩ := (channelDefinitionConflict_iff _ _).mp after
  have undisputed := (channelDefinitionConflict_eq_false_iff _ _).mp before channelId creates
  rcases (disputedChannel_append_iff channelId).mp disputed with earlier | ⟨claimed, _⟩
  · exact absurd earlier undisputed
  · exact ⟨channelId, creates, claimed⟩

/-- An outsider that claims no settled channel stays pending and changes nothing
else. -/
private theorem replay_of_harmless
    (scanned :
      replay (scanAttempt (conflictingChannelIds events)) (new workspaceId) events = .ok scan)
    (scannedLate :
      replay (scanAttempt (conflictingChannelIds (events ++ [outsider]))) (new workspaceId)
        (events ++ [outsider]) = .ok late)
    (progressed : scan.advanced ≠ [])
    (fresh : ∀ event ∈ events, event.eventId ≠ outsider.eventId)
    (outside :
      ∀ visited, BatchVisits workspaceId events visited →
        outsider.event.authorDeviceId ∉ visited.members)
    (harmless : ¬ ClaimsSettledChannel events scan.state outsider) :
    late = { scan with kept := scan.kept ++ [outsider] } := by
  have pending :
      StayPending (scanAttempt (conflictingChannelIds events)) (new workspaceId) scan
        (NewlyDisputed events outsider) := by
    intro event held
    rw [← not_or]
    intro handled
    exact harmless ⟨event, held.1, settled_of_replay scanned handled,
      claims_of_newlyDisputed held⟩
  refine replay_straggler scanned scannedLate holdsBack_newlyDisputed pending ?_
  intro earlier middle through startsOnly noAbort
  have reached := reachable_of_passesThrough through
  have absorbed : earlier ≠ [] := fun none => progressed (startsOnly none)
  have rooted := WorkspaceAccessIndex.rootSeen_of_run reached.ledger.index absorbed
  have noRole : middle.accessIndex.roles[outsider.event.authorDeviceId]? = none := by
    have notMember := outside middle ⟨scan, earlier, scanned, through⟩
    rw [← reached.viewsMatch.members, Std.ExtTreeMap.getElem?_eq_none notMember]
    rfl
  -- the applied events are events of the batch, so the outsider is not applied yet
  have unapplied : outsider.eventId ∉ middle.appliedEventIds := by
    intro known
    obtain ⟨event, member, same⟩ :=
      List.mem_map.mp ((reached.ledger.mem_appliedEventIds _).mp known)
    obtain ⟨later, split, -⟩ := through
    have isAdvanced : event ∈ scan.advanced := by
      rw [split]
      exact List.mem_append_left _ member
    exact fresh event (replay_advanced_subset scanned isAdvanced) same
  have refused := WorkspaceAccessIndex.authorize_of_outsider rooted noRole
  cases decision :
      scanAttempt (conflictingChannelIds (events ++ [outsider])) middle outsider with
  | keep => rfl
  | drop => exact absurd ((scanAttempt_eq_drop_iff _ _ _).mp decision).2.2 unapplied
  | advance next =>
      obtain ⟨-, -, -, applied⟩ := (scanAttempt_eq_advance_iff _ _ _ _).mp decision
      exact absurd (applyReadyEvent_ok applied).2.1 refused
  | abort raised => exact absurd decision (noAbort raised)

/-- A claimed settled channel turns its definition into another gap. -/
private theorem more_gaps_of_claim
    (scanned :
      replay (scanAttempt (conflictingChannelIds events)) (new workspaceId) events = .ok scan)
    (scannedLate :
      replay (scanAttempt (conflictingChannelIds (events ++ [outsider]))) (new workspaceId)
        (events ++ [outsider]) = .ok late)
    (fresh : ∀ event ∈ events, event.eventId ≠ outsider.eventId)
    (sameState : late.state = scan.state)
    (claims : ClaimsSettledChannel events scan.state outsider) :
    scan.kept.length + 1 < late.kept.length := by
  classical
  obtain ⟨event, member, settled, channelId, creates, claimed⟩ := claims
  let unsettled (tested : SignedEvent) : Bool := decide (¬ Settled events scan.state tested)
  let unsettledLate (tested : SignedEvent) : Bool :=
    decide (¬ Settled (events ++ [outsider]) late.state tested)
  have kept : scan.kept = events.filter unsettled :=
    kept_eq_filter scanned unsettled fun _ => decide_eq_true_iff
  have keptLate : late.kept = (events ++ [outsider]).filter unsettledLate :=
    kept_eq_filter scannedLate unsettledLate fun _ => decide_eq_true_iff
  have disputed : DisputedChannel (events ++ [outsider]) channelId :=
    (disputedChannel_append_iff channelId).mpr
      (Or.inr ⟨claimed, event, member, creates, fresh event member⟩)
  have outsiderKept : unsettledLate outsider = true :=
    decide_eq_true fun lateSettled => lateSettled.undisputed channelId claimed disputed
  have eventKept : unsettledLate event = true :=
    decide_eq_true fun lateSettled => lateSettled.undisputed channelId creates disputed
  have monotone : ∀ tested, unsettled tested = true → unsettledLate tested = true := by
    intro tested isUnsettled
    refine decide_eq_true fun lateSettled => of_decide_eq_true isUnsettled ?_
    refine ⟨?_, ?_, ?_⟩
    · intro testedId testedCreates testedDisputed
      exact lateSettled.undisputed testedId testedCreates
        ((disputedChannel_append_iff testedId).mpr (Or.inl testedDisputed))
    · rw [← sameState]
      exact lateSettled.parentsApplied
    · rw [← sameState]
      exact lateSettled.isApplied
  have fewer : (events.filter unsettled).length < (events.filter unsettledLate).length := by
    have twice : events.filter unsettled = (events.filter unsettledLate).filter unsettled := by
      rw [List.filter_filter]
      refine List.filter_congr fun tested _ => ?_
      cases isUnsettled : unsettled tested with
      | false => rfl
      | true => rw [monotone tested isUnsettled]; rfl
    rw [twice]
    refine List.length_filter_lt_length_iff_exists.mpr ⟨event, ?_, ?_⟩
    · exact List.mem_filter.mpr ⟨member, eventKept⟩
    · simpa [unsettled] using settled
  rw [kept, keptLate, List.filter_append, List.length_append]
  simp only [List.filter_cons, outsiderKept, if_true, List.filter_nil, List.length_singleton]
  omega

end Replays

/-- A workspace with one channel. -/
def homeHistory : List SignedEvent :=
  [draftEvent "e0" "root" none [] (.workspaceCreated "home"),
    draftEvent "e1" "root" none ["e0"] (.channelCreated ⟨"general"⟩ "general" false)]

/-- A stranger writes into the channel. -/
def strangerMessage : SignedEvent :=
  draftEvent "x0" "eve" (some "general") ["e1"] (.messageCreated ⟨"m0"⟩ "hello" [])

/-- A stranger claims the channel. -/
def strangerChannel : SignedEvent :=
  draftEvent "x1" "eve" none [] (.channelCreated ⟨"general"⟩ "mine" true)

private theorem eve_outside (visited : WorkspaceState)
    (visits : BatchVisits ⟨"w"⟩ homeHistory visited) :
    (⟨"eve"⟩ : DeviceId) ∉ visited.members :=
  not_member_of_ungranted visits (by decide)

/-- Nobody gets into a workspace that is not created. -/
example :
    ((new ⟨"w"⟩).applyBatch
        [draftEvent "x0" "eve" none [] (.memberInvited ⟨"eve"⟩ .admin)]).1 =
      .ok
        { appliedEvents := []
          gaps := [{ eventId := ⟨"x0"⟩, missingParentIds := [] }] } := by
  decide +kernel

end WorkspaceState

end Chaft
