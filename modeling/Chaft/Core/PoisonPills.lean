import Chaft.Core.HistoryAgreement
import Chaft.Core.IdentifierSizes
import Chaft.Core.RoleProtection

/-!
# Gaps that abort later batches

A pulled event is stored when the batch that ends with it materializes, also
as a gap.  It is a poison pill if some later batch aborts on it: then nothing
that was pulled after it can be materialized any more.

Two kinds of events do this.  The payload of a gap is not checked while a
parent is missing, so an oversized one aborts the first batch that brings its
parents.  And a direct message channel that leaves out its author is refused
for that only once the author is a member, with a refusal that aborts.
-/

namespace Chaft

open Keyed Outcome StableReplay Transition

/-! ## Poisonous events -/

/-- The payload is refused, and the refusal aborts a batch. -/
def refusedPayloadAborts (body : EventBody) : Bool :=
  match validateEventBodyPayloadSizes body with
  | .error refusal => refusal.abortsBatch
  | .ok () => false

/-- A direct message channel whose author is not a participant. -/
def leavesOutAuthor (event : SignedEvent) : Bool :=
  match event.event.body with
  | .directMessageChannelCreated _ _ participantDeviceIds =>
      decide (event.event.authorDeviceId ∉ participantDeviceIds)
  | _ => false

def IsPoisonous (event : SignedEvent) : Prop :=
  refusedPayloadAborts event.event.body = true ∨ leavesOutAuthor event = true

instance (event : SignedEvent) : Decidable (IsPoisonous event) :=
  inferInstanceAs (Decidable (_ ∨ _))

namespace WorkspaceAccessIndex

/-- With an accepted payload and, in a direct message, its author among the
participants, every refusal only defers the event. -/
private theorem authorizeBody_defers
    {index : WorkspaceAccessIndex} {event : SignedEvent}
    (accepted : validateEventBodyPayloadSizes event.event.body = .ok ())
    (listed : leavesOutAuthor event = false) :
    OnlyRaises (fun raised => raised.abortsBatch = false) (index.authorizeBody event) := by
  unfold authorizeBody
  cases body : event.event.body with
  | directMessageChannelCreated channelId name participantDeviceIds =>
      have two : participantDeviceIds.length = 2 := by
        rw [body] at accepted
        simp only [validateEventBodyPayloadSizes, bind_eq_ok_iff, ensure_eq_ok_iff] at accepted
        obtain ⟨-, -, -, two, -⟩ := accepted
        exact two
      have participates : event.event.authorDeviceId ∈ participantDeviceIds := by
        simpa [leavesOutAuthor, body] using listed
      simp only [requireRootedMember, requireRole, requireNewChannelId, two, participates,
        ensure, if_true]
      repeat' with_reducible first
        | exact onlyRaises_ok ()
        | exact onlyRaises_ensure _ rfl
        | exact onlyRaises_okOr _ rfl
        | apply onlyRaises_bind
        | apply onlyRaises_checkAll
        | intro _
        | split
      all_goals exact onlyRaises_error rfl
  | _ =>
      simp only [requireRootedMember, requireRoleOver, requireRole, requireNewChannelId,
        requireChannelAccess, requireChannelMemberGrant, requireWorkspaceOpenmlsCommitter,
        requireChannelOpenmlsCommitter, requireChannel, requireMessage,
        requirePersonProfileUpdate, requirePersonDeviceLink, requireChannelMatch,
        requireEventChannel]
      repeat' with_reducible first
        | exact onlyRaises_ok ()
        | exact onlyRaises_error rfl
        | exact onlyRaises_ensure _ rfl
        | exact onlyRaises_okOr _ rfl
        | apply onlyRaises_bind
        | intro _
        | split

/-- An index refuses an event with valid IDs for its payload or for its body. -/
theorem authorize_eq_error_cases
    {index : WorkspaceAccessIndex} {event : SignedEvent} {refusal : AuthorizationError}
    (valid : validateSignedEventIds event = .ok ())
    (refused : index.authorize event = .error refusal) :
    refusal = .wrongWorkspace ∧ event.event.workspaceId ≠ index.workspaceId ∨
      validateEventBodyPayloadSizes event.event.body = .error refusal ∨
        validateEventBodyPayloadSizes event.event.body = .ok () ∧
          index.authorizeBody event = .error refusal := by
  simp only [authorize, valid, bind_eq_error_iff, reduceCtorEq, ensure_eq_error_iff,
    ensure_eq_ok_iff, false_or, true_and, Unique.exists_iff] at refused
  tauto

/-- An event that is not poisonous is refused nowhere with a refusal that aborts a
batch. -/
theorem authorize_defers
    {index : WorkspaceAccessIndex} {event : SignedEvent} {refusal : AuthorizationError}
    (valid : validateSignedEventIds event = .ok ()) (harmless : ¬ IsPoisonous event)
    (refused : index.authorize event = .error refusal) :
    refusal.abortsBatch = false := by
  rw [IsPoisonous, not_or, Bool.not_eq_true, Bool.not_eq_true] at harmless
  rcases authorize_eq_error_cases valid refused with
    ⟨rfl, -⟩ | payloadRefused | ⟨accepted, bodyRefused⟩
  · rfl
  · simpa [refusedPayloadAborts, payloadRefused] using harmless.1
  · exact authorizeBody_defers accepted harmless.2 refusal bodyRefused

/-- A poisonous event is authorized nowhere. -/
theorem authorize_of_poisonous
    {index : WorkspaceAccessIndex} {event : SignedEvent} (poisonous : IsPoisonous event) :
    index.authorize event ≠ .ok () := by
  intro authorized
  obtain ⟨-, -, accepted, permitted⟩ := (authorize_eq_ok_iff _ _ _).mp authorized
  rcases poisonous with payloadAborts | leavesOut
  · simp [refusedPayloadAborts, accepted] at payloadAborts
  · cases body : event.event.body with
    | directMessageChannelCreated channelId name participantDeviceIds =>
        simp only [authorizeBody, body, bind_eq_ok_iff, ensure_eq_ok_iff] at permitted
        simp only [leavesOutAuthor, body, decide_eq_true_eq] at leavesOut
        obtain ⟨_, _, _, _, _, _, _, _, _, participates, _⟩ := permitted
        exact leavesOut participates
    | _ => simp [leavesOutAuthor, body] at leavesOut

/-- A poisonous event whose payload is refused aborts the batch that tries it. -/
theorem payload_refusal_aborts
    {event : SignedEvent} {refusal : AuthorizationError} (poisonous : IsPoisonous event)
    (refused : validateEventBodyPayloadSizes event.event.body = .error refusal) :
    refusal.abortsBatch = true := by
  rcases poisonous with payloadAborts | leavesOut
  · simpa [refusedPayloadAborts, refused] using payloadAborts
  · cases body : event.event.body with
    | directMessageChannelCreated channelId name participantDeviceIds =>
        have onlyAborts :
            OnlyRaises (fun raised => raised.abortsBatch = true)
              (validateEventBodyPayloadSizes event.event.body) := by
          rw [body]
          unfold validateEventBodyPayloadSizes validateEventTextSize
          repeat' with_reducible first
            | exact onlyRaises_ensure _ rfl
            | apply onlyRaises_bind
            | intro _
        exact onlyAborts refusal refused
    | _ => simp [leavesOutAuthor, body] at leavesOut

/-- Once its author owns a workspace without channels, a poisonous event aborts the
batch that tries it. -/
theorem refusal_of_owner_aborts
    {index : WorkspaceAccessIndex} {event : SignedEvent} {refusal : AuthorizationError}
    (valid : validateSignedEventIds event = .ok ())
    (sameWorkspace : event.event.workspaceId = index.workspaceId)
    (poisonous : IsPoisonous event) (noChannels : index.channels = ∅)
    (rooted : index.rootSeen = true)
    (isOwner : index.roles[event.event.authorDeviceId]? = some .owner)
    (refused : index.authorize event = .error refusal) :
    refusal.abortsBatch = true := by
  rcases authorize_eq_error_cases valid refused with
    ⟨-, other⟩ | payloadRefused | ⟨accepted, bodyRefused⟩
  · exact absurd sameWorkspace other
  · exact payload_refusal_aborts poisonous payloadRefused
  · rcases poisonous with payloadAborts | leavesOut
    · simp [refusedPayloadAborts, accepted] at payloadAborts
    · cases body : event.event.body with
      | directMessageChannelCreated channelId name participantDeviceIds =>
          simp only [leavesOutAuthor, body, decide_eq_true_eq] at leavesOut
          have member :
              index.requireRootedMember event.event.authorDeviceId = .ok .owner :=
            (index.requireRootedMember_eq_ok_iff _ _).mpr ⟨rooted, isOwner⟩
          have isNew : index.requireNewChannelId channelId = .ok () := by
            rw [requireNewChannelId_eq_ok_iff, noChannels]
            exact Std.ExtTreeMap.not_mem_empty
          simp only [authorizeBody, body, member, isNew, leavesOut] at bodyRefused
          by_cases two : participantDeviceIds.length = 2
          · simp only [two, ensure, if_true, if_false] at bodyRefused
            cases bodyRefused
            rfl
          · simp only [two, ensure, if_false] at bodyRefused
            cases bodyRefused
            rfl
      | _ => simp [leavesOutAuthor, body] at leavesOut

end WorkspaceAccessIndex

namespace WorkspaceState

/-- The batch materializes on a new state. -/
def Materializes (workspaceId : WorkspaceId) (events : List SignedEvent) : Prop :=
  ((new workspaceId).applyBatch events).1.isOk = true

instance (workspaceId : WorkspaceId) (events : List SignedEvent) :
    Decidable (Materializes workspaceId events) :=
  inferInstanceAs (Decidable (_ = true))

theorem materializes_iff (workspaceId : WorkspaceId) (events : List SignedEvent) :
    Materializes workspaceId events ↔
      (new workspaceId).validateBatch events = .ok () ∧
        ∃ scan,
          replay (scanAttempt (conflictingChannelIds events)) (new workspaceId) events =
            .ok scan := by
  unfold Materializes
  rw [applyBatch_eq_scanBatch, scanBatch]
  cases (new workspaceId).validateBatch events with
  | error raised => simp [Except.isOk, Except.toBool]
  | ok done =>
      cases replay (scanAttempt (conflictingChannelIds events)) (new workspaceId) events with
      | error failure => simp [Except.isOk, Except.toBool]
      | ok scan => simp [Except.isOk, Except.toBool]

/-- An event of the workspace aborts a replay only when it is tried and refused. -/
theorem refused_of_abort
    {conflicting : HashSet ChannelId} {state : WorkspaceState} {event : SignedEvent}
    {raised : BatchFailure}
    (sameWorkspace : event.event.workspaceId = state.workspaceId)
    (decision : scanAttempt conflicting state event = .abort raised) :
    state.unappliedParentIds event = [] ∧ event.eventId ∉ state.appliedEventIds ∧
      ∃ refusal, state.accessIndex.authorize event = .error refusal ∧
        refusal.abortsBatch = true := by
  unfold scanAttempt at decision
  split at decision
  · cases decision
  · rename_i free
    rw [not_or, not_not] at free
    split at decision
    · cases decision
    · rename_i unknown
      refine ⟨free.2, unknown, ?_⟩
      rcases applyReadyEvent_cases state event with
        ⟨other, -⟩ | ⟨refusal, -, refused, outcome⟩ | ⟨next, -, -, outcome⟩
      · exact absurd sameWorkspace other
      · rw [outcome] at decision
        dsimp only at decision
        split at decision
        · rename_i aborts
          exact ⟨refusal, refused, aborts⟩
        · cases decision
      · rw [outcome] at decision
        cases decision

/-- The event is not poisonous, or names itself as a parent and is never tried. -/
def NeverPoisons (event : SignedEvent) : Prop :=
  ¬ IsPoisonous event ∨ event.eventId ∈ event.event.parents

theorem scanAttempt_ne_abort
    {conflicting : HashSet ChannelId} {state : WorkspaceState} {event : SignedEvent}
    (valid : validateSignedEventIds event = .ok ())
    (sameWorkspace : event.event.workspaceId = state.workspaceId)
    (harmless : NeverPoisons event) (raised : BatchFailure) :
    scanAttempt conflicting state event ≠ .abort raised := by
  intro decision
  obtain ⟨noneMissing, unapplied, refusal, refused, aborts⟩ :=
    refused_of_abort sameWorkspace decision
  rcases harmless with notPoisonous | ownParent
  · rw [WorkspaceAccessIndex.authorize_defers valid notPoisonous refused] at aborts
    cases aborts
  · exact unapplied
      ((unappliedParentIds_eq_nil_iff state event).mp noneMissing event.eventId ownParent)

/-- Without poison a batch of valid events of the workspace materializes. -/
theorem materializes_of_harmless
    {workspaceId : WorkspaceId} {events : List SignedEvent}
    (validated : (new workspaceId).validateBatch events = .ok ())
    (harmless : ∀ event ∈ events, NeverPoisons event) :
    Materializes workspaceId events := by
  rw [materializes_iff]
  refine ⟨validated, ?_⟩
  rw [validateBatch_eq_ok_iff] at validated
  have sameWorkspace :
      ∀ state item next, state.workspaceId = workspaceId →
        scanAttempt (conflictingChannelIds events) state item = .advance next →
          next.workspaceId = workspaceId := by
    intro state item next inWorkspace advanced
    obtain ⟨-, -, -, applied⟩ := (scanAttempt_eq_advance_iff _ _ _ _).mp advanced
    rw [(applyReadyEvent_ok applied).2.2.1, inWorkspace]
  refine
    @replay_of_never_aborts _ _ _ _ (fun state => state.workspaceId = workspaceId) _ _ rfl
      sameWorkspace ?_
  intro state event member inWorkspace raised
  obtain ⟨valid, ofWorkspace⟩ := validated event member
  exact scanAttempt_ne_abort valid (ofWorkspace.trans inWorkspace.symm) (harmless event member)
    raised

/-! ## Founders of a workspace -/

/-- An event without a channel, a time and parents. -/
def bareEvent
    (workspaceId : WorkspaceId) (author : DeviceId) (body : EventBody) (eventId : EventId) :
    SignedEvent where
  eventId := eventId
  event :=
    { schemaVersion := 1
      workspaceId := workspaceId
      channelId := none
      authorDeviceId := author
      timestamp := { physicalMs := 0, logical := 0 }
      parents := []
      body := body }
  authorPublicKey := []
  signature := []

/-- One device creates the workspace and confirms its policy under the other IDs. -/
def founding (workspaceId : WorkspaceId) (author : DeviceId) : List EventId → List SignedEvent
  | [] => []
  | first :: rest =>
      bareEvent workspaceId author (.workspaceCreated "") first ::
        rest.map (bareEvent workspaceId author (.workspaceAccessPolicyUpdated .inviteOnly))

/-- A creation of the workspace or a confirmation of its policy by the device. -/
def IsFounder (workspaceId : WorkspaceId) (author : DeviceId) (event : SignedEvent) : Prop :=
  event = bareEvent workspaceId author (.workspaceCreated "") event.eventId ∨
    event =
      bareEvent workspaceId author (.workspaceAccessPolicyUpdated .inviteOnly) event.eventId

theorem isFounder_of_mem_founding
    {workspaceId : WorkspaceId} {author : DeviceId} {eventIds : List EventId}
    {event : SignedEvent} (member : event ∈ founding workspaceId author eventIds) :
    IsFounder workspaceId author event ∧ event.eventId ∈ eventIds := by
  cases eventIds with
  | nil => cases member
  | cons first rest =>
      rcases List.mem_cons.mp member with isRoot | isPolicy
      · rw [isRoot]
        exact ⟨Or.inl rfl, List.mem_cons_self⟩
      · obtain ⟨eventId, inRest, rfl⟩ := List.mem_map.mp isPolicy
        exact ⟨Or.inr rfl, List.mem_cons_of_mem first inRest⟩

theorem bareEvent_valid
    {workspaceId : WorkspaceId} {author : DeviceId} {body : EventBody} {eventId : EventId}
    (workspaceFits : workspaceId.Fits) (authorFits : author.Fits) (eventIdFits : eventId.Fits)
    (bodyFits : validateEventBodyIds body = .ok ()) :
    validateSignedEventIds (bareEvent workspaceId author body eventId) = .ok () := by
  have workspaceValid := (validateWorkspaceIdSize_eq_ok_iff "workspace ID" () _).mpr workspaceFits
  have authorValid := (validateDeviceIdSize_eq_ok_iff "author device ID" () _).mpr authorFits
  have eventIdValid := (validateEventIdSize_eq_ok_iff "event ID" () _).mpr eventIdFits
  simp only [validateSignedEventIds, bareEvent, workspaceValid, authorValid, eventIdValid, bodyFits]
  rfl

theorem IsFounder.valid
    {workspaceId : WorkspaceId} {author : DeviceId} {event : SignedEvent}
    (founder : IsFounder workspaceId author event)
    (workspaceFits : workspaceId.Fits) (authorFits : author.Fits)
    (eventIdFits : event.eventId.Fits) :
    validateSignedEventIds event = .ok () ∧ event.event.workspaceId = workspaceId ∧
      ¬ IsPoisonous event := by
  rcases founder with isRoot | isPolicy
  · rw [isRoot]
    exact ⟨bareEvent_valid workspaceFits authorFits eventIdFits rfl, rfl, of_decide_eq_true rfl⟩
  · rw [isPolicy]
    exact ⟨bareEvent_valid workspaceFits authorFits eventIdFits rfl, rfl, of_decide_eq_true rfl⟩

/-- After founders alone the workspace has no channels, and its creator owns it. -/
theorem founded_of_run
    {workspaceId : WorkspaceId} {author : DeviceId} {history : List SignedEvent}
    {index : WorkspaceAccessIndex}
    (ran :
      Run WorkspaceAccessIndex.authorizeAndApply (WorkspaceAccessIndex.new workspaceId) history
        index)
    (founders : ∀ event ∈ history, IsFounder workspaceId author event) :
    index.channels = ∅ ∧ index.workspaceId = workspaceId ∧
      (index.rootSeen = true → index.roles[author]? = some .owner) := by
  induction ran with
  | start => exact ⟨rfl, rfl, by simp [WorkspaceAccessIndex.new]⟩
  | @extend earlier index next event _ _ accepted inductionHypothesis =>
      obtain ⟨noChannels, ofWorkspace, owned⟩ :=
        inductionHypothesis fun other member => founders other (List.mem_append_left _ member)
      obtain ⟨-, rfl⟩ := (WorkspaceAccessIndex.authorizeAndApply_eq_ok_iff _ _ _).mp accepted
      rw [WorkspaceAccessIndex.applyAuthorized_channels,
        WorkspaceAccessIndex.applyAuthorized_workspaceId,
        WorkspaceAccessIndex.applyAuthorized_rootSeen,
        WorkspaceAccessIndex.applyAuthorized_roles]
      rcases founders event (List.mem_append_right _ List.mem_cons_self) with isRoot | isPolicy
      · rw [isRoot]
        refine ⟨noChannels, ofWorkspace, fun _ => ?_⟩
        simp [WorkspaceAccessIndex.rolesAfter, bareEvent]
      · rw [isPolicy]
        exact ⟨noChannels, ofWorkspace, owned⟩

section Necessity

variable {gap : SignedEvent} {events : List SignedEvent}
  {workspaceId : WorkspaceId} {scan : Scan WorkspaceState SignedEvent}

private theorem not_advanced_of_poisonous
    (scanned :
      replay (scanAttempt (conflictingChannelIds events)) (new workspaceId) events = .ok scan)
    (poisonous : IsPoisonous gap) : gap ∉ scan.advanced := by
  intro isAdvanced
  obtain ⟨_, _, _, _, _, _, advanced, _⟩ := (replay_advances scanned).exists_step isAdvanced
  obtain ⟨-, -, -, applied⟩ := (scanAttempt_eq_advance_iff _ _ _ _).mp advanced
  exact WorkspaceAccessIndex.authorize_of_poisonous poisonous (applyReadyEvent_ok applied).2.1

/-- An undisputed event without open parents that the final state authorizes, or
refuses with an abort, is applied in the end. -/
private theorem applied_of_not_deferred
    (scanned :
      replay (scanAttempt (conflictingChannelIds events)) (new workspaceId) events = .ok scan)
    {event : SignedEvent} (member : event ∈ events)
    (undisputed : channelDefinitionConflict (conflictingChannelIds events) event = false)
    (parentsApplied : ∀ parentId ∈ event.event.parents, parentId ∈ scan.state.appliedEventIds)
    (notDeferred :
      ∀ refusal, scan.state.accessIndex.authorize event = .error refusal →
        refusal.abortsBatch = true) :
    event.eventId ∈ scan.state.appliedEventIds := by
  rcases replay_mem scanned member with kept | handled
  · rcases (scanAttempt_eq_keep_iff _ _ _).mp (replay_fixpoint scanned event kept) with
      disputed | missing | ⟨_, _, refusal, refused, defers⟩
    · rw [undisputed] at disputed
      cases disputed
    · exact absurd ((unappliedParentIds_eq_nil_iff _ _).mpr parentsApplied) missing
    · rw [notDeferred refusal refused] at defers
      cases defers
  · exact applied_of_settled scanned handled

/-- Next to a poisonous event the founders are all applied, and nothing else is. -/
private theorem founders_applied
    {author : DeviceId} {first : EventId} {rest : List EventId}
    (workspaceFits : workspaceId.Fits) (authorFits : author.Fits)
    (eventIdsFit : ∀ eventId ∈ first :: rest, eventId.Fits)
    (isBatch : events = gap :: founding workspaceId author (first :: rest))
    (scanned :
      replay (scanAttempt (conflictingChannelIds events)) (new workspaceId) events = .ok scan)
    (poisonous : IsPoisonous gap) :
    (∀ eventId, eventId ∈ scan.state.appliedEventIds ↔ eventId ∈ first :: rest) ∧
      scan.state.accessIndex.channels = ∅ ∧
        scan.state.accessIndex.workspaceId = workspaceId ∧
          scan.state.accessIndex.rootSeen = true ∧
            scan.state.accessIndex.roles[author]? = some .owner := by
  have reached : Reachable workspaceId scan.advanced scan.state :=
    reachable_of_run (run_of_advances (replay_advances scanned))
  have fromFounding :
      ∀ event ∈ scan.advanced, event ∈ founding workspaceId author (first :: rest) := by
    intro event isAdvanced
    have member := replay_advanced_subset scanned isAdvanced
    rw [isBatch] at member
    rcases List.mem_cons.mp member with isGap | isFounding
    · rw [isGap] at isAdvanced
      exact absurd isAdvanced (not_advanced_of_poisonous scanned poisonous)
    · exact isFounding
  obtain ⟨noChannels, ofWorkspace, owned⟩ :=
    founded_of_run reached.ledger.index fun event isAdvanced =>
      (isFounder_of_mem_founding (fromFounding event isAdvanced)).1
  -- founders create no channels, so nobody disputes them
  have undisputed :
      ∀ event, IsFounder workspaceId author event →
        channelDefinitionConflict (conflictingChannelIds events) event = false := by
    intro event founder
    rcases founder with isRoot | isPolicy
    · rw [isRoot]
      rfl
    · rw [isPolicy]
      rfl
  have inBatch :
      ∀ event ∈ founding workspaceId author (first :: rest), event ∈ events := by
    intro event member
    rw [isBatch]
    exact List.mem_cons_of_mem gap member
  have rooted : scan.state.accessIndex.rootSeen = true := by
    by_contra unrooted
    let root := bareEvent workspaceId author (.workspaceCreated "") first
    have authorized : scan.state.accessIndex.authorize root = .ok () := by
      have rootValid : validateSignedEventIds root = .ok () :=
        bareEvent_valid workspaceFits authorFits (eventIdsFit first List.mem_cons_self) rfl
      rw [WorkspaceAccessIndex.authorize_eq_ok_iff]
      refine ⟨rootValid, ofWorkspace.symm, rfl, ?_⟩
      simpa [WorkspaceAccessIndex.authorizeBody, root, bareEvent] using unrooted
    have isApplied : root.eventId ∈ scan.state.appliedEventIds := by
      refine applied_of_not_deferred scanned (inBatch root List.mem_cons_self)
        (undisputed root (Or.inl rfl)) (fun parentId isParent => by cases isParent) ?_
      intro refusal refused
      rw [authorized] at refused
      cases refused
    obtain ⟨event, member, -⟩ :=
      List.mem_map.mp ((reached.ledger.mem_appliedEventIds _).mp isApplied)
    exact unrooted
      (WorkspaceAccessIndex.rootSeen_of_run reached.ledger.index (List.ne_nil_of_mem member))
  have isOwner := owned rooted
  refine ⟨?_, noChannels, ofWorkspace, rooted, isOwner⟩
  intro eventId
  constructor
  · intro known
    obtain ⟨event, member, rfl⟩ :=
      List.mem_map.mp ((reached.ledger.mem_appliedEventIds _).mp known)
    exact (isFounder_of_mem_founding (fromFounding event member)).2
  · intro listed
    rcases List.mem_cons.mp listed with isFirst | inRest
    · -- only the first founder creates the workspace
      obtain ⟨root, isAdvanced, creates⟩ :=
        (WorkspaceAccessIndex.creations_of_run reached.ledger.index).1 rooted
      have isRoot : root.eventId = first := by
        rcases List.mem_cons.mp (fromFounding root isAdvanced) with isRoot | isPolicy
        · rw [isRoot]
          rfl
        · obtain ⟨_, _, rfl⟩ := List.mem_map.mp isPolicy
          cases creates
      rw [isFirst, ← isRoot, reached.ledger.mem_appliedEventIds]
      exact List.mem_map_of_mem isAdvanced
    · let policy :=
        bareEvent workspaceId author (.workspaceAccessPolicyUpdated .inviteOnly) eventId
      have authorized : scan.state.accessIndex.authorize policy = .ok () := by
        have policyValid : validateSignedEventIds policy = .ok () :=
          bareEvent_valid workspaceFits authorFits (eventIdsFit eventId listed) rfl
        rw [WorkspaceAccessIndex.authorize_eq_ok_iff]
        refine ⟨policyValid, ofWorkspace.symm, rfl, ?_⟩
        simp only [WorkspaceAccessIndex.authorizeBody, policy, bareEvent, bind_eq_ok_iff,
          WorkspaceAccessIndex.requireRootedMember_eq_ok_iff, requireRole_eq_ok_iff]
        exact ⟨.owner, ⟨rooted, isOwner⟩, Or.inl rfl⟩
      refine applied_of_not_deferred scanned
        (inBatch policy (List.mem_cons_of_mem _ (List.mem_map_of_mem inRest)))
        (undisputed policy (Or.inr rfl)) (fun parentId isParent => by cases isParent) ?_
      intro refusal refused
      rw [authorized] at refused
      cases refused

/-- An ID that differs from a given one. -/
def freshEventId (taken : EventId) : EventId :=
  if taken = ⟨"a"⟩ then ⟨"b"⟩ else ⟨"a"⟩

theorem freshEventId_ne (taken : EventId) : freshEventId taken ≠ taken := by
  unfold freshEventId
  split
  · rename_i same
    rw [same]
    decide
  · rename_i different
    exact fun same => different same.symm

theorem freshEventId_fits (taken : EventId) : (freshEventId taken).Fits := by
  unfold freshEventId Identifier.Fits
  split <;> decide

private theorem parents_fit (valid : validateSignedEventIds gap = .ok ()) :
    ∀ parentId ∈ gap.event.parents, parentId.Fits := by
  intro parentId isParent
  have parentsValid :
      checkAll (validateEventIdSize "parent event ID") gap.event.parents = .ok () := by
    cases inChannel : gap.event.channelId <;>
      simp only [validateSignedEventIds, inChannel, bind_eq_ok_iff] at valid <;>
      grind
  rw [checkAll_eq_ok_iff] at parentsValid
  exact (validateEventIdSize_eq_ok_iff _ _ _).mp (parentsValid parentId isParent)

private theorem validated_of_valid
    (valid : ∀ event ∈ events,
      validateSignedEventIds event = .ok () ∧ event.event.workspaceId = workspaceId) :
    (new workspaceId).validateBatch events = .ok () := by
  rw [validateBatch_eq_ok_iff]
  exact valid

/-- On a new state a poisonous event waits for its parents, or for the root. -/
private theorem kept_by_new
    {conflicting : HashSet ChannelId}
    (valid : validateSignedEventIds gap = .ok ()) (poisonous : IsPoisonous gap)
    (notAtOnce : gap.event.parents = [] → refusedPayloadAborts gap.event.body = false) :
    scanAttempt conflicting (new gap.event.workspaceId) gap = .keep := by
  cases decision : scanAttempt conflicting (new gap.event.workspaceId) gap with
  | keep => rfl
  | drop => simpa [new] using ((scanAttempt_eq_drop_iff _ _ _).mp decision).2.2
  | advance next =>
      obtain ⟨-, -, -, applied⟩ := (scanAttempt_eq_advance_iff _ _ _ _).mp decision
      exact absurd (applyReadyEvent_ok applied).2.1
        (WorkspaceAccessIndex.authorize_of_poisonous poisonous)
  | abort raised =>
      obtain ⟨noneMissing, -, refusal, refused, aborts⟩ := refused_of_abort rfl decision
      have noParents : gap.event.parents = [] := by
        rw [unappliedParentIds_eq_nil_iff] at noneMissing
        exact List.eq_nil_iff_forall_not_mem.mpr fun parentId isParent => by
          simpa [new] using noneMissing parentId isParent
      have payloadDefers := notAtOnce noParents
      rcases WorkspaceAccessIndex.authorize_eq_error_cases valid refused with
        ⟨-, elsewhere⟩ | payloadRefused | ⟨-, bodyRefused⟩
      · exact absurd rfl elsewhere
      · simp [refusedPayloadAborts, payloadRefused, aborts] at payloadDefers
      · have leavesOut : leavesOutAuthor gap = true :=
          poisonous.resolve_left (by simp [payloadDefers])
        cases body : gap.event.body with
        | directMessageChannelCreated channelId name participantDeviceIds =>
            simp only [WorkspaceAccessIndex.authorizeBody, body,
              WorkspaceAccessIndex.requireRootedMember, new, WorkspaceAccessIndex.new] at bodyRefused
            cases bodyRefused
            cases aborts
        | _ => simp [leavesOutAuthor, body] at leavesOut

/-- An event that is first tried without its parents, or without its author, and then
after the founders. -/
private theorem poisons_founding
    (valid : validateSignedEventIds gap = .ok ())
    (notOwnParent : gap.eventId ∉ gap.event.parents) (poisonous : IsPoisonous gap)
    (notAtOnce : gap.event.parents = [] → refusedPayloadAborts gap.event.body = false) :
    ∃ later, (∀ event ∈ later, ¬ IsPoisonous event) ∧
      Materializes gap.event.workspaceId [gap] ∧ Materializes gap.event.workspaceId later ∧
        ¬ Materializes gap.event.workspaceId (gap :: later) := by
  obtain ⟨workspaceFits, authorFits, -⟩ := fits_of_validateSignedEventIds valid
  obtain ⟨first, rest, eventIdsFit, areParents, notListed⟩ :
      ∃ first rest, (∀ eventId ∈ first :: rest, eventId.Fits) ∧
        (∀ parentId ∈ gap.event.parents, parentId ∈ first :: rest) ∧
          gap.eventId ∉ first :: rest := by
    cases parents : gap.event.parents with
    | nil =>
        refine ⟨freshEventId gap.eventId, [], ?_, by simp, ?_⟩
        · intro eventId member
          rw [List.mem_singleton.mp member]
          exact freshEventId_fits gap.eventId
        · intro member
          exact freshEventId_ne gap.eventId (List.mem_singleton.mp member).symm
    | cons first rest =>
        refine ⟨first, rest, ?_, fun parentId => id, ?_⟩
        · intro eventId member
          rw [← parents] at member
          exact parents_fit valid eventId member
        · rw [← parents]
          exact notOwnParent
  let later := founding gap.event.workspaceId gap.event.authorDeviceId (first :: rest)
  have founders :
      ∀ event ∈ later, validateSignedEventIds event = .ok () ∧
        event.event.workspaceId = gap.event.workspaceId ∧ ¬ IsPoisonous event := by
    intro event member
    obtain ⟨founder, listed⟩ := isFounder_of_mem_founding member
    exact founder.valid workspaceFits authorFits (eventIdsFit event.eventId listed)
  refine ⟨later, fun event member => (founders event member).2.2, ?_, ?_, ?_⟩
  · -- alone, the event is not tried, or refused because there is no root
    rw [materializes_iff]
    refine ⟨validated_of_valid (by simpa using valid), ?_⟩
    exact ⟨_, passes_of_all_kept _ (by simpa using kept_by_new valid poisonous notAtOnce)⟩
  · exact materializes_of_harmless
      (validated_of_valid fun event member => ⟨(founders event member).1, (founders event member).2.1⟩)
      fun event member => Or.inl (founders event member).2.2
  · intro materializes
    obtain ⟨-, scan, scanned⟩ := (materializes_iff _ _).mp materializes
    obtain ⟨appliedIds, noChannels, ofWorkspace, rooted, isOwner⟩ :=
      founders_applied workspaceFits authorFits eventIdsFit rfl scanned poisonous
    have undisputed :
        channelDefinitionConflict (conflictingChannelIds (gap :: later)) gap = false := by
      rw [← Bool.not_eq_true, channelDefinitionConflict_iff]
      intro disputed
      obtain ⟨channelId, -, one, oneMember, rival, rivalMember, oneCreates, rivalCreates,
        different⟩ := disputed
      have onlyGap :
          ∀ event ∈ gap :: later, CreatesChannel event channelId → event = gap := by
        intro event member creates
        rcases List.mem_cons.mp member with isGap | isFounding
        · exact isGap
        · rcases (isFounder_of_mem_founding isFounding).1 with isRoot | isPolicy
          · rw [isRoot] at creates
            cases creates
          · rw [isPolicy] at creates
            cases creates
      rw [onlyGap one oneMember oneCreates, onlyGap rival rivalMember rivalCreates] at different
      exact different rfl
    have isApplied := applied_of_not_deferred scanned List.mem_cons_self undisputed
      (fun parentId isParent => (appliedIds parentId).mpr (areParents parentId isParent))
      fun refusal refused =>
        WorkspaceAccessIndex.refusal_of_owner_aborts valid ofWorkspace.symm poisonous noChannels
          rooted isOwner refused
    exact notListed ((appliedIds gap.eventId).mp isApplied)

/-- A channel ID that the event does not create. -/
def otherChannelId (event : SignedEvent) : ChannelId :=
  if createdChannelId event.event.body = some ⟨"a"⟩ then ⟨"b"⟩ else ⟨"a"⟩

theorem not_creates_otherChannelId (event : SignedEvent) :
    ¬ CreatesChannel event (otherChannelId event) := by
  unfold CreatesChannel otherChannelId
  split
  · rename_i same
    rw [same]
    decide
  · assumption

theorem otherChannelId_fits (event : SignedEvent) : (otherChannelId event).Fits := by
  unfold otherChannelId Identifier.Fits
  split <;> decide

/-- A channel that only events with one ID create is not disputed. -/
private theorem undisputed_of_namesakes
    {event : SignedEvent} (eventId : EventId)
    (namesakes :
      ∀ channelId, CreatesChannel event channelId →
        ∀ creator ∈ events, CreatesChannel creator channelId → creator.eventId = eventId) :
    channelDefinitionConflict (conflictingChannelIds events) event = false := by
  rw [← Bool.not_eq_true, channelDefinitionConflict_iff]
  intro disputed
  obtain ⟨channelId, creates, one, oneMember, rival, rivalMember, oneCreates, rivalCreates,
    different⟩ := disputed
  have oneId := namesakes channelId creates one oneMember oneCreates
  have rivalId := namesakes channelId creates rival rivalMember rivalCreates
  exact different (oneId.trans rivalId.symm)

private theorem workspaceId_of_run
    {history : List SignedEvent} {index : WorkspaceAccessIndex}
    (ran :
      Run WorkspaceAccessIndex.authorizeAndApply (WorkspaceAccessIndex.new workspaceId) history
        index) :
    index.workspaceId = workspaceId := by
  refine @GuardedRun.invariant _ _ _ _ _ _ (fun index => index.workspaceId = workspaceId) _ _ ran
    rfl ?_
  intro state event next ofWorkspace _ accepted
  obtain ⟨-, rfl⟩ := (WorkspaceAccessIndex.authorizeAndApply_eq_ok_iff _ _ _).mp accepted
  rw [WorkspaceAccessIndex.applyAuthorized_workspaceId, ofWorkspace]

/-- The owner creates a channel under the ID of the event, which is then dropped as
applied. -/
private theorem dropped_behind_namesake
    {fresh : EventId} {channelId : ChannelId}
    (valid : validateSignedEventIds gap = .ok ()) (noParents : gap.event.parents = [])
    (different : fresh ≠ gap.eventId) (freshFits : fresh.Fits) (channelIdFits : channelId.Fits) :
    let bare := bareEvent gap.event.workspaceId gap.event.authorDeviceId
    let events :=
      [bare (.workspaceCreated "") fresh, bare (.channelCreated channelId "" false) gap.eventId,
        gap]
    ∃ scan,
      replay (scanAttempt (conflictingChannelIds events)) (new gap.event.workspaceId) events =
        .ok scan := by
  intro bare events
  obtain ⟨workspaceFits, authorFits, eventIdFits, -⟩ := fits_of_validateSignedEventIds valid
  let root := bare (.workspaceCreated "") fresh
  let namesake := bare (.channelCreated channelId "" false) gap.eventId
  have undisputed :
      ∀ event, channelDefinitionConflict (conflictingChannelIds events) event = false := by
    intro event
    refine undisputed_of_namesakes gap.eventId fun created _ creator member creates => ?_
    simp only [events, List.mem_cons, List.not_mem_nil, or_false] at member
    rcases member with rfl | rfl | rfl
    · cases creates
    · rfl
    · rfl
  have rootWorkspace : root.event.workspaceId = (new gap.event.workspaceId).workspaceId := rfl
  have rootAuthorized :
      (new gap.event.workspaceId).accessIndex.authorize root = .ok () := by
    rw [WorkspaceAccessIndex.authorize_eq_ok_iff]
    exact ⟨bareEvent_valid workspaceFits authorFits freshFits rfl, rfl, rfl, rfl⟩
  obtain ⟨rooted, rootApplied, rootedWorkspace, -, rootedIds, rootedIndex⟩ :=
    applyReadyEvent_of_authorized rootWorkspace rootAuthorized
  have rootAdvances :
      scanAttempt (conflictingChannelIds events) (new gap.event.workspaceId) root =
        .advance rooted := by
    rw [scanAttempt_eq_advance_iff]
    exact ⟨undisputed root, rfl, Std.ExtTreeSet.not_mem_empty, rootApplied⟩
  have namesakeAuthorized : rooted.accessIndex.authorize namesake = .ok () := by
    have channelValid :
        validateEventBodyIds (.channelCreated channelId "" false) = .ok () :=
      (validateChannelIdSize_eq_ok_iff _ _ _).mpr channelIdFits
    have isRooted : rooted.accessIndex.rootSeen = true := by
      rw [rootedIndex]
      rfl
    have isOwner :
        rooted.accessIndex.roles[gap.event.authorDeviceId]? = some .owner := by
      rw [rootedIndex, WorkspaceAccessIndex.applyAuthorized_roles]
      simp [WorkspaceAccessIndex.rolesAfter, root, bare, bareEvent]
    have isNew : channelId ∉ rooted.accessIndex.channels := by
      rw [rootedIndex, WorkspaceAccessIndex.applyAuthorized_channels]
      exact Std.ExtTreeMap.not_mem_empty
    rw [WorkspaceAccessIndex.authorize_eq_ok_iff]
    refine ⟨bareEvent_valid workspaceFits authorFits eventIdFits channelValid, ?_, rfl, ?_⟩
    · rw [rootedIndex]
      rfl
    · simp only [WorkspaceAccessIndex.authorizeBody, namesake, bare, bareEvent, bind_eq_ok_iff,
        WorkspaceAccessIndex.requireRootedMember_eq_ok_iff, requireRole_eq_ok_iff,
        WorkspaceAccessIndex.requireNewChannelId_eq_ok_iff]
      exact ⟨.owner, ⟨isRooted, isOwner⟩, (), Or.inl rfl, isNew⟩
  have namesakeWorkspace : namesake.event.workspaceId = rooted.workspaceId :=
    rootedWorkspace.symm
  obtain ⟨furnished, namesakeApplied, -, -, furnishedIds, -⟩ :=
    applyReadyEvent_of_authorized namesakeWorkspace namesakeAuthorized
  have namesakeAdvances :
      scanAttempt (conflictingChannelIds events) rooted namesake = .advance furnished := by
    rw [scanAttempt_eq_advance_iff]
    refine ⟨undisputed namesake, rfl, ?_, namesakeApplied⟩
    rw [rootedIds, Std.ExtTreeSet.mem_insert, Std.LawfulEqCmp.compare_eq_iff_eq, not_or]
    exact ⟨different, Std.ExtTreeSet.not_mem_empty⟩
  have gapDrops : scanAttempt (conflictingChannelIds events) furnished gap = .drop := by
    rw [scanAttempt_eq_drop_iff, unappliedParentIds, noParents]
    refine ⟨undisputed gap, rfl, ?_⟩
    rw [furnishedIds, Std.ExtTreeSet.mem_insert, Std.LawfulEqCmp.compare_eq_iff_eq]
    exact Or.inl rfl
  have begun :
      pass (scanAttempt (conflictingChannelIds events)) (new gap.event.workspaceId) events =
        .ok ⟨furnished, [], [root, namesake]⟩ := by
    simp only [events, StableReplay.pass]
    rw [rootAdvances]
    dsimp only
    rw [namesakeAdvances]
    dsimp only
    rw [gapDrops]
    rfl
  refine ⟨⟨furnished, [], [root, namesake]⟩, ?_⟩
  rw [replay, passes, begun]
  rfl

/-- An event without parents whose payload is refused hides behind a channel event
with its ID.  A rival for the channel takes that cover away. -/
private theorem poisons_behind_namesake
    (valid : validateSignedEventIds gap = .ok ())
    (noParents : gap.event.parents = [])
    (payloadAborts : refusedPayloadAborts gap.event.body = true) :
    ∃ earlier later, (∀ event ∈ earlier ++ later, ¬ IsPoisonous event) ∧
      Materializes gap.event.workspaceId (earlier ++ [gap]) ∧
        Materializes gap.event.workspaceId (earlier ++ later) ∧
          ¬ Materializes gap.event.workspaceId (earlier ++ gap :: later) := by
  obtain ⟨workspaceFits, authorFits, eventIdFits, -⟩ := fits_of_validateSignedEventIds valid
  have poisonous : IsPoisonous gap := Or.inl payloadAborts
  let fresh := freshEventId gap.eventId
  let bare := bareEvent gap.event.workspaceId gap.event.authorDeviceId
  let root := bare (.workspaceCreated "") fresh
  let namesake := bare (.channelCreated (otherChannelId gap) "" false) gap.eventId
  let rival := bare (.channelCreated (otherChannelId gap) "" false) fresh
  have rootValid : validateSignedEventIds root = .ok () :=
    bareEvent_valid workspaceFits authorFits (freshEventId_fits gap.eventId) rfl
  have channelFits :
      validateEventBodyIds (.channelCreated (otherChannelId gap) "" false) = .ok () :=
    (validateChannelIdSize_eq_ok_iff _ _ _).mpr (otherChannelId_fits gap)
  have namesakeValid : validateSignedEventIds namesake = .ok () :=
    bareEvent_valid workspaceFits authorFits eventIdFits channelFits
  have rivalValid : validateSignedEventIds rival = .ok () :=
    bareEvent_valid workspaceFits authorFits (freshEventId_fits gap.eventId) channelFits
  have validBatch :
      ∀ events : List SignedEvent,
        (∀ event ∈ events, event = root ∨ event = namesake ∨ event = gap ∨ event = rival) →
          (new gap.event.workspaceId).validateBatch events = .ok () := by
    intro events drawn
    refine validated_of_valid fun event member => ?_
    rcases drawn event member with rfl | rfl | rfl | rfl
    · exact ⟨rootValid, rfl⟩
    · exact ⟨namesakeValid, rfl⟩
    · exact ⟨valid, rfl⟩
    · exact ⟨rivalValid, rfl⟩
  have harmless : ∀ event ∈ [root, namesake] ++ [rival], ¬ IsPoisonous event := by
    intro event member
    simp only [List.cons_append, List.nil_append, List.mem_cons, List.not_mem_nil, or_false]
      at member
    rcases member with rfl | rfl | rfl
    · exact of_decide_eq_true rfl
    · exact of_decide_eq_true rfl
    · exact of_decide_eq_true rfl
  refine ⟨[root, namesake], [rival], harmless, ?_, ?_, ?_⟩
  · -- the namesake is applied, and the event dropped as the same one
    rw [materializes_iff]
    exact ⟨validBatch _ (by simp),
      dropped_behind_namesake valid noParents (freshEventId_ne gap.eventId)
        (freshEventId_fits gap.eventId) (otherChannelId_fits gap)⟩
  · exact materializes_of_harmless (validBatch _ (by simp))
      fun event member => Or.inl (harmless event member)
  · intro materializes
    obtain ⟨-, scan, scanned⟩ := (materializes_iff _ _).mp materializes
    have reached : Reachable gap.event.workspaceId scan.advanced scan.state :=
      reachable_of_run (run_of_advances (replay_advances scanned))
    let events := [root, namesake] ++ gap :: [rival]
    have isDisputed : DisputedChannel events (otherChannelId gap) :=
      ⟨namesake, by simp [events], rival, by simp [events], rfl, rfl,
        (freshEventId_ne gap.eventId).symm⟩
    have undisputed : channelDefinitionConflict (conflictingChannelIds events) gap = false := by
      refine undisputed_of_namesakes gap.eventId fun channelId creates => ?_
      intro creator member creatorCreates
      simp only [events, List.cons_append, List.nil_append, List.mem_cons, List.not_mem_nil,
        or_false] at member
      rcases member with rfl | rfl | rfl | rfl
      · cases creatorCreates
      · rfl
      · rfl
      · cases creatorCreates
        exact absurd creates (not_creates_otherChannelId gap)
    have isApplied : gap.eventId ∈ scan.state.appliedEventIds := by
      refine applied_of_not_deferred scanned (by simp) undisputed (by simp [noParents]) ?_
      intro refusal refused
      rcases WorkspaceAccessIndex.authorize_eq_error_cases valid refused with
        ⟨-, elsewhere⟩ | payloadRefused | ⟨accepted, -⟩
      · exact absurd (workspaceId_of_run reached.ledger.index).symm elsewhere
      · exact WorkspaceAccessIndex.payload_refusal_aborts poisonous payloadRefused
      · simp [refusedPayloadAborts, accepted] at payloadAborts
    obtain ⟨event, isAdvanced, sameId⟩ :=
      List.mem_map.mp ((reached.ledger.mem_appliedEventIds _).mp isApplied)
    have member := replay_advanced_subset scanned isAdvanced
    simp only [List.cons_append, List.nil_append, List.mem_cons, List.not_mem_nil,
      or_false] at member
    rcases member with rfl | rfl | rfl | rfl
    · exact freshEventId_ne gap.eventId sameId
    · obtain ⟨_, _, _, _, _, _, advanced, _⟩ := (replay_advances scanned).exists_step isAdvanced
      have undisputedNamesake := ((scanAttempt_eq_advance_iff _ _ _ _).mp advanced).1
      have conflict :
          channelDefinitionConflict (conflictingChannelIds events) namesake = true :=
        (channelDefinitionConflict_iff _ _).mpr ⟨otherChannelId gap, rfl, isDisputed⟩
      rw [conflict] at undisputedNamesake
      cases undisputedNamesake
    · exact not_advanced_of_poisonous scanned poisonous isAdvanced
    · exact freshEventId_ne gap.eventId sameId

end Necessity

/-! ## Which gaps are harmless -/

/-- Among events that are not poisonous, the gap never aborts a batch that
materializes without it. -/
def StaysHarmless (gap : SignedEvent) : Prop :=
  ∀ (workspaceId : WorkspaceId) (earlier later : List SignedEvent),
    (∀ event ∈ earlier ++ later, ¬ IsPoisonous event) →
      Materializes workspaceId (earlier ++ [gap]) → Materializes workspaceId (earlier ++ later) →
        Materializes workspaceId (earlier ++ gap :: later)

/-- A state that defers the event is followed only by states that do not abort on
it. -/
def StaysDeferred (event : SignedEvent) : Prop :=
  ∀ (workspaceId : WorkspaceId) (history : List SignedEvent) (state : WorkspaceState),
    Reachable workspaceId history state →
      ∀ (following : List SignedEvent) (later : WorkspaceState),
        Run applyStep state following later →
          ∀ refusal, (state.applyReadyEvent event).1 = .error (.authorization refusal) →
            refusal.abortsBatch = false →
              ∀ lateRefusal,
                (later.applyReadyEvent event).1 = .error (.authorization lateRefusal) →
                  lateRefusal.abortsBatch = false

/-- A direct message channel that is refused for its author only after the author
has joined. -/
def AbortsAfterJoining (event : SignedEvent) : Prop :=
  validateSignedEventIds event = .ok () ∧
    validateEventBodyPayloadSizes event.event.body = .ok () ∧ leavesOutAuthor event = true

theorem staysHarmless_iff (gap : SignedEvent) :
    StaysHarmless gap ↔
      ¬ (validateSignedEventIds gap = .ok () ∧ gap.eventId ∉ gap.event.parents ∧
        IsPoisonous gap) := by
  constructor
  · intro harmless poison
    obtain ⟨valid, notOwnParent, poisonous⟩ := poison
    by_cases atOnce :
        gap.event.parents = [] ∧ refusedPayloadAborts gap.event.body = true
    · obtain ⟨earlier, later, others, withGap, without, aborts⟩ :=
        poisons_behind_namesake valid atOnce.1 atOnce.2
      exact aborts (harmless gap.event.workspaceId earlier later others withGap without)
    · have notAtOnce :
          gap.event.parents = [] → refusedPayloadAborts gap.event.body = false := by
        intro noParents
        exact Bool.eq_false_of_not_eq_true fun payloadAborts => atOnce ⟨noParents, payloadAborts⟩
      obtain ⟨later, others, alone, without, aborts⟩ :=
        poisons_founding valid notOwnParent poisonous notAtOnce
      exact aborts (harmless gap.event.workspaceId [] later others alone without)
  · intro noPoison workspaceId earlier later others withGap without
    obtain ⟨validatedGap, -⟩ := (materializes_iff _ _).mp withGap
    obtain ⟨validatedOthers, -⟩ := (materializes_iff _ _).mp without
    rw [validateBatch_eq_ok_iff] at validatedGap validatedOthers
    have gapValid := validatedGap gap (List.mem_append_right _ List.mem_cons_self)
    have gapHarmless : NeverPoisons gap := by
      by_contra poisons
      rw [NeverPoisons, not_or, not_not] at poisons
      exact noPoison ⟨gapValid.1, poisons.2, poisons.1⟩
    have cases :
        ∀ event ∈ earlier ++ gap :: later, event = gap ∨ event ∈ earlier ++ later := by
      intro event member
      simp only [List.mem_append, List.mem_cons] at member ⊢
      tauto
    apply materializes_of_harmless
    · rw [validateBatch_eq_ok_iff]
      intro event member
      rcases cases event member with rfl | isOther
      · exact gapValid
      · exact validatedOthers event isOther
    · intro event member
      rcases cases event member with rfl | isOther
      · exact gapHarmless
      · exact Or.inl (others event isOther)

/-- What a refusal of a ready event says about its index. -/
private theorem authorize_of_refused
    {state : WorkspaceState} {event : SignedEvent} {refusal : AuthorizationError}
    (refused : (state.applyReadyEvent event).1 = .error (.authorization refusal)) :
    event.event.workspaceId = state.workspaceId ∧
      state.accessIndex.authorize event = .error refusal := by
  rcases applyReadyEvent_cases state event with
    ⟨_, outcome⟩ | ⟨raised, sameWorkspace, raisedHere, outcome⟩ | ⟨_, _, _, outcome⟩
  · rw [outcome] at refused
    cases refused
  · rw [outcome] at refused
    cases refused
    exact ⟨sameWorkspace, raisedHere⟩
  · rw [outcome] at refused
    cases refused

theorem staysDeferred_iff (event : SignedEvent) :
    StaysDeferred event ↔ ¬ AbortsAfterJoining event := by
  constructor
  · intro staysDeferred joins
    obtain ⟨valid, accepted, leavesOut⟩ := joins
    have poisonous : IsPoisonous event := Or.inr leavesOut
    obtain ⟨workspaceFits, authorFits, -⟩ := fits_of_validateSignedEventIds valid
    let start := new event.event.workspaceId
    let root := bareEvent event.event.workspaceId event.event.authorDeviceId (.workspaceCreated "")
      (freshEventId event.eventId)
    have rootWorkspace : root.event.workspaceId = start.workspaceId := rfl
    have rootAuthorized : start.accessIndex.authorize root = .ok () := by
      rw [WorkspaceAccessIndex.authorize_eq_ok_iff]
      exact ⟨bareEvent_valid workspaceFits authorFits (freshEventId_fits _) rfl, rfl, rfl, rfl⟩
    obtain ⟨later, rootApplied, sameWorkspace, -, -, laterIndex⟩ :=
      applyReadyEvent_of_authorized rootWorkspace rootAuthorized
    have ran : Run applyStep start [root] later :=
      Run.single ((applyStep_eq_ok_iff _ _ _).mpr ((apply_eq_ok_iff _ _ _).mpr ⟨rfl, rootApplied⟩))
    -- before the root the event is deferred, as all are
    have deferred :
        (start.applyReadyEvent event).1 = .error (.authorization .missingWorkspaceRoot) := by
      have refused : start.accessIndex.authorize event = .error .missingWorkspaceRoot := by
        cases body : event.event.body with
        | directMessageChannelCreated channelId name participantDeviceIds =>
            rw [WorkspaceAccessIndex.authorize, valid, accepted]
            simp only [WorkspaceAccessIndex.authorizeBody, body]
            simp [start, new, WorkspaceAccessIndex.new, WorkspaceAccessIndex.requireRootedMember,
              ensure]
        | _ => simp [leavesOutAuthor, body] at leavesOut
      rcases applyReadyEvent_cases start event with
        ⟨elsewhere, _⟩ | ⟨raised, _, raisedHere, outcome⟩ | ⟨_, _, authorized, _⟩
      · exact absurd rfl elsewhere
      · rw [refused] at raisedHere
        cases raisedHere
        rw [outcome]
      · rw [refused] at authorized
        cases authorized
    have isOwner : later.accessIndex.roles[event.event.authorDeviceId]? = some .owner := by
      rw [laterIndex, WorkspaceAccessIndex.applyAuthorized_roles]
      simp [WorkspaceAccessIndex.rolesAfter, root, bareEvent]
    rcases applyReadyEvent_cases later event with
      ⟨elsewhere, _⟩ | ⟨raised, _, raisedHere, outcome⟩ | ⟨_, _, authorized, _⟩
    · exact elsewhere sameWorkspace.symm
    · have aborts : raised.abortsBatch = true :=
        WorkspaceAccessIndex.refusal_of_owner_aborts valid (by rw [laterIndex]; rfl) poisonous
          (by rw [laterIndex]; rfl) (by rw [laterIndex]; rfl) isOwner raisedHere
      have defers := staysDeferred _ [] start .new [root] later ran _ deferred rfl raised
        (by rw [outcome])
      rw [aborts] at defers
      cases defers
    · exact WorkspaceAccessIndex.authorize_of_poisonous poisonous authorized
  · intro neverJoins workspaceId history state reached following later ran refusal refused defers
      lateRefusal lateRefused
    obtain ⟨sameWorkspace, refusedHere⟩ := authorize_of_refused refused
    obtain ⟨-, refusedLater⟩ := authorize_of_refused lateRefused
    have laterReached : Reachable workspaceId (history ++ following) later :=
      reachable_of_run (reached.run.append ran)
    have ofWorkspace := workspaceId_of_run reached.ledger.index
    have laterOfWorkspace := workspaceId_of_run laterReached.ledger.index
    have inWorkspace : event.event.workspaceId = workspaceId :=
      sameWorkspace.trans reached.ledger.ownWorkspace
    cases valid : validateSignedEventIds event with
    | error raised =>
        have unchecked : ∀ index : WorkspaceAccessIndex, index.authorize event = .error raised := by
          intro index
          rw [WorkspaceAccessIndex.authorize, valid]
          rfl
        rw [unchecked] at refusedHere refusedLater
        cases refusedHere
        cases refusedLater
        exact defers
    | ok done =>
        rcases WorkspaceAccessIndex.authorize_eq_error_cases valid refusedLater with
          ⟨-, elsewhere⟩ | payloadRefused | ⟨accepted, bodyRefused⟩
        · exact absurd (inWorkspace.trans laterOfWorkspace.symm) elsewhere
        · rcases WorkspaceAccessIndex.authorize_eq_error_cases valid refusedHere with
            ⟨-, elsewhere⟩ | payloadRefusedHere | ⟨acceptedHere, -⟩
          · exact absurd (inWorkspace.trans ofWorkspace.symm) elsewhere
          · rw [payloadRefusedHere] at payloadRefused
            cases payloadRefused
            exact defers
          · rw [acceptedHere] at payloadRefused
            cases payloadRefused
        · have listed : leavesOutAuthor event = false :=
            Bool.eq_false_of_not_eq_true fun leavesOut => neverJoins ⟨valid, accepted, leavesOut⟩
          exact WorkspaceAccessIndex.authorizeBody_defers accepted listed lateRefusal bodyRefused

/-- A gap is harmless for good unless it is poisonous, and a deferral is final
unless the event waits for its author to join. -/
theorem gap_never_poisons_iff (gap : SignedEvent) :
    (StaysHarmless gap ↔
        ¬ (validateSignedEventIds gap = .ok () ∧ gap.eventId ∉ gap.event.parents ∧
          IsPoisonous gap)) ∧
      (StaysDeferred gap ↔ ¬ AbortsAfterJoining gap) :=
  ⟨staysHarmless_iff gap, staysDeferred_iff gap⟩

/-- A stranger's direct message channel between two members. -/
def strangerDirectMessage : SignedEvent :=
  draftEvent "x0" "eve" none []
    (.directMessageChannelCreated ⟨"dm"⟩ "dm" [⟨"root"⟩, ⟨"bob"⟩])

/-- It is stored as a gap, and aborts every batch once the stranger is invited. -/
theorem gap_poisons :
    ¬ ∀ (workspaceId : WorkspaceId) (earlier later : List SignedEvent) (gap : SignedEvent),
      (∀ event ∈ earlier ++ gap :: later, event.event.workspaceId = workspaceId) →
        Materializes workspaceId (earlier ++ [gap]) → Materializes workspaceId (earlier ++ later) →
          Materializes workspaceId (earlier ++ gap :: later) := by
  intro harmless
  have materializes :=
    harmless ⟨"w"⟩ [draftEvent "e0" "root" none [] (.workspaceCreated "home")]
      [draftEvent "e1" "root" none ["e0"] (.memberInvited ⟨"eve"⟩ .member)]
      strangerDirectMessage (by decide) (by decide +kernel) (by decide +kernel)
  revert materializes
  decide +kernel

end WorkspaceState

end Chaft
