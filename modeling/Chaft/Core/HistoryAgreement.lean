import Chaft.Core.BatchCompleteness
import Chaft.Core.ConflictTaint
import Chaft.Library.ReplaySimulation

/-!
# The two ways to authorize an event

`authorizeEventWithHistory` replays a history on its own, with its own
treatment of disputed channels and its own table of fatal refusals.  Its replay
follows the one of `applyBatch`: what it skips the batch keeps pending for
good.  The one difference is that a refused avatar and a refused device link
end the replay of the history, while the batch only defers them.
-/

namespace Chaft

open Keyed Outcome StableReplay Transition

/-! ## IDs that are taken -/

/-- The refusals of a creation whose ID is taken. -/
def AuthorizationError.isDuplicate : AuthorizationError → Bool
  | .workspaceAlreadyCreated
  | .channelAlreadyCreated _ => true
  | _ => false

/-- The refusals that end the replay of a history but not a batch, apart from those
of IDs that are taken. -/
def AuthorizationError.abortsOnlyHistory : AuthorizationError → Bool
  | .invalidAvatarId
  | .personDeviceLinkDenied .. => true
  | _ => false

theorem AuthorizationError.abortsHistory_cases (refusal : AuthorizationError) :
    refusal.abortsHistory =
      (refusal.abortsBatch || refusal.abortsOnlyHistory || refusal.isDuplicate) := by
  cases refusal <;> rfl

namespace WorkspaceAccessIndex

/-- An event whose ID is free is not refused as a duplicate. -/
private theorem authorizeBody_notDuplicate
    {index : WorkspaceAccessIndex} {event : SignedEvent}
    (rootFree : CreatesWorkspace event → index.rootSeen = false)
    (channelFree : ∀ channelId, CreatesChannel event channelId → channelId ∉ index.channels) :
    OnlyRaises (fun raised => raised.isDuplicate = false) (index.authorizeBody event) := by
  have newChannel :
      ∀ channelId, CreatesChannel event channelId →
        index.requireNewChannelId channelId = .ok () := by
    intro channelId creates
    rw [requireNewChannelId_eq_ok_iff]
    exact channelFree channelId creates
  unfold authorizeBody
  cases body : event.event.body with
  | workspaceCreated name =>
      have unseen := rootFree (by rw [CreatesWorkspace, body]; rfl)
      simp only [unseen, ensure, if_true]
      exact onlyRaises_ok ()
  | channelCreated channelId name isPrivate =>
      have isNew := newChannel channelId (by rw [CreatesChannel, body]; rfl)
      simp only [requireRootedMember, requireRole, isNew]
      repeat' with_reducible first
        | exact onlyRaises_ok ()
        | exact onlyRaises_ensure _ rfl
        | exact onlyRaises_okOr _ rfl
        | apply onlyRaises_bind
        | intro _
  | directMessageChannelCreated channelId name participantDeviceIds =>
      have isNew := newChannel channelId (by rw [CreatesChannel, body]; rfl)
      simp only [requireRootedMember, requireRole, isNew]
      repeat' with_reducible first
        | exact onlyRaises_ok ()
        | exact onlyRaises_ensure _ rfl
        | exact onlyRaises_okOr _ rfl
        | apply onlyRaises_bind
        | apply onlyRaises_checkAll
        | intro _
  | _ =>
      simp only [requireRootedMember, requireRoleOver, requireRole, requireChannelAccess,
        requireChannelMemberGrant, requireWorkspaceOpenmlsCommitter,
        requireChannelOpenmlsCommitter, requireChannel, requireMessage,
        requirePersonProfileUpdate, requirePersonDeviceLink, requireChannelMatch,
        requireEventChannel]
      repeat' with_reducible first
        | exact onlyRaises_ok ()
        | exact onlyRaises_error rfl
        | exact onlyRaises_ensure _ rfl
        | exact onlyRaises_okOr _ rfl
        | apply onlyRaises_bind
        | intro _
        | split

private theorem notDuplicate_of_isPayloadRefusal
    {refusal : AuthorizationError} (ofPayload : refusal.isPayloadRefusal = true) :
    refusal.isDuplicate = false := by
  cases refusal <;> first | rfl | cases ofPayload

/-- A creation is refused as a duplicate only where its ID is taken. -/
theorem taken_of_duplicate
    {index : WorkspaceAccessIndex} {event : SignedEvent} {refusal : AuthorizationError}
    (refused : index.authorize event = .error refusal)
    (duplicate : refusal.isDuplicate = true) :
    CreatesWorkspace event ∧ index.rootSeen = true ∨
      ∃ channelId, CreatesChannel event channelId ∧ channelId ∈ index.channels := by
  by_contra free
  rw [not_or, not_and, not_exists] at free
  have rootFree : CreatesWorkspace event → index.rootSeen = false :=
    fun creates => Bool.eq_false_of_not_eq_true (free.1 creates)
  have channelFree :
      ∀ channelId, CreatesChannel event channelId → channelId ∉ index.channels :=
    fun channelId creates taken => free.2 channelId ⟨creates, taken⟩
  have notDuplicate :
      OnlyRaises (fun raised => raised.isDuplicate = false) (index.authorize event) := by
    unfold authorize
    apply onlyRaises_bind
    · exact fun raised failed =>
        notDuplicate_of_isPayloadRefusal (validateSignedEventIds_validates event raised failed)
    · intro _
      apply onlyRaises_bind
      · exact onlyRaises_ensure _ rfl
      · intro _
        apply onlyRaises_bind
        · exact fun raised failed =>
            notDuplicate_of_isPayloadRefusal
              (validateEventBodyPayloadSizes_validates event.event.body raised failed)
        · intro _
          exact authorizeBody_notDuplicate rootFree channelFree
  have isNot : refusal.isDuplicate = false := notDuplicate refusal refused
  rw [duplicate] at isNot
  cases isNot

/-- The creations behind a rooted index and behind its channels. -/
theorem creations_of_run
    {workspaceId : WorkspaceId} {history : List SignedEvent} {index : WorkspaceAccessIndex}
    (ran : Run authorizeAndApply (WorkspaceAccessIndex.new workspaceId) history index) :
    (index.rootSeen = true → ∃ event ∈ history, CreatesWorkspace event) ∧
      ∀ channelId, channelId ∈ index.channels → ∃ event ∈ history, CreatesChannel event channelId := by
  induction ran with
  | start => simp [WorkspaceAccessIndex.new]
  | @extend earlier index next event _ _ accepted inductionHypothesis =>
      obtain ⟨rootOrigin, channelOrigins⟩ := inductionHypothesis
      obtain ⟨-, rfl⟩ := (authorizeAndApply_eq_ok_iff _ _ _).mp accepted
      constructor
      · intro rooted
        rw [applyAuthorized_rootSeen] at rooted
        unfold rootSeenAfter at rooted
        cases body : event.event.body with
        | workspaceCreated name => exact ⟨event, by simp, by rw [CreatesWorkspace, body]; rfl⟩
        | _ =>
            rw [body] at rooted
            obtain ⟨origin, member, creates⟩ := rootOrigin rooted
            exact ⟨origin, List.mem_append_left _ member, creates⟩
      · intro channelId present
        by_cases creates : CreatesChannel event channelId
        · exact ⟨event, by simp, creates⟩
        · have before : channelId ∈ index.channels := by
            rw [applyAuthorized_channels] at present
            unfold channelsAfter at present
            unfold CreatesChannel at creates
            cases body : event.event.body with
            | channelCreated | directMessageChannelCreated =>
                simp only [body, createdChannelId, Option.some.injEq] at creates
                simp only [body, Std.ExtTreeMap.mem_insert,
                  Std.LawfulEqCmp.compare_eq_iff_eq] at present
                exact present.resolve_left creates
            | _ => simpa [body, Std.ExtTreeMap.mem_modify] using present
          obtain ⟨origin, member, originCreates⟩ := channelOrigins channelId before
          exact ⟨origin, List.mem_append_left _ member, originCreates⟩

end WorkspaceAccessIndex

namespace WorkspaceState

/-! ## The replay of a history follows a batch -/

/-- A decision that a batch takes for a deferral and a history for its end. -/
def endsOnlyHistory : Except AuthorizationError Unit → Bool
  | .ok () => false
  | .error refusal => refusal.abortsOnlyHistory

/-- The batch would defer the event here, but the replay of a history ends. -/
def EndsHistory
    (conflicting : HashSet ChannelId) (state : WorkspaceState) (event : SignedEvent) : Prop :=
  channelDefinitionConflict conflicting event = false ∧
    state.unappliedParentIds event = [] ∧ event.eventId ∉ state.appliedEventIds ∧
      endsOnlyHistory (state.accessIndex.authorize event) = true

instance (conflicting : HashSet ChannelId) (state : WorkspaceState) (event : SignedEvent) :
    Decidable (EndsHistory conflicting state event) :=
  inferInstanceAs (Decidable (_ ∧ _ ∧ _ ∧ _))

/-- Wherever the replay of a history tries an event, it is not refused for its
avatar or for the device it links. -/
def ReplaysThrough (workspaceId : WorkspaceId) (history : List SignedEvent) : Prop :=
  ∀ trial ∈ trials (scanAttempt (conflictingChannelIds history))
      (WorkspaceState.new workspaceId) history,
    ¬ EndsHistory (conflictingChannelIds history) trial.1 trial.2

instance (workspaceId : WorkspaceId) (history : List SignedEvent) :
    Decidable (ReplaysThrough workspaceId history) :=
  inferInstanceAs (Decidable (∀ trial ∈ trials _ _ _, _))

/-- The workspace of a history is created by one event. -/
def SingleRoot (history : List SignedEvent) : Prop :=
  ∀ first ∈ history, ∀ second ∈ history,
    CreatesWorkspace first → CreatesWorkspace second → first.eventId = second.eventId

instance (history : List SignedEvent) : Decidable (SingleRoot history) :=
  inferInstanceAs (Decidable (∀ first ∈ history, ∀ second ∈ history, _ → _ → _ = _))

/-- The replay of a history mirrors the state of a batch. -/
structure Mirrors
    (workspaceId : WorkspaceId) (history : List SignedEvent) (state : WorkspaceState)
    (replayed : HistoryReplay) : Prop where
  index : replayed.index = state.accessIndex
  applied : replayed.appliedHistoricalEventIds = state.appliedEventIds
  reached : ∃ absorbed, absorbed ⊆ history ∧ Reachable workspaceId absorbed state
  untainted :
    ∀ eventId ∈ conflictOriginByEvent (conflictingChannelIds history) history,
      eventId ∉ state.appliedEventIds

section Following

variable {workspaceId : WorkspaceId} {history : List SignedEvent} {state : WorkspaceState}
  {replayed : HistoryReplay}

/-- A tainted event waits in the batch. -/
private theorem Mirrors.waits
    (identified : Identified history) (mirrors : Mirrors workspaceId history state replayed)
    {event : SignedEvent} (member : event ∈ history)
    (tainted : event.eventId ∈ conflictOriginByEvent (conflictingChannelIds history) history) :
    channelDefinitionConflict (conflictingChannelIds history) event = true ∨
      state.unappliedParentIds event ≠ [] := by
  obtain ⟨origin, originMember, same, why⟩ := origin_of_tainted tainted
  rw [identified origin originMember event member same] at why
  rcases why with disputed | ⟨parentId, isParent, parentTainted⟩
  · exact Or.inl disputed
  · right
    intro noneMissing
    exact mirrors.untainted parentId parentTainted
      ((unappliedParentIds_eq_nil_iff state event).mp noneMissing parentId isParent)

/-- The parents of an applied event of the history are applied. -/
private theorem Mirrors.parentsApplied
    (identified : Identified history) (mirrors : Mirrors workspaceId history state replayed)
    {event : SignedEvent} (member : event ∈ history)
    (known : event.eventId ∈ state.appliedEventIds) :
    state.unappliedParentIds event = [] := by
  obtain ⟨absorbed, drawn, reached⟩ := mirrors.reached
  obtain ⟨origin, originMember, same⟩ :=
    List.mem_map.mp ((reached.ledger.mem_appliedEventIds event.eventId).mp known)
  rw [unappliedParentIds_eq_nil_iff,
    ← identified origin (drawn originMember) event member same]
  exact reached.ledger.parentsApplied origin originMember

/-- A new event of the history that is neither disputed nor tainted is not refused
as a duplicate. -/
private theorem Mirrors.notDuplicate
    (singleRoot : SingleRoot history) (mirrors : Mirrors workspaceId history state replayed)
    {event : SignedEvent} (member : event ∈ history)
    (undisputed : channelDefinitionConflict (conflictingChannelIds history) event = false)
    (unknown : event.eventId ∉ state.appliedEventIds) {refusal : AuthorizationError}
    (refused : state.accessIndex.authorize event = .error refusal) :
    refusal.isDuplicate = false := by
  obtain ⟨absorbed, drawn, reached⟩ := mirrors.reached
  have known :
      ∀ origin ∈ absorbed, origin.eventId ∈ state.appliedEventIds := fun origin isAbsorbed =>
    (reached.ledger.mem_appliedEventIds origin.eventId).mpr (List.mem_map_of_mem isAbsorbed)
  obtain ⟨rootOrigin, channelOrigins⟩ :=
    WorkspaceAccessIndex.creations_of_run reached.ledger.index
  apply Bool.eq_false_of_not_eq_true
  intro duplicate
  rcases WorkspaceAccessIndex.taken_of_duplicate refused duplicate with
    ⟨createsWorkspace, rooted⟩ | ⟨channelId, createsChannel, present⟩
  · obtain ⟨origin, isAbsorbed, originCreates⟩ := rootOrigin rooted
    have same := singleRoot origin (drawn isAbsorbed) event member originCreates createsWorkspace
    exact unknown (same ▸ known origin isAbsorbed)
  · obtain ⟨origin, isAbsorbed, originCreates⟩ := channelOrigins channelId present
    have different : origin.eventId ≠ event.eventId :=
      fun same => unknown (same ▸ known origin isAbsorbed)
    have disputed :
        channelDefinitionConflict (conflictingChannelIds history) event = true := by
      rw [channelDefinitionConflict_iff]
      exact ⟨channelId, createsChannel, origin, drawn isAbsorbed, event, member, originCreates,
        createsChannel, different⟩
    rw [undisputed] at disputed
    cases disputed

/-- What the replay of a history decides about an event that it does not skip. -/
private theorem Mirrors.agrees
    (identified : Identified history) (singleRoot : SingleRoot history)
    (closed :
      ∀ event ∈ history, ∀ parentId ∈ event.event.parents,
        parentId ∈ history.map SignedEvent.eventId)
    (mirrors : Mirrors workspaceId history state replayed)
    {event : SignedEvent} (member : event ∈ history)
    (untainted : event.eventId ∉ conflictOriginByEvent (conflictingChannelIds history) history)
    (goesOn : ¬ EndsHistory (conflictingChannelIds history) state event) :
    Attempt.Agree (Mirrors workspaceId history)
      (scanAttempt (conflictingChannelIds history) state event)
      (historyAttempt (conflictOriginByEvent (conflictingChannelIds history) history)
        (Std.ExtTreeSet.ofList (history.map SignedEvent.eventId) compare) replayed event) := by
  have undisputed :
      channelDefinitionConflict (conflictingChannelIds history) event = false :=
    Bool.eq_false_of_not_eq_true fun disputed => untainted (tainted_of_conflict member disputed)
  by_cases noneMissing : state.unappliedParentIds event = []
  · have parentsApplied := (unappliedParentIds_eq_nil_iff state event).mp noneMissing
    have ready :
        ¬ ∃ parentId ∈ event.event.parents,
          parentId ∈ Std.ExtTreeSet.ofList (history.map SignedEvent.eventId) compare ∧
            parentId ∉ replayed.appliedHistoricalEventIds := by
      rintro ⟨parentId, isParent, _, unapplied⟩
      rw [mirrors.applied] at unapplied
      exact unapplied (parentsApplied parentId isParent)
    by_cases known : event.eventId ∈ state.appliedEventIds
    · have dropped := (scanAttempt_eq_drop_iff _ _ _).mpr ⟨undisputed, noneMissing, known⟩
      have knownToo : event.eventId ∈ replayed.appliedHistoricalEventIds := by
        rw [mirrors.applied]
        exact known
      rw [dropped, historyAttempt, if_neg untainted, if_pos knownToo]
      exact .drop
    · have unknownToo : event.eventId ∉ replayed.appliedHistoricalEventIds := by
        rw [mirrors.applied]
        exact known
      have held :
          ¬ (channelDefinitionConflict (conflictingChannelIds history) event = true ∨
            state.unappliedParentIds event ≠ []) := by
        rw [undisputed]
        simp [noneMissing]
      rw [scanAttempt, if_neg held, if_neg known, historyAttempt, if_neg untainted,
        if_neg unknownToo, if_neg ready, mirrors.index]
      rcases applyReadyEvent_cases state event with
        ⟨_, outcome⟩ | ⟨refusal, _, refused, outcome⟩ | ⟨next, _, authorized, outcome⟩
      · rw [outcome]
        exact .abort _ _
      · have refusedToo := (state.accessIndex.authorizeAndApply_eq_error_iff _ _).mpr refused
        rw [outcome, refusedToo]
        dsimp only
        cases abortsBatch : refusal.abortsBatch with
        | true => exact .abort _ _
        | false =>
            have defers : refusal.abortsOnlyHistory = false := by
              apply Bool.eq_false_of_not_eq_true
              intro ends
              refine goesOn ⟨undisputed, noneMissing, known, ?_⟩
              rw [refused]
              exact ends
            have goesOnToo : refusal.abortsHistory = false := by
              rw [refusal.abortsHistory_cases, abortsBatch, defers,
                mirrors.notDuplicate singleRoot member undisputed known refused]
              rfl
            rw [goesOnToo]
            exact .keep
      · obtain ⟨-, -, -, -, recorded, indexAfter⟩ := applyReadyEvent_ok outcome
        have acceptedToo :=
          (state.accessIndex.authorizeAndApply_eq_ok_iff event _).mpr ⟨authorized, rfl⟩
        rw [outcome, acceptedToo]
        apply Attempt.Agree.advance
        obtain ⟨absorbed, drawn, reached⟩ := mirrors.reached
        refine ⟨indexAfter.symm, ?_, ?_, ?_⟩
        · rw [recorded, ← mirrors.applied]
        · refine ⟨absorbed ++ [event], ?_,
            reached.apply ((apply_eq_ok_iff _ _ _).mpr ⟨noneMissing, outcome⟩)⟩
          exact List.append_subset.mpr ⟨drawn, by simpa using member⟩
        · intro eventId tainted
          rw [recorded, Std.ExtTreeSet.mem_insert, Std.LawfulEqCmp.compare_eq_iff_eq]
          rintro (isEvent | before)
          · exact untainted (isEvent ▸ tainted)
          · exact mirrors.untainted eventId tainted before
  · have unknown : event.eventId ∉ state.appliedEventIds :=
      fun known => noneMissing (mirrors.parentsApplied identified member known)
    have kept :=
      (scanAttempt_eq_keep_iff (conflictingChannelIds history) state event).mpr
        (Or.inr (Or.inl noneMissing))
    have unknownToo : event.eventId ∉ replayed.appliedHistoricalEventIds := by
      rw [mirrors.applied]
      exact unknown
    have waiting :
        ∃ parentId ∈ event.event.parents,
          parentId ∈ Std.ExtTreeSet.ofList (history.map SignedEvent.eventId) compare ∧
            parentId ∉ replayed.appliedHistoricalEventIds := by
      rw [unappliedParentIds_eq_nil_iff, not_forall] at noneMissing
      obtain ⟨parentId, isMissing⟩ := noneMissing
      rw [Classical.not_imp] at isMissing
      refine ⟨parentId, isMissing.1, ?_, ?_⟩
      · rw [Std.ExtTreeSet.mem_ofList]
        exact List.contains_iff_mem.mpr (closed event member parentId isMissing.1)
      · rw [mirrors.applied]
        exact isMissing.2
    rw [kept, historyAttempt, if_neg untainted, if_neg unknownToo, if_pos waiting]
    exact .keep

/-- A refusal that only ends the replay of a history does end it. -/
private theorem Mirrors.ends
    (identified : Identified history) (mirrors : Mirrors workspaceId history state replayed)
    {event : SignedEvent} (member : event ∈ history)
    (ends : EndsHistory (conflictingChannelIds history) state event) :
    ∃ raised,
      historyAttempt (conflictOriginByEvent (conflictingChannelIds history) history)
        (Std.ExtTreeSet.ofList (history.map SignedEvent.eventId) compare) replayed event =
          .abort raised := by
  obtain ⟨undisputed, noneMissing, unknown, decided⟩ := ends
  have untainted :
      event.eventId ∉ conflictOriginByEvent (conflictingChannelIds history) history := by
    intro tainted
    rcases mirrors.waits identified member tainted with disputed | missing
    · rw [undisputed] at disputed
      cases disputed
    · exact missing noneMissing
  have unknownToo : event.eventId ∉ replayed.appliedHistoricalEventIds := by
    rw [mirrors.applied]
    exact unknown
  have ready :
      ¬ ∃ parentId ∈ event.event.parents,
        parentId ∈ Std.ExtTreeSet.ofList (history.map SignedEvent.eventId) compare ∧
          parentId ∉ replayed.appliedHistoricalEventIds := by
    rintro ⟨parentId, isParent, _, unapplied⟩
    rw [mirrors.applied] at unapplied
    exact unapplied ((unappliedParentIds_eq_nil_iff state event).mp noneMissing parentId isParent)
  cases decision : state.accessIndex.authorize event with
  | ok done =>
      rw [decision] at decided
      cases decided
  | error refusal =>
      rw [decision, endsOnlyHistory] at decided
      have refused := (state.accessIndex.authorizeAndApply_eq_error_iff _ _).mpr decision
      have ending : refusal.abortsHistory = true := by
        rw [refusal.abortsHistory_cases, decided]
        simp
      refine ⟨refusal, ?_⟩
      rw [historyAttempt, if_neg untainted, if_neg unknownToo, if_neg ready, mirrors.index,
        refused]
      simp only [ending, if_true]

/-- The replay of a history follows the batch of the same events. -/
private theorem history_follows
    (identified : Identified history) (singleRoot : SingleRoot history)
    (closed :
      ∀ event ∈ history, ∀ parentId ∈ event.event.parents,
        parentId ∈ history.map SignedEvent.eventId) :
    Follows (scanAttempt (conflictingChannelIds history))
      (historyAttempt (conflictOriginByEvent (conflictingChannelIds history) history)
        (Std.ExtTreeSet.ofList (history.map SignedEvent.eventId) compare))
      (Mirrors workspaceId history) history
      (fun event =>
        decide (event.eventId ∉ conflictOriginByEvent (conflictingChannelIds history) history))
      (EndsHistory (conflictingChannelIds history)) := by
  constructor
  · intro replayed event skipped
    have tainted := of_not_not (of_decide_eq_false skipped)
    rw [historyAttempt, if_pos tainted]
  · intro state replayed event member mirrors skipped
    have tainted := of_not_not (of_decide_eq_false skipped)
    have waits := mirrors.waits identified member tainted
    constructor
    · rw [scanAttempt_eq_keep_iff]
      exact waits.imp_right Or.inl
    · rintro ⟨undisputed, noneMissing, -⟩
      rcases waits with disputed | missing
      · rw [undisputed] at disputed
        cases disputed
      · exact missing noneMissing
  · intro state replayed event member mirrors ends
    exact mirrors.ends identified member ends
  · intro state replayed event member mirrors isAlive goesOn
    exact mirrors.agrees identified singleRoot closed member (of_decide_eq_true isAlive) goesOn

private theorem leastChannelId_eq_none_iff (channelIds : List ChannelId) :
    leastChannelId channelIds = none ↔ channelIds = [] := by
  cases channelIds <;> simp [leastChannelId]

/-- The replay of a history by `authorizeEventWithHistory`. -/
private def replayHistory
    (workspaceId : WorkspaceId) (history : List SignedEvent) :
    Except AuthorizationError (Scan HistoryReplay SignedEvent) :=
  replay
    (historyAttempt (conflictOriginByEvent (conflictingChannelIds history) history)
      (Std.ExtTreeSet.ofList (history.map SignedEvent.eventId) compare))
    ⟨WorkspaceAccessIndex.new workspaceId, ∅⟩ history

private theorem filter_sameWorkspace
    (sameWorkspace : ∀ historical ∈ history, historical.event.workspaceId = workspaceId) :
    history.filter (fun historical => decide (historical.event.workspaceId = workspaceId)) =
      history := by
  rw [List.filter_eq_self]
  exact fun historical member => decide_eq_true (sameWorkspace historical member)

private theorem replayHistory_of_authorized
    {event : SignedEvent}
    (sameWorkspace :
      ∀ historical ∈ history, historical.event.workspaceId = event.event.workspaceId)
    (authorized : authorizeEventWithHistory history event = .ok ()) :
    ∃ scan, replayHistory event.event.workspaceId history = .ok scan ∧
      scan.state.index.authorize event = .ok () := by
  unfold authorizeEventWithHistory at authorized
  simp only [filter_sameWorkspace sameWorkspace, bind_eq_ok_iff] at authorized
  obtain ⟨_, _, authorized⟩ := authorized
  split at authorized
  · rw [bind_eq_ok_iff] at authorized
    obtain ⟨_, _, authorized⟩ := authorized
    split at authorized
    · simp at authorized
    · simpa [replayHistory] using authorized
  · rw [bind_eq_ok_iff] at authorized
    obtain ⟨_, _, authorized⟩ := authorized
    split at authorized
    · simp at authorized
    · simpa [replayHistory] using authorized

/-- Without conflicts in its way, an event is decided by the replay of the history. -/
private theorem authorized_of_replayHistory
    {event : SignedEvent} {scan : Scan HistoryReplay SignedEvent}
    (sameWorkspace :
      ∀ historical ∈ history, historical.event.workspaceId = event.event.workspaceId)
    (undisputed :
      ∀ channelId, eventDeclaredChannelId event = some channelId →
        channelId ∉ conflictingChannelIds history)
    (untainted :
      ∀ parentId ∈ event.event.parents,
        parentId ∉ conflictOriginByEvent (conflictingChannelIds history) history)
    (replayed : replayHistory event.event.workspaceId history = .ok scan)
    (authorized : scan.state.index.authorize event = .ok ()) :
    authorizeEventWithHistory history event = .ok () := by
  have noOrigin :
      leastChannelId
        (event.event.parents.filterMap fun parentId =>
          (conflictOriginByEvent (conflictingChannelIds history) history)[parentId]?) = none := by
    rw [leastChannelId_eq_none_iff, List.filterMap_eq_nil_iff]
    intro parentId isParent
    exact Std.ExtTreeMap.getElem?_eq_none (untainted parentId isParent)
  have validated :=
    ((WorkspaceAccessIndex.authorize_eq_ok_iff scan.state.index event ()).mp authorized).1
  unfold authorizeEventWithHistory
  unfold replayHistory at replayed
  cases declared : eventDeclaredChannelId event with
  | none =>
      simp only [filter_sameWorkspace sameWorkspace, noOrigin, bind_eq_ok_iff, Unique.exists_iff]
      exact ⟨validated, trivial, trivial, scan, replayed, authorized⟩
  | some channelId =>
      simp only [filter_sameWorkspace sameWorkspace, noOrigin, bind_eq_ok_iff, Unique.exists_iff]
      exact ⟨validated, (ensure_eq_ok_iff _ _ _).mpr (undisputed channelId declared), trivial,
        scan, replayed, authorized⟩

end Following

/-- An event whose parents are applied is applied exactly when it is authorized. -/
private theorem exists_apply_iff
    {state : WorkspaceState} {event : SignedEvent}
    (sameWorkspace : event.event.workspaceId = state.workspaceId)
    (parentsApplied : ∀ parentId ∈ event.event.parents, parentId ∈ state.appliedEventIds) :
    (∃ next, state.apply event = (.ok (), next)) ↔
      state.accessIndex.authorize event = .ok () := by
  constructor
  · rintro ⟨next, accepted⟩
    exact (applyReadyEvent_ok ((apply_eq_ok_iff _ _ _).mp accepted).2).2.1
  · intro authorized
    obtain ⟨next, applied, -⟩ := applyReadyEvent_of_authorized sameWorkspace authorized
    exact ⟨next, (apply_eq_ok_iff _ _ _).mpr
      ⟨(unappliedParentIds_eq_nil_iff state event).mpr parentsApplied, applied⟩⟩

/-- A history and the state it materializes authorize the same event if and only if
the history replays through or the event is refused anyway. -/
theorem authorizeEventWithHistory_agrees_iff
    (workspaceId : WorkspaceId) (history : List SignedEvent)
    (identified : Identified history) (singleRoot : SingleRoot history)
    (closed :
      ∀ event ∈ history, ∀ parentId ∈ event.event.parents,
        parentId ∈ history.map SignedEvent.eventId)
    (report : MaterializationReport) (state : WorkspaceState)
    (accepted : (new workspaceId).applyBatch history = (.ok report, state))
    (event : SignedEvent) (eventWorkspace : event.event.workspaceId = workspaceId)
    (parentsApplied : ∀ parentId ∈ event.event.parents, parentId ∈ state.appliedEventIds)
    (undisputed :
      ∀ channelId, eventDeclaredChannelId event = some channelId →
        ¬ DisputedChannel history channelId) :
    (authorizeEventWithHistory history event = .ok () ↔
        ∃ next, state.apply event = (.ok (), next)) ↔
      ReplaysThrough workspaceId history ∨ state.accessIndex.authorize event ≠ .ok () := by
  obtain ⟨validated, scan, scanned, -, rfl⟩ := replay_of_applyBatch accepted
  have sameWorkspace :
      ∀ historical ∈ history, historical.event.workspaceId = event.event.workspaceId := by
    intro historical member
    rw [eventWorkspace]
    exact ((validateBatch_eq_ok_iff _ _).mp validated historical member).2
  have stateWorkspace : event.event.workspaceId = scan.state.workspaceId := by
    rw [eventWorkspace]
    exact (appliedAlong_of_advances (replay_advances scanned)).sameWorkspace.symm
  have started :
      Mirrors workspaceId history (new workspaceId) ⟨WorkspaceAccessIndex.new workspaceId, ∅⟩ :=
    { index := rfl
      applied := rfl
      reached := ⟨[], List.nil_subset history, .new⟩
      untainted := by simp [new] }
  obtain ⟨goesThrough, aborts⟩ :=
    replay_follows (history_follows identified singleRoot closed) started scanned
  rw [exists_apply_iff stateWorkspace parentsApplied]
  by_cases through : ReplaysThrough workspaceId history
  · -- the history replays to the index of the state
    obtain ⟨replayed, replayedOk, mirrors⟩ := goesThrough through
    rw [← eventWorkspace] at replayedOk
    refine iff_of_true ?_ (Or.inl through)
    constructor
    · intro authorized
      obtain ⟨other, otherOk, decided⟩ := replayHistory_of_authorized sameWorkspace authorized
      have same : Except.ok replayed = Except.ok other := replayedOk.symm.trans otherOk
      rw [← Except.ok.inj same, mirrors.index] at decided
      exact decided
    · intro authorized
      refine authorized_of_replayHistory sameWorkspace ?_ ?_ replayedOk ?_
      · intro channelId declared
        rw [mem_conflictingChannelIds_iff]
        exact undisputed channelId declared
      · intro parentId isParent tainted
        exact mirrors.untainted parentId tainted (parentsApplied parentId isParent)
      · rw [mirrors.index]
        exact authorized
  · -- the history aborts, so the two agree only on refusals
    have isFatal :
        ∃ trial ∈ trials (scanAttempt (conflictingChannelIds history)) (new workspaceId) history,
          EndsHistory (conflictingChannelIds history) trial.1 trial.2 := by
      unfold ReplaysThrough at through
      rw [not_forall] at through
      obtain ⟨trial, isTrial⟩ := through
      rw [Classical.not_imp, not_not] at isTrial
      exact ⟨trial, isTrial⟩
    obtain ⟨raised, failed⟩ := aborts isFatal
    have refused : authorizeEventWithHistory history event ≠ .ok () := by
      intro authorized
      obtain ⟨other, otherOk, _⟩ := replayHistory_of_authorized sameWorkspace authorized
      rw [eventWorkspace] at otherOk
      have same := failed.symm.trans otherOk
      cases same
    constructor
    · intro agree
      exact Or.inr fun authorized => refused (agree.mpr authorized)
    · rintro (throughToo | denied)
      · exact absurd throughToo through
      · exact iff_of_false refused denied

/-- A channel of the workspace. -/
def channelHistory : List SignedEvent :=
  [draftEvent "e0" "root" none [] (.workspaceCreated "home"),
    draftEvent "e1" "root" none ["e0"] (.channelCreated ⟨"general"⟩ "general" false)]

def channelMessage : SignedEvent :=
  draftEvent "e3" "root" (some "general") ["e1"] (.messageCreated ⟨"hello"⟩ "hello" [])

/-- Both ways accept the message. -/
theorem authorizeEventWithHistory_agrees_iff_channelHistory :
    authorizeEventWithHistory channelHistory channelMessage = .ok () ↔
      ∃ next, ((new ⟨"w"⟩).applyBatch channelHistory).2.apply channelMessage = (.ok (), next) := by
  have undisputed :
      ∀ channelId, eventDeclaredChannelId channelMessage = some channelId →
        ¬ DisputedChannel channelHistory channelId := by
    intro channelId declared
    cases declared
    rw [← mem_conflictingChannelIds_iff]
    decide +kernel
  exact (authorizeEventWithHistory_agrees_iff ⟨"w"⟩ channelHistory (by decide +kernel)
    (by decide +kernel) (by decide +kernel) { appliedEvents := [⟨"e0"⟩, ⟨"e1"⟩], gaps := [] } _
    (Prod.ext (by decide +kernel) rfl) channelMessage rfl (by decide +kernel) undisputed).mpr
    (Or.inl (by decide +kernel))

/-- The root gives itself an avatar in capital letters. -/
def avatarHistory : List SignedEvent :=
  channelHistory ++ [draftEvent "e2" "root" none ["e0"] (.deviceProfileUpdated "root" "CAT")]

/-- One refused avatar, and the history authorizes nothing any more. -/
theorem authorizeEventWithHistory_not_agrees :
    ¬ ∀ (workspaceId : WorkspaceId) (history : List SignedEvent),
      Identified history → SingleRoot history →
        (∀ event ∈ history, ∀ parentId ∈ event.event.parents,
          parentId ∈ history.map SignedEvent.eventId) →
          ∀ report state, (new workspaceId).applyBatch history = (.ok report, state) →
            ∀ event, event.event.workspaceId = workspaceId → event ∉ history →
              (∀ parentId ∈ event.event.parents, parentId ∈ state.appliedEventIds) →
                (∀ channelId, eventDeclaredChannelId event = some channelId →
                  ¬ DisputedChannel history channelId) →
                  (authorizeEventWithHistory history event = .ok () ↔
                    ∃ next, state.apply event = (.ok (), next)) := by
  intro agree
  have undisputed :
      ∀ channelId, eventDeclaredChannelId channelMessage = some channelId →
        ¬ DisputedChannel avatarHistory channelId := by
    intro channelId declared
    cases declared
    rw [← mem_conflictingChannelIds_iff]
    decide +kernel
  have refused :
      authorizeEventWithHistory avatarHistory channelMessage = .error .invalidAvatarId := by
    decide +kernel
  have authorized :=
    (agree ⟨"w"⟩ avatarHistory (by decide +kernel) (by decide +kernel) (by decide +kernel)
      { appliedEvents := [⟨"e0"⟩, ⟨"e1"⟩], gaps := [⟨⟨"e2"⟩, []⟩] } _
      (Prod.ext (by decide +kernel) rfl) channelMessage rfl (by decide +kernel)
      (by decide +kernel) undisputed).mpr ⟨_, Prod.ext (by decide +kernel) rfl⟩
  rw [refused] at authorized
  cases authorized

end WorkspaceState

end Chaft
