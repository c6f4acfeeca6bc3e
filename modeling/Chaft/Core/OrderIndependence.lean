import Chaft.Core.BatchCompleteness
import Chaft.Core.StateViews
import Chaft.Library.Confluence

/-!
# Orders of one history

A batch absorbs its events in an order that depends on the order of its input,
and concurrent updates of one member or channel take effect in that order.
The authority that two replicas derive is the same as long as no two events
race: whenever two events could come next, they can follow each other in both
orders, with the same access index in the end.
-/

namespace Chaft

open Keyed Outcome StableReplay Scheduling

/-- The event belongs to the batch, creates no disputed channel, and follows its
parents. -/
structure BatchReady (events : List SignedEvent) (done : Set SignedEvent) (event : SignedEvent) :
    Prop where
  member : event ∈ events
  undisputed : channelDefinitionConflict (conflictingChannelIds events) event = false
  parentsDone : ∀ parentId ∈ event.event.parents, ∃ parent ∈ done, parent.eventId = parentId

/-- No two events of a batch race in a fresh workspace. -/
def RaceFreeBatch (workspaceId : WorkspaceId) (events : List SignedEvent) : Prop :=
  RaceFree WorkspaceAccessIndex.authorizeAndApply (BatchReady events)
    ⟨WorkspaceAccessIndex.new workspaceId, ∅⟩

instance (events applied : List SignedEvent) (event : SignedEvent) :
    Decidable (BatchReady events {other | other ∈ applied} event) :=
  decidable_of_iff
    (event ∈ events ∧
      channelDefinitionConflict (conflictingChannelIds events) event = false ∧
        ∀ parentId ∈ event.event.parents, ∃ parent ∈ applied, parent.eventId = parentId)
    ⟨fun ready => ⟨ready.1, ready.2.1, ready.2.2⟩,
      fun ready => ⟨ready.member, ready.undisputed, ready.parentsDone⟩⟩

theorem batchReady_grows (events : List SignedEvent) :
    ∀ done event extra,
      BatchReady events done event → BatchReady events (insert extra done) event := by
  intro done event extra ready
  refine ⟨ready.member, ready.undisputed, ?_⟩
  intro parentId isParent
  obtain ⟨parent, wasDone, same⟩ := ready.parentsDone parentId isParent
  exact ⟨parent, Set.mem_insert_of_mem extra wasDone, same⟩

theorem disputedChannel_of_perm
    {events reordered : List SignedEvent} (permuted : events.Perm reordered)
    {channelId : ChannelId} (disputed : DisputedChannel events channelId) :
    DisputedChannel reordered channelId := by
  obtain ⟨first, firstMember, second, secondMember, creates⟩ := disputed
  exact ⟨first, permuted.mem_iff.mp firstMember, second, permuted.mem_iff.mp secondMember, creates⟩

/-- Which channels are disputed does not depend on the order. -/
theorem channelDefinitionConflict_perm
    {events reordered : List SignedEvent} (permuted : events.Perm reordered)
    (event : SignedEvent) :
    channelDefinitionConflict (conflictingChannelIds events) event =
      channelDefinitionConflict (conflictingChannelIds reordered) event := by
  rw [Bool.eq_iff_iff, channelDefinitionConflict_iff, channelDefinitionConflict_iff]
  constructor
  · rintro ⟨channelId, creates, disputed⟩
    exact ⟨channelId, creates, disputedChannel_of_perm permuted disputed⟩
  · rintro ⟨channelId, creates, disputed⟩
    exact ⟨channelId, creates, disputedChannel_of_perm permuted.symm disputed⟩

theorem batchReady_perm
    {events reordered : List SignedEvent} (permuted : events.Perm reordered) :
    BatchReady reordered = BatchReady events := by
  funext done event
  apply propext
  constructor
  · intro ready
    exact ⟨permuted.mem_iff.mpr ready.member,
      (channelDefinitionConflict_perm permuted event).trans ready.undisputed, ready.parentsDone⟩
  · intro ready
    exact ⟨permuted.mem_iff.mp ready.member,
      (channelDefinitionConflict_perm permuted event).symm.trans ready.undisputed,
      ready.parentsDone⟩

namespace WorkspaceState

/-! ## The schedule of a batch -/

/-- The advances of a batch are a schedule of the access index. -/
theorem schedule_of_advances
    {events applied : List SignedEvent} {state final : WorkspaceState} {done : Set SignedEvent}
    (ran : Advances (scanAttempt (conflictingChannelIds events)) state applied final)
    (drawn : applied ⊆ events)
    (recorded :
      ∀ eventId, eventId ∈ state.appliedEventIds ↔ ∃ event ∈ done, event.eventId = eventId) :
    Schedule WorkspaceAccessIndex.authorizeAndApply (BatchReady events)
      ⟨state.accessIndex, done⟩ applied
      ⟨final.accessIndex, {event | event ∈ done ∨ event ∈ applied}⟩ := by
  induction ran generalizing done with
  | done state =>
      have same : {event | event ∈ done ∨ event ∈ ([] : List SignedEvent)} = done := by
        ext event
        simp
      rw [same]
      exact .stop _
  | @next state middle final event rest advanced _ inductionHypothesis =>
      obtain ⟨undisputed, noneMissing, unapplied, accepted⟩ :=
        (scanAttempt_eq_advance_iff _ _ _ _).mp advanced
      obtain ⟨-, authorized, -, -, nowRecorded, indexAfter⟩ := applyReadyEvent_ok accepted
      have parentsApplied := (unappliedParentIds_eq_nil_iff state event).mp noneMissing
      have enabled :
          Enabled WorkspaceAccessIndex.authorizeAndApply (BatchReady events)
            ⟨state.accessIndex, done⟩ event middle.accessIndex :=
        { isNew := fun wasDone => unapplied ((recorded _).mpr ⟨event, wasDone, rfl⟩)
          isReady :=
            { member := drawn List.mem_cons_self
              undisputed := undisputed
              parentsDone := fun parentId isParent =>
                (recorded parentId).mp (parentsApplied parentId isParent) }
          accepted := by
            rw [WorkspaceAccessIndex.authorizeAndApply_eq_ok_iff]
            exact ⟨authorized, indexAfter.symm⟩ }
      have later :=
        @inductionHypothesis (insert event done)
          (fun other member => drawn (List.mem_cons_of_mem event member))
          (by
            intro eventId
            rw [nowRecorded, Std.ExtTreeSet.mem_insert, Std.LawfulEqCmp.compare_eq_iff_eq,
              recorded, Set.exists_mem_insert])
      have same :
          {other | other ∈ insert event done ∨ other ∈ rest} =
            {other | other ∈ done ∨ other ∈ event :: rest} := by
        ext other
        simp only [Set.mem_insert_iff, List.mem_cons, Set.mem_ofPred_eq]
        tauto
      rw [same] at later
      exact .next enabled later

/-- A successful batch on a fresh workspace leaves nothing to do. -/
theorem finished_of_applyBatch
    {workspaceId : WorkspaceId} {events : List SignedEvent}
    (distinct : (events.map SignedEvent.eventId).Nodup)
    {report : MaterializationReport} {final : WorkspaceState}
    (accepted : (new workspaceId).applyBatch events = (.ok report, final)) :
    ∃ applied : List SignedEvent,
      Schedule WorkspaceAccessIndex.authorizeAndApply (BatchReady events)
          ⟨WorkspaceAccessIndex.new workspaceId, ∅⟩ applied
          ⟨final.accessIndex, {event | event ∈ applied}⟩ ∧
        Finished WorkspaceAccessIndex.authorizeAndApply (BatchReady events)
          ⟨final.accessIndex, {event | event ∈ applied}⟩ ∧
        ∀ eventId, eventId ∈ final.appliedEventIds ↔
          eventId ∈ applied.map SignedEvent.eventId := by
  obtain ⟨validated, scan, scanned, -, rfl⟩ := replay_of_applyBatch accepted
  have drawn := replay_advanced_subset scanned
  have along := appliedAlong_of_advances (replay_advances scanned)
  have appliedIds :
      ∀ eventId, eventId ∈ scan.state.appliedEventIds ↔
        eventId ∈ scan.advanced.map SignedEvent.eventId := by
    intro eventId
    rw [along.appliedIds]
    simp [new]
  have scheduled :=
    @schedule_of_advances events scan.advanced (new workspaceId) scan.state ∅
      (replay_advances scanned) drawn (by simp [new])
  have onlyAdvanced :
      {event | event ∈ (∅ : Set SignedEvent) ∨ event ∈ scan.advanced} =
        {event | event ∈ scan.advanced} := by
    ext event
    simp
  rw [onlyAdvanced] at scheduled
  refine ⟨scan.advanced, scheduled, ?_, appliedIds⟩
  intro event next enabled
  have unapplied : event.eventId ∉ scan.state.appliedEventIds := by
    intro known
    obtain ⟨other, isAdvanced, sameId⟩ := List.mem_map.mp ((appliedIds _).mp known)
    have same : other = event :=
      List.inj_on_of_nodup_map distinct (drawn isAdvanced) enabled.isReady.member sameId
    exact enabled.isNew (same ▸ isAdvanced)
  have kept : event ∈ scan.kept := by
    rcases replay_mem scanned enabled.isReady.member with kept | settled
    · exact kept
    · exact absurd (applied_of_settled scanned settled) unapplied
  rcases (scanAttempt_eq_keep_iff _ _ _).mp (replay_fixpoint scanned event kept) with
    disputed | missing | ⟨-, -, refusal, refused, -⟩
  · rw [enabled.isReady.undisputed] at disputed
    cases disputed
  · apply missing
    rw [unappliedParentIds_eq_nil_iff]
    intro parentId isParent
    obtain ⟨parent, wasDone, sameId⟩ := enabled.isReady.parentsDone parentId isParent
    rw [appliedIds, ← sameId]
    exact List.mem_map_of_mem wasDone
  · have authorized :=
      ((WorkspaceAccessIndex.authorizeAndApply_eq_ok_iff _ _ _).mp enabled.accepted).1
    dsimp only at authorized
    rw [refused] at authorized
    cases authorized

/-! ## The same authority in every order -/

/-- The authority that two states derive: members with their roles, channels
with their privacy and members, person links, and what has been applied. -/
structure SameAuthority (left right : WorkspaceState) : Prop where
  members :
    ∀ deviceId : DeviceId,
      left.members[deviceId]?.map WorkspaceMemberView.role =
        right.members[deviceId]?.map WorkspaceMemberView.role
  channels :
    ∀ channelId : ChannelId,
      left.channels[channelId]?.map ChannelView.authority =
        right.channels[channelId]?.map ChannelView.authority
  personDeviceLinks :
    ∀ deviceId : DeviceId,
      left.personDeviceLinks[deviceId]?.map PersonDeviceLinkView.personId =
        right.personDeviceLinks[deviceId]?.map PersonDeviceLinkView.personId
  appliedEventIds : left.appliedEventIds = right.appliedEventIds

theorem viewsMatch_of_applyBatch
    {workspaceId : WorkspaceId} {events : List SignedEvent} {report : MaterializationReport}
    {final : WorkspaceState}
    (accepted : (new workspaceId).applyBatch events = (.ok report, final)) :
    final.ViewsMatch final.accessIndex := by
  obtain ⟨applied, drawn, listed, replayed⟩ := applied_of_applyBatch accepted
  exact (Reachable.applyBatch .new accepted drawn listed replayed).viewsMatch

/-- A member and a channel that the root adds concurrently. -/
def concurrentHistory : List SignedEvent :=
  [draftEvent "e0" "root" none [] (.workspaceCreated "home"),
    draftEvent "e1" "root" none ["e0"] (.memberInvited ⟨"bea"⟩ .member),
    draftEvent "e2" "root" none ["e0"] (.channelCreated ⟨"general"⟩ "general" false)]

/-- The member and the channel do not race. -/
theorem concurrentHistory_raceFree : RaceFreeBatch ⟨"w"⟩ concurrentHistory := by
  apply raceFree_of_commute (fun _ _ ready => ready.member)
  decide +kernel

/-- Two concurrent updates of one role. -/
def racingHistory : List SignedEvent :=
  [draftEvent "e0" "root" none [] (.workspaceCreated "home"),
    draftEvent "e1" "root" none ["e0"] (.memberInvited ⟨"bea"⟩ .member),
    draftEvent "e2" "root" none ["e1"] (.memberRoleUpdated ⟨"bea"⟩ .guest),
    draftEvent "e3" "root" none ["e1"] (.memberRoleUpdated ⟨"bea"⟩ .admin)]

/-- An event that arrives before its parent waits for it. -/
example :
    ((new ⟨"w"⟩).applyBatch
        [draftEvent "e1" "root" none ["e0"] (.memberInvited ⟨"bea"⟩ .member),
          draftEvent "e0" "root" none [] (.workspaceCreated "home")]).1 =
      .ok { appliedEvents := [⟨"e0"⟩, ⟨"e1"⟩], gaps := [] } := by
  decide +kernel

end WorkspaceState

end Chaft
