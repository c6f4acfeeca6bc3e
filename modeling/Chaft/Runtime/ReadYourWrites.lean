import Chaft.Core.AppliedHistory
import Chaft.Runtime.WriteContext

/-!
# Reading back what was written

A local write has the heads of the applied events as parents.  So it comes after every
applied event, whatever else is pending, and re-materializing the store applies the
same events in the same order and then the new one.  Stored events that wait for the
new one follow it.
-/

namespace Chaft

open Keyed Outcome StableReplay Transition CausalOrder

/-! ## What a context holds -/

/-- Taking the events of a listing out of a table that has them. -/
theorem takeEvents_eq
    {applied : List SignedEvent} (distinct : (applied.map SignedEvent.eventId).Nodup)
    {eventsById : HashMap EventId SignedEvent}
    (known : ∀ event ∈ applied, eventsById[event.eventId]? = some event) :
    takeEvents (applied.map SignedEvent.eventId) eventsById = applied := by
  induction applied generalizing eventsById with
  | nil => rfl
  | cons event rest inductionHypothesis =>
      obtain ⟨isNew, restDistinct⟩ := List.nodup_cons.mp distinct
      have restKnown :
          ∀ other ∈ rest, (eventsById.erase event.eventId)[other.eventId]? = some other := by
        intro other member
        have apart : ¬ compare event.eventId other.eventId = .eq := by
          intro same
          rw [Std.LawfulEqCmp.compare_eq_iff_eq] at same
          exact isNew (same ▸ List.mem_map_of_mem member)
        rw [Std.ExtTreeMap.getElem?_erase, if_neg apart]
        exact known other (List.mem_cons_of_mem event member)
      rw [List.map_cons, takeEvents, known event List.mem_cons_self]
      dsimp only
      rw [inductionHypothesis restDistinct restKnown]

theorem mem_referencedParentIds
    (appliedEventIds : HashSet EventId) (events : List SignedEvent) (tested : EventId) :
    tested ∈ referencedParentIds appliedEventIds events ↔
      tested ∈ appliedEventIds ∧
        ∃ event ∈ events, event.eventId ∈ appliedEventIds ∧ tested ∈ event.event.parents := by
  have collects :
      ∀ (listed : List SignedEvent) (referenced : HashSet EventId),
        tested ∈ listed.foldl
            (fun referenced event =>
              (event.event.parents.filter fun parentId =>
                  decide (parentId ∈ appliedEventIds)).foldl
                (fun referenced parentId => referenced.insert parentId) referenced) referenced ↔
          tested ∈ referenced ∨
            tested ∈ appliedEventIds ∧ ∃ event ∈ listed, tested ∈ event.event.parents := by
    intro listed
    induction listed with
    | nil => simp
    | cons event rest inductionHypothesis =>
        intro referenced
        rw [List.foldl_cons, inductionHypothesis, mem_foldl_insert, List.mem_filter,
          decide_eq_true_eq]
        simp only [List.mem_cons, exists_eq_or_imp]
        tauto
  rw [referencedParentIds, collects]
  simp only [List.mem_filter, decide_eq_true_eq, and_assoc]
  simp

/-- The applied IDs that are not referenced.  A context without any falls back on the
last applied ID. -/
def unreferencedIds (context : WorkspaceWriteContext) : List EventId :=
  context.report.appliedEvents.filter fun eventId =>
    decide (eventId ∉ referencedParentIds
      (Std.ExtTreeSet.ofList context.report.appliedEvents compare) context.events)

/-- The heads of a listing in causal order, which is never without one. -/
theorem heads_of_ordered
    {applied : List SignedEvent}
    (ordered : CausallyOrdered SignedEvent.eventId WorkspaceState.parentsOf applied)
    (nonempty : applied ≠ []) {report : MaterializationReport}
    (listed : report.appliedEvents = applied.map SignedEvent.eventId) :
    (report.appliedEvents.filter fun eventId =>
        decide (eventId ∉ referencedParentIds
          (Std.ExtTreeSet.ofList report.appliedEvents compare) applied)) ≠ [] ∧
      ∀ eventId, eventId ∈ workspaceHeadEventIdsFromMaterialization applied report ↔
        IsHead SignedEvent.eventId WorkspaceState.parentsOf applied eventId := by
  have unreferenced :
      ∀ eventId,
        eventId ∈ (report.appliedEvents.filter fun eventId =>
            decide (eventId ∉ referencedParentIds
              (Std.ExtTreeSet.ofList report.appliedEvents compare) applied)) ↔
          IsHead SignedEvent.eventId WorkspaceState.parentsOf applied eventId := by
    intro eventId
    rw [List.mem_filter, decide_eq_true_eq, mem_referencedParentIds, mem_ofList_iff, listed, IsHead]
    constructor
    · rintro ⟨member, notParent⟩
      refine ⟨member, fun event isApplied isParent => notParent ⟨member, event, isApplied, ?_,
        isParent⟩⟩
      rw [mem_ofList_iff]
      exact List.mem_map_of_mem isApplied
    · rintro ⟨member, notParent⟩
      refine ⟨member, ?_⟩
      rintro ⟨-, event, isApplied, -, isParent⟩
      exact notParent event isApplied isParent
  obtain ⟨head, isHead⟩ := exists_isHead ordered nonempty
  have isUnreferenced := (unreferenced head).mpr isHead
  refine ⟨List.ne_nil_of_mem isUnreferenced, ?_⟩
  intro eventId
  rw [← unreferenced, workspaceHeadEventIdsFromMaterialization]
  have hasHeads :
      ¬ (Std.ExtTreeSet.ofList (report.appliedEvents.filter fun eventId =>
          decide (eventId ∉ referencedParentIds
            (Std.ExtTreeSet.ofList report.appliedEvents compare) applied))
        compare).isEmpty = true := by
    intro isEmpty
    rw [Std.ExtTreeSet.isEmpty_iff] at isEmpty
    have member := (mem_ofList_iff _ head).mpr isUnreferenced
    rw [isEmpty] at member
    exact Std.ExtTreeSet.not_mem_empty member
  rw [if_neg hasHeads, Std.ExtTreeSet.mem_toList, mem_ofList_iff]

/-- A context comes from a replay of the verified events. -/
structure ContextOf
    (workspaceId : WorkspaceId) (verifiedEvents : List SignedEvent)
    (context : WorkspaceWriteContext) (scan : Scan WorkspaceState SignedEvent) : Prop where
  validated : (WorkspaceState.new workspaceId).validateBatch verifiedEvents = .ok ()
  scanned :
    replay (WorkspaceState.scanAttempt (conflictingChannelIds verifiedEvents))
      (WorkspaceState.new workspaceId) verifiedEvents = .ok scan
  progressed : scan.advanced ≠ []
  events : context.events = scan.advanced
  state : context.state = scan.state
  report : context.report = WorkspaceState.scanReport scan
  headEventIds :
    ∀ eventId, eventId ∈ context.headEventIds ↔
      IsHead SignedEvent.eventId WorkspaceState.parentsOf scan.advanced eventId
  hasHeads : unreferencedIds context ≠ []

theorem exists_contextOf
    {workspaceId : WorkspaceId} {verifiedEvents : List SignedEvent}
    {context : WorkspaceWriteContext}
    (distinct : (verifiedEvents.map SignedEvent.eventId).Nodup)
    (made :
      workspaceWriteContextFromMaterializedEvents workspaceId verifiedEvents = .ok context) :
    ∃ scan, ContextOf workspaceId verifiedEvents context scan := by
  rw [workspaceWriteContextFromMaterializedEvents, bind_eq_ok_iff] at made
  obtain ⟨_, -, made⟩ := made
  split at made
  · cases made
  · rename_i report state accepted
    rw [bind_eq_ok_iff] at made
    obtain ⟨_, isNonempty, made⟩ := made
    rw [ensure_eq_ok_iff] at isNonempty
    obtain ⟨validated, scan, scanned, rfl, rfl⟩ := WorkspaceState.replay_of_applyBatch accepted
    have progressed : scan.advanced ≠ [] := by
      intro none
      exact isNonempty (by rw [WorkspaceState.scanReport, none, List.map_nil])
    have advances := replay_advances scanned
    have ordered := WorkspaceState.causallyOrdered_of_advances advances
    have taken :
        takeEvents (scan.advanced.map SignedEvent.eventId)
            (tableOf SignedEvent.eventId id ∅ verifiedEvents) = scan.advanced := by
      refine takeEvents_eq ordered.nodup ?_
      intro event member
      have apart :
          verifiedEvents.Pairwise fun first second => first.eventId ≠ second.eventId :=
        List.pairwise_map.mp distinct
      exact getElem?_tableOf_of_mem apart (replay_advanced_subset scanned member) ∅
    cases made
    obtain ⟨hasHeads, headEventIds⟩ :=
      @heads_of_ordered scan.advanced ordered progressed (WorkspaceState.scanReport scan) rfl
    refine ⟨scan, validated, scanned, progressed, taken, rfl, rfl, ?_, ?_⟩
    · dsimp only [WorkspaceState.scanReport] at headEventIds ⊢
      rw [taken]
      exact headEventIds
    · dsimp only [unreferencedIds, WorkspaceState.scanReport] at hasHeads ⊢
      rw [taken]
      exact hasHeads

/-- Every applied event leads to a head, and no head leads to another. -/
structure HeadsCover
    (verifiedEvents : List SignedEvent) (context : WorkspaceWriteContext) : Prop where
  incomparable :
    ∀ first ∈ context.headEventIds, ∀ second ∈ context.headEventIds,
      LeadsTo SignedEvent.eventId WorkspaceState.parentsOf verifiedEvents first second →
        first = second
  covered :
    ∀ eventId ∈ context.report.appliedEvents, ∃ head ∈ context.headEventIds,
      LeadsTo SignedEvent.eventId WorkspaceState.parentsOf verifiedEvents eventId head
  noFallback : unreferencedIds context ≠ []

section Writing

variable {workspaceId : WorkspaceId} {verifiedEvents : List SignedEvent}
  {context : WorkspaceWriteContext} {scan : Scan WorkspaceState SignedEvent}
  {signed : SignedEvent}

/-- An event of an applied ID is an applied event. -/
theorem ContextOf.mem_advanced
    (contextOf : ContextOf workspaceId verifiedEvents context scan)
    (distinct : (verifiedEvents.map SignedEvent.eventId).Nodup)
    {event : SignedEvent} (member : event ∈ verifiedEvents)
    (isApplied : event.eventId ∈ scan.advanced.map SignedEvent.eventId) :
    event ∈ scan.advanced := by
  obtain ⟨other, otherApplied, same⟩ := List.mem_map.mp isApplied
  have otherMember := replay_advanced_subset contextOf.scanned otherApplied
  rw [List.inj_on_of_nodup_map distinct member otherMember same.symm]
  exact otherApplied

theorem ContextOf.headsCover
    (contextOf : ContextOf workspaceId verifiedEvents context scan)
    (distinct : (verifiedEvents.map SignedEvent.eventId).Nodup) :
    HeadsCover verifiedEvents context := by
  have ordered := WorkspaceState.causallyOrdered_of_advances (replay_advances contextOf.scanned)
  have drawn := replay_advanced_subset contextOf.scanned
  constructor
  · intro first firstHead second secondHead leads
    rw [contextOf.headEventIds] at firstHead secondHead
    refine eq_of_head_leadsTo firstHead (leadsTo_within ordered ?_ leads secondHead.1)
    exact fun event member isApplied => contextOf.mem_advanced distinct member isApplied
  · intro eventId isApplied
    rw [contextOf.report] at isApplied
    obtain ⟨event, member, rfl⟩ := List.mem_map.mp isApplied
    obtain ⟨head, isHead, leads⟩ := exists_head_of_mem ordered member
    have amongAll :
        ∀ parent child,
          IsParent SignedEvent.eventId WorkspaceState.parentsOf scan.advanced parent child →
            IsParent SignedEvent.eventId WorkspaceState.parentsOf verifiedEvents parent child :=
      fun _ _ ⟨item, isItem, isChild, isParent⟩ => ⟨item, drawn isItem, isChild, isParent⟩
    exact ⟨head, (contextOf.headEventIds head).mpr isHead,
      Relation.ReflTransGen.mono amongAll _ _ leads⟩
  · exact contextOf.hasHeads

/-- A write on the heads of a context that the context authorizes. -/
structure WriteOn
    (verifiedEvents : List SignedEvent) (context : WorkspaceWriteContext)
    (signed : SignedEvent) : Prop where
  sameWorkspace : signed.event.workspaceId = context.state.workspaceId
  onHeads : signed.event.parents = context.headEventIds
  authorized : context.state.accessIndex.authorize signed = .ok ()
  noRival :
    ∀ stored ∈ verifiedEvents, stored.eventId ∉ context.report.appliedEvents →
      ∀ channelId, CreatesChannel signed channelId → ¬ CreatesChannel stored channelId

theorem WriteOn.parentsApplied
    (contextOf : ContextOf workspaceId verifiedEvents context scan)
    (write : WriteOn verifiedEvents context signed) :
    ∀ parentId ∈ signed.event.parents, parentId ∈ scan.state.appliedEventIds := by
  intro parentId isParent
  rw [write.onHeads, contextOf.headEventIds] at isParent
  exact ((WorkspaceState.appliedAlong_of_advances (replay_advances contextOf.scanned)).appliedIds parentId).mpr
    (Or.inr isParent.1)

/-- No stored event creates a channel that the new event creates. -/
theorem WriteOn.not_createsChannel
    (contextOf : ContextOf workspaceId verifiedEvents context scan)
    (distinct : (verifiedEvents.map SignedEvent.eventId).Nodup)
    (write : WriteOn verifiedEvents context signed) {stored : SignedEvent}
    (member : stored ∈ verifiedEvents) {channelId : ChannelId}
    (creates : CreatesChannel signed channelId) :
    ¬ CreatesChannel stored channelId := by
  by_cases isApplied : stored.eventId ∈ context.report.appliedEvents
  · have authorized := write.authorized
    rw [contextOf.report] at isApplied
    rw [contextOf.state] at authorized
    exact WorkspaceState.not_createsChannel_of_authorized contextOf.scanned authorized creates
      (contextOf.mem_advanced distinct member isApplied)
  · exact write.noRival stored member isApplied channelId creates

/-- An event on all heads is not among the applied events: it would come after itself. -/
theorem WriteOn.not_applied
    (contextOf : ContextOf workspaceId verifiedEvents context scan)
    (write : WriteOn verifiedEvents context signed) : signed ∉ scan.advanced := by
  intro isApplied
  have ordered := WorkspaceState.causallyOrdered_of_advances (replay_advances contextOf.scanned)
  obtain ⟨earlier, later, split⟩ := List.append_of_mem isApplied
  have headsEarlier :
      ∀ head, IsHead SignedEvent.eventId WorkspaceState.parentsOf (earlier ++ signed :: later) head →
        head ∈ earlier.map SignedEvent.eventId := by
    intro head isHead
    rw [← split, ← contextOf.headEventIds, ← write.onHeads] at isHead
    exact (ordered earlier signed later split).1 head isHead
  rw [split] at ordered
  exact List.cons_ne_nil _ _ (eq_nil_of_heads_mem ordered headsEarlier)

/-- A write of a stored event would have been applied before. -/
theorem WriteOn.not_stored
    (contextOf : ContextOf workspaceId verifiedEvents context scan)
    (distinct : (verifiedEvents.map SignedEvent.eventId).Nodup)
    (write : WriteOn verifiedEvents context signed) : signed ∉ verifiedEvents := by
  intro stored
  have notApplied := write.not_applied contextOf
  have unapplied : signed.eventId ∉ scan.state.appliedEventIds := by
    intro known
    have along := WorkspaceState.appliedAlong_of_advances (replay_advances contextOf.scanned)
    rcases (along.appliedIds signed.eventId).mp known with before | isApplied
    · simp [WorkspaceState.new] at before
    · exact notApplied (contextOf.mem_advanced distinct stored isApplied)
  rcases replay_mem contextOf.scanned stored with kept | isApplied | dropped
  · rcases (WorkspaceState.scanAttempt_eq_keep_iff _ _ _).mp
        (replay_fixpoint contextOf.scanned signed kept) with
      disputed | missing | ⟨-, -, refusal, refused, -⟩
    · rw [channelDefinitionConflict_iff] at disputed
      obtain ⟨channelId, creates, -⟩ := disputed
      exact write.not_createsChannel contextOf distinct stored creates creates
    · exact missing ((WorkspaceState.unappliedParentIds_eq_nil_iff scan.state signed).mpr
        (write.parentsApplied contextOf))
    · have authorized := write.authorized
      rw [contextOf.state, refused] at authorized
      cases authorized
  · exact notApplied isApplied
  · exact unapplied
      (WorkspaceState.applied_of_settled contextOf.scanned (Or.inr dropped))

/-- With the new event in the batch, the stored events are tried as before. -/
theorem WriteOn.agrees
    (contextOf : ContextOf workspaceId verifiedEvents context scan)
    (distinct : (verifiedEvents.map SignedEvent.eventId).Nodup)
    (write : WriteOn verifiedEvents context signed) (state : WorkspaceState)
    (stored : SignedEvent) (member : stored ∈ verifiedEvents) :
    WorkspaceState.scanAttempt (conflictingChannelIds (verifiedEvents ++ [signed])) state stored =
      WorkspaceState.scanAttempt (conflictingChannelIds verifiedEvents) state stored := by
  have sameConflict :
      channelDefinitionConflict (conflictingChannelIds (verifiedEvents ++ [signed])) stored =
        channelDefinitionConflict (conflictingChannelIds verifiedEvents) stored := by
    rw [Bool.eq_iff_iff, channelDefinitionConflict_iff, channelDefinitionConflict_iff]
    simp only [WorkspaceState.disputedChannel_append_iff]
    constructor
    · rintro ⟨channelId, creates, disputed | ⟨signedCreates, -⟩⟩
      · exact ⟨channelId, creates, disputed⟩
      · exact absurd creates (write.not_createsChannel contextOf distinct member signedCreates)
    · rintro ⟨channelId, creates, disputed⟩
      exact ⟨channelId, creates, Or.inl disputed⟩
  rw [WorkspaceState.scanAttempt, WorkspaceState.scanAttempt, sameConflict]

/-- The new event disputes no channel. -/
theorem WriteOn.undisputed
    (contextOf : ContextOf workspaceId verifiedEvents context scan)
    (distinct : (verifiedEvents.map SignedEvent.eventId).Nodup)
    (write : WriteOn verifiedEvents context signed) :
    channelDefinitionConflict (conflictingChannelIds (verifiedEvents ++ [signed])) signed =
      false := by
  rw [WorkspaceState.channelDefinitionConflict_eq_false_iff]
  intro channelId creates disputed
  rcases WorkspaceState.disputedChannel_append_iff channelId |>.mp disputed with
    ⟨first, firstMember, -, -, firstCreates, -⟩ | ⟨-, rival, rivalMember, rivalCreates, -⟩
  · exact write.not_createsChannel contextOf distinct firstMember creates firstCreates
  · exact write.not_createsChannel contextOf distinct rivalMember creates rivalCreates

/-- The new event waits for all applied events. -/
theorem WriteOn.comesLast
    (contextOf : ContextOf workspaceId verifiedEvents context scan)
    (write : WriteOn verifiedEvents context signed) :
    ComesLast (WorkspaceState.scanAttempt (conflictingChannelIds verifiedEvents))
      (WorkspaceState.scanAttempt (conflictingChannelIds (verifiedEvents ++ [signed])))
      (WorkspaceState.new workspaceId) scan signed := by
  intro earlier later middle split nonempty toMiddle _
  rw [WorkspaceState.scanAttempt_eq_keep_iff]
  refine Or.inr (Or.inl ?_)
  intro noneMissing
  have ordered := WorkspaceState.causallyOrdered_of_advances (replay_advances contextOf.scanned)
  have along := WorkspaceState.appliedAlong_of_advances toMiddle
  refine nonempty (eq_nil_of_heads_mem (split ▸ ordered) ?_)
  intro head isHead
  rw [← split, ← contextOf.headEventIds, ← write.onHeads] at isHead
  have known :=
    (WorkspaceState.unappliedParentIds_eq_nil_iff middle signed).mp noneMissing head isHead
  rcases (along.appliedIds head).mp known with before | isEarlier
  · simp [WorkspaceState.new] at before
  · exact isEarlier

/-- The state after the applied events applies the new event. -/
theorem WriteOn.arrives
    (contextOf : ContextOf workspaceId verifiedEvents context scan)
    (distinct : (verifiedEvents.map SignedEvent.eventId).Nodup)
    (write : WriteOn verifiedEvents context signed)
    (fresh : ∀ stored ∈ verifiedEvents, stored.eventId ≠ signed.eventId) :
    ∃ next, context.state.apply signed = (.ok (), next) ∧
      WorkspaceState.scanAttempt (conflictingChannelIds (verifiedEvents ++ [signed])) scan.state
        signed = .advance next := by
  have noneMissing :=
    (WorkspaceState.unappliedParentIds_eq_nil_iff scan.state signed).mpr
      (write.parentsApplied contextOf)
  have sameWorkspace := write.sameWorkspace
  have authorized := write.authorized
  rw [contextOf.state] at sameWorkspace authorized
  obtain ⟨next, applied, -⟩ :=
    WorkspaceState.applyReadyEvent_of_authorized sameWorkspace authorized
  refine ⟨next, ?_, ?_⟩
  · rw [contextOf.state]
    exact (WorkspaceState.apply_eq_ok_iff _ _ _).mpr ⟨noneMissing, applied⟩
  · rw [WorkspaceState.scanAttempt_eq_advance_iff]
    refine ⟨write.undisputed contextOf distinct, noneMissing, ?_, applied⟩
    intro known
    have along := WorkspaceState.appliedAlong_of_advances (replay_advances contextOf.scanned)
    rcases (along.appliedIds signed.eventId).mp known with before | isApplied
    · simp [WorkspaceState.new] at before
    · obtain ⟨stored, isStored, same⟩ := List.mem_map.mp isApplied
      exact fresh stored (replay_advanced_subset contextOf.scanned isStored) same

/-- Every stored event that is not applied is deferred in a state. -/
def StaysDeferred
    (verifiedEvents : List SignedEvent) (context : WorkspaceWriteContext)
    (state : WorkspaceState) : Prop :=
  ∀ stored ∈ verifiedEvents, stored.eventId ∉ context.report.appliedEvents →
    WorkspaceState.scanAttempt (conflictingChannelIds verifiedEvents) state stored = .keep

/-- What re-materialization makes of the stored events and the new one. -/
theorem WriteOn.rematerialized
    (contextOf : ContextOf workspaceId verifiedEvents context scan)
    (distinct : (verifiedEvents.map SignedEvent.eventId).Nodup)
    (write : WriteOn verifiedEvents context signed)
    (fresh : ∀ stored ∈ verifiedEvents, stored.eventId ≠ signed.eventId) :
    ∃ next, context.state.apply signed = (.ok (), next) ∧
      (∀ report state,
        (WorkspaceState.new workspaceId).applyBatch (verifiedEvents ++ [signed]) =
            (.ok report, state) →
          ∃ unblocked, report.appliedEvents =
              context.report.appliedEvents ++ signed.eventId :: unblocked ∧
            unblocked ⊆ context.report.gaps.map MissingHistoryGap.eventId) ∧
        (StaysDeferred verifiedEvents context next →
          ∃ report state,
            (WorkspaceState.new workspaceId).applyBatch (verifiedEvents ++ [signed]) =
                (.ok report, state) ∧
              report.appliedEvents = context.report.appliedEvents ++ [signed.eventId]) := by
  obtain ⟨next, applied, arrives⟩ := write.arrives contextOf distinct fresh
  have agrees := write.agrees contextOf distinct
  have comesLast := write.comesLast contextOf
  have oldApplied : context.report.appliedEvents = scan.advanced.map SignedEvent.eventId := by
    rw [contextOf.report, WorkspaceState.scanReport]
  refine ⟨next, applied, ?_, ?_⟩
  · intro report state accepted
    obtain ⟨-, late, scannedLate, rfl, rfl⟩ := WorkspaceState.replay_of_applyBatch accepted
    obtain ⟨extra, split, contained, advances⟩ :=
      replay_newcomer contextOf.scanned scannedLate agrees comesLast arrives
    refine ⟨extra.map SignedEvent.eventId, ?_, ?_⟩
    · rw [WorkspaceState.scanReport, oldApplied, split, List.map_append, List.map_cons]
    · -- what follows the new event was pending before it
      intro eventId isExtra
      obtain ⟨event, member, rfl⟩ := List.mem_map.mp isExtra
      have isNew := (WorkspaceState.appliedAlong_of_advances advances).newIds event member
      have notBefore : event.eventId ∉ scan.state.appliedEventIds := by
        intro known
        exact isNew (WorkspaceState.appliedEventIds_of_advances
          (.next arrives (.done next)) known)
      rw [contextOf.report, WorkspaceState.scanReport, List.map_map]
      rcases replay_mem contextOf.scanned (contained member) with kept | settled
      · exact List.mem_map.mpr ⟨event, kept, rfl⟩
      · exact absurd (WorkspaceState.applied_of_settled contextOf.scanned settled) notBefore
  · intro deferred
    have settled :
        ∀ stored ∈ verifiedEvents,
          WorkspaceState.scanAttempt (conflictingChannelIds (verifiedEvents ++ [signed])) next
              stored = .keep ∨
            WorkspaceState.scanAttempt (conflictingChannelIds (verifiedEvents ++ [signed])) next
              stored = .drop := by
      intro stored member
      rw [agrees next stored member]
      by_cases isApplied : stored.eventId ∈ context.report.appliedEvents
      · right
        rw [oldApplied] at isApplied
        have inScan := contextOf.mem_advanced distinct member isApplied
        have before := WorkspaceState.settled_of_replay contextOf.scanned (Or.inl inScan)
        have grows :
            ∀ eventId, eventId ∈ scan.state.appliedEventIds → eventId ∈ next.appliedEventIds :=
          fun eventId => WorkspaceState.appliedEventIds_of_advances (.next arrives (.done next))
        rw [← WorkspaceState.settled_iff]
        exact
          { undisputed := before.undisputed
            parentsApplied := fun parentId isParent =>
              grows parentId (before.parentsApplied parentId isParent)
            isApplied := grows _ before.isApplied }
      · exact Or.inl (deferred stored member isApplied)
    obtain ⟨kept, scannedLate⟩ :=
      replay_newcomer_of_settled contextOf.scanned agrees comesLast arrives settled
    have validated :
        (WorkspaceState.new workspaceId).validateBatch (verifiedEvents ++ [signed]) = .ok () := by
      have before := contextOf.validated
      rw [WorkspaceState.validateBatch_eq_ok_iff] at before ⊢
      intro event member
      rcases List.mem_append.mp member with isStored | isSigned
      · exact before event isStored
      · rw [List.mem_singleton.mp isSigned]
        have ofScan :=
          (WorkspaceState.appliedAlong_of_advances (replay_advances contextOf.scanned)).sameWorkspace
        have sameWorkspace := write.sameWorkspace
        rw [contextOf.state, ofScan] at sameWorkspace
        exact ⟨((WorkspaceAccessIndex.authorize_eq_ok_iff _ _ _).mp write.authorized).1,
          sameWorkspace⟩
    have accepted :
        (WorkspaceState.new workspaceId).applyBatch (verifiedEvents ++ [signed]) =
          (.ok (WorkspaceState.scanReport ⟨next, kept, scan.advanced ++ [signed]⟩), next) := by
      rw [WorkspaceState.applyBatch_eq_scanBatch, WorkspaceState.scanBatch, validated]
      simp only [scannedLate]
    refine ⟨_, next, accepted, ?_⟩
    rw [WorkspaceState.scanReport, oldApplied, List.map_append, List.map_singleton]

end Writing

/-! ## Local writes -/

/-- The signature of an event verifies under the key of the device. -/
structure DeviceIdentity.Signs
    (primitives : Primitives) (identity : DeviceIdentity) (event : SignableEvent) : Prop where
  keyLength : identity.verifyingKeyBytes.length = 32
  isKey : primitives.isVerifyingKey identity.verifyingKeyBytes = true
  signatureLength : (identity.sign (event.signingBytes primitives)).length = 64
  verifies :
    primitives.verify identity.verifyingKeyBytes (event.signingBytes primitives)
      (identity.sign (event.signingBytes primitives)) = true

theorem isServableEvent_signEvent
    {primitives : Primitives} {identity : DeviceIdentity} {event : SignableEvent}
    (signs : identity.Signs primitives event)
    (ownAuthor : event.authorDeviceId = identity.deviceId primitives) :
    isServableEvent primitives (identity.signEvent primitives event) = true := by
  have verified :
      verifySelfContainedEvent primitives (identity.signEvent primitives event) = .ok () := by
    simp [verifySelfContainedEvent, DeviceIdentity.signEvent, SignedEvent.fromAuthorSignature,
      validateAuthorPublicKeyLen, validateSignatureLen, verifyEvent, verifyBytes,
      eventAuthorPublicKeyMaxBytes, eventSignatureMaxBytes, signs.keyLength, signs.isKey,
      signs.signatureLength, signs.verifies, ownAuthor, DeviceIdentity.deviceId, ensure, bind,
      Except.bind]
  rw [isServableEvent, verified]
  rfl

/-- The stored events that are materialized. -/
def verifiedStoredEvents
    (primitives : Primitives) (json : EventJson) (store : EventStore) (workspaceId : WorkspaceId) :
    List SignedEvent :=
  verifiedLocalEventsForRuntime primitives
    (store.listParseableEventsForWorkspace json workspaceId.text)

/-- A device writes an event on the heads of a context, with the events of the context
as history.  No stored event has the ID of the new one and other content, and no stored
event that is not applied creates a channel that the new one creates. -/
structure LocalWrite
    (primitives : Primitives) (json : EventJson) (history : List SignedEvent)
    (workspaceId : WorkspaceId) (context : WorkspaceWriteContext) (identity : DeviceIdentity)
    (event : SignableEvent) (signed : SignedEvent) (written : EventStore) : Prop where
  fromContext :
    workspaceWriteContext primitives json (EventStore.empty.after primitives json history)
      workspaceId = .ok context
  signs : identity.Signs primitives event
  ownAuthor : event.authorDeviceId = identity.deviceId primitives
  ownWorkspace : event.workspaceId = workspaceId
  onHeads : event.parents = context.headEventIds
  identified : ∀ stored ∈ history, stored.eventId = signed.eventId → stored = signed
  noRival :
    ∀ stored ∈ verifiedStoredEvents primitives json
        (EventStore.empty.after primitives json history) workspaceId,
      stored.eventId ∉ context.report.appliedEvents →
        ∀ channelId, createdChannelId event.body = some channelId →
          createdChannelId stored.event.body ≠ some channelId
  accepted :
    signAuthorizeAndAppendWithHistory primitives json identity
      (EventStore.empty.after primitives json history) event context.events =
        .ok (signed, written)

/-- A local write is read back: the heads cover the applied events, the state of the
context applies the new event, and re-materializing the store applies the same events
in the same order, then the new event, and then only events that were gaps.  If the
state after the new event defers all gaps, the new event is the last one. -/
theorem localWrite_readsBack
    (primitives : Primitives) (json : EventJson) (roundTrips : json.RoundTrips)
    (history : List SignedEvent) (workspaceId : WorkspaceId) (context : WorkspaceWriteContext)
    (identity : DeviceIdentity) (event : SignableEvent) (signed : SignedEvent)
    (written : EventStore)
    (write :
      LocalWrite primitives json history workspaceId context identity event signed written) :
    HeadsCover
        (verifiedStoredEvents primitives json (EventStore.empty.after primitives json history)
          workspaceId) context ∧
      ∃ next, context.state.apply signed = (.ok (), next) ∧
        (∀ report state,
          (WorkspaceState.new workspaceId).applyBatch
              (verifiedStoredEvents primitives json written workspaceId) = (.ok report, state) →
            ∃ unblocked, report.appliedEvents =
                context.report.appliedEvents ++ signed.eventId :: unblocked ∧
              unblocked ⊆ context.report.gaps.map MissingHistoryGap.eventId) ∧
          (StaysDeferred
              (verifiedStoredEvents primitives json
                (EventStore.empty.after primitives json history) workspaceId) context next →
            ∃ report state,
              (WorkspaceState.new workspaceId).applyBatch
                  (verifiedStoredEvents primitives json written workspaceId) =
                  (.ok report, state) ∧
                report.appliedEvents = context.report.appliedEvents ++ [signed.eventId]) := by
  have writtenFrom := @writtenFrom_after primitives json history
  have listedDistinct := nodup_listParseable roundTrips writtenFrom workspaceId.text
  have distinct :
      ((verifiedStoredEvents primitives json (EventStore.empty.after primitives json history)
        workspaceId).map SignedEvent.eventId).Nodup :=
    listedDistinct.sublist (List.filter_sublist.map _)
  have fromContext := write.fromContext
  rw [workspaceWriteContext, bind_eq_ok_iff] at fromContext
  obtain ⟨_, -, fromContext⟩ := fromContext
  rw [bind_eq_ok_iff] at fromContext
  obtain ⟨_, -, fromContext⟩ := fromContext
  obtain ⟨scan, contextOf⟩ := exists_contextOf distinct fromContext
  have accepted := write.accepted
  rw [signAuthorizeAndAppendWithHistory] at accepted
  simp only [bind_eq_ok_iff, renamed_eq_ok_iff, Except.ok.injEq, Prod.mk.injEq] at accepted
  obtain ⟨_, authorized, store, appended, isSigned, isWritten⟩ := accepted
  subst isWritten
  rw [isSigned] at authorized appended
  have signedEvent : signed.event = event := by
    rw [← isSigned]
    rfl
  have stateWorkspace : context.state.workspaceId = workspaceId := by
    rw [contextOf.state]
    exact (WorkspaceState.appliedAlong_of_advances
      (replay_advances contextOf.scanned)).sameWorkspace
  have writeParents :
      ∀ parentId ∈ signed.event.parents, parentId ∈ scan.state.appliedEventIds := by
    intro parentId isParent
    rw [signedEvent, write.onHeads, contextOf.headEventIds] at isParent
    exact ((WorkspaceState.appliedAlong_of_advances
      (replay_advances contextOf.scanned)).appliedIds parentId).mpr (Or.inr isParent.1)
  have writeOn :
      WriteOn
        (verifiedStoredEvents primitives json (EventStore.empty.after primitives json history)
          workspaceId) context signed :=
    { sameWorkspace := by rw [signedEvent, write.ownWorkspace, stateWorkspace]
      onHeads := by rw [signedEvent, write.onHeads]
      authorized := by
        rw [contextOf.events] at authorized
        rw [contextOf.state]
        exact WorkspaceState.authorize_of_advanced contextOf.validated contextOf.scanned
          (by rw [signedEvent, write.ownWorkspace]) writeParents authorized
      noRival := by
        intro stored member unapplied channelId creates
        rw [CreatesChannel, signedEvent] at creates
        exact write.noRival stored member unapplied channelId creates }
  have notStored := writeOn.not_stored contextOf distinct
  have servable : isServableEvent primitives signed = true := by
    rw [← isSigned]
    exact isServableEvent_signEvent write.signs write.ownAuthor
  have sameText : signed.event.workspaceId.text = workspaceId.text := by
    rw [signedEvent, write.ownWorkspace]
  -- the store has no row under the ID of the new event
  have freshRow :
      signed.eventId ∉ (EventStore.empty.after primitives json history).listEventIds := by
    intro known
    obtain ⟨row, isRow, sameId⟩ := List.mem_map.mp known
    obtain ⟨origin, isOrigin, rowOrigin⟩ := writtenFrom row isRow
    have same : origin = signed :=
      write.identified origin isOrigin ((rowOf_spec rowOrigin).1.symm.trans sameId)
    subst same
    refine notStored (List.mem_filter.mpr ⟨?_, by simp [servable]⟩)
    exact mem_listParseable_of_row roundTrips isRow rowOrigin sameText
  have fresh :
      ∀ stored ∈ verifiedStoredEvents primitives json
          (EventStore.empty.after primitives json history) workspaceId,
        stored.eventId ≠ signed.eventId := by
    intro stored member same
    obtain ⟨-, -, row, isRow, rowStored⟩ :=
      row_of_mem_listParseable roundTrips writtenFrom (List.mem_of_mem_filter member)
    refine freshRow ?_
    rw [← same, ← (rowOf_spec rowStored).1]
    exact List.mem_map_of_mem isRow
  have reread :
      verifiedStoredEvents primitives json store workspaceId =
        verifiedStoredEvents primitives json (EventStore.empty.after primitives json history)
          workspaceId ++ [signed] := by
    have listed := listParseable_append_of_fresh roundTrips freshRow appended
    rw [sameText] at listed
    rw [verifiedStoredEvents, listed, verifiedLocalEventsForRuntime, List.filter_append,
      verifiedStoredEvents, verifiedLocalEventsForRuntime]
    simp [servable]
  rw [reread]
  exact ⟨contextOf.headsCover distinct, writeOn.rematerialized contextOf distinct fresh⟩

/-! ## Inviting a stranger

A profile of the stranger waits in the store until the founder invites the stranger. -/

def strangerProfileHash : String :=
  "ead10aedb2f98c1263ba0603eee8bb1cea2a033c54a91d3b91b85f3009a7ded0"

def strangerProfileSignature : List UInt8 :=
  [0x0e, 0x77, 0x5f, 0x53, 0x37, 0x91, 0x98, 0x23, 0x34, 0x54, 0x1b, 0x63,
    0x15, 0x0e, 0x54, 0x42, 0xeb, 0x09, 0x06, 0x14, 0x6a, 0xd1, 0x89, 0x43,
    0xe0, 0xa6, 0x69, 0x87, 0xa9, 0xc6, 0x18, 0x85, 0x62, 0x2b, 0x7d, 0xa4,
    0x32, 0x14, 0xc0, 0xbf, 0x2c, 0xd1, 0x70, 0xd7, 0xc6, 0x5e, 0x44, 0xd6,
    0xaf, 0x2c, 0x54, 0x9f, 0x06, 0x49, 0xf0, 0x05, 0xfe, 0x56, 0x03, 0xf4,
    0x27, 0xd8, 0x37, 0x09]

def inviteHash : String :=
  "1ff1ead5520e218a0a1008d74422a2736eb18bb30e2c36d91ce7144f3b4c1dea"

def inviteSignature : List UInt8 :=
  [0xb1, 0x90, 0x53, 0xdd, 0xce, 0xb8, 0x14, 0xfd, 0x9c, 0x6d, 0xf0, 0xc3,
    0xff, 0x26, 0x04, 0x7b, 0x46, 0xd6, 0x08, 0x44, 0xf5, 0xf6, 0xa2, 0x53,
    0x1d, 0x7b, 0xeb, 0x2a, 0xca, 0xca, 0x76, 0x56, 0x2d, 0xc7, 0x79, 0x82,
    0xd3, 0x8a, 0xe9, 0xe7, 0x39, 0xaa, 0x7e, 0x66, 0xc4, 0xfd, 0x84, 0x69,
    0xe2, 0x62, 0x5d, 0x6a, 0x33, 0xf9, 0x7b, 0x11, 0x5c, 0x30, 0x95, 0xb1,
    0x48, 0xc3, 0xc1, 0x06]

/-- An event of workspace `w` after its creation. -/
def afterHome (deviceHash : String) (body : EventBody) : SignableEvent where
  schemaVersion := 1
  workspaceId := ⟨"w"⟩
  channelId := none
  authorDeviceId := ⟨"dev_" ++ deviceHash⟩
  timestamp := { physicalMs := 0, logical := 0 }
  parents := [signedHome.eventId]
  body := body

/-- The JSON of such an event, in pieces. -/
def afterHomeJson (deviceHash : String) (bodyJson : List String) : List String :=
  ["\x7b\"schema_version\":1,", "\"workspace_id\":\"w\",", "\"channel_id\":null,",
    "\"author_device_id\":\"dev_", deviceHash, "\",", "\"timestamp\":",
    "\x7b\"physical_ms\":0,\"logical\":0\x7d,", "\"parents\":[\"evt_", homeEventHash, "\"],",
    "\"body\":"] ++ bodyJson ++ ["\x7d"]

def strangerProfileJson : List String :=
  afterHomeJson strangerDeviceHash
    ["\x7b\"kind\":\"device_profile_updated\",", "\"display_name\":\"guest\"\x7d"]

def inviteJson : List String :=
  afterHomeJson homeDeviceHash
    ["\x7b\"kind\":\"member_invited\",", "\"invitee_device_id\":\"dev_", strangerDeviceHash,
      "\",", "\"role\":\"member\"\x7d"]

def strangerProfile : SignableEvent :=
  afterHome strangerDeviceHash (.deviceProfileUpdated "guest" "")

def invite : SignableEvent :=
  afterHome homeDeviceHash (.memberInvited ⟨"dev_" ++ strangerDeviceHash⟩ .member)

def signedProfile : SignedEvent where
  eventId := ⟨"evt_" ++ strangerProfileHash⟩
  event := strangerProfile
  authorPublicKey := strangerKey
  signature := strangerProfileSignature

def signedInvite : SignedEvent where
  eventId := ⟨"evt_" ++ inviteHash⟩
  event := invite
  authorPublicKey := homeKey
  signature := inviteSignature

/-- The primitives as they behave on the three events. -/
def invitePrimitives : Primitives where
  blake3Hex bytes :=
    if bytes = strangerKey then
      strangerDeviceHash
    else if bytes = asciiBytes strangerProfileJson ++ strangerProfileSignature then
      strangerProfileHash
    else if bytes = asciiBytes inviteJson ++ inviteSignature then
      inviteHash
    else
      homePrimitives.blake3Hex bytes
  isVerifyingKey bytes := decide (bytes = strangerKey) || homePrimitives.isVerifyingKey bytes
  verify key bytes signature :=
    homePrimitives.verify key bytes signature ||
      decide ((key, bytes, signature) ∈
        [(strangerKey, asciiBytes strangerProfileJson, strangerProfileSignature),
          (homeKey, asciiBytes inviteJson, inviteSignature)])
  signableEventJson event :=
    if event = strangerProfile then
      asciiBytes strangerProfileJson
    else if event = invite then
      asciiBytes inviteJson
    else
      homePrimitives.signableEventJson event
  trustSnapshotJson := homePrimitives.trustSnapshotJson

/-- The JSON of a signed event with the JSON of its event. -/
def signedEventJson (event : SignedEvent) (eventJson : List String) : List UInt8 :=
  asciiBytes
    (["\x7b\"event_id\":\"", event.eventId.text, "\",\"event\":"] ++ eventJson ++
      [",\"author_public_key\":"] ++ bytesJson event.authorPublicKey ++
        [",\"signature\":"] ++ bytesJson event.signature ++ ["\x7d"])

/-- The JSON library as it behaves on some events. -/
def EventJson.ofList (written : List (SignedEvent × List UInt8)) : EventJson where
  toVec event := (written.find? fun entry => decide (entry.1 = event)).map Prod.snd
  fromSlice bytes := (written.find? fun entry => decide (entry.2 = bytes)).map Prod.fst

theorem EventJson.ofList_roundTrips
    {written : List (SignedEvent × List UInt8)}
    (apart : (written.map Prod.snd).Nodup) : (ofList written).RoundTrips := by
  intro event bytes isWritten
  obtain ⟨⟨first, second⟩, found, rfl⟩ := Option.map_eq_some_iff.mp isWritten
  have member := List.mem_of_find?_eq_some found
  have same := List.find?_some found
  rw [decide_eq_true_eq] at same
  dsimp only at same
  subst same
  dsimp only [ofList]
  cases read : written.find? fun entry => decide (entry.2 = second) with
  | none =>
      have never := List.find?_eq_none.mp read (first, second) member
      simp at never
  | some other =>
      have otherMember := List.mem_of_find?_eq_some read
      have sameBytes := List.find?_some read
      rw [decide_eq_true_eq] at sameBytes
      have sameEntry : other = (first, second) :=
        List.inj_on_of_nodup_map apart otherMember member sameBytes
      rw [sameEntry]
      rfl

def inviteEventJson : EventJson :=
  .ofList
    [(signedHome, signedCreationJson "home" signedHome),
      (signedProfile, signedEventJson signedProfile strangerProfileJson),
      (signedInvite, signedEventJson signedInvite inviteJson)]

/-- The device that created the workspace. -/
def founderIdentity : DeviceIdentity where
  verifyingKeyBytes := homeKey
  sign bytes := if bytes = asciiBytes inviteJson then inviteSignature else []

/-- The three events and their signatures, evaluated at once. -/
private theorem inviteScene_facts :
    ([signedCreationJson "home" signedHome, signedEventJson signedProfile strangerProfileJson,
        signedEventJson signedInvite inviteJson] : List (List UInt8)).Nodup ∧
      (∀ event ∈ [signedHome, signedProfile, signedInvite],
        isAppended invitePrimitives inviteEventJson event = true ∧
          isServableEvent invitePrimitives event = true ∧
            event.event.workspaceId = ⟨"w"⟩) ∧
      (∀ event ∈ [signedHome, signedProfile], event.eventId ≠ signedInvite.eventId) ∧
      invitePrimitives.isVerifyingKey homeKey = true ∧
      (founderIdentity.sign (invite.signingBytes invitePrimitives)).length = 64 ∧
      invitePrimitives.verify homeKey (invite.signingBytes invitePrimitives)
        (founderIdentity.sign (invite.signingBytes invitePrimitives)) = true ∧
      founderIdentity.signEvent invitePrimitives invite = signedInvite ∧
      invite.authorDeviceId = founderIdentity.deviceId invitePrimitives ∧
      authorizeEventWithHistory [signedHome] signedInvite = .ok () := by
  decide +kernel

theorem inviteEventJson_roundTrips : inviteEventJson.RoundTrips :=
  EventJson.ofList_roundTrips inviteScene_facts.1

theorem founderIdentity_signs : founderIdentity.Signs invitePrimitives invite := by
  obtain ⟨-, -, -, isKey, length, verifies, -⟩ := inviteScene_facts
  exact
    { keyLength := by decide
      isKey := isKey
      signatureLength := length
      verifies := verifies }

/-- The three events can be appended and served. -/
theorem inviteEvents_valid :
    ∀ event ∈ [signedHome, signedProfile, signedInvite],
      isAppended invitePrimitives inviteEventJson event = true ∧
        isServableEvent invitePrimitives event = true ∧
          event.event.workspaceId = ⟨"w"⟩ :=
  inviteScene_facts.2.1

/-- The store of the workspace before the invitation. -/
def storeBefore (history : List SignedEvent) : EventStore :=
  EventStore.empty.after invitePrimitives inviteEventJson history

section Inviting

variable {history : List SignedEvent}

theorem listParseable_storeBefore
    (distinct : (history.map SignedEvent.eventId).Nodup)
    (known : history ⊆ [signedHome, signedProfile, signedInvite]) :
    (storeBefore history).listParseableEventsForWorkspace inviteEventJson "w" = history := by
  refine listParseable_after inviteEventJson_roundTrips distinct ?_ ?_
  · exact fun event member => (inviteEvents_valid event (known member)).1
  · intro event member
    rw [(inviteEvents_valid event (known member)).2.2]

theorem verifiedLocalEvents_of_known
    (known : history ⊆ [signedHome, signedProfile, signedInvite]) :
    verifiedLocalEventsForRuntime invitePrimitives history = history := by
  refine List.filter_eq_self.mpr fun event member => ?_
  rw [(inviteEvents_valid event (known member)).2.1, Bool.or_true]

/-- The invitation is a local write when the creation is what the context applies. -/
theorem exists_localWrite_invite
    {gaps : List MissingHistoryGap}
    (distinct : (history.map SignedEvent.eventId).Nodup)
    (nonempty : history ≠ []) (known : history ⊆ [signedHome, signedProfile])
    (made :
      (workspaceWriteContextFromMaterializedEvents ⟨"w"⟩ history).map
          (fun context => (context.headEventIds, context.report, context.events)) =
        .ok ([signedHome.eventId], ⟨[signedHome.eventId], gaps⟩, [signedHome])) :
    ∃ context written,
      LocalWrite invitePrimitives inviteEventJson history ⟨"w"⟩ context founderIdentity invite
          signedInvite written ∧
        context.report.appliedEvents = [signedHome.eventId] ∧
          verifiedStoredEvents invitePrimitives inviteEventJson written ⟨"w"⟩ =
            history ++ [signedInvite] := by
  obtain ⟨-, -, apart, -, -, -, isSigned, ownAuthor, authorized⟩ := inviteScene_facts
  have isNew : ∀ stored ∈ history, stored.eventId ≠ signedInvite.eventId :=
    fun stored member => apart stored (known member)
  have known : history ⊆ [signedHome, signedProfile, signedInvite] :=
    fun event member => List.mem_append_left [signedInvite] (known member)
  have listed := listParseable_storeBefore distinct known
  have verified := verifiedLocalEvents_of_known known
  cases isContext : workspaceWriteContextFromMaterializedEvents ⟨"w"⟩ history with
  | error raised => simp [isContext, Except.map] at made
  | ok context =>
      simp only [isContext, Except.map, Except.ok.injEq, Prod.mk.injEq] at made
      obtain ⟨heads, report, events⟩ := made
      obtain ⟨appendable, servable, -⟩ := inviteEvents_valid signedInvite (by simp)
      obtain ⟨row, isRow⟩ := isAppended_iff.mp appendable
      rw [rowOf_eq_some_iff] at isRow
      have appended :
          (storeBefore history).appendEvent invitePrimitives inviteEventJson signedInvite =
            .ok ((storeBefore history).insertSerializedEvent row) := by
        rw [EventStore.appendEvent, isRow]
        rfl
      have fresh : signedInvite.eventId ∉ (storeBefore history).listEventIds := by
        intro present
        obtain ⟨other, isOther, sameId⟩ := List.mem_map.mp present
        obtain ⟨origin, isOrigin, rowOrigin⟩ := writtenFrom_after history other isOther
        exact isNew origin isOrigin ((rowOf_spec rowOrigin).1.symm.trans sameId)
      refine ⟨context, (storeBefore history).insertSerializedEvent row, ?_, by rw [report], ?_⟩
      · exact
          { fromContext := by
              rw [workspaceWriteContext]
              have listedToo :
                  (EventStore.empty.after invitePrimitives inviteEventJson
                    history).listParseableEventsForWorkspace inviteEventJson "w" = history :=
                listed
              have referenced : validateWorkspaceIdReference ⟨"w"⟩ = .ok () := by decide
              simp [listedToo, nonempty, verified, isContext, referenced, ensure, bind,
                Except.bind]
            signs := founderIdentity_signs
            ownAuthor := ownAuthor
            ownWorkspace := rfl
            onHeads := heads.symm
            identified := fun stored member same => absurd same (isNew stored member)
            noRival := by
              intro stored _ _ channelId creates
              cases creates
            accepted := by
              have appendedToo := appended
              unfold storeBefore at appendedToo
              simp only [signAuthorizeAndAppendWithHistory, isSigned, events, authorized,
                appendedToo, Except.mapError, bind, Except.bind]
              rfl }
      · have reread :=
          listParseable_append_of_fresh inviteEventJson_roundTrips fresh appended
        have sameText : signedInvite.event.workspaceId.text = "w" := rfl
        rw [sameText, listed] at reread
        rw [verifiedStoredEvents, reread, verifiedLocalEventsForRuntime, List.filter_append]
        rw [verifiedLocalEventsForRuntime] at verified
        rw [verified]
        simp [servable]

end Inviting

/-- Without the profile the invitation is the last event. -/
theorem localWrite_readsBack_invite :
    ∃ written, ∃ report state,
      (WorkspaceState.new ⟨"w"⟩).applyBatch
          (verifiedStoredEvents invitePrimitives inviteEventJson written ⟨"w"⟩) =
          (.ok report, state) ∧
        report.appliedEvents = [signedHome.eventId, signedInvite.eventId] := by
  obtain ⟨context, written, write, applied, -⟩ :=
    @exists_localWrite_invite [signedHome] [] (by decide +kernel) (by simp) (by simp)
      (by decide +kernel)
  obtain ⟨-, next, -, -, settles⟩ :=
    localWrite_readsBack invitePrimitives inviteEventJson inviteEventJson_roundTrips [signedHome]
      ⟨"w"⟩ context founderIdentity invite signedInvite written write
  have listed :=
    @listParseable_storeBefore [signedHome] (by decide +kernel) (by simp)
  have verified := @verifiedLocalEvents_of_known [signedHome] (by simp)
  obtain ⟨report, state, reread, isLast⟩ := settles (by
    intro event member unapplied
    have isHome : event = signedHome := by
      unfold storeBefore at listed
      rw [verifiedStoredEvents, listed, verified, List.mem_singleton] at member
      exact member
    rw [applied, isHome] at unapplied
    simp at unapplied)
  rw [applied] at isLast
  exact ⟨written, report, state, reread, isLast⟩

/-- The invitation lets the waiting profile in. -/
theorem localWrite_not_last :
    ¬ ∀ (primitives : Primitives) (json : EventJson), json.RoundTrips →
      ∀ (history : List SignedEvent) (workspaceId : WorkspaceId)
        (context : WorkspaceWriteContext) (identity : DeviceIdentity) (event : SignableEvent)
        (signed : SignedEvent) (written : EventStore),
        LocalWrite primitives json history workspaceId context identity event signed written →
          ∀ report state,
            (WorkspaceState.new workspaceId).applyBatch
                (verifiedStoredEvents primitives json written workspaceId) =
                (.ok report, state) →
              report.appliedEvents = context.report.appliedEvents ++ [signed.eventId] := by
  intro isLast
  obtain ⟨context, written, write, applied, stored⟩ :=
    @exists_localWrite_invite [signedHome, signedProfile] [⟨signedProfile.eventId, []⟩]
      (by decide +kernel) (by simp) (by simp) (by decide +kernel)
  have reread :
      (WorkspaceState.new ⟨"w"⟩).applyBatch
          (verifiedStoredEvents invitePrimitives inviteEventJson written ⟨"w"⟩) =
        (.ok ⟨[signedHome.eventId, signedInvite.eventId, signedProfile.eventId], []⟩,
          ((WorkspaceState.new ⟨"w"⟩).applyBatch
            (verifiedStoredEvents invitePrimitives inviteEventJson written ⟨"w"⟩)).2) := by
    refine Prod.ext ?_ rfl
    rw [stored]
    decide +kernel
  have ends :=
    isLast invitePrimitives inviteEventJson inviteEventJson_roundTrips _ _ _ _ _ _ _ write _ _
      reread
  rw [applied] at ends
  exact absurd ends (by decide +kernel)

end Chaft
