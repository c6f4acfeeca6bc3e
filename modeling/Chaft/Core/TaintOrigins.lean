import Chaft.Core.ConflictTaint
import Chaft.Library.LeastLabels

/-!
# Origins of the taint

Before `authorizeEventWithHistory` replays a history it labels events with disputed channels.
The labels are a least fixpoint over the events of the workspace: an event has one exactly if
it creates a disputed channel or descends from an event that does, and its label is the least
channel of which that is so.  Neither repeated events nor cycles of parents change that, nor
does the order in which the queue takes the first events.
-/

namespace Chaft

open Keyed LabelSpread

/-! ## The fixpoint -/

/-- The event creates a channel that two events of the list create, or descends from one that
does. -/
inductive TaintedBy (events : List SignedEvent) (channelId : ChannelId) : EventId → Prop
  | created {event : SignedEvent} (member : event ∈ events)
      (creates : CreatesChannel event channelId) (disputed : DisputedChannel events channelId) :
      TaintedBy events channelId event.eventId
  | child {event : SignedEvent} {parentId : EventId} (member : event ∈ events)
      (isParent : parentId ∈ event.event.parents)
      (tainted : TaintedBy events channelId parentId) :
      TaintedBy events channelId event.eventId

/-- The events of a history that `authorizeEventWithHistory` looks at. -/
def pendingHistory (history : List SignedEvent) (event : SignedEvent) : List SignedEvent :=
  history.filter fun historical =>
    decide (historical.event.workspaceId = event.event.workspaceId)

/-! ## The graph -/

section Graph

variable (conflicting : HashSet ChannelId) (events : List SignedEvent)

/-- Some event of the ID creates the channel, which is disputed. -/
def StartsTaint (eventId : EventId) (channelId : ChannelId) : Prop :=
  channelId ∈ conflicting ∧
    ∃ event ∈ events, event.eventId = eventId ∧ CreatesChannel event channelId

/-- The children of an event are the events that name it as a parent. -/
theorem mem_children_iff (parentId eventId : EventId) :
    eventId ∈ (conflictGraph conflicting events).children parentId ↔
      ∃ event ∈ events, event.eventId = eventId ∧ parentId ∈ event.event.parents := by
  have walk :
      ∀ (rest : List SignedEvent) (graph : ConflictGraph),
        eventId ∈ (rest.foldl (noteHistorical conflicting) graph).children parentId ↔
          eventId ∈ graph.children parentId ∨
            ∃ event ∈ rest, event.eventId = eventId ∧ parentId ∈ event.event.parents := by
    intro rest
    induction rest with
    | nil => simp
    | cons event rest inductionHypothesis =>
        intro graph
        rw [List.foldl_cons, inductionHypothesis, List.exists_mem_cons_iff, ← or_assoc]
        refine or_congr_left ?_
        rw [ConflictGraph.children, noteHistorical, mem_getD_noteChildren, and_comm,
          eq_comm (a := eventId)]
        rfl
  have atStart : eventId ∉ (⟨∅, ∅⟩ : ConflictGraph).children parentId := by
    simp [ConflictGraph.children]
  rw [conflictGraph, walk]
  exact or_iff_right atStart

theorem getElem?_noteOrigin_eq
    (origins : HashMap EventId ChannelId) (eventId : EventId) (channelId : ChannelId)
    (tested : EventId) :
    (noteOrigin origins eventId channelId)[tested]? =
      if eventId = tested then some (lesser channelId origins[eventId]?)
      else origins[tested]? := by
  have inserted :
      (origins.insert eventId channelId)[tested]? =
        if eventId = tested then some channelId else origins[tested]? := by
    rw [Std.ExtTreeMap.getElem?_insert]
    simp only [Std.LawfulEqCmp.compare_eq_iff_eq]
  unfold noteOrigin
  cases known : origins[eventId]? with
  | none => exact inserted
  | some existing =>
      by_cases less : compare channelId existing = .lt
      · simp only [less, if_true, lesser]
        exact inserted
      · simp only [less, if_false, lesser]
        by_cases same : eventId = tested
        · rw [if_pos same, ← same, known]
        · rw [if_neg same]

variable {conflicting events}

/-- One more event keeps the least origin of each event. -/
theorem least_noteHistorical
    {graph : ConflictGraph} (historical : SignedEvent)
    (least :
      ∀ eventId : EventId,
        Least (StartsTaint conflicting events eventId) graph.conflictOriginByEvent[eventId]?)
    (eventId : EventId) :
    Least (StartsTaint conflicting (events ++ [historical]) eventId)
      (noteHistorical conflicting graph historical).conflictOriginByEvent[eventId]? := by
  have alike :
      ∀ channelId,
        StartsTaint conflicting (events ++ [historical]) eventId channelId ↔
          StartsTaint conflicting events eventId channelId ∨
            channelId ∈ conflicting ∧ historical.eventId = eventId ∧
              CreatesChannel historical channelId := by
    intro channelId
    simp only [StartsTaint, List.mem_append, List.mem_singleton, or_and_right, exists_or,
      exists_eq_left, and_or_left]
  refine Least.congr ?_ fun channelId => (alike channelId).symm
  unfold noteHistorical CreatesChannel
  cases createdChannelId historical.event.body with
  | none => exact (least eventId).congr fun channelId => by simp
  | some created =>
      by_cases disputed : created ∈ conflicting
      · simp only [disputed, if_true, getElem?_noteOrigin_eq]
        by_cases same : historical.eventId = eventId
        · subst same
          rw [if_pos rfl]
          refine ((least historical.eventId).lesser created).congr fun channelId => ?_
          refine or_congr_right ?_
          constructor
          · intro isCreated
            rw [isCreated]
            exact ⟨disputed, rfl, rfl⟩
          · rintro ⟨-, -, isCreated⟩
            exact (Option.some.inj isCreated).symm
        · rw [if_neg same]
          exact (least eventId).congr fun channelId => by simp [same]
      · simp only [disputed, if_false]
        refine (least eventId).congr fun channelId => (or_iff_left ?_).symm
        rintro ⟨isDisputed, -, isCreated⟩
        rw [Option.some.injEq] at isCreated
        rw [isCreated] at disputed
        exact disputed isDisputed

/-- Before the queue is worked off, each event has the least disputed channel that it
creates. -/
theorem least_conflictGraph (conflicting : HashSet ChannelId) (events : List SignedEvent)
    (eventId : EventId) :
    Least (StartsTaint conflicting events eventId)
      (conflictGraph conflicting events).conflictOriginByEvent[eventId]? := by
  have walk :
      ∀ (rest earlier : List SignedEvent) (graph : ConflictGraph),
        (∀ eventId : EventId,
          Least (StartsTaint conflicting earlier eventId)
            graph.conflictOriginByEvent[eventId]?) →
          ∀ eventId : EventId,
            Least (StartsTaint conflicting (earlier ++ rest) eventId)
              (rest.foldl (noteHistorical conflicting) graph).conflictOriginByEvent[
                eventId]? := by
    intro rest
    induction rest with
    | nil =>
        intro earlier graph least
        rw [List.append_nil]
        exact least
    | cons event rest inductionHypothesis =>
        intro earlier graph least
        have later := inductionHypothesis _ _ (least_noteHistorical event least)
        rw [List.append_assoc] at later
        exact later
  refine walk events [] ⟨∅, ∅⟩ ?_ eventId
  intro tested
  rw [Std.ExtTreeMap.getElem?_empty]
  rintro channelId ⟨-, event, member, -⟩
  cases member

end Graph

/-! ## The labels -/

/-- What reaches an event in the graph is what taints it. -/
theorem reaches_iff_taintedBy (events : List SignedEvent) (channelId : ChannelId)
    (eventId : EventId) :
    Reaches (StartsTaint (conflictingChannelIds events) events)
        (conflictGraph (conflictingChannelIds events) events).children channelId eventId ↔
      TaintedBy events channelId eventId := by
  constructor
  · intro reached
    induction reached with
    | source isSource =>
        obtain ⟨conflicting, event, member, rfl, creates⟩ := isSource
        exact .created member creates
          ((mem_conflictingChannelIds_iff events _).mp conflicting)
    | child _ isChild inductionHypothesis =>
        obtain ⟨event, member, rfl, isParent⟩ := (mem_children_iff _ _ _ _).mp isChild
        exact .child member isParent inductionHypothesis
  · intro tainted
    induction tainted with
    | created member creates disputed =>
        exact .source ⟨(mem_conflictingChannelIds_iff events channelId).mpr disputed, _, member,
          rfl, creates⟩
    | child member isParent _ inductionHypothesis =>
        exact .child inductionHypothesis
          ((mem_children_iff _ _ _ _).mpr ⟨_, member, rfl, isParent⟩)

/-- When the queue is empty, each event has the least channel that taints it, in whatever order
the queue began. -/
theorem least_of_spread
    (events : List SignedEvent) {queue : List EventId}
    (listed :
      queue.Perm
        (conflictGraph (conflictingChannelIds events) events).conflictOriginByEvent.keys)
    {fuel : Nat} (enough : conflictFuel (conflictingChannelIds events) events ≤ fuel)
    (eventId : EventId) :
    Least (fun channelId => TaintedBy events channelId eventId)
      (spread (conflictGraph (conflictingChannelIds events) events).children fuel
        ⟨(conflictGraph (conflictingChannelIds events) events).conflictOriginByEvent,
          queue⟩).labels[eventId]? := by
  have isEmpty := spread_queue (conflictingChannelIds events) events listed enough
  have starts :
      HandsOn (StartsTaint (conflictingChannelIds events) events)
        (conflictGraph (conflictingChannelIds events) events).children
        ⟨(conflictGraph (conflictingChannelIds events) events).conflictOriginByEvent, queue⟩ := by
    apply handsOn_of_sources
    · exact least_conflictGraph (conflictingChannelIds events) events
    · intro tainted isTainted
      exact listed.mem_iff.mpr (Std.ExtTreeMap.mem_keys.mpr isTainted)
  exact ((starts.spread fuel).least isEmpty eventId).congr fun channelId =>
    reaches_iff_taintedBy events channelId eventId

theorem least_conflictOriginByEvent (events : List SignedEvent) (eventId : EventId) :
    Least (fun channelId => TaintedBy events channelId eventId)
      (conflictOriginByEvent (conflictingChannelIds events) events)[eventId]? :=
  least_of_spread events (List.Perm.refl _) (Nat.le_refl _) eventId

/-- Whatever the history and the order in which the tainted events are listed first, the loop
ends with an empty queue, and with the labels that `authorizeEventWithHistory` goes by: an event
is labelled if and only if a disputed channel taints it, and its label is the least such
channel. -/
theorem conflictTaint_leastFixpoint
    (history : List SignedEvent) (event : SignedEvent) (queue : List EventId)
    (listed :
      queue.Perm
        (conflictGraph (conflictingChannelIds (pendingHistory history event))
          (pendingHistory history event)).conflictOriginByEvent.keys)
    (fuel : Nat)
    (enough :
      conflictFuel (conflictingChannelIds (pendingHistory history event))
        (pendingHistory history event) ≤ fuel) :
    ∃ origins : HashMap EventId ChannelId,
      spread
          (conflictGraph (conflictingChannelIds (pendingHistory history event))
            (pendingHistory history event)).children fuel
          ⟨(conflictGraph (conflictingChannelIds (pendingHistory history event))
            (pendingHistory history event)).conflictOriginByEvent, queue⟩ =
        ⟨origins, []⟩ ∧
      origins =
        conflictOriginByEvent (conflictingChannelIds (pendingHistory history event))
          (pendingHistory history event) ∧
      ∀ eventId : EventId,
        (eventId ∈ origins ↔
          ∃ channelId, TaintedBy (pendingHistory history event) channelId eventId) ∧
        ∀ channelId, origins[eventId]? = some channelId →
          TaintedBy (pendingHistory history event) channelId eventId ∧
            ∀ other, TaintedBy (pendingHistory history event) other eventId →
              Identifier.le channelId other := by
  generalize pendingHistory history event = events at listed enough ⊢
  have isEmpty := spread_queue (conflictingChannelIds events) events listed enough
  have least := least_of_spread events listed enough
  revert isEmpty least
  generalize
    spread (conflictGraph (conflictingChannelIds events) events).children fuel
      ⟨(conflictGraph (conflictingChannelIds events) events).conflictOriginByEvent, queue⟩ = final
  intro isEmpty least
  obtain ⟨origins, final⟩ := final
  dsimp only at isEmpty least
  refine ⟨origins, by rw [isEmpty], ?_, ?_⟩
  · apply ext_of_getElem?
    intro eventId
    exact (least eventId).unique (least_conflictOriginByEvent events eventId)
  · intro eventId
    constructor
    · rw [Std.ExtTreeMap.mem_iff_isSome_getElem?]
      exact (least eventId).isSome_iff
    · intro channelId isOrigin
      have isLeast := least eventId
      rw [isOrigin] at isLeast
      exact isLeast

/-! ## A cycle

Two events create channel `c`, one of them listed twice and in a cycle with its own child. -/

def cycleHistory : List SignedEvent :=
  [draftEvent "a" "dev" none ["z"] (.channelCreated ⟨"c"⟩ "plans" false),
    draftEvent "z" "dev" none ["a"] (.channelCreated ⟨"d"⟩ "notes" false),
    draftEvent "a" "dev" none ["z"] (.channelCreated ⟨"c"⟩ "plans" false),
    draftEvent "b" "dev" none [] (.channelCreated ⟨"c"⟩ "plans" true)]

def cycleEvent : SignedEvent := draftEvent "e" "dev" none ["z"] (.messageDeleted ⟨"m"⟩)

theorem pendingHistory_cycle : pendingHistory cycleHistory cycleEvent = cycleHistory := by
  decide +kernel

theorem taintedBy_cycle : TaintedBy cycleHistory ⟨"c"⟩ ⟨"z"⟩ := by
  have first : draftEvent "a" "dev" none ["z"] (.channelCreated ⟨"c"⟩ "plans" false) ∈
      cycleHistory := List.mem_cons_self
  have second : draftEvent "b" "dev" none [] (.channelCreated ⟨"c"⟩ "plans" true) ∈
      cycleHistory := by
    simp [cycleHistory]
  have child : draftEvent "z" "dev" none ["a"] (.channelCreated ⟨"d"⟩ "notes" false) ∈
      cycleHistory := by
    simp [cycleHistory]
  have disputed : DisputedChannel cycleHistory ⟨"c"⟩ :=
    ⟨_, first, _, second, rfl, rfl, by decide⟩
  have isParent :
      (⟨"a"⟩ : EventId) ∈
        (draftEvent "z" "dev" none ["a"]
          (.channelCreated ⟨"d"⟩ "notes" false)).event.parents :=
    List.mem_cons_self
  exact .child child isParent (.created first rfl disputed)

/-- The loop ends, from the last tainted event to the first, and the child is tainted. -/
theorem conflictTaint_leastFixpoint_cycle :
    ∃ origins : HashMap EventId ChannelId,
      spread
          (conflictGraph (conflictingChannelIds (pendingHistory cycleHistory cycleEvent))
            (pendingHistory cycleHistory cycleEvent)).children
          (conflictFuel (conflictingChannelIds (pendingHistory cycleHistory cycleEvent))
            (pendingHistory cycleHistory cycleEvent))
          ⟨(conflictGraph (conflictingChannelIds (pendingHistory cycleHistory cycleEvent))
            (pendingHistory cycleHistory cycleEvent)).conflictOriginByEvent,
            [⟨"b"⟩, ⟨"a"⟩]⟩ = ⟨origins, []⟩ ∧
        (⟨"z"⟩ : EventId) ∈ origins := by
  have listed :
      ([⟨"b"⟩, ⟨"a"⟩] : List EventId).Perm
        (conflictGraph (conflictingChannelIds (pendingHistory cycleHistory cycleEvent))
          (pendingHistory cycleHistory cycleEvent)).conflictOriginByEvent.keys := by
    decide +kernel
  obtain ⟨origins, ends, -, labels⟩ :=
    conflictTaint_leastFixpoint cycleHistory cycleEvent [⟨"b"⟩, ⟨"a"⟩] listed
      (conflictFuel (conflictingChannelIds (pendingHistory cycleHistory cycleEvent))
        (pendingHistory cycleHistory cycleEvent)) (Nat.le_refl _)
  refine ⟨origins, ends, (labels ⟨"z"⟩).1.mpr ⟨⟨"c"⟩, ?_⟩⟩
  rw [pendingHistory_cycle]
  exact taintedBy_cycle

/-- An event of another workspace is decided without these events, and none of them is
labelled. -/
theorem not_conflictTaint_wholeHistory :
    ¬ ∀ (history : List SignedEvent) (event : SignedEvent) (eventId : EventId),
      eventId ∈
          conflictOriginByEvent (conflictingChannelIds (pendingHistory history event))
            (pendingHistory history event) ↔
        ∃ channelId, TaintedBy history channelId eventId := by
  intro labels
  have elsewhere :
      pendingHistory cycleHistory
        { cycleEvent with event := { cycleEvent.event with workspaceId := ⟨"v"⟩ } } = [] := by
    decide +kernel
  have labelled :=
    (labels cycleHistory
      { cycleEvent with event := { cycleEvent.event with workspaceId := ⟨"v"⟩ } }
      ⟨"z"⟩).mpr ⟨⟨"c"⟩, taintedBy_cycle⟩
  rw [elsewhere, Std.ExtTreeMap.mem_iff_isSome_getElem?,
    (least_conflictOriginByEvent [] ⟨"z"⟩).isSome_iff] at labelled
  obtain ⟨channelId, tainted⟩ := labelled
  have untainted : ∀ eventId, ¬TaintedBy [] channelId eventId := by
    intro eventId tainted
    cases tainted with
    | created member => cases member
    | child member => cases member
  exact untainted ⟨"z"⟩ tainted

end Chaft
