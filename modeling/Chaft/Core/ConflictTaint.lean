import Chaft.Core.HistoryAuthorization
import Chaft.Core.BatchScan

/-!
# Tainted events

Before `authorizeEventWithHistory` replays a history it taints the disputed
channel definitions and whatever builds on them.  A tainted event is disputed
itself or has a tainted parent, and the queue that spreads the taint runs
empty.
-/

namespace Chaft

open Keyed LabelSpread

variable {conflicting : HashSet ChannelId}

/-- What the loop over the history knows about the events before it. -/
private structure NotedGraph
    (conflicting : HashSet ChannelId) (events : List SignedEvent) (graph : ConflictGraph) :
    Prop where
  isChild :
    ∀ parentId, ∀ eventId ∈ graph.children parentId,
      ∃ event ∈ events, event.eventId = eventId ∧ parentId ∈ event.event.parents
  isOrigin :
    ∀ (eventId : EventId) (channelId : ChannelId),
      graph.conflictOriginByEvent[eventId]? = some channelId →
        channelId ∈ conflicting ∧
          ∃ event ∈ events, event.eventId = eventId ∧
            channelDefinitionConflict conflicting event = true
  tainted :
    ∀ event ∈ events, channelDefinitionConflict conflicting event = true →
      event.eventId ∈ graph.conflictOriginByEvent

private theorem mem_getD_noteChild
    (eventId parentId testedParent tested : EventId)
    (childrenByParent : HashMap EventId (List EventId)) :
    tested ∈ (noteChild eventId childrenByParent parentId).getD testedParent [] ↔
      tested ∈ childrenByParent.getD testedParent [] ∨
        testedParent = parentId ∧ tested = eventId := by
  rw [noteChild, Std.ExtTreeMap.getD_insert]
  by_cases same : parentId = testedParent
  · rw [if_pos (Std.LawfulEqCmp.compare_eq_iff_eq.mpr same), List.mem_append,
      List.mem_singleton, same]
    simp
  · rw [if_neg (fun compared => same (Std.LawfulEqCmp.compare_eq_iff_eq.mp compared))]
    constructor
    · exact Or.inl
    · rintro (known | ⟨isParent, _⟩)
      · exact known
      · exact absurd isParent.symm same

theorem mem_getD_noteChildren
    (eventId testedParent tested : EventId) (parents : List EventId)
    (childrenByParent : HashMap EventId (List EventId)) :
    tested ∈ (parents.foldl (noteChild eventId) childrenByParent).getD testedParent [] ↔
      tested ∈ childrenByParent.getD testedParent [] ∨
        testedParent ∈ parents ∧ tested = eventId := by
  induction parents generalizing childrenByParent with
  | nil => simp
  | cons parentId rest inductionHypothesis =>
      rw [List.foldl_cons, inductionHypothesis, mem_getD_noteChild, List.mem_cons]
      tauto

private theorem getElem?_noteOrigin
    {origins : HashMap EventId ChannelId} {eventId tested : EventId}
    {channelId found : ChannelId}
    (isFound : (noteOrigin origins eventId channelId)[tested]? = some found) :
    origins[tested]? = some found ∨ eventId = tested ∧ channelId = found := by
  unfold noteOrigin at isFound
  repeat' split at isFound
  all_goals
    first
    | exact Or.inl isFound
    | rw [Std.ExtTreeMap.getElem?_insert] at isFound
      split at isFound
      · rename_i compared
        exact Or.inr ⟨Std.LawfulEqCmp.compare_eq_iff_eq.mp compared, Option.some.inj isFound⟩
      · exact Or.inl isFound

private theorem mem_noteOrigin
    (origins : HashMap EventId ChannelId) (eventId : EventId) (channelId : ChannelId)
    (tested : EventId) :
    tested ∈ noteOrigin origins eventId channelId ↔ tested = eventId ∨ tested ∈ origins := by
  have inserted :
      tested ∈ origins.insert eventId channelId ↔ tested = eventId ∨ tested ∈ origins := by
    rw [Std.ExtTreeMap.mem_insert, Std.LawfulEqCmp.compare_eq_iff_eq, eq_comm]
  unfold noteOrigin
  split
  · rename_i existing isExisting
    split
    · exact inserted
    · constructor
      · exact Or.inr
      · rintro (isEvent | known)
        · rw [isEvent, mem_iff_exists_getElem?]
          exact ⟨existing, isExisting⟩
        · exact known
  · exact inserted

/-- The origins after one more event of the history. -/
private theorem conflictOriginByEvent_noteHistorical
    (graph : ConflictGraph) (historical : SignedEvent) :
    (channelDefinitionConflict conflicting historical = false ∧
        (noteHistorical conflicting graph historical).conflictOriginByEvent =
          graph.conflictOriginByEvent) ∨
      ∃ channelId ∈ conflicting, channelDefinitionConflict conflicting historical = true ∧
        (noteHistorical conflicting graph historical).conflictOriginByEvent =
          noteOrigin graph.conflictOriginByEvent historical.eventId channelId := by
  unfold noteHistorical channelDefinitionConflict
  cases createdChannelId historical.event.body with
  | none => exact Or.inl ⟨rfl, rfl⟩
  | some channelId =>
      by_cases disputed : channelId ∈ conflicting
      · exact Or.inr ⟨channelId, disputed, decide_eq_true disputed, by simp only [disputed, if_true]⟩
      · exact Or.inl ⟨decide_eq_false disputed, by simp only [disputed, if_false]⟩

private theorem NotedGraph.note
    {events : List SignedEvent} {graph : ConflictGraph} (historical : SignedEvent)
    (noted : NotedGraph conflicting events graph) :
    NotedGraph conflicting (events ++ [historical])
      (noteHistorical conflicting graph historical) := by
  constructor
  · intro parentId eventId isChild
    rcases (mem_getD_noteChildren _ _ _ _ _).mp isChild with before | ⟨isParent, same⟩
    · obtain ⟨event, member, found⟩ := noted.isChild parentId eventId before
      exact ⟨event, List.mem_append_left _ member, found⟩
    · exact ⟨historical, by simp, same.symm, isParent⟩
  · intro eventId channelId isOrigin
    have earlier :
        graph.conflictOriginByEvent[eventId]? = some channelId →
          channelId ∈ conflicting ∧
            ∃ event ∈ events ++ [historical], event.eventId = eventId ∧
              channelDefinitionConflict conflicting event = true := by
      intro before
      obtain ⟨disputed, event, member, found⟩ := noted.isOrigin eventId channelId before
      exact ⟨disputed, event, List.mem_append_left _ member, found⟩
    rcases conflictOriginByEvent_noteHistorical graph historical with
      ⟨_, unchanged⟩ | ⟨created, disputed, isConflict, changed⟩
    · rw [unchanged] at isOrigin
      exact earlier isOrigin
    · rw [changed] at isOrigin
      rcases getElem?_noteOrigin isOrigin with before | ⟨same, isCreated⟩
      · exact earlier before
      · exact ⟨isCreated ▸ disputed, historical, by simp, same, isConflict⟩
  · intro event member isConflict
    have kept :
        ∀ eventId : EventId, eventId ∈ graph.conflictOriginByEvent →
          eventId ∈ (noteHistorical conflicting graph historical).conflictOriginByEvent := by
      intro eventId known
      rcases conflictOriginByEvent_noteHistorical graph historical with
        ⟨_, unchanged⟩ | ⟨created, _, _, changed⟩
      · rw [unchanged]
        exact known
      · rw [changed, mem_noteOrigin]
        exact Or.inr known
    rcases List.mem_append.mp member with before | isLast
    · exact kept event.eventId (noted.tainted event before isConflict)
    · rw [List.mem_singleton.mp isLast] at isConflict ⊢
      rcases conflictOriginByEvent_noteHistorical graph historical with
        ⟨undisputed, _⟩ | ⟨created, _, _, changed⟩
      · rw [undisputed] at isConflict
        cases isConflict
      · rw [changed, mem_noteOrigin]
        exact Or.inl rfl

private theorem conflictGraph_noted (conflicting : HashSet ChannelId) (history : List SignedEvent) :
    NotedGraph conflicting history (conflictGraph conflicting history) := by
  have walk :
      ∀ (events earlier : List SignedEvent) (graph : ConflictGraph),
        NotedGraph conflicting earlier graph →
          NotedGraph conflicting (earlier ++ events)
            (events.foldl (noteHistorical conflicting) graph) := by
    intro events
    induction events with
    | nil =>
        intro earlier graph noted
        rw [List.append_nil]
        exact noted
    | cons event rest inductionHypothesis =>
        intro earlier graph noted
        have later := inductionHypothesis _ _ (noted.note event)
        rw [List.append_assoc] at later
        exact later
  exact walk history [] ⟨∅, ∅⟩ ⟨by simp [ConflictGraph.children], by simp, by simp⟩

/-- Labels and children of the conflict queue. -/
private theorem spreadConflicts_sound (conflicting : HashSet ChannelId)
    (history : List SignedEvent) :
    Sound
      (fun eventId => ∃ event ∈ history, event.eventId = eventId ∧
        channelDefinitionConflict conflicting event = true)
      (conflictGraph conflicting history).children conflicting.toList.toFinset
      (conflictGraph conflicting history).worklist.labels := by
  have noted := conflictGraph_noted conflicting history
  constructor
  · intro eventId tainted
    obtain ⟨channelId, isOrigin⟩ := (mem_iff_exists_getElem? _ _).mp tainted
    exact Or.inl (noted.isOrigin eventId channelId isOrigin).2
  · intro eventId channelId isOrigin
    rw [List.mem_toFinset, Std.ExtTreeSet.mem_toList]
    exact (noted.isOrigin eventId channelId isOrigin).1

/-- The conflict queue runs empty, in whatever order the tainted events are listed first. -/
theorem spread_queue
    (conflicting : HashSet ChannelId) (history : List SignedEvent) {queue : List EventId}
    (listed : queue.Perm (conflictGraph conflicting history).conflictOriginByEvent.keys)
    {fuel : Nat} (enough : conflictFuel conflicting history ≤ fuel) :
    (spread (conflictGraph conflicting history).children fuel
      ⟨(conflictGraph conflicting history).conflictOriginByEvent, queue⟩).queue = [] := by
  have noted := conflictGraph_noted conflicting history
  have areNodes :
      ∀ parentId, (conflictGraph conflicting history).children parentId ⊆
        history.map SignedEvent.eventId := by
    intro parentId eventId isChild
    obtain ⟨event, member, same, _⟩ := noted.isChild parentId eventId isChild
    exact List.mem_map.mpr ⟨event, member, same⟩
  apply @spread_queue_eq_nil _ _ _ _ _ _ _ _ _ _ _ areNodes fuel
    ⟨(conflictGraph conflicting history).conflictOriginByEvent, queue⟩
    (spreadConflicts_sound conflicting history)
  have bound :=
    @capacity_le _ _ _ _ _ conflicting.toList.toFinset (history.map SignedEvent.eventId)
      ⟨(conflictGraph conflicting history).conflictOriginByEvent, queue⟩
  have sameLength := listed.length_eq
  rw [List.length_map] at bound
  unfold conflictFuel ConflictGraph.worklist at enough
  dsimp only at bound enough
  omega

/-- The conflict queue runs empty within the fuel it is given. -/
theorem spreadConflicts_queue (conflicting : HashSet ChannelId) (history : List SignedEvent) :
    (spreadConflicts conflicting history).queue = [] :=
  spread_queue conflicting history (List.Perm.refl _) (Nat.le_refl _)

/-- A tainted event creates a disputed channel or has a tainted parent. -/
theorem origin_of_tainted
    {history : List SignedEvent} {eventId : EventId}
    (tainted : eventId ∈ conflictOriginByEvent conflicting history) :
    ∃ event ∈ history, event.eventId = eventId ∧
      (channelDefinitionConflict conflicting event = true ∨
        ∃ parentId ∈ event.event.parents,
          parentId ∈ conflictOriginByEvent conflicting history) := by
  have sound :=
    (spreadConflicts_sound conflicting history).spread (conflictFuel conflicting history)
  rcases sound.traced eventId tainted with
    ⟨event, member, same, isConflict⟩ | ⟨parentId, parentTainted, isChild⟩
  · exact ⟨event, member, same, Or.inl isConflict⟩
  · obtain ⟨event, member, same, isParent⟩ :=
      (conflictGraph_noted conflicting history).isChild parentId eventId isChild
    exact ⟨event, member, same, Or.inr ⟨parentId, isParent, parentTainted⟩⟩

theorem tainted_of_conflict
    {history : List SignedEvent} {event : SignedEvent} (member : event ∈ history)
    (isConflict : channelDefinitionConflict conflicting event = true) :
    event.eventId ∈ conflictOriginByEvent conflicting history :=
  mem_spread _ ((conflictGraph_noted conflicting history).tainted event member isConflict)

end Chaft
