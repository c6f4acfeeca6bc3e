import Chaft.Library.FirstItems
import Chaft.View.Channels
import Mathlib.Data.String.Basic

/-!
# Histories of access to channels

The row of a channel tells the newest events that changed who may read it.  They are taken
from all events that a snapshot has, by their bodies, and not from the order of application.
-/

namespace Chaft

open Keyed

structure ChannelAccessHistorySnapshot where
  eventId : String
  kind : String
  actorDeviceId : String
  actorDisplayName : Option String
  actorAvatarId : String
  targetDeviceId : Option String
  targetDisplayName : Option String
  targetAvatarId : String
  physicalMs : Int64
  title : String
  detail : String
  deriving DecidableEq

def maxChannelAccessHistoryRows : Nat := 8

/-- The channel, the kind, the target, the title and the detail of a row. -/
structure AccessHistoryRowParts where
  channelId : ChannelId
  kind : String
  targetDeviceId : Option DeviceId
  title : String
  detail : String

def nonEmptyString (value : String) : Option String :=
  if Text.trim value.toList ≠ [] then some value else none

namespace WorkspaceState

def profileDisplayName (state : WorkspaceState) (deviceId : DeviceId) : Option String :=
  state.profiles[deviceId]?.bind fun profile => nonEmptyString profile.displayName

def accessHistoryDeviceLabel (state : WorkspaceState) (deviceId : DeviceId) : String :=
  (state.profileDisplayName deviceId).getD ("Device " ++ deviceId.text)

def channelAccessHistoryRowParts
    (state : WorkspaceState) (event : SignedEvent) : Option AccessHistoryRowParts :=
  match event.event.body with
  | .channelCreated channelId _ isPrivate =>
      if isPrivate then
        some ⟨channelId, "created", some event.event.authorDeviceId, "Private room created",
          "Initial access started with the creator."⟩
      else
        none
  | .directMessageChannelCreated channelId _ _ =>
      some ⟨channelId, "created", some event.event.authorDeviceId, "Direct message created",
        "Initial access started with the participants."⟩
  | .channelMemberAdded channelId memberDeviceId =>
      some ⟨channelId, "added", some memberDeviceId, "Room membership added",
        state.accessHistoryDeviceLabel memberDeviceId ++
          " is allowed to join this room. Message access may still be preparing."⟩
  | .channelMemberRemoved channelId memberDeviceId =>
      some ⟨channelId, "removed", some memberDeviceId, "Access removed",
        state.accessHistoryDeviceLabel memberDeviceId ++
          " can no longer read new messages after message protection is refreshed."⟩
  | .openMlsChannelGroupMemberAdded channelId inviteeDeviceId .. =>
      some ⟨channelId, "secure_group_added", some inviteeDeviceId, "Room key prepared",
        "A message key was prepared for " ++ state.accessHistoryDeviceLabel inviteeDeviceId ++
          "'s device."⟩
  | .openMlsChannelGroupMemberRemoved channelId removedDeviceId .. =>
      some ⟨channelId, "secure_group_removed", some removedDeviceId,
        "Private-room access removed",
        state.accessHistoryDeviceLabel removedDeviceId ++
          " was removed from updated private-room access."⟩
  | .openMlsChannelGroupSelfUpdated channelId .. =>
      some ⟨channelId, "secure_group_refreshed", none, "Private-room access refreshed",
        "This device refreshed its private-room access."⟩
  | .contentKeyEpochPublished (.channel channelId) _ _ previousKeyId _ =>
      some ⟨channelId, "key_refreshed", none, "Message protection refreshed",
        if previousKeyId.isSome then
          "New private messages use refreshed protection."
        else
          "Private messages are protected from here forward."⟩
  | _ => none

def accessHistoryRow
    (state : WorkspaceState) (event : SignedEvent) (parts : AccessHistoryRowParts) :
    ChannelAccessHistorySnapshot where
  eventId := event.eventId.text
  kind := parts.kind
  actorDeviceId := event.event.authorDeviceId.text
  actorDisplayName := state.profileDisplayName event.event.authorDeviceId
  actorAvatarId := state.profileAvatarId event.event.authorDeviceId
  targetDeviceId := parts.targetDeviceId.map Identifier.text
  targetDisplayName := parts.targetDeviceId.bind state.profileDisplayName
  targetAvatarId := (parts.targetDeviceId.map state.profileAvatarId).getD ""
  physicalMs := event.event.timestamp.physicalMs
  title := parts.title
  detail := parts.detail

end WorkspaceState

/-- By the time of the event, then by its ID. -/
def SignedEvent.notAfter (left right : SignedEvent) : Prop :=
  left.event.timestamp.physicalMs.toInt < right.event.timestamp.physicalMs.toInt ∨
    left.event.timestamp.physicalMs.toInt = right.event.timestamp.physicalMs.toInt ∧
      (left.event.timestamp.logical.toNat < right.event.timestamp.logical.toNat ∨
        left.event.timestamp.logical.toNat = right.event.timestamp.logical.toNat ∧
          left.eventId.text ≤ right.eventId.text)

instance : DecidableRel SignedEvent.notAfter := fun _ _ =>
  inferInstanceAs (Decidable (_ ∨ _))

/-- The order of a history. -/
def ChannelAccessHistorySnapshot.newestFirst (left right : ChannelAccessHistorySnapshot) : Prop :=
  right.physicalMs.toInt < left.physicalMs.toInt ∨
    right.physicalMs.toInt = left.physicalMs.toInt ∧ right.eventId ≤ left.eventId

instance : DecidableRel ChannelAccessHistorySnapshot.newestFirst := fun _ _ =>
  inferInstanceAs (Decidable (_ ∨ _))

instance : Std.Total ChannelAccessHistorySnapshot.newestFirst where
  total left right := by
    rcases lt_trichotomy left.physicalMs.toInt right.physicalMs.toInt with earlier | same | later
    · exact Or.inr (Or.inl earlier)
    · rcases le_total left.eventId right.eventId with before | after
      · exact Or.inr (Or.inr ⟨same, before⟩)
      · exact Or.inl (Or.inr ⟨same.symm, after⟩)
    · exact Or.inl (Or.inl later)

instance : IsTrans ChannelAccessHistorySnapshot ChannelAccessHistorySnapshot.newestFirst where
  trans first second third before after := by
    rcases before with earlier | ⟨same, before⟩
    · rcases after with later | ⟨same, -⟩
      · exact Or.inl (lt_trans later earlier)
      · left
        omega
    · rcases after with later | ⟨again, after⟩
      · left
        omega
      · exact Or.inr ⟨again.trans same, le_trans after before⟩

namespace WorkspaceState

/-- The loop over the events, from the first to the last. -/
def pushAccessHistoryRow
    (state : WorkspaceState)
    (rowsByChannel : HashMap ChannelId (List ChannelAccessHistorySnapshot))
    (event : SignedEvent) : HashMap ChannelId (List ChannelAccessHistorySnapshot) :=
  match state.channelAccessHistoryRowParts event with
  | none => rowsByChannel
  | some parts =>
      rowsByChannel.insert parts.channelId
        (rowsByChannel.getD parts.channelId [] ++ [state.accessHistoryRow event parts])

def channelAccessHistoryByChannel
    (state : WorkspaceState) (eventsById : HashMap EventId SignedEvent) :
    HashMap ChannelId (List ChannelAccessHistorySnapshot) :=
  let events := (listedValues eventsById).insertionSort SignedEvent.notAfter
  (events.foldl state.pushAccessHistoryRow ∅).map fun _ rows =>
    (rows.insertionSort ChannelAccessHistorySnapshot.newestFirst).take
      maxChannelAccessHistoryRows

/-- The channels of a snapshot, each with the history that its row shows. -/
def channelAccessHistories
    (state : WorkspaceState) (eventsById : HashMap EventId SignedEvent)
    (readerDeviceId : Option DeviceId) :
    List (ChannelId × List ChannelAccessHistorySnapshot) :=
  ((listedValues state.channels).filter fun channel =>
      state.shownTo readerDeviceId channel.channelId).map fun channel =>
    (channel.channelId,
      (state.channelAccessHistoryByChannel eventsById).getD channel.channelId [])

/-! ## The newest rows -/

/-- The row that an event leaves in a channel. -/
def rowAbout
    (state : WorkspaceState) (channelId : ChannelId) (event : SignedEvent) :
    Option ChannelAccessHistorySnapshot :=
  (state.channelAccessHistoryRowParts event).bind fun parts =>
    if parts.channelId = channelId then some (state.accessHistoryRow event parts) else none

/-- The newest rows about a channel, up to the limit of rows. -/
def newestRowsAbout
    (state : WorkspaceState) (channelId : ChannelId) (events : List SignedEvent) :
    List ChannelAccessHistorySnapshot :=
  ((events.filterMap (state.rowAbout channelId)).insertionSort
      ChannelAccessHistorySnapshot.newestFirst).take maxChannelAccessHistoryRows

end WorkspaceState

/-- The channel that a history files an event under. -/
def EventBody.accessChannelId : EventBody → Option ChannelId
  | .channelCreated channelId _ isPrivate => if isPrivate then some channelId else none
  | .directMessageChannelCreated channelId .. => some channelId
  | .channelMemberAdded channelId _ => some channelId
  | .channelMemberRemoved channelId _ => some channelId
  | .openMlsChannelGroupMemberAdded channelId .. => some channelId
  | .openMlsChannelGroupMemberRemoved channelId .. => some channelId
  | .openMlsChannelGroupSelfUpdated channelId .. => some channelId
  | .contentKeyEpochPublished (.channel channelId) .. => some channelId
  | _ => none

/-- A later time, or a greater ID at the same time. -/
def SignedEvent.isNewer (left right : SignedEvent) : Bool :=
  decide (right.event.timestamp.physicalMs.toInt < left.event.timestamp.physicalMs.toInt ∨
    right.event.timestamp.physicalMs.toInt = left.event.timestamp.physicalMs.toInt ∧
      right.eventId.text < left.eventId.text)

/-- The events about the channel that are newer than an event. -/
def newerAbout
    (channelId : ChannelId) (events : List SignedEvent) (event : SignedEvent) :
    List SignedEvent :=
  events.filter fun other =>
    decide (other.event.body.accessChannelId = some channelId) && other.isNewer event

namespace WorkspaceState

variable {state : WorkspaceState} {channelId : ChannelId}

theorem accessChannelId_eq (event : SignedEvent) :
    (state.channelAccessHistoryRowParts event).map AccessHistoryRowParts.channelId =
      event.event.body.accessChannelId := by
  rw [channelAccessHistoryRowParts]
  cases event.event.body with
  | channelCreated channelId name isPrivate => cases isPrivate <;> rfl
  | contentKeyEpochPublished scope epoch keyId previousKeyId algorithm => cases scope <;> rfl
  | _ => rfl

theorem rowAbout_eq_some_iff {event : SignedEvent} {row : ChannelAccessHistorySnapshot} :
    state.rowAbout channelId event = some row ↔
      ∃ parts, state.channelAccessHistoryRowParts event = some parts ∧
        parts.channelId = channelId ∧ state.accessHistoryRow event parts = row := by
  rw [rowAbout, Option.bind_eq_some_iff]
  constructor
  · rintro ⟨parts, isParts, isRow⟩
    split at isRow
    · rename_i same
      exact ⟨parts, isParts, same, Option.some.inj isRow⟩
    · cases isRow
  · rintro ⟨parts, isParts, same, isRow⟩
    exact ⟨parts, isParts, by rw [if_pos same, isRow]⟩

/-- An event about the channel leaves a row. -/
theorem rowAbout_isSome (event : SignedEvent) :
    (state.rowAbout channelId event).isSome = true ↔
      event.event.body.accessChannelId = some channelId := by
  rw [Option.isSome_iff_exists, ← @accessChannelId_eq state, Option.map_eq_some_iff]
  simp only [rowAbout_eq_some_iff]
  constructor
  · rintro ⟨row, parts, isParts, same, -⟩
    exact ⟨parts, isParts, same⟩
  · rintro ⟨parts, isParts, same⟩
    exact ⟨_, parts, isParts, same, rfl⟩

theorem eventId_of_rowAbout
    {event : SignedEvent} {row : ChannelAccessHistorySnapshot}
    (isRow : state.rowAbout channelId event = some row) :
    row.eventId = event.eventId.text ∧
      row.physicalMs = event.event.timestamp.physicalMs := by
  obtain ⟨parts, -, -, rfl⟩ := rowAbout_eq_some_iff.mp isRow
  exact ⟨rfl, rfl⟩

/-! ## The history of a channel -/

theorem getD_foldl_pushAccessHistoryRow
    (rowsByChannel : HashMap ChannelId (List ChannelAccessHistorySnapshot))
    (events : List SignedEvent) :
    (events.foldl state.pushAccessHistoryRow rowsByChannel).getD channelId [] =
      rowsByChannel.getD channelId [] ++ events.filterMap (state.rowAbout channelId) := by
  induction events generalizing rowsByChannel with
  | nil => simp
  | cons event rest inductionHypothesis =>
      rw [List.foldl_cons, inductionHypothesis, pushAccessHistoryRow, List.filterMap_cons, rowAbout]
      cases isParts : state.channelAccessHistoryRowParts event with
      | none => rfl
      | some parts =>
          rw [Std.ExtTreeMap.getD_insert]
          by_cases same : parts.channelId = channelId
          · subst same
            simp
          · simp [same]

theorem perm_listedValues_eventsById
    {events : List SignedEvent} (distinct : (events.map SignedEvent.eventId).Nodup) :
    (listedValues (eventsById events)).Perm events := by
  have named :
      ∀ eventId event, (eventsById events)[eventId]? = some event →
        event.eventId = eventId ∧ event ∈ events := by
    intro eventId event found
    rcases getElem?_tableOf found with ⟨item, member, sameId, rfl⟩ | ⟨-, before⟩
    · exact ⟨sameId, member⟩
    · simp at before
  refine (List.perm_ext_iff_of_nodup ?_ (List.Nodup.of_map _ distinct)).mpr fun event => ?_
  · rw [listedValues, List.Nodup, List.pairwise_map]
    refine (toList_apart (eventsById events)).imp_of_mem fun {first second} isFirst isSecond => ?_
    intro differ same
    have firstFound := Std.ExtTreeMap.mem_toList_iff_getElem?_eq_some.mp isFirst
    have secondFound := Std.ExtTreeMap.mem_toList_iff_getElem?_eq_some.mp isSecond
    apply differ
    rw [← (named _ _ firstFound).1, ← (named _ _ secondFound).1, same]
  · rw [mem_listedValues]
    constructor
    · rintro ⟨eventId, found⟩
      exact (named eventId event found).2
    · intro member
      exact ⟨event.eventId, getElem?_eventsById distinct member⟩

section Rows

variable {events : List SignedEvent}

/-- Rows of different events have different IDs. -/
private theorem rows_apart
    {row other : ChannelAccessHistorySnapshot} (distinct : (events.map SignedEvent.eventId).Nodup)
    (isRow : row ∈ events.filterMap (state.rowAbout channelId))
    (isOther : other ∈ events.filterMap (state.rowAbout channelId))
    (sameId : row.eventId = other.eventId) : row = other := by
  obtain ⟨event, member, leaves⟩ := List.mem_filterMap.mp isRow
  obtain ⟨second, secondMember, leavesSecond⟩ := List.mem_filterMap.mp isOther
  have sameEvent : event = second := by
    apply List.inj_on_of_nodup_map distinct member secondMember
    have same : event.eventId.text = second.eventId.text := by
      rw [← (eventId_of_rowAbout leaves).1, ← (eventId_of_rowAbout leavesSecond).1, sameId]
    exact congrArg Identifier.mk same
  rw [sameEvent, leavesSecond] at leaves
  exact (Option.some.inj leaves).symm

private theorem newest_apart
    (distinct : (events.map SignedEvent.eventId).Nodup) :
    ∀ row ∈ events.filterMap (state.rowAbout channelId),
      ∀ other ∈ events.filterMap (state.rowAbout channelId),
        row.newestFirst other → other.newestFirst row → row = other := by
  intro row isRow other isOther before after
  refine rows_apart distinct isRow isOther ?_
  rcases before with earlier | ⟨_, before⟩
  · rcases after with later | ⟨same, -⟩ <;> omega
  · rcases after with later | ⟨_, after⟩
    · omega
    · exact le_antisymm after before

private theorem rowIds_sublist (events : List SignedEvent) :
    ((events.filterMap (state.rowAbout channelId)).map
        ChannelAccessHistorySnapshot.eventId).Sublist
      (events.map fun event => event.eventId.text) := by
  induction events with
  | nil => exact List.Sublist.refl _
  | cons event rest inductionHypothesis =>
      rw [List.filterMap_cons, List.map_cons]
      cases isRow : state.rowAbout channelId event with
      | none => exact inductionHypothesis.cons _
      | some row =>
          rw [List.map_cons, (eventId_of_rowAbout isRow).1]
          exact inductionHypothesis.cons_cons _

private theorem rows_nodup (distinct : (events.map SignedEvent.eventId).Nodup) :
    (events.filterMap (state.rowAbout channelId)).Nodup := by
  have texts : (events.map fun event => event.eventId.text).Nodup := by
    have named := distinct.map (f := Identifier.text) fun left right same =>
      congrArg Identifier.mk same
    rw [List.map_map] at named
    exact named
  exact List.Nodup.of_map _ (texts.sublist (rowIds_sublist events))

/-- A history tells the newest rows of all events that the snapshot has. -/
theorem channelAccessHistory_eq (distinct : (events.map SignedEvent.eventId).Nodup) :
    (state.channelAccessHistoryByChannel (eventsById events)).getD channelId [] =
      state.newestRowsAbout channelId events := by
  have rows := @getD_foldl_pushAccessHistoryRow state channelId ∅
    ((listedValues (eventsById events)).insertionSort SignedEvent.notAfter)
  rw [Std.ExtTreeMap.getD_empty, List.nil_append] at rows
  have listed :
      (((listedValues (eventsById events)).insertionSort SignedEvent.notAfter).filterMap
          (state.rowAbout channelId)).Perm (events.filterMap (state.rowAbout channelId)) :=
    ((List.perm_insertionSort _ _).trans (perm_listedValues_eventsById distinct)).filterMap _
  have sorted :
      (((listedValues (eventsById events)).insertionSort SignedEvent.notAfter).filterMap
          (state.rowAbout channelId)).insertionSort ChannelAccessHistorySnapshot.newestFirst =
        (events.filterMap (state.rowAbout channelId)).insertionSort
          ChannelAccessHistorySnapshot.newestFirst := by
    apply FirstItems.insertionSort_congr listed
    intro row isRow other isOther
    exact newest_apart distinct row (listed.mem_iff.mp isRow) other (listed.mem_iff.mp isOther)
  rw [newestRowsAbout, ← sorted, ← rows, channelAccessHistoryByChannel,
    Std.ExtTreeMap.getD_eq_getD_getElem?, Std.ExtTreeMap.getElem?_map,
    Std.ExtTreeMap.getD_eq_getD_getElem?]
  cases (((listedValues (eventsById events)).insertionSort SignedEvent.notAfter).foldl
    state.pushAccessHistoryRow ∅)[channelId]? <;> rfl

/-- The rows of some of the events, by their IDs. -/
private theorem filterMap_filter_eq
    (distinct : (events.map SignedEvent.eventId).Nodup) (applied : SignedEvent → Bool) :
    (events.filter applied).filterMap (state.rowAbout channelId) =
      (events.filterMap (state.rowAbout channelId)).filter fun row =>
        decide (∃ event ∈ events, applied event = true ∧ event.eventId.text = row.eventId) := by
  rw [List.filterMap_filter, List.filter_filterMap]
  apply List.filterMap_congr
  intro event member
  cases isRow : state.rowAbout channelId event with
  | none => simp
  | some row =>
      have sameId := (eventId_of_rowAbout isRow).1
      have only :
          (∃ other ∈ events, applied other = true ∧ other.eventId.text = row.eventId) ↔
            applied event = true := by
        constructor
        · rintro ⟨other, isOther, isApplied, same⟩
          have sameEvent : other = event :=
            List.inj_on_of_nodup_map distinct isOther member
              (congrArg Identifier.mk (same.trans sameId))
          rw [← sameEvent]
          exact isApplied
        · intro isApplied
          exact ⟨event, member, isApplied, sameId.symm⟩
      have flag :
          decide (∃ other ∈ events, applied other = true ∧ other.eventId.text = row.eventId) =
            applied event := by
        rw [Bool.eq_iff_iff, decide_eq_true_eq]
        exact only
      simp only [Option.filter, flag]

/-- The rows before the row of an event are those of the newer events. -/
private theorem length_before_row
    (distinct : (events.map SignedEvent.eventId).Nodup) {event : SignedEvent}
    (member : event ∈ events) {row : ChannelAccessHistorySnapshot}
    (isRow : state.rowAbout channelId event = some row) :
    (FirstItems.before ChannelAccessHistorySnapshot.newestFirst
        (events.filterMap (state.rowAbout channelId)) row).length =
      (newerAbout channelId events event).length := by
  obtain ⟨rowId, rowMs⟩ := eventId_of_rowAbout isRow
  rw [FirstItems.before, newerAbout, ← List.countP_eq_length_filter,
    ← List.countP_eq_length_filter, List.countP_filterMap]
  apply List.countP_congr
  intro other isOther
  cases isOtherRow : state.rowAbout channelId other with
  | none =>
      have notAbout : other.event.body.accessChannelId ≠ some channelId := by
        intro isAbout
        have isSome := (@rowAbout_isSome state channelId other).mpr isAbout
        rw [isOtherRow] at isSome
        cases isSome
      simp [notAbout]
  | some otherRow =>
      have isAbout : other.event.body.accessChannelId = some channelId :=
        (@rowAbout_isSome state channelId other).mp (by rw [isOtherRow]; rfl)
      obtain ⟨otherId, otherMs⟩ := eventId_of_rowAbout isOtherRow
      have differ : otherRow ≠ row ↔ other.eventId.text ≠ event.eventId.text := by
        rw [← otherId, ← rowId]
        refine not_congr ⟨fun same => by rw [same], fun same => ?_⟩
        exact rows_apart distinct (List.mem_filterMap.mpr ⟨other, isOther, isOtherRow⟩)
          (List.mem_filterMap.mpr ⟨event, member, isRow⟩) same
      simp only [Option.map_some, Option.getD_some, decide_eq_true_eq, isAbout, decide_true,
        Bool.true_and, SignedEvent.isNewer, differ, ChannelAccessHistorySnapshot.newestFirst,
        rowId, rowMs, otherId, otherMs]
      constructor
      · rintro ⟨apart, later | ⟨same, before⟩⟩
        · exact Or.inl later
        · exact Or.inr ⟨same, lt_of_le_of_ne before (Ne.symm apart)⟩
      · rintro (later | ⟨same, before⟩)
        · refine ⟨?_, Or.inl later⟩
          intro sameText
          have sameEvent : other = event :=
            List.inj_on_of_nodup_map distinct isOther member (congrArg Identifier.mk sameText)
          rw [sameEvent] at later
          exact lt_irrefl _ later
        · exact ⟨ne_of_gt before, Or.inr ⟨same, le_of_lt before⟩⟩

/-- A history tells the newest rows of some of the events exactly if every other event about the
channel has enough newer ones. -/
theorem newestRowsAbout_eq_iff
    (distinct : (events.map SignedEvent.eventId).Nodup) (applied : SignedEvent → Bool) :
    state.newestRowsAbout channelId events =
        state.newestRowsAbout channelId (events.filter applied) ↔
      ∀ event ∈ events, applied event = false →
        event.event.body.accessChannelId = some channelId →
          maxChannelAccessHistoryRows ≤ (newerAbout channelId events event).length := by
  rw [newestRowsAbout, newestRowsAbout, filterMap_filter_eq distinct applied,
    FirstItems.take_insertionSort_filter_eq_iff _ _ (rows_nodup distinct)
      (newest_apart distinct)]
  constructor
  · intro enough event member notApplied isAbout
    obtain ⟨row, isRow⟩ :=
      Option.isSome_iff_exists.mp ((@rowAbout_isSome state channelId event).mpr isAbout)
    rw [← length_before_row distinct member isRow]
    refine enough row (List.mem_filterMap.mpr ⟨event, member, isRow⟩) ?_
    rw [decide_eq_false_iff_not]
    rintro ⟨other, isOther, isApplied, same⟩
    have sameEvent : other = event :=
      List.inj_on_of_nodup_map distinct isOther member
        (congrArg Identifier.mk (same.trans (eventId_of_rowAbout isRow).1))
    rw [sameEvent, notApplied] at isApplied
    cases isApplied
  · intro enough row isRow notKept
    obtain ⟨event, member, leaves⟩ := List.mem_filterMap.mp isRow
    rw [length_before_row distinct member leaves]
    refine enough event member ?_ ((@rowAbout_isSome state channelId event).mp (by rw [leaves]; rfl))
    rw [decide_eq_false_iff_not] at notKept
    cases isApplied : applied event with
    | false => rfl
    | true =>
        exact absurd ⟨event, member, isApplied, (eventId_of_rowAbout leaves).1.symm⟩ notKept

end Rows

end WorkspaceState

end Chaft
