import Chaft.Core.AppliedHistory
import Chaft.Library.GrowingReplay

/-!
# Growing histories

The state of a workspace is materialized again from all stored rows.  New rows are
stored behind the old ones, so the first round over the old rows stays the same.  An
old row that waits for a later round is judged again after the new rows that were
ready before it.
-/

namespace Chaft

open Keyed StableReplay

namespace WorkspaceState

/-- What a number of rounds of a materialization do. -/
def roundsOf (workspaceId : WorkspaceId) (events : List SignedEvent) (count : Nat) :
    Except BatchFailure (Scan WorkspaceState SignedEvent) :=
  rounds (scanAttempt (conflictingChannelIds events)) count (new workspaceId) events

/-- No two of the events create the same channel. -/
def ChannelsApart (events : List SignedEvent) : Prop :=
  events.Pairwise fun first second =>
    ∀ channelId, CreatesChannel first channelId → ¬ CreatesChannel second channelId

theorem conflictingChannelIds_of_apart
    {events : List SignedEvent} (apart : ChannelsApart events) :
    conflictingChannelIds events = ∅ := by
  refine Std.ExtTreeSet.ext_mem fun channelId => ?_
  rw [mem_conflictingChannelIds_iff]
  constructor
  · rintro ⟨first, firstMember, second, secondMember, firstCreates, secondCreates, different⟩
    have symmetric :
        Std.Symm fun first second : SignedEvent =>
          ∀ channelId, CreatesChannel first channelId → ¬ CreatesChannel second channelId :=
      ⟨fun _ _ never channelId rightCreates leftCreates =>
        never channelId leftCreates rightCreates⟩
    have neSecond : first ≠ second := fun same => different (congrArg SignedEvent.eventId same)
    exact absurd secondCreates
      (List.Pairwise.forall apart firstMember secondMember neSecond channelId firstCreates)
  · intro member
    exact absurd member Std.ExtTreeSet.not_mem_empty

theorem ChannelsApart.append_left
    {stored added : List SignedEvent} (apart : ChannelsApart (stored ++ added)) :
    ChannelsApart stored :=
  (List.pairwise_append.mp apart).1

/-- While the added events dispute no further channel and the rounds over the grown
history apply none of them, the stored events go through the same rounds and one more. -/
theorem roundsOf_isPrefix
    {workspaceId : WorkspaceId} {stored added : List SignedEvent}
    (sameConflicts : conflictingChannelIds (stored ++ added) = conflictingChannelIds stored)
    {report longer : MaterializationReport} {state grown : WorkspaceState}
    (first : (new workspaceId).applyBatch stored = (.ok report, state))
    (second : (new workspaceId).applyBatch (stored ++ added) = (.ok longer, grown))
    {count : Nat} {part : Scan WorkspaceState SignedEvent}
    (waited : roundsOf workspaceId (stored ++ added) count = .ok part)
    (waiting : ∀ event ∈ part.advanced, event ∉ added) :
    ∃ begun, roundsOf workspaceId stored (count + 1) = .ok begun ∧
      (begun.advanced.map SignedEvent.eventId).IsPrefix report.appliedEvents ∧
        (begun.advanced.map SignedEvent.eventId).IsPrefix longer.appliedEvents := by
  obtain ⟨-, scan, scanned, rfl, rfl⟩ := replay_of_applyBatch first
  obtain ⟨-, whole, ran, rfl, rfl⟩ := replay_of_applyBatch second
  rw [roundsOf, sameConflicts] at waited
  rw [sameConflicts] at ran
  obtain ⟨begun, early, isPrefix⟩ := rounds_of_replay (count + 1) scanned
  obtain ⟨wholeBegun, wholeEarly, wholePrefix⟩ := rounds_of_replay (count + 1) ran
  have samePrefix := rounds_prefix_of_waiting count waited waiting early wholeEarly
  exact ⟨begun, early, isPrefix.map _, (samePrefix.trans wholePrefix).map _⟩

/-- The profile of a member is stored before its parent. -/
def waitingProfile : List SignedEvent :=
  [draftEvent "e0" "root" none [] (.workspaceCreated "home"),
    draftEvent "e1" "root" none ["e0"] (.memberInvited ⟨"bob"⟩ .member),
    draftEvent "e3" "bob" none ["e2"] (.deviceProfileUpdated "bob" ""),
    draftEvent "e2" "root" none ["e1"] (.deviceProfileUpdated "root" "")]

def removal : SignedEvent :=
  draftEvent "e4" "root" none ["e2"] (.memberRemoved ⟨"bob"⟩)

/-- Both materializations; only the first applies the profile. -/
theorem removal_overtakes :
    ((new ⟨"w"⟩).applyBatch waitingProfile).1 =
        .ok ⟨[⟨"e0"⟩, ⟨"e1"⟩, ⟨"e2"⟩, ⟨"e3"⟩], []⟩ ∧
      ((new ⟨"w"⟩).applyBatch (waitingProfile ++ [removal])).1 =
        .ok ⟨[⟨"e0"⟩, ⟨"e1"⟩, ⟨"e2"⟩, ⟨"e4"⟩], [⟨⟨"e3"⟩, []⟩]⟩ := by
  decide +kernel

theorem waitingProfile_apart : ChannelsApart (waitingProfile ++ [removal]) := by
  have none :
      ∀ event ∈ waitingProfile ++ [removal], createdChannelId event.event.body = .none := by
    decide +kernel
  refine List.Pairwise.imp_of_mem ?_ (List.pairwise_of_forall fun _ _ => trivial)
  intro first second firstMember _ _ channelId creates
  rw [CreatesChannel, none first firstMember] at creates
  cases creates

end WorkspaceState

end Chaft
