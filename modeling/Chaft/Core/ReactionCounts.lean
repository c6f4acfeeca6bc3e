import Chaft.Core.MessageOwnership
import Mathlib.Algebra.Ring.Nat

/-!
# Reaction counts

A message keeps, for each reaction, the devices that react and their number.
The devices are those that the history leaves: a creation of the message
forgets them, and an addition or removal changes the set of one reaction.  The
number is 32 bits wide and stops at its largest value.
-/

namespace Chaft

open Keyed Outcome Transition

/-- The number that is shown for a number of devices. -/
def reactionCount (devices : Nat) : UInt32 :=
  UInt32.ofNat (min devices (UInt32.size - 1))

theorem reactionCount_toNat (devices : Nat) :
    (reactionCount devices).toNat = min devices (2 ^ 32 - 1) := by
  have width : UInt32.size = 2 ^ 32 := rfl
  rw [reactionCount, UInt32.toNat_ofNat', width]
  exact Nat.mod_eq_of_lt (by omega)

/-- The devices with a reaction to a message after one more event. -/
def reactorsAfter
    (messageId : MessageId) (reaction : String) (devices : HashSet DeviceId)
    (event : SignedEvent) : HashSet DeviceId :=
  match event.event.body with
  | .messageCreated changed ..
  | .messageReplyCreated changed ..
  | .messageCreatedEncrypted changed ..
  | .messageReplyCreatedEncrypted changed .. => if changed = messageId then ∅ else devices
  | .reactionAdded changed added =>
      if changed = messageId ∧ added = reaction then
        devices.insert event.event.authorDeviceId
      else
        devices
  | .reactionRemoved changed removed =>
      if changed = messageId ∧ removed = reaction then
        devices.erase event.event.authorDeviceId
      else
        devices
  | _ => devices

/-- The devices that a history leaves with a reaction to a message. -/
def reactors
    (messageId : MessageId) (reaction : String) (history : List SignedEvent) :
    HashSet DeviceId :=
  history.foldl (reactorsAfter messageId reaction) ∅

theorem reactors_append
    (messageId : MessageId) (reaction : String) (history : List SignedEvent)
    (event : SignedEvent) :
    reactors messageId reaction (history ++ [event]) =
      reactorsAfter messageId reaction (reactors messageId reaction history) event := by
  rw [reactors, List.foldl_append]
  rfl

namespace MessageView

/-- A message lists these devices for a reaction and shows their number; it has no
entry for a reaction of no device. -/
structure ShowsReactors
    (message : MessageView) (reaction : String) (devices : HashSet DeviceId) : Prop where
  authors :
    message.reactionAuthors[reaction]? = if devices = ∅ then none else some devices
  count :
    message.reactions[reaction]? =
      if devices = ∅ then none else some (reactionCount devices.size)

theorem ShowsReactors.getD
    {message : MessageView} {reaction : String} {devices : HashSet DeviceId}
    (shows : message.ShowsReactors reaction devices) :
    message.reactionAuthors.getD reaction ∅ = devices := by
  rw [Std.ExtTreeMap.getD_eq_getD_getElem?, shows.authors]
  split
  · rename_i isEmpty
    exact isEmpty.symm
  · rfl

theorem new_showsReactors
    (messageId : MessageId) (channelId : ChannelId) (authorEventId : EventId)
    (replyToMessageId : Option MessageId) (markdown : String)
    (sealedMarkdown : Option SealedPayload) (attachments : List AttachmentRef)
    (reaction : String) :
    (new messageId channelId authorEventId replyToMessageId markdown sealedMarkdown
      attachments).ShowsReactors reaction ∅ where
  authors := by simp [new]
  count := by simp [new]

theorem ShowsReactors.addReaction
    {message : MessageView} {reaction : String} {devices : HashSet DeviceId}
    (shows : message.ShowsReactors reaction devices) (authorDeviceId : DeviceId) :
    (message.addReaction reaction authorDeviceId).ShowsReactors reaction
      (devices.insert authorDeviceId) := by
  have nonempty : devices.insert authorDeviceId ≠ ∅ := Std.ExtTreeSet.insert_ne_empty
  unfold MessageView.addReaction
  rw [shows.getD]
  dsimp only
  by_cases reacts : authorDeviceId ∈ devices
  · have same := insert_of_mem reacts
    rw [if_pos reacts, same]
    rw [same] at nonempty
    exact
      { authors := by simp [nonempty]
        count := by simpa [nonempty] using shows.count }
  · rw [if_neg reacts]
    exact
      { authors := by simp [nonempty]
        count := by simp [nonempty, setReactionCount, reactionCount] }

theorem ShowsReactors.removeReaction
    {message : MessageView} {reaction : String} {devices : HashSet DeviceId}
    (shows : message.ShowsReactors reaction devices) (authorDeviceId : DeviceId) :
    (message.removeReaction reaction authorDeviceId).ShowsReactors reaction
      (devices.erase authorDeviceId) := by
  unfold MessageView.removeReaction
  rw [shows.authors]
  by_cases isEmpty : devices = ∅
  · rw [if_pos isEmpty, isEmpty, Std.ExtTreeSet.erase_empty]
    rw [isEmpty] at shows
    exact shows
  · rw [if_neg isEmpty]
    dsimp only
    by_cases reacts : authorDeviceId ∈ devices
    · rw [if_neg (not_not_intro reacts)]
      by_cases last : devices.erase authorDeviceId = ∅
      · rw [if_pos (Std.ExtTreeSet.isEmpty_iff.mpr last)]
        exact
          { authors := by simp [last]
            count := by simp [last] }
      · rw [if_neg fun erased => last (Std.ExtTreeSet.isEmpty_iff.mp erased)]
        exact
          { authors := by simp [last]
            count := by simp [last, setReactionCount, reactionCount] }
    · rw [if_pos reacts, erase_of_not_mem reacts]
      exact shows

/-- Another reaction keeps its devices. -/
theorem ShowsReactors.addReaction_other
    {message : MessageView} {reaction : String} {devices : HashSet DeviceId}
    (shows : message.ShowsReactors reaction devices) {added : String}
    (other : added ≠ reaction) (authorDeviceId : DeviceId) :
    (message.addReaction added authorDeviceId).ShowsReactors reaction devices := by
  unfold MessageView.addReaction
  dsimp only
  split
  · exact
      { authors := by simpa [other] using shows.authors
        count := shows.count }
  · exact
      { authors := by simpa [other] using shows.authors
        count := by simpa [setReactionCount, other] using shows.count }

theorem ShowsReactors.removeReaction_other
    {message : MessageView} {reaction : String} {devices : HashSet DeviceId}
    (shows : message.ShowsReactors reaction devices) {removed : String}
    (other : removed ≠ reaction) (authorDeviceId : DeviceId) :
    (message.removeReaction removed authorDeviceId).ShowsReactors reaction devices := by
  unfold MessageView.removeReaction
  dsimp only
  repeat' split
  · exact shows
  · exact shows
  · exact
      { authors := by simpa [other] using shows.authors
        count := by simpa [other] using shows.count }
  · exact
      { authors := by simpa [other] using shows.authors
        count := by simpa [setReactionCount, other] using shows.count }

end MessageView

/-- A new message starts without reactions, whatever its event is called. -/
theorem createdMessage_showsReactors
    {event : SignedEvent} {created : MessageView}
    (creates : createdMessage event = some created) (reaction : String) :
    created.ShowsReactors reaction ∅ := by
  unfold createdMessage at creates
  split at creates
  case h_5 => cases creates
  all_goals
    rw [Option.map_eq_some_iff] at creates
    obtain ⟨channelId, -, rfl⟩ := creates
    exact MessageView.new_showsReactors _ _ _ _ _ _ _ reaction

/-- A creation changes no message. -/
theorem messageChange_of_createdMessage
    {event : SignedEvent} {created : MessageView}
    (creates : createdMessage event = some created) :
    messageChange event = none := by
  unfold createdMessage at creates
  unfold messageChange
  cases body : event.event.body with
  | messageCreated | messageReplyCreated | messageCreatedEncrypted
  | messageReplyCreatedEncrypted => rfl
  | _ => simp [body] at creates

/-- A change of the message keeps step with the history. -/
theorem MessageView.ShowsReactors.change
    {message : MessageView} {reaction : String} {devices : HashSet DeviceId}
    (shows : message.ShowsReactors reaction devices)
    {event : SignedEvent} {messageId : MessageId} {change : MessageView → MessageView}
    (changes : messageChange event = some (messageId, change)) :
    (change message).ShowsReactors reaction
      (reactorsAfter messageId reaction devices event) := by
  unfold messageChange at changes
  unfold reactorsAfter
  cases body : event.event.body with
  | reactionAdded changed added =>
      simp only [body, Option.some.injEq, Prod.mk.injEq] at changes
      obtain ⟨rfl, rfl⟩ := changes
      by_cases same : added = reaction
      · simp only [same, and_self, if_true]
        exact shows.addReaction _
      · simp only [same, and_false, if_false]
        exact shows.addReaction_other same _
  | reactionRemoved changed removed =>
      simp only [body, Option.some.injEq, Prod.mk.injEq] at changes
      obtain ⟨rfl, rfl⟩ := changes
      by_cases same : removed = reaction
      · simp only [same, and_self, if_true]
        exact shows.removeReaction _
      · simp only [same, and_false, if_false]
        exact shows.removeReaction_other same _
  | messageEdited | messageEditedEncrypted | messageDeleted =>
      simp only [body, Option.some.injEq, Prod.mk.injEq] at changes
      obtain ⟨rfl, rfl⟩ := changes
      exact ⟨shows.authors, shows.count⟩
  | _ => simp [body] at changes

/-- An event about another message leaves the devices alone. -/
theorem reactorsAfter_other
    {event : SignedEvent} {messageId : MessageId}
    (notCreated : WorkspaceAccessIndex.createdMessageId event.event.body ≠ some messageId)
    (notChanged : ∀ change, messageChange event ≠ some (messageId, change))
    (reaction : String) (devices : HashSet DeviceId) :
    reactorsAfter messageId reaction devices event = devices := by
  unfold reactorsAfter
  cases body : event.event.body with
  | messageCreated changed | messageReplyCreated changed | messageCreatedEncrypted changed
  | messageReplyCreatedEncrypted changed =>
      rw [body] at notCreated
      exact if_neg fun same => notCreated (congrArg some same)
  | reactionAdded changed added =>
      refine if_neg fun same => ?_
      rw [messageChange, body, same.1] at notChanged
      exact notChanged _ rfl
  | reactionRemoved changed removed =>
      refine if_neg fun same => ?_
      rw [messageChange, body, same.1] at notChanged
      exact notChanged _ rfl
  | _ => rfl

theorem reactorsAfter_created
    {event : SignedEvent} {messageId : MessageId}
    (creates : WorkspaceAccessIndex.createdMessageId event.event.body = some messageId)
    (reaction : String) (devices : HashSet DeviceId) :
    reactorsAfter messageId reaction devices event = ∅ := by
  unfold reactorsAfter
  cases body : event.event.body with
  | messageCreated | messageReplyCreated | messageCreatedEncrypted
  | messageReplyCreatedEncrypted =>
      rw [body, WorkspaceAccessIndex.createdMessageId, Option.some.injEq] at creates
      exact if_pos creates
  | _ => simp [body, WorkspaceAccessIndex.createdMessageId] at creates

namespace WorkspaceState

/-- Every message shows the devices that the history leaves with each reaction. -/
def ShowsReactors (history : List SignedEvent) (state : WorkspaceState) : Prop :=
  ∀ (messageId : MessageId) (message : MessageView),
    state.messages[messageId]? = some message →
      ∀ reaction, message.ShowsReactors reaction (reactors messageId reaction history)

theorem ShowsReactors.apply
    {history : List SignedEvent} {state next : WorkspaceState} {event : SignedEvent}
    (shows : ShowsReactors history state) (accepted : state.apply event = (.ok (), next)) :
    ShowsReactors (history ++ [event]) next := by
  obtain ⟨-, applied⟩ := (apply_eq_ok_iff _ _ _).mp accepted
  obtain ⟨-, authorized, -⟩ := applyReadyEvent_ok applied
  obtain ⟨-, -, -, permitted⟩ :=
    (WorkspaceAccessIndex.authorize_eq_ok_iff _ _ _).mp authorized
  intro messageId message present reaction
  rw [applyReadyEvent_messages applied, messageViewsAfter] at present
  rw [reactors_append]
  by_cases creates :
      WorkspaceAccessIndex.createdMessageId event.event.body = some messageId
  · obtain ⟨created, isCreated, sameId⟩ := createdMessage_of_permitted permitted creates
    rw [isCreated] at present
    simp only [Std.ExtTreeMap.getElem?_insert, Std.LawfulEqCmp.compare_eq_iff_eq, sameId,
      if_true, Option.some.injEq] at present
    rw [reactorsAfter_created creates, ← present]
    exact createdMessage_showsReactors isCreated reaction
  · cases isCreated : createdMessage event with
    | some created =>
        obtain ⟨createsId, -⟩ := createdMessage_eq_some isCreated
        have otherId : created.messageId ≠ messageId :=
          fun same => creates (same ▸ createsId)
        have unchanged := messageChange_of_createdMessage isCreated
        rw [isCreated] at present
        simp only [Std.ExtTreeMap.getElem?_insert, Std.LawfulEqCmp.compare_eq_iff_eq, otherId,
          if_false] at present
        rw [reactorsAfter_other creates (by simp [unchanged])]
        exact shows messageId message present reaction
    | none =>
        rw [isCreated] at present
        cases changes : messageChange event with
        | none =>
            rw [changes] at present
            rw [reactorsAfter_other creates (by simp [changes])]
            exact shows messageId message present reaction
        | some changed =>
            obtain ⟨changedId, change⟩ := changed
            rw [changes] at present
            simp only [getElem?_modify_same] at present
            by_cases same : changedId = messageId
            · rw [if_pos same, Option.map_eq_some_iff] at present
              obtain ⟨before, wasPresent, rfl⟩ := present
              rw [same] at changes
              exact (shows messageId before wasPresent reaction).change changes
            · rw [if_neg same] at present
              have otherChange : ∀ change, messageChange event ≠ some (messageId, change) := by
                intro other changesThis
                rw [changes, Option.some.injEq, Prod.mk.injEq] at changesThis
                exact same changesThis.1
              rw [reactorsAfter_other creates otherChange]
              exact shows messageId message present reaction

/-- Every reachable state shows the devices that react. -/
theorem Reachable.showsReactors
    {workspaceId : WorkspaceId} {history : List SignedEvent} {state : WorkspaceState}
    (reached : Reachable workspaceId history state) :
    ShowsReactors history state := by
  have ran := reached.run
  clear reached
  induction ran with
  | start =>
      intro messageId message present
      simp [WorkspaceState.new] at present
  | extend _ _ accepted inductionHypothesis =>
      exact inductionHypothesis.apply ((applyStep_eq_ok_iff _ _ _).mp accepted)

end WorkspaceState

end Chaft
