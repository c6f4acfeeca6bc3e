import Chaft.Core.AccessEffects

/-!
# Sizes of recorded identifiers

Recording events whose identifiers are within their limits keeps every
identifier of the index within them, whether or not the events are authorized.
-/

namespace Chaft

open Keyed Outcome

/-! ## Limits by kind -/

def IdentifierKind.maxBytes : IdentifierKind → Nat
  | .event => eventIdMaxBytes
  | .workspace => workspaceIdMaxBytes
  | .channel => channelIdMaxBytes
  | .message => messageIdMaxBytes
  | .deviceKeyPackage => deviceKeyPackageIdMaxBytes
  | .device => deviceIdMaxBytes
  | .person => personIdMaxBytes

def Identifier.Fits {kind : IdentifierKind} (identifier : Identifier kind) : Prop :=
  identifier.text.utf8ByteSize ≤ kind.maxBytes

section Validation

variable (label : String) (done : Unit)

@[simp]
theorem validateWorkspaceIdSize_eq_ok_iff (value : WorkspaceId) :
    validateWorkspaceIdSize label value = .ok done ↔ value.Fits :=
  ensure_eq_ok_iff _ _ _

@[simp]
theorem validateChannelIdSize_eq_ok_iff (value : ChannelId) :
    validateChannelIdSize label value = .ok done ↔ value.Fits :=
  ensure_eq_ok_iff _ _ _

@[simp]
theorem validateMessageIdSize_eq_ok_iff (value : MessageId) :
    validateMessageIdSize label value = .ok done ↔ value.Fits :=
  ensure_eq_ok_iff _ _ _

@[simp]
theorem validateEventIdSize_eq_ok_iff (value : EventId) :
    validateEventIdSize label value = .ok done ↔ value.Fits :=
  ensure_eq_ok_iff _ _ _

@[simp]
theorem validateDeviceIdSize_eq_ok_iff (value : DeviceId) :
    validateDeviceIdSize label value = .ok done ↔ value.Fits :=
  ensure_eq_ok_iff _ _ _

@[simp]
theorem validatePersonIdSize_eq_ok_iff (value : PersonId) :
    validatePersonIdSize label value = .ok done ↔ value.Fits :=
  ensure_eq_ok_iff _ _ _

end Validation

/-- What the validation of an event says about its own identifiers. -/
theorem fits_of_validateSignedEventIds
    {event : SignedEvent} (valid : validateSignedEventIds event = .ok ()) :
    event.event.workspaceId.Fits ∧ event.event.authorDeviceId.Fits ∧ event.eventId.Fits ∧
      (∀ channelId, event.event.channelId = some channelId → channelId.Fits) ∧
        validateEventBodyIds event.event.body = .ok () := by
  rw [validateSignedEventIds, bind_eq_ok_iff] at valid
  obtain ⟨_, workspace, valid⟩ := valid
  rw [validateWorkspaceIdSize_eq_ok_iff] at workspace
  cases inChannel : event.event.channelId with
  | none =>
      simp only [inChannel, bind_eq_ok_iff, validateDeviceIdSize_eq_ok_iff,
        validateEventIdSize_eq_ok_iff] at valid
      obtain ⟨-, -, -, author, -, eventId, -, -, -, -, -, -, body⟩ := valid
      exact ⟨workspace, author, eventId, by simp, body⟩
  | some channelId =>
      simp only [inChannel, bind_eq_ok_iff, validateDeviceIdSize_eq_ok_iff,
        validateEventIdSize_eq_ok_iff, validateChannelIdSize_eq_ok_iff] at valid
      obtain ⟨-, channel, -, author, -, eventId, -, -, -, -, -, -, body⟩ := valid
      refine ⟨workspace, author, eventId, ?_, body⟩
      intro tested isTested
      exact Option.some.inj isTested ▸ channel

namespace WorkspaceAccessIndex

/-- Every recorded identifier is within its limit. -/
structure IdentifiersFit (index : WorkspaceAccessIndex) : Prop where
  roles : ∀ deviceId ∈ index.roles, deviceId.Fits
  channels :
    ∀ (channelId : ChannelId) (channel : ChannelAccess),
      index.channels[channelId]? = some channel →
        channelId.Fits ∧ channel.creatorDeviceId.Fits ∧
          ∀ deviceId ∈ channel.members, deviceId.Fits
  messages :
    ∀ (messageId : MessageId) (message : MessageAccess),
      index.messages[messageId]? = some message →
        messageId.Fits ∧ message.channelId.Fits ∧
          ∀ deviceId, message.authorDeviceId = some deviceId → deviceId.Fits
  eventChannels :
    ∀ (eventId : EventId) (channelId : ChannelId),
      index.eventChannels[eventId]? = some channelId → eventId.Fits ∧ channelId.Fits
  personLinks :
    ∀ (deviceId : DeviceId) (personId : PersonId),
      index.personLinks[deviceId]? = some personId → deviceId.Fits ∧ personId.Fits

theorem identifiersFit_new (workspaceId : WorkspaceId) : (new workspaceId).IdentifiersFit where
  roles := by simp [new]
  channels := by simp [new]
  messages := by simp [new]
  eventChannels := by simp [new]
  personLinks := by simp [new]

section Steps

variable {index : WorkspaceAccessIndex} {event : SignedEvent}

theorem IdentifiersFit.roles_after
    (fit : index.IdentifiersFit) (valid : validateSignedEventIds event = .ok ())
    {deviceId : DeviceId} (known : deviceId ∈ rolesAfter index.roles event) :
    deviceId.Fits := by
  obtain ⟨-, author, -, -, bodyIds⟩ := fits_of_validateSignedEventIds valid
  have before := fit.roles deviceId
  unfold rolesAfter at known
  split at known
  · rw [Std.ExtTreeMap.mem_insert, Std.LawfulEqCmp.compare_eq_iff_eq] at known
    exact known.elim (fun isAuthor => isAuthor ▸ author) before
  · rename_i inviteeDeviceId role body
    rw [Std.ExtTreeMap.mem_insert, Std.LawfulEqCmp.compare_eq_iff_eq] at known
    simp only [body, validateEventBodyIds, validateDeviceIdSize_eq_ok_iff] at bodyIds
    exact known.elim (fun isInvitee => isInvitee ▸ bodyIds) before
  · rename_i memberDeviceId role body
    rw [Std.ExtTreeMap.mem_insert, Std.LawfulEqCmp.compare_eq_iff_eq] at known
    simp only [body, validateEventBodyIds, validateDeviceIdSize_eq_ok_iff] at bodyIds
    exact known.elim (fun isMember => isMember ▸ bodyIds) before
  · exact before (Std.ExtTreeMap.mem_erase.mp known).2
  · exact before known

theorem IdentifiersFit.channels_after
    (fit : index.IdentifiersFit) (valid : validateSignedEventIds event = .ok ())
    {channelId : ChannelId} {channel : ChannelAccess}
    (present : (channelsAfter index.channels event)[channelId]? = some channel) :
    channelId.Fits ∧ channel.creatorDeviceId.Fits ∧
      ∀ deviceId ∈ channel.members, deviceId.Fits := by
  obtain ⟨-, author, -, -, bodyIds⟩ := fits_of_validateSignedEventIds valid
  have before := fit.channels channelId
  unfold channelsAfter at present
  split at present
  · rename_i removedDeviceId body
    rw [Std.ExtTreeMap.getElem?_map] at present
    obtain ⟨earlier, wasPresent, rfl⟩ := Option.map_eq_some_iff.mp present
    obtain ⟨channelFits, creatorFits, membersFit⟩ := before earlier wasPresent
    exact ⟨channelFits, creatorFits, fun deviceId member =>
      membersFit deviceId (Std.ExtTreeSet.mem_erase.mp member).2⟩
  · rename_i createdChannelId name isPrivate body
    simp only [body, validateEventBodyIds, validateChannelIdSize_eq_ok_iff] at bodyIds
    rw [Std.ExtTreeMap.getElem?_insert] at present
    split at present
    · rename_i compared
      rw [Std.LawfulEqCmp.compare_eq_iff_eq] at compared
      rw [← compared, ← Option.some.inj present]
      refine ⟨bodyIds, author, ?_⟩
      intro deviceId member
      cases isPrivate with
      | true =>
          rw [if_pos rfl, Std.ExtTreeSet.mem_insert, Std.LawfulEqCmp.compare_eq_iff_eq] at member
          rcases member with isAuthor | impossible
          · exact isAuthor ▸ author
          · simp at impossible
      | false => simp at member
    · exact before channel present
  · rename_i createdChannelId name participantDeviceIds body
    simp only [body, validateEventBodyIds, bind_eq_ok_iff, validateChannelIdSize_eq_ok_iff,
      checkAll_eq_ok_iff, validateDeviceIdSize_eq_ok_iff] at bodyIds
    obtain ⟨-, channelFits, participantsFit⟩ := bodyIds
    rw [Std.ExtTreeMap.getElem?_insert] at present
    split at present
    · rename_i compared
      rw [Std.LawfulEqCmp.compare_eq_iff_eq] at compared
      rw [← compared, ← Option.some.inj present]
      refine ⟨channelFits, author, ?_⟩
      intro deviceId member
      rw [Std.ExtTreeSet.mem_insert, Std.LawfulEqCmp.compare_eq_iff_eq] at member
      rcases member with isAuthor | isListed
      · exact isAuthor ▸ author
      · exact participantsFit deviceId (by simpa using isListed)
    · exact before channel present
  · rename_i changedChannelId memberDeviceId body
    simp only [body, validateEventBodyIds, bind_eq_ok_iff, validateDeviceIdSize_eq_ok_iff]
      at bodyIds
    obtain ⟨-, -, memberFits⟩ := bodyIds
    rw [getElem?_modify_same] at present
    split at present
    · obtain ⟨earlier, wasPresent, rfl⟩ := Option.map_eq_some_iff.mp present
      obtain ⟨channelFits, creatorFits, membersFit⟩ := before earlier wasPresent
      refine ⟨channelFits, creatorFits, ?_⟩
      intro deviceId member
      rw [Std.ExtTreeSet.mem_insert, Std.LawfulEqCmp.compare_eq_iff_eq] at member
      exact member.elim (fun isAdded => isAdded ▸ memberFits) (membersFit deviceId)
    · exact before channel present
  · rw [getElem?_modify_same] at present
    split at present
    · obtain ⟨earlier, wasPresent, rfl⟩ := Option.map_eq_some_iff.mp present
      obtain ⟨channelFits, creatorFits, membersFit⟩ := before earlier wasPresent
      exact ⟨channelFits, creatorFits, fun deviceId member =>
        membersFit deviceId (Std.ExtTreeSet.mem_erase.mp member).2⟩
    · exact before channel present
  · exact before channel present

/-- The message an event creates has an identifier within its limit. -/
theorem fits_of_createdMessageId
    {body : EventBody} (valid : validateEventBodyIds body = .ok ())
    {messageId : MessageId} (creates : createdMessageId body = some messageId) :
    messageId.Fits := by
  unfold createdMessageId at creates
  split at creates
  case h_5 => cases creates
  all_goals
    simp only [validateEventBodyIds, bind_eq_ok_iff, validateMessageIdSize_eq_ok_iff] at valid
    cases creates
    first | exact valid | exact valid.choose_spec.1

theorem IdentifiersFit.messages_after
    (fit : index.IdentifiersFit) (valid : validateSignedEventIds event = .ok ())
    {messageId : MessageId} {message : MessageAccess}
    (present : (messagesAfter index.messages event)[messageId]? = some message) :
    messageId.Fits ∧ message.channelId.Fits ∧
      ∀ deviceId, message.authorDeviceId = some deviceId → deviceId.Fits := by
  obtain ⟨-, author, -, channelFits, bodyIds⟩ := fits_of_validateSignedEventIds valid
  have before := fit.messages messageId message
  unfold messagesAfter at present
  split at present
  · rename_i createdId channelId creates inChannel
    rw [Std.ExtTreeMap.getElem?_insert] at present
    split at present
    · rename_i compared
      rw [Std.LawfulEqCmp.compare_eq_iff_eq] at compared
      rw [← compared, ← Option.some.inj present]
      refine ⟨fits_of_createdMessageId bodyIds creates, channelFits channelId inChannel, ?_⟩
      intro deviceId isAuthor
      exact Option.some.inj isAuthor ▸ author
    · exact before present
  · exact before present

/-- The channel recorded for an event has an identifier within its limit. -/
theorem IdentifiersFit.recordedChannelId_fits
    (fit : index.IdentifiersFit) (valid : validateSignedEventIds event = .ok ())
    {channelId : ChannelId} (recorded : recordedChannelId index.messages event = some channelId) :
    channelId.Fits := by
  obtain ⟨-, -, -, channelFits, bodyIds⟩ := fits_of_validateSignedEventIds valid
  have edited :
      ∀ messageId : MessageId,
        index.messages[messageId]?.map MessageAccess.channelId = some channelId →
          channelId.Fits := by
    intro messageId isChannel
    obtain ⟨message, present, rfl⟩ := Option.map_eq_some_iff.mp isChannel
    exact (fit.messages messageId message present).2.1
  unfold recordedChannelId at recorded
  unfold validateEventBodyIds at bodyIds
  cases body : event.event.body with
  | contentKeyEpochPublished scope =>
      cases scope <;> simp_all [validateContentKeyScopeIds]
  | messageCreated | messageCreatedEncrypted | messageReplyCreated
  | messageReplyCreatedEncrypted =>
      simp only [body] at recorded
      exact channelFits channelId recorded
  | messageEdited | messageEditedEncrypted | messageDeleted | reactionAdded | reactionRemoved =>
      simp only [body] at recorded
      exact edited _ recorded
  | _ => simp_all

theorem IdentifiersFit.personLinks_after
    (fit : index.IdentifiersFit) (valid : validateSignedEventIds event = .ok ())
    {deviceId : DeviceId} {personId : PersonId}
    (linked : (personLinksAfter index.personLinks event)[deviceId]? = some personId) :
    deviceId.Fits ∧ personId.Fits := by
  obtain ⟨-, -, -, -, bodyIds⟩ := fits_of_validateSignedEventIds valid
  have before := fit.personLinks deviceId personId
  unfold personLinksAfter at linked
  split at linked
  · rw [Std.ExtTreeMap.getElem?_erase] at linked
    split at linked
    · cases linked
    · exact before linked
  · rename_i linkedPersonId linkedDeviceId body
    simp only [body, validateEventBodyIds, bind_eq_ok_iff, validatePersonIdSize_eq_ok_iff,
      validateDeviceIdSize_eq_ok_iff] at bodyIds
    obtain ⟨-, personFits, deviceFits⟩ := bodyIds
    rw [Std.ExtTreeMap.getElem?_insert] at linked
    split at linked
    · rename_i compared
      rw [Std.LawfulEqCmp.compare_eq_iff_eq] at compared
      rw [← compared, ← Option.some.inj linked]
      exact ⟨deviceFits, personFits⟩
    · exact before linked
  · exact before linked

/-- Recording an event keeps the identifiers within their limits. -/
theorem IdentifiersFit.applyAuthorized
    (fit : index.IdentifiersFit) (valid : validateSignedEventIds event = .ok ()) :
    (index.applyAuthorized event).IdentifiersFit where
  roles := by
    intro deviceId known
    rw [applyAuthorized_roles] at known
    exact fit.roles_after valid known
  channels := by
    intro channelId channel present
    rw [applyAuthorized_channels] at present
    exact fit.channels_after valid present
  messages := by
    intro messageId message present
    rw [applyAuthorized_messages] at present
    exact fit.messages_after valid present
  eventChannels := by
    intro eventId channelId present
    rw [applyAuthorized_eventChannels] at present
    unfold eventChannelsAfter at present
    split at present
    · rename_i recordedId recorded
      rw [Std.ExtTreeMap.getElem?_insert] at present
      split at present
      · rename_i compared
        rw [Std.LawfulEqCmp.compare_eq_iff_eq] at compared
        rw [← compared, ← Option.some.inj present]
        exact ⟨(fits_of_validateSignedEventIds valid).2.2.1,
          fit.recordedChannelId_fits valid recorded⟩
      · exact fit.eventChannels eventId channelId present
    · exact fit.eventChannels eventId channelId present
  personLinks := by
    intro deviceId personId linked
    rw [applyAuthorized_personLinks] at linked
    exact fit.personLinks_after valid linked

end Steps

theorem identifiersFit_foldl
    {events : List SignedEvent} {index : WorkspaceAccessIndex} (fit : index.IdentifiersFit)
    (valid : ∀ event ∈ events, validateSignedEventIds event = .ok ()) :
    (events.foldl applyAuthorized index).IdentifiersFit := by
  induction events generalizing index with
  | nil => exact fit
  | cons event rest inductionHypothesis =>
      rw [List.foldl_cons]
      apply inductionHypothesis (fit.applyAuthorized (valid event List.mem_cons_self))
      exact fun other member => valid other (List.mem_cons_of_mem event member)

end WorkspaceAccessIndex

end Chaft
