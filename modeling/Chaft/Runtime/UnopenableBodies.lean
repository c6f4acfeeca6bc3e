import Chaft.Runtime.KeptKeys
import Chaft.Runtime.ReadYourWrites
import Chaft.Runtime.SearchRebuild
import Chaft.View.ReaderAccess

/-!
# Bodies that do not open

Any member can publish a sealed body that does not open under the key that it names.  One
such body fails every snapshot that could show it and every rebuild of the search index,
which has been cleared by then.  Where all bodies open, the snapshot and the index are those
that treat a body that does not open as one without a key.
-/

namespace Chaft

open Keyed Outcome

namespace WorkspaceState

/-! ## Attachments of a timeline -/

section Attachments

variable {state : WorkspaceState} {workspaceId : WorkspaceId} {report : MaterializationReport}
  {shown : List SignedEvent} {readerDeviceId : DeviceId} {bodyOverrides : BodyOverrides}
  {options : WorkspaceSnapshotOptions} {invalidSignatures : List InvalidSignatureSnapshot}
  {snapshot : WorkspaceSnapshot}

/-- The attachments that a row shows of its message. -/
def rowAttachments (message : MessageView) : List AttachmentSnapshot :=
  (message.attachments.take maxTimelineAttachmentSnapshotRows).map AttachmentRef.snapshot

theorem attachments_of_timelineItem
    {table : HashMap EventId SignedEvent} {threadReplies : ThreadReplyIndex} {eventId : EventId}
    {item : TimelineItem}
    (hasItem :
      state.timelineItemForAppliedEvent table threadReplies (some readerDeviceId) bodyOverrides
        eventId = some item) :
    ∃ event message messageId, table[eventId]? = some event ∧
      eventTimelineMessageId event.event.body = some messageId ∧
        state.messages[messageId]? = some message ∧
          state.channelAccessibleTo message.channelId readerDeviceId = true ∧
            item.attachments = rowAttachments message := by
  unfold timelineItemForAppliedEvent at hasItem
  simp only [Option.bind_eq_bind, Option.bind_eq_some_iff] at hasItem
  obtain ⟨event, found, messageId, creates, message, stored, rendered⟩ := hasItem
  split at rendered
  · rename_i isShown
    rw [shownTo, Option.all_some] at isShown
    cases rendered
    exact ⟨event, message, messageId, found, creates, stored, isShown, rfl⟩
  · cases rendered

/-- The attachments of an item are those of an accessible message with a row. -/
theorem attachments_of_mem_timeline
    (built :
      state.workspaceSnapshot workspaceId report shown (some readerDeviceId) bodyOverrides options
        invalidSignatures = some snapshot)
    {item : TimelineItem} (isItem : item ∈ snapshot.timeline) :
    item.attachments = [] ∨
      ∃ messageId message, HasRow report (eventsById shown) messageId ∧
        state.messages[messageId]? = some message ∧
          state.channelAccessibleTo message.channelId readerDeviceId = true ∧
            item.attachments = rowAttachments message := by
  rw [workspaceSnapshot_eq_some, Option.some.injEq] at built
  subst built
  obtain ⟨visited, -⟩ :=
    visited_of_window
      (state.timelineRowsForWindow report (eventsById shown) (some readerDeviceId)
        invalidSignatures options) rfl
  obtain ⟨carried, original, listed, rfl⟩ := exists_of_mem_annotateFrom isItem
  obtain ⟨row, isRow, rfl⟩ := List.mem_map.mp listed
  have isVisited := visited row isRow
  cases row with
  | gap gap => exact Or.inl rfl
  | invalid invalid => exact Or.inl rfl
  | applied eventId =>
      obtain ⟨isApplied, -⟩ := mem_timelineRowRefs isVisited
      obtain ⟨event, message, messageId, found, creates, stored, accessible, same⟩ :=
        attachments_of_timelineItem (renderRow_of_visited isVisited _ _)
      exact Or.inr ⟨messageId, message, ⟨eventId, isApplied, event, found, creates⟩, stored,
        accessible, same⟩

/-- With all rows shown, an accessible message with a row shows its attachments. -/
theorem exists_item_of_hasRow
    (built :
      state.workspaceSnapshot workspaceId report shown (some readerDeviceId) bodyOverrides
        ⟨none, none, none⟩ invalidSignatures = some snapshot)
    {messageId : MessageId} {message : MessageView}
    (hasRow : HasRow report (eventsById shown) messageId)
    (stored : state.messages[messageId]? = some message)
    (accessible : state.channelAccessibleTo message.channelId readerDeviceId = true) :
    ∃ item ∈ snapshot.timeline, item.attachments = rowAttachments message := by
  obtain ⟨eventId, isApplied, event, found, creates⟩ := hasRow
  rw [workspaceSnapshot_eq_some, Option.some.injEq] at built
  subst built
  have selected :
      state.appliedEventHasTimelineItem (eventsById shown) (some readerDeviceId) none eventId =
        true := by
    rw [appliedEventHasTimelineItem_eq_true_iff]
    refine ⟨event, message, ?_, by simp, ?_⟩
    · rw [rowMessage, found, Option.bind_eq_bind, Option.bind_some, creates]
      simp [stored]
    · rw [shownTo, Option.all_some]
      exact accessible
  have visited :
      .applied eventId ∈
        state.timelineRowRefs report (eventsById shown) (some readerDeviceId) invalidSignatures
          none := by
    unfold timelineRowRefs
    refine List.mem_append_left _ (List.mem_append_left _ (List.mem_map_of_mem ?_))
    exact List.mem_filter.mpr ⟨isApplied, selected⟩
  obtain ⟨carried, listed⟩ := exists_mem_annotateFrom _ (List.mem_map_of_mem visited)
  refine ⟨_, listed, ?_⟩
  obtain ⟨otherEvent, otherMessage, otherId, otherFound, otherCreates, otherStored, -, same⟩ :=
    attachments_of_timelineItem (renderRow_of_visited visited _ _)
  rw [found, Option.some.injEq] at otherFound
  rw [← otherFound, creates, Option.some.injEq] at otherCreates
  rw [← otherCreates, stored, Option.some.injEq] at otherStored
  rw [otherStored]
  exact same

/-- The channel rows of a snapshot are those of stored channels. -/
theorem exists_channel_of_mem_channels
    (named : state.ChannelsNamed)
    (built :
      state.workspaceSnapshot workspaceId report shown (some readerDeviceId) bodyOverrides options
        invalidSignatures = some snapshot)
    {row : ChannelSnapshot} (isRow : row ∈ snapshot.channels) :
    ∃ view, state.channels[(⟨row.channelId⟩ : ChannelId)]? = some view ∧
      row.isPrivate = view.isPrivate := by
  rw [workspaceSnapshot_eq_some, Option.some.injEq] at built
  subst built
  have listed := List.mem_of_mem_take isRow
  unfold channelSnapshotsFromStateReport sortChannelSnapshots at listed
  rw [List.mem_insertionSort, List.mem_map] at listed
  obtain ⟨view, isView, rfl⟩ := listed
  obtain ⟨channelId, present⟩ := (mem_listedValues _ _).mp (List.mem_filter.mp isView).1
  have sameId : (⟨view.channelId.text⟩ : ChannelId) = channelId := named channelId view present
  exact ⟨view, by rw [← present, ← sameId]; rfl, rfl⟩

end Attachments

end WorkspaceState

namespace LocalRuntime

variable (libraries : ReadingLibraries) (runtime : LocalRuntime) (reading : ReadingState)
  (workspaceId : WorkspaceId)

/-- No key file of the workspace or of one of its private channels fails to load. -/
structure KeyFilesLoad (state : WorkspaceState) (workspaceKey : Option KeyRing) : Prop where
  workspaceKeyLoads :
    runtime.workspaceKeyForReading libraries reading workspaceId = .ok workspaceKey
  workspaceGroupLoads :
    ∀ keyId, ∃ key, reading.groups.contentKeyForKeyId .workspace keyId = .ok key
  channelKeysLoad :
    ∀ (channelId : ChannelId) (channel : ChannelView), state.channels[channelId]? = some channel →
      channel.isPrivate = true →
        ∃ key,
          runtime.loadKey libraries.toKeyLibraries reading.files
            (.channel workspaceId channelId) = .ok key
  channelGroupsLoad :
    ∀ (channelId : ChannelId) (channel : ChannelView), state.channels[channelId]? = some channel →
      channel.isPrivate = true →
        (∀ keyId, ∃ key,
            reading.groups.contentKeyForKeyId (.channel channelId) keyId = .ok key) ∧
          ∃ ready, reading.groups.channelKeyIsReady channelId = .ok ready

section Bodies

variable (state : WorkspaceState) (workspaceKey : Option KeyRing)

/-- The key that this device has for a body. -/
def localContentKey (channelId : ChannelId) (keyId : String) : Option ContentKey :=
  (runtime.contentKeyForMaterializedPayload libraries reading workspaceId state workspaceKey
    channelId keyId).toOption.join

/-- The body as it opens on this device, if it does. -/
def openableBody (message : MessageView) : Option String :=
  message.sealedMarkdown.bind fun payload =>
    (runtime.localContentKey libraries reading workspaceId state workspaceKey message.channelId
      payload.keyId).bind fun key =>
      (openMessageMarkdown libraries.aead key payload workspaceId message.channelId
        message.messageId).toOption

/-- There is a key for the body, and the body does not open under it. -/
def FailsToOpen (message : MessageView) : Prop :=
  ∃ payload key raised, message.sealedMarkdown = some payload ∧
    runtime.localContentKey libraries reading workspaceId state workspaceKey message.channelId
        payload.keyId = some key ∧
      openMessageMarkdown libraries.aead key payload workspaceId message.channelId
        message.messageId = .error raised

def accessibleHere (message : MessageView) : Bool :=
  state.channelAccessibleTo message.channelId (runtime.readerDeviceId libraries)

/-- The body as this device may show it. -/
def shownBody (message : MessageView) : Option String :=
  if runtime.accessibleHere libraries state message then
    runtime.openableBody libraries reading workspaceId state workspaceKey message
  else
    none

/-- The overrides in which a body that does not open has no key. -/
def containedBodyOverrides (eventIds : HashSet EventId) : BodyOverrides :=
  state.openedBodies (runtime.shownBody libraries reading workspaceId state workspaceKey)
    fun eventId => decide (eventId ∈ eventIds)

/-- The row of a message when a body that does not open has no key. -/
def containedRow (table : HashMap EventId SignedEvent) (message : MessageView) :
    Option SearchRow :=
  if message.deleted = true ∨ runtime.accessibleHere libraries state message = false then
    none
  else
    (if message.sealedMarkdown.isSome then
      runtime.openableBody libraries reading workspaceId state workspaceKey message
    else
      some message.markdown).bind (searchRow workspaceId table message)

/-! ## Keys -/

variable {libraries runtime reading workspaceId state workspaceKey}

theorem contentKey_eq_ok
    (load : runtime.KeyFilesLoad libraries reading workspaceId state workspaceKey)
    (channelId : ChannelId) (keyId : String) :
    runtime.contentKeyForMaterializedPayload libraries reading workspaceId state workspaceKey
        channelId keyId =
      .ok (runtime.localContentKey libraries reading workspaceId state workspaceKey channelId
        keyId) := by
  have loads :
      ∃ key,
        runtime.contentKeyForMaterializedPayload libraries reading workspaceId state workspaceKey
          channelId keyId = .ok key := by
    unfold contentKeyForMaterializedPayload
    cases present : state.channels[channelId]? with
    | none => exact ⟨none, rfl⟩
    | some channel =>
        dsimp only
        split
        · rename_i isPrivate
          obtain ⟨ofChannel, channelGroup⟩ :=
            (load.channelGroupsLoad channelId channel present isPrivate).1 keyId
          obtain ⟨ring, channelRing⟩ := load.channelKeysLoad channelId channel present isPrivate
          rw [channelGroup]
          cases ofChannel with
          | some key => exact ⟨some key, rfl⟩
          | none =>
              rw [channelRing]
              exact ⟨_, rfl⟩
        · obtain ⟨ofWorkspace, workspaceGroup⟩ := load.workspaceGroupLoads keyId
          rw [workspaceGroup]
          cases ofWorkspace with
          | some key => exact ⟨some key, rfl⟩
          | none => exact ⟨_, rfl⟩
  obtain ⟨key, found⟩ := loads
  rw [localContentKey, found]
  rfl

variable (libraries runtime reading workspaceId state workspaceKey) in
/-- The cache holds what would be found again. -/
def CacheAgrees (resolved : ResolvedKeys) : Prop :=
  ∀ (channelId : ChannelId) (keyId : String) found,
    resolved.lookup (channelId.text, keyId) = some found →
      found =
        runtime.localContentKey libraries reading workspaceId state workspaceKey channelId keyId

theorem resolveCached_eq_ok
    (load : runtime.KeyFilesLoad libraries reading workspaceId state workspaceKey)
    {resolved : ResolvedKeys}
    (agrees : runtime.CacheAgrees libraries reading workspaceId state workspaceKey resolved)
    (channelId : ChannelId) (keyId : String) :
    ∃ known,
      runtime.resolveCached libraries reading workspaceId state workspaceKey channelId keyId
          resolved =
        .ok (runtime.localContentKey libraries reading workspaceId state workspaceKey channelId
          keyId, known) ∧
      runtime.CacheAgrees libraries reading workspaceId state workspaceKey known := by
  unfold resolveCached
  cases cached : resolved.lookup (channelId.text, keyId) with
  | some found =>
      rw [← agrees channelId keyId found cached]
      exact ⟨resolved, rfl, agrees⟩
  | none =>
      dsimp only
      rw [contentKey_eq_ok load channelId keyId]
      refine ⟨_, rfl, ?_⟩
      intro otherChannelId otherKeyId found isCached
      rw [List.lookup_cons] at isCached
      split at isCached
      · rename_i same
        obtain ⟨sameText, sameKeyId⟩ := Prod.mk.inj (eq_of_beq same)
        have sameChannel : otherChannelId = channelId := by
          cases otherChannelId
          cases channelId
          exact congrArg Identifier.mk sameText
        rw [sameChannel, sameKeyId]
        exact (Option.some.inj isCached).symm
      · exact agrees otherChannelId otherKeyId found isCached

/-! ## Overrides -/

variable (libraries runtime reading workspaceId state workspaceKey) in
/-- A body that an override is wanted for fails to open. -/
def OverrideFails (eventIds : HashSet EventId) (message : MessageView) : Prop :=
  message.authorEventId ∈ eventIds ∧ runtime.accessibleHere libraries state message = true ∧
    runtime.FailsToOpen libraries reading workspaceId state workspaceKey message

variable (libraries runtime reading workspaceId state workspaceKey) in
/-- The overrides after one more message, if its body opens. -/
def putOverride
    (eventIds : HashSet EventId) (bodyOverrides : BodyOverrides) (message : MessageView) :
    BodyOverrides :=
  tableOf Prod.fst Prod.snd bodyOverrides
    (if message.authorEventId ∈ eventIds then
      (WorkspaceState.openedBody
        (runtime.shownBody libraries reading workspaceId state workspaceKey) message).toList
    else
      [])

theorem overrideBody_cases
    (load : runtime.KeyFilesLoad libraries reading workspaceId state workspaceKey)
    (eventIds : HashSet EventId) (bodyOverrides : BodyOverrides) {resolved : ResolvedKeys}
    (agrees : runtime.CacheAgrees libraries reading workspaceId state workspaceKey resolved)
    (message : MessageView) :
    (runtime.OverrideFails libraries reading workspaceId state workspaceKey eventIds message ∧
        ∃ raised,
          runtime.overrideBody libraries reading workspaceId state workspaceKey eventIds
            (bodyOverrides, resolved) message = .error raised) ∨
      ¬ runtime.OverrideFails libraries reading workspaceId state workspaceKey eventIds
          message ∧
        ∃ known,
          runtime.overrideBody libraries reading workspaceId state workspaceKey eventIds
              (bodyOverrides, resolved) message =
            .ok (runtime.putOverride libraries reading workspaceId state workspaceKey eventIds
              bodyOverrides message, known) ∧
          runtime.CacheAgrees libraries reading workspaceId state workspaceKey known := by
  unfold overrideBody OverrideFails putOverride WorkspaceState.openedBody shownBody
  by_cases isWanted : message.authorEventId ∈ eventIds
  · by_cases accessible : runtime.accessibleHere libraries state message = true
    · rw [if_pos ⟨isWanted, accessible⟩, if_pos isWanted, if_pos accessible]
      cases isSealed : message.sealedMarkdown with
      | none =>
          refine Or.inr ⟨?_, resolved, rfl, agrees⟩
          intro fails
          obtain ⟨-, -, payload, _, _, impossible, -⟩ := fails
          rw [isSealed] at impossible
          cases impossible
      | some payload =>
          obtain ⟨known, found, knownAgrees⟩ :=
            resolveCached_eq_ok load agrees message.channelId payload.keyId
          simp only [found, openableBody, isSealed, Option.bind_some, Option.isSome_some, if_true]
          cases hasKey : runtime.localContentKey libraries reading workspaceId state workspaceKey
              message.channelId payload.keyId with
          | none =>
              refine Or.inr ⟨?_, known, rfl, knownAgrees⟩
              intro fails
              obtain ⟨-, -, other, key, _, isOther, otherKey, -⟩ := fails
              rw [isSealed, Option.some.injEq] at isOther
              rw [← isOther, hasKey] at otherKey
              cases otherKey
          | some key =>
              cases opens : openMessageMarkdown libraries.aead key payload workspaceId
                  message.channelId message.messageId with
              | error raised =>
                  refine Or.inl ⟨⟨isWanted, accessible, payload, key, raised, isSealed, hasKey,
                    opens⟩, .crypto raised, ?_⟩
                  simp [bind, Except.bind, opens, Except.mapError]
              | ok plaintext =>
                  refine Or.inr ⟨?_, known, ?_, knownAgrees⟩
                  · intro fails
                    obtain ⟨-, -, other, otherKey, _, isOther, isKey, otherOpens⟩ := fails
                    rw [isSealed, Option.some.injEq] at isOther
                    rw [← isOther, hasKey, Option.some.injEq] at isKey
                    rw [← isOther, ← isKey, opens] at otherOpens
                    cases otherOpens
                  · simp [bind, Except.bind, opens, Except.mapError, Except.toOption]
    · rw [if_neg fun both => accessible both.2, if_pos isWanted, if_neg accessible]
      refine Or.inr ⟨fun fails => accessible fails.2.1, resolved, ?_, agrees⟩
      simp
  · rw [if_neg fun both => isWanted both.1, if_neg isWanted]
    exact Or.inr ⟨fun fails => isWanted fails.1, resolved, rfl, agrees⟩

/-- The overrides are made exactly when no wanted body fails to open, and a body that does
not open is not among them. -/
theorem foldlM_overrideBody_eq_ok_iff
    (load : runtime.KeyFilesLoad libraries reading workspaceId state workspaceKey)
    (eventIds : HashSet EventId) (messages : List MessageView) (bodyOverrides : BodyOverrides)
    {resolved : ResolvedKeys}
    (agrees : runtime.CacheAgrees libraries reading workspaceId state workspaceKey resolved)
    (final : BodyOverrides) :
    (∃ known,
      messages.foldlM
          (runtime.overrideBody libraries reading workspaceId state workspaceKey eventIds)
          (bodyOverrides, resolved) = .ok (final, known)) ↔
      (∀ message ∈ messages,
          ¬ runtime.OverrideFails libraries reading workspaceId state workspaceKey eventIds
            message) ∧
        messages.foldl
          (runtime.putOverride libraries reading workspaceId state workspaceKey eventIds)
          bodyOverrides = final := by
  induction messages generalizing bodyOverrides resolved with
  | nil =>
      simp only [List.foldlM_nil, List.foldl_nil, List.not_mem_nil, false_implies, implies_true,
        true_and]
      constructor
      · intro isFinal
        obtain ⟨known, isFinal⟩ := isFinal
        cases isFinal
        rfl
      · intro isFinal
        exact ⟨resolved, by rw [isFinal]; rfl⟩
  | cons message rest inductionHypothesis =>
      rw [List.foldlM_cons, List.forall_mem_cons, List.foldl_cons]
      rcases overrideBody_cases load eventIds bodyOverrides agrees message with
        ⟨fails, raised, isRaised⟩ | ⟨opens, known, isPut, knownAgrees⟩
      · rw [isRaised]
        constructor
        · intro isFinal
          obtain ⟨_, impossible⟩ := isFinal
          cases impossible
        · exact fun both => absurd fails both.1.1
      · rw [isPut]
        exact (inductionHypothesis _ knownAgrees).trans
          ⟨fun both => ⟨⟨opens, both.1⟩, both.2⟩, fun both => ⟨both.1.2, both.2⟩⟩

theorem foldl_putOverride
    (eventIds : HashSet EventId) (messages : List MessageView) (bodyOverrides : BodyOverrides) :
    messages.foldl
        (runtime.putOverride libraries reading workspaceId state workspaceKey eventIds)
        bodyOverrides =
      tableOf Prod.fst Prod.snd bodyOverrides
        ((messages.filter fun message => decide (message.authorEventId ∈ eventIds)).filterMap
          (WorkspaceState.openedBody
            (runtime.shownBody libraries reading workspaceId state workspaceKey))) := by
  induction messages generalizing bodyOverrides with
  | nil => rfl
  | cons message rest inductionHypothesis =>
      rw [List.foldl_cons, inductionHypothesis, putOverride]
      by_cases isWanted : message.authorEventId ∈ eventIds
      · rw [if_pos isWanted, List.filter_cons_of_pos (by simp [isWanted]), List.filterMap_cons]
        cases WorkspaceState.openedBody _ message with
        | none => rfl
        | some opened => rfl
      · rw [if_neg isWanted, List.filter_cons_of_neg (by simp [isWanted])]
        rfl

theorem decryptedBodyOverrides_eq_ok_iff
    (load : runtime.KeyFilesLoad libraries reading workspaceId state workspaceKey)
    (eventIds : HashSet EventId) (bodyOverrides : BodyOverrides) :
    runtime.decryptedBodyOverridesForEventIds libraries reading workspaceId state workspaceKey
        eventIds = .ok bodyOverrides ↔
      (∀ message ∈ listedValues state.messages,
          ¬ runtime.OverrideFails libraries reading workspaceId state workspaceKey eventIds
            message) ∧
        runtime.containedBodyOverrides libraries reading workspaceId state workspaceKey
          eventIds = bodyOverrides := by
  have noneKnown :
      runtime.CacheAgrees libraries reading workspaceId state workspaceKey [] :=
    fun _ _ _ isCached => nomatch isCached
  rw [containedBodyOverrides, WorkspaceState.openedBodies, ← foldl_putOverride,
    ← foldlM_overrideBody_eq_ok_iff load eventIds _ ∅ noneKnown bodyOverrides,
    decryptedBodyOverridesForEventIds]
  cases (listedValues state.messages).foldlM
      (runtime.overrideBody libraries reading workspaceId state workspaceKey eventIds)
      (∅, []) with
  | error raised => simp [Except.map]
  | ok passed =>
      obtain ⟨made, known⟩ := passed
      simp [Except.map]

/-! ## Rows of the index -/

variable (libraries runtime reading workspaceId state workspaceKey) in
/-- A body that is to be indexed fails to open. -/
def IndexFails (message : MessageView) : Prop :=
  message.deleted = false ∧ runtime.accessibleHere libraries state message = true ∧
    runtime.FailsToOpen libraries reading workspaceId state workspaceKey message

theorem searchableMarkdown_cases
    (load : runtime.KeyFilesLoad libraries reading workspaceId state workspaceKey)
    (table : HashMap EventId SignedEvent) (message : MessageView) :
    (runtime.IndexFails libraries reading workspaceId state workspaceKey message ∧
        ∃ raised,
          runtime.searchableMarkdown libraries reading workspaceId state workspaceKey message =
            .error raised) ∨
      ¬ runtime.IndexFails libraries reading workspaceId state workspaceKey message ∧
        ∃ markdown,
          runtime.searchableMarkdown libraries reading workspaceId state workspaceKey message =
              .ok markdown ∧
            markdown.bind (searchRow workspaceId table message) =
              runtime.containedRow libraries reading workspaceId state workspaceKey table
                message := by
  unfold searchableMarkdown IndexFails containedRow
  by_cases isSkipped :
      message.deleted = true ∨ runtime.accessibleHere libraries state message = false
  · have skips :
        message.deleted = true ∨
          state.channelAccessibleTo message.channelId (runtime.readerDeviceId libraries) =
            false := isSkipped
    rw [if_pos skips, if_pos isSkipped]
    refine Or.inr ⟨?_, none, rfl, rfl⟩
    intro fails
    rcases isSkipped with isDeleted | isHidden
    · rw [fails.1] at isDeleted
      cases isDeleted
    · rw [fails.2.1] at isHidden
      cases isHidden
  · have keeps :
        ¬ (message.deleted = true ∨
          state.channelAccessibleTo message.channelId (runtime.readerDeviceId libraries) =
            false) := isSkipped
    rw [if_neg keeps, if_neg isSkipped]
    rw [not_or, Bool.not_eq_true, Bool.not_eq_false] at isSkipped
    cases isSealed : message.sealedMarkdown with
    | none =>
        refine Or.inr ⟨?_, some message.markdown, rfl, rfl⟩
        intro fails
        obtain ⟨-, -, payload, _, _, impossible, -⟩ := fails
        rw [isSealed] at impossible
        cases impossible
    | some payload =>
        simp only [contentKey_eq_ok load, openableBody, isSealed, Option.bind_some,
          Option.isSome_some, if_true]
        cases hasKey : runtime.localContentKey libraries reading workspaceId state workspaceKey
            message.channelId payload.keyId with
        | none =>
            refine Or.inr ⟨?_, none, rfl, rfl⟩
            intro fails
            obtain ⟨-, -, other, key, _, isOther, otherKey, -⟩ := fails
            rw [isSealed, Option.some.injEq] at isOther
            rw [← isOther, hasKey] at otherKey
            cases otherKey
        | some key =>
            cases opens : openMessageMarkdown libraries.aead key payload workspaceId
                message.channelId message.messageId with
            | error raised =>
                refine Or.inl ⟨⟨isSkipped.1, isSkipped.2, payload, key, raised, isSealed, hasKey,
                  opens⟩, .crypto raised, ?_⟩
                simp [bind, Except.bind, opens, Except.mapError]
            | ok plaintext =>
                refine Or.inr ⟨?_, some plaintext, ?_, ?_⟩
                · intro fails
                  obtain ⟨-, -, other, otherKey, _, isOther, isKey, otherOpens⟩ := fails
                  rw [isSealed, Option.some.injEq] at isOther
                  rw [← isOther, hasKey, Option.some.injEq] at isKey
                  rw [← isOther, ← isKey, opens] at otherOpens
                  cases otherOpens
                · simp [bind, Except.bind, opens, Except.mapError]
                · simp [opens, Except.toOption]

/-- The rows are indexed exactly when no body fails to open. -/
theorem indexMessages_cases
    (load : runtime.KeyFilesLoad libraries reading workspaceId state workspaceKey)
    (table : HashMap EventId SignedEvent) (messages : List MessageView) (indexed : Nat)
    (index : SearchIndex) :
    let rows :=
      messages.filterMap
        (runtime.containedRow libraries reading workspaceId state workspaceKey table)
    let result :=
      runtime.indexMessages libraries reading workspaceId state workspaceKey table messages
        indexed index
    ((∃ message ∈ messages,
          runtime.IndexFails libraries reading workspaceId state workspaceKey message) ∧
        ∃ raised, result.1 = .error raised) ∨
      (∀ message ∈ messages,
          ¬ runtime.IndexFails libraries reading workspaceId state workspaceKey message) ∧
        result = (.ok (indexed + rows.length), rows.foldl SearchIndex.indexMessage index) := by
  induction messages generalizing indexed index with
  | nil => exact Or.inr ⟨fun _ member => absurd member List.not_mem_nil, rfl⟩
  | cons message rest inductionHypothesis =>
      dsimp only
      rw [indexMessages]
      rcases searchableMarkdown_cases load table message with
        ⟨fails, raised, isRaised⟩ | ⟨opens, markdown, isMarkdown, isRow⟩
      · rw [isRaised]
        exact Or.inl ⟨⟨message, List.mem_cons_self, fails⟩, raised, rfl⟩
      · rw [isMarkdown]
        dsimp only
        rw [isRow]
        cases row : runtime.containedRow libraries reading workspaceId state workspaceKey table
            message with
        | none =>
            rw [List.filterMap_cons_none row]
            rcases inductionHypothesis indexed index with
              ⟨⟨failing, member, fails⟩, isError⟩ | ⟨allOpen, isResult⟩
            · exact Or.inl ⟨⟨failing, List.mem_cons_of_mem message member, fails⟩, isError⟩
            · exact Or.inr ⟨List.forall_mem_cons.mpr ⟨opens, allOpen⟩, isResult⟩
        | some made =>
            rw [List.filterMap_cons_some row]
            rcases inductionHypothesis (indexed + 1) (index.indexMessage made) with
              ⟨⟨failing, member, fails⟩, isError⟩ | ⟨allOpen, isResult⟩
            · exact Or.inl ⟨⟨failing, List.mem_cons_of_mem message member, fails⟩, isError⟩
            · refine Or.inr ⟨List.forall_mem_cons.mpr ⟨opens, allOpen⟩, ?_⟩
              rw [List.length_cons, List.foldl_cons, ← Nat.add_assoc, Nat.add_right_comm]
              exact isResult

/-! ## Annotations -/

variable (libraries reading) in
/-- The blob store tells whether it has the blob. -/
def BlobIsKnown (blobHash : String) : Prop :=
  ∃ available,
    reading.blobs.hasCompleteBlob libraries.manifestFromSlice blobHash = .ok available

theorem annotateItem_eq_ok_iff (item : TimelineItem) :
    (∃ annotated, annotateItem libraries reading item = .ok annotated) ↔
      ∀ attachment ∈ item.attachments, BlobIsKnown libraries reading attachment.blobHash := by
  have eachAttachment :
      ∀ attachment : AttachmentSnapshot,
        (∃ annotated, annotateAttachment libraries reading attachment = .ok annotated) ↔
          BlobIsKnown libraries reading attachment.blobHash := by
    intro attachment
    unfold annotateAttachment BlobIsKnown
    simp only [bind_eq_ok_iff, renamed_eq_ok_iff, Except.ok.injEq]
    constructor
    · intro annotates
      obtain ⟨_, available, isKnown, -⟩ := annotates
      exact ⟨available, isKnown⟩
    · intro isKnown
      obtain ⟨available, isKnown⟩ := isKnown
      exact ⟨_, available, isKnown, rfl⟩
  unfold annotateItem
  simp only [bind_eq_ok_iff, Except.ok.injEq]
  rw [exists_comm]
  simp only [exists_and_left, exists_eq', and_true]
  rw [exists_mapM_eq_ok_iff]
  exact forall₂_congr fun attachment _ => eachAttachment attachment

theorem exists_annotateChannel
    (load : runtime.KeyFilesLoad libraries reading workspaceId state workspaceKey)
    {channel : ChannelSnapshot} {view : ChannelView}
    (present : state.channels[(⟨channel.channelId⟩ : ChannelId)]? = some view)
    (samePrivacy : channel.isPrivate = view.isPrivate) :
    ∃ annotated,
      runtime.annotateChannel libraries reading workspaceId channel = .ok annotated := by
  unfold annotateChannel
  split
  · rename_i isPrivate
    rw [samePrivacy] at isPrivate
    obtain ⟨-, ready, isReady⟩ := load.channelGroupsLoad _ view present isPrivate
    obtain ⟨key, loads⟩ := load.channelKeysLoad _ view present isPrivate
    rw [isReady]
    cases ready with
    | true => exact ⟨_, rfl⟩
    | false =>
        rw [loads]
        exact ⟨_, rfl⟩
  · exact ⟨_, rfl⟩

/-- A snapshot is annotated exactly when its attachments are known. -/
theorem annotateSnapshot_eq_ok_iff
    (load : runtime.KeyFilesLoad libraries reading workspaceId state workspaceKey)
    {snapshot : WorkspaceSnapshot}
    (channelsPresent :
      ∀ channel ∈ snapshot.channels, ∃ view,
        state.channels[(⟨channel.channelId⟩ : ChannelId)]? = some view ∧
          channel.isPrivate = view.isPrivate) :
    (∃ annotated, runtime.annotateSnapshot libraries reading workspaceId snapshot =
        .ok annotated) ↔
      ∀ item ∈ snapshot.timeline, ∀ attachment ∈ item.attachments,
        BlobIsKnown libraries reading attachment.blobHash := by
  have channelsAnnotated :
      ∃ channels,
        snapshot.channels.mapM (runtime.annotateChannel libraries reading workspaceId) =
          .ok channels := by
    refine exists_mapM_eq_ok_iff.mpr fun channel listed => ?_
    obtain ⟨view, present, samePrivacy⟩ := channelsPresent channel listed
    exact exists_annotateChannel load present samePrivacy
  obtain ⟨channels, channelsAnnotated⟩ := channelsAnnotated
  unfold annotateSnapshot
  rw [channelsAnnotated]
  simp only [bind_eq_ok_iff, Except.ok.injEq, exists_eq_left']
  rw [exists_comm]
  simp only [exists_and_left, exists_eq', and_true]
  rw [exists_mapM_eq_ok_iff]
  exact forall₂_congr fun item _ => annotateItem_eq_ok_iff item

/-! ## Containment -/

section Containment

variable (libraries runtime reading workspaceId state workspaceKey)
  (report : MaterializationReport)

/-- The messages whose bodies a snapshot wants. -/
def wantedEventIds (options : WorkspaceSnapshotOptions) : HashSet EventId :=
  state.bodyOverrideEventIdsForSnapshotWindow libraries.primitives report
    (rawEvents libraries reading workspaceId) (runtime.readerDeviceId libraries) options

/-- The rows of the index when a body that does not open has no key. -/
def containedRows : List SearchRow :=
  (listedValues state.messages).filterMap
    (runtime.containedRow libraries reading workspaceId state workspaceKey
      (eventsById (materializedEvents libraries reading workspaceId)))

/-- A body that does not open is treated as one without a key, and a rebuild that fails
leaves the index alone. -/
structure ContainsUnopenableBodies : Prop where
  snapshots :
    ∀ options, runtime.validateSnapshotChannelScope libraries workspaceId state options =
        .ok () →
      ∃ rendered annotated,
        runtime.renderedSnapshot libraries reading workspaceId state report
            (runtime.containedBodyOverrides libraries reading workspaceId state workspaceKey
              (runtime.wantedEventIds libraries reading workspaceId state report options))
            options = some rendered ∧
          runtime.annotateSnapshot libraries reading workspaceId rendered = .ok annotated ∧
            runtime.decryptedWorkspaceSnapshotWithOptions libraries reading workspaceId
              options = .ok (some annotated)
  rebuild :
    ∀ index,
      runtime.reindexWorkspaceSearch libraries reading workspaceId index =
        (.ok
          { workspaceId := workspaceId.text
            indexedMessageCount :=
              (runtime.containedRows libraries reading workspaceId state workspaceKey).length },
          (runtime.containedRows libraries reading workspaceId state workspaceKey).foldl
            SearchIndex.indexMessage (index.clearWorkspace workspaceId))
  untouched :
    ∀ index raised rebuilt,
      runtime.reindexWorkspaceSearch libraries reading workspaceId index =
          (.error raised, rebuilt) →
        rebuilt = index

/-- No body that is shown or indexed fails to open, and the blob store knows the attachments
of all rows. -/
structure AllBodiesOpen : Prop where
  shown :
    ∀ options, runtime.validateSnapshotChannelScope libraries workspaceId state options =
        .ok () →
      ∀ message ∈ listedValues state.messages,
        ¬ runtime.OverrideFails libraries reading workspaceId state workspaceKey
          (runtime.wantedEventIds libraries reading workspaceId state report options) message
  indexed :
    ∀ message ∈ listedValues state.messages,
      ¬ runtime.IndexFails libraries reading workspaceId state workspaceKey message
  attachments :
    ∀ messageId message,
      WorkspaceState.HasRow report (eventsById (rawEvents libraries reading workspaceId))
          messageId →
        state.messages[messageId]? = some message →
          runtime.accessibleHere libraries state message = true →
            ∀ attachment ∈ WorkspaceState.rowAttachments message,
              BlobIsKnown libraries reading attachment.blobHash

variable {libraries runtime reading workspaceId state workspaceKey report}

/-- A rebuild indexes the messages of the accepted state. -/
theorem reindexWorkspaceSearch_accepted
    (validId : validateWorkspaceIdReference workspaceId = .ok ())
    (load : runtime.KeyFilesLoad libraries reading workspaceId state workspaceKey)
    (accepted :
      (WorkspaceState.new workspaceId).applyBatch
        (materializedEvents libraries reading workspaceId) = (.ok report, state))
    (index : SearchIndex) :
    let result :=
      runtime.indexMessages libraries reading workspaceId state workspaceKey
        (eventsById (materializedEvents libraries reading workspaceId))
        (listedValues state.messages) 0 (index.clearWorkspace workspaceId)
    runtime.reindexWorkspaceSearch libraries reading workspaceId index =
      (result.1.map fun count =>
        { workspaceId := workspaceId.text, indexedMessageCount := count }, result.2) := by
  have isResult :
      runtime.reindexWorkspaceSearch libraries reading workspaceId index =
        runtime.reindexWorkspaceSearchWithKey libraries reading workspaceId workspaceKey
          index := by
    unfold reindexWorkspaceSearch
    rw [validId, load.workspaceKeyLoads]
    rfl
  rw [isResult, reindexWorkspaceSearchWithKey, accepted]

theorem reindex_cases
    (validId : validateWorkspaceIdReference workspaceId = .ok ())
    (load : runtime.KeyFilesLoad libraries reading workspaceId state workspaceKey)
    (accepted :
      (WorkspaceState.new workspaceId).applyBatch
        (materializedEvents libraries reading workspaceId) = (.ok report, state))
    (index : SearchIndex) :
    let rows := runtime.containedRows libraries reading workspaceId state workspaceKey
    let result := runtime.reindexWorkspaceSearch libraries reading workspaceId index
    ((∃ message ∈ listedValues state.messages,
          runtime.IndexFails libraries reading workspaceId state workspaceKey message) ∧
        ∃ raised, result.1 = .error raised) ∨
      (∀ message ∈ listedValues state.messages,
          ¬ runtime.IndexFails libraries reading workspaceId state workspaceKey message) ∧
        result =
          (.ok { workspaceId := workspaceId.text, indexedMessageCount := rows.length },
            rows.foldl SearchIndex.indexMessage (index.clearWorkspace workspaceId)) := by
  dsimp only
  rw [reindexWorkspaceSearch_accepted validId load accepted index]
  rcases indexMessages_cases load (eventsById (materializedEvents libraries reading workspaceId))
      (listedValues state.messages) 0 (index.clearWorkspace workspaceId) with
    ⟨failing, raised, isRaised⟩ | ⟨allOpen, isIndexed⟩
  · refine Or.inl ⟨failing, raised, ?_⟩
    rw [isRaised]
    rfl
  · refine Or.inr ⟨allOpen, ?_⟩
    rw [isIndexed, Nat.zero_add]
    rfl

/-- What a snapshot of a materialized workspace comes to. -/
theorem decryptedSnapshot_eq
    (validId : validateWorkspaceIdReference workspaceId = .ok ())
    (load : runtime.KeyFilesLoad libraries reading workspaceId state workspaceKey)
    (accepted :
      (WorkspaceState.new workspaceId).applyBatch
        (materializedEvents libraries reading workspaceId) = (.ok report, state))
    {options : WorkspaceSnapshotOptions}
    (inScope :
      runtime.validateSnapshotChannelScope libraries workspaceId state options = .ok ()) :
    runtime.decryptedWorkspaceSnapshotWithOptions libraries reading workspaceId options =
      (do
        let bodyOverrides ← runtime.decryptedBodyOverridesForEventIds libraries reading
          workspaceId state workspaceKey
          (runtime.wantedEventIds libraries reading workspaceId state report options)
        (runtime.renderedSnapshot libraries reading workspaceId state report bodyOverrides
          options).mapM (runtime.annotateSnapshot libraries reading workspaceId)) := by
  have validChannel :
      ∃ checked, options.timelineChannelId.mapM validateChannelIdReference = .ok checked := by
    unfold validateSnapshotChannelScope at inScope
    cases timelineChannel : options.timelineChannelId with
    | none => exact ⟨none, rfl⟩
    | some channelId =>
        rw [timelineChannel] at inScope
        simp only [bind_eq_ok_iff] at inScope
        obtain ⟨done, valid, -⟩ := inScope
        rw [Option.mapM_some, valid]
        exact ⟨_, rfl⟩
  obtain ⟨checked, validChannel⟩ := validChannel
  unfold decryptedWorkspaceSnapshotWithOptions
  rw [validId, validChannel, load.workspaceKeyLoads, accepted]
  simp only [bind, Except.bind]
  rw [inScope]
  rfl

variable (libraries runtime reading workspaceId state report) in
theorem exists_rendered
    (bodyOverrides : BodyOverrides) (options : WorkspaceSnapshotOptions) :
    ∃ rendered,
      runtime.renderedSnapshot libraries reading workspaceId state report bodyOverrides
        options = some rendered :=
  ⟨_, WorkspaceState.workspaceSnapshot_eq_some _ _ _ _ _ _ _ _⟩

end Containment

end Bodies

end LocalRuntime

/-! ## A body with a short nonce

The stranger is invited, the founder makes a channel, and the stranger sends a sealed message
into it that names the founder's key and has no nonce. -/

namespace LocalRuntime

def foyerHash : String :=
  "7b65595780526af1650cbb14efa2dc7ae8ba8a2baecbdd22bd21ecb9bebb1da6"

def foyerSignature : List UInt8 :=
  [0x65, 0x25, 0xa0, 0xc3, 0xfb, 0x7a, 0xcf, 0x8f, 0xef, 0x80, 0xb7, 0x02,
    0x36, 0xae, 0x53, 0xd7, 0x6d, 0xae, 0xa5, 0x74, 0x42, 0x09, 0xac, 0x1c,
    0x4c, 0x99, 0x6d, 0xf1, 0x3d, 0xa8, 0x70, 0x7d, 0x37, 0xad, 0x06, 0xde,
    0x22, 0x46, 0x78, 0xeb, 0xdf, 0x32, 0xfe, 0x98, 0x69, 0xbb, 0xf5, 0x08,
    0x4b, 0xbe, 0x90, 0xbe, 0xc5, 0xc2, 0x6d, 0x15, 0x22, 0xa2, 0x72, 0x20,
    0x88, 0xba, 0x82, 0x01]

def garbledHash : String :=
  "bc12a588e3e0be0d1c1c3bbf45391f57c55e61f4bf421fcb6b7ef3c6d69cd185"

def garbledSignature : List UInt8 :=
  [0xae, 0x17, 0xa1, 0x9b, 0x9a, 0x8a, 0x6d, 0xc2, 0x57, 0x6b, 0x02, 0xd7,
    0x03, 0xf9, 0x9a, 0xa0, 0x5d, 0x38, 0xbe, 0x58, 0x25, 0xdb, 0xaa, 0xe1,
    0x40, 0x07, 0x5e, 0xbe, 0xda, 0x97, 0x2a, 0x06, 0xd3, 0xac, 0x92, 0xc8,
    0x85, 0x06, 0xf3, 0x56, 0x0b, 0x6a, 0x71, 0x4b, 0x0f, 0x18, 0xe2, 0x2a,
    0xa7, 0x3d, 0x23, 0xda, 0x74, 0x90, 0xd1, 0x8f, 0x72, 0xad, 0xda, 0x5f,
    0x6c, 0xcc, 0x3e, 0x0b]

def foyerJson : List String :=
  afterHomeJson homeDeviceHash
    ["\x7b\"kind\":\"channel_created\",", "\"channel_id\":\"c\",", "\"name\":\"lobby\",",
      "\"is_private\":false\x7d"]

def garbledJson : List String :=
  ["\x7b\"schema_version\":1,", "\"workspace_id\":\"w\",", "\"channel_id\":\"c\",",
    "\"author_device_id\":\"dev_", strangerDeviceHash, "\",", "\"timestamp\":",
    "\x7b\"physical_ms\":0,\"logical\":0\x7d,", "\"parents\":[\"evt_", foyerHash,
    "\",\"evt_", inviteHash, "\"],", "\"body\":\x7b\"kind\":\"message_created_encrypted\",",
    "\"message_id\":\"m\",", "\"sealed_markdown\":\x7b\"mode\":\"aes256_gcm_siv\",",
    "\"key_id\":\"w:content:v1\",", "\"nonce\":[],\"aad\":[],\"bytes\":[]\x7d,",
    "\"attachments\":[]\x7d\x7d"]

def signedFoyer : SignedEvent where
  eventId := ⟨"evt_" ++ foyerHash⟩
  event := afterHome homeDeviceHash (.channelCreated ⟨"c"⟩ "lobby" false)
  authorPublicKey := homeKey
  signature := foyerSignature

def garbledBody : SealedPayload where
  mode := .aes256GcmSiv
  keyId := "w:content:v1"
  nonce := []
  aad := []
  bytes := []

def signedGarbled : SignedEvent where
  eventId := ⟨"evt_" ++ garbledHash⟩
  event :=
    { afterHome strangerDeviceHash (.messageCreatedEncrypted ⟨"m"⟩ garbledBody []) with
      channelId := some ⟨"c"⟩
      parents := [signedFoyer.eventId, signedInvite.eventId] }
  authorPublicKey := strangerKey
  signature := garbledSignature

/-- The primitives as they behave on the four events. -/
def foyerPrimitives : Primitives where
  blake3Hex bytes :=
    if bytes = asciiBytes foyerJson ++ foyerSignature then
      foyerHash
    else if bytes = asciiBytes garbledJson ++ garbledSignature then
      garbledHash
    else
      invitePrimitives.blake3Hex bytes
  isVerifyingKey := invitePrimitives.isVerifyingKey
  verify key bytes signature :=
    invitePrimitives.verify key bytes signature ||
      [(homeKey, asciiBytes foyerJson, foyerSignature),
        (strangerKey, asciiBytes garbledJson, garbledSignature)].contains (key, bytes, signature)
  signableEventJson event :=
    if event = signedFoyer.event then
      asciiBytes foyerJson
    else if event = signedGarbled.event then
      asciiBytes garbledJson
    else
      invitePrimitives.signableEventJson event
  trustSnapshotJson := invitePrimitives.trustSnapshotJson

def foyerEventJson : EventJson :=
  .ofList
    [(signedHome, signedCreationJson "home" signedHome),
      (signedInvite, signedEventJson signedInvite inviteJson),
      (signedFoyer, signedEventJson signedFoyer foyerJson),
      (signedGarbled, signedEventJson signedGarbled garbledJson)]

/-- The libraries as they behave on the ring and on the events. -/
def foyerLibraries : ReadingLibraries where
  toKeyLibraries :=
    { ringLibraries.toKeyLibraries with
      primitives := foyerPrimitives
      eventJson := foyerEventJson }
  manifestFromSlice _ := none

/-- The founder's device, which holds the ring of the workspace and no group. -/
def foyerReading (history : List SignedEvent) : ReadingState where
  files := (stateWithRing firstRing).files
  store := EventStore.empty.after foyerPrimitives foyerEventJson history
  groups :=
    { hasGroupState := false
      contentKeyForKeyId := fun _ _ => .ok none
      channelKeyIsReady := fun _ => .ok false }
  blobs := .empty

def foyerState (history : List SignedEvent) : WorkspaceState :=
  ((WorkspaceState.new ⟨"w"⟩).applyBatch history).2

def foyerReport (history : List SignedEvent) : MaterializationReport :=
  ⟨history.map SignedEvent.eventId, []⟩

def quietHistory : List SignedEvent := [signedHome, signedInvite, signedFoyer]

def garbledHistory : List SignedEvent := quietHistory ++ [signedGarbled]

/-- What the device reads of the two histories, each part evaluated apart. -/
private theorem foyer_facts :
    (∀ history ∈ [quietHistory, garbledHistory],
      materializedEvents foyerLibraries (foyerReading history) ⟨"w"⟩ = history ∧
        ((WorkspaceState.new ⟨"w"⟩).applyBatch history).1 = .ok (foyerReport history) ∧
          ∀ channel ∈ listedValues (foyerState history).channels, channel.isPrivate = false) ∧
      ringRuntime.workspaceKeyForReading foyerLibraries (foyerReading []) ⟨"w"⟩ =
        .ok (some firstRing) ∧
      listedValues (foyerState quietHistory).messages = [] ∧
      (ringRuntime.indexMessages foyerLibraries (foyerReading garbledHistory) ⟨"w"⟩
        (foyerState garbledHistory) (some firstRing) (eventsById garbledHistory)
        (listedValues (foyerState garbledHistory).messages) 0
        (SearchIndex.clearWorkspace [] ⟨"w"⟩)).1 =
          .error (.crypto .invalidNonceLength) := by
  refine
    ⟨List.forall_mem_cons.mpr ⟨⟨?_, ?_⟩, List.forall_mem_singleton.mpr ⟨?_, ?_⟩⟩, ?_, ?_, ?_⟩
  all_goals decide +kernel

theorem foyerHistory_materialized :
    ∀ history ∈ [quietHistory, garbledHistory],
      materializedEvents foyerLibraries (foyerReading history) ⟨"w"⟩ = history ∧
        ((WorkspaceState.new ⟨"w"⟩).applyBatch history).1 = .ok (foyerReport history) ∧
          ∀ channel ∈ listedValues (foyerState history).channels, channel.isPrivate = false :=
  foyer_facts.1

theorem foyer_keyFilesLoad
    {history : List SignedEvent} (known : history ∈ [quietHistory, garbledHistory]) :
    ringRuntime.KeyFilesLoad foyerLibraries (foyerReading history) ⟨"w"⟩ (foyerState history)
      (some firstRing) := by
  obtain ⟨-, -, allPublic⟩ := foyerHistory_materialized history known
  have notPrivate :
      ∀ (channelId : ChannelId) (channel : ChannelView),
        (foyerState history).channels[channelId]? = some channel → channel.isPrivate ≠ true := by
    intro channelId channel present
    rw [allPublic channel ((mem_listedValues _ _).mpr ⟨channelId, present⟩)]
    exact Bool.false_ne_true
  exact
    { workspaceKeyLoads := foyer_facts.2.1
      workspaceGroupLoads := fun _ => ⟨none, rfl⟩
      channelKeysLoad := fun channelId channel present isPrivate =>
        absurd isPrivate (notPrivate channelId channel present)
      channelGroupsLoad := fun channelId channel present isPrivate =>
        absurd isPrivate (notPrivate channelId channel present) }

theorem foyer_accepted
    {history : List SignedEvent} (known : history ∈ [quietHistory, garbledHistory]) :
    (WorkspaceState.new ⟨"w"⟩).applyBatch
        (materializedEvents foyerLibraries (foyerReading history) ⟨"w"⟩) =
      (.ok (foyerReport history), foyerState history) := by
  obtain ⟨materialized, applied, -⟩ := foyerHistory_materialized history known
  rw [materialized]
  exact Prod.ext applied rfl

end LocalRuntime

end Chaft
