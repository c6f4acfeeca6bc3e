import Chaft.Core.AccessEffects
import Chaft.Core.WorkspaceState

/-!
# What applying one event does

An event that the access index permits is always written: the views never
refuse it.  So `applyReadyEvent` succeeds exactly when authorization does, and
a refused event leaves the whole state alone.
-/

namespace Chaft

open Keyed Outcome

namespace WorkspaceState

variable {state next : WorkspaceState} {signed : SignedEvent}

/-! ## Fields the views do not touch -/

/-- The part of a state that only `recordApplied` and the access index write. -/
structure SameLedger (before after : WorkspaceState) : Prop where
  workspaceId : after.workspaceId = before.workspaceId
  appliedEvents : after.appliedEvents = before.appliedEvents
  appliedEventIds : after.appliedEventIds = before.appliedEventIds
  accessIndex : after.accessIndex = before.accessIndex

theorem SameLedger.refl (state : WorkspaceState) : SameLedger state state :=
  ⟨rfl, rfl, rfl, rfl⟩

theorem markInvitesAcceptedByEvent_sameLedger (state : WorkspaceState) (signed : SignedEvent) :
    SameLedger state (state.markInvitesAcceptedByEvent signed) := by
  unfold markInvitesAcceptedByEvent
  split <;> exact ⟨rfl, rfl, rfl, rfl⟩

theorem writeViews_sameLedger
    {written : WorkspaceState} (finished : state.writeViews signed = .ok written) :
    SameLedger state written := by
  unfold writeViews at finished
  cases body : signed.event.body with
  | workspaceInviteRecorded inviteId inviteeDeviceId displayName role requestId expiresAt
      approvalPolicy syncExpectation =>
      simp only [body] at finished
      split at finished <;> cases finished <;> exact ⟨rfl, rfl, rfl, rfl⟩
  | messageCreated messageId markdown attachments
  | messageReplyCreated messageId replyToMessageId markdown attachments
  | messageCreatedEncrypted messageId sealedMarkdown attachments
  | messageReplyCreatedEncrypted messageId replyToMessageId sealedMarkdown attachments =>
      simp only [body, insertMessage, bind_eq_ok_iff] at finished
      obtain ⟨channelId, _, stored⟩ := finished
      cases stored
      exact ⟨rfl, rfl, rfl, rfl⟩
  | _ =>
      simp only [body, modifyMessage] at finished
      cases finished
      exact ⟨rfl, rfl, rfl, rfl⟩

/-- The views accept every event that authorization permits. -/
theorem writeViews_of_permitted
    {index : WorkspaceAccessIndex} (permitted : index.authorizeBody signed = .ok ())
    (state : WorkspaceState) :
    ∃ written, state.writeViews signed = .ok written := by
  unfold WorkspaceAccessIndex.authorizeBody at permitted
  unfold writeViews
  cases body : signed.event.body with
  | workspaceInviteRecorded inviteId inviteeDeviceId displayName role requestId expiresAt
      approvalPolicy syncExpectation =>
      cases requestId <;> exact ⟨_, rfl⟩
  | messageCreated messageId markdown attachments
  | messageReplyCreated messageId replyToMessageId markdown attachments
  | messageCreatedEncrypted messageId sealedMarkdown attachments
  | messageReplyCreatedEncrypted messageId replyToMessageId sealedMarkdown attachments =>
      simp only [body, bind_eq_ok_iff, requireEventChannel_eq_ok_iff] at permitted
      obtain ⟨_, _, channelId, inChannel, _⟩ := permitted
      simp [insertMessage, inChannel, okOr, bind, Except.bind]
  | _ => exact ⟨_, rfl⟩

/-! ## Applying a ready event -/

/-- The state that an accepted event leads to. -/
theorem applyReadyEvent_of_authorized
    (sameWorkspace : signed.event.workspaceId = state.workspaceId)
    (authorized : state.accessIndex.authorize signed = .ok ()) :
    ∃ next, state.applyReadyEvent signed = (.ok (), next) ∧
      next.workspaceId = state.workspaceId ∧
        next.appliedEvents = state.appliedEvents ++ [signed.eventId] ∧
          next.appliedEventIds = state.appliedEventIds.insert signed.eventId ∧
            next.accessIndex = state.accessIndex.applyAuthorized signed := by
  have accepted :
      state.accessIndex.authorizeAndApply signed =
        .ok (state.accessIndex.applyAuthorized signed) := by
    rw [WorkspaceAccessIndex.authorizeAndApply_eq_ok_iff]
    exact ⟨authorized, rfl⟩
  obtain ⟨-, -, -, permitted⟩ :=
    (WorkspaceAccessIndex.authorize_eq_ok_iff state.accessIndex signed ()).mp authorized
  obtain ⟨written, finished⟩ :=
    writeViews_of_permitted permitted
      (markInvitesAcceptedByEvent
        { state with accessIndex := state.accessIndex.applyAuthorized signed } signed)
  have marked :=
    markInvitesAcceptedByEvent_sameLedger
      { state with accessIndex := state.accessIndex.applyAuthorized signed } signed
  have ledger := writeViews_sameLedger finished
  refine ⟨written.recordApplied signed, ?_, ?_, ?_, ?_, ?_⟩
  · simp [applyReadyEvent, sameWorkspace, accepted, finished]
  · rw [recordApplied, ledger.workspaceId, marked.workspaceId]
  · rw [recordApplied, ledger.appliedEvents, marked.appliedEvents]
  · rw [recordApplied, ledger.appliedEventIds, marked.appliedEventIds]
  · rw [recordApplied, ledger.accessIndex, marked.accessIndex]

/-- The three outcomes of applying a ready event. -/
theorem applyReadyEvent_cases (state : WorkspaceState) (signed : SignedEvent) :
    (signed.event.workspaceId ≠ state.workspaceId ∧
        state.applyReadyEvent signed = (.error .wrongWorkspace, state)) ∨
      (∃ refusal, signed.event.workspaceId = state.workspaceId ∧
        state.accessIndex.authorize signed = .error refusal ∧
          state.applyReadyEvent signed = (.error (.authorization refusal), state)) ∨
        ∃ next, signed.event.workspaceId = state.workspaceId ∧
          state.accessIndex.authorize signed = .ok () ∧
            state.applyReadyEvent signed = (.ok (), next) := by
  by_cases sameWorkspace : signed.event.workspaceId = state.workspaceId
  · right
    cases decision : state.accessIndex.authorize signed with
    | error refusal =>
        have refused :
            state.accessIndex.authorizeAndApply signed = .error refusal := by
          rw [WorkspaceAccessIndex.authorizeAndApply_eq_error_iff]
          exact decision
        exact Or.inl ⟨refusal, sameWorkspace, rfl,
          by simp [applyReadyEvent, sameWorkspace, refused]⟩
    | ok done =>
        obtain ⟨next, applied, -⟩ := applyReadyEvent_of_authorized sameWorkspace decision
        exact Or.inr ⟨next, sameWorkspace, rfl, applied⟩
  · exact Or.inl ⟨sameWorkspace, by simp [applyReadyEvent, sameWorkspace]⟩

theorem applyReadyEvent_ok
    (applied : state.applyReadyEvent signed = (.ok (), next)) :
    signed.event.workspaceId = state.workspaceId ∧
      state.accessIndex.authorize signed = .ok () ∧
        next.workspaceId = state.workspaceId ∧
          next.appliedEvents = state.appliedEvents ++ [signed.eventId] ∧
            next.appliedEventIds = state.appliedEventIds.insert signed.eventId ∧
              next.accessIndex = state.accessIndex.applyAuthorized signed := by
  rcases applyReadyEvent_cases state signed with
    ⟨_, failed⟩ | ⟨refusal, _, _, failed⟩ | ⟨_, sameWorkspace, authorized, _⟩
  · rw [failed] at applied
    cases applied
  · rw [failed] at applied
    cases applied
  · obtain ⟨reached, reachedApplied, fields⟩ :=
      applyReadyEvent_of_authorized sameWorkspace authorized
    rw [reachedApplied] at applied
    cases applied
    exact ⟨sameWorkspace, authorized, fields⟩

/-- An accepted event is written to the views and then recorded. -/
theorem applyReadyEvent_writes
    (applied : state.applyReadyEvent signed = (.ok (), next)) :
    ∃ written,
      writeViews
          (markInvitesAcceptedByEvent
            { state with accessIndex := state.accessIndex.applyAuthorized signed } signed)
          signed = .ok written ∧
        next = written.recordApplied signed := by
  unfold applyReadyEvent at applied
  split at applied
  · cases applied
  · split at applied
    · cases applied
    · rename_i index accepted
      obtain ⟨-, rfl⟩ := (WorkspaceAccessIndex.authorizeAndApply_eq_ok_iff _ _ _).mp accepted
      dsimp only at applied
      split at applied
      · cases applied
      · rename_i written finished
        cases applied
        exact ⟨written, finished, rfl⟩

/-- An error leaves the state as it was. -/
theorem applyReadyEvent_error
    {raised : CoreError} {left : WorkspaceState}
    (failed : state.applyReadyEvent signed = (.error raised, left)) :
    left = state ∧
      (raised = .wrongWorkspace ∧ signed.event.workspaceId ≠ state.workspaceId ∨
        ∃ refusal, raised = .authorization refusal ∧
          signed.event.workspaceId = state.workspaceId ∧
            state.accessIndex.authorize signed = .error refusal) := by
  rcases applyReadyEvent_cases state signed with
    ⟨other, outcome⟩ | ⟨refusal, sameWorkspace, refused, outcome⟩ | ⟨_, _, _, outcome⟩
  · rw [outcome] at failed
    cases failed
    exact ⟨rfl, Or.inl ⟨rfl, other⟩⟩
  · rw [outcome] at failed
    cases failed
    exact ⟨rfl, Or.inr ⟨refusal, rfl, sameWorkspace, refused⟩⟩
  · rw [outcome] at failed
    cases failed

/-! ## Applying with parents -/

theorem unappliedParentIds_eq_nil_iff (state : WorkspaceState) (signed : SignedEvent) :
    state.unappliedParentIds signed = [] ↔
      ∀ parentId ∈ signed.event.parents, parentId ∈ state.appliedEventIds := by
  simp [unappliedParentIds, List.filter_eq_nil_iff]

@[simp]
theorem missingParentIds_eq_ok_iff
    (state : WorkspaceState) (signed : SignedEvent) (missing : List EventId) :
    state.missingParentIds signed = .ok missing ↔
      validateSignedEventIds signed = .ok () ∧
        signed.event.workspaceId = state.workspaceId ∧
          state.unappliedParentIds signed = missing := by
  unfold missingParentIds
  cases validateSignedEventIds signed <;> simp [Except.mapError, Unique.exists_iff]

/-- `apply` accepts an event exactly when its parents are applied and the access
index authorizes it. -/
theorem apply_eq_ok_iff (state next : WorkspaceState) (signed : SignedEvent) :
    state.apply signed = (.ok (), next) ↔
      state.unappliedParentIds signed = [] ∧
        state.applyReadyEvent signed = (.ok (), next) := by
  constructor
  · intro applied
    unfold apply at applied
    split at applied
    · cases applied
    · cases applied
    · rename_i noneMissing
      rw [missingParentIds_eq_ok_iff] at noneMissing
      exact ⟨noneMissing.2.2, applied⟩
  · rintro ⟨noneMissing, applied⟩
    obtain ⟨sameWorkspace, authorized, -⟩ := applyReadyEvent_ok applied
    obtain ⟨valid, -⟩ :=
      (WorkspaceAccessIndex.authorize_eq_ok_iff state.accessIndex signed ()).mp authorized
    have missing : state.missingParentIds signed = .ok [] := by
      rw [missingParentIds_eq_ok_iff]
      exact ⟨valid, sameWorkspace, noneMissing⟩
    simp [apply, missing, applied]

/-- A call that fails leaves every field as it was, the access index among them, and no
event gets as far as to lack its channel. -/
theorem apply_refused_unchanged (state : WorkspaceState) (signed : SignedEvent) :
    (∃ next, state.apply signed = (.ok (), next)) ∨
      ∃ raised, state.apply signed = (.error raised, state) ∧ raised ≠ .missingChannel := by
  cases checked : state.missingParentIds signed with
  | error raised =>
      refine Or.inr ⟨raised, by rw [apply, checked], ?_⟩
      rintro rfl
      unfold missingParentIds at checked
      cases valid : validateSignedEventIds signed with
      | error refusal => simp [valid, Except.mapError, bind, Except.bind] at checked
      | ok done => simp [valid, Except.mapError] at checked
  | ok missing =>
      cases missing with
      | cons parentId others =>
          exact Or.inr ⟨_, by rw [apply, checked], by simp⟩
      | nil =>
          rw [apply, checked]
          rcases applyReadyEvent_cases state signed with
            ⟨-, failed⟩ | ⟨refusal, -, -, failed⟩ | ⟨next, -, -, applied⟩
          · exact Or.inr ⟨_, failed, by simp⟩
          · exact Or.inr ⟨_, failed, by simp⟩
          · exact Or.inl ⟨next, applied⟩

end WorkspaceState

end Chaft
