import Chaft.Core.Reachable

/-!
# Invites in the views and in the access index

An invite is stored twice.  The view shows a status, the index keeps a
revocation flag and counts claims.  A claim moves the view to the claiming
device but leaves the invitee of the index alone, so the two agree about the
invitee only while the invite is open.
-/

namespace Chaft

open Keyed Outcome Transition

/-- The view of an invite shows what the index holds about it. -/
structure InviteShows (view : WorkspaceInviteView) (access : WorkspaceInviteAccess) : Prop where
  revoked : view.status = .revoked ↔ access.revoked = true
  invited :
    view.status = .invited ↔ access.revoked = false ∧ access.claimCount < access.maxClaims
  maxClaims : view.maxClaims = access.maxClaims
  /-- The counts agree while the invite is open. -/
  claimCount : view.status = .invited → view.claimCount = access.claimCount
  /-- An invite without a capability key admits one claim. -/
  single : view.capabilityPublicKey.isEmpty = true → access.maxClaims = 1
  /-- Both sides wait for the same device. -/
  invitee :
    view.status = .invited →
      access.inviteeDeviceId =
        if view.capabilityPublicKey.isEmpty then some view.inviteeDeviceId else none

private theorem oneClaim_pos : (0 : UInt32) < 1 := by decide

/-- At least one claim is admitted. -/
theorem effectiveWorkspaceInviteMaxClaims_pos (maxClaims : Option UInt32) :
    0 < effectiveWorkspaceInviteMaxClaims maxClaims := by
  cases maxClaims with
  | none => exact oneClaim_pos
  | some maxClaims =>
      rw [effectiveWorkspaceInviteMaxClaims, normalizeWorkspaceInviteMaxClaims]
      by_cases isZero : maxClaims = 0
      · rw [if_pos isZero]
        exact oneClaim_pos
      · rw [if_neg isZero]
        exact UInt32.pos_iff_ne_zero.mpr isZero

/-- A text that is required is not empty. -/
theorem not_isEmpty_of_required
    {label value : String} (required : validateEventTextRequired label value = .ok ()) :
    value.isEmpty = false := by
  rw [validateEventTextRequired, ensure_eq_ok_iff] at required
  by_contra isEmpty
  have blank : value = "" := by simpa using isEmpty
  exact required (by rw [blank]; rfl)

namespace InviteShows

variable {view : WorkspaceInviteView} {access : WorkspaceInviteAccess}

/-- A new invite is open. -/
theorem fresh
    (invited : view.status = .invited) (unrevoked : access.revoked = false)
    (viewCount : view.claimCount = 0) (accessCount : access.claimCount = 0)
    (sameMax : view.maxClaims = access.maxClaims) (positive : 0 < access.maxClaims)
    (single : view.capabilityPublicKey.isEmpty = true → access.maxClaims = 1)
    (invitee :
      access.inviteeDeviceId =
        if view.capabilityPublicKey.isEmpty then some view.inviteeDeviceId else none) :
    InviteShows view access where
  revoked := by simp [invited, unrevoked]
  invited := by simp [invited, unrevoked, accessCount, positive]
  maxClaims := sameMax
  claimCount := fun _ => by rw [viewCount, accessCount]
  single := single
  invitee := fun _ => invitee

/-- An event of the invitee closes an open invite on both sides.  An invite that is
closed already has no claims left to lose. -/
theorem marked
    (shows : InviteShows view access) (signed : SignedEvent) :
    InviteShows
      (if view.inviteeDeviceId = signed.event.authorDeviceId ∧
          view.status = .invited ∧ view.capabilityPublicKey.isEmpty then
        { view with
          status := .accepted
          claimCount := view.maxClaims
          acceptedEventId := some signed.eventId
          acceptedPhysicalMs := some signed.event.timestamp.physicalMs }
      else
        view)
      (if access.inviteeDeviceId = some signed.event.authorDeviceId then
        { access with claimCount := access.maxClaims }
      else
        access) := by
  by_cases isOpen : view.status = .invited
  · have waitsFor := shows.invitee isOpen
    by_cases meant :
        view.inviteeDeviceId = signed.event.authorDeviceId ∧ view.capabilityPublicKey.isEmpty
    · obtain ⟨isInvitee, keyless⟩ := meant
      have unrevoked := (shows.invited.mp isOpen).1
      rw [if_pos ⟨isInvitee, isOpen, keyless⟩, waitsFor, if_pos keyless, isInvitee, if_pos rfl]
      exact
        { revoked := by simp [unrevoked]
          invited := by simp
          maxClaims := shows.maxClaims
          claimCount := by simp
          single := shows.single
          invitee := by simp }
    · have viewKept :
          ¬ (view.inviteeDeviceId = signed.event.authorDeviceId ∧
            view.status = .invited ∧ view.capabilityPublicKey.isEmpty) :=
        fun all => meant ⟨all.1, all.2.2⟩
      have accessKept : access.inviteeDeviceId ≠ some signed.event.authorDeviceId := by
        rw [waitsFor]
        split
        · rename_i keyless
          exact fun same => meant ⟨Option.some.inj same, keyless⟩
        · simp
      rw [if_neg viewKept, if_neg accessKept]
      exact shows
  · rw [if_neg fun all => isOpen all.2.1]
    split
    · exact
        { revoked := shows.revoked
          invited := by simp [isOpen]
          maxClaims := shows.maxClaims
          claimCount := fun contrary => absurd contrary isOpen
          single := shows.single
          invitee := fun contrary => absurd contrary isOpen }
    · exact shows

theorem claimed
    (shows : InviteShows view access) (unrevoked : access.revoked = false)
    (left : access.claimCount < access.maxClaims)
    (inviteeDeviceId : DeviceId) (requestId : String) (signed : SignedEvent) :
    InviteShows
      (let counted : WorkspaceInviteView :=
          { view with
            inviteeDeviceId := inviteeDeviceId
            requestId := some requestId
            claimCount := saturatingAdd view.claimCount 1 }
        if counted.maxClaims ≤ counted.claimCount then
          { counted with
            status := .accepted
            acceptedEventId := some signed.eventId
            acceptedPhysicalMs := some signed.event.timestamp.physicalMs
            resolvedEventId := some signed.eventId
            resolvedByDeviceId := some signed.event.authorDeviceId
            resolvedPhysicalMs := some signed.event.timestamp.physicalMs }
        else
          counted)
      { access with claimCount := saturatingAdd access.claimCount 1 } := by
  have isOpen : view.status = .invited := shows.invited.mpr ⟨unrevoked, left⟩
  have sameCount := shows.claimCount isOpen
  have sameMax := shows.maxClaims
  dsimp only
  split
  · rename_i spent
    rw [sameCount, sameMax] at spent
    exact
      { revoked := by simp [unrevoked]
        invited := by simpa using fun _ => spent
        maxClaims := sameMax
        claimCount := by simp
        single := shows.single
        invitee := by simp }
  · rename_i unspent
    rw [sameCount, sameMax, UInt32.not_le] at unspent
    exact
      { revoked := by simp [isOpen, unrevoked]
        invited := by simp [isOpen, unrevoked, unspent]
        maxClaims := sameMax
        claimCount := fun _ => by rw [sameCount]
        single := shows.single
        invitee := by
          -- a single claim would have been the last one
          intro _
          have keyed : view.capabilityPublicKey.isEmpty = false := by
            by_contra keyless
            rw [Bool.not_eq_false] at keyless
            have counted := saturatingAdd_one_toNat left
            rw [shows.single keyless, UInt32.lt_iff_toNat_lt] at left unspent
            rw [counted] at unspent
            have one : (1 : UInt32).toNat = 1 := rfl
            omega
          simpa [keyed] using shows.invitee isOpen }

theorem resolved
    (shows : InviteShows view access) (signed : SignedEvent) :
    InviteShows
      { view with
        status := .revoked
        resolvedEventId := some signed.eventId
        resolvedByDeviceId := some signed.event.authorDeviceId
        resolvedPhysicalMs := some signed.event.timestamp.physicalMs }
      { access with revoked := true } where
  revoked := by simp
  invited := by simp
  maxClaims := shows.maxClaims
  claimCount := by simp
  single := shows.single
  invitee := by simp

end InviteShows

namespace WorkspaceState

/-- Every invite has a view and an entry, and the view shows the entry. -/
def InvitesMatch
    (invites : HashMap String WorkspaceInviteView)
    (accesses : HashMap String WorkspaceInviteAccess) : Prop :=
  ∀ inviteId : String, Option.Rel InviteShows invites[inviteId]? accesses[inviteId]?

section Steps

variable {state written : WorkspaceState} {index : WorkspaceAccessIndex} {signed : SignedEvent}

theorem markInvitesAcceptedByEvent_of_managesInvites
    (manages : WorkspaceAccessIndex.managesInvites signed.event.body = true) :
    state.markInvitesAcceptedByEvent signed = state := by
  rw [markInvitesAcceptedByEvent, if_pos manages]

/-- Marking is for all events but those about invites. -/
theorem InvitesMatch.marked
    (same : InvitesMatch state.invites index.invites)
    (otherKind : WorkspaceAccessIndex.managesInvites signed.event.body = false) :
    InvitesMatch (state.markInvitesAcceptedByEvent signed).invites
      (WorkspaceAccessIndex.exhaustInvitesOf index.invites signed) := by
  intro inviteId
  simp only [markInvitesAcceptedByEvent, WorkspaceAccessIndex.exhaustInvitesOf, otherKind,
    Bool.false_eq_true, if_false, Std.ExtTreeMap.getElem?_map]
  exact rel_map (same inviteId) fun view access _ _ shows => shows.marked signed

theorem InvitesMatch.after
    (same : InvitesMatch state.invites index.invites)
    (valid : validateEventBodyPayloadSizes signed.event.body = .ok ())
    (permitted : index.authorizeBody signed = .ok ())
    (finished : (state.markInvitesAcceptedByEvent signed).writeViews signed = .ok written) :
    InvitesMatch written.invites (WorkspaceAccessIndex.invitesAfter index.invites signed) := by
  unfold writeViews at finished
  unfold WorkspaceAccessIndex.invitesAfter
  cases body : signed.event.body with
  | workspaceInviteRecorded recordedId inviteeDeviceId displayName role requestId =>
      rw [markInvitesAcceptedByEvent_of_managesInvites (by rw [body]; rfl)] at finished
      simp only [body] at finished
      intro inviteId
      have shows := same inviteId
      split at finished
      all_goals
        cases finished
        simp only [approveJoinRequestFromInvite, Std.ExtTreeMap.getElem?_insert]
        split
        · exact .some (InviteShows.fresh rfl rfl rfl rfl rfl oneClaim_pos (by simp) (by simp))
        · exact shows
  | workspaceInviteCapabilityCreated createdId displayName role expiresAt capabilityPublicKey
      syncExpectation maxClaims =>
      rw [markInvitesAcceptedByEvent_of_managesInvites (by rw [body]; rfl)] at finished
      simp only [body] at finished
      simp only [validateEventBodyPayloadSizes, body, bind_eq_ok_iff] at valid
      obtain ⟨_, -, _, -, _, -, _, -, _, -, _, required, -⟩ := valid
      have keyed := not_isEmpty_of_required required
      cases finished
      intro inviteId
      have shows := same inviteId
      simp only [Std.ExtTreeMap.getElem?_insert]
      split
      · exact .some (InviteShows.fresh rfl rfl rfl rfl rfl
          (effectiveWorkspaceInviteMaxClaims_pos maxClaims) (by simp [keyed]) (by simp [keyed]))
      · exact shows
  | workspaceInviteClaimed claimedId inviteeDeviceId requestId =>
      rw [markInvitesAcceptedByEvent_of_managesInvites (by rw [body]; rfl)] at finished
      simp only [body] at finished
      simp only [WorkspaceAccessIndex.authorizeBody, body, bind_eq_ok_iff, okOr_eq_ok_iff,
        ensure_eq_ok_iff] at permitted
      obtain ⟨_, -, _, -, access, present, _, unrevoked, left⟩ := permitted
      cases finished
      intro inviteId
      have shows := same inviteId
      simp only [approveJoinRequestFromInvite, getElem?_modify_same]
      split
      · rename_i isClaimed
        apply rel_map shows
        intro view found _ isFound shows
        rw [isClaimed, isFound, Option.some.injEq] at present
        rw [present] at shows ⊢
        exact shows.claimed unrevoked left inviteeDeviceId requestId signed
      · exact shows
  | workspaceInviteResolved resolvedId resolution =>
      rw [markInvitesAcceptedByEvent_of_managesInvites (by rw [body]; rfl)] at finished
      simp only [body] at finished
      cases finished
      cases resolution
      intro inviteId
      have shows := same inviteId
      simp only [getElem?_modify_same]
      split
      · exact rel_map shows fun view access _ _ shows => shows.resolved signed
      · exact shows
  | messageCreated | messageReplyCreated | messageCreatedEncrypted
  | messageReplyCreatedEncrypted =>
      have marked :
          InvitesMatch (state.markInvitesAcceptedByEvent signed).invites
            (WorkspaceAccessIndex.exhaustInvitesOf index.invites signed) :=
        same.marked (by rw [body]; rfl)
      simp only [body, insertMessage, bind_eq_ok_iff] at finished
      obtain ⟨channelId, _, stored⟩ := finished
      cases stored
      exact marked
  | _ =>
      have marked :
          InvitesMatch (state.markInvitesAcceptedByEvent signed).invites
            (WorkspaceAccessIndex.exhaustInvitesOf index.invites signed) :=
        same.marked (by rw [body]; rfl)
      simp only [body, modifyMessage] at finished
      cases finished
      exact marked

end Steps

end WorkspaceState

end Chaft
