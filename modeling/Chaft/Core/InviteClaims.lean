import Chaft.Core.AccessEffects
import Chaft.Library.Run

/-!
# Spent and revoked invites

The entry of an invite counts its claims and remembers its revocation.  A
second creation event under the same ID writes a fresh entry over it, which
gives claims back and forgets a revocation.  Without such events an invite
admits no more claims than its creation says, and none once it is resolved.
-/

namespace Chaft

open Keyed Outcome Transition

/-- The invite that an event creates and the claims it admits. -/
def createdInvite (event : SignedEvent) : Option (String × UInt32) :=
  match event.event.body with
  | .workspaceInviteRecorded inviteId .. => some (inviteId, 1)
  | .workspaceInviteCapabilityCreated inviteId _ _ _ _ _ maxClaims =>
      some (inviteId, effectiveWorkspaceInviteMaxClaims maxClaims)
  | _ => none

/-- The invite that an event claims. -/
def claimedInvite (event : SignedEvent) : Option String :=
  match event.event.body with
  | .workspaceInviteClaimed inviteId .. => some inviteId
  | _ => none

/-- The invite that an event resolves. -/
def resolvedInvite (event : SignedEvent) : Option String :=
  match event.event.body with
  | .workspaceInviteResolved inviteId _ => some inviteId
  | _ => none

def admittedBy (inviteId : String) (event : SignedEvent) : Option UInt32 :=
  match createdInvite event with
  | some (createdId, maxClaims) => if createdId = inviteId then some maxClaims else none
  | none => none

/-- The claims that the first creation of an invite admits. -/
def admittedClaims (inviteId : String) (events : List SignedEvent) : Option UInt32 :=
  events.findSome? (admittedBy inviteId)

/-- The number of claims of an invite. -/
def claimsOf (inviteId : String) (events : List SignedEvent) : Nat :=
  events.countP fun event => decide (claimedInvite event = some inviteId)

/-- An invite has no more claims than its first creation admits, and none after its
resolution. -/
structure SpentForGood (inviteId : String) (events : List SignedEvent) : Prop where
  claims :
    claimsOf inviteId events ≤ ((admittedClaims inviteId events).map UInt32.toNat).getD 0
  resolved :
    events.Pairwise fun earlier later =>
      resolvedInvite earlier = some inviteId → claimedInvite later ≠ some inviteId

/-- The three kinds of events about invites exclude each other. -/
theorem createdInvite_apart
    {event : SignedEvent} {created : String × UInt32}
    (creates : createdInvite event = some created) :
    claimedInvite event = none ∧ resolvedInvite event = none := by
  unfold createdInvite at creates
  unfold claimedInvite resolvedInvite
  cases body : event.event.body with
  | workspaceInviteRecorded => exact ⟨rfl, rfl⟩
  | workspaceInviteCapabilityCreated => exact ⟨rfl, rfl⟩
  | _ => simp [body] at creates

theorem claimedInvite_apart
    {event : SignedEvent} {inviteId : String} (claims : claimedInvite event = some inviteId) :
    createdInvite event = none ∧ resolvedInvite event = none := by
  unfold claimedInvite at claims
  unfold createdInvite resolvedInvite
  cases body : event.event.body with
  | workspaceInviteClaimed => exact ⟨rfl, rfl⟩
  | _ => simp [body] at claims

theorem resolvedInvite_apart
    {event : SignedEvent} {inviteId : String} (resolves : resolvedInvite event = some inviteId) :
    createdInvite event = none ∧ claimedInvite event = none := by
  unfold resolvedInvite at resolves
  unfold createdInvite claimedInvite
  cases body : event.event.body with
  | workspaceInviteResolved => exact ⟨rfl, rfl⟩
  | _ => simp [body] at resolves

theorem admittedBy_eq_some
    {event : SignedEvent} {inviteId : String} {maxClaims : UInt32}
    (creates : createdInvite event = some (inviteId, maxClaims)) :
    admittedBy inviteId event = some maxClaims := by
  rw [admittedBy, creates]
  exact if_pos rfl

theorem admittedBy_eq_none
    {event : SignedEvent} (inviteId : String) (creates : createdInvite event = none) :
    admittedBy inviteId event = none := by
  rw [admittedBy, creates]

theorem claimsOf_append (inviteId : String) (events : List SignedEvent) (event : SignedEvent) :
    claimsOf inviteId (events ++ [event]) =
      claimsOf inviteId events + if claimedInvite event = some inviteId then 1 else 0 := by
  rw [claimsOf, List.countP_append, List.countP_singleton]
  simp [claimsOf]

theorem admittedClaims_append
    (inviteId : String) (events : List SignedEvent) (event : SignedEvent) :
    admittedClaims inviteId (events ++ [event]) =
      (admittedClaims inviteId events).or (admittedBy inviteId event) := by
  rw [admittedClaims, List.findSome?_append]
  simp [admittedClaims]

namespace WorkspaceAccessIndex

/-- The event creates no invite over one that is revoked or has fewer claims left
than the new one admits. -/
def ReopensNoInvite (index : WorkspaceAccessIndex) (event : SignedEvent) : Prop :=
  ∀ (inviteId : String) (maxClaims : UInt32) (invite : WorkspaceInviteAccess),
    createdInvite event = some (inviteId, maxClaims) →
      index.invites[inviteId]? = some invite →
        invite.revoked = false ∧
          maxClaims.toNat + invite.claimCount.toNat ≤ invite.maxClaims.toNat

/-- The event neither creates nor claims nor resolves the invite. -/
structure PassesBy (inviteId : String) (event : SignedEvent) : Prop where
  notAdmitted : admittedBy inviteId event = none
  notClaimed : claimedInvite event ≠ some inviteId
  notResolved : resolvedInvite event ≠ some inviteId

/-- What an accepted event does to the entry of one invite. -/
inductive InviteChange
    (inviteId : String) (event : SignedEvent) (before : Option WorkspaceInviteAccess) :
    Option WorkspaceInviteAccess → Prop
  | created (maxClaims : UInt32) (inviteeDeviceId : Option DeviceId)
      (creates : createdInvite event = some (inviteId, maxClaims)) :
      InviteChange inviteId event before
        (some
          { maxClaims := maxClaims
            claimCount := 0
            revoked := false
            inviteeDeviceId := inviteeDeviceId })
  | claimed (invite : WorkspaceInviteAccess)
      (claims : claimedInvite event = some inviteId) (present : before = some invite)
      (unrevoked : invite.revoked = false) (left : invite.claimCount < invite.maxClaims) :
      InviteChange inviteId event before
        (some { invite with claimCount := saturatingAdd invite.claimCount 1 })
  | resolved (invite : WorkspaceInviteAccess)
      (resolves : resolvedInvite event = some inviteId) (present : before = some invite) :
      InviteChange inviteId event before (some { invite with revoked := true })
  | exhausted (invite : WorkspaceInviteAccess)
      (passes : PassesBy inviteId event) (present : before = some invite) :
      InviteChange inviteId event before (some { invite with claimCount := invite.maxClaims })
  | kept (passes : PassesBy inviteId event) : InviteChange inviteId event before before

section Steps

variable {index : WorkspaceAccessIndex} {event : SignedEvent}

/-- Events that are not about invites exhaust an invite or leave it alone. -/
theorem inviteChange_of_exhaust
    {inviteId : String} (passes : PassesBy inviteId event) :
    InviteChange inviteId event index.invites[inviteId]?
      (exhaustInvitesOf index.invites event)[inviteId]? := by
  unfold exhaustInvitesOf
  split
  · exact .kept passes
  · rw [Std.ExtTreeMap.getElem?_map]
    cases present : index.invites[inviteId]? with
    | none => exact .kept passes
    | some invite =>
        rw [Option.map_some]
        split
        · exact .exhausted invite passes rfl
        · exact .kept passes

theorem inviteChange_of_permitted
    (permitted : index.authorizeBody event = .ok ()) (inviteId : String) :
    InviteChange inviteId event index.invites[inviteId]?
      (invitesAfter index.invites event)[inviteId]? := by
  unfold authorizeBody at permitted
  unfold invitesAfter
  cases body : event.event.body with
  | workspaceInviteRecorded createdId inviteeDeviceId =>
      simp only [Std.ExtTreeMap.getElem?_insert, Std.LawfulEqCmp.compare_eq_iff_eq]
      by_cases same : createdId = inviteId
      · rw [if_pos same]
        exact .created 1 (some inviteeDeviceId) (by rw [createdInvite, body, same])
      · rw [if_neg same]
        exact .kept
          { notAdmitted := by simp [admittedBy, createdInvite, body, same]
            notClaimed := by simp [claimedInvite, body]
            notResolved := by simp [resolvedInvite, body] }
  | workspaceInviteCapabilityCreated createdId displayName role expiresAt capabilityPublicKey
      syncExpectation maxClaims =>
      simp only [Std.ExtTreeMap.getElem?_insert, Std.LawfulEqCmp.compare_eq_iff_eq]
      by_cases same : createdId = inviteId
      · rw [if_pos same]
        exact .created (effectiveWorkspaceInviteMaxClaims maxClaims) none
          (by rw [createdInvite, body, same])
      · rw [if_neg same]
        exact .kept
          { notAdmitted := by simp [admittedBy, createdInvite, body, same]
            notClaimed := by simp [claimedInvite, body]
            notResolved := by simp [resolvedInvite, body] }
  | workspaceInviteClaimed claimedId =>
      simp only [getElem?_modify_same]
      by_cases same : claimedId = inviteId
      · simp only [body, bind_eq_ok_iff, okOr_eq_ok_iff, ensure_eq_ok_iff] at permitted
        obtain ⟨_, -, _, -, invite, present, _, unrevoked, left⟩ := permitted
        rw [same] at present
        rw [if_pos same, present, Option.map_some]
        exact .claimed invite (by rw [claimedInvite, body, same]) rfl unrevoked left
      · rw [if_neg same]
        exact .kept
          { notAdmitted := by simp [admittedBy, createdInvite, body]
            notClaimed := by simp [claimedInvite, body, same]
            notResolved := by simp [resolvedInvite, body] }
  | workspaceInviteResolved resolvedId resolution =>
      simp only [getElem?_modify_same]
      by_cases same : resolvedId = inviteId
      · simp only [body, bind_eq_ok_iff, ensure_eq_ok_iff, mem_iff_exists_getElem?] at permitted
        obtain ⟨_, -, _, -, invite, present⟩ := permitted
        rw [same] at present
        rw [if_pos same, present, Option.map_some]
        exact .resolved invite (by rw [resolvedInvite, body, same]) rfl
      · rw [if_neg same]
        exact .kept
          { notAdmitted := by simp [admittedBy, createdInvite, body]
            notClaimed := by simp [claimedInvite, body]
            notResolved := by simp [resolvedInvite, body, same] }
  | _ =>
      exact inviteChange_of_exhaust
        { notAdmitted := by simp [admittedBy, createdInvite, body]
          notClaimed := by simp [claimedInvite, body]
          notResolved := by simp [resolvedInvite, body] }

end Steps

/-- What the entry of an invite says about the events that wrote it. -/
structure Tallies
    (inviteId : String) (events : List SignedEvent) (entry : Option WorkspaceInviteAccess) :
    Prop where
  /-- Claims and what is left stay within what the first creation admits. -/
  claims :
    ∀ invite, entry = some invite →
      ∃ first, admittedClaims inviteId events = some first ∧
        invite.claimCount.toNat ≤ invite.maxClaims.toNat ∧
          claimsOf inviteId events + invite.maxClaims.toNat ≤
            first.toNat + invite.claimCount.toNat
  unknown :
    entry = none → claimsOf inviteId events = 0 ∧ admittedClaims inviteId events = none
  revoked :
    ∀ event ∈ events, resolvedInvite event = some inviteId →
      ∃ invite, entry = some invite ∧ invite.revoked = true
  closed :
    events.Pairwise fun earlier later =>
      resolvedInvite earlier = some inviteId → claimedInvite later ≠ some inviteId

theorem tallies_new (inviteId : String) (workspaceId : WorkspaceId) :
    Tallies inviteId [] (new workspaceId).invites[inviteId]? where
  claims := by simp [new]
  unknown := by simp [claimsOf, admittedClaims]
  revoked := by simp
  closed := .nil

section Tallying

variable {inviteId : String} {events : List SignedEvent} {event : SignedEvent}
  {before : Option WorkspaceInviteAccess}

/-- A claim extends the run only if the invite is not revoked. -/
theorem Tallies.closed_append
    (tallies : Tallies inviteId events before)
    (unrevoked :
      claimedInvite event = some inviteId →
        ∃ invite, before = some invite ∧ invite.revoked = false) :
    (events ++ [event]).Pairwise fun earlier later =>
      resolvedInvite earlier = some inviteId → claimedInvite later ≠ some inviteId := by
  rw [List.pairwise_append]
  refine ⟨tallies.closed, List.pairwise_singleton _ _, ?_⟩
  intro earlier isEarlier later isEvent resolves claims
  rw [List.mem_singleton] at isEvent
  rw [isEvent] at claims
  obtain ⟨invite, present, isOpen⟩ := unrevoked claims
  obtain ⟨same, isSame, isRevoked⟩ := tallies.revoked earlier isEarlier resolves
  rw [present, Option.some.injEq] at isSame
  rw [← isSame, isOpen] at isRevoked
  cases isRevoked

/-- A revocation is remembered by every later entry that is as revoked. -/
theorem Tallies.revoked_append
    (tallies : Tallies inviteId events before) {after : Option WorkspaceInviteAccess}
    (kept :
      ∀ invite, before = some invite → invite.revoked = true →
        ∃ next, after = some next ∧ next.revoked = true)
    (written :
      resolvedInvite event = some inviteId → ∃ next, after = some next ∧ next.revoked = true) :
    ∀ other ∈ events ++ [event], resolvedInvite other = some inviteId →
      ∃ next, after = some next ∧ next.revoked = true := by
  intro other member resolves
  rcases List.mem_append.mp member with earlier | isEvent
  · obtain ⟨invite, present, isRevoked⟩ := tallies.revoked other earlier resolves
    exact kept invite present isRevoked
  · rw [List.mem_singleton.mp isEvent] at resolves
    exact written resolves

/-- The new entry admits no more than the old one had left. -/
theorem Tallies.created
    (tallies : Tallies inviteId events before) {maxClaims : UInt32}
    (inviteeDeviceId : Option DeviceId)
    (creates : createdInvite event = some (inviteId, maxClaims))
    (guarded :
      ∀ invite, before = some invite →
        invite.revoked = false ∧
          maxClaims.toNat + invite.claimCount.toNat ≤ invite.maxClaims.toNat) :
    Tallies inviteId (events ++ [event])
      (some
        { maxClaims := maxClaims
          claimCount := 0
          revoked := false
          inviteeDeviceId := inviteeDeviceId }) := by
  obtain ⟨notClaimed, notResolved⟩ := createdInvite_apart creates
  have zero : (0 : UInt32).toNat = 0 := rfl
  have sameClaims : claimsOf inviteId (events ++ [event]) = claimsOf inviteId events := by
    rw [claimsOf_append, notClaimed]
    simp
  refine
    { claims := ?_
      unknown := by simp
      revoked := ?_
      closed := tallies.closed_append (by simp [notClaimed]) }
  · intro invite isInvite
    rw [← Option.some.inj isInvite, sameClaims, admittedClaims_append,
      admittedBy_eq_some creates]
    cases present : before with
    | none =>
        obtain ⟨noClaims, notAdmitted⟩ := tallies.unknown present
        refine ⟨maxClaims, by rw [notAdmitted, Option.none_or], ?_⟩
        dsimp only
        omega
    | some earlier =>
        obtain ⟨first, isFirst, within, enough⟩ := tallies.claims earlier present
        have fewer := (guarded earlier present).2
        refine ⟨first, by rw [isFirst, Option.some_or], ?_⟩
        dsimp only
        omega
  · refine tallies.revoked_append ?_ (by simp [notResolved])
    intro invite present isRevoked
    rw [(guarded invite present).1] at isRevoked
    cases isRevoked

theorem Tallies.claimed
    {invite : WorkspaceInviteAccess} (tallies : Tallies inviteId events (some invite))
    (claims : claimedInvite event = some inviteId) (unrevoked : invite.revoked = false)
    (left : invite.claimCount < invite.maxClaims) :
    Tallies inviteId (events ++ [event])
      (some { invite with claimCount := saturatingAdd invite.claimCount 1 }) := by
  obtain ⟨notCreated, notResolved⟩ := claimedInvite_apart claims
  refine
    { claims := ?_
      unknown := by simp
      revoked := tallies.revoked_append ?_ (by simp [notResolved])
      closed := tallies.closed_append fun _ => ⟨invite, rfl, unrevoked⟩ }
  · intro next isNext
    obtain ⟨first, isFirst, within, enough⟩ := tallies.claims invite rfl
    have counted := saturatingAdd_one_toNat left
    rw [UInt32.lt_iff_toNat_lt] at left
    rw [← Option.some.inj isNext, admittedClaims_append, isFirst, Option.some_or,
      claimsOf_append, if_pos claims]
    refine ⟨first, rfl, ?_⟩
    dsimp only
    omega
  · intro same isSame isRevoked
    rw [← Option.some.inj isSame, unrevoked] at isRevoked
    cases isRevoked

theorem Tallies.resolved
    {invite : WorkspaceInviteAccess} (tallies : Tallies inviteId events (some invite))
    (resolves : resolvedInvite event = some inviteId) :
    Tallies inviteId (events ++ [event]) (some { invite with revoked := true }) := by
  obtain ⟨notCreated, notClaimed⟩ := resolvedInvite_apart resolves
  refine
    { claims := ?_
      unknown := by simp
      revoked := fun _ _ _ => ⟨_, rfl, rfl⟩
      closed := tallies.closed_append (by simp [notClaimed]) }
  intro next isNext
  obtain ⟨first, isFirst, within, enough⟩ := tallies.claims invite rfl
  rw [← Option.some.inj isNext, admittedClaims_append, isFirst, Option.some_or,
    claimsOf_append, notClaimed]
  exact ⟨first, rfl, within, by simpa using enough⟩

/-- Events of other kinds count nothing; they may take away what is left. -/
theorem Tallies.passed
    (tallies : Tallies inviteId events before) (passes : PassesBy inviteId event)
    {after : Option WorkspaceInviteAccess}
    (unknown : after = none → before = none)
    (shrunk :
      ∀ next, after = some next →
        ∃ invite, before = some invite ∧ next.maxClaims = invite.maxClaims ∧
          next.revoked = invite.revoked ∧
            (next.claimCount = invite.claimCount ∨ next.claimCount = next.maxClaims)) :
    Tallies inviteId (events ++ [event]) after := by
  have sameClaims : claimsOf inviteId (events ++ [event]) = claimsOf inviteId events := by
    rw [claimsOf_append, if_neg passes.notClaimed, Nat.add_zero]
  have sameAdmitted :
      admittedClaims inviteId (events ++ [event]) = admittedClaims inviteId events := by
    rw [admittedClaims_append, passes.notAdmitted, Option.or_none]
  refine
    { claims := ?_
      unknown := ?_
      revoked := tallies.revoked_append ?_ fun resolves => absurd resolves passes.notResolved
      closed := tallies.closed_append fun claims => absurd claims passes.notClaimed }
  · intro next isNext
    obtain ⟨invite, present, sameMax, -, counted⟩ := shrunk next isNext
    obtain ⟨first, isFirst, within, enough⟩ := tallies.claims invite present
    rw [sameClaims, sameAdmitted]
    refine ⟨first, isFirst, ?_⟩
    rcases counted with same | full
    · rw [same, sameMax]
      exact ⟨within, enough⟩
    · rw [full, sameMax]
      omega
  · intro isNone
    rw [sameClaims, sameAdmitted]
    exact tallies.unknown (unknown isNone)
  · intro invite present isRevoked
    cases isNext : after with
    | none =>
        rw [unknown isNext] at present
        cases present
    | some next =>
        obtain ⟨same, isSame, -, sameRevoked, -⟩ := shrunk next isNext
        rw [present, Option.some.injEq] at isSame
        exact ⟨next, rfl, by rw [sameRevoked, ← isSame, isRevoked]⟩

theorem Tallies.change
    {after : Option WorkspaceInviteAccess}
    (tallies : Tallies inviteId events before)
    (change : InviteChange inviteId event before after)
    (guarded :
      ∀ maxClaims invite, createdInvite event = some (inviteId, maxClaims) →
        before = some invite →
          invite.revoked = false ∧
            maxClaims.toNat + invite.claimCount.toNat ≤ invite.maxClaims.toNat) :
    Tallies inviteId (events ++ [event]) after := by
  cases change with
  | created maxClaims inviteeDeviceId creates =>
      exact tallies.created inviteeDeviceId creates fun invite =>
        guarded maxClaims invite creates
  | claimed invite claims present unrevoked left =>
      rw [present] at tallies
      exact tallies.claimed claims unrevoked left
  | resolved invite resolves present =>
      rw [present] at tallies
      exact tallies.resolved resolves
  | exhausted invite passes present =>
      refine tallies.passed passes (by simp) ?_
      intro next isNext
      rw [← Option.some.inj isNext]
      exact ⟨invite, present, rfl, rfl, Or.inr rfl⟩
  | kept passes =>
      refine tallies.passed passes id ?_
      intro next isNext
      exact ⟨next, isNext, rfl, rfl, Or.inl rfl⟩

theorem Tallies.spentForGood
    (tallies : Tallies inviteId events before) : SpentForGood inviteId events where
  claims := by
    cases present : before with
    | none =>
        rw [(tallies.unknown present).1]
        exact Nat.zero_le _
    | some invite =>
        obtain ⟨first, isFirst, within, enough⟩ := tallies.claims invite present
        rw [isFirst, Option.map_some, Option.getD_some]
        omega
  resolved := tallies.closed

end Tallying

/-- In a run whose creation events reopen no invite, every invite is spent and
revoked for good. -/
theorem invites_spentForGood
    (workspaceId : WorkspaceId) (events : List SignedEvent) (index : WorkspaceAccessIndex)
    (ran : GuardedRun authorizeAndApply ReopensNoInvite (new workspaceId) events index)
    (inviteId : String) :
    SpentForGood inviteId events := by
  have tallied : Tallies inviteId events index.invites[inviteId]? := by
    induction ran with
    | start => exact tallies_new inviteId workspaceId
    | extend earlier guarded accepted inductionHypothesis =>
        rename_i before middle next event
        rw [authorizeAndApply_eq_ok_iff, authorize_eq_ok_iff] at accepted
        obtain ⟨⟨-, -, -, permitted⟩, rfl⟩ := accepted
        rw [applyAuthorized_invites]
        exact inductionHypothesis.change (inviteChange_of_permitted permitted inviteId)
          fun maxClaims invite => guarded inviteId maxClaims invite
  exact tallied.spentForGood

/-- The root creates its workspace. -/
def homeCreated : SignedEvent :=
  draftEvent "e0" "root" none [] (.workspaceCreated "home")

/-- The root records an invite for one guest. -/
def guestInvited (eventId parent : String) : SignedEvent :=
  draftEvent eventId "root" none [parent]
    (.workspaceInviteRecorded "i" ⟨"guest"⟩ "Guest" .member none "" "" "")

/-- The root lets the guest in. -/
def guestClaims (eventId parent : String) : SignedEvent :=
  draftEvent eventId "root" none [parent] (.workspaceInviteClaimed "i" ⟨"guest"⟩ "r")

/-- The root revokes the invite. -/
def guestRevoked (eventId parent : String) : SignedEvent :=
  draftEvent eventId "root" none [parent] (.workspaceInviteResolved "i" .revoked)

/-- A claimed invite has no claim left. -/
theorem invites_spentForGood_guest :
    SpentForGood "i" [homeCreated, guestInvited "e1" "e0", guestClaims "e2" "e1"] := by
  have created :
      (new ⟨"w"⟩).authorizeAndApply homeCreated =
        .ok ((new ⟨"w"⟩).applyAuthorized homeCreated) := by
    decide +kernel
  have invited :
      ((new ⟨"w"⟩).applyAuthorized homeCreated).authorizeAndApply (guestInvited "e1" "e0") =
        .ok (((new ⟨"w"⟩).applyAuthorized homeCreated).applyAuthorized
          (guestInvited "e1" "e0")) := by
    decide +kernel
  have claimed :
      (((new ⟨"w"⟩).applyAuthorized homeCreated).applyAuthorized
          (guestInvited "e1" "e0")).authorizeAndApply (guestClaims "e2" "e1") =
        .ok ((((new ⟨"w"⟩).applyAuthorized homeCreated).applyAuthorized
          (guestInvited "e1" "e0")).applyAuthorized (guestClaims "e2" "e1")) := by
    decide +kernel
  refine invites_spentForGood ⟨"w"⟩ _ _
    (.extend (.extend (.extend .start ?_ created) ?_ invited) ?_ claimed) "i"
  · intro inviteId maxClaims invite creates
    cases creates
  · intro inviteId maxClaims invite creates present
    cases creates
    have unknown : ((new ⟨"w"⟩).applyAuthorized homeCreated).invites["i"]? = none := by
      decide +kernel
    rw [unknown] at present
    cases present
  · intro inviteId maxClaims invite creates
    cases creates

/-- A revoked and spent invite is recorded again and claimed again. -/
theorem invites_not_spentForGood :
    ¬ ∀ (workspaceId : WorkspaceId) (events : List SignedEvent) (index : WorkspaceAccessIndex),
      Run authorizeAndApply (new workspaceId) events index →
        (events.map SignedEvent.eventId).Nodup →
          ∀ inviteId, SpentForGood inviteId events := by
  intro spent
  have finished :
      (Transition.run authorizeAndApply (new ⟨"w"⟩)
        [homeCreated, guestInvited "e1" "e0", guestClaims "e2" "e1", guestRevoked "e3" "e2",
          guestInvited "e4" "e3", guestClaims "e5" "e4"]).isOk = true := by
    decide +kernel
  obtain ⟨index, ran⟩ := exists_run_of_isOk finished
  have claims := (spent ⟨"w"⟩ _ index ran (by decide +kernel) "i").claims
  revert claims
  decide +kernel

/-- No invite is revoked before the workspace is created. -/
example :
    ((new ⟨"w"⟩).authorizeAndApply
      (draftEvent "e0" "root" none [] (.workspaceInviteResolved "i" .revoked))).isOk = false := by
  decide +kernel

end WorkspaceAccessIndex

end Chaft
