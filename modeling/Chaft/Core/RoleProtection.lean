import Chaft.Core.AccessEffects
import Chaft.Library.Run

/-!
# Who can change whose role

Four bodies write the role map: workspace creation, invitation, role update
and removal.  Role updates and removals look at the role their target already
has and ask for an owner when it is privileged.  An invitation looks only at
the role it gives, so it can lower a privileged role that the invitee already
has; `InviteRespectsRoles` excludes exactly that.
-/

namespace Chaft

open Keyed Outcome Transition

attribute [local simp] Unique.exists_iff

namespace WorkspaceAccessIndex

/-- The root device of the index is an owner. -/
def RootIsOwner (index : WorkspaceAccessIndex) : Prop :=
  ∃ rootDeviceId, index.rootDeviceId = some rootDeviceId ∧
    index.roles[rootDeviceId]? = some .owner

/-- Every owner and admin of the first index has the same role in the second. -/
def KeepsPrivilegedRoles (before after : WorkspaceAccessIndex) : Prop :=
  ∀ (deviceId : DeviceId) (role : WorkspaceRole),
    before.roles[deviceId]? = some role → role.IsPrivileged →
      after.roles[deviceId]? = some role

/-- The event does not invite an owner or admin into another role.  Invitations
by an owner are free, except those of the root device. -/
def InviteRespectsRoles (index : WorkspaceAccessIndex) (event : SignedEvent) : Prop :=
  ∀ (inviteeDeviceId : DeviceId) (role existing : WorkspaceRole),
    event.event.body = .memberInvited inviteeDeviceId role →
      index.roles[inviteeDeviceId]? = some existing → existing.IsPrivileged →
        (index.rootDeviceId = some inviteeDeviceId ∨
          index.roles[event.event.authorDeviceId]? ≠ some .owner) →
          role = existing

section Steps

variable {index next : WorkspaceAccessIndex} {event : SignedEvent}

/-- An accepted event leaves a rooted index behind. -/
theorem rootSeen_of_accepted (accepted : index.authorizeAndApply event = .ok next) :
    next.rootSeen = true := by
  rw [authorizeAndApply_eq_ok_iff, authorize_eq_ok_iff] at accepted
  obtain ⟨⟨-, -, -, permitted⟩, rfl⟩ := accepted
  rw [applyAuthorized_rootSeen]
  cases body : event.event.body with
  | workspaceCreated name => simp [rootSeenAfter, body]
  | _ =>
      have rooted := (index.author_of_permitted permitted (by simp [body])).1
      simpa [rootSeenAfter, body] using rooted

theorem rootSeen_of_run
    {workspaceId : WorkspaceId} {history : List SignedEvent}
    (ran : Run authorizeAndApply (new workspaceId) history index) (absorbed : history ≠ []) :
    index.rootSeen = true := by
  cases ran with
  | start => exact absurd rfl absorbed
  | extend _ _ accepted => exact rootSeen_of_accepted accepted

/-- A reachable index is the empty one or a rooted one. -/
theorem rooted_or_new
    {workspaceId : WorkspaceId}
    (reached : Reachable authorizeAndApply (new workspaceId) index) :
    index = new workspaceId ∨ index.rootSeen = true := by
  apply reached.invariant
  · exact Or.inl rfl
  · intro state event next _ accepted
    exact Or.inr (rootSeen_of_accepted accepted)

/-- The roles after an accepted event of a rooted index: nothing changes, or
the author is privileged and one device gets an unprivileged role or none, or
the author is an owner. -/
theorem roles_of_permitted
    (permitted : index.authorizeBody event = .ok ()) (rooted : index.rootSeen = true) :
    rolesAfter index.roles event = index.roles ∨
      ∃ authorRole, index.roles[event.event.authorDeviceId]? = some authorRole ∧
        authorRole.IsPrivileged ∧
        ∀ (deviceId : DeviceId) (role : WorkspaceRole),
          (rolesAfter index.roles event)[deviceId]? = some role → role.IsPrivileged →
            index.roles[deviceId]? = some role ∨ authorRole = .owner := by
  unfold authorizeBody at permitted
  cases body : event.event.body with
  | workspaceCreated name => simp [body, rooted] at permitted
  | memberInvited inviteeDeviceId role =>
      right
      simp only [body, bind_eq_ok_iff, requireRootedMember_eq_ok_iff,
        requireRoleOver_eq_ok_iff] at permitted
      obtain ⟨authorRole, ⟨-, authorHas⟩, allowed⟩ := permitted
      refine ⟨authorRole, authorHas, ?_, ?_⟩
      · grind [Action.AllowedFor, WorkspaceRole.IsPrivileged]
      · simp only [rolesAfter, body]
        grind
  | memberRoleUpdated memberDeviceId role =>
      right
      simp only [body, bind_eq_ok_iff, requireRootedMember_eq_ok_iff] at permitted
      obtain ⟨authorRole, ⟨-, authorHas⟩, existing, ⟨-, memberHas⟩, -, -, allowed⟩ := permitted
      refine ⟨authorRole, authorHas, ?_, ?_⟩
      · grind [Action.AllowedFor, WorkspaceRole.IsPrivileged, requireRole_eq_ok_iff]
      · simp only [rolesAfter, body]
        grind [Action.AllowedFor, requireRole_eq_ok_iff]
  | memberRemoved removedDeviceId =>
      right
      simp only [body, bind_eq_ok_iff, requireRootedMember_eq_ok_iff,
        requireRoleOver_eq_ok_iff] at permitted
      obtain ⟨authorRole, ⟨-, authorHas⟩, existing, ⟨-, memberHas⟩, -, -, allowed⟩ := permitted
      refine ⟨authorRole, authorHas, ?_, ?_⟩
      · grind [Action.AllowedFor, WorkspaceRole.IsPrivileged]
      · simp only [rolesAfter, body]
        grind
  | _ => exact Or.inl (by simp [rolesAfter, body])

/-- With the guard on invitations, an author who is no owner leaves every
privileged role alone. -/
theorem keepsPrivilegedRoles_of_permitted
    (permitted : index.authorizeBody event = .ok ()) (rooted : index.rootSeen = true)
    (respects : index.InviteRespectsRoles event)
    (notOwner : index.roles[event.event.authorDeviceId]? ≠ some .owner) :
    KeepsPrivilegedRoles index (index.applyAuthorized event) := by
  intro deviceId role had privileged
  rw [applyAuthorized_roles]
  unfold authorizeBody at permitted
  cases body : event.event.body with
  | workspaceCreated name => simp [body, rooted] at permitted
  | memberInvited inviteeDeviceId given =>
      have kept := respects inviteeDeviceId given role body
      simp only [rolesAfter, body]
      grind
  | memberRoleUpdated memberDeviceId given =>
      simp only [body, bind_eq_ok_iff, requireRootedMember_eq_ok_iff] at permitted
      obtain ⟨authorRole, ⟨-, authorHas⟩, existing, ⟨-, memberHas⟩, -, -, allowed⟩ := permitted
      simp only [rolesAfter, body]
      grind [Action.AllowedFor, requireRole_eq_ok_iff]
  | memberRemoved removedDeviceId =>
      simp only [body, bind_eq_ok_iff, requireRootedMember_eq_ok_iff,
        requireRoleOver_eq_ok_iff] at permitted
      obtain ⟨authorRole, ⟨-, authorHas⟩, existing, ⟨-, memberHas⟩, -, -, allowed⟩ := permitted
      simp only [rolesAfter, body]
      grind
  | _ => simpa [rolesAfter, body] using had

/-- With the guard on invitations, the root device stays an owner. -/
theorem rootIsOwner_of_permitted
    (permitted : index.authorizeBody event = .ok ())
    (respects : index.InviteRespectsRoles event)
    (rootOwner : index.rootSeen = true → index.RootIsOwner) :
    (index.applyAuthorized event).RootIsOwner := by
  unfold RootIsOwner
  rw [applyAuthorized_roles, applyAuthorized_rootDeviceId]
  cases body : event.event.body with
  | workspaceCreated name => simp [rolesAfter, rootDeviceIdAfter, body]
  | memberInvited inviteeDeviceId given =>
      have rooted := (index.author_of_permitted permitted (by simp [body])).1
      obtain ⟨rootDeviceId, isRoot, isOwner⟩ := rootOwner rooted
      have kept := respects inviteeDeviceId given .owner body
      refine ⟨rootDeviceId, by simpa [rootDeviceIdAfter, body] using isRoot, ?_⟩
      simp only [rolesAfter, body]
      grind [WorkspaceRole.IsPrivileged]
  | memberRoleUpdated memberDeviceId given =>
      have rooted := (index.author_of_permitted permitted (by simp [body])).1
      obtain ⟨rootDeviceId, isRoot, isOwner⟩ := rootOwner rooted
      simp only [authorizeBody, body, bind_eq_ok_iff, ensure_eq_ok_iff] at permitted
      obtain ⟨-, -, -, -, -, notRoot, -⟩ := permitted
      refine ⟨rootDeviceId, by simpa [rootDeviceIdAfter, body] using isRoot, ?_⟩
      simp only [rolesAfter, body]
      grind
  | memberRemoved removedDeviceId =>
      have rooted := (index.author_of_permitted permitted (by simp [body])).1
      obtain ⟨rootDeviceId, isRoot, isOwner⟩ := rootOwner rooted
      simp only [authorizeBody, body, bind_eq_ok_iff, ensure_eq_ok_iff] at permitted
      obtain ⟨-, -, -, -, -, notRoot, -⟩ := permitted
      refine ⟨rootDeviceId, by simpa [rootDeviceIdAfter, body] using isRoot, ?_⟩
      simp only [rolesAfter, body]
      grind
  | _ =>
      have rooted := (index.author_of_permitted permitted (by simp [body])).1
      obtain ⟨rootDeviceId, isRoot, isOwner⟩ := rootOwner rooted
      exact ⟨rootDeviceId, by simpa [rootDeviceIdAfter, body] using isRoot,
        by simpa [rolesAfter, body] using isOwner⟩

/-- An invitation that breaks the guard breaks the protection as well. -/
theorem inviteRespectsRoles_of_protected
    (rootOwner : (index.applyAuthorized event).RootIsOwner)
    (kept :
      index.roles[event.event.authorDeviceId]? ≠ some .owner →
        KeepsPrivilegedRoles index (index.applyAuthorized event))
    (indexRootOwner : index.rootSeen = true → index.RootIsOwner)
    (permitted : index.authorizeBody event = .ok ()) :
    index.InviteRespectsRoles event := by
  intro inviteeDeviceId role existing body had privileged target
  have rooted := (index.author_of_permitted permitted (by simp [body])).1
  have given : (index.applyAuthorized event).roles[inviteeDeviceId]? = some role := by
    simp [rolesAfter, body]
  rcases target with isRoot | notOwner
  · obtain ⟨rootDeviceId, isRootAfter, isOwnerAfter⟩ := rootOwner
    obtain ⟨rootBefore, isRootBefore, isOwnerBefore⟩ := indexRootOwner rooted
    rw [applyAuthorized_rootDeviceId] at isRootAfter
    simp only [rootDeviceIdAfter, body] at isRootAfter
    grind
  · have unchanged := kept notOwner inviteeDeviceId existing had privileged
    rw [given] at unchanged
    exact Option.some.inj unchanged

end Steps

/-- Privileged roles are protected exactly as long as no invitation reaches for
one: in every run within the guard the root device is an owner, and the next
accepted event protects the privileged roles if and only if it meets the guard
too. -/
theorem privilegedRoles_protected_iff
    (workspaceId : WorkspaceId) (events : List SignedEvent) (index : WorkspaceAccessIndex)
    (ran :
      GuardedRun authorizeAndApply InviteRespectsRoles (new workspaceId) events index) :
    (index.rootSeen = true → index.RootIsOwner) ∧
      ∀ event next, index.authorizeAndApply event = .ok next →
        ((next.RootIsOwner ∧
            (index.roles[event.event.authorDeviceId]? ≠ some .owner →
              KeepsPrivilegedRoles index next)) ↔
          index.InviteRespectsRoles event) := by
  have rootOwner : index.rootSeen = true → index.RootIsOwner := by
    apply ran.invariant
    · simp [new]
    · intro state event next holds respects accepted rooted
      rw [authorizeAndApply_eq_ok_iff, authorize_eq_ok_iff] at accepted
      obtain ⟨⟨-, -, -, permitted⟩, rfl⟩ := accepted
      exact rootIsOwner_of_permitted permitted respects holds
  refine ⟨rootOwner, ?_⟩
  intro event next accepted
  rw [authorizeAndApply_eq_ok_iff, authorize_eq_ok_iff] at accepted
  obtain ⟨⟨-, -, -, permitted⟩, rfl⟩ := accepted
  constructor
  · rintro ⟨rootOwnerAfter, kept⟩
    exact inviteRespectsRoles_of_protected rootOwnerAfter kept rootOwner permitted
  · intro respects
    refine ⟨rootIsOwner_of_permitted permitted respects rootOwner, ?_⟩
    intro notOwner
    by_cases rooted : index.rootSeen = true
    · exact keepsPrivilegedRoles_of_permitted permitted rooted respects notOwner
    · rcases rooted_or_new ran.reachable with isNew | isRooted
      · intro deviceId role had
        simp [isNew, new] at had
      · exact absurd isRooted rooted

/-- A workspace of one owner and one admin, as the two events below build it. -/
def adminHome : WorkspaceAccessIndex :=
  { new ⟨"w"⟩ with
    roles :=
      ((∅ : HashMap DeviceId WorkspaceRole).insert ⟨"root"⟩ .owner).insert ⟨"admin"⟩ .admin
    rootDeviceId := some ⟨"root"⟩
    rootSeen := true }

private theorem adminHome_reached :
    GuardedRun authorizeAndApply InviteRespectsRoles (new ⟨"w"⟩)
      [draftEvent "e0" "root" none [] (.workspaceCreated "home"),
        draftEvent "e1" "root" none ["e0"] (.memberInvited ⟨"admin"⟩ .admin)]
      adminHome := by
  have created :
      (new ⟨"w"⟩).authorizeAndApply
          (draftEvent "e0" "root" none [] (.workspaceCreated "home")) =
        .ok ((new ⟨"w"⟩).applyAuthorized
          (draftEvent "e0" "root" none [] (.workspaceCreated "home"))) := by
    decide +kernel
  refine .extend (.extend .start ?_ created) ?_ (by decide +kernel)
  · intro inviteeDeviceId role existing body
    cases body
  · intro inviteeDeviceId role existing body had
    cases body
    revert had
    cases existing <;> decide +kernel

theorem privilegedRoles_protected_iff_adminHome :
    (adminHome.rootSeen = true → adminHome.RootIsOwner) ∧
      ∀ event next, adminHome.authorizeAndApply event = .ok next →
        ((next.RootIsOwner ∧
            (adminHome.roles[event.event.authorDeviceId]? ≠ some .owner →
              KeepsPrivilegedRoles adminHome next)) ↔
          adminHome.InviteRespectsRoles event) :=
  privilegedRoles_protected_iff _ _ _ adminHome_reached

/-- An admin can invite the root device as a guest, which takes the ownership
of the workspace away from it. -/
theorem privilegedRoles_not_protected :
    ¬ ∀ (workspaceId : WorkspaceId) (index : WorkspaceAccessIndex),
      Reachable authorizeAndApply (new workspaceId) index → index.rootSeen = true →
        index.RootIsOwner ∧
          ∀ event next, index.authorizeAndApply event = .ok next →
            index.roles[event.event.authorDeviceId]? ≠ some .owner →
              KeepsPrivilegedRoles index next := by
  intro isProtected
  have demoted :
      adminHome.authorizeAndApply
          (draftEvent "e2" "admin" none ["e1"] (.memberInvited ⟨"root"⟩ .guest)) =
        .ok { adminHome with roles := adminHome.roles.insert ⟨"root"⟩ .guest } := by
    decide +kernel
  have notOwner : adminHome.roles[(⟨"admin"⟩ : DeviceId)]? ≠ some .owner := by
    decide +kernel
  have kept :=
    (isProtected _ _ adminHome_reached.reachable rfl).2 _ _ demoted notOwner ⟨"root"⟩ .owner
  revert kept
  decide +kernel

/-! ## Coalitions -/

section Coalitions

variable {index : WorkspaceAccessIndex} {coalition : Set DeviceId}
  {events : List SignedEvent}

/-- A run of events by devices that are no owners creates no privileged role. -/
theorem privileged_of_runSkipping
    (rooted : index.rootSeen = true)
    (noOwner : ∀ deviceId ∈ coalition, index.roles[deviceId]? ≠ some .owner)
    (byCoalition : ∀ event ∈ events, event.event.authorDeviceId ∈ coalition) :
    ∀ (deviceId : DeviceId) (role : WorkspaceRole),
      (runSkipping authorizeAndApply index events).roles[deviceId]? = some role →
        role.IsPrivileged → index.roles[deviceId]? = some role := by
  have whole :
      (runSkipping authorizeAndApply index events).rootSeen = true ∧
        ∀ (deviceId : DeviceId) (role : WorkspaceRole),
          (runSkipping authorizeAndApply index events).roles[deviceId]? = some role →
            role.IsPrivileged → index.roles[deviceId]? = some role := by
    apply @runSkipping_invariant _ _ _ authorizeAndApply
      (fun state => state.rootSeen = true ∧
        ∀ (deviceId : DeviceId) (role : WorkspaceRole),
          state.roles[deviceId]? = some role → role.IsPrivileged →
            index.roles[deviceId]? = some role)
      (fun event => event.event.authorDeviceId ∈ coalition) _ _ byCoalition
    · exact ⟨rooted, fun _ _ had _ => had⟩
    · rintro state event next ⟨stateRooted, fromStart⟩ member accepted
      refine ⟨rootSeen_of_accepted accepted, ?_⟩
      rw [authorizeAndApply_eq_ok_iff, authorize_eq_ok_iff] at accepted
      obtain ⟨⟨-, -, -, permitted⟩, rfl⟩ := accepted
      intro deviceId role has privileged
      rw [applyAuthorized_roles] at has
      rcases roles_of_permitted permitted stateRooted with
        unchanged | ⟨authorRole, authorHas, authorPrivileged, written⟩
      · rw [unchanged] at has
        exact fromStart deviceId role has privileged
      · rcases written deviceId role has privileged with before | isOwner
        · exact fromStart deviceId role before privileged
        · -- the author would have been an owner from the start
          have ownerAtStart := fromStart _ _ authorHas authorPrivileged
          rw [isOwner] at ownerAtStart
          exact absurd ownerAtStart (noOwner _ member)
  exact whole.2

/-- A run of events by devices without privileges changes no role at all. -/
theorem roles_of_runSkipping
    (rooted : index.rootSeen = true)
    (unprivileged :
      ∀ deviceId ∈ coalition, ∀ role,
        index.roles[deviceId]? = some role → ¬ role.IsPrivileged)
    (byCoalition : ∀ event ∈ events, event.event.authorDeviceId ∈ coalition) :
    (runSkipping authorizeAndApply index events).rootSeen = true ∧
      (runSkipping authorizeAndApply index events).roles = index.roles := by
  apply @runSkipping_invariant _ _ _ authorizeAndApply
    (fun state => state.rootSeen = true ∧ state.roles = index.roles)
    (fun event => event.event.authorDeviceId ∈ coalition) _ _ byCoalition
  · exact ⟨rooted, rfl⟩
  · rintro state event next ⟨stateRooted, sameRoles⟩ member accepted
    refine ⟨rootSeen_of_accepted accepted, ?_⟩
    rw [authorizeAndApply_eq_ok_iff, authorize_eq_ok_iff] at accepted
    obtain ⟨⟨-, -, -, permitted⟩, rfl⟩ := accepted
    rw [applyAuthorized_roles]
    rcases roles_of_permitted permitted stateRooted with
      unchanged | ⟨authorRole, authorHas, authorPrivileged, -⟩
    · rw [unchanged, sameRoles]
    · rw [sameRoles] at authorHas
      exact absurd authorPrivileged (unprivileged _ member authorRole authorHas)

end Coalitions

/-- Whatever a coalition without an owner signs, in any order and number, it
creates no owner and no admin; without an admin among them the roles of the
workspace stay as they are.  This holds from every rooted index, reachable ones
included. -/
theorem coalition_gains_no_privilege
    (index : WorkspaceAccessIndex) (rooted : index.rootSeen = true) (coalition : Set DeviceId)
    (noOwner : ∀ deviceId ∈ coalition, index.roles[deviceId]? ≠ some .owner)
    (events : List SignedEvent)
    (byCoalition : ∀ event ∈ events, event.event.authorDeviceId ∈ coalition) :
    (∀ deviceId : DeviceId,
        (∀ role, index.roles[deviceId]? = some role → ¬ role.IsPrivileged) →
          ∀ role,
            (runSkipping authorizeAndApply index events).roles[deviceId]? = some role →
              ¬ role.IsPrivileged) ∧
      ((∀ deviceId ∈ coalition, index.roles[deviceId]? ≠ some .admin) →
        (runSkipping authorizeAndApply index events).roles = index.roles) := by
  constructor
  · intro deviceId unprivileged role has privileged
    have hadBefore :=
      privileged_of_runSkipping rooted noOwner byCoalition deviceId role has privileged
    exact unprivileged role hadBefore privileged
  · intro noAdmin
    apply (roles_of_runSkipping rooted _ byCoalition).2
    intro deviceId member role has privileged
    rcases privileged with isOwner | isAdmin
    · rw [isOwner] at has
      exact noOwner deviceId member has
    · rw [isAdmin] at has
      exact noAdmin deviceId member has

/-- The coalition of the admin alone tries to appoint another admin. -/
theorem coalition_gains_no_privilege_adminHome :
    (runSkipping authorizeAndApply adminHome
        [draftEvent "e2" "admin" none ["e1"] (.memberInvited ⟨"friend"⟩ .admin),
          draftEvent "e3" "admin" none ["e1"]
            (.memberInvited ⟨"friend"⟩ .member)]).roles[(⟨"friend"⟩ : DeviceId)]? ≠
      some .admin := by
  intro appointed
  refine (coalition_gains_no_privilege adminHome rfl {⟨"admin"⟩} ?_ _ ?_).1 ⟨"friend"⟩ ?_ .admin
    appointed (Or.inr rfl)
  · intro deviceId member
    rw [Set.mem_singleton_iff.mp member]
    decide +kernel
  · intro event member
    rcases List.mem_pair.mp member with first | second
    · rw [first]
      rfl
    · rw [second]
      rfl
  · intro role has
    revert has
    cases role <;> decide +kernel

/-- Nobody becomes the owner by inviting itself. -/
example :
    ((new ⟨"w"⟩).authorizeAndApply
      (draftEvent "e0" "root" none [] (.memberInvited ⟨"root"⟩ .owner))).isOk = false := by
  decide +kernel

end WorkspaceAccessIndex

end Chaft
