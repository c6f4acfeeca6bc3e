import Chaft.Core.StoredReferences

/-!
# Records of devices

Profiles, read markers, peer endpoints and key packages are what a device says about itself.
The first three are stored under their author.  A key package is stored under an ID that its
author chooses, so an event can replace the package of another device.
-/

namespace Chaft

open Keyed Outcome Transition

/-! ## Tables of owned entries -/

section Owned

variable {κ ν Owner : Type} [Ord κ] [Std.TransOrd κ]

/-- The entries of other owners are kept, and what is added or changed belongs to one. -/
structure OwnEntriesWritten
    (ownerOf : κ → ν → Owner) (owner : Owner) (before after : HashMap κ ν) : Prop where
  kept :
    ∀ key entry, before[key]? = some entry → ownerOf key entry ≠ owner →
      after[key]? = some entry
  own :
    ∀ key entry, after[key]? = some entry → before[key]? ≠ some entry →
      ownerOf key entry = owner

/-- The entries of one owner are kept. -/
def EntriesKept
    (ownerOf : κ → ν → Owner) (owner : Owner) (before after : HashMap κ ν) : Prop :=
  ∀ key entry, before[key]? = some entry → ownerOf key entry = owner → after[key]? = some entry

variable {ownerOf : κ → ν → Owner} {owner : Owner}

theorem OwnEntriesWritten.refl (table : HashMap κ ν) :
    OwnEntriesWritten ownerOf owner table table where
  kept _ _ present _ := present
  own _ _ present absent := absurd present absent

/-- An owner that writes its own entries keeps those of another one, as long as they were
kept before. -/
theorem EntriesKept.written
    {other : Owner} {start before after : HashMap κ ν}
    (kept : EntriesKept ownerOf other start before)
    (written : OwnEntriesWritten ownerOf owner before after) (apart : owner ≠ other) :
    EntriesKept ownerOf other start after := by
  intro key entry present isOther
  apply written.kept key entry (kept key entry present isOther)
  rw [isOther]
  exact apart.symm

/-- An owner that inserts an entry may only replace its own. -/
theorem ownEntriesWritten_insert_iff
    [Std.LawfulEqOrd κ] (table : HashMap κ ν) {key : κ} {entry : ν} (isOwn : ownerOf key entry = owner) :
    OwnEntriesWritten ownerOf owner table (table.insert key entry) ↔
      ∀ held, table[key]? = some held → ownerOf key held = owner := by
  constructor
  · intro written held present
    by_contra foreign
    have kept := written.kept key held present foreign
    rw [Std.ExtTreeMap.getElem?_insert_self, Option.some.injEq] at kept
    exact foreign (kept ▸ isOwn)
  · intro replaces
    constructor
    · intro other held present foreign
      by_cases same : key = other
      · subst same
        exact absurd (replaces held present) foreign
      · rw [Std.ExtTreeMap.getElem?_insert, if_neg]
        · exact present
        · exact fun equal => same (Std.LawfulEqCmp.compare_eq_iff_eq.mp equal)
    · intro other held present changed
      by_cases same : key = other
      · subst same
        rw [Std.ExtTreeMap.getElem?_insert_self, Option.some.injEq] at present
        exact present ▸ isOwn
      · rw [Std.ExtTreeMap.getElem?_insert, if_neg] at present
        · exact absurd present changed
        · exact fun equal => same (Std.LawfulEqCmp.compare_eq_iff_eq.mp equal)

end Owned

namespace WorkspaceState

/-- What an event does to the four tables. -/
structure OwnRecordsWritten (device : DeviceId) (before after : WorkspaceState) : Prop where
  profiles :
    OwnEntriesWritten (fun _ view => DeviceProfileView.deviceId view) device before.profiles
      after.profiles
  readMarkers : OwnEntriesWritten (fun reader _ => reader) device before.readMarkers
      after.readMarkers
  peerEndpoints :
    OwnEntriesWritten (fun _ view => PeerEndpointView.deviceId view) device before.peerEndpoints
      after.peerEndpoints
  keyPackages :
    OwnEntriesWritten (fun _ view => DeviceKeyPackageView.deviceId view) device
      before.keyPackages after.keyPackages

/-- The event publishes no key package under the ID of another device's. -/
def KeepsKeyPackages (state : WorkspaceState) (event : SignedEvent) : Prop :=
  ∀ keyPackageId protocol keyPackage,
    event.event.body = .deviceKeyPackagePublished keyPackageId protocol keyPackage →
      ∀ held : DeviceKeyPackageView, state.keyPackages[keyPackageId]? = some held →
        held.deviceId = event.event.authorDeviceId

/-! ## The tables after an event -/

section Tables

variable (state : WorkspaceState) (signed : SignedEvent)

def profilesAfter : HashMap DeviceId DeviceProfileView :=
  match signed.event.body with
  | .deviceProfileUpdated displayName avatarId =>
      state.profiles.insert signed.event.authorDeviceId
        { deviceId := signed.event.authorDeviceId
          displayName := displayName
          avatarId :=
            updatedAvatarId avatarId
              (state.profiles[signed.event.authorDeviceId]?.map DeviceProfileView.avatarId)
          updatedEventId := signed.eventId }
  | _ => state.profiles

def peerEndpointsAfter : HashMap PeerEndpointKey PeerEndpointView :=
  match signed.event.body with
  | .peerEndpointPublished endpointId endpoint transport isBackupPeer expiresAtMs
      replicaStorageClass replicaRetentionHint =>
      state.peerEndpoints.insert ⟨signed.event.authorDeviceId, endpointId⟩
        { deviceId := signed.event.authorDeviceId
          endpointId := endpointId
          endpoint := endpoint
          transport := transport
          isBackupPeer := isBackupPeer
          expiresAtMs := expiresAtMs
          replicaStorageClass := replicaStorageClass
          replicaRetentionHint := replicaRetentionHint
          publishedEventId := signed.eventId
          physicalMs := signed.event.timestamp.physicalMs }
  | _ => state.peerEndpoints

def keyPackagesAfter : HashMap DeviceKeyPackageId DeviceKeyPackageView :=
  match signed.event.body with
  | .deviceKeyPackagePublished keyPackageId protocol keyPackage =>
      state.keyPackages.insert keyPackageId
        { deviceId := signed.event.authorDeviceId
          keyPackageId := keyPackageId
          protocol := protocol
          keyPackage := keyPackage
          publishedEventId := signed.eventId
          physicalMs := signed.event.timestamp.physicalMs }
  | _ => state.keyPackages

/-- The four tables of a state. -/
structure RecordsAfter (after : WorkspaceState) : Prop where
  profiles : after.profiles = state.profilesAfter signed
  readMarkers : after.readMarkers = readMarkersAfter state.readMarkers signed
  peerEndpoints : after.peerEndpoints = state.peerEndpointsAfter signed
  keyPackages : after.keyPackages = state.keyPackagesAfter signed

variable {state signed}

theorem writeViews_recordsAfter
    {written : WorkspaceState} (finished : state.writeViews signed = .ok written) :
    state.RecordsAfter signed written := by
  unfold writeViews at finished
  cases body : signed.event.body with
  | workspaceInviteRecorded inviteId inviteeDeviceId displayName role requestId expiresAt
      approvalPolicy syncExpectation =>
      simp only [body] at finished
      constructor <;>
        simp only [profilesAfter, readMarkersAfter, peerEndpointsAfter, keyPackagesAfter, body] <;>
        split at finished <;> cases finished <;> rfl
  | messageCreated messageId markdown attachments
  | messageReplyCreated messageId replyToMessageId markdown attachments
  | messageCreatedEncrypted messageId sealedMarkdown attachments
  | messageReplyCreatedEncrypted messageId replyToMessageId sealedMarkdown attachments =>
      simp only [body, insertMessage, bind_eq_ok_iff] at finished
      obtain ⟨channelId, _, stored⟩ := finished
      cases stored
      constructor <;>
        simp only [profilesAfter, readMarkersAfter, peerEndpointsAfter, keyPackagesAfter, body]
  | _ =>
      simp only [body, modifyMessage] at finished
      cases finished
      constructor <;>
        simp only [profilesAfter, readMarkersAfter, peerEndpointsAfter, keyPackagesAfter, body] <;>
        rfl

/-- The tables after an accepted event. -/
theorem apply_recordsAfter
    {next : WorkspaceState} (accepted : state.apply signed = (.ok (), next)) :
    state.RecordsAfter signed next := by
  obtain ⟨-, applied⟩ := (apply_eq_ok_iff _ _ _).mp accepted
  obtain ⟨written, finished, rfl⟩ := applyReadyEvent_writes applied
  have records := writeViews_recordsAfter finished
  unfold markInvitesAcceptedByEvent at records
  split at records <;>
    exact ⟨records.profiles, records.readMarkers, records.peerEndpoints, records.keyPackages⟩

end Tables

/-! ## Entries under their owners -/

/-- Profiles and endpoints are stored under the devices that they name. -/
structure RecordsNamed (state : WorkspaceState) : Prop where
  profiles :
    ∀ (device : DeviceId) (view : DeviceProfileView),
      state.profiles[device]? = some view → view.deviceId = device
  peerEndpoints :
    ∀ (key : PeerEndpointKey) (view : PeerEndpointView),
      state.peerEndpoints[key]? = some view → view.deviceId = key.deviceId

theorem RecordsNamed.apply
    {state next : WorkspaceState} {signed : SignedEvent} (named : state.RecordsNamed)
    (accepted : state.apply signed = (.ok (), next)) : next.RecordsNamed := by
  have records := apply_recordsAfter accepted
  constructor
  · intro device view present
    rw [records.profiles, profilesAfter] at present
    split at present
    · rw [Std.ExtTreeMap.getElem?_insert] at present
      split at present
      · rename_i isAuthor
        rw [Option.some.injEq] at present
        rw [← present]
        exact Std.LawfulEqCmp.compare_eq_iff_eq.mp isAuthor
      · exact named.profiles device view present
    · exact named.profiles device view present
  · intro key view present
    rw [records.peerEndpoints, peerEndpointsAfter] at present
    split at present
    · rw [Std.ExtTreeMap.getElem?_insert] at present
      split at present
      · rename_i isKey
        rw [Option.some.injEq] at present
        rw [← present, ← Std.LawfulEqCmp.compare_eq_iff_eq.mp isKey]
      · exact named.peerEndpoints key view present
    · exact named.peerEndpoints key view present

theorem Reachable.recordsNamed
    {workspaceId : WorkspaceId} {history : List SignedEvent} {state : WorkspaceState}
    (reached : Reachable workspaceId history state) : state.RecordsNamed := by
  have ran := reached.run
  clear reached
  induction ran with
  | start =>
      constructor
      · intro device view present
        simp [WorkspaceState.new] at present
      · intro key view present
        simp [WorkspaceState.new] at present
  | extend _ _ accepted inductionHypothesis =>
      exact inductionHypothesis.apply ((applyStep_eq_ok_iff _ _ _).mp accepted)

/-- An accepted event writes only records of its author, unless it takes the ID of another
device's key package. -/
theorem ownRecordsWritten_apply_iff
    {state next : WorkspaceState} {signed : SignedEvent} (named : state.RecordsNamed)
    (accepted : state.apply signed = (.ok (), next)) :
    OwnRecordsWritten signed.event.authorDeviceId state next ↔
      state.KeepsKeyPackages signed := by
  have records := apply_recordsAfter accepted
  constructor
  · intro written keyPackageId protocol keyPackage isPublished
    have packages := written.keyPackages
    rw [records.keyPackages] at packages
    simp only [keyPackagesAfter, isPublished] at packages
    rw [ownEntriesWritten_insert_iff] at packages
    · exact packages
    · rfl
  · intro keeps
    constructor
    · rw [records.profiles, profilesAfter]
      split
      · rw [ownEntriesWritten_insert_iff]
        · exact fun held present => named.profiles _ held present
        · rfl
      · exact .refl _
    · rw [records.readMarkers, readMarkersAfter]
      split
      · rw [ownEntriesWritten_insert_iff]
        · exact fun _ _ => rfl
        · rfl
      · exact .refl _
    · rw [records.peerEndpoints, peerEndpointsAfter]
      split
      · rw [ownEntriesWritten_insert_iff]
        · exact fun held present => named.peerEndpoints _ held present
        · rfl
      · exact .refl _
    · rw [records.keyPackages, keyPackagesAfter]
      split
      · rename_i keyPackageId protocol keyPackage isPublished
        rw [ownEntriesWritten_insert_iff]
        · exact keeps keyPackageId protocol keyPackage isPublished
        · rfl
      · exact .refl _

/-! ## Runs -/

/-- The records of one device are kept. -/
structure RecordsKept (device : DeviceId) (before after : WorkspaceState) : Prop where
  profiles :
    EntriesKept (fun _ view => DeviceProfileView.deviceId view) device before.profiles
      after.profiles
  readMarkers : EntriesKept (fun reader _ => reader) device before.readMarkers after.readMarkers
  peerEndpoints :
    EntriesKept (fun _ view => PeerEndpointView.deviceId view) device before.peerEndpoints
      after.peerEndpoints
  keyPackages :
    EntriesKept (fun _ view => DeviceKeyPackageView.deviceId view) device before.keyPackages
      after.keyPackages

theorem RecordsKept.refl (device : DeviceId) (state : WorkspaceState) :
    RecordsKept device state state where
  profiles _ _ present _ := present
  readMarkers _ _ present _ := present
  peerEndpoints _ _ present _ := present
  keyPackages _ _ present _ := present

theorem RecordsKept.written
    {device author : DeviceId} {start before after : WorkspaceState}
    (kept : RecordsKept device start before) (written : OwnRecordsWritten author before after)
    (apart : author ≠ device) : RecordsKept device start after where
  profiles := kept.profiles.written written.profiles apart
  readMarkers := kept.readMarkers.written written.readMarkers apart
  peerEndpoints := kept.peerEndpoints.written written.peerEndpoints apart
  keyPackages := kept.keyPackages.written written.keyPackages apart

/-- An event of another device that takes over no key package. -/
def OthersStep (device : DeviceId) (state : WorkspaceState) (event : SignedEvent) : Prop :=
  event.event.authorDeviceId ≠ device ∧ state.KeepsKeyPackages event

/-- In every reachable state an accepted event writes only records of its author if and only
if it does not publish a key package under the ID of another device's.  In a run of such
events the records of a device change only by its own events. -/
theorem ownRecords_written_iff
    (workspaceId : WorkspaceId) (history : List SignedEvent) (state : WorkspaceState)
    (reached : Reachable workspaceId history state) :
    (∀ (event : SignedEvent) (next : WorkspaceState),
        state.apply event = (.ok (), next) →
          (OwnRecordsWritten event.event.authorDeviceId state next ↔
            state.KeepsKeyPackages event)) ∧
      ∀ (device : DeviceId) (later : List SignedEvent) (final : WorkspaceState),
        GuardedRun applyStep (OthersStep device) state later final →
          RecordsKept device state final := by
  refine ⟨fun event next accepted => ownRecordsWritten_apply_iff reached.recordsNamed accepted, ?_⟩
  intro device later final ran
  have held : final.RecordsNamed ∧ RecordsKept device state final := by
    apply ran.invariant
    · exact ⟨reached.recordsNamed, RecordsKept.refl device state⟩
    · rintro middle event next ⟨named, kept⟩ ⟨byOther, keeps⟩ accepted
      have applied := (applyStep_eq_ok_iff _ _ _).mp accepted
      have written := (ownRecordsWritten_apply_iff named applied).mpr keeps
      exact ⟨named.apply applied, kept.written written byOther⟩
  exact held.2

/-- The root and another member publish a key package each. -/
def packageHistory : List SignedEvent :=
  [draftEvent "e0" "root" none [] (.workspaceCreated "home"),
    draftEvent "e1" "root" none ["e0"] (.memberInvited ⟨"guest"⟩ .member),
    draftEvent "e2" "root" none ["e1"]
      (.deviceKeyPackagePublished ⟨"first"⟩ "openmls/key-package" [1])]

def secondPackage : SignedEvent :=
  draftEvent "e3" "guest" none ["e2"]
    (.deviceKeyPackagePublished ⟨"second"⟩ "openmls/key-package" [2])

/-- The member publishes its package under the ID of the root's. -/
def takenPackage : SignedEvent :=
  draftEvent "e3" "guest" none ["e2"]
    (.deviceKeyPackagePublished ⟨"first"⟩ "openmls/key-package" [2])

theorem ownRecords_written_secondPackage :
    OwnRecordsWritten ⟨"guest"⟩ (stateAfter packageHistory)
      ((stateAfter packageHistory).apply secondPackage).2 := by
  refine ((ownRecords_written_iff ⟨"w"⟩ packageHistory (stateAfter packageHistory)
    (stateAfter_reachable (by decide +kernel))).1 secondPackage _
      (Prod.ext (by decide +kernel) rfl)).mpr ?_
  intro keyPackageId protocol keyPackage isPublished held present
  cases isPublished
  have absent :
      (stateAfter packageHistory).keyPackages[(⟨"second"⟩ : DeviceKeyPackageId)]? = none := by
    decide +kernel
  rw [absent] at present
  cases present

/-- The package of the root is lost to the package of another device. -/
theorem not_ownRecords_written :
    ¬ ∀ (workspaceId : WorkspaceId) (history : List SignedEvent) (state : WorkspaceState),
      Reachable workspaceId history state →
        ∀ event next, state.apply event = (.ok (), next) →
          OwnRecordsWritten event.event.authorDeviceId state next := by
  intro writesOwn
  have written :=
    writesOwn ⟨"w"⟩ packageHistory (stateAfter packageHistory)
      (stateAfter_reachable (by decide +kernel)) takenPackage
      ((stateAfter packageHistory).apply takenPackage).2 (Prod.ext (by decide +kernel) rfl)
  obtain ⟨held, present, ofRoot⟩ :
      ∃ held : DeviceKeyPackageView,
        (stateAfter packageHistory).keyPackages[(⟨"first"⟩ : DeviceKeyPackageId)]? = some held ∧
          held.deviceId = ⟨"root"⟩ :=
    Option.map_eq_some_iff.mp (by decide +kernel)
  have kept :=
    written.keyPackages.kept ⟨"first"⟩ held present (by
      rw [ofRoot]
      decide)
  obtain ⟨taken, isTaken, ofGuest⟩ :
      ∃ taken : DeviceKeyPackageView,
        ((stateAfter packageHistory).apply takenPackage).2.keyPackages[
          (⟨"first"⟩ : DeviceKeyPackageId)]? = some taken ∧ taken.deviceId = ⟨"guest"⟩ :=
    Option.map_eq_some_iff.mp (by decide +kernel)
  rw [kept, Option.some.injEq] at isTaken
  rw [← isTaken, ofRoot] at ofGuest
  exact absurd ofGuest (by decide)

end WorkspaceState

end Chaft
