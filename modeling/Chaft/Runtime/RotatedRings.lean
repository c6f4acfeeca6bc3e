import Chaft.Runtime.BoundContexts
import Chaft.Runtime.KeptKeys

/-!
# Rings after rotations

A ring starts as a generated one or as the export of another device, of which only the
current key is checked.  Rotations keep its keys as long as the epochs do not overflow and the
previous keys neither name an epoch to come nor have another key of the current one.
-/

namespace Chaft

open Outcome

namespace KeyRing

/-- The same epoch, and the same keys under the same IDs. -/
def SameKeys (ring other : KeyRing) : Prop :=
  other.epoch = ring.epoch ∧
    ∀ keyId, other.resolveContentKey keyId = ring.resolveContentKey keyId

/-- The file of a ring and its export are read as the ring. -/
def ReadsBack (libraries : KeyLibraries) (ring : KeyRing) : Prop :=
  (∀ bytes, libraries.keyToVecPretty ring.persisted = some bytes →
      ∃ read, fromBytes libraries ring.scope.isChannel bytes = .ok read ∧ ring.SameKeys read) ∧
    ∀ exporterDeviceId,
      ∃ read, fromExport (ring.exported exporterDeviceId) = .ok read ∧ ring.SameKeys read

/-- A rotation that loses no key and takes no ID twice. -/
structure RotatesSafely (ring : KeyRing) (generated : ContentKey) : Prop where
  noOverflow : ring.epoch.toNat + 1 < UInt64.size
  kept : (ring.rotate generated).Extends ring
  newId : ring.resolveContentKey (ring.rotate generated).keyId = none

/-- The ring reads back and rotates safely, again and again. -/
def KeepsKeys (libraries : KeyLibraries) : KeyRing → List ContentKey → Prop
  | ring, [] => ring.ReadsBack libraries
  | ring, generated :: rest =>
      ring.ReadsBack libraries ∧ ring.RotatesSafely generated ∧
        KeepsKeys libraries (ring.rotate generated) rest

/-- What `generate` and `from_export` give. -/
def Obtained (ring : KeyRing) : Prop :=
  (∃ scope generated, ring = generate scope generated) ∨
    ∃ exported, fromExport exported = .ok ring

/-- The previous key that the ID of the current key finds is the current key. -/
def CurrentAgrees (ring : KeyRing) : Prop :=
  ∀ material,
    ring.previousKeys.find? (fun material => decide (material.keyId = ring.keyId)) =
        some material →
      material.contentKey = ring.contentKey

/-- There is room for some rotations. -/
structure RoomFor (ring : KeyRing) (rotations : Nat) : Prop where
  epochs : ring.epoch.toNat + rotations < UInt64.size
  ids :
    ∀ material ∈ ring.previousKeys, ∀ step, 0 < step → step ≤ rotations →
      material.keyId ≠ ring.scope.keyIdForEpoch (ring.epoch + UInt64.ofNat step)
  current : 0 < rotations → ring.CurrentAgrees

/-! ## Reading back -/

theorem sameKeys_self (ring : KeyRing) : ring.SameKeys ring :=
  ⟨rfl, fun _ => rfl⟩

theorem readsBack_of_started
    {libraries : KeyLibraries} (lawful : libraries.Lawful) {ring : KeyRing}
    (started : ring.epoch ≠ 0) : ring.ReadsBack libraries := by
  constructor
  · intro bytes isJson
    refine ⟨ring, ?_, ring.sameKeys_self⟩
    obtain ⟨readsPlain, -⟩ := lawful.keyReadsBack _ _ isJson
    change libraries.keyFromSlice ring.scope.isChannel bytes = _ at readsPlain
    rw [fromBytes, readsPlain]
    exact ring.fromPersisted_persisted started
  · intro exporterDeviceId
    exact ⟨ring, ring.fromExport_exported started exporterDeviceId, ring.sameKeys_self⟩

theorem epoch_of_obtained {ring : KeyRing} (obtained : ring.Obtained) : ring.epoch ≠ 0 := by
  rcases obtained with ⟨scope, generated, rfl⟩ | ⟨exported, isRing⟩
  · exact (by decide : (1 : UInt64) ≠ 0)
  · exact epoch_of_fromExport isRing

/-! ## One rotation -/

section Rotation

variable {ring : KeyRing} {generated : ContentKey}

theorem epoch_rotate (noOverflow : ring.epoch.toNat + 1 < UInt64.size) :
    (ring.rotate generated).epoch.toNat = ring.epoch.toNat + 1 := by
  have one : (1 : UInt64).toNat = 1 := rfl
  rw [rotate, UInt64.toNat_add, one]
  exact Nat.mod_eq_of_lt noOverflow

theorem epoch_add_step (step : Nat) :
    (ring.rotate generated).epoch + UInt64.ofNat step =
      ring.epoch + UInt64.ofNat (step + 1) := by
  rw [rotate, UInt64.ofNat_add, UInt64.add_assoc, UInt64.add_comm 1]
  rfl

/-- An ID that no previous key has is known only as the current one. -/
theorem resolveContentKey_eq_none_iff (keyId : String) :
    ring.resolveContentKey keyId = none ↔
      ring.keyId ≠ keyId ∧ ∀ material ∈ ring.previousKeys, material.keyId ≠ keyId := by
  rw [resolveContentKey]
  by_cases isCurrent : ring.keyId = keyId
  · simp [isCurrent]
  · rw [if_neg isCurrent, Option.map_eq_none_iff, List.find?_eq_none]
    simp [isCurrent]

/-- With a new ID, a rotation keeps all keys if and only if the current key stays the first
of its ID. -/
theorem rotate_extends_iff
    (newId : ring.resolveContentKey (ring.rotate generated).keyId = none) :
    (ring.rotate generated).Extends ring ↔ ring.CurrentAgrees := by
  constructor
  · intro kept material found
    have resolved : ring.resolveContentKey ring.keyId = some ring.contentKey := by
      rw [resolveContentKey, if_pos rfl]
    have after := kept ring.keyId ring.contentKey resolved
    have notNext : (ring.rotate generated).keyId ≠ ring.keyId :=
      ((resolveContentKey_eq_none_iff _).mp newId).1.symm
    rw [resolveContentKey, if_neg notNext, rotate] at after
    dsimp only at after
    rw [List.find?_append, found, Option.some_or, Option.map_some, Option.some.injEq] at after
    exact after
  · intro agrees keyId key resolved
    have notNext : (ring.rotate generated).keyId ≠ keyId := by
      intro isNext
      rw [isNext, resolved] at newId
      cases newId
    rw [resolveContentKey, if_neg notNext, rotate]
    dsimp only
    rw [List.find?_append]
    rw [resolveContentKey] at resolved
    by_cases isCurrent : ring.keyId = keyId
    · subst isCurrent
      rw [if_pos rfl, Option.some.injEq] at resolved
      cases found :
          ring.previousKeys.find? fun material => decide (material.keyId = ring.keyId) with
      | none => simpa using resolved
      | some material =>
          rw [Option.some_or, Option.map_some, agrees material found, resolved]
    · rw [if_neg isCurrent, Option.map_eq_some_iff] at resolved
      obtain ⟨material, found, isKey⟩ := resolved
      rw [found, Option.some_or, Option.map_some, isKey]

/-- Room for a rotation and for more is a safe rotation and room for more after it. -/
theorem roomFor_succ_iff (rotations : Nat) :
    ring.RoomFor (rotations + 1) ↔
      ring.RotatesSafely generated ∧ (ring.rotate generated).RoomFor rotations := by
  have next : (ring.rotate generated).keyId = ring.scope.keyIdForEpoch (ring.epoch + 1) := rfl
  constructor
  · intro room
    have noOverflow : ring.epoch.toNat + 1 < UInt64.size := by
      have epochs := room.epochs
      omega
    have apart : ∀ step, step ≤ rotations →
        ring.keyId ≠ ring.scope.keyIdForEpoch (ring.epoch + UInt64.ofNat (step + 1)) := by
      intro step bounded
      rw [ring.named]
      intro same
      obtain ⟨-, sameEpoch⟩ := (KeyScope.keyIdForEpoch_eq_iff _ _ _ _).mp same
      have epochs := room.epochs
      have sameNumber := congrArg UInt64.toNat sameEpoch
      have small : step + 1 < UInt64.size := by omega
      have stepNumber : (UInt64.ofNat (step + 1)).toNat = step + 1 :=
        UInt64.toNat_ofNat_of_lt' small
      rw [UInt64.toNat_add, stepNumber, Nat.mod_eq_of_lt (by
        change ring.epoch.toNat + (step + 1) < UInt64.size
        omega)] at sameNumber
      omega
    have newId : ring.resolveContentKey (ring.rotate generated).keyId = none := by
      rw [resolveContentKey_eq_none_iff, next]
      refine ⟨apart 0 (Nat.zero_le _), ?_⟩
      intro material member
      exact room.ids material member 1 (by omega) (by omega)
    refine ⟨⟨noOverflow, ?_, newId⟩, ?_, ?_, ?_⟩
    · exact (rotate_extends_iff newId).mpr (room.current (by omega))
    · rw [epoch_rotate noOverflow]
      have epochs := room.epochs
      omega
    · intro material member step positive bounded
      rw [epoch_add_step]
      rw [rotate] at member
      rcases List.mem_append.mp member with earlier | isCurrent
      · exact room.ids material earlier (step + 1) (by omega) (by omega)
      · rw [List.mem_singleton.mp isCurrent]
        exact apart step bounded
    · intro _ material found
      -- nothing is known under the new ID but the new key
      have member := List.mem_of_find?_eq_some found
      have sameId := List.find?_some found
      rw [decide_eq_true_eq] at sameId
      rw [rotate] at member
      obtain ⟨notCurrent, notPrevious⟩ := (resolveContentKey_eq_none_iff _).mp newId
      rcases List.mem_append.mp member with earlier | isCurrent
      · exact absurd sameId (notPrevious material earlier)
      · rw [List.mem_singleton.mp isCurrent] at sameId
        exact absurd sameId notCurrent
  · rintro ⟨safe, room⟩
    have epochs := room.epochs
    rw [epoch_rotate safe.noOverflow] at epochs
    refine ⟨by omega, ?_, fun _ => (rotate_extends_iff safe.newId).mp safe.kept⟩
    intro material member step positive bounded
    obtain ⟨-, notPrevious⟩ := (resolveContentKey_eq_none_iff _).mp safe.newId
    by_cases first : step = 1
    · subst first
      exact notPrevious material member
    · have later := room.ids material (List.mem_append_left _ member) (step - 1) (by omega)
        (by omega)
      rw [epoch_add_step, Nat.sub_add_cancel positive] at later
      exact later

end Rotation

theorem keepsKeys_iff_of_started
    {libraries : KeyLibraries} (lawful : libraries.Lawful) {ring : KeyRing}
    (started : ring.epoch ≠ 0) (generated : List ContentKey) :
    KeepsKeys libraries ring generated ↔ ring.RoomFor generated.length := by
  induction generated generalizing ring with
  | nil =>
      have small : ring.epoch.toNat < UInt64.size := ring.epoch.toNat_lt_size
      constructor
      · intro _
        exact ⟨small, fun _ _ step positive bounded => by simp at bounded; omega,
          fun positive => absurd positive (by simp)⟩
      · intro _
        exact readsBack_of_started lawful started
  | cons first rest inductionHypothesis =>
      rw [KeepsKeys, List.length_cons, roomFor_succ_iff rest.length]
      constructor
      · rintro ⟨-, safe, kept⟩
        have next : (ring.rotate first).epoch ≠ 0 := by
          intro isZero
          have number := @epoch_rotate ring first safe.noOverflow
          rw [isZero] at number
          simp at number
        exact ⟨safe, (inductionHypothesis next).mp kept⟩
      · rintro ⟨safe, room⟩
        have next : (ring.rotate first).epoch ≠ 0 := by
          intro isZero
          have number := @epoch_rotate ring first safe.noOverflow
          rw [isZero] at number
          simp at number
        exact ⟨readsBack_of_started lawful started, safe, (inductionHypothesis next).mpr room⟩

end KeyRing

/-- A ring that is generated or imported reads back and keeps its keys through some rotations
if and only if it has room for them. -/
theorem keyRing_keepsKeys_iff
    (libraries : KeyLibraries) (lawful : libraries.Lawful) (ring : KeyRing)
    (obtained : ring.Obtained) (generated : List ContentKey) :
    KeyRing.KeepsKeys libraries ring generated ↔ ring.RoomFor generated.length :=
  KeyRing.keepsKeys_iff_of_started lawful (KeyRing.epoch_of_obtained obtained) generated

theorem keyRing_keepsKeys_generated :
    KeyRing.KeepsKeys ringLibraries.toKeyLibraries firstRing [secondKey, firstKey] := by
  refine (keyRing_keepsKeys_iff ringLibraries.toKeyLibraries ringLibraries_lawful firstRing
    (Or.inl ⟨_, _, rfl⟩) [secondKey, firstKey]).mpr ⟨by decide +kernel, ?_, ?_⟩
  · exact fun _ member => nomatch member
  · intro _ material found
    cases found

/-- An export whose previous keys name the epoch to come. -/
def foresightedExport : ContentKeyExport where
  schemaVersion := 2
  scope := .workspace ⟨"w"⟩
  epoch := 1
  keyId := "w:content:v1"
  exporterDeviceId := "dev_1"
  aes256GcmSivKey := firstKey.bytes
  previousKeys := [⟨"w:content:v2", secondKey.bytes⟩]

/-- The ID that a rotation makes current was known before. -/
theorem not_keyRing_keepsKeys :
    ¬ ∀ (libraries : KeyLibraries), libraries.Lawful → ∀ ring : KeyRing, ring.Obtained →
      ∀ generated, KeyRing.KeepsKeys libraries ring generated := by
  intro keeps
  have accepted :
      (KeyRing.fromExport foresightedExport).map
          (fun ring => ring.resolveContentKey (ring.rotate firstKey).keyId) =
        .ok (some secondKey) := by
    decide +kernel
  cases isRing : KeyRing.fromExport foresightedExport with
  | error raised =>
      rw [isRing] at accepted
      cases accepted
  | ok ring =>
      rw [isRing] at accepted
      obtain ⟨-, safe, -⟩ :=
        keeps ringLibraries.toKeyLibraries ringLibraries_lawful ring (Or.inr ⟨_, isRing⟩) [firstKey]
      have known : ring.resolveContentKey (ring.rotate firstKey).keyId = some secondKey :=
        Except.ok.inj accepted
      rw [safe.newId] at known
      cases known

end Chaft
