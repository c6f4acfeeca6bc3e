import Chaft.Runtime.KeptKeys
import Chaft.Runtime.ReadYourWrites

/-!
# Secrets that are saved before their event

A rotation and a change of an OpenMLS group save a secret between the
authorization of an event and its append.  The append can still refuse: it
limits the JSON of the event, in which bytes are lists of decimal numbers,
while authorization limits the bytes of each field.  The secret then stands
saved without its event.
-/

namespace Chaft

open Outcome

def localSecretKindOpenmlsKeyPackage : String := "openmls-key-package"
def localSecretKindOpenmlsWorkspaceGroup : String := "openmls-workspace-group"
def localSecretKindOpenmlsChannelGroup : String := "openmls-channel-group"

/-- What the callers save: a key ring, or a key package or group state of
OpenMLS. -/
inductive SavedSecret where
  | keyRing (ring : KeyRing)
  | openmlsKeyPackage (workspaceId : WorkspaceId) (keyPackageRef : String)
      (privateBundle : List UInt8)
  | openmlsWorkspaceGroup (workspaceId : WorkspaceId) (privateGroupState : List UInt8)
  | openmlsChannelGroup (workspaceId : WorkspaceId) (channelId : ChannelId)
      (privateGroupState : List UInt8)

namespace SavedSecret

def file : SavedSecret → SecretFile
  | keyRing ring => ring.scope.secretFile
  | openmlsKeyPackage workspaceId keyPackageRef _ =>
      .openmlsKeyPackage workspaceId keyPackageRef
  | openmlsWorkspaceGroup workspaceId _ => .openmlsWorkspaceGroup workspaceId
  | openmlsChannelGroup workspaceId channelId _ => .openmlsChannelGroup workspaceId channelId

def kind : SavedSecret → String
  | keyRing ring => ring.scope.secretKind
  | openmlsKeyPackage .. => localSecretKindOpenmlsKeyPackage
  | openmlsWorkspaceGroup .. => localSecretKindOpenmlsWorkspaceGroup
  | openmlsChannelGroup .. => localSecretKindOpenmlsChannelGroup

end SavedSecret

section Saving

variable (libraries : KeyLibraries)

/-- The bytes that are sealed; only a ring has to be serialized. -/
def SavedSecret.plaintext : SavedSecret → Except RuntimeError (List UInt8)
  | .keyRing ring => okOr (libraries.keyToVecPretty ring.persisted) .serde
  | .openmlsKeyPackage _ _ privateBundle => .ok privateBundle
  | .openmlsWorkspaceGroup _ privateGroupState => .ok privateGroupState
  | .openmlsChannelGroup _ _ privateGroupState => .ok privateGroupState

variable (runtime : LocalRuntime)

def LocalRuntime.secretPath (secret : SavedSecret) : List Char :=
  secret.file.path runtime.secrets.workspaceKeysDir

/-- `save_workspace_key`, `save_channel_key` and `write_openmls_secret_file`. -/
def LocalRuntime.saveSecret
    (write : SecretWrite) (files : SecretFiles) (secret : SavedSecret) :
    Except RuntimeError Unit × SecretFiles :=
  match secret.plaintext libraries with
  | .error raised => (.error raised, files)
  | .ok bytes =>
      runtime.secrets.writeLocalSecretFile libraries.toSecretLibraries write.entropy write.fault
        files (runtime.secretPath secret) secret.kind bytes

/-- The function for every secret that a caller saves. -/
def LocalRuntime.signAuthorizeSaveAndAppend
    (write : SecretWrite) (state : RuntimeState) (event : SignableEvent)
    (history : List SignedEvent) (secret : SavedSecret) :
    Except RuntimeError SignedEvent × RuntimeState :=
  let signed := runtime.identity.signEvent libraries.primitives event
  match authorizeEventWithHistory history signed with
  | .error raised => (.error (.authorization raised), state)
  | .ok () =>
      match runtime.saveSecret libraries write state.files secret with
      | (.error raised, files) => (.error raised, { state with files := files })
      | (.ok (), files) =>
          match state.store.appendEvent libraries.primitives libraries.eventJson signed with
          | .error raised => (.error (.store raised), { state with files := files })
          | .ok store => (.ok signed, { files := files, store := store })

/-- A rotation calls it with its ring. -/
theorem signAuthorizeSaveKeyAndAppendWithHistory_eq
    (write : SecretWrite) (state : RuntimeState) (event : SignableEvent)
    (history : List SignedEvent) (ring : KeyRing) :
    runtime.signAuthorizeSaveKeyAndAppendWithHistory libraries write state event history ring =
      runtime.signAuthorizeSaveAndAppend libraries write state event history (.keyRing ring) := by
  have saves : ∀ files, runtime.saveSecret libraries write files (.keyRing ring) =
      runtime.saveKey libraries write files ring := by
    intro files
    rw [LocalRuntime.saveSecret, LocalRuntime.saveKey, SavedSecret.plaintext]
    cases libraries.keyToVecPretty ring.persisted <;> rfl
  rw [LocalRuntime.signAuthorizeSaveKeyAndAppendWithHistory,
    LocalRuntime.signAuthorizeSaveAndAppend]
  cases authorizeEventWithHistory history
      (runtime.identity.signEvent libraries.primitives event) with
  | error raised => rfl
  | ok done =>
      -- The two functions match alike, so the rewritten sides may already be one term.
      rw [saves state.files] <;> rfl

/-! ## All or nothing -/

/-- A call that raises an error leaves every secret file as it was. -/
def LocalRuntime.SavesAllOrNothing
    (write : SecretWrite) (state : RuntimeState) (event : SignableEvent)
    (history : List SignedEvent) (secret : SavedSecret) : Prop :=
  ∀ raised,
    (runtime.signAuthorizeSaveAndAppend libraries write state event history secret).1 =
        .error raised →
      (runtime.signAuthorizeSaveAndAppend libraries write state event history secret).2.files =
        state.files

/-- The check that the append makes. -/
def FitsStore (json : EventJson) (event : SignedEvent) : Prop :=
  validateSignedEventJsonSize json event = .ok ()

theorem fitsStore_iff (json : EventJson) (event : SignedEvent) :
    FitsStore json event ↔
      ∃ bytes, json.toVec event = some bytes ∧ bytes.length ≤ eventJsonMaxBytes := by
  rw [FitsStore, validateSignedEventJsonSize]
  cases json.toVec event with
  | none => simp [okOr, bind, Except.bind]
  | some bytes => simp [okOr, bind, Except.bind, validateEventJsonSize, ensure]

/-- The bytes of the file, sealed where the runtime has a passphrase. -/
def LocalRuntime.secretFileBytes
    (write : SecretWrite) (secret : SavedSecret) : Except RuntimeError (List UInt8) := do
  let plaintext ← secret.plaintext libraries
  runtime.secrets.localSecretBytes libraries.toSecretLibraries write.entropy
    (runtime.secretPath secret) secret.kind plaintext

/-- The save writes nothing new: the secret has no file form, or the file has it. -/
def LocalRuntime.SavesNothingNew
    (write : SecretWrite) (files : SecretFiles) (secret : SavedSecret) : Prop :=
  ∀ bytes, runtime.secretFileBytes libraries write secret = .ok bytes →
    files (SlashPath.resolve runtime.secrets.here (runtime.secretPath secret)) =
      some (bytes ++ [newline])

theorem appendEvent_eq_ok_iff
    (primitives : Primitives) (json : EventJson) (store : EventStore) (event : SignedEvent) :
    (∃ next, store.appendEvent primitives json event = .ok next) ↔ FitsStore json event := by
  rw [FitsStore, validateSignedEventJsonSize, EventStore.appendEvent, serializedEvent]
  cases json.toVec event with
  | none => simp [okOr, bind, Except.bind]
  | some bytes =>
      cases checked : validateEventJsonSize bytes.length <;>
        simp [okOr, bind, Except.bind, checked]

/-- Without a fault, a save either refuses and changes nothing or writes its file. -/
theorem LocalRuntime.saveSecret_eq
    {write : SecretWrite} (noFault : write.fault = .none) (files : SecretFiles)
    (secret : SavedSecret) :
    runtime.saveSecret libraries write files secret =
      match runtime.secretFileBytes libraries write secret with
      | .error raised => (.error raised, files)
      | .ok bytes =>
          (.ok (), Function.update files
            (SlashPath.resolve runtime.secrets.here (runtime.secretPath secret))
            (some (bytes ++ [newline]))) := by
  rw [LocalRuntime.saveSecret, LocalRuntime.secretFileBytes]
  cases secret.plaintext libraries with
  | error raised => rfl
  | ok plaintext =>
      simp only [LocalSecretStore.writeLocalSecretFile, bind, Except.bind]
      cases runtime.secrets.localSecretBytes libraries.toSecretLibraries write.entropy
          (runtime.secretPath secret) secret.kind plaintext with
      | error raised => rfl
      | ok bytes => simp only [writeSecretFile, noFault]

/-- Saving and publishing is all or nothing exactly when the append cannot
refuse what authorization accepts, or the save writes nothing new. -/
theorem LocalRuntime.savesAllOrNothing_iff
    (write : SecretWrite) (noFault : write.fault = .none) (state : RuntimeState)
    (event : SignableEvent) (history : List SignedEvent) (secret : SavedSecret) :
    runtime.SavesAllOrNothing libraries write state event history secret ↔
      (authorizeEventWithHistory history
            (runtime.identity.signEvent libraries.primitives event) = .ok () →
        FitsStore libraries.eventJson (runtime.identity.signEvent libraries.primitives event) ∨
          runtime.SavesNothingNew libraries write state.files secret) := by
  have fits := appendEvent_eq_ok_iff libraries.primitives libraries.eventJson state.store
    (runtime.identity.signEvent libraries.primitives event)
  rw [LocalRuntime.SavesAllOrNothing, LocalRuntime.signAuthorizeSaveAndAppend,
    LocalRuntime.SavesNothingNew]
  cases authorizeEventWithHistory history
      (runtime.identity.signEvent libraries.primitives event) with
  | error raised => simp
  | ok authorized =>
      simp only [runtime.saveSecret_eq libraries noFault, forall_const]
      cases runtime.secretFileBytes libraries write secret with
      | error raised => simp
      | ok bytes =>
          simp only [Except.ok.injEq, forall_eq']
          cases appended : state.store.appendEvent libraries.primitives libraries.eventJson
              (runtime.identity.signEvent libraries.primitives event) with
          | ok store => simp [fits.mp ⟨store, appended⟩]
          | error raised =>
              have tooLarge : ¬FitsStore libraries.eventJson
                  (runtime.identity.signEvent libraries.primitives event) := by
                intro small
                obtain ⟨store, stored⟩ := fits.mpr small
                rw [appended] at stored
                cases stored
              simp only [tooLarge, false_or, Except.error.injEq, forall_eq']
              exact Function.update_eq_self_iff.trans eq_comm

end Saving

/-! ## An invite and a full ratchet tree

The founder of workspace `w` saves the state of its OpenMLS group, once with an
event that fits the store and once with the largest ratchet tree that is
authorized. -/

def groupState : SavedSecret := .openmlsWorkspaceGroup ⟨"w"⟩ [0x7b, 0x7d]

def inviteLibraries : KeyLibraries :=
  { ringLibraries.toKeyLibraries with
    primitives := invitePrimitives
    eventJson := inviteEventJson }

def founderRuntime : LocalRuntime := { ringRuntime with identity := founderIdentity }

/-- The invite fits the store, so the call is all or nothing. -/
theorem savesAllOrNothing_invite :
    founderRuntime.SavesAllOrNothing inviteLibraries plainWrite
      ⟨(stateWithRing firstRing).files, storeBefore [signedHome]⟩ invite [signedHome]
      groupState := by
  refine (founderRuntime.savesAllOrNothing_iff inviteLibraries plainWrite rfl
    ⟨(stateWithRing firstRing).files, storeBefore [signedHome]⟩ invite [signedHome]
    groupState).mpr fun _ => Or.inl ?_
  rw [FitsStore]
  have fits :
      (validateSignedEventJsonSize inviteLibraries.eventJson
        (founderRuntime.identity.signEvent inviteLibraries.primitives invite)).isOk = true := by
    decide +kernel
  cases checked : validateSignedEventJsonSize inviteLibraries.eventJson
      (founderRuntime.identity.signEvent inviteLibraries.primitives invite) with
  | error raised => simp [checked, Except.isOk, Except.toBool] at fits
  | ok _ => rfl

section FullTree

variable (tree : List UInt8)

def selfUpdate : SignableEvent :=
  afterHome homeDeviceHash
    (.openMlsWorkspaceGroupSelfUpdated "openmls/workspace-group/rfc9420"
      "MLS_128_DHKEMX25519_AES128GCM_SHA256_Ed25519" "g" 1 [1] tree)

def selfUpdateJson : List String :=
  afterHomeJson homeDeviceHash
    (["\x7b\"kind\":\"open_mls_workspace_group_self_updated\",",
        "\"protocol\":\"openmls/workspace-group/rfc9420\",",
        "\"ciphersuite\":\"MLS_128_DHKEMX25519_AES128GCM_SHA256_Ed25519\",",
        "\"group_id\":\"g\",\"epoch\":1,\"commit\":[1],\"ratchet_tree\":"] ++
      bytesJson tree ++ ["\x7d"])

/-- The signature of the event for 4 MiB of the byte 255. -/
def selfUpdateSignature : List UInt8 :=
  [0x57, 0xd2, 0x1c, 0xd4, 0x70, 0x04, 0x18, 0x71, 0x52, 0x21, 0x2f, 0xfa,
    0xe2, 0x21, 0xb3, 0x63, 0x83, 0xa6, 0x02, 0x02, 0x69, 0x8b, 0x46, 0x43,
    0xc8, 0x43, 0xc8, 0x63, 0x5a, 0xbf, 0x54, 0x29, 0xb4, 0x8b, 0x60, 0x65,
    0x2a, 0xc9, 0xd6, 0x38, 0xa1, 0x48, 0xd8, 0x1b, 0xdc, 0x9a, 0x28, 0x2a,
    0xca, 0x76, 0x46, 0xad, 0xb7, 0x74, 0x5b, 0x4b, 0xff, 0x4a, 0xd4, 0xa6,
    0xb3, 0x7f, 0xc8, 0x0c]

def selfUpdateHash : String :=
  "1b59a8be64c3afbcafb9cb2b66499918c465c13e5623bf78ba0511c0df030902"

def signedSelfUpdate : SignedEvent where
  eventId := ⟨"evt_" ++ selfUpdateHash⟩
  event := selfUpdate tree
  authorPublicKey := homeKey
  signature := selfUpdateSignature

def signedSelfUpdateJson : List UInt8 :=
  asciiBytes
    (["\x7b\"event_id\":\"evt_", selfUpdateHash, "\",\"event\":"] ++ selfUpdateJson tree ++
      [",\"author_public_key\":"] ++ bytesJson homeKey ++ [",\"signature\":"] ++
        bytesJson selfUpdateSignature ++ ["\x7d"])

def selfUpdatePrimitives : Primitives :=
  { homePrimitives with
    blake3Hex := fun bytes =>
      if bytes = asciiBytes (selfUpdateJson tree) ++ selfUpdateSignature then
        selfUpdateHash
      else
        homePrimitives.blake3Hex bytes
    signableEventJson := fun event =>
      if event = selfUpdate tree then
        asciiBytes (selfUpdateJson tree)
      else
        homePrimitives.signableEventJson event
    verify := fun key bytes signature =>
      decide (key = homeKey ∧ bytes = asciiBytes (selfUpdateJson tree) ∧
        signature = selfUpdateSignature) || homePrimitives.verify key bytes signature }

def selfUpdateLibraries : KeyLibraries :=
  { ringLibraries.toKeyLibraries with
    primitives := selfUpdatePrimitives tree
    eventJson :=
      .ofPair signedHome (signedSelfUpdate tree) (signedCreationJson "home" signedHome)
        (signedSelfUpdateJson tree) }

def selfUpdateRuntime : LocalRuntime :=
  { ringRuntime with
    identity :=
      { verifyingKeyBytes := homeKey
        sign := fun bytes =>
          if bytes = asciiBytes (selfUpdateJson tree) then selfUpdateSignature else [] } }

theorem signEvent_selfUpdate :
    (selfUpdateRuntime tree).identity.signEvent (selfUpdatePrimitives tree) (selfUpdate tree) =
      signedSelfUpdate tree := by
  have isJson :
      (selfUpdate tree).signingBytes (selfUpdatePrimitives tree) =
        asciiBytes (selfUpdateJson tree) := if_pos rfl
  have isSignature :
      (selfUpdateRuntime tree).identity.sign (asciiBytes (selfUpdateJson tree)) =
        selfUpdateSignature := by
    simp only [selfUpdateRuntime, if_true]
  have isHash :
      (selfUpdatePrimitives tree).blake3Hex
          (asciiBytes (selfUpdateJson tree) ++ selfUpdateSignature) = selfUpdateHash := by
    simp only [selfUpdatePrimitives, if_true]
  rw [DeviceIdentity.signEvent, isJson, isSignature, SignedEvent.fromAuthorSignature, isJson,
    isHash]
  rfl

/-- Authorization reads the tree only for its size. -/
theorem authorize_selfUpdate (short : tree.length ≤ openmlsRatchetTreeMaxBytes) :
    authorizeEventWithHistory [signedHome] (signedSelfUpdate tree) = .ok () := by
  have withoutTree :
      authorizeEventWithHistory [signedHome] (signedSelfUpdate []) = .ok () := by
    decide +kernel
  have sameSizes :
      validateEventBodyPayloadSizes (signedSelfUpdate tree).event.body =
        validateEventBodyPayloadSizes (signedSelfUpdate []).event.body := by
    have noTree : ([] : List UInt8).length ≤ openmlsRatchetTreeMaxBytes :=
      Nat.zero_le openmlsRatchetTreeMaxBytes
    simp only [signedSelfUpdate, selfUpdate, afterHome, validateEventBodyPayloadSizes,
      validateEventPayloadSize, ensure, short, noTree, if_true]
  have sameChoice : ∀ index : WorkspaceAccessIndex,
      index.authorize (signedSelfUpdate tree) = index.authorize (signedSelfUpdate []) := by
    intro index
    rw [WorkspaceAccessIndex.authorize, WorkspaceAccessIndex.authorize, sameSizes]
    rfl
  rw [← withoutTree, authorizeEventWithHistory, authorizeEventWithHistory]
  simp only [sameChoice]
  rfl

/-! A byte of three digits and its comma take four bytes of JSON. -/

theorem length_numbers (count : Nat) :
    (asciiBytes ((List.replicate (count + 1) "255").intersperse ",")).length = 4 * count + 3 := by
  induction count with
  | zero => decide
  | succ count inductionHypothesis =>
      have shape :
          (List.replicate (count + 2) "255").intersperse "," =
            ["255", ","] ++ (List.replicate (count + 1) "255").intersperse "," := by
        rw [List.replicate_succ, List.replicate_succ, List.intersperse_cons_cons]
        rfl
      have pair : (asciiBytes ["255", ","]).length = 4 := by decide
      rw [shape, length_asciiBytes_append, inductionHypothesis, pair]
      omega

theorem length_signedSelfUpdateJson (count : Nat) (isTree : tree = List.replicate (count + 1) 255) :
    4 * (count + 1) < (signedSelfUpdateJson tree).length := by
  have numbers :
      ((tree.map fun byte => toString byte.toNat).intersperse ",") =
        (List.replicate (count + 1) "255").intersperse "," := by
    rw [isTree, List.map_replicate]
    rfl
  have brackets : (asciiBytes ["["]).length = 1 ∧ (asciiBytes ["]"]).length = 1 := by decide
  have written : (asciiBytes (bytesJson tree)).length = 4 * count + 5 := by
    rw [bytesJson, numbers, length_asciiBytes_append, length_asciiBytes_append, length_numbers,
      brackets.1, brackets.2]
    omega
  rw [signedSelfUpdateJson]
  simp only [selfUpdateJson, afterHomeJson, length_asciiBytes_append, written]
  omega

end FullTree

/-- The largest ratchet tree that is authorized. -/
theorem not_savesAllOrNothing :
    (¬ ∀ (libraries : KeyLibraries), libraries.Lawful → libraries.eventJson.RoundTrips →
      ∀ (runtime : LocalRuntime) (write : SecretWrite), write.fault = .none →
        ∀ (state : RuntimeState) (event : SignableEvent) (history : List SignedEvent)
          (secret : SavedSecret), event.parents.length ≤ 128 →
          runtime.SavesAllOrNothing libraries write state event history secret) ∧
      ¬ ∀ (libraries : KeyLibraries), libraries.Lawful → libraries.eventJson.RoundTrips →
        ∀ (history : List SignedEvent) (event : SignedEvent), event.event.parents.length ≤ 128 →
          authorizeEventWithHistory history event = .ok () →
            FitsStore libraries.eventJson event := by
  obtain ⟨tree, isTree, treeLength⟩ :
      ∃ tree : List UInt8, tree = List.replicate (4194303 + 1) 255 ∧ tree.length = 4194304 :=
    ⟨_, rfl, List.length_replicate⟩
  have lawful : (selfUpdateLibraries tree).Lawful :=
    { decrypts := ringLibraries_lawful.decrypts
      readsBack := ringLibraries_lawful.readsBack
      keyReadsBack := ringLibraries_lawful.keyReadsBack
      keyIsPlain := ringLibraries_lawful.keyIsPlain }
  have long : eventJsonMaxBytes < (signedSelfUpdateJson tree).length := by
    have lower := length_signedSelfUpdateJson tree 4194303 isTree
    rw [eventJsonMaxBytes]
    omega
  have small : (signedCreationJson "home" signedHome).length ≤ eventJsonMaxBytes := by
    decide +kernel
  have roundTrips : (selfUpdateLibraries tree).eventJson.RoundTrips := by
    refine EventJson.ofPair_roundTrips fun same => ?_
    rw [same] at long
    omega
  have authorized := authorize_selfUpdate tree (by rw [treeLength]; decide)
  have isSigned := signEvent_selfUpdate tree
  have isJson :
      (selfUpdateLibraries tree).eventJson.toVec (signedSelfUpdate tree) =
        some (signedSelfUpdateJson tree) := by
    have apart : signedSelfUpdate tree ≠ signedHome := by
      intro same
      have sameBody := congrArg (fun event => event.event.body) same
      cases sameBody
    simp only [selfUpdateLibraries, EventJson.ofPair, if_neg apart, if_true]
  have refused : ¬FitsStore (selfUpdateLibraries tree).eventJson (signedSelfUpdate tree) := by
    intro fits
    obtain ⟨bytes, written, bound⟩ := (fitsStore_iff _ _).mp fits
    rw [isJson] at written
    cases written
    omega
  constructor
  · intro claim
    have allOrNothing :=
      ((selfUpdateRuntime tree).savesAllOrNothing_iff (selfUpdateLibraries tree) plainWrite rfl
        (stateWithRing firstRing) (selfUpdate tree) [signedHome] groupState).mp
        (claim _ lawful roundTrips _ plainWrite rfl _ (selfUpdate tree) _ groupState
          (by decide : 1 ≤ 128))
    rw [show (selfUpdateLibraries tree).primitives = selfUpdatePrimitives tree from rfl,
      isSigned] at allOrNothing
    rcases allOrNothing authorized with fits | nothingNew
    · exact refused fits
    · have absent := nothingNew [0x7b, 0x7d] rfl
      have noFile :
          (stateWithRing firstRing).files
            (SlashPath.resolve ringRuntime.secrets.here (ringRuntime.secretPath groupState)) =
            none := by
        decide +kernel
      cases noFile.symm.trans absent
  · intro claim
    exact refused (claim _ lawful roundTrips [signedHome] (signedSelfUpdate tree)
      (by decide : 1 ≤ 128) authorized)

end Chaft
