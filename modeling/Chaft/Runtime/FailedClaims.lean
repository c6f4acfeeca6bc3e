import Chaft.Runtime.InviteClaiming
import Chaft.Runtime.KeptKeys
import Chaft.Runtime.ReadYourWrites
import Chaft.Storage.AtomicAppend

/-!
# Claims that fail

A claim that fails before its events are appended records nothing.  What comes after the
events is the receipt.  A receipt of the new response is valid, since the device has just
signed it, but it can be too large; and a receipt that is kept already need not be one of
this claim.
-/

namespace Chaft

open Outcome SlashPath

/-- The signatures of a device verify. -/
structure DeviceIdentity.SignsBytes (primitives : Primitives) (identity : DeviceIdentity) :
    Prop where
  isKey : primitives.isVerifyingKey identity.verifyingKeyBytes = true
  signatureLength : ∀ bytes, (identity.sign bytes).length = 64
  verifies :
    ∀ bytes, primitives.verify identity.verifyingKeyBytes bytes (identity.sign bytes) = true

theorem DeviceIdentity.SignsBytes.verifyDetached
    {primitives : Primitives} {identity : DeviceIdentity}
    (signs : identity.SignsBytes primitives) (bytes : List UInt8) :
    verifyDeviceDetachedSignature primitives (identity.deviceId primitives)
      identity.verifyingKeyBytes bytes (identity.sign bytes) = .ok () := by
  have verified :
      verifyDetachedSignature primitives identity.verifyingKeyBytes bytes
        (identity.sign bytes) = .ok () := by
    simp only [verifyDetachedSignature, bind_eq_ok_iff, ensure_eq_ok_iff]
    exact ⟨(), signs.signatureLength bytes, (), signs.isKey, signs.verifies bytes⟩
  simp only [verifyDeviceDetachedSignature, bind_eq_ok_iff, ensure_eq_ok_iff]
  exact ⟨(), rfl, verified⟩

/-- What the answer to a claim relies on in its libraries. -/
structure ClaimLibraries.Lawful (libraries : ClaimLibraries) : Prop where
  publicKeyLength : ∀ secret, (libraries.x25519PublicKey secret).length = 32

/-- The error does not come from the event store. -/
def NotFromStore (raised : RuntimeError) : Prop :=
  ∀ error, raised ≠ .store error

namespace LocalRuntime

section Claims

variable (libraries : ClaimLibraries) (runtime : LocalRuntime)

/-- The decision to accept a claim whose events are appended then; `store` is the store
after that. -/
structure Appends
    (draw : ClaimDraw) (state : RuntimeState) (claim : WorkspaceInviteClaim)
    (invite : WorkspaceInviteView) (response : WorkspaceInviteResponse)
    (store : EventStore) : Prop where
  verified : runtime.verifyWorkspaceInviteClaim libraries state.store claim = .ok ()
  appended :
    ∃ context request member claimed,
      writeContext libraries state.store claim.workspaceId = .ok context ∧
        runtime.decideClaim libraries draw state claim context =
            .ok (.accept invite response request member claimed) ∧
          appendAcceptance libraries draw state.store claim
              (state.store.listEventIdsForWorkspace claim.workspaceId.text) request member
              claimed = (.ok (), store)

/-- There is a receipt of this claim, or there is none and the one of the response fits its
file. -/
def KeepsReceipt
    (files : SecretFiles) (claim : WorkspaceInviteClaim) (invite : WorkspaceInviteView)
    (response : WorkspaceInviteResponse) : Prop :=
  match files (runtime.responseReceiptPlace libraries claim.payload.inviteId
      claim.payload.requestId) with
  | some bytes =>
      bytes.length ≤ inviteResponseReceiptMaxBytes ∧
        ∃ kept,
          runtime.keptResponse libraries bytes claim invite.role invite.expiresAt = .ok kept
  | none =>
      ∃ bytes, libraries.responseReceiptToVec (receiptOf response) = some bytes ∧
        bytes.length + 1 ≤ inviteResponseReceiptMaxBytes

/-- A call that fails leaves the stored events of the workspace as they were. -/
def FailureRecordsNothing
    (draws : Nat → ClaimDraw) (state : RuntimeState) (claim : WorkspaceInviteClaim) : Prop :=
  ∀ raised after,
    runtime.claimWorkspaceInvite libraries draws state claim = (.error raised, after) →
      after.store.workspaceRows claim.workspaceId.text =
        state.store.workspaceRows claim.workspaceId.text

end Claims

/-! ## Errors before the events -/

section Errors

variable {libraries : ClaimLibraries} {runtime : LocalRuntime}

private theorem onlyRaises_map
    {α β : Type} (f : α → β) {computation : Except RuntimeError α}
    (only : OnlyRaises NotFromStore computation) :
    OnlyRaises NotFromStore (computation.map f) := by
  intro raised failed
  cases computation with
  | ok value => cases failed
  | error error =>
      cases failed
      exact only raised rfl

theorem onlyRaises_validateMetadataFieldSize (field value : String) (maxBytes : Nat) :
    OnlyRaises NotFromStore (validateMetadataFieldSize field value maxBytes) :=
  onlyRaises_ensure _ (by simp [NotFromStore])

theorem onlyRaises_validateWorkspaceInviteClaimRecordFields
    (claim : WorkspaceInviteClaim) (inviteeDeviceId : DeviceId) :
    OnlyRaises NotFromStore
      (validateWorkspaceInviteClaimRecordFields claim inviteeDeviceId) := by
  unfold validateWorkspaceInviteClaimRecordFields validateDeviceIdReference
  have sized := onlyRaises_validateMetadataFieldSize
  refine onlyRaises_bind (sized _ _ _) fun _ => ?_
  refine onlyRaises_bind (onlyRaises_ensure _ (by simp [NotFromStore])) fun _ => ?_
  refine onlyRaises_bind (sized _ _ _) fun _ => ?_
  refine onlyRaises_bind (sized _ _ _) fun _ => ?_
  refine onlyRaises_bind (sized _ _ _) fun _ => ?_
  refine onlyRaises_bind (sized _ _ _) fun _ => ?_
  refine onlyRaises_bind (sized _ _ _) fun _ => ?_
  refine onlyRaises_bind (sized _ _ _) fun _ => ?_
  exact onlyRaises_bind (sized _ _ _) fun _ => sized _ _ _

theorem onlyRaises_writeContext (store : EventStore) (workspaceId : WorkspaceId) :
    OnlyRaises NotFromStore (writeContext libraries store workspaceId) := by
  have validated : OnlyRaises NotFromStore (validateWorkspaceIdReference workspaceId) :=
    onlyRaises_mapError fun _ => by simp [NotFromStore]
  unfold writeContext workspaceWriteContext
  refine onlyRaises_bind validated fun _ => ?_
  refine onlyRaises_bind (onlyRaises_ensure _ (by simp [NotFromStore])) fun _ => ?_
  unfold workspaceWriteContextFromMaterializedEvents
  refine onlyRaises_bind validated fun _ => ?_
  split
  · exact onlyRaises_error (by simp [NotFromStore])
  · exact onlyRaises_bind (onlyRaises_ensure _ (by simp [NotFromStore])) fun _ =>
      onlyRaises_ok _

theorem onlyRaises_readLocalMetadataFileWithLimit
    (files : SecretFiles) (place : Place) (maxBytes : Nat) (field : String) :
    OnlyRaises NotFromStore (readLocalMetadataFileWithLimit files place maxBytes field) := by
  unfold readLocalMetadataFileWithLimit
  split
  · exact onlyRaises_ok none
  · exact onlyRaises_bind (onlyRaises_ensure _ (by simp [NotFromStore])) fun _ =>
      onlyRaises_ok _

theorem onlyRaises_readLocalSecretFile
    (files : SecretFiles) (path : List Char) (secretKind : String) :
    OnlyRaises NotFromStore
      (runtime.secrets.readLocalSecretFile libraries.toSecretLibraries files path
        secretKind) := by
  have derived :
      ∀ passphrase kdf,
        OnlyRaises NotFromStore
          (deriveLocalSecretKey libraries.toSecretLibraries passphrase kdf) := fun _ _ =>
    onlyRaises_bind (onlyRaises_ensure _ (by simp [NotFromStore])) fun _ =>
      onlyRaises_okOr _ (by simp [NotFromStore])
  have opened :
      ∀ encrypted pathHint passphrase,
        OnlyRaises NotFromStore
          (openLocalSecret libraries.toSecretLibraries encrypted secretKind pathHint
            passphrase) := by
    intro encrypted pathHint passphrase
    unfold openLocalSecret
    refine onlyRaises_bind (onlyRaises_ensure _ (by simp [NotFromStore])) fun _ => ?_
    refine onlyRaises_bind (onlyRaises_ensure _ (by simp [NotFromStore])) fun _ => ?_
    refine onlyRaises_bind (onlyRaises_okOr _ (by simp [NotFromStore])) fun _ => ?_
    refine onlyRaises_bind (derived _ _) fun _ => ?_
    refine onlyRaises_bind (onlyRaises_ensure _ (by simp [NotFromStore])) fun _ => ?_
    exact onlyRaises_mapError fun _ => by simp [NotFromStore]
  unfold LocalSecretStore.readLocalSecretFile
  refine onlyRaises_bind (onlyRaises_readLocalMetadataFileWithLimit _ _ _ _) fun _ => ?_
  refine onlyRaises_bind (onlyRaises_okOr _ (by simp [NotFromStore])) fun bytes => ?_
  refine onlyRaises_bind ?_ fun _ => onlyRaises_ok _
  unfold openSerializedLocalSecret
  split
  · exact onlyRaises_ok none
  · split
    · exact onlyRaises_ok none
    · exact onlyRaises_map _ (opened _ _ _)

theorem onlyRaises_fromBytes (isChannel : Bool) (bytes : List UInt8) :
    OnlyRaises NotFromStore (KeyRing.fromBytes libraries.toKeyLibraries isChannel bytes) := by
  have invalid : ∀ scope : KeyScope, NotFromStore scope.invalidKey := by
    intro scope
    cases scope <;> simp [NotFromStore, KeyScope.invalidKey]
  have decoded :
      ∀ (scope : KeyScope) (raw : RawKeyMaterial),
        OnlyRaises NotFromStore (decodeKeyMaterial scope.invalidKey raw) := by
    intro scope raw
    unfold decodeKeyMaterial
    split
    · exact onlyRaises_ok _
    · exact onlyRaises_error (invalid scope)
  unfold KeyRing.fromBytes KeyRing.fromPersisted decodeKeyRing
  refine onlyRaises_bind (onlyRaises_okOr _ (by simp [NotFromStore])) fun record => ?_
  refine onlyRaises_bind (onlyRaises_ensure _ (invalid _)) fun _ => ?_
  dsimp only
  split
  · refine onlyRaises_bind (decoded _ _) fun _ => ?_
    exact onlyRaises_bind (onlyRaises_mapM (decoded _) _) fun _ => onlyRaises_ok _
  · exact onlyRaises_error (invalid _)

theorem onlyRaises_exportWorkspaceKey (files : SecretFiles) (workspaceId : WorkspaceId) :
    OnlyRaises NotFromStore
      (runtime.exportWorkspaceKey libraries.toKeyLibraries files workspaceId) := by
  unfold exportWorkspaceKey exportKey
  refine onlyRaises_bind ?_ fun _ =>
    onlyRaises_bind (onlyRaises_okOr _ (by simp [NotFromStore, KeyScope.invalidKey]))
      fun _ => onlyRaises_ok _
  have read :=
    @onlyRaises_readLocalSecretFile libraries runtime files
      (runtime.keyPath (.workspace workspaceId)) (KeyScope.workspace workspaceId).secretKind
  unfold loadKey
  split
  · exact onlyRaises_map _ (onlyRaises_fromBytes _ _)
  · exact onlyRaises_ok none
  · rename_i raised _ isRaised
    exact onlyRaises_error (read raised isRaised)

theorem onlyRaises_sealWorkspaceInviteResponse
    (draw : ClaimDraw) (store : EventStore) (claim : WorkspaceInviteClaim)
    (role : WorkspaceRole) (expiresAt : String) (workspaceKey : ContentKeyExport) :
    OnlyRaises NotFromStore
      (runtime.sealWorkspaceInviteResponse libraries draw store claim role expiresAt
        workspaceKey) := by
  unfold sealWorkspaceInviteResponse
  refine onlyRaises_bind (onlyRaises_okOr _ (by simp [NotFromStore])) fun _ => ?_
  refine onlyRaises_bind (onlyRaises_okOr _ (by simp [NotFromStore])) fun _ => ?_
  refine onlyRaises_bind (onlyRaises_mapError fun _ => by simp [NotFromStore]) fun _ => ?_
  refine onlyRaises_bind (onlyRaises_writeContext _ _) fun _ => ?_
  exact onlyRaises_bind (onlyRaises_okOr _ (by simp [NotFromStore])) fun _ => onlyRaises_ok _

/-- The store is read for a decision, but its errors are not raised. -/
theorem onlyRaises_decideClaim
    (draw : ClaimDraw) (state : RuntimeState) (claim : WorkspaceInviteClaim)
    (context : WorkspaceWriteContext) :
    OnlyRaises NotFromStore (runtime.decideClaim libraries draw state claim context) := by
  unfold decideClaim
  refine onlyRaises_bind (onlyRaises_okOr _ (by simp [NotFromStore])) fun invite => ?_
  refine onlyRaises_bind (onlyRaises_ensure _ (by simp [NotFromStore])) fun _ => ?_
  refine onlyRaises_bind (onlyRaises_ensure _ (by simp [NotFromStore])) fun _ => ?_
  split
  · unfold retryClaim
    refine onlyRaises_bind (onlyRaises_okOr _ (by simp [NotFromStore])) fun _ => ?_
    refine onlyRaises_bind (onlyRaises_okOr _ (by simp [NotFromStore])) fun _ => ?_
    exact onlyRaises_bind (onlyRaises_ensure _ (by simp [NotFromStore])) fun _ =>
      onlyRaises_ok _
  · unfold acceptClaim
    have expiry : OnlyRaises NotFromStore
        (inviteIsExpired libraries draw.nowUtc invite.expiresAt) := by
      unfold inviteIsExpired
      split
      · exact onlyRaises_ok _
      · exact onlyRaises_bind (onlyRaises_okOr _ (by simp [NotFromStore])) fun _ =>
          onlyRaises_ok _
    refine onlyRaises_bind expiry fun _ => ?_
    refine onlyRaises_bind (onlyRaises_ensure _ (by simp [NotFromStore])) fun _ => ?_
    refine onlyRaises_bind (onlyRaises_ensure _ (by simp [NotFromStore])) fun _ => ?_
    refine onlyRaises_bind (onlyRaises_ensure _ (by simp [NotFromStore])) fun _ => ?_
    refine onlyRaises_bind (onlyRaises_validateWorkspaceInviteClaimRecordFields _ _)
      fun _ => ?_
    refine onlyRaises_bind (onlyRaises_exportWorkspaceKey _ _) fun _ => ?_
    refine onlyRaises_bind (onlyRaises_sealWorkspaceInviteResponse _ _ _ _ _ _) fun _ => ?_
    refine onlyRaises_bind (onlyRaises_mapError fun _ => by simp [NotFromStore]) fun _ => ?_
    refine onlyRaises_bind (onlyRaises_mapError fun _ => by simp [NotFromStore]) fun _ => ?_
    refine onlyRaises_bind (onlyRaises_mapError fun _ => by simp [NotFromStore]) fun _ => ?_
    exact onlyRaises_ok _

end Errors

/-! ## Receipts -/

section Receipts

variable {libraries : ClaimLibraries} {runtime : LocalRuntime}

/-- The device accepts the receipt of a response that it has just sealed. -/
theorem validate_of_sealed
    (lawful : libraries.Lawful) (signs : runtime.identity.SignsBytes libraries.primitives)
    {draw : ClaimDraw} {store : EventStore} {claim : WorkspaceInviteClaim}
    {role : WorkspaceRole} {expiresAt : String} {workspaceKey : ContentKeyExport}
    {response : WorkspaceInviteResponse}
    (made :
      runtime.sealWorkspaceInviteResponse libraries draw store claim role expiresAt
        workspaceKey = .ok response) :
    runtime.validateWorkspaceInviteResponseReceipt libraries (receiptOf response) claim role
      expiresAt = .ok () := by
  simp only [sealWorkspaceInviteResponse, bind_eq_ok_iff, Except.ok.injEq] at made
  obtain ⟨_, -, _, -, sealedKey, -, context, -, signingBytes, signed, rfl⟩ := made
  rw [okOr_eq_ok_iff] at signed
  simp only [validateWorkspaceInviteResponseReceipt, receiptOf, bind_eq_ok_iff,
    ensure_eq_ok_iff, okOr_eq_ok_iff, Hex.decode_encode, Option.some.injEq]
  refine ⟨(), ?_, _, rfl, signingBytes, signed, ?_⟩
  · simp [Hex.decode32_encode (lawful.publicKeyLength draw.senderSecret)]
  · rw [signs.verifyDetached]
    rfl

/-- A response that an acceptance carries is sealed. -/
theorem sealed_of_accepts
    {draw : ClaimDraw} {state : RuntimeState} {claim : WorkspaceInviteClaim}
    {context : WorkspaceWriteContext} {invite : WorkspaceInviteView}
    {response : WorkspaceInviteResponse} {request member claimed : SignedEvent}
    (decided :
      runtime.decideClaim libraries draw state claim context =
        .ok (.accept invite response request member claimed)) :
    ∃ workspaceKey,
      runtime.sealWorkspaceInviteResponse libraries draw state.store claim invite.role
        invite.expiresAt workspaceKey = .ok response := by
  simp only [decideClaim, bind_eq_ok_iff] at decided
  obtain ⟨view, -, _, -, _, -, decided⟩ := decided
  split at decided
  · simp only [retryClaim, bind_eq_ok_iff, Except.ok.injEq] at decided
    obtain ⟨_, -, _, -, _, -, impossible⟩ := decided
    cases impossible
  · simp only [acceptClaim, bind_eq_ok_iff, Except.ok.injEq] at decided
    obtain ⟨_, -, _, -, _, -, _, -, _, -, workspaceKey, -, made, isSealed, _, -, _, -, _, -,
      accepts⟩ := decided
    cases accepts
    exact ⟨workspaceKey, isSealed⟩

theorem onlyRaises_validateReceipt
    (receipt : WorkspaceInviteResponseReceipt) (claim : WorkspaceInviteClaim)
    (role : WorkspaceRole) (expiresAt : String) :
    OnlyRaises NotFromStore
      (runtime.validateWorkspaceInviteResponseReceipt libraries receipt claim role
        expiresAt) := by
  unfold validateWorkspaceInviteResponseReceipt
  refine onlyRaises_bind (onlyRaises_ensure _ (by simp [NotFromStore])) fun _ => ?_
  refine onlyRaises_bind (onlyRaises_okOr _ (by simp [NotFromStore])) fun _ => ?_
  refine onlyRaises_bind (onlyRaises_okOr _ (by simp [NotFromStore])) fun _ => ?_
  exact onlyRaises_mapError fun _ => by simp [NotFromStore]

theorem onlyRaises_answerClaim
    (draw : ClaimDraw) (state : RuntimeState) (claim : WorkspaceInviteClaim)
    (invite : WorkspaceInviteView) (memberEventId claimEventId : EventId)
    (candidate : Option WorkspaceInviteResponse) :
    OnlyRaises NotFromStore
      (runtime.answerClaim libraries draw state claim invite memberEventId claimEventId
        candidate).1 := by
  have read := onlyRaises_readLocalMetadataFileWithLimit state.files
    (runtime.responseReceiptPlace libraries claim.payload.inviteId claim.payload.requestId)
    inviteResponseReceiptMaxBytes "workspace invite response receipt"
  have kept :
      ∀ bytes,
        OnlyRaises NotFromStore
          (runtime.keptResponse libraries bytes claim invite.role invite.expiresAt) := fun _ =>
    onlyRaises_bind (onlyRaises_okOr _ (by simp [NotFromStore])) fun _ =>
      onlyRaises_bind (onlyRaises_validateReceipt _ _ _ _) fun _ => onlyRaises_ok _
  have toKeep :
      OnlyRaises NotFromStore
        (runtime.responseToKeep libraries draw state claim invite.role invite.expiresAt
          candidate) := by
    cases candidate with
    | some response => exact onlyRaises_ok response
    | none =>
        exact onlyRaises_bind (onlyRaises_exportWorkspaceKey _ _) fun _ =>
          onlyRaises_sealWorkspaceInviteResponse _ _ _ _ _ _
  have bytesMade :
      ∀ response,
        OnlyRaises NotFromStore
          (runtime.newReceiptBytes libraries claim invite.role invite.expiresAt response) :=
    fun _ =>
      onlyRaises_bind (onlyRaises_validateReceipt _ _ _ _) fun _ =>
        onlyRaises_bind (onlyRaises_okOr _ (by simp [NotFromStore])) fun _ =>
          onlyRaises_bind (onlyRaises_ensure _ (by simp [NotFromStore])) fun _ =>
            onlyRaises_ok _
  intro raised failed
  unfold answerClaim at failed
  split at failed
  · rename_i error files stored
    cases failed
    unfold workspaceInviteResponseReceiptOrStore at stored
    dsimp only at stored
    split at stored
    · rename_i isRaised
      cases stored
      exact read _ isRaised
    · rename_i bytes _
      exact kept bytes _ (congrArg Prod.fst stored)
    · split at stored
      · rename_i isRaised
        cases stored
        exact toKeep _ isRaised
      · rename_i response _
        split at stored
        · rename_i isRaised
          cases stored
          exact bytesMade response _ isRaised
        · split at stored
          · rename_i isRaised
            cases stored
            unfold writeSecretFile at isRaised
            split at isRaised
            · cases isRaised
            · cases isRaised
              simp [NotFromStore]
            · cases isRaised
              simp [NotFromStore]
          · cases stored
  · cases failed

/-- The answer to an accepted claim fails exactly without a receipt. -/
theorem answerClaim_cases
    (lawful : libraries.Lawful) (signs : runtime.identity.SignsBytes libraries.primitives)
    {draw sealing : ClaimDraw} (written : draw.receiptFault = .none) (state : RuntimeState)
    {store : EventStore} {claim : WorkspaceInviteClaim} {invite : WorkspaceInviteView}
    (memberEventId claimEventId : EventId) {workspaceKey : ContentKeyExport}
    {response : WorkspaceInviteResponse}
    (made :
      runtime.sealWorkspaceInviteResponse libraries sealing store claim invite.role
        invite.expiresAt workspaceKey = .ok response) :
    let answer :=
      runtime.answerClaim libraries draw state claim invite memberEventId claimEventId
        (some response)
    answer.2.store = state.store ∧
      (runtime.KeepsReceipt libraries state.files claim invite response ∧
          (∃ claimed, answer.1 = .ok claimed) ∨
        ¬ runtime.KeepsReceipt libraries state.files claim invite response ∧
          ∃ raised, answer.1 = .error raised) := by
  intro answer
  have validated := validate_of_sealed lawful signs made
  have isAnswer : answer = runtime.answerClaim libraries draw state claim invite memberEventId
      claimEventId (some response) := rfl
  rw [answerClaim, workspaceInviteResponseReceiptOrStore] at isAnswer
  unfold KeepsReceipt
  cases file : state.files (runtime.responseReceiptPlace libraries claim.payload.inviteId
      claim.payload.requestId) with
  | some bytes =>
      by_cases small : bytes.length ≤ inviteResponseReceiptMaxBytes
      · simp only [readLocalMetadataFileWithLimit, file, ensure, if_pos small, bind, Except.bind]
          at isAnswer
        cases kept :
            runtime.keptResponse libraries bytes claim invite.role invite.expiresAt with
        | error raised =>
            rw [kept] at isAnswer
            rw [isAnswer]
            refine ⟨rfl, Or.inr ⟨?_, raised, rfl⟩⟩
            intro keeps
            obtain ⟨-, _, isKept⟩ := keeps
            rw [kept] at isKept
            cases isKept
        | ok receipt =>
            rw [kept] at isAnswer
            rw [isAnswer]
            exact ⟨rfl, Or.inl ⟨⟨small, receipt, kept⟩, _, rfl⟩⟩
      · simp only [readLocalMetadataFileWithLimit, file, ensure, if_neg small, bind, Except.bind]
          at isAnswer
        rw [isAnswer]
        exact ⟨rfl, Or.inr ⟨fun keeps => small keeps.1, _, rfl⟩⟩
  | none =>
      simp only [readLocalMetadataFileWithLimit, file, responseToKeep, newReceiptBytes,
        validated, bind, Except.bind] at isAnswer
      cases serialized : libraries.responseReceiptToVec (receiptOf response) with
      | none =>
          simp only [serialized, okOr] at isAnswer
          rw [isAnswer]
          refine ⟨rfl, Or.inr ⟨?_, _, rfl⟩⟩
          simp
      | some bytes =>
          by_cases fits : bytes.length + 1 ≤ inviteResponseReceiptMaxBytes
          · simp only [serialized, okOr, ensure, if_pos fits, written, writeSecretFile]
              at isAnswer
            rw [isAnswer]
            exact ⟨rfl, Or.inl ⟨⟨bytes, rfl, fits⟩, _, rfl⟩⟩
          · simp only [serialized, okOr, ensure, if_neg fits] at isAnswer
            rw [isAnswer]
            refine ⟨rfl, Or.inr ⟨?_, _, rfl⟩⟩
            intro keeps
            obtain ⟨_, isBytes, small⟩ := keeps
            cases isBytes
            exact fits small

/-- The answer to a claim that was accepted before writes no events. -/
theorem answerClaim_store
    (draw : ClaimDraw) (state : RuntimeState) (claim : WorkspaceInviteClaim)
    (invite : WorkspaceInviteView) (memberEventId claimEventId : EventId)
    (candidate : Option WorkspaceInviteResponse) :
    (runtime.answerClaim libraries draw state claim invite memberEventId claimEventId
      candidate).2.store = state.store := by
  unfold answerClaim
  split <;> rfl

end Receipts

/-! ## Failures -/

section Failures

variable (libraries : ClaimLibraries) (runtime : LocalRuntime)

/-- The batch is refused without a change of the store, and not for the history. -/
theorem appendAcceptance_error
    {draw : ClaimDraw} {store left : EventStore} {claim : WorkspaceInviteClaim}
    {request member claimed : SignedEvent} {raised : RuntimeError}
    (failed :
      appendAcceptance libraries draw store claim
        (store.listEventIdsForWorkspace claim.workspaceId.text) request member claimed =
          (.error raised, left)) :
    left = store ∧ raised ≠ .store .workspaceHistoryChanged := by
  unfold appendAcceptance EventStore.appendEventsAtomicallyIfWorkspaceHistoryMatches at failed
  cases serialized : serializedBatch libraries.primitives libraries.eventJson
      claim.workspaceId.text [request, member, claimed] with
  | error error =>
      simp only [serialized, Prod.mk.injEq, Except.error.injEq] at failed
      obtain ⟨rfl, rfl⟩ := failed
      refine ⟨rfl, ?_⟩
      intro same
      rw [RuntimeError.store.injEq] at same
      have only :
          OnlyRaises (fun error => error ≠ StoreError.workspaceHistoryChanged)
            (serializedBatch libraries.primitives libraries.eventJson claim.workspaceId.text
              [request, member, claimed]) := by
        refine onlyRaises_mapM (fun event => ?_) _
        refine onlyRaises_bind (onlyRaises_ensure _ (by simp)) fun _ => ?_
        unfold serializedEvent
        refine onlyRaises_bind (onlyRaises_okOr _ (by simp)) fun _ => ?_
        exact onlyRaises_bind (onlyRaises_ensure _ (by simp)) fun _ => onlyRaises_ok _
      exact only error serialized same
  | ok rows =>
      simp only [serialized] at failed
      cases committed : batchTransaction draw.transactionFault store claim.workspaceId.text
          (store.listEventIdsForWorkspace claim.workspaceId.text) rows with
      | ok written => simp [committed] at failed
      | error error =>
          simp only [committed, Prod.mk.injEq, Except.error.injEq] at failed
          obtain ⟨rfl, rfl⟩ := failed
          refine ⟨rfl, ?_⟩
          intro same
          rw [RuntimeError.store.injEq] at same
          have inserts :
              ∀ (rows : List EventRow) (position : Nat) (store : EventStore),
                OnlyRaises (fun error => error ≠ StoreError.workspaceHistoryChanged)
                  (insertBatch draw.transactionFault position store rows) := by
            intro rows
            induction rows with
            | nil => exact fun _ _ => onlyRaises_ok _
            | cons row rest inductionHypothesis =>
                exact fun _ _ =>
                  onlyRaises_bind (onlyRaises_ensure _ (by simp)) fun _ =>
                    inductionHypothesis _ _
          have only :
              OnlyRaises (fun error => error ≠ StoreError.workspaceHistoryChanged)
                (batchTransaction draw.transactionFault store claim.workspaceId.text
                  (store.listEventIdsForWorkspace claim.workspaceId.text) rows) := by
            unfold batchTransaction
            refine onlyRaises_bind (onlyRaises_ensure _ (by simp)) fun _ => ?_
            refine onlyRaises_bind (onlyRaises_ensure _ (by simp)) fun _ => ?_
            refine onlyRaises_bind ?_ fun _ => ?_
            · intro raised failed
              rw [ensure_eq_error_iff] at failed
              exact absurd rfl failed.1
            · refine onlyRaises_bind (inserts _ _ _) fun _ => ?_
              exact onlyRaises_bind (onlyRaises_ensure _ (by simp)) fun _ => onlyRaises_ok _
          exact only error committed same

variable {libraries runtime} {draws : Nat → ClaimDraw} {state : RuntimeState}
  {claim : WorkspaceInviteClaim}

/-- The first attempt settles the call when no other process writes. -/
theorem claimWorkspaceInvite_eq
    (verified : runtime.verifyWorkspaceInviteClaim libraries state.store claim = .ok ())
    {context : WorkspaceWriteContext}
    (isContext : writeContext libraries state.store claim.workspaceId = .ok context) :
    runtime.claimWorkspaceInvite libraries draws state claim =
      runtime.claimWorkspaceInviteAgainstHistory libraries (draws 0) state claim context
        (state.store.listEventIdsForWorkspace claim.workspaceId.text) := by
  have settled :
      ∀ left,
        runtime.claimWorkspaceInviteAgainstHistory libraries (draws 0) state claim context
            (state.store.listEventIdsForWorkspace claim.workspaceId.text) ≠
          (.error (.store .workspaceHistoryChanged), left) := by
    intro left failed
    unfold claimWorkspaceInviteAgainstHistory at failed
    split at failed
    · rename_i isRaised
      cases failed
      exact onlyRaises_decideClaim _ _ _ _ _ isRaised _ rfl
    · exact onlyRaises_answerClaim _ _ _ _ _ _ _ _ (congrArg Prod.fst failed) _ rfl
    · split at failed
      · rename_i isRaised
        cases failed
        exact (appendAcceptance_error libraries isRaised).2 rfl
      · exact onlyRaises_answerClaim _ _ _ _ _ _ _ _ (congrArg Prod.fst failed) _ rfl
  rw [claimWorkspaceInvite, verified]
  dsimp only [inviteClaimHistoryRetryLimit]
  rw [claimAttempts, isContext]
  dsimp only
  rw [if_pos rfl]
  split
  · rename_i left failed
    exact absurd failed (settled left)
  · rfl

/-- Without an append the store stays. -/
theorem claimWorkspaceInvite_of_not_appends
    (never :
      ∀ invite response store,
        ¬ runtime.Appends libraries (draws 0) state claim invite response store) :
    (runtime.claimWorkspaceInvite libraries draws state claim).2.store = state.store := by
  cases verified : runtime.verifyWorkspaceInviteClaim libraries state.store claim with
  | error raised => rw [claimWorkspaceInvite, verified]
  | ok done =>
      cases isContext : writeContext libraries state.store claim.workspaceId with
      | error raised =>
          rw [claimWorkspaceInvite, verified]
          dsimp only [inviteClaimHistoryRetryLimit]
          rw [claimAttempts, isContext]
      | ok context =>
          rw [claimWorkspaceInvite_eq verified isContext, claimWorkspaceInviteAgainstHistory]
          split
          · rfl
          · exact answerClaim_store _ _ _ _ _ _ _
          · rename_i invite response request member claimed decided
            split
            · rename_i failed
              exact (appendAcceptance_error libraries failed).1
            · rename_i store appended
              exact absurd ⟨verified, context, request, member, claimed, isContext, decided,
                appended⟩ (never invite response store)

/-- After an append the call fails exactly without a receipt. -/
theorem claimWorkspaceInvite_of_appends
    (lawful : libraries.Lawful) (signs : runtime.identity.SignsBytes libraries.primitives)
    (written : (draws 0).receiptFault = .none) {invite : WorkspaceInviteView}
    {response : WorkspaceInviteResponse} {store : EventStore}
    (appends : runtime.Appends libraries (draws 0) state claim invite response store) :
    let result := runtime.claimWorkspaceInvite libraries draws state claim
    result.2.store = store ∧
      (runtime.KeepsReceipt libraries state.files claim invite response ∧
          (∃ claimed, result.1 = .ok claimed) ∨
        ¬ runtime.KeepsReceipt libraries state.files claim invite response ∧
          ∃ raised, result.1 = .error raised) := by
  obtain ⟨verified, context, request, member, claimed, isContext, decided, appended⟩ := appends
  obtain ⟨workspaceKey, isSealed⟩ := sealed_of_accepts decided
  rw [claimWorkspaceInvite_eq verified isContext, claimWorkspaceInviteAgainstHistory, decided]
  dsimp only
  rw [appended]
  exact answerClaim_cases lawful signs written { state with store := store } member.eventId
    claimed.eventId isSealed

/-- The events are appended one after the other when no group events follow. -/
theorem appendAcceptance_ok
    {draw : ClaimDraw} {store : EventStore} {claim : WorkspaceInviteClaim}
    {expectedEventIds : List EventId} {request member claimed : SignedEvent}
    (quiet : draw.groupEvents = [])
    (appended :
      (store.appendEventsAtomicallyIfWorkspaceHistoryMatches libraries.primitives
        libraries.eventJson draw.transactionFault claim.workspaceId.text expectedEventIds
        [request, member, claimed]).1 = .ok ()) :
    appendAcceptance libraries draw store claim expectedEventIds request member claimed =
      (.ok (), store.after libraries.primitives libraries.eventJson
        [request, member, claimed]) := by
  have isAfter := append_eq_after appended
  rw [appendAcceptance]
  split
  · rename_i failed
    rw [failed] at appended
    cases appended
  · rename_i left isLeft
    rw [isLeft] at isAfter
    dsimp only at isAfter
    rw [isAfter, quiet]
    rfl


/-- The decision and the append are determined. -/
theorem appends_iff
    {draw : ClaimDraw} {context : WorkspaceWriteContext} {invite : WorkspaceInviteView}
    {response : WorkspaceInviteResponse} {request member claimed : SignedEvent}
    {store : EventStore}
    (verified : runtime.verifyWorkspaceInviteClaim libraries state.store claim = .ok ())
    (isContext : writeContext libraries state.store claim.workspaceId = .ok context)
    (decided :
      runtime.decideClaim libraries draw state claim context =
        .ok (.accept invite response request member claimed))
    (appended :
      appendAcceptance libraries draw state.store claim
        (state.store.listEventIdsForWorkspace claim.workspaceId.text) request member claimed =
          (.ok (), store))
    (found : WorkspaceInviteView) (answered : WorkspaceInviteResponse) (left : EventStore) :
    runtime.Appends libraries draw state claim found answered left ↔
      found = invite ∧ answered = response ∧ left = store := by
  constructor
  · intro appends
    obtain ⟨-, other, _, _, _, isOther, isDecided, isAppended⟩ := appends
    rw [isContext, Except.ok.injEq] at isOther
    subst isOther
    rw [decided, Except.ok.injEq, ClaimDecision.accept.injEq] at isDecided
    obtain ⟨rfl, rfl, rfl, rfl, rfl⟩ := isDecided
    rw [appended, Prod.mk.injEq] at isAppended
    exact ⟨rfl, rfl, isAppended.2.symm⟩
  · intro same
    obtain ⟨rfl, rfl, rfl⟩ := same
    exact ⟨verified, context, request, member, claimed, isContext, decided, appended⟩

/-- Without a file only the length of a receipt counts. -/
theorem keepsReceipt_iff
    {files : SecretFiles} {invite : WorkspaceInviteView}
    {response : WorkspaceInviteResponse} {bytes : List UInt8}
    (noFile :
      files (runtime.responseReceiptPlace libraries claim.payload.inviteId
        claim.payload.requestId) = none)
    (serialized : libraries.responseReceiptToVec (receiptOf response) = some bytes) :
    runtime.KeepsReceipt libraries files claim invite response ↔
      bytes.length + 1 ≤ inviteResponseReceiptMaxBytes := by
  simp only [KeepsReceipt, noFile, serialized, Option.some.injEq, exists_eq_left']

end Failures

end LocalRuntime

/-! ## An invite for one guest

The founder invites one guest, and the guest claims the invite.  The endpoint in the claim,
to which the response goes back, is up to the guest. -/

def capabilityKey : List UInt8 :=
  [0xfc, 0x51, 0xcd, 0x8e, 0x62, 0x18, 0xa1, 0xa3, 0x8d, 0xa4, 0x7e, 0xd0,
    0x02, 0x30, 0xf0, 0x58, 0x08, 0x16, 0xed, 0x13, 0xba, 0x33, 0x03, 0xac,
    0x5d, 0xeb, 0x91, 0x15, 0x48, 0x90, 0x80, 0x25]

def responseKey : List UInt8 :=
  [0x61, 0x07, 0x82, 0x89, 0x3b, 0xd9, 0x69, 0xf6, 0x2e, 0x19, 0x03, 0xdd,
    0x81, 0x12, 0xb9, 0xd1, 0x16, 0x86, 0x4b, 0xd5, 0xd9, 0xd3, 0x31, 0x1d,
    0x4e, 0xc2, 0xea, 0x4c, 0x31, 0xa3, 0x80, 0x35]

def senderSecret : List UInt8 :=
  [0x01, 0x02, 0x03, 0x04, 0x05, 0x06, 0x07, 0x08, 0x09, 0x0a, 0x0b, 0x0c,
    0x0d, 0x0e, 0x0f, 0x10, 0x11, 0x12, 0x13, 0x14, 0x15, 0x16, 0x17, 0x18,
    0x19, 0x1a, 0x1b, 0x1c, 0x1d, 0x1e, 0x1f, 0x20]

def senderPublicKey : List UInt8 :=
  [0x07, 0xa3, 0x7c, 0xbc, 0x14, 0x20, 0x93, 0xc8, 0xb7, 0x55, 0xdc, 0x1b,
    0x10, 0xe8, 0x6c, 0xb4, 0x26, 0x37, 0x4a, 0xd1, 0x6a, 0xa8, 0x53, 0xed,
    0x0b, 0xdf, 0xc0, 0xb2, 0xb8, 0x6d, 0x1c, 0x7c]

def sharedSecret : List UInt8 :=
  [0x84, 0x35, 0xae, 0x35, 0x1f, 0x54, 0x47, 0x5d, 0x19, 0x0f, 0x92, 0x84,
    0xc9, 0x49, 0x59, 0xfa, 0xb0, 0x44, 0x5b, 0x3d, 0x2e, 0x12, 0x2b, 0x39,
    0x6a, 0x6f, 0x0e, 0x4b, 0x7c, 0x51, 0xf0, 0x77]

def responseContentKeyBytes : ContentKey :=
  ⟨[0x03, 0x4e, 0x10, 0x51, 0x7b, 0x19, 0x2a, 0x65, 0x0f, 0xcb, 0x1e, 0x37,
      0xa9, 0x8a, 0xe8, 0xb0, 0x53, 0xfe, 0x27, 0xfe, 0x9d, 0x60, 0x16, 0x8b,
      0x3d, 0x4b, 0x80, 0xd2, 0xbb, 0x98, 0xb1, 0x98],
    by decide⟩

/-- The export of the founder's ring, sealed under that key. -/
def sealedExport : List UInt8 :=
  [0x37, 0x24, 0xfa, 0x12, 0x8f, 0xfb, 0x02, 0xe6, 0x85, 0x76, 0x79, 0x43,
    0x9c, 0x88, 0xd4, 0x62, 0xe8, 0x44, 0xe4, 0x53, 0x28, 0x1b, 0x83, 0x19,
    0x5b, 0xee, 0x59, 0x64, 0x43, 0x00, 0xa7, 0x32, 0xb9, 0x03, 0x23, 0x89,
    0xc5, 0x52, 0xbe, 0x22, 0x24, 0x00, 0x00, 0x0d, 0x75, 0xd0, 0x60, 0x25,
    0xbf, 0xc9, 0xa2, 0x9e, 0xad, 0x2e, 0x7e, 0x83, 0x73, 0xef, 0xee, 0x1d,
    0x60, 0x60, 0xbb, 0xfa, 0x8f, 0xdf, 0xd1, 0xb4, 0x82, 0x09, 0x39, 0xce,
    0xcc, 0xe2, 0x28, 0xc0, 0x45, 0x76, 0x8e, 0x90, 0xbc, 0x1a, 0x62, 0xa1,
    0x01, 0xb9, 0xbd, 0x8e, 0xf5, 0xee, 0xa9, 0x55, 0x6b, 0x9e, 0xe0, 0xa6,
    0xe0, 0x17, 0x55, 0x7b, 0xa7, 0x5a, 0xda, 0xde, 0xcf, 0x88, 0xe6, 0xee,
    0xda, 0x21, 0x24, 0x2b, 0x67, 0xb1, 0x5d, 0xd1, 0xe5, 0xcc, 0xcf, 0xbc,
    0xe4, 0x1d, 0x6f, 0xf7, 0x60, 0xa5, 0xe7, 0x63, 0xbd, 0xe9, 0xd5, 0x17,
    0xd7, 0xb2, 0x6c, 0xf1, 0x3b, 0xf4, 0x40, 0x78, 0x0a, 0xbc, 0x45, 0x4e,
    0x0c, 0xa1, 0x2d, 0x64, 0xc1, 0x02, 0x86, 0xa6, 0x79, 0x4f, 0xb7, 0x06,
    0x00, 0x1e, 0x74, 0xfa, 0xa8, 0xc2, 0xd7, 0x95, 0x27, 0x7b, 0xe8, 0x30,
    0x06, 0x92, 0xd2, 0x72, 0xd6, 0xee, 0x07, 0xec, 0xc2, 0x34, 0x84, 0x2e,
    0x18, 0xfe, 0xf2, 0x8a, 0x43, 0x09, 0xf2, 0xe7, 0x9f, 0x2b, 0x0e, 0xa5,
    0x0c, 0x7f, 0xe2, 0x4d, 0x18, 0x41, 0x24, 0x27, 0xa9, 0xd8, 0xb9, 0xa8,
    0xe5, 0x09, 0x87, 0xdf, 0x41, 0xad, 0xe7, 0x30, 0xd2, 0xfb, 0x4b, 0x47,
    0x2d, 0x8d, 0x64, 0x42, 0x26, 0x80, 0x7c, 0xdb, 0x3e, 0xa7, 0xc0, 0x86,
    0x48, 0xa5, 0x5e, 0x9a, 0xcf, 0x65, 0xae, 0x40, 0xce, 0x1f, 0x9b, 0x21,
    0x55, 0x7d, 0x12, 0x8b, 0x67, 0xe3, 0x55, 0x89, 0xb9, 0xa2, 0xd4, 0xc7,
    0xd4, 0x35, 0x8e, 0xbf, 0x04, 0x6f, 0xcc, 0x00, 0x51, 0x2c, 0xbd, 0xb6,
    0x38, 0x81, 0x56, 0x87, 0xc4, 0x27, 0x95, 0x7d, 0x74, 0xd8, 0xb5, 0x42,
    0x2e, 0x9e]

def capabilityHash : String :=
  "4530382acd7755f63435adbbd8c735d6631b94ea05a32a0f642e9afbf496b38c"

def capabilitySignature : List UInt8 :=
  [0x9d, 0xd3, 0x45, 0x0c, 0x73, 0xe5, 0xbc, 0x61, 0xf3, 0x8b, 0x7d, 0x08,
    0xd4, 0xe6, 0x8f, 0x7a, 0x45, 0x89, 0x9c, 0xec, 0x0a, 0xf9, 0xd6, 0x4c,
    0xca, 0x36, 0x74, 0xb4, 0x39, 0x5e, 0x8b, 0xc1, 0x15, 0xf5, 0x29, 0xc8,
    0x3b, 0xae, 0xbd, 0x1a, 0x72, 0x2f, 0x9c, 0x26, 0x41, 0x53, 0x8f, 0xd3,
    0xf3, 0x4b, 0x1a, 0x5c, 0xf0, 0xc5, 0xe9, 0x41, 0xec, 0xb6, 0x19, 0xb8,
    0xae, 0xfe, 0x04, 0x0e]

def requestHash : String :=
  "f09c6af25aa83e0274746259d5b9893a7d6b1a79341389f87cf90cd37713815b"

def requestSignature : List UInt8 :=
  [0x95, 0x39, 0x81, 0x75, 0x4f, 0x1a, 0xb7, 0x4b, 0x89, 0x35, 0xb9, 0xda,
    0x39, 0xb8, 0x46, 0x96, 0xf6, 0xcb, 0x74, 0x24, 0x50, 0xb1, 0x16, 0x77,
    0xa1, 0x05, 0xf2, 0x15, 0x35, 0x9d, 0x37, 0x81, 0xb2, 0xa7, 0x73, 0x9d,
    0x68, 0xab, 0x8b, 0x6d, 0xe9, 0xc8, 0x9e, 0x1b, 0x7c, 0xfa, 0xd8, 0x68,
    0x9d, 0x0b, 0x10, 0x9d, 0xb6, 0x5a, 0x26, 0x90, 0xd0, 0xdd, 0x04, 0xd2,
    0x8a, 0x6e, 0xde, 0x00]

def memberHash : String :=
  "b6015f1a3558b5050ef68bdb4a50ca2628aae973e6de206d2d48ce3a30ff8897"

def memberSignature : List UInt8 :=
  [0xf7, 0xd5, 0xbd, 0x9e, 0xba, 0x1f, 0xd1, 0xf0, 0x26, 0x14, 0xb5, 0x65,
    0x8b, 0x92, 0xa6, 0x1a, 0x03, 0x8c, 0xc1, 0x9e, 0xd2, 0x45, 0x9c, 0xb0,
    0x65, 0x1a, 0x2a, 0x16, 0x66, 0x0a, 0x82, 0xdb, 0xce, 0xd2, 0x06, 0xfd,
    0x0f, 0x0b, 0xf4, 0x84, 0x4d, 0xcf, 0xb8, 0x5e, 0x40, 0x2f, 0xa7, 0xed,
    0x5c, 0x92, 0xc3, 0x17, 0xf4, 0x35, 0x80, 0x08, 0xfa, 0xcc, 0x05, 0x94,
    0xe3, 0xb3, 0x36, 0x08]

def claimedHash : String :=
  "08a4d22f1593ac640d6d17ccf7bbb2bcbee78e45d15986d710393c767507326f"

def claimedSignature : List UInt8 :=
  [0xf0, 0xc3, 0x44, 0x0b, 0xb0, 0x41, 0xc0, 0xeb, 0x41, 0x37, 0x4d, 0x76,
    0xbc, 0xa1, 0x1e, 0x58, 0xfd, 0x4c, 0xeb, 0x48, 0xfc, 0x65, 0x54, 0x8e,
    0x01, 0x09, 0xf7, 0x39, 0x66, 0x3d, 0x90, 0x7f, 0xa5, 0x08, 0xf8, 0x10,
    0x89, 0x12, 0x70, 0xe8, 0xf5, 0x2d, 0xd2, 0xf7, 0x23, 0x70, 0x7f, 0xef,
    0xd6, 0x1b, 0xa6, 0xda, 0x1b, 0x83, 0x68, 0x70, 0x40, 0xe6, 0x04, 0x31,
    0xaf, 0x9e, 0x81, 0x00]

def promotionHash : String :=
  "fce799da6f8c615bfb485f74dab1d8f6b10c83360ab05d0e97a5ae91572b6176"

def promotionSignature : List UInt8 :=
  [0xb4, 0xc6, 0x64, 0x31, 0x1f, 0x94, 0x0f, 0xd9, 0x73, 0x31, 0x4e, 0x06,
    0x2c, 0x85, 0xe1, 0x44, 0xda, 0x0d, 0x52, 0x3e, 0xe0, 0x21, 0xfb, 0x4b,
    0x3b, 0xe7, 0x28, 0x88, 0x74, 0x32, 0x4f, 0xd0, 0x2f, 0x0b, 0x1b, 0xd7,
    0xd4, 0x91, 0x1c, 0xfa, 0xf1, 0xea, 0x65, 0xc2, 0xc1, 0x1a, 0x68, 0xba,
    0x66, 0x58, 0x2f, 0xae, 0xbb, 0xaa, 0x89, 0xe0, 0x70, 0xb9, 0x11, 0x87,
    0x93, 0xd5, 0x6b, 0x09]

def shortDeviceSignature : List UInt8 :=
  [0xfb, 0xb2, 0x2e, 0x4a, 0xe3, 0x50, 0x98, 0x6d, 0x64, 0xde, 0xea, 0xad,
    0xdb, 0x16, 0xe9, 0x76, 0xaa, 0xa6, 0xb6, 0x7a, 0x75, 0x0f, 0x7a, 0x65,
    0xf9, 0xee, 0x7e, 0x33, 0x3c, 0x72, 0xdf, 0x10, 0x41, 0xe0, 0x08, 0x04,
    0xa4, 0x33, 0xb4, 0x23, 0x38, 0xf0, 0x5b, 0x38, 0xb0, 0xe3, 0x60, 0x6b,
    0x04, 0x0f, 0x3c, 0x86, 0xe3, 0x61, 0x29, 0x68, 0x22, 0x76, 0x1e, 0x40,
    0x27, 0xfe, 0xe1, 0x05]

def shortCapabilitySignature : List UInt8 :=
  [0x23, 0xf4, 0x61, 0x43, 0x29, 0xd1, 0xa3, 0xf5, 0x02, 0xc2, 0x30, 0x64,
    0x28, 0x58, 0x3d, 0x9e, 0xf3, 0xec, 0x0a, 0x18, 0xe6, 0x13, 0x47, 0xde,
    0x52, 0x6d, 0x0d, 0xbd, 0x6e, 0x6e, 0xcb, 0xc5, 0xa7, 0x19, 0x85, 0xf8,
    0xb4, 0xad, 0xc9, 0x4d, 0x1f, 0xf4, 0x30, 0x3c, 0x82, 0x99, 0x46, 0x77,
    0x76, 0x62, 0xaa, 0x66, 0x4e, 0x29, 0x3b, 0x1d, 0xa9, 0x48, 0x9a, 0xe4,
    0x21, 0x27, 0x96, 0x07]

def shortResponseSignature : List UInt8 :=
  [0x71, 0xfb, 0x50, 0x01, 0xdd, 0xab, 0xfc, 0xdb, 0x92, 0x9e, 0xe7, 0x8d,
    0xad, 0x06, 0x09, 0xaa, 0x55, 0xfd, 0x7a, 0xde, 0xca, 0x80, 0x9a, 0x3c,
    0xd1, 0x34, 0x96, 0x9c, 0x84, 0x0d, 0x25, 0x35, 0xec, 0xf6, 0x92, 0x5a,
    0xef, 0xce, 0xff, 0x27, 0x8a, 0x88, 0x01, 0x2a, 0x9f, 0xf9, 0xb3, 0x3d,
    0xfe, 0xd4, 0x01, 0x2f, 0xf4, 0x67, 0xef, 0x53, 0x11, 0x6c, 0x28, 0xac,
    0x3f, 0xcc, 0x7b, 0x0f]

def longDeviceSignature : List UInt8 :=
  [0x40, 0xa4, 0xb4, 0x25, 0x52, 0xed, 0xcc, 0x0f, 0xe2, 0x9c, 0x83, 0x7b,
    0x56, 0xb8, 0x9a, 0x6d, 0x21, 0x52, 0x61, 0xbe, 0x30, 0x75, 0x5d, 0x6e,
    0xbf, 0xc2, 0x1a, 0x5b, 0x2d, 0x20, 0xd7, 0x03, 0x4b, 0xab, 0xce, 0xf1,
    0x4d, 0x49, 0x65, 0x7e, 0x77, 0x50, 0x74, 0x92, 0xe4, 0x9c, 0xbe, 0x87,
    0x42, 0xcf, 0xdf, 0x51, 0xf8, 0x4d, 0x97, 0x2e, 0xb7, 0xdd, 0xa9, 0x5c,
    0xb2, 0xd6, 0x50, 0x04]

def longCapabilitySignature : List UInt8 :=
  [0x9c, 0xde, 0x34, 0xd0, 0x06, 0xde, 0x5d, 0x71, 0x76, 0x32, 0x7e, 0x52,
    0xa4, 0x17, 0x82, 0x26, 0x70, 0xf8, 0x26, 0xef, 0x22, 0x0b, 0xca, 0x68,
    0xc5, 0xf4, 0x86, 0x4b, 0x58, 0x69, 0xe5, 0x15, 0x45, 0xdf, 0x04, 0xd0,
    0x02, 0x33, 0xa0, 0xfd, 0xff, 0xef, 0x8d, 0x65, 0x4c, 0x60, 0x56, 0x9a,
    0x8e, 0xf9, 0x47, 0x3e, 0xde, 0xcc, 0x5b, 0x66, 0x9b, 0x03, 0xd2, 0xf3,
    0x00, 0x38, 0xea, 0x08]

def longResponseSignature : List UInt8 :=
  [0x22, 0x83, 0x3b, 0x97, 0x0d, 0xb6, 0x44, 0xe4, 0x39, 0x18, 0x9b, 0xd2,
    0x68, 0x00, 0xf3, 0x69, 0x48, 0x6e, 0x34, 0xe8, 0x29, 0x01, 0x95, 0xc2,
    0xa1, 0x2b, 0x9d, 0x4f, 0x4b, 0xe7, 0xab, 0x76, 0xea, 0x3b, 0x7d, 0xe5,
    0x44, 0x32, 0x9d, 0x02, 0xd3, 0xc6, 0x4c, 0xd6, 0xd8, 0x39, 0x9c, 0xe7,
    0x7e, 0xe9, 0x67, 0x1a, 0x93, 0x93, 0xf5, 0x0c, 0x43, 0xcb, 0x77, 0x7b,
    0x02, 0xb7, 0x8c, 0x00]

/-- An event of workspace `w` after another one. -/
def following (deviceHash parentHash : String) (body : EventBody) : SignableEvent :=
  { afterHome deviceHash body with parents := [⟨"evt_" ++ parentHash⟩] }

def followingJson (deviceHash parentHash : String) (bodyJson : List String) : List String :=
  ["\x7b\"schema_version\":1,", "\"workspace_id\":\"w\",", "\"channel_id\":null,",
    "\"author_device_id\":\"dev_", deviceHash, "\",", "\"timestamp\":",
    "\x7b\"physical_ms\":0,\"logical\":0\x7d,", "\"parents\":[\"evt_", parentHash, "\"],",
    "\"body\":"] ++ bodyJson ++ ["\x7d"]

/-- A signed event with the JSON that its author signs. -/
structure WrittenEvent where
  signed : SignedEvent
  json : List String

/-- An event of the founder. -/
def foundersEvent
    (parentHash hash : String) (signature : List UInt8) (body : EventBody)
    (bodyJson : List String) : WrittenEvent where
  signed :=
    { eventId := ⟨"evt_" ++ hash⟩
      event := following homeDeviceHash parentHash body
      authorPublicKey := homeKey
      signature := signature }
  json := followingJson homeDeviceHash parentHash bodyJson

def guestId : DeviceId := ⟨"dev_" ++ strangerDeviceHash⟩

def writtenHome : WrittenEvent := ⟨signedHome, homeCreationJson "home"⟩

def writtenCapability : WrittenEvent :=
  foundersEvent homeEventHash capabilityHash capabilitySignature
    (.workspaceInviteCapabilityCreated "i" "" .member "" (Hex.encode capabilityKey) "" none)
    ["\x7b\"kind\":\"workspace_invite_capability_created\",", "\"invite_id\":\"i\",",
      "\"display_name\":\"\",\"role\":\"member\",", "\"expires_at\":\"\",",
      "\"capability_public_key\":\"", Hex.encode capabilityKey, "\",",
      "\"sync_expectation\":\"\"\x7d"]

def writtenRequest : WrittenEvent :=
  foundersEvent capabilityHash requestHash requestSignature
    (.workspaceJoinRequestRecorded "r" guestId "guest" "" "invite_claim" "i" "" "preapproved" "")
    ["\x7b\"kind\":\"workspace_join_request_recorded\",", "\"request_id\":\"r\",",
      "\"requester_device_id\":\"dev_", strangerDeviceHash, "\",",
      "\"display_name\":\"guest\",\"note\":\"\",", "\"source_type\":\"invite_claim\",",
      "\"source_invite_id\":\"i\",\"source_display_name\":\"\",",
      "\"source_approval_policy\":\"preapproved\",", "\"response_peer_endpoint\":\"\"\x7d"]

def writtenMember : WrittenEvent :=
  foundersEvent requestHash memberHash memberSignature (.memberInvited guestId .member)
    ["\x7b\"kind\":\"member_invited\",", "\"invitee_device_id\":\"dev_", strangerDeviceHash,
      "\",", "\"role\":\"member\"\x7d"]

def writtenClaimed : WrittenEvent :=
  foundersEvent memberHash claimedHash claimedSignature (.workspaceInviteClaimed "i" guestId "r")
    ["\x7b\"kind\":\"workspace_invite_claimed\",", "\"invite_id\":\"i\",",
      "\"invitee_device_id\":\"dev_", strangerDeviceHash, "\",", "\"request_id\":\"r\"\x7d"]

/-- The guest becomes an administrator. -/
def writtenPromotion : WrittenEvent :=
  foundersEvent claimedHash promotionHash promotionSignature (.memberRoleUpdated guestId .admin)
    ["\x7b\"kind\":\"member_role_updated\",", "\"member_device_id\":\"dev_",
      strangerDeviceHash, "\",", "\"role\":\"admin\"\x7d"]

def writtenEvents : List WrittenEvent :=
  [writtenHome, writtenCapability, writtenRequest, writtenMember, writtenClaimed,
    writtenPromotion]

/-- The first events of the workspace: two before the claim, three more that accept it. -/
def doorHistory (length : Nat) : List SignedEvent :=
  (writtenEvents.take length).map WrittenEvent.signed

/-! ### Messages -/

def createdAtText : String := "2026-01-01T00:00:00Z"

def guestClaimPayload (endpoint : String) : WorkspaceInviteClaimPayload where
  kind := workspaceInviteClaimKind
  schemaVersion := workspaceInviteClaimSchemaVersion
  requestId := "r"
  workspaceId := "w"
  workspaceName := "home"
  inviteId := "i"
  deviceId := "dev_" ++ strangerDeviceHash
  devicePublicKey := Hex.encode strangerKey
  responseEncryptionPublicKey := Hex.encode responseKey
  displayName := "guest"
  note := ""
  deliveryDeviceId := "dev_" ++ homeDeviceHash
  deliveryDisplayName := ""
  deliveryPeerEndpoint := endpoint
  responsePeerEndpoint := ""
  sourceType := "invite_claim"
  sourceInviteId := "i"
  sourceDisplayName := ""
  sourceApprovalPolicy := "preapproved"
  createdAt := createdAtText

def guestClaimJson (endpoint : String) : List UInt8 :=
  asciiBytes
    ["\x7b\"kind\":\"", workspaceInviteClaimKind, "\",\"schemaVersion\":1,",
      "\"requestId\":\"r\",\"workspaceId\":\"w\",", "\"workspaceName\":\"home\",",
      "\"inviteId\":\"i\",\"deviceId\":\"dev_", strangerDeviceHash,
      "\",\"devicePublicKey\":\"", Hex.encode strangerKey,
      "\",\"responseEncryptionPublicKey\":\"", Hex.encode responseKey,
      "\",\"displayName\":\"guest\",\"note\":\"\",", "\"deliveryDeviceId\":\"dev_",
      homeDeviceHash, "\",\"deliveryDisplayName\":\"\",", "\"deliveryPeerEndpoint\":\"", endpoint,
      "\",\"responsePeerEndpoint\":\"\",", "\"sourceType\":\"invite_claim\",",
      "\"sourceInviteId\":\"i\",\"sourceDisplayName\":\"\",",
      "\"sourceApprovalPolicy\":\"preapproved\",", "\"createdAt\":\"", createdAtText, "\"\x7d"]

def guestClaim
    (endpoint : String) (deviceSignature capabilitySignature : List UInt8) :
    WorkspaceInviteClaim where
  payload := guestClaimPayload endpoint
  deviceSignature := Hex.encode deviceSignature
  capabilitySignature := Hex.encode capabilitySignature

def sealedExportPayload : SealedPayload where
  mode := .aes256GcmSiv
  keyId := "invite-response:i"
  nonce := List.replicate 12 0
  aad := responseAad "w" "i" ("dev_" ++ strangerDeviceHash) "r"
  bytes := sealedExport

def doorResponsePayload (endpoint : String) : WorkspaceInviteResponsePayload where
  kind := workspaceInviteResponseKind
  schemaVersion := workspaceInviteResponseSchemaVersion
  requestId := "r"
  workspaceId := "w"
  workspaceName := "home"
  inviteId := "i"
  inviteeDeviceId := "dev_" ++ strangerDeviceHash
  role := .member
  expiresAt := ""
  responderDeviceId := "dev_" ++ homeDeviceHash
  responderPublicKey := Hex.encode homeKey
  senderEphemeralPublicKey := Hex.encode senderPublicKey
  sealedWorkspaceKey := sealedExportPayload
  peerEndpoint := endpoint
  createdAt := createdAtText

/-- The fields of the payload in JSON. -/
def responseFieldsJson (endpoint : String) : List String :=
  ["\"kind\":\"", workspaceInviteResponseKind, "\",\"schemaVersion\":1,",
    "\"requestId\":\"r\",\"workspaceId\":\"w\",", "\"workspaceName\":\"home\",",
    "\"inviteId\":\"i\",\"inviteeDeviceId\":\"dev_", strangerDeviceHash,
    "\",\"role\":\"member\",\"expiresAt\":\"\",", "\"responderDeviceId\":\"dev_", homeDeviceHash,
    "\",\"responderPublicKey\":\"", Hex.encode homeKey, "\",\"senderEphemeralPublicKey\":\"",
    Hex.encode senderPublicKey, "\",\"sealedWorkspaceKey\":\x7b\"mode\":\"aes256_gcm_siv\",",
    "\"key_id\":\"invite-response:i\",", "\"nonce\":"] ++
    bytesJson sealedExportPayload.nonce ++ [",\"aad\":"] ++ bytesJson sealedExportPayload.aad ++
      [",\"bytes\":"] ++ bytesJson sealedExport ++
        ["\x7d,\"peerEndpoint\":\"", endpoint, "\",\"createdAt\":\"", createdAtText, "\""]

def responseJson (endpoint : String) : List UInt8 :=
  asciiBytes (["\x7b"] ++ responseFieldsJson endpoint ++ ["\x7d"])

/-- More bytes than a receipt may have. -/
def longEndpoint : String := String.ofList (List.replicate 65536 'a')

/-! ### Libraries -/

/-- What the founder signs, with the signatures. -/
def founderSignatures : List (List UInt8 × List UInt8) :=
  writtenEvents.map (fun written => (asciiBytes written.json, written.signed.signature)) ++
    [(responseJson "", shortResponseSignature), (responseJson longEndpoint, longResponseSignature)]

/-- Other bytes get a signature of zeros, which is not looked at here. -/
def founderSign (bytes : List UInt8) : List UInt8 :=
  ((founderSignatures.find? fun entry => decide (entry.1 = bytes)).map Prod.snd).getD
    (List.replicate 64 0)

/-- The signatures of the guest and of the capability. -/
def guestSignatures : List (List UInt8 × List UInt8 × List UInt8) :=
  [(strangerKey, guestClaimJson "", shortDeviceSignature),
    (capabilityKey, guestClaimJson "", shortCapabilitySignature),
    (strangerKey, guestClaimJson longEndpoint, longDeviceSignature),
    (capabilityKey, guestClaimJson longEndpoint, longCapabilitySignature)]

def receiptFileId : String :=
  "0dbe366ade4b019acd755b06777098ed5c01a6d2d4d3b090a981c3a0f8ae3df0"

/-- The hash of an event is behind the prefix of its ID. -/
def doorHashes : List (List UInt8 × String) :=
  [(homeKey, homeDeviceHash), (strangerKey, strangerDeviceHash),
    (Utf8.encode "i\x00r".toList, receiptFileId)] ++
    List.zipWith (fun written hash => (asciiBytes written.json ++ written.signed.signature, hash))
      writtenEvents
      [homeEventHash, capabilityHash, requestHash, memberHash, claimedHash, promotionHash]

/-- The primitives as they behave on these events and messages. -/
def doorPrimitives : Primitives where
  blake3Hex bytes :=
    ((doorHashes.find? fun entry => decide (entry.1 = bytes)).map Prod.snd).getD ""
  isVerifyingKey bytes := [homeKey, strangerKey, capabilityKey].contains bytes
  verify key bytes signature :=
    guestSignatures.contains (key, bytes, signature) ||
      decide (key = homeKey) && decide (signature = founderSign bytes)
  signableEventJson event :=
    ((writtenEvents.find? fun written => decide (written.signed.event = event)).map
      fun written => asciiBytes written.json).getD []
  trustSnapshotJson _ := []

def doorEventJson : EventJson :=
  .ofList
    (writtenEvents.map fun written => (written.signed, signedEventJson written.signed written.json))

def exportJson : List UInt8 :=
  asciiBytes
    (["\x7b\"schemaVersion\":2,\"workspaceId\":\"w\",", "\"epoch\":1,\"keyId\":\"w:content:v1\",",
      "\"exporterDeviceId\":\"dev_", homeDeviceHash, "\",\"aes256GcmSivKey\":"] ++
      bytesJson firstKey.bytes ++ [",\"previousKeys\":[]\x7d"])

def doorResponse (endpoint : String) : WorkspaceInviteResponse where
  payload := doorResponsePayload endpoint
  responderSignature := Hex.encode (founderSign (responseJson endpoint))

def receiptJson (endpoint : String) : List UInt8 :=
  asciiBytes
    (["\x7b\"kind\":\"", inviteResponseReceiptKind, "\",\"schemaVersion\":1,", "\"response\":\x7b"] ++
      responseFieldsJson endpoint ++
        [",\"responderSignature\":\"", (doorResponse endpoint).responderSignature,
          "\"\x7d\x7d"])

/-- The receipts that are written here, by the endpoints in their responses. -/
def readReceipt (bytes : List UInt8) : List String → Option WorkspaceInviteResponseReceipt
  | [] => none
  | endpoint :: rest =>
      if bytes = receiptJson endpoint ++ [newline] then
        some (LocalRuntime.receiptOf (doorResponse endpoint))
      else
        readReceipt bytes rest

def doorLibraries : ClaimLibraries where
  toInviteLibraries :=
    { ringLibraries.toInviteLibraries with
      primitives := doorPrimitives
      eventJson := doorEventJson
      aead :=
        { encrypt := fun key nonce plaintext aad =>
            if key = responseContentKeyBytes ∧ nonce = sealedExportPayload.nonce ∧
                plaintext = exportJson ∧ aad = sealedExportPayload.aad then
              some sealedExport
            else
              none
          decrypt := fun key nonce ciphertext aad =>
            if key = responseContentKeyBytes ∧ nonce = sealedExportPayload.nonce ∧
                ciphertext = sealedExport ∧ aad = sealedExportPayload.aad then
              some exportJson
            else
              none }
      deriveKey := fun context bytes =>
        if context = responseKeyContext ∧ bytes = sharedSecret then
          responseContentKeyBytes
        else
          firstKey
      diffieHellman := fun secretKey publicKey =>
        if secretKey = senderSecret ∧ publicKey = responseKey then sharedSecret else []
      responsePayloadToVec := fun payload =>
        if payload = doorResponsePayload payload.peerEndpoint then
          some (responseJson payload.peerEndpoint)
        else
          none }
  claimPayloadToVec payload :=
    if payload = guestClaimPayload payload.deliveryPeerEndpoint then
      some (guestClaimJson payload.deliveryPeerEndpoint)
    else
      none
  workspaceKeyExportToVec exported :=
    if exported = firstRing.exported ("dev_" ++ homeDeviceHash) then some exportJson else none
  responseReceiptToVec receipt :=
    if receipt = LocalRuntime.receiptOf (doorResponse receipt.response.payload.peerEndpoint) then
      some (receiptJson receipt.response.payload.peerEndpoint)
    else
      none
  responseReceiptFromSlice bytes := readReceipt bytes ["", longEndpoint]
  x25519PublicKey secret := if secret = senderSecret then senderPublicKey else List.replicate 32 0
  parseRfc3339 _ := none

def doorRuntime : LocalRuntime :=
  { ringRuntime with
    identity :=
      { verifyingKeyBytes := homeKey
        sign := founderSign } }

/-- The founder's device after some of the events. -/
def doorState (length : Nat) : RuntimeState where
  files := (stateWithRing firstRing).files
  store := EventStore.empty.after doorPrimitives doorEventJson (doorHistory length)

def doorDraw : ClaimDraw where
  nowUtc := 0
  createdAt := createdAtText
  senderSecret := senderSecret
  nonce := List.replicate 12 0
  requestTimestamp := ⟨0, 0⟩
  memberTimestamp := ⟨0, 0⟩
  claimedTimestamp := ⟨0, 0⟩
  groupEvents := []
  transactionFault := none
  receiptFault := .none

theorem doorLibraries_lawful : doorLibraries.Lawful where
  publicKeyLength secret := by
    dsimp only [doorLibraries]
    split
    · rfl
    · exact List.length_replicate

/-- What the founder wrote, evaluated at once. -/
private theorem writtenEvents_facts :
    (∀ written ∈ writtenEvents,
        written.signed.signature.length = 64 ∧
          doorRuntime.identity.signEvent doorPrimitives written.signed.event = written.signed ∧
            isAppended doorPrimitives doorEventJson written.signed = true ∧
              written.signed.event.authorDeviceId = doorRuntime.identity.deviceId doorPrimitives ∧
                written.signed.event.workspaceId = ⟨"w"⟩) ∧
      ((writtenEvents.map WrittenEvent.signed).map SignedEvent.eventId).Nodup ∧
        doorPrimitives.isVerifyingKey doorRuntime.identity.verifyingKeyBytes = true ∧
          doorRuntime.identity.deviceId doorLibraries.primitives =
            ⟨"dev_" ++ homeDeviceHash⟩ ∧
          ((writtenEvents.map fun written =>
              (written.signed, signedEventJson written.signed written.json)).map
            Prod.snd).Nodup := by
  decide +kernel

private theorem founderSignatures_length :
    ∀ entry ∈ founderSignatures, entry.2.length = 64 := by
  intro entry member
  rcases List.mem_append.mp member with isWritten | isResponse
  · obtain ⟨written, isEvent, rfl⟩ := List.mem_map.mp isWritten
    exact (writtenEvents_facts.1 written isEvent).1
  · simp only [List.mem_cons, List.not_mem_nil, or_false] at isResponse
    rcases isResponse with rfl | rfl <;> rfl

theorem founderSign_length (bytes : List UInt8) : (founderSign bytes).length = 64 := by
  unfold founderSign
  cases found : founderSignatures.find? fun entry => decide (entry.1 = bytes) with
  | none => exact List.length_replicate
  | some entry => exact founderSignatures_length entry (List.mem_of_find?_eq_some found)

theorem doorRuntime_signsBytes : doorRuntime.identity.SignsBytes doorPrimitives where
  isKey := writtenEvents_facts.2.2.1
  signatureLength := founderSign_length
  verifies bytes := by simp [doorPrimitives, doorRuntime]

theorem doorEventJson_roundTrips : doorEventJson.RoundTrips :=
  EventJson.ofList_roundTrips writtenEvents_facts.2.2.2.2

private theorem signs_written :
    ∀ written ∈ writtenEvents,
      doorRuntime.identity.signEvent doorPrimitives written.signed.event = written.signed :=
  fun written member => (writtenEvents_facts.1 written member).2.1

/-- The events can be appended and served. -/
theorem writtenEvents_valid :
    ∀ written ∈ writtenEvents,
      isAppended doorPrimitives doorEventJson written.signed = true ∧
        isServableEvent doorPrimitives written.signed = true ∧
          written.signed.event.workspaceId = ⟨"w"⟩ := by
  intro written member
  obtain ⟨-, -, appendable, ownAuthor, inHome⟩ := writtenEvents_facts.1 written member
  have servable :=
    @isServableEvent_signEvent doorPrimitives doorRuntime.identity written.signed.event
      { keyLength := by decide
        isKey := doorRuntime_signsBytes.isKey
        signatureLength := founderSign_length _
        verifies := doorRuntime_signsBytes.verifies _ } ownAuthor
  rw [signs_written written member] at servable
  exact ⟨appendable, servable, inHome⟩

/-- The context that some of the events make. -/
def doorContext (length : Nat) : WorkspaceWriteContext where
  events := doorHistory length
  state := ((WorkspaceState.new ⟨"w"⟩).applyBatch (doorHistory length)).2
  report := ⟨(doorHistory length).map SignedEvent.eventId, []⟩
  headEventIds := ((doorHistory length).getLast?.map SignedEvent.eventId).toList

/-- What the door sees before the claim, evaluated at once. -/
private theorem doorContext_facts :
    (∀ length ∈ [2],
      doorHistory length ≠ [] ∧
        ((WorkspaceState.new ⟨"w"⟩).applyBatch (doorHistory length)).1 =
            .ok (doorContext length).report ∧
          (doorContext length).report.appliedEvents ≠ [] ∧
            takeEvents (doorContext length).report.appliedEvents
                (Keyed.tableOf SignedEvent.eventId id ∅ (doorHistory length)) =
              (doorContext length).events ∧
            workspaceHeadEventIdsFromMaterialization (doorContext length).events
                (doorContext length).report = (doorContext length).headEventIds) ∧
      ((doorContext 2).state.invites["i"]?).any (fun invite =>
        decide (invite.inviteId = "i" ∧ invite.createdByDeviceId = ⟨"dev_" ++ homeDeviceHash⟩ ∧
          invite.capabilityPublicKey = Hex.encode capabilityKey ∧ invite.role = .member ∧
            invite.expiresAt = "" ∧ invite.status = .invited ∧
              invite.claimCount < invite.maxClaims)) = true ∧
        (doorContext 2).state.name = some "home" ∧
          (doorContext 2).headEventIds = writtenRequest.signed.event.parents ∧
            guestId ∉ (doorContext 2).state.members := by
  decide +kernel

/-- The claim without its signatures, and what the door makes of it. -/
private theorem guestClaim_facts :
    ((guestClaimPayload "").kind = workspaceInviteClaimKind ∧
      (guestClaimPayload "").schemaVersion = workspaceInviteClaimSchemaVersion ∧
        (guestClaimPayload "").workspaceId ≠ "" ∧ (guestClaimPayload "").inviteId ≠ "" ∧
          (guestClaimPayload "").requestId ≠ "" ∧ (guestClaimPayload "").deviceId ≠ "" ∧
            (Hex.decode32 (guestClaimPayload "").responseEncryptionPublicKey).isSome = true) ∧
      ((guestClaimPayload "").deliveryDeviceId = "dev_" ++ homeDeviceHash ∧
        (guestClaimPayload "").sourceType = "invite_claim" ∧
          (guestClaimPayload "").sourceInviteId = (guestClaimPayload "").inviteId ∧
            (guestClaimPayload "").sourceApprovalPolicy = "preapproved") ∧
      DeviceId.fromPublicKeyBytes doorLibraries.primitives strangerKey = guestId ∧
      LocalRuntime.joinRequestBody (guestClaim "" [] []) = writtenRequest.signed.event.body ∧
      validateWorkspaceInviteClaimRecordFields (guestClaim "" [] []) guestId = .ok () ∧
      ((guestClaim "" [] []).existingClaim (doorHistory 2) = none ∧
        (doorHistory 2).any (guestClaim "" [] []).isClaimCollision = false ∧
          (doorHistory 2).any ((guestClaim "" [] []).isJoinRequestCollision false) = false) ∧
      doorRuntime.exportWorkspaceKey doorLibraries.toKeyLibraries (doorState 2).files ⟨"w"⟩ =
        .ok (firstRing.exported ("dev_" ++ homeDeviceHash)) ∧
      (doorState 2).files (doorRuntime.responseReceiptPlace doorLibraries "i" "r") = none ∧
      sealAes256GcmSiv doorLibraries.aead doorDraw.nonce "invite-response:i"
          (doorLibraries.deriveKey responseKeyContext
            (doorLibraries.diffieHellman senderSecret responseKey)) exportJson
          (responseAad "w" "i" ("dev_" ++ strangerDeviceHash) "r") = .ok sealedExportPayload := by
  decide +kernel

/-- The stored events are read as they were written. -/
theorem doorState_listed (length : Nat) :
    (doorState length).store.listParseableEventsForWorkspace doorEventJson "w" =
      doorHistory length := by
  have known : ∀ event ∈ doorHistory length, ∃ written ∈ writtenEvents,
      written.signed = event := by
    intro event member
    obtain ⟨written, isTaken, isSigned⟩ := List.mem_map.mp member
    exact ⟨written, List.mem_of_mem_take isTaken, isSigned⟩
  refine listParseable_after doorEventJson_roundTrips ?_ ?_ ?_
  · have distinct := writtenEvents_facts.2.1
    exact distinct.sublist (((List.take_sublist length writtenEvents).map _).map _)
  · intro event member
    obtain ⟨written, isWritten, rfl⟩ := known event member
    exact (writtenEvents_valid written isWritten).1
  · intro event member
    obtain ⟨written, isWritten, rfl⟩ := known event member
    rw [(writtenEvents_valid written isWritten).2.2]

theorem writeContext_door
    {length : Nat} (known : length ∈ [2]) :
    LocalRuntime.writeContext doorLibraries (doorState length).store ⟨"w"⟩ =
      .ok (doorContext length) := by
  obtain ⟨nonempty, isReport, applied, taken, heads⟩ := doorContext_facts.1 length known
  have listed := doorState_listed length
  have verified :
      verifiedLocalEventsForRuntime doorPrimitives (doorHistory length) = doorHistory length := by
    refine List.filter_eq_self.mpr fun event member => ?_
    obtain ⟨written, isTaken, rfl⟩ := List.mem_map.mp member
    rw [(writtenEvents_valid written (List.mem_of_mem_take isTaken)).2.1, Bool.or_true]
  have batch :
      (WorkspaceState.new ⟨"w"⟩).applyBatch (doorHistory length) =
        (.ok (doorContext length).report, (doorContext length).state) :=
    Prod.ext isReport rfl
  have referenced : validateWorkspaceIdReference ⟨"w"⟩ = .ok () := by decide
  have isPrimitives : doorLibraries.primitives = doorPrimitives := rfl
  have isJson : doorLibraries.eventJson = doorEventJson := rfl
  simp only [LocalRuntime.writeContext, isPrimitives, isJson, workspaceWriteContext, listed,
    referenced, verified, workspaceWriteContextFromMaterializedEvents, batch, taken, heads,
    bind_eq_ok_iff, ensure_eq_ok_iff]
  exact ⟨(), trivial, (), nonempty, (), trivial, (), applied, trivial⟩


theorem doorInvite_spec :
    ∃ invite, (doorContext 2).state.invites["i"]? = some invite ∧ invite.inviteId = "i" ∧
      invite.createdByDeviceId = ⟨"dev_" ++ homeDeviceHash⟩ ∧
        invite.capabilityPublicKey = Hex.encode capabilityKey ∧ invite.role = .member ∧
          invite.expiresAt = "" ∧ invite.status = .invited ∧
            invite.claimCount < invite.maxClaims := by
  have seen := doorContext_facts.2.1
  cases isInvite : (doorContext 2).state.invites["i"]? with
  | none =>
      rw [isInvite] at seen
      cases seen
  | some invite =>
      rw [isInvite] at seen
      exact ⟨invite, rfl, of_decide_eq_true seen⟩

/-- The guest signs the claim, and so does the capability. -/
structure GuestSigns
    (endpoint : String) (deviceSignature capabilitySignature : List UInt8) : Prop where
  device : (strangerKey, guestClaimJson endpoint, deviceSignature) ∈ guestSignatures
  capability : (capabilityKey, guestClaimJson endpoint, capabilitySignature) ∈ guestSignatures

theorem guestSignatures_length :
    ∀ entry ∈ guestSignatures, entry.2.2.length = 64 := by
  intro entry member
  simp only [guestSignatures, List.mem_cons, List.not_mem_nil, or_false] at member
  rcases member with rfl | rfl | rfl | rfl <;> rfl

private theorem door_verifyDetached
    {key bytes signature : List UInt8} (isKey : key ∈ [homeKey, strangerKey, capabilityKey])
    (signs : (key, bytes, signature) ∈ guestSignatures) :
    verifyDetachedSignature doorPrimitives key bytes signature = .ok () := by
  simp only [verifyDetachedSignature, bind_eq_ok_iff, ensure_eq_ok_iff]
  refine ⟨(), guestSignatures_length _ signs, (), List.contains_iff_mem.mpr isKey, ?_⟩
  simp [doorPrimitives, signs]

section Guest

variable {endpoint : String} {deviceSignature capabilitySignature : List UInt8}

private theorem claimPayloadToVec_guestClaim :
    doorLibraries.claimPayloadToVec (guestClaimPayload endpoint) =
      some (guestClaimJson endpoint) :=
  if_pos rfl

theorem doorRuntime_deviceId :
    doorRuntime.identity.deviceId doorLibraries.primitives = ⟨"dev_" ++ homeDeviceHash⟩ :=
  writtenEvents_facts.2.2.2.1

theorem doorState_verifies
    (signs : GuestSigns endpoint deviceSignature capabilitySignature) :
    doorRuntime.verifyWorkspaceInviteClaim doorLibraries (doorState 2).store
      (guestClaim endpoint deviceSignature capabilitySignature) = .ok () := by
  obtain ⟨invite, isInvite, -, creator, capability, -⟩ := doorInvite_spec
  obtain ⟨wellFormed, ownPayload, isGuest, -⟩ := guestClaim_facts
  have device :
      verifyDeviceDetachedSignature doorLibraries.primitives guestId strangerKey
        (guestClaimJson endpoint) deviceSignature = .ok () := by
    simp only [verifyDeviceDetachedSignature, bind_eq_ok_iff, ensure_eq_ok_iff]
    exact ⟨(), isGuest, door_verifyDetached (by simp) signs.device⟩
  have isCapability :
      verifyDetachedSignature doorLibraries.primitives capabilityKey (guestClaimJson endpoint)
        capabilitySignature = .ok () :=
    door_verifyDetached (by simp) signs.capability
  simp only [LocalRuntime.verifyWorkspaceInviteClaim, bind_eq_ok_iff, ensure_eq_ok_iff,
    okOr_eq_ok_iff]
  refine ⟨(), wellFormed, guestClaimJson endpoint, claimPayloadToVec_guestClaim, strangerKey,
    Hex.decode32_encode (by decide), deviceSignature, Hex.decode_encode _, (), ?_,
    doorContext 2, writeContext_door (by simp), invite, isInvite, (), ?_, capabilityKey, ?_,
    capabilitySignature, Hex.decode_encode _, ?_⟩
  · exact congrArg (Except.mapError _) device
  · rw [doorRuntime_deviceId]
    exact ⟨creator, ownPayload⟩
  · rw [capability]
    exact Hex.decode32_encode (by decide)
  · exact congrArg (Except.mapError _) isCapability

private theorem seal_guestClaim :
    doorRuntime.sealWorkspaceInviteResponse doorLibraries doorDraw (doorState 2).store
        (guestClaim endpoint deviceSignature capabilitySignature) .member ""
        (firstRing.exported ("dev_" ++ homeDeviceHash)) =
      .ok (doorResponse endpoint) := by
  obtain ⟨-, -, -, -, -, -, -, -, sealsKey⟩ := guestClaim_facts
  have named : (doorContext 2).state.name = some "home" := doorContext_facts.2.2.1
  have exported :
      doorLibraries.workspaceKeyExportToVec (firstRing.exported ("dev_" ++ homeDeviceHash)) =
        some exportJson := by
    dsimp only [doorLibraries]
    exact if_pos rfl
  have serialized :
      doorLibraries.responsePayloadToVec (doorResponsePayload endpoint) =
        some (responseJson endpoint) := by
    dsimp only [doorLibraries]
    exact if_pos rfl
  have isSign : doorRuntime.identity.sign = founderSign := rfl
  have senderKey : doorLibraries.x25519PublicKey doorDraw.senderSecret = senderPublicKey := by
    dsimp only [doorLibraries]
    exact if_pos rfl
  simp only [LocalRuntime.sealWorkspaceInviteResponse, bind_eq_ok_iff, okOr_eq_ok_iff]
  refine ⟨responseKey, Hex.decode32_encode (by decide), exportJson, exported,
    sealedExportPayload, ?_, doorContext 2, writeContext_door (by simp), responseJson endpoint,
    ?_, ?_⟩
  · exact congrArg (Except.mapError _) sealsKey
  · rw [doorRuntime_deviceId, named, senderKey]
    exact serialized
  · rw [doorRuntime_deviceId, named, senderKey]
    rw [doorResponse, doorResponsePayload, isSign]
    rfl

private theorem doorRuntime_exports :
    doorRuntime.exportWorkspaceKey doorLibraries.toKeyLibraries (doorState 2).files ⟨"w"⟩ =
      .ok (firstRing.exported ("dev_" ++ homeDeviceHash)) := by
  obtain ⟨-, -, -, -, -, -, exported, -⟩ := guestClaim_facts
  exact exported

private theorem signs_request :
    doorRuntime.workspaceEvent doorLibraries
        (guestClaim endpoint deviceSignature capabilitySignature).workspaceId
        doorDraw.requestTimestamp (doorContext 2).headEventIds
        (LocalRuntime.joinRequestBody
          (guestClaim endpoint deviceSignature capabilitySignature)) =
      writtenRequest.signed := by
  obtain ⟨-, -, -, body, -⟩ := guestClaim_facts
  have sameBody :
      LocalRuntime.joinRequestBody (guestClaim endpoint deviceSignature capabilitySignature) =
        writtenRequest.signed.event.body :=
    body
  have heads := doorContext_facts.2.2.2.1
  rw [LocalRuntime.workspaceEvent, doorRuntime_deviceId, sameBody, heads]
  exact signs_written writtenRequest (by simp [writtenEvents])

private theorem signs_member :
    doorRuntime.workspaceEvent doorLibraries
        (guestClaim endpoint deviceSignature capabilitySignature).workspaceId
        doorDraw.memberTimestamp [writtenRequest.signed.eventId]
        (.memberInvited (guestClaim endpoint deviceSignature capabilitySignature).inviteeDeviceId
          .member) =
      writtenMember.signed := by
  rw [LocalRuntime.workspaceEvent, doorRuntime_deviceId]
  exact signs_written writtenMember (by simp [writtenEvents])

private theorem signs_claimed :
    doorRuntime.workspaceEvent doorLibraries
        (guestClaim endpoint deviceSignature capabilitySignature).workspaceId
        doorDraw.claimedTimestamp [writtenMember.signed.eventId]
        (.workspaceInviteClaimed
          (guestClaim endpoint deviceSignature capabilitySignature).payload.inviteId
          (guestClaim endpoint deviceSignature capabilitySignature).inviteeDeviceId
          (guestClaim endpoint deviceSignature capabilitySignature).payload.requestId) =
      writtenClaimed.signed := by
  rw [LocalRuntime.workspaceEvent, doorRuntime_deviceId]
  exact signs_written writtenClaimed (by simp [writtenEvents])

private theorem door_authorizes :
    authorizeEventWithHistory (doorHistory 2) writtenRequest.signed = .ok () ∧
      authorizeEventWithHistory (doorHistory 2 ++ [writtenRequest.signed])
          writtenMember.signed = .ok () ∧
        authorizeEventWithHistory
            (doorHistory 2 ++ [writtenRequest.signed, writtenMember.signed])
            writtenClaimed.signed = .ok () := by
  decide +kernel

private theorem door_accepts
    {invite : WorkspaceInviteView} (role : invite.role = .member) (expires : invite.expiresAt = "")
    (status : invite.status = .invited) (claimable : invite.claimCount < invite.maxClaims) :
    doorRuntime.acceptClaim doorLibraries doorDraw (doorState 2)
        (guestClaim endpoint deviceSignature capabilitySignature) (doorContext 2) invite =
      .ok (.accept invite (doorResponse endpoint) writtenRequest.signed writtenMember.signed
        writtenClaimed.signed) := by
  obtain ⟨requestAuthorized, memberAuthorized, claimedAuthorized⟩ := door_authorizes
  have unexpired : inviteIsExpired doorLibraries doorDraw.nowUtc invite.expiresAt = .ok false := by
    rw [expires]
    exact if_pos (by decide +kernel)
  have notMember := doorContext_facts.2.2.2.2
  obtain ⟨-, -, -, -, validated, -⟩ := guestClaim_facts
  have isSealed :=
    @seal_guestClaim endpoint deviceSignature capabilitySignature
  have isContext : (doorContext 2).events = doorHistory 2 := rfl
  simp only [LocalRuntime.acceptClaim, bind_eq_ok_iff, ensure_eq_ok_iff, role, signs_request,
    signs_member, signs_claimed, isContext]
  refine ⟨false, unexpired, (), rfl, (), ?_, (), ⟨claimable, ?_, notMember⟩, (), validated, _,
    doorRuntime_exports, doorResponse endpoint, ?_, (), ?_, (), ?_, (), ?_, rfl⟩
  · rw [status]
    decide
  · rw [status]
    decide
  · rw [expires]
    exact isSealed
  · exact congrArg (Except.mapError _) requestAuthorized
  · exact congrArg (Except.mapError _) memberAuthorized
  · exact congrArg (Except.mapError _) claimedAuthorized

/-- The claim is accepted by the events that were written. -/
theorem doorState_decides :
    ∃ invite, invite.role = .member ∧ invite.expiresAt = "" ∧
      doorRuntime.decideClaim doorLibraries doorDraw (doorState 2)
          (guestClaim endpoint deviceSignature capabilitySignature) (doorContext 2) =
        .ok (.accept invite (doorResponse endpoint) writtenRequest.signed writtenMember.signed
          writtenClaimed.signed) := by
  obtain ⟨invite, isInvite, -, -, capability, role, expires, status, claimable⟩ :=
    doorInvite_spec
  obtain ⟨-, -, -, -, -, ⟨unclaimed, claims, requests⟩, -⟩ := guestClaim_facts
  have isUnclaimed :
      (guestClaim endpoint deviceSignature capabilitySignature).existingClaim
        (doorContext 2).events = none :=
    unclaimed
  refine ⟨invite, role, expires, ?_⟩
  simp only [LocalRuntime.decideClaim, bind_eq_ok_iff, ensure_eq_ok_iff, okOr_eq_ok_iff,
    isUnclaimed]
  refine ⟨invite, isInvite, (), ?_, (), ⟨claims, requests⟩, ?_⟩
  · rw [capability]
    decide +kernel
  · exact door_accepts role expires status claimable

end Guest

section Guest

variable {endpoint : String} {deviceSignature capabilitySignature : List UInt8}

private theorem door_appends :
    LocalRuntime.appendAcceptance doorLibraries doorDraw (doorState 2).store
        (guestClaim endpoint deviceSignature capabilitySignature)
        ((doorState 2).store.listEventIdsForWorkspace
          (guestClaim endpoint deviceSignature capabilitySignature).workspaceId.text)
        writtenRequest.signed writtenMember.signed writtenClaimed.signed =
      (.ok (), (doorState 5).store) := by
  have accepted :
      [writtenRequest.signed, writtenMember.signed, writtenClaimed.signed] ⊆
        writtenEvents.map WrittenEvent.signed := by
    simp [writtenEvents]
  have isSplit :
      doorHistory 5 =
        doorHistory 2 ++ [writtenRequest.signed, writtenMember.signed, writtenClaimed.signed] := by
    simp [doorHistory, writtenEvents]
  have isAfter :
      (doorState 2).store.after doorPrimitives doorEventJson
          [writtenRequest.signed, writtenMember.signed, writtenClaimed.signed] =
        (doorState 5).store := by
    rw [doorState, doorState, isSplit, after_append]
  rw [← isAfter]
  refine LocalRuntime.appendAcceptance_ok rfl (append_isOk_iff _ _ _ _ _ |>.mpr ⟨?_, ?_, rfl⟩)
  · intro event member
    obtain ⟨written, isWritten, rfl⟩ := List.mem_map.mp (accepted member)
    obtain ⟨appendable, -, inHome⟩ := writtenEvents_valid written isWritten
    intro unwritable
    rcases unwritable with foreign | oversized
    · exact foreign (congrArg Identifier.text inHome)
    · exact Bool.noConfusion (appendable.symm.trans oversized)
  · have faultless : ¬ Faulty none 3 := by simp [Faulty]
    exact faultless

/-- What an append for the claim is. -/
theorem doorState_appends
    (signs : GuestSigns endpoint deviceSignature capabilitySignature) :
    ∃ invite, invite.role = .member ∧ invite.expiresAt = "" ∧
      ∀ found response store,
        doorRuntime.Appends doorLibraries doorDraw (doorState 2)
            (guestClaim endpoint deviceSignature capabilitySignature) found response store ↔
          found = invite ∧ response = doorResponse endpoint ∧ store = (doorState 5).store := by
  obtain ⟨invite, role, expires, decided⟩ :=
    @doorState_decides endpoint deviceSignature capabilitySignature
  exact ⟨invite, role, expires,
    LocalRuntime.appends_iff (doorState_verifies signs) (writeContext_door (by simp)) decided
      door_appends⟩

end Guest

private theorem longEndpoint_length : longEndpoint.toList.length = 65536 := by
  have replicated :
      ∀ count, (String.ofList (List.replicate count 'a')).toList.length = count := by
    intro count
    rw [String.toList_ofList, List.length_replicate]
  exact replicated 65536

private theorem door_keepsReceipt_iff
    {endpoint : String} {deviceSignature capabilitySignature : List UInt8}
    (invite : WorkspaceInviteView) :
    doorRuntime.KeepsReceipt doorLibraries (doorState 2).files
        (guestClaim endpoint deviceSignature capabilitySignature) invite
        (doorResponse endpoint) ↔
      (receiptJson endpoint).length + 1 ≤ inviteResponseReceiptMaxBytes := by
  obtain ⟨-, -, -, -, -, -, -, noFile, -⟩ := guestClaim_facts
  have serialized :
      doorLibraries.responseReceiptToVec (LocalRuntime.receiptOf (doorResponse endpoint)) =
        some (receiptJson endpoint) := by
    dsimp only [doorLibraries]
    exact if_pos rfl
  exact LocalRuntime.keepsReceipt_iff noFile serialized

end Chaft
