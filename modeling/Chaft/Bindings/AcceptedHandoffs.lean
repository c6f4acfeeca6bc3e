import Chaft.Bindings.JoinRequestInbox
import Chaft.Bindings.ServedJoinResponses
import Chaft.Bindings.OutboxDelivery

/-!
# Hand-offs that their receivers accept

A text that an outbox stores is sent until it is delivered.  The inbox of the receiver checks
the text once more, by rules of its own, and writes it into a file of its own: it can refuse
what the outbox has taken.
-/

namespace Chaft

open Keyed Outcome Effects Effects.Effect

/-! ## Fields -/

theorem trimmed_trimmed (value : String) : trimmed (trimmed value) = trimmed value := by
  rw [trimmed, trimmed, String.toList_ofList, Text.trim_trim]

theorem optionalArg_eq_some_iff (field : Option String) (value : String) :
    optionalArg field = some value ↔
      ∃ written, field = some written ∧ trimmed written = value ∧ value ≠ "" := by
  cases field with
  | none => simp [optionalArg]
  | some written =>
      simp only [optionalArg, Option.map_some, Option.filter_eq_some_iff, Option.some.injEq,
        decide_eq_true_eq, exists_eq_left']

theorem trimmed_of_optionalArg
    {field : Option String} {value : String} (present : optionalArg field = some value) :
    trimmed value = value ∧ value ≠ "" := by
  obtain ⟨written, -, rfl, nonempty⟩ := (optionalArg_eq_some_iff field value).mp present
  exact ⟨trimmed_trimmed written, nonempty⟩

/-- The code and the name of an identifier only show in its errors. -/
theorem validateEntryId_eq_ok_iff (code name entryId : String) :
    validateEntryId code name entryId = .ok () ↔
      entryId ≠ "" ∧ entryId.utf8ByteSize ≤ outboxEntryIdMaxBytes ∧
        entryId.toList.all isEntryIdByte = true := by
  simp only [validateEntryId, bind_eq_ok_iff, ensure_eq_ok_iff, exists_const]

theorem validateIdBytes_eq_ok_iff (field value : String) (maxBytes : Nat) (done : Unit) :
    validateIdBytes field value maxBytes = .ok done ↔ value.utf8ByteSize ≤ maxBytes := by
  unfold validateIdBytes
  split
  · simp
    omega
  · simp
    omega

theorem directWorkspaceIdArg_eq_ok_iff (value result : String) :
    directWorkspaceIdArg value = .ok result ↔
      trimmed value ≠ "" ∧ (trimmed value).utf8ByteSize ≤ workspaceIdMaxBytes ∧
        result = trimmed value := by
  simp only [directWorkspaceIdArg, bind_eq_ok_iff, ensure_eq_ok_iff, renamed_eq_ok_iff,
    validateWorkspaceIdStr, validateIdBytes_eq_ok_iff, Except.ok.injEq, exists_const]
  exact and_congr_right fun _ => and_congr_right fun _ => eq_comm

theorem ffiDeviceIdArg_isOk_iff (value : String) :
    (∃ result, ffiDeviceIdArg value = .ok result) ↔
      trimmed value ≠ "" ∧ (trimmed value).utf8ByteSize ≤ deviceIdMaxBytes := by
  simp only [ffiDeviceIdArg, bind_eq_ok_iff, ensure_eq_ok_iff, renamed_eq_ok_iff,
    validateIdBytes_eq_ok_iff, Except.ok.injEq, exists_const]
  constructor
  · rintro ⟨-, nonempty, short, -⟩
    exact ⟨nonempty, short⟩
  · rintro ⟨nonempty, short⟩
    exact ⟨trimmed value, nonempty, short, rfl⟩

/-! ## Requests -/

section Requests

variable {reader : JoinRequestReader} {requestText : String}

/-- The devices that a request names, which its sender does not check. -/
structure RequestDevices (reader : JoinRequestReader) (requestText : String) (object : JoinPayload) :
    Prop where
  joins :
    object.kind.map trimmed = some "chaft.workspace-join-request.v1" →
      ∃ deviceId, optionalArg (reader.deviceId requestText) = some deviceId ∧
        deviceId.utf8ByteSize ≤ deviceIdMaxBytes
  claims :
    object.kind.map trimmed = some workspaceInviteClaimKind →
      ∀ claim, object.claim = .ok claim →
        (trimmed claim.payload.deviceId).utf8ByteSize ≤ deviceIdMaxBytes ∧
          (trimmed claim.payload.deliveryDeviceId).utf8ByteSize ≤ deviceIdMaxBytes

/-- What the sender has found in a request. -/
structure SentRequest
    (reader : JoinRequestReader) (requestText : String) (metadata : JoinMetadata)
    (object : JoinPayload) : Prop where
  nonempty : trimmed requestText ≠ ""
  small : requestText.utf8ByteSize ≤ maxJoinRequestSubmissionBytes
  isRead : reader.payload requestText = .ok (some object)
  kind :
    object.kind.map trimmed = some "chaft.workspace-join-request.v1" ∨
      object.kind.map trimmed = some workspaceInviteClaimKind
  version : object.schemaVersion = some 1
  claim :
    object.kind.map trimmed = some workspaceInviteClaimKind →
      ∃ claim, object.claim = .ok claim ∧ claimIsComplete claim = true
  requestId : optionalArg object.requestId = some metadata.requestId
  validId : validateOutboxEntryId metadata.requestId = .ok ()
  workspace :
    ∃ workspaceId, metadata.workspaceId = some workspaceId ∧
      optionalArg object.workspaceId = some workspaceId ∧
        workspaceId.utf8ByteSize ≤ workspaceIdMaxBytes

theorem sentRequest_of_validated
    {metadata : JoinMetadata}
    (validated : validatedJoinRequestMetadata reader.payload requestText = .ok metadata) :
    ∃ object, SentRequest reader requestText metadata object := by
  simp only [validatedJoinRequestMetadata, readPayload, requiredField, bind_eq_ok_iff,
    ensure_eq_ok_iff, okOr_eq_ok_iff, renamed_eq_ok_iff] at validated
  obtain ⟨object, ⟨_, nonempty, _, small, _, isRead, rfl⟩, _, kind, _, version, displayName, -, _,
    -, rest⟩ := validated
  have claimed :
      object.kind.map trimmed = some workspaceInviteClaimKind →
        ∃ claim, object.claim = .ok claim ∧ claimIsComplete claim = true := by
    intro isClaim
    rw [if_pos isClaim] at rest
    simp only [bind_eq_ok_iff, ensure_eq_ok_iff, renamed_eq_ok_iff] at rest
    obtain ⟨claim, isParsed, _, complete, -⟩ := rest
    exact ⟨claim, isParsed, complete⟩
  have identified :
      ∃ requestId, optionalArg object.requestId = some requestId ∧
        validateOutboxEntryId requestId = .ok () ∧
          ∃ workspaceId, optionalArg object.workspaceId = some workspaceId ∧
            workspaceId.utf8ByteSize ≤ workspaceIdMaxBytes ∧
              metadata = { requestId := requestId, workspaceId := some workspaceId } := by
    split at rest
    all_goals
      simp only [bind_eq_ok_iff, ensure_eq_ok_iff, okOr_eq_ok_iff,
        directWorkspaceIdArg_eq_ok_iff, Except.ok.injEq] at rest
    · obtain ⟨_, -, _, -, requestId, isId, _, validId, workspaceId, isWorkspace, _,
        ⟨-, short, -⟩, rfl⟩ := rest
      rw [(trimmed_of_optionalArg isWorkspace).1] at short
      exact ⟨requestId, isId, validId, workspaceId, isWorkspace, short, rfl⟩
    · obtain ⟨requestId, isId, _, validId, workspaceId, isWorkspace, _, ⟨-, short, -⟩, rfl⟩ := rest
      rw [(trimmed_of_optionalArg isWorkspace).1] at short
      exact ⟨requestId, isId, validId, workspaceId, isWorkspace, short, rfl⟩
  obtain ⟨requestId, isId, validId, workspaceId, isWorkspace, short, rfl⟩ := identified
  exact
    ⟨object,
      { nonempty := nonempty
        small := small
        isRead := isRead
        kind := kind
        version := version
        claim := claimed
        requestId := isId
        validId := validId
        workspace := ⟨workspaceId, rfl, isWorkspace, short⟩ }⟩

/-- The receiver accepts what the sender has checked if and only if it names its devices, and
finds the same in it. -/
theorem validateJoinRequestPayload_iff
    {metadata checked : JoinMetadata} {object : JoinPayload}
    (sent : SentRequest reader requestText metadata object) :
    validateJoinRequestPayload reader requestText = .ok checked ↔
      RequestDevices reader requestText object ∧ checked = metadata := by
  have small : requestText.utf8ByteSize ≤ joinRequestInboxEntryMaxBytes :=
    le_trans sent.small (by decide)
  obtain ⟨workspaceId, isWorkspace, workspaceField, short⟩ := sent.workspace
  have validId : validateJoinRequestInboxEntryId metadata.requestId = .ok () :=
    (validateEntryId_eq_ok_iff _ _ _).mpr ((validateEntryId_eq_ok_iff _ _ _).mp sent.validId)
  have workspace : directWorkspaceIdArg workspaceId = .ok workspaceId := by
    obtain ⟨tight, nonempty⟩ := trimmed_of_optionalArg workspaceField
    rw [directWorkspaceIdArg_eq_ok_iff, tight]
    exact ⟨nonempty, short, rfl⟩
  have kindField :
      ∀ kind, object.kind.map trimmed = some kind → kind ≠ "" →
        optionalArg object.kind = some kind := by
    intro kind isKind nonempty
    obtain ⟨written, isWritten, isTrimmed⟩ := Option.map_eq_some_iff.mp isKind
    exact (optionalArg_eq_some_iff _ _).mpr ⟨written, isWritten, isTrimmed, nonempty⟩
  have read :
      readPayload reader.payload "join_request" "join request" joinRequestInboxEntryMaxBytes
        requestText = .ok object := by
    simp only [readPayload, bind_eq_ok_iff, ensure_eq_ok_iff, okOr_eq_ok_iff, renamed_eq_ok_iff]
    exact ⟨(), sent.nonempty, (), small, some object, sent.isRead, rfl⟩
  have isMetadata :
      ({ requestId := metadata.requestId, workspaceId := some workspaceId } : JoinMetadata) =
        metadata := by
    rw [← isWorkspace]
  rcases sent.kind with isJoin | isClaim
  · have kind := kindField _ isJoin (by decide)
    have otherKind : object.kind.map trimmed ≠ some workspaceInviteClaimKind := by
      rw [isJoin]
      decide
    have value :
        validateJoinRequestPayload reader requestText = (do
          let deviceId ← requiredField (reader.deviceId requestText)
            (ffiError "join_request_device_id_required"
              "join request payload must include deviceId")
          let _ ← ffiDeviceIdArg deviceId
          .ok metadata) := by
      simp [validateJoinRequestPayload, read, requiredField, kind, sent.version, sent.requestId,
        validId, workspaceField, workspace, okOr, ensure, bind, Except.bind, isMetadata]
    have device (deviceId : String)
        (named : optionalArg (reader.deviceId requestText) = some deviceId) :
        (∃ result, ffiDeviceIdArg deviceId = .ok result) ↔
          deviceId.utf8ByteSize ≤ deviceIdMaxBytes := by
      obtain ⟨tight, nonempty⟩ := trimmed_of_optionalArg named
      rw [ffiDeviceIdArg_isOk_iff, tight]
      exact and_iff_right nonempty
    rw [value]
    simp only [requiredField, bind_eq_ok_iff, okOr_eq_ok_iff, Except.ok.injEq]
    constructor
    · rintro ⟨deviceId, named, result, accepted, rfl⟩
      refine ⟨⟨fun _ => ⟨deviceId, named, (device deviceId named).mp ⟨result, accepted⟩⟩, ?_⟩, rfl⟩
      exact fun isClaim => absurd isClaim otherKind
    · rintro ⟨names, rfl⟩
      obtain ⟨deviceId, named, short⟩ := names.joins isJoin
      obtain ⟨result, accepted⟩ := (device deviceId named).mpr short
      exact ⟨deviceId, named, result, accepted, rfl⟩
  · have kind := kindField _ isClaim (by decide)
    have otherKind : workspaceInviteClaimKind ≠ "chaft.workspace-join-request.v1" := by decide
    obtain ⟨claim, isParsed, complete⟩ := sent.claim isClaim
    have value :
        validateJoinRequestPayload reader requestText = (do
          let _ ← ffiDeviceIdArg claim.payload.deviceId
          let _ ← ffiDeviceIdArg claim.payload.deliveryDeviceId
          .ok metadata) := by
      simp [validateJoinRequestPayload, read, requiredField, kind, sent.version, sent.requestId,
        validId, workspaceField, workspace, okOr, ensure, bind, Except.bind, isMetadata,
        otherKind, isParsed, complete, Except.mapError]
    have present :
        trimmed claim.payload.deviceId ≠ "" ∧ trimmed claim.payload.deliveryDeviceId ≠ "" := by
      rw [claimIsComplete, decide_eq_true_eq] at complete
      exact ⟨complete.2.1 _ (by simp), complete.2.1 _ (by simp)⟩
    rw [value]
    simp only [bind_eq_ok_iff, Except.ok.injEq]
    constructor
    · rintro ⟨device, isDevice, delivery, isDelivery, rfl⟩
      refine ⟨⟨?_, ?_⟩, rfl⟩
      · intro isJoin
        rw [isClaim, Option.some.injEq] at isJoin
        exact absurd isJoin otherKind
      · intro _ other isOther
        rw [isParsed, Except.ok.injEq] at isOther
        subst isOther
        exact
          ⟨((ffiDeviceIdArg_isOk_iff _).mp ⟨device, isDevice⟩).2,
            ((ffiDeviceIdArg_isOk_iff _).mp ⟨delivery, isDelivery⟩).2⟩
    · rintro ⟨names, rfl⟩
      obtain ⟨shortDevice, shortDelivery⟩ := names.claims isClaim claim isParsed
      obtain ⟨device, isDevice⟩ := (ffiDeviceIdArg_isOk_iff _).mpr ⟨present.1, shortDevice⟩
      obtain ⟨delivery, isDelivery⟩ :=
        (ffiDeviceIdArg_isOk_iff _).mpr ⟨present.2, shortDelivery⟩
      exact ⟨device, isDevice, delivery, isDelivery, rfl⟩

theorem resolveJoinRequestWorkspaceId_self
    {workspaceId : String} (accepted : directWorkspaceIdArg workspaceId = .ok workspaceId) :
    resolveJoinRequestWorkspaceId (some workspaceId) (some workspaceId) =
      .ok (some workspaceId) := by
  obtain ⟨nonempty, -, tight⟩ := (directWorkspaceIdArg_eq_ok_iff _ _).mp accepted
  rw [← tight] at nonempty
  have present : optionalArg (some workspaceId) = some workspaceId :=
    (optionalArg_eq_some_iff _ _).mpr ⟨workspaceId, rfl, tight.symm, nonempty⟩
  simp [resolveJoinRequestWorkspaceId, present, accepted, ensure, bind, Except.bind]

variable {Document : Type} {inbox : FileJoinRequestInbox Document}
  {metadata : JoinMetadata} {object : JoinPayload}

theorem SentRequest.workspace_accepted (sent : SentRequest reader requestText metadata object) :
    ∃ workspaceId, metadata.workspaceId = some workspaceId ∧
      directWorkspaceIdArg workspaceId = .ok workspaceId := by
  obtain ⟨workspaceId, isWorkspace, field, short⟩ := sent.workspace
  obtain ⟨tight, nonempty⟩ := trimmed_of_optionalArg field
  refine ⟨workspaceId, isWorkspace, ?_⟩
  rw [directWorkspaceIdArg_eq_ok_iff, tight]
  exact ⟨nonempty, short, rfl⟩

theorem checkRequest_iff
    {checked : JoinMetadata} (sent : SentRequest inbox.reader requestText metadata object) :
    inbox.checkRequest metadata.workspaceId requestText = .ok checked ↔
      RequestDevices inbox.reader requestText object ∧ checked = metadata := by
  obtain ⟨workspaceId, isWorkspace, accepted⟩ := sent.workspace_accepted
  have resolved := resolveJoinRequestWorkspaceId_self accepted
  rw [← isWorkspace] at resolved
  simp only [FileJoinRequestInbox.checkRequest, bind_eq_ok_iff, validateJoinRequestPayload_iff sent]
  constructor
  · rintro ⟨_, ⟨names, rfl⟩, resolvedId, isResolved, isChecked⟩
    rw [resolved, Except.ok.injEq] at isResolved
    rw [← isResolved, Except.ok.injEq] at isChecked
    exact ⟨names, isChecked.symm⟩
  · rintro ⟨names, rfl⟩
    exact ⟨_, ⟨names, rfl⟩, _, resolved, rfl⟩

/-- The entry of a request that passed the checks passes its own. -/
theorem validateJoinRequestInboxEntry_newEntry
    (sent : SentRequest inbox.reader requestText metadata object)
    (names : RequestDevices inbox.reader requestText object) (now : Nat) :
    inbox.validateJoinRequestInboxEntry
        (FileJoinRequestInbox.newEntry now metadata requestText) = .ok () := by
  obtain ⟨workspaceId, isWorkspace, accepted⟩ := sent.workspace_accepted
  have validId : validateJoinRequestInboxEntryId metadata.requestId = .ok () :=
    (validateEntryId_eq_ok_iff _ _ _).mpr ((validateEntryId_eq_ok_iff _ _ _).mp sent.validId)
  have payload := (validateJoinRequestPayload_iff sent).mpr ⟨names, rfl⟩
  simp only [FileJoinRequestInbox.validateJoinRequestInboxEntry, bind_eq_ok_iff,
    ensure_eq_ok_iff]
  refine ⟨(), rfl, (), validId, some workspaceId, ?_, metadata, payload, (), rfl, Or.inr rfl⟩
  simp [FileJoinRequestInbox.newEntry, isWorkspace, accepted]

/-- The receiver's file of a request is written if and only if it names its devices and the
file is small enough. -/
theorem writeJoinRequestInboxEntry_iff
    (sent : SentRequest inbox.reader requestText metadata object) (now : Nat) :
    (∃ entry files,
        inbox.writeJoinRequestInboxEntry now metadata.workspaceId requestText ∅ =
          (.ok entry, files)) ↔
      RequestDevices inbox.reader requestText object ∧
        inbox.json.byteLen
            (inbox.json.toVecPretty
              (FileJoinRequestInbox.newEntry now metadata requestText)) ≤
          joinRequestInboxEntryMaxBytes := by
  have noFile : (∅ : JoinRequestFiles Document)[metadata.requestId]?.isSome = false := by simp
  have noneToPrune :
      List.range (FileJoinRequestInbox.pruneCount (∅ : JoinRequestFiles Document).size) = [] := by
    simp [FileJoinRequestInbox.pruneCount, joinRequestInboxMaxEntries]
  simp only [FileJoinRequestInbox.writeJoinRequestInboxEntry, bind_apply_eq_ok_iff,
    lift_eq_ok_iff, reads_eq_ok_iff, checkRequest_iff sent, Except.ok.injEq]
  constructor
  · rintro ⟨entry, files, checked, _, ⟨⟨names, rfl⟩, rfl⟩, isStored, _, ⟨rfl, rfl⟩, written⟩
    rw [noFile, if_neg Bool.false_ne_true] at written
    simp only [bind_apply_eq_ok_iff, lift_eq_ok_iff, FileJoinRequestInbox.encodeEntry,
      bind_eq_ok_iff, ensure_eq_ok_iff] at written
    obtain ⟨document, _, ⟨⟨_, -, _, fits, -⟩, -⟩, -⟩ := written
    exact ⟨names, fits⟩
  · rintro ⟨names, fits⟩
    have encoded :
        inbox.encodeEntry (FileJoinRequestInbox.newEntry now metadata requestText) =
          .ok (inbox.json.toVecPretty
            (FileJoinRequestInbox.newEntry now metadata requestText)) := by
      simp only [FileJoinRequestInbox.encodeEntry, bind_eq_ok_iff, ensure_eq_ok_iff]
      exact ⟨(), validateJoinRequestInboxEntry_newEntry sent names now, (), fits, trivial⟩
    refine
      ⟨FileJoinRequestInbox.newEntry now metadata requestText,
        (∅ : JoinRequestFiles Document).insert metadata.requestId
          (inbox.json.toVecPretty (FileJoinRequestInbox.newEntry now metadata requestText)),
        metadata, ∅, ⟨⟨names, rfl⟩, rfl⟩, false, ∅, ⟨noFile, rfl⟩, ?_⟩
    rw [if_neg Bool.false_ne_true]
    simp only [bind_apply_eq_ok_iff, lift_eq_ok_iff, reads_eq_ok_iff, changes_eq_ok_iff,
      pure_apply_eq_ok_iff, Except.ok.injEq]
    refine ⟨_, ∅, ⟨encoded, rfl⟩, _, ∅, ⟨rfl, rfl⟩, (), ∅, ?_, (), _, rfl, trivial, rfl⟩
    rw [noneToPrune, forEach]
    rfl

end Requests

/-! ## Responses -/

section Responses

variable {Document : Type} {inbox : FileJoinResponseInbox Document}
  {responseText : String} {metadata : JoinMetadata}

/-- A checked response has an ID and a workspace that pass their own checks. -/
theorem ensures_identified (reader : PayloadReader) (responseText : String) :
    Ensures
      (fun metadata =>
        validateJoinResponseEntryId metadata.requestId = .ok () ∧
          ∃ workspaceId, metadata.workspaceId = some workspaceId ∧
            directWorkspaceIdArg workspaceId = .ok workspaceId)
      (validateJoinResponsePayload reader responseText) := by
  unfold validateJoinResponsePayload requiredField
  apply ensures_bind
  intro object _
  apply ensures_bind
  intro kind _
  apply ensures_bind
  intro _ _
  apply ensures_bind
  intro _ _
  apply ensures_bind
  intro workspaceId present
  apply ensures_bind
  intro result accepted
  have isTight : directWorkspaceIdArg workspaceId = .ok workspaceId := by
    have tight := trimmed_of_optionalArg ((okOr_eq_ok_iff _ _ _).mp present)
    rw [directWorkspaceIdArg_eq_ok_iff] at accepted ⊢
    exact ⟨accepted.1, accepted.2.1, tight.1.symm⟩
  repeat' with_reducible first
    | (apply ensures_bind; intro _ _)
    | split
  -- The check of the ID comes last.
  all_goals
    rename_i validId
    exact ⟨validId, workspaceId, rfl, isTight⟩

theorem resolveJoinResponseWorkspaceId_self
    {workspaceId : String} (accepted : directWorkspaceIdArg workspaceId = .ok workspaceId) :
    resolveJoinResponseWorkspaceId (some workspaceId) (some workspaceId) =
      .ok (some workspaceId) := by
  obtain ⟨nonempty, -, tight⟩ := (directWorkspaceIdArg_eq_ok_iff _ _).mp accepted
  rw [← tight] at nonempty
  have present : optionalArg (some workspaceId) = some workspaceId :=
    (optionalArg_eq_some_iff _ _).mpr ⟨workspaceId, rfl, tight.symm, nonempty⟩
  simp [resolveJoinResponseWorkspaceId, present, accepted, ensure, bind, Except.bind]

/-- The entry that the receiver makes of a response. -/
def receivedResponse (now : Nat) (metadata : JoinMetadata) (responseText : String) :
    JoinResponseInboxEntry where
  schemaVersion := joinResponseInboxSchemaVersion
  entryId := metadata.requestId
  requestId := metadata.requestId
  workspaceId := metadata.workspaceId
  receivedAtUnixMs := now
  responseText := responseText

/-- The receiver's file of a response is written if and only if it is small enough. -/
theorem writeJoinResponseInboxEntry_iff
    (validated : validateJoinResponsePayload inbox.reader responseText = .ok metadata)
    (now : Nat) :
    (∃ entry files,
        inbox.writeJoinResponseInboxEntry now metadata.workspaceId responseText ∅ =
          (.ok entry, files)) ↔
      inbox.json.byteLen
          (inbox.json.toVecPretty (receivedResponse now metadata responseText)) ≤
        joinResponseInboxEntryMaxBytes := by
  have identified := ensures_identified inbox.reader responseText
  rw [validated] at identified
  obtain ⟨validId, workspaceId, isWorkspace, accepted⟩ := identified
  have resolved := resolveJoinResponseWorkspaceId_self accepted
  rw [← isWorkspace] at resolved
  have noFile : (∅ : InboxFiles Document)[metadata.requestId]?.isSome = false := by simp
  have valid :
      inbox.validateJoinResponseInboxEntry (receivedResponse now metadata responseText) =
        .ok () := by
    simp only [FileJoinResponseInbox.validateJoinResponseInboxEntry, bind_eq_ok_iff,
      ensure_eq_ok_iff]
    refine ⟨(), rfl, (), validId, (), validId, (), rfl, some workspaceId, ?_, metadata,
      validated, (), rfl, rfl⟩
    simp [receivedResponse, isWorkspace, accepted]
  simp only [FileJoinResponseInbox.writeJoinResponseInboxEntry, bind_apply_eq_ok_iff,
    lift_eq_ok_iff, reads_eq_ok_iff, validated, Except.ok.injEq]
  constructor
  · rintro ⟨entry, files, _, _, ⟨rfl, rfl⟩, _, _, ⟨isResolved, rfl⟩, isStored, _, ⟨rfl, rfl⟩,
      written⟩
    rw [resolved, Except.ok.injEq] at isResolved
    subst isResolved
    rw [noFile, if_neg Bool.false_ne_true] at written
    simp only [bind_apply_eq_ok_iff, lift_eq_ok_iff,
      FileJoinResponseInbox.encodeJoinResponseInboxEntry, bind_eq_ok_iff, ensure_eq_ok_iff]
      at written
    obtain ⟨document, _, ⟨⟨_, -, _, fits, -⟩, -⟩, -⟩ := written
    exact fits
  · intro fits
    have encoded :
        inbox.encodeJoinResponseInboxEntry (receivedResponse now metadata responseText) =
          .ok (inbox.json.toVecPretty (receivedResponse now metadata responseText)) := by
      simp only [FileJoinResponseInbox.encodeJoinResponseInboxEntry, bind_eq_ok_iff,
        ensure_eq_ok_iff]
      exact ⟨(), valid, (), fits, trivial⟩
    have noPruning :
        inbox.pruneToCapacity (∅ : InboxFiles Document) = (.ok (), ∅) := by
      simp only [FileJoinResponseInbox.pruneToCapacity, bind_apply_eq_ok_iff, reads_eq_ok_iff]
      exact ⟨0, ∅, ⟨by simp, rfl⟩, by rfl⟩
    refine
      ⟨receivedResponse now metadata responseText,
        (∅ : InboxFiles Document).insert metadata.requestId
          (inbox.json.toVecPretty (receivedResponse now metadata responseText)),
        metadata, ∅, ⟨rfl, rfl⟩, metadata.workspaceId, ∅, ⟨resolved, rfl⟩, false, ∅,
        ⟨noFile, rfl⟩, ?_⟩
    rw [if_neg Bool.false_ne_true]
    simp only [bind_apply_eq_ok_iff, lift_eq_ok_iff, changes_eq_ok_iff, pure_apply_eq_ok_iff]
    exact ⟨_, ∅, ⟨encoded, rfl⟩, (), ∅, noPruning, (), _, rfl, rfl, rfl⟩

end Responses

/-! ## Hand-offs -/

section Handoffs

variable {RequestDocument ResponseDocument Inboxed Answered : Type}

/-- What an outbox has queued is accepted by its check, and the entry has what was found. -/
theorem metadata_of_queue
    {Endpoint Document : Type} {outbox : Outbox Endpoint Document} {now : Nat}
    {peerEndpoint workspaceId : Option String} {text : String}
    {files written : HashMap String Document} {entry : OutboxEntry Endpoint}
    (queues : outbox.queue now peerEndpoint workspaceId text files = .ok (entry, written)) :
    ∃ metadata, outbox.readMetadata entry.text = .ok metadata ∧
      metadata.requestId = entry.requestId ∧
        (outbox.bindsWorkspace = true → metadata.workspaceId = entry.workspaceId) := by
  obtain ⟨_, -, -, writes⟩ := Outbox.queue_eq_ok queues
  obtain ⟨valid, -, -⟩ := Outbox.writeEntry_eq_ok writes
  simp only [Outbox.validateEntry, bind_eq_ok_iff, ensure_eq_ok_iff] at valid
  obtain ⟨_, -, _, -, _, -, _, -, _, -, _, -, _, -, metadata, isRead, _, sameId, sameWorkspace⟩ :=
    valid
  refine ⟨metadata, isRead, sameId, fun binds => ?_⟩
  rcases sameWorkspace with unbound | same
  · rw [binds] at unbound
    cases unbound
  · exact same

/-- Every text that an outbox stores is accepted by an empty inbox of the other side if and
only if a request names its devices, and the file of the inbox is small enough. -/
theorem handoffs_accepted_iff
    (reader : JoinRequestReader) (senderDir receiverDir : List Char)
    (requestJson : OutboxJson (Option String) RequestDocument)
    (responseJson : OutboxJson String ResponseDocument)
    (requestInboxJson : JoinRequestInboxJson Inboxed) (responseInboxJson : InboxJson Answered) :
    let requests := joinRequestOutbox reader.payload senderDir requestJson
    let responses := joinResponseOutbox reader.payload senderDir responseJson
    let requestInbox : FileJoinRequestInbox Inboxed := ⟨reader, requestInboxJson, receiverDir⟩
    let responseInbox : FileJoinResponseInbox Answered :=
      ⟨reader.payload, responseInboxJson, receiverDir⟩
    (∀ now peerEndpoint workspaceId text files entry written,
      requests.queue now peerEndpoint workspaceId text files = .ok (entry, written) →
        ∀ later,
          ((∃ received inboxed,
              requestInbox.writeJoinRequestInboxEntry later entry.workspaceId entry.text ∅ =
                (.ok received, inboxed)) ↔
            (∀ object, reader.payload entry.text = .ok (some object) →
                RequestDevices reader entry.text object) ∧
              requestInboxJson.byteLen
                  (requestInboxJson.toVecPretty
                    (FileJoinRequestInbox.newEntry later ⟨entry.requestId, entry.workspaceId⟩
                      entry.text)) ≤
                joinRequestInboxEntryMaxBytes)) ∧
      ∀ now peerEndpoint workspaceId text files entry written,
        responses.queue now peerEndpoint workspaceId text files = .ok (entry, written) →
          ∃ payloadWorkspaceId,
            validateJoinResponsePayload reader.payload entry.text =
              .ok ⟨entry.requestId, payloadWorkspaceId⟩ ∧
            ∀ later,
              ((∃ received inboxed,
                  responseInbox.writeJoinResponseInboxEntry later payloadWorkspaceId entry.text
                      ∅ =
                    (.ok received, inboxed)) ↔
                responseInboxJson.byteLen
                    (responseInboxJson.toVecPretty
                      (receivedResponse later ⟨entry.requestId, payloadWorkspaceId⟩
                        entry.text)) ≤
                  joinResponseInboxEntryMaxBytes) := by
  intro requests responses requestInbox responseInbox
  constructor
  · intro now peerEndpoint workspaceId text files entry written queues later
    obtain ⟨metadata, isRead, sameId, sameWorkspace⟩ := metadata_of_queue queues
    obtain ⟨object, sent⟩ := @sentRequest_of_validated reader entry.text metadata isRead
    have isMetadata : metadata = ⟨entry.requestId, entry.workspaceId⟩ := by
      rw [← sameId, ← sameWorkspace rfl]
    have accepted := @writeJoinRequestInboxEntry_iff entry.text Inboxed requestInbox metadata object
      sent later
    rw [isMetadata] at accepted
    rw [accepted]
    apply and_congr_left
    intro _
    constructor
    · intro names other isOther
      have same := sent.isRead.symm.trans isOther
      rw [Except.ok.injEq, Option.some.injEq] at same
      rw [← same]
      exact names
    · exact fun names => names object sent.isRead
  · intro now peerEndpoint workspaceId text files entry written queues
    obtain ⟨metadata, isRead, sameId, -⟩ := metadata_of_queue queues
    have isMetadata : metadata = ⟨entry.requestId, metadata.workspaceId⟩ := by
      rw [← sameId]
    rw [isMetadata] at isRead
    refine ⟨metadata.workspaceId, isRead, fun later => ?_⟩
    exact @writeJoinResponseInboxEntry_iff Answered responseInbox entry.text _ isRead later

end Handoffs

/-! ## A request without a device -/

def deviceRequestText : String :=
  "\x7b\"kind\":\"chaft.workspace-join-request.v1\",\"schemaVersion\":1," ++
    "\"requestId\":\"req_1\",\"workspaceId\":\"wrk_1\",\"displayName\":\"Ann\"," ++
      "\"deviceId\":\"dev_1\"\x7d"

/-- The reader on a request that names no device and on one that does. -/
def deviceReader : JoinRequestReader where
  payload text :=
    if text = firstRequestText ∨ text = deviceRequestText then
      .ok (some (namedRequest "Ann"))
    else
      .error "expected value"
  deviceId text := if text = deviceRequestText then some "dev_1" else none

theorem deviceReader_reads
    {text : String} (known : text = firstRequestText ∨ text = deviceRequestText) :
    deviceReader.payload text = .ok (some (namedRequest "Ann")) := by
  unfold deviceReader
  exact if_pos known

/-- Files that hold their requests as they are. -/
def requestEntryFiles : JoinRequestInboxJson JoinRequestInboxEntry where
  toVecPretty := id
  fromStr := .ok
  byteLen entry := 256 + entry.requestText.utf8ByteSize

def deviceOutbox : Outbox (Option String) (OutboxEntry (Option String)) :=
  joinRequestOutbox deviceReader.payload "data".toList (entryFiles (Option String))

def deviceInbox : FileJoinRequestInbox JoinRequestInboxEntry :=
  ⟨deviceReader, requestEntryFiles, "data".toList⟩

private theorem device_facts :
    ∀ text ∈ [firstRequestText, deviceRequestText],
      ((deviceOutbox.queue 1 (some "direct+tcp://127.0.0.1:7777") none text ∅).map fun queued =>
          (queued.1.requestId, queued.1.workspaceId, queued.1.text)) =
        .ok ("req_1", some "wrk_1", text) := by
  decide +kernel

/-- Both requests are queued. -/
theorem exists_queuedRequest {text : String} (known : text ∈ [firstRequestText, deviceRequestText]) :
    ∃ entry written,
      deviceOutbox.queue 1 (some "direct+tcp://127.0.0.1:7777") none text ∅ =
          .ok (entry, written) ∧
        entry.requestId = "req_1" ∧ entry.workspaceId = some "wrk_1" ∧ entry.text = text := by
  have queued := device_facts text known
  cases queues : deviceOutbox.queue 1 (some "direct+tcp://127.0.0.1:7777") none text ∅ with
  | error raised =>
      rw [queues] at queued
      cases queued
  | ok result =>
      rw [queues] at queued
      simp only [Except.map, Except.ok.injEq, Prod.mk.injEq] at queued
      exact ⟨result.1, result.2, rfl, queued⟩

/-- A request that names its device is accepted. -/
theorem handoffs_accepted_device :
    ∃ received inboxed,
      deviceInbox.writeJoinRequestInboxEntry 2 (some "wrk_1") deviceRequestText ∅ =
        (.ok received, inboxed) := by
  obtain ⟨entry, written, queues, sameId, sameWorkspace, sameText⟩ :=
    exists_queuedRequest (List.mem_pair.mpr (Or.inr rfl))
  have accepted :=
    (handoffs_accepted_iff deviceReader "data".toList "data".toList (entryFiles (Option String))
      (entryFiles String) requestEntryFiles inboxEntryFiles).1 1
      (some "direct+tcp://127.0.0.1:7777") none deviceRequestText ∅ entry written queues 2
  rw [sameId, sameWorkspace, sameText] at accepted
  refine accepted.mpr ⟨?_, by decide +kernel⟩
  intro object isRead
  have isObject : namedRequest "Ann" = object := by
    rw [deviceReader_reads (Or.inr rfl), Except.ok.injEq, Option.some.injEq] at isRead
    exact isRead
  subst isObject
  refine ⟨fun _ => ⟨"dev_1", by decide +kernel, by decide +kernel⟩, fun isClaim => ?_⟩
  exact absurd isClaim (by decide +kernel)

/-- A request without a device is queued, and every receiver refuses it. -/
theorem not_handoffs_accepted :
    ¬ ∀ (reader : JoinRequestReader) (senderDir receiverDir : List Char)
        (requestJson : OutboxJson (Option String) (OutboxEntry (Option String)))
        (requestInboxJson : JoinRequestInboxJson JoinRequestInboxEntry)
        (now : Nat) (peerEndpoint workspaceId : Option String) (text : String)
        (files written : HashMap String (OutboxEntry (Option String)))
        (entry : OutboxEntry (Option String)),
      (joinRequestOutbox reader.payload senderDir requestJson).queue now peerEndpoint workspaceId
            text files =
          .ok (entry, written) →
        ∀ later, ∃ received inboxed,
          (⟨reader, requestInboxJson, receiverDir⟩ :
              FileJoinRequestInbox JoinRequestInboxEntry).writeJoinRequestInboxEntry later
              entry.workspaceId entry.text ∅ =
            (.ok received, inboxed) := by
  intro accepts
  obtain ⟨entry, written, queues, -, -, sameText⟩ :=
    exists_queuedRequest (List.mem_pair.mpr (Or.inl rfl))
  have accepted :=
    accepts deviceReader "data".toList "data".toList (entryFiles (Option String))
      requestEntryFiles 1 (some "direct+tcp://127.0.0.1:7777") none firstRequestText ∅ written
      entry queues 2
  obtain ⟨metadata, isRead, -, sameWorkspace⟩ := metadata_of_queue queues
  obtain ⟨object, sent⟩ := @sentRequest_of_validated deviceReader entry.text metadata isRead
  rw [← sameWorkspace rfl] at accepted
  have names := ((@writeJoinRequestInboxEntry_iff entry.text _ deviceInbox metadata object sent
    2).mp accepted).1
  have isObject : namedRequest "Ann" = object := by
    have same := (deviceReader_reads (Or.inl sameText)).symm.trans sent.isRead
    rw [Except.ok.injEq, Option.some.injEq] at same
    exact same
  subst isObject
  obtain ⟨deviceId, named, -⟩ := names.joins (by decide +kernel)
  have unnamed : optionalArg (deviceReader.deviceId firstRequestText) = none := by
    decide +kernel
  rw [sameText] at named
  cases unnamed.symm.trans named

end Chaft
