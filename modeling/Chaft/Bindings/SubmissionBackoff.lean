import Chaft.Bindings.OutboxDelivery

/-!
# Submissions that fail

A submission that fails marks its entry, and the mark says when the entry is due again.  The
mark keeps the message of the failure, which the transport or the peer has chosen, and the
entry is checked once more before it is stored: a message that the check refuses leaves the
entry as it was, due at once.
-/

namespace Chaft

open Keyed Outcome

namespace Outbox

variable {Endpoint Document : Type} (outbox : Outbox Endpoint Document)

/-- A submit call.  The exchange ends with nothing or with the message of its error; a failed
mark after a failed exchange is ignored. -/
def submitEntryDirect
    (now : Nat) (entryId : String) (exchange : Except String Unit)
    (state : OutboxState Document) :
    Except FfiError (OutboxEntry Endpoint) × OutboxState Document :=
  match outbox.beginSubmission entryId state.files with
  | .error raised => (.error raised, state)
  | .ok submission =>
      match exchange with
      | .ok () =>
          let marked := outbox.markEntry now submission.entryId .delivered none state.files
          (marked.map Prod.fst, state.withFiles marked)
      | .error message =>
          (.error (ffiError ("runtime_submit_" ++ outbox.code ++ "_failed") message),
            state.withFiles
              (outbox.markEntry now submission.entryId .failed (some message) state.files))

/-- What an exchange makes of an entry. -/
def settledEntry (now : Nat) (exchange : Except String Unit) (entry : OutboxEntry Endpoint) :
    OutboxEntry Endpoint :=
  match exchange with
  | .ok () => markedEntry now .delivered none entry
  | .error message => markedEntry now .failed (some message) entry

/-- The stored entry tells how the exchange has ended, and when to try again. -/
structure Settled
    (now : Nat) (exchange : Except String Unit) (attemptCount : Nat)
    (entry : OutboxEntry Endpoint) : Prop where
  counted : entry.attemptCount = min (attemptCount + 1) maxAttemptCount
  delivered : exchange = .ok () → entry.status = .delivered
  failed :
    ∀ message, exchange = .error message →
      entry.status = .failed ∧
        ∃ after, entry.nextAttemptAfterUnixMs = some after ∧
          now + retryDelayMs entry.attemptCount ≤ after

/-- After the call the entry is settled, and the list of due entries leaves it out for as long
as it says. -/
def BacksOff
    (now : Nat) (exchange : Except String Unit) (state : OutboxState Document)
    (entry : OutboxEntry Endpoint) : Prop :=
  ∃ stored,
    outbox.readEntryPath (outbox.submitEntryDirect now entry.entryId exchange state).2.files
        entry.entryId =
      .ok stored ∧
      Settled now exchange entry.attemptCount stored ∧
        ∀ message, exchange = .error message →
          ∀ later, later < now + retryDelayMs stored.attemptCount →
            ∀ maxEntries entries,
              (outbox.listDueEntries later maxEntries
                  (outbox.submitEntryDirect now entry.entryId exchange state).2).1 =
                .ok entries →
                stored ∉ entries

/-- The entry can be stored as the exchange has left it: the message is short, and the file
is. -/
structure Storable
    (now : Nat) (exchange : Except String Unit) (entry : OutboxEntry Endpoint) : Prop where
  message : ∀ message, exchange = .error message → message.utf8ByteSize ≤ outboxErrorMaxBytes
  file :
    outbox.json.byteLen (outbox.json.toVecPretty (settledEntry now exchange entry)) ≤
      outbox.entryMaxBytes

section Marks

variable {outbox}

theorem mapM_validateError_iff (error : Option String) :
    (∃ checked, error.mapM outbox.validateError = .ok checked) ↔
      ∀ message ∈ error, message.utf8ByteSize ≤ outboxErrorMaxBytes := by
  cases error with
  | none => simp
  | some message =>
      by_cases short : message.utf8ByteSize ≤ outboxErrorMaxBytes
      · simp [validateError, ensure, short]
      · simp [validateError, ensure, short]

/-- A mark changes nothing that the check of an entry reads, besides the message. -/
theorem validateEntry_markedEntry_iff
    {entry : OutboxEntry Endpoint} (valid : outbox.validateEntry entry = .ok ())
    (now : Nat) (status : OutboxStatus) (error : Option String) :
    outbox.validateEntry (markedEntry now status error entry) = .ok () ↔
      ∀ message ∈ (markedEntry now status error entry).error,
        message.utf8ByteSize ≤ outboxErrorMaxBytes := by
  rw [← @mapM_validateError_iff _ _ outbox]
  simp only [validateEntry, bind_eq_ok_iff] at valid ⊢
  obtain ⟨_, version, _, entryId, _, requestId, _, sameId, _, workspace, _, endpoint, _, -, rest⟩ :=
    valid
  constructor
  · rintro ⟨_, -, _, -, _, -, _, -, _, -, _, -, checked, isChecked, -⟩
    exact ⟨checked, isChecked⟩
  · rintro ⟨checked, isChecked⟩
    exact ⟨_, version, _, entryId, _, requestId, _, sameId, _, workspace, _, endpoint, checked,
      isChecked, rest⟩

theorem writeEntry_eq_ok_iff
    (files : HashMap String Document) (entry : OutboxEntry Endpoint) :
    (∃ written, outbox.writeEntry files entry = .ok written) ↔
      outbox.validateEntry entry = .ok () ∧
        outbox.json.byteLen (outbox.json.toVecPretty entry) ≤ outbox.entryMaxBytes := by
  constructor
  · rintro ⟨written, writes⟩
    obtain ⟨valid, fits, -⟩ := writeEntry_eq_ok writes
    exact ⟨valid, fits⟩
  · rintro ⟨valid, fits⟩
    unfold writeEntry
    simp only [bind_eq_ok_iff, ensure_eq_ok_iff]
    exact ⟨_, (), valid, (), fits, rfl⟩

/-- A stored entry is marked if and only if the marked entry can be stored. -/
theorem markEntry_eq_ok_iff
    {files : HashMap String Document} {entry : OutboxEntry Endpoint}
    (read : outbox.readEntry files entry.entryId = .ok entry)
    (now : Nat) (status : OutboxStatus) (error : Option String) :
    (∃ changed, outbox.markEntry now entry.entryId status error files = .ok changed) ↔
      (∀ message ∈ (markedEntry now status error entry).error,
          message.utf8ByteSize ≤ outboxErrorMaxBytes) ∧
        outbox.json.byteLen (outbox.json.toVecPretty (markedEntry now status error entry)) ≤
          outbox.entryMaxBytes := by
  have readPath := ((readEntry_eq_ok_iff _ _ _).mp read).2
  obtain ⟨-, -, -, -, valid⟩ := (readEntryPath_eq_ok_iff _ _ _).mp readPath
  rw [← validateEntry_markedEntry_iff valid now status error,
    ← writeEntry_eq_ok_iff files (markedEntry now status error entry)]
  unfold markEntry
  simp only [bind_eq_ok_iff, read, Except.ok.injEq]
  constructor
  · rintro ⟨changed, _, rfl, written, writes, -⟩
    exact ⟨written, writes⟩
  · rintro ⟨written, writes⟩
    exact ⟨_, entry, rfl, written, writes, rfl⟩

/-- A marked entry is read back. -/
theorem readEntryPath_of_markEntry
    (lawful : ∀ entry, outbox.json.fromStr (outbox.json.toVecPretty entry) = .ok entry)
    {files : HashMap String Document} {entry : OutboxEntry Endpoint}
    (read : outbox.readEntry files entry.entryId = .ok entry)
    {now : Nat} {status : OutboxStatus} {error : Option String}
    {changed : OutboxEntry Endpoint × HashMap String Document}
    (marks : outbox.markEntry now entry.entryId status error files = .ok changed) :
    outbox.readEntryPath changed.2 entry.entryId = .ok (markedEntry now status error entry) := by
  obtain ⟨other, isRead, isMarked, writes⟩ := markEntry_eq_ok marks
  rw [read, Except.ok.injEq] at isRead
  subst isRead
  rw [isMarked] at writes
  exact readEntryPath_of_writeEntry lawful writes

end Marks

/-! ## A call -/

section Calls

variable {outbox}
  {state : OutboxState Document} {entry : OutboxEntry Endpoint} {endpoint : String}

/-- A stored entry with an endpoint is sent. -/
theorem beginSubmission_of_stored
    (stored : outbox.readEntryPath state.files entry.entryId = .ok entry)
    (routed : outbox.endpointText entry.peerEndpoint = some endpoint) :
    outbox.readEntry state.files entry.entryId = .ok entry ∧
      outbox.beginSubmission entry.entryId state.files = .ok ⟨entry.entryId, entry.text⟩ := by
  obtain ⟨-, -, -, -, valid⟩ := (readEntryPath_eq_ok_iff _ _ _).mp stored
  simp only [validateEntry, bind_eq_ok_iff, routed] at valid
  obtain ⟨_, -, _, checked, _, -, _, -, _, -, _, dials, -⟩ := valid
  have read : outbox.readEntry state.files entry.entryId = .ok entry :=
    (readEntry_eq_ok_iff _ _ _).mpr ⟨checked, stored⟩
  refine ⟨read, ?_⟩
  obtain ⟨address, isAddress⟩ : ∃ address, directPeerAddress endpoint = .ok address := by
    cases parsed : directPeerAddress endpoint with
    | error raised => simp [parsed] at dials
    | ok address => exact ⟨address, rfl⟩
  unfold beginSubmission
  simp only [bind_eq_ok_iff, okOr_eq_ok_iff]
  exact ⟨(), checked, entry, read, endpoint, routed, address, isAddress, rfl⟩

/-- A call stores the settled entry where that can be stored. -/
theorem readEntryPath_submitEntryDirect
    (lawful : ∀ entry, outbox.json.fromStr (outbox.json.toVecPretty entry) = .ok entry)
    (stored : outbox.readEntryPath state.files entry.entryId = .ok entry)
    (routed : outbox.endpointText entry.peerEndpoint = some endpoint)
    {now : Nat} {exchange : Except String Unit}
    (storable : outbox.Storable now exchange entry) :
    outbox.readEntryPath (outbox.submitEntryDirect now entry.entryId exchange state).2.files
        entry.entryId =
      .ok (settledEntry now exchange entry) := by
  obtain ⟨read, begun⟩ := beginSubmission_of_stored stored routed
  unfold submitEntryDirect
  rw [begun]
  cases exchange with
  | ok done =>
      obtain ⟨changed, marks⟩ :=
        (markEntry_eq_ok_iff read now .delivered none).mpr ⟨by simp [markedEntry], storable.file⟩
      dsimp only
      rw [marks]
      exact readEntryPath_of_markEntry lawful read marks
  | error message =>
      have short : ∀ other ∈ (markedEntry now .failed (some message) entry).error,
          other.utf8ByteSize ≤ outboxErrorMaxBytes := by
        intro other isMessage
        rw [← Option.some.inj isMessage]
        exact storable.message message rfl
      obtain ⟨changed, marks⟩ :=
        (markEntry_eq_ok_iff read now .failed (some message)).mpr ⟨short, storable.file⟩
      dsimp only
      rw [marks]
      exact readEntryPath_of_markEntry lawful read marks

/-- A call changes nothing where the settled entry cannot be stored. -/
theorem submitEntryDirect_of_not_storable
    (stored : outbox.readEntryPath state.files entry.entryId = .ok entry)
    (routed : outbox.endpointText entry.peerEndpoint = some endpoint)
    {now : Nat} {exchange : Except String Unit}
    (refused : ¬ outbox.Storable now exchange entry) :
    (outbox.submitEntryDirect now entry.entryId exchange state).2 = state := by
  obtain ⟨read, begun⟩ := beginSubmission_of_stored stored routed
  unfold submitEntryDirect
  rw [begun]
  cases exchange with
  | ok done =>
      dsimp only
      cases marks : outbox.markEntry now entry.entryId .delivered none state.files with
      | error raised => rfl
      | ok changed =>
          have fits := ((markEntry_eq_ok_iff read now .delivered none).mp ⟨changed, marks⟩).2
          exact absurd ⟨fun _ isError => (nomatch isError), fits⟩ refused
  | error message =>
      dsimp only
      cases marks : outbox.markEntry now entry.entryId .failed (some message) state.files with
      | error raised => rfl
      | ok changed =>
          obtain ⟨short, fits⟩ :=
            (markEntry_eq_ok_iff read now .failed (some message)).mp ⟨changed, marks⟩
          refine absurd ⟨fun other isError => ?_, fits⟩ refused
          cases isError
          exact short message rfl

/-- The list of due entries leaves out what is to be tried later. -/
theorem not_mem_of_listDueEntries
    {later after maxEntries : Nat} {entries : List (OutboxEntry Endpoint)}
    (waits : entry.nextAttemptAfterUnixMs = some after) (early : later < after)
    (lists : (outbox.listDueEntries later maxEntries state).1 = .ok entries) :
    entry ∉ entries := by
  intro isListed
  unfold listDueEntries at lists
  split at lists
  next => cases lists
  next =>
    rw [← Except.ok.inj lists] at isListed
    have isWaiting := (List.mem_filter.mp (List.mem_of_mem_take isListed)).2
    have notDue : outbox.isDue later entry = false := by
      have tooEarly : ¬ after ≤ later := by omega
      simp [isDue, waits, tooEarly]
    rw [notDue, Bool.and_false] at isWaiting
    cases isWaiting

/-- A settled entry says so, as long as the time of the next attempt can be written. -/
theorem settled_settledEntry_iff
    (now : Nat) (exchange : Except String Unit) (entry : OutboxEntry Endpoint) :
    Settled now exchange entry.attemptCount (settledEntry now exchange entry) ↔
      ∀ message, exchange = .error message →
        now + retryDelayMs (min (entry.attemptCount + 1) maxAttemptCount) ≤ maxUnixMs := by
  cases exchange with
  | ok done =>
      constructor
      · intro _ message isError
        cases isError
      · intro _
        exact
          { counted := rfl
            delivered := fun _ => rfl
            failed := fun message isError => nomatch isError }
  | error message =>
      have nextAttempt :
          (settledEntry now (.error message) entry).nextAttemptAfterUnixMs =
            some (min (now + retryDelayMs (min (entry.attemptCount + 1) maxAttemptCount))
              maxUnixMs) := rfl
      constructor
      · intro settled other isError
        obtain ⟨-, after, isAfter, late⟩ := settled.failed message rfl
        rw [nextAttempt, Option.some.injEq] at isAfter
        have counted : (settledEntry now (.error message) entry).attemptCount =
            min (entry.attemptCount + 1) maxAttemptCount := rfl
        rw [counted] at late
        omega
      · intro inTime
        refine
          { counted := rfl
            delivered := fun isOk => nomatch isOk
            failed := fun other _ => ⟨rfl, _, nextAttempt, ?_⟩ }
        have early := inTime message rfl
        exact le_min le_rfl early

/-- A stored entry backs off if and only if the settled entry can be stored and the clock has
room for the delay, or the entry has said so before. -/
theorem backsOff_iff
    (lawful : ∀ entry, outbox.json.fromStr (outbox.json.toVecPretty entry) = .ok entry)
    (stored : outbox.readEntryPath state.files entry.entryId = .ok entry)
    (routed : outbox.endpointText entry.peerEndpoint = some endpoint)
    (now : Nat) (exchange : Except String Unit) :
    outbox.BacksOff now exchange state entry ↔
      (outbox.Storable now exchange entry ∧
          ∀ message, exchange = .error message →
            now + retryDelayMs (min (entry.attemptCount + 1) maxAttemptCount) ≤ maxUnixMs) ∨
        ¬ outbox.Storable now exchange entry ∧
          Settled now exchange entry.attemptCount entry := by
  have afterwards :
      ∀ result, Settled now exchange entry.attemptCount result →
        ∀ message, exchange = .error message →
          ∀ later, later < now + retryDelayMs result.attemptCount →
            ∀ (state : OutboxState Document) maxEntries entries,
              (outbox.listDueEntries later maxEntries state).1 = .ok entries →
                result ∉ entries := by
    intro result settled message isError later early state maxEntries entries lists
    obtain ⟨-, after, waits, late⟩ := settled.failed message isError
    exact not_mem_of_listDueEntries waits (by omega) lists
  by_cases storable : outbox.Storable now exchange entry
  · have readsBack := readEntryPath_submitEntryDirect lawful stored routed storable
    rw [← settled_settledEntry_iff]
    constructor
    · rintro ⟨result, isRead, settled, -⟩
      rw [readsBack, Except.ok.injEq] at isRead
      rw [isRead]
      exact Or.inl ⟨storable, settled⟩
    · rintro (⟨-, settled⟩ | ⟨refused, -⟩)
      · exact ⟨_, readsBack, settled, fun message isError later early maxEntries entries =>
          afterwards _ settled message isError later early _ maxEntries entries⟩
      · exact absurd storable refused
  · have unchanged := submitEntryDirect_of_not_storable stored routed storable
    unfold BacksOff
    rw [unchanged]
    constructor
    · rintro ⟨result, isRead, settled, -⟩
      rw [stored, Except.ok.injEq] at isRead
      subst isRead
      exact Or.inr ⟨storable, settled⟩
    · rintro (⟨isStorable, -⟩ | ⟨-, settled⟩)
      · exact absurd isStorable storable
      · exact ⟨entry, stored, settled, fun message isError later early maxEntries entries =>
          afterwards _ settled message isError later early _ maxEntries entries⟩

end Calls

end Outbox

section Outboxes

variable {RequestDocument ResponseDocument : Type}

/-- The entries of both outboxes back off under the same conditions. -/
theorem submissions_backOff_iff
    (reader : PayloadReader) (dataDir : List Char)
    (requestJson : OutboxJson (Option String) RequestDocument)
    (responseJson : OutboxJson String ResponseDocument)
    (requestsReadBack :
      ∀ entry, requestJson.fromStr (requestJson.toVecPretty entry) = .ok entry)
    (responsesReadBack :
      ∀ entry, responseJson.fromStr (responseJson.toVecPretty entry) = .ok entry) :
    let requests := joinRequestOutbox reader dataDir requestJson
    let responses := joinResponseOutbox reader dataDir responseJson
    (∀ (state : OutboxState RequestDocument) (entry : OutboxEntry (Option String)),
      requests.readEntryPath state.files entry.entryId = .ok entry →
        entry.peerEndpoint.isSome = true →
          ∀ (now : Nat) (exchange : Except String Unit),
            requests.BacksOff now exchange state entry ↔
              (requests.Storable now exchange entry ∧
                  ∀ message, exchange = .error message →
                    now + retryDelayMs (min (entry.attemptCount + 1) maxAttemptCount) ≤
                      maxUnixMs) ∨
                ¬ requests.Storable now exchange entry ∧
                  Outbox.Settled now exchange entry.attemptCount entry) ∧
      ∀ (state : OutboxState ResponseDocument) (entry : OutboxEntry String),
        responses.readEntryPath state.files entry.entryId = .ok entry →
          ∀ (now : Nat) (exchange : Except String Unit),
            responses.BacksOff now exchange state entry ↔
              (responses.Storable now exchange entry ∧
                  ∀ message, exchange = .error message →
                    now + retryDelayMs (min (entry.attemptCount + 1) maxAttemptCount) ≤
                      maxUnixMs) ∨
                ¬ responses.Storable now exchange entry ∧
                  Outbox.Settled now exchange entry.attemptCount entry := by
  intro requests responses
  constructor
  · intro state entry stored hasEndpoint now exchange
    obtain ⟨endpoint, routed⟩ := Option.isSome_iff_exists.mp hasEndpoint
    exact Outbox.backsOff_iff requestsReadBack stored routed now exchange
  · intro state entry stored now exchange
    exact Outbox.backsOff_iff responsesReadBack stored rfl now exchange

end Outboxes

/-! ## A request that waits -/

def waitingRequest : OutboxEntry (Option String) where
  schemaVersion := 1
  entryId := "req_1"
  requestId := "req_1"
  workspaceId := some "wrk_1"
  peerEndpoint := some "direct+tcp://127.0.0.1:7777"
  createdAtUnixMs := 1
  updatedAtUnixMs := 1
  lastAttemptAtUnixMs := none
  deliveredAtUnixMs := none
  attemptCount := 0
  nextAttemptAfterUnixMs := none
  status := .pending
  error := none
  text := firstRequestText

def waitingState : OutboxState (OutboxEntry (Option String)) where
  files := (∅ : HashMap String (OutboxEntry (Option String))).insert "req_1" waitingRequest
  setAside := ∅
  submissions := ∅

private theorem waitingRequest_stored :
    twoRequestOutbox.readEntryPath waitingState.files waitingRequest.entryId =
      .ok waitingRequest := by
  decide +kernel

/-- A peer that cannot be reached is tried again after a quarter of a minute. -/
theorem submissions_backOff_unreachable :
    twoRequestOutbox.BacksOff 5 (.error "connection refused") waitingState waitingRequest := by
  refine
    ((submissions_backOff_iff twoRequestReader "data".toList (entryFiles (Option String))
      (entryFiles String) (fun _ => rfl) (fun _ => rfl)).1 waitingState waitingRequest
      waitingRequest_stored rfl 5 (.error "connection refused")).mpr (Or.inl ⟨⟨?_, ?_⟩, ?_⟩)
  · intro message isError
    cases isError
    decide +kernel
  · decide +kernel
  · intro message isError
    decide

/-- A message of 513 bytes is refused, and the entry stays as it was. -/
theorem not_submissions_backOff :
    ¬ ∀ (reader : PayloadReader) (dataDir : List Char)
        (json : OutboxJson (Option String) (OutboxEntry (Option String))),
      (∀ entry, json.fromStr (json.toVecPretty entry) = .ok entry) →
        ∀ (state : OutboxState (OutboxEntry (Option String)))
          (entry : OutboxEntry (Option String)),
          (joinRequestOutbox reader dataDir json).readEntryPath state.files entry.entryId =
              .ok entry →
            entry.peerEndpoint.isSome = true →
              ∀ (now : Nat) (exchange : Except String Unit),
                (joinRequestOutbox reader dataDir json).BacksOff now exchange state entry := by
  intro backsOff
  have settles :
      twoRequestOutbox.BacksOff 5 (.error (String.ofList (List.replicate 513 'x')))
        waitingState waitingRequest :=
    backsOff twoRequestReader "data".toList (entryFiles (Option String)) (fun _ => rfl)
      waitingState waitingRequest waitingRequest_stored rfl 5 _
  have long : (String.ofList (List.replicate 513 'x')).utf8ByteSize = 513 := by
    rw [Text.utf8ByteSize_ofList, List.length_replicate]
    intro symbol member
    rw [List.eq_of_mem_replicate member]
    rfl
  rcases (Outbox.backsOff_iff (fun _ => rfl) waitingRequest_stored rfl 5 _).mp settles with
    ⟨storable, -⟩ | ⟨-, settled⟩
  · have short := storable.message _ rfl
    rw [long] at short
    exact absurd short (by decide)
  · exact absurd settled.counted (by decide)

end Chaft
