import Chaft.Library.TextParts
import Chaft.Network.PublishEvents
import Chaft.Network.SyncFrames

/-!
# Join responses

A server keeps the responses to join requests in an inbox.  A peer submits a response for
someone else; the joiner asks for the responses to its own requests.  Which request a
response answers is read from the response.
-/

namespace Chaft

open Outcome Protobuf Effects Effects.Effect

def maxJoinResponseSubmissionsPerRequest : Nat := 1
def maxJoinResponseSubmissionBytes : Nat := 256 * 1024
def maxFetchJoinResponsesPerRequest : Nat := 20
def maxJoinResponseRequestIdBytes : Nat := 128

/-- The number of the request kind. -/
def fetchJoinResponsesKind : Int32 := 10

/-! ## Checks -/

/-- A byte above 127 is never part of an identifier. -/
def isJoinResponseRequestIdByte (symbol : Char) : Bool :=
  symbol.isAlphanum || symbol == '_' || symbol == '-'

def validateJoinResponseRequestId (requestId : String) : Except NetError Unit := do
  ensure (requestId ≠ "") (.protocol "fetch-join-responses request id is empty")
  ensure (requestId.utf8ByteSize ≤ maxJoinResponseRequestIdBytes)
    (.protocol ("fetch-join-responses request id length " ++ requestId.utf8ByteSize.repr ++
      " exceeds max " ++ maxJoinResponseRequestIdBytes.repr))
  ensure (requestId.toList.all isJoinResponseRequestIdByte = true)
    (.protocol "fetch-join-responses request id contains unsupported characters")

def validateRequestItemsUnique (context : String) (values : List String) : Except NetError Unit :=
  checkDistinct id (fun _ => .protocol (context ++ " duplicate value")) [] values

def validatedJoinResponseRequestIds (requestIds : List String) : Except NetError Unit := do
  ensure (requestIds ≠ [])
    (.protocol "fetch-join-responses requires at least one request id")
  validateRequestItemCount "fetch-join-responses request id" requestIds.length
    maxFetchJoinResponsesPerRequest
  validateRequestItemsUnique "fetch-join-responses request id" requestIds
  checkAll validateJoinResponseRequestId requestIds

def validateJoinResponseSubmissionBytes (response : List UInt8) : Except NetError Unit := do
  ensure (response ≠ []) (.protocol "submit-join-response payload is empty")
  ensure (response.length ≤ maxJoinResponseSubmissionBytes)
    (.protocol ("submit-join-response payload byte length " ++ response.length.repr ++
      " exceeds max " ++ maxJoinResponseSubmissionBytes.repr))

def requiredRequestWorkspaceId
    (context : String) (workspaceId : Option String) : Except NetError String := do
  let workspaceId ← okOr workspaceId (.protocol (context ++ " workspace ID is required"))
  validateWireWorkspaceId context workspaceId
  .ok workspaceId

def accessEnvelopeFetchLimit (context : String) (maxEntries maxAllowed : Nat) :
    Except NetError Nat := do
  ensure (maxEntries ≠ 0) (.protocol (context ++ " must be greater than zero"))
  validateRequestItemCount context maxEntries maxAllowed
  .ok maxEntries

/-- A limit of 64 bits always fits in a `usize`. -/
def requestAccessEnvelopeFetchLimit
    (context : String) (limit : Option UInt64) (maxAllowed : Nat) : Except NetError Nat := do
  let limit ← okOr limit (.protocol (context ++ " inventory_limit is required"))
  accessEnvelopeFetchLimit (context ++ " inventory_limit") limit.toNat maxAllowed

/-- The workspace and the limit of a request that passes. -/
def validateFetchJoinResponsesRequest (request : WireSyncRequest) :
    Except NetError (String × Nat) := do
  validateRequestShape request "fetch-join-responses"
    { AllowedRequestFields.empty with eventIds := true, workspaceId := true, inventoryLimit := true }
  let workspaceId ← requiredRequestWorkspaceId "fetch-join-responses" request.workspaceId
  let limit ← requestAccessEnvelopeFetchLimit "fetch-join-responses" request.inventoryLimit
    maxFetchJoinResponsesPerRequest
  validateRequestItemCount "fetch-join-responses request id" request.eventIds.length
    maxFetchJoinResponsesPerRequest
  validateRequestItemsUnique "fetch-join-responses request id" request.eventIds
  validatedJoinResponseRequestIds request.eventIds
  .ok (workspaceId, limit)

/-! ## Responses -/

section Responses

-- The field `requestId` of a JSON text: nothing for a text that is not JSON, no text where
-- the field is missing.
variable (requestIdField : String → Option (Option String))

def joinResponseRequestId (response : List UInt8) : Except NetError String := do
  let notObject := NetError.protocol "join response payload must be a JSON object"
  let text ← okOr (Utf8.decode? response) notObject
  let field ← okOr (requestIdField (String.ofList text)) notObject
  let requestId ← okOr field (.protocol "join response request id is required")
  validateJoinResponseRequestId requestId
  .ok requestId

/-- The loop over the responses, with the IDs that were seen and the responses taken. -/
def takeRequestedResponses
    (requested : List String) (maxEntries : Nat) :
    List String → List (List UInt8) → List (List UInt8) → Except NetError (List (List UInt8))
  | _, filtered, [] => .ok filtered
  | seen, filtered, response :: rest => do
      validateJoinResponseSubmissionBytes response
      let requestId ← joinResponseRequestId requestIdField response
      if requestId ∉ requested ∨ requestId ∈ seen then
        takeRequestedResponses requested maxEntries seen filtered rest
      else if (filtered ++ [response]).length = maxEntries then
        .ok (filtered ++ [response])
      else
        takeRequestedResponses requested maxEntries (requestId :: seen) (filtered ++ [response])
          rest

def filterJoinResponsesForRequests
    (responses : List (List UInt8)) (requested : List String) (maxEntries : Nat) :
    Except NetError (List (List UInt8)) :=
  if requested = [] ∨ maxEntries = 0 then
    .ok []
  else
    takeRequestedResponses requestIdField requested maxEntries [] [] responses

/-- The check of the client. -/
def validateScopedJoinResponses (requested : List String) :
    List String → List (List UInt8) → Except NetError Unit
  | _, [] => .ok ()
  | seen, response :: rest => do
      let requestId ← joinResponseRequestId requestIdField response
      ensure (requestId ∈ requested) (.protocol "peer returned an unrequested join response")
      ensure (requestId ∉ seen) (.protocol "peer returned a duplicate join response")
      validateScopedJoinResponses requested (requestId :: seen) rest

def validateScopedJoinResponseEnvelopes
    (responses : List (List UInt8)) (requested : List String) : Except NetError Unit :=
  validateScopedJoinResponses requestIdField requested [] responses

/-! ## The server -/

variable (eventBodyToVec : WireEventBody → List UInt8)

/-- The answer to a request of the kind `FetchJoinResponses`, with the listing of the inbox:
of a workspace, some request IDs and a limit. -/
def handleFetchJoinResponses
    (listForRequests : String → List String → Nat → Except NetError (List (List UInt8)))
    (request : WireSyncRequest) : Except NetError WireSyncResponse := do
  let (workspaceId, limit) ← validateFetchJoinResponsesRequest request
  let responses ← listForRequests workspaceId request.eventIds limit
  let envelopes ← filterJoinResponsesForRequests requestIdField responses request.eventIds limit
  validateRequestItemCount "fetch-join-responses payload" envelopes.length limit
  checkAll validateJoinResponseSubmissionBytes envelopes
  let response := { emptySyncResponse with events := envelopes }
  validateSyncResponseFrameLen eventBodyToVec "fetch-join-responses" response
  .ok response

/-- What an inbox does that only lists whole workspaces. -/
def listJoinResponsesForRequests
    (list : String → Except NetError (List (List UInt8)))
    (workspaceId : String) (requestIds : List String) (maxEntries : Nat) :
    Except NetError (List (List UInt8)) :=
  if requestIds = [] ∨ maxEntries = 0 then
    .ok []
  else do
    validatedJoinResponseRequestIds requestIds
    let responses ← list workspaceId
    filterJoinResponsesForRequests requestIdField responses requestIds maxEntries

/-- The answer to a request of the kind `SubmitJoinResponse`. -/
def handleSubmitJoinResponse
    {σ : Type} (submit : Option String → List UInt8 → Effect σ NetError Unit)
    (request : WireSyncRequest) : Effect σ NetError WireSyncResponse := do
  lift (validateRequestShape request "submit-join-response"
    { AllowedRequestFields.empty with events := true, workspaceId := true })
  lift (validateRequestWorkspaceIdOption "submit-join-response" request.workspaceId)
  lift (validateRequestItemCount "submit-join-response payload" request.events.length
    maxJoinResponseSubmissionsPerRequest)
  lift (ensure (request.events ≠ []) (.protocol "submit-join-response payload is required"))
  lift (checkAll validateJoinResponseSubmissionBytes request.events)
  forEach (submit request.workspaceId) request.events
  pure emptySyncResponse

end Responses

def fetchJoinResponsesRequest
    (workspaceId : String) (requestIds : List String) (limit : UInt64) : WireSyncRequest where
  kind := fetchJoinResponsesKind
  eventIds := requestIds
  events := []
  authorizationEvents := []
  authorizationSnapshots := []
  blobHashes := []
  blobs := []
  blobDescriptors := []
  workspaceId := some workspaceId
  eventEnvelopes := []
  authorizationEventEnvelopes := []
  authorizationSnapshotEnvelopes := []
  inventoryStartIndex := none
  inventoryLimit := some limit

/-! ## What passes -/

theorem validateJoinResponseRequestId_eq_ok_iff (requestId : String) (done : Unit) :
    validateJoinResponseRequestId requestId = .ok done ↔
      requestId ≠ "" ∧ requestId.utf8ByteSize ≤ maxJoinResponseRequestIdBytes ∧
        requestId.toList.all isJoinResponseRequestIdByte = true := by
  simp only [validateJoinResponseRequestId, bind_eq_ok_iff, ensure_eq_ok_iff, exists_const]

/-- An identifier has no white space around it. -/
theorem trim_of_validateJoinResponseRequestId
    {requestId : String} (valid : validateJoinResponseRequestId requestId = .ok ()) :
    Text.trim requestId.toList = requestId.toList := by
  obtain ⟨-, -, solid⟩ := (validateJoinResponseRequestId_eq_ok_iff requestId ()).mp valid
  apply Text.trim_eq_self
  apply Text.tightEnds_of_all
  intro symbol member
  have isByte := List.all_eq_true.mp solid symbol member
  rw [isJoinResponseRequestIdByte, Bool.or_eq_true, Bool.or_eq_true, beq_iff_eq, beq_iff_eq]
    at isByte
  obtain (alphanumeric | rfl) | rfl := isByte
  · exact Text.not_whiteSpace_of_isAlphanum alphanumeric
  · decide
  · decide

theorem validateJoinResponseSubmissionBytes_eq_ok_iff (response : List UInt8) (done : Unit) :
    validateJoinResponseSubmissionBytes response = .ok done ↔
      response ≠ [] ∧ response.length ≤ maxJoinResponseSubmissionBytes := by
  simp only [validateJoinResponseSubmissionBytes, bind_eq_ok_iff, ensure_eq_ok_iff, exists_const]

/-- A request that passes asks for distinct identifiers, within the limits. -/
structure FetchesJoinResponses (request : WireSyncRequest) (workspaceId : String) (limit : Nat) :
    Prop where
  workspace : request.workspaceId = some workspaceId
  isLimit : request.inventoryLimit.map UInt64.toNat = some limit
  validWorkspace : validateWireWorkspaceId "fetch-join-responses" workspaceId = .ok ()
  limitPositive : limit ≠ 0
  limitBounded : limit ≤ maxFetchJoinResponsesPerRequest
  nonempty : request.eventIds ≠ []
  count : request.eventIds.length ≤ maxFetchJoinResponsesPerRequest
  distinct : request.eventIds.Nodup
  validIds : ∀ requestId ∈ request.eventIds, validateJoinResponseRequestId requestId = .ok ()

theorem validateFetchJoinResponsesRequest_eq_ok
    {request : WireSyncRequest} {workspaceId : String} {limit : Nat}
    (valid : validateFetchJoinResponsesRequest request = .ok (workspaceId, limit)) :
    FetchesJoinResponses request workspaceId limit := by
  simp only [validateFetchJoinResponsesRequest, bind_eq_ok_iff, requiredRequestWorkspaceId,
    requestAccessEnvelopeFetchLimit, accessEnvelopeFetchLimit, validatedJoinResponseRequestIds,
    validateRequestItemCount, validateRequestItemsUnique, okOr_eq_ok_iff, ensure_eq_ok_iff,
    checkDistinct_eq_ok_iff, checkAll_eq_ok_iff, Except.ok.injEq, Prod.mk.injEq] at valid
  obtain ⟨_, -, _, ⟨_, isWorkspace, _, validWorkspace, rfl⟩, _,
    ⟨_, isLimit, _, positive, _, bounded, rfl⟩, _, count, _, ⟨distinct, -⟩, _,
    ⟨_, nonempty, _, -, _, -, validIds⟩, rfl, rfl⟩ := valid
  exact
    { workspace := isWorkspace
      isLimit := by rw [isLimit, Option.map_some]
      validWorkspace := validWorkspace
      limitPositive := positive
      limitBounded := bounded
      nonempty := nonempty
      count := count
      distinct := by simpa using distinct
      validIds := validIds }

theorem validateFetchJoinResponsesRequest_of_valid
    {workspaceId : String} {requestIds : List String} {limit : UInt64}
    (validWorkspace : validateWireWorkspaceId "fetch-join-responses" workspaceId = .ok ())
    (limitPositive : limit.toNat ≠ 0) (limitBounded : limit.toNat ≤ maxFetchJoinResponsesPerRequest)
    (nonempty : requestIds ≠ []) (count : requestIds.length ≤ maxFetchJoinResponsesPerRequest)
    (distinct : requestIds.Nodup)
    (validIds : ∀ requestId ∈ requestIds, validateJoinResponseRequestId requestId = .ok ()) :
    validateFetchJoinResponsesRequest (fetchJoinResponsesRequest workspaceId requestIds limit) =
      .ok (workspaceId, limit.toNat) := by
  have isDistinct : (requestIds.map id).Nodup := by simpa using distinct
  have noneSeen : ∀ requestId ∈ requestIds, id requestId ∉ ([] : List String) :=
    fun _ _ => List.not_mem_nil
  simp only [validateFetchJoinResponsesRequest, bind_eq_ok_iff, requiredRequestWorkspaceId,
    requestAccessEnvelopeFetchLimit, accessEnvelopeFetchLimit, validatedJoinResponseRequestIds,
    validateRequestItemCount, validateRequestItemsUnique, okOr_eq_ok_iff, ensure_eq_ok_iff,
    checkDistinct_eq_ok_iff, checkAll_eq_ok_iff]
  refine ⟨(), ?_, workspaceId, ⟨workspaceId, rfl, (), validWorkspace, rfl⟩, limit.toNat,
    ⟨limit, rfl, (), limitPositive, (), limitBounded, rfl⟩, (), count, (),
    ⟨isDistinct, noneSeen⟩, (),
    ⟨(), nonempty, (), count, (), ⟨isDistinct, noneSeen⟩, validIds⟩, rfl⟩
  simp [validateRequestShape, unexpectedRequestFields, unexpectedField, fetchJoinResponsesRequest,
    AllowedRequestFields.empty, ensure]

section Filter

variable {requestIdField : String → Option (Option String)}

/-- What is read of a response is its own identifier, and valid. -/
theorem joinResponseRequestId_eq_ok_iff (response : List UInt8) (requestId : String) :
    joinResponseRequestId requestIdField response = .ok requestId ↔
      ∃ text, Utf8.decode? response = some text ∧
        requestIdField (String.ofList text) = some (some requestId) ∧
          validateJoinResponseRequestId requestId = .ok () := by
  simp only [joinResponseRequestId, bind_eq_ok_iff, okOr_eq_ok_iff, Except.ok.injEq]
  constructor
  · rintro ⟨text, read, _, field, _, rfl, _, valid, rfl⟩
    exact ⟨text, read, field, valid⟩
  · rintro ⟨text, read, field, valid⟩
    exact ⟨text, read, _, field, requestId, rfl, (), valid, rfl⟩

/-- Each response that is taken has an identifier that can be read. -/
theorem readable_of_takeRequestedResponses
    {requested seen : List String} {maxEntries : Nat} {filtered responses taken : List (List UInt8)}
    (took :
      takeRequestedResponses requestIdField requested maxEntries seen filtered responses =
        .ok taken) :
    ∀ response ∈ taken, response ∈ filtered ∨
      ∃ requestId, joinResponseRequestId requestIdField response = .ok requestId := by
  induction responses generalizing seen filtered with
  | nil =>
      rw [takeRequestedResponses, Except.ok.injEq] at took
      subst took
      exact fun response member => Or.inl member
  | cons first rest inductionHypothesis =>
      simp only [takeRequestedResponses, bind_eq_ok_iff] at took
      obtain ⟨_, -, requestId, isRead, took⟩ := took
      have grown : ∀ response ∈ filtered ++ [first], response ∈ filtered ∨
          ∃ requestId, joinResponseRequestId requestIdField response = .ok requestId := by
        intro response member
        rcases List.mem_append.mp member with before | isFirst
        · exact Or.inl before
        · rw [List.mem_singleton.mp isFirst]
          exact Or.inr ⟨requestId, isRead⟩
      split at took
      · exact inductionHypothesis took
      · split at took
        · rw [Except.ok.injEq] at took
          subst took
          exact grown
        · intro response member
          rcases inductionHypothesis took response member with taken | readable
          · exact grown response taken
          · exact Or.inr readable

/-- Responses to distinct requests are taken as far as they were asked for, up to the limit. -/
theorem takeRequestedResponses_of_distinct
    {requested seen : List String} {maxEntries : Nat} {filtered : List (List UInt8)}
    {answers : List (String × List UInt8)}
    (small : ∀ answer ∈ answers, validateJoinResponseSubmissionBytes answer.2 = .ok ())
    (isRead : ∀ answer ∈ answers, joinResponseRequestId requestIdField answer.2 = .ok answer.1)
    (distinct : (answers.map Prod.fst).Nodup) (unseen : ∀ answer ∈ answers, answer.1 ∉ seen)
    (room : filtered.length < maxEntries) :
    takeRequestedResponses requestIdField requested maxEntries seen filtered
        (answers.map Prod.snd) =
      .ok (filtered ++
        (((answers.filter fun answer => decide (answer.1 ∈ requested)).map Prod.snd).take
          (maxEntries - filtered.length))) := by
  induction answers generalizing seen filtered with
  | nil => simp [takeRequestedResponses]
  | cons answer rest inductionHypothesis =>
      obtain ⟨firstSmall, restSmall⟩ := List.forall_mem_cons.mp small
      obtain ⟨firstRead, restRead⟩ := List.forall_mem_cons.mp isRead
      obtain ⟨firstUnseen, restUnseen⟩ := List.forall_mem_cons.mp unseen
      rw [List.map_cons, List.nodup_cons] at distinct
      rw [List.map_cons, takeRequestedResponses, firstSmall, firstRead]
      simp only [bind, Except.bind]
      by_cases asked : answer.1 ∈ requested
      · have taken : ¬(answer.1 ∉ requested ∨ answer.1 ∈ seen) := by
          rintro (absent | again)
          · exact absent asked
          · exact firstUnseen again
        have split : maxEntries - filtered.length = maxEntries - (filtered.length + 1) + 1 := by
          omega
        rw [if_neg taken, List.filter_cons_of_pos (by simpa using asked), List.map_cons, split,
          List.take_succ_cons]
        have step :
            (filtered ++ [answer.2]).length = filtered.length + 1 := by
          rw [List.length_append, List.length_singleton]
        by_cases full : (filtered ++ [answer.2]).length = maxEntries
        · rw [if_pos full]
          have nothingLeft : maxEntries - (filtered.length + 1) = 0 := by omega
          rw [nothingLeft, List.take_zero]
        · rw [if_neg full]
          have later : ∀ other ∈ rest, other.1 ∉ answer.1 :: seen := by
            intro other member again
            rcases List.mem_cons.mp again with same | earlier
            · exact distinct.1 (same ▸ List.mem_map_of_mem member)
            · exact restUnseen other member earlier
          rw [inductionHypothesis restSmall restRead distinct.2 later (by omega), step,
            List.append_assoc]
          rfl
      · rw [if_pos (Or.inl asked), List.filter_cons_of_neg (by simpa using asked)]
        exact inductionHypothesis restSmall restRead distinct.2 restUnseen room

/-- The client takes distinct responses that it asked for. -/
theorem validateScopedJoinResponses_of_distinct
    {requested seen : List String} {answers : List (String × List UInt8)}
    (isRead : ∀ answer ∈ answers, joinResponseRequestId requestIdField answer.2 = .ok answer.1)
    (asked : ∀ answer ∈ answers, answer.1 ∈ requested)
    (distinct : (answers.map Prod.fst).Nodup) (unseen : ∀ answer ∈ answers, answer.1 ∉ seen) :
    validateScopedJoinResponses requestIdField requested seen (answers.map Prod.snd) =
      .ok () := by
  induction answers generalizing seen with
  | nil => rfl
  | cons answer rest inductionHypothesis =>
      obtain ⟨firstRead, restRead⟩ := List.forall_mem_cons.mp isRead
      obtain ⟨firstAsked, restAsked⟩ := List.forall_mem_cons.mp asked
      obtain ⟨firstUnseen, restUnseen⟩ := List.forall_mem_cons.mp unseen
      rw [List.map_cons, List.nodup_cons] at distinct
      simp only [List.map_cons, validateScopedJoinResponses, firstRead, bind_eq_ok_iff,
        ensure_eq_ok_iff, Except.ok.injEq, exists_eq_left']
      refine ⟨(), firstAsked, (), firstUnseen, ?_⟩
      apply inductionHypothesis restRead restAsked distinct.2
      intro other member again
      rcases List.mem_cons.mp again with same | earlier
      · exact distinct.1 (same ▸ List.mem_map_of_mem member)
      · exact restUnseen other member earlier

end Filter

/-- As many responses as can be asked for fit a frame. -/
theorem joinResponses_fit
    (eventBodyToVec : WireEventBody → List UInt8) {envelopes : List (List UInt8)}
    (few : envelopes.length ≤ maxFetchJoinResponsesPerRequest)
    (small : ∀ envelope ∈ envelopes, envelope.length ≤ maxJoinResponseSubmissionBytes) :
    ({ emptySyncResponse with events := envelopes } : WireSyncResponse).encodedLen eventBodyToVec ≤
      maxFrameLen := by
  have onlyEvents :
      ({ emptySyncResponse with events := envelopes } : WireSyncResponse).encodedLen
          eventBodyToVec = encodedLength (repeatedField 2 envelopes) := by
    rw [WireSyncResponse.encodedLen, length_encode]
    simp [WireSyncResponse.fields, emptySyncResponse, repeatedField, optionalField,
      optionalNumberField]
  have bound :
      encodedLength (repeatedField 2 envelopes) ≤
        envelopes.length * (maxJoinResponseSubmissionBytes + 2 + 2) :=
    encodedLength_repeatedField_le (by omega) small (by decide)
  have total :
      envelopes.length * (maxJoinResponseSubmissionBytes + 2 + 2) ≤
        maxFetchJoinResponsesPerRequest * (maxJoinResponseSubmissionBytes + 2 + 2) :=
    Nat.mul_le_mul_right _ few
  have room :
      maxFetchJoinResponsesPerRequest * (maxJoinResponseSubmissionBytes + 2 + 2) ≤ maxFrameLen := by
    decide
  rw [onlyEvents]
  omega

section Answers

variable {requestIdField : String → Option (Option String)}

/-- Distinct responses that were asked for all pass the filter. -/
theorem filterJoinResponsesForRequests_all
    {requested : List String} {maxEntries : Nat} {answers : List (String × List UInt8)}
    (small : ∀ answer ∈ answers, validateJoinResponseSubmissionBytes answer.2 = .ok ())
    (isRead : ∀ answer ∈ answers, joinResponseRequestId requestIdField answer.2 = .ok answer.1)
    (asked : ∀ answer ∈ answers, answer.1 ∈ requested)
    (distinct : (answers.map Prod.fst).Nodup) (nonempty : requested ≠ [])
    (positive : maxEntries ≠ 0) (room : answers.length ≤ maxEntries) :
    filterJoinResponsesForRequests requestIdField (answers.map Prod.snd) requested maxEntries =
      .ok (answers.map Prod.snd) := by
  have asks : ¬(requested = [] ∨ maxEntries = 0) := by
    rintro (empty | none)
    · exact nonempty empty
    · exact positive none
  have all : answers.filter (fun answer => decide (answer.1 ∈ requested)) = answers :=
    List.filter_eq_self.mpr fun answer member => by simpa using asked answer member
  have took :=
    @takeRequestedResponses_of_distinct requestIdField requested [] maxEntries [] answers small
      isRead distinct (fun _ _ seen => nomatch seen) (by rw [List.length_nil]; omega)
  have whole :
      (answers.map Prod.snd).length ≤ maxEntries - ([] : List (List UInt8)).length := by
    rw [List.length_map, List.length_nil]
    omega
  rw [all, List.nil_append, List.take_of_length_le whole] at took
  rw [filterJoinResponsesForRequests, if_neg asks, took]

/-- A valid request is answered with what the inbox lists for it, as far as all of it can be
read. -/
theorem handleFetchJoinResponses_of_answers
    (eventBodyToVec : WireEventBody → List UInt8)
    (listForRequests : String → List String → Nat → Except NetError (List (List UInt8)))
    {request : WireSyncRequest} {workspaceId : String} {limit : Nat}
    (checked : validateFetchJoinResponsesRequest request = .ok (workspaceId, limit))
    {answers : List (String × List UInt8)}
    (listed : listForRequests workspaceId request.eventIds limit = .ok (answers.map Prod.snd))
    (small : ∀ answer ∈ answers, validateJoinResponseSubmissionBytes answer.2 = .ok ())
    (isRead : ∀ answer ∈ answers, joinResponseRequestId requestIdField answer.2 = .ok answer.1)
    (asked : ∀ answer ∈ answers, answer.1 ∈ request.eventIds)
    (distinct : (answers.map Prod.fst).Nodup) (room : answers.length ≤ limit) :
    handleFetchJoinResponses requestIdField eventBodyToVec listForRequests request =
      .ok { emptySyncResponse with events := answers.map Prod.snd } := by
  have fetches := validateFetchJoinResponsesRequest_eq_ok checked
  have filtered :=
    filterJoinResponsesForRequests_all small isRead asked distinct fetches.nonempty
      fetches.limitPositive room
  have smallTexts : ∀ envelope ∈ answers.map Prod.snd,
      validateJoinResponseSubmissionBytes envelope = .ok () := by
    intro envelope member
    obtain ⟨answer, isAnswer, rfl⟩ := List.mem_map.mp member
    exact small answer isAnswer
  have few : (answers.map Prod.snd).length ≤ limit := by
    rw [List.length_map]
    exact room
  have fits :=
    joinResponses_fit eventBodyToVec (few.trans fetches.limitBounded) fun envelope member =>
      ((validateJoinResponseSubmissionBytes_eq_ok_iff envelope ()).mp (smallTexts envelope member)).2
  simp only [handleFetchJoinResponses, bind_eq_ok_iff]
  refine ⟨_, checked, _, listed, _, filtered, (), ?_, (), ?_, (), ?_, rfl⟩
  · rw [validateRequestItemCount, ensure_eq_ok_iff]
    exact few
  · rw [checkAll_eq_ok_iff]
    exact smallTexts
  · rw [validateSyncResponseFrameLen, ensure_eq_ok_iff]
    exact fits

end Answers

end Chaft
