import Chaft.Bindings.JoinResponseInbox
import Chaft.Library.TextParts

/-!
# Join responses that reach their requesters

Whatever is submitted, staged or acknowledged, an inbox lists what it holds for some
requests.  The server reads the ID of each response once more, as it is written: one ID with
white space around it fails the whole request.
-/

namespace Chaft

open Keyed Outcome Effects Effects.Effect Protobuf

/-- A call that changes the inbox; submissions come from peers. -/
inductive InboxStep where
  | submit (now : Nat) (workspaceId : Option String) (response : List UInt8)
  | stage (now : Nat) (workspaceId responseText : String)
  | acknowledge (entryId : String)

namespace FileJoinResponseInbox

variable {Document : Type} (inbox : FileJoinResponseInbox Document)

/-- A call that fails can have pruned entries. -/
def perform (files : InboxFiles Document) : InboxStep → InboxFiles Document
  | .submit now workspaceId response => (inbox.submitJoinResponse now workspaceId response files).2
  | .stage now workspaceId responseText =>
      (inbox.stageJoinResponse now workspaceId responseText files).2
  | .acknowledge entryId => (acknowledgeJoinResponse entryId files).2

/-- Every file holds an entry, under its own identifier. -/
def WellNamed (files : InboxFiles Document) : Prop :=
  ∀ stem document, files[stem]? = some document →
    ∃ entry, inbox.readJoinResponseInboxEntryPath files stem = .ok entry ∧ entry.entryId = stem

/-- The entries of some files. -/
def readableEntries (files : InboxFiles Document) (stems : List String) :
    List JoinResponseInboxEntry :=
  stems.filterMap fun stem => (inbox.readJoinResponseInboxEntryPath files stem).toOption

def answers (workspaceId : String) (requestIds : List String) (entry : JoinResponseInboxEntry) :
    Bool :=
  decide (entry.workspaceId = some workspaceId ∧ entry.requestId ∈ requestIds)

/-- The entries of a workspace that answer some requests. -/
def storedEntries
    (files : InboxFiles Document) (workspaceId : String) (requestIds : List String) :
    List JoinResponseInboxEntry :=
  (inbox.readableEntries files files.keys).filter (answers workspaceId requestIds)

/-- A request is answered with exactly the stored responses, and the client takes them. -/
def ServesJoinResponses
    (eventBodyToVec : WireEventBody → List UInt8) (files : InboxFiles Document)
    (workspaceId : String) (requestIds : List String) (limit : UInt64) : Prop :=
  ∃ response,
    handleFetchJoinResponses (requestIdField inbox.reader) eventBodyToVec
        (inbox.listInboxForRequests files)
        (fetchJoinResponsesRequest workspaceId requestIds limit) = .ok response ∧
      response.events.Perm
        ((inbox.storedEntries files workspaceId requestIds).map fun entry =>
          textBytes entry.responseText) ∧
        validateScopedJoinResponseEnvelopes (requestIdField inbox.reader) response.events
          requestIds = .ok ()

/-! ## Entries -/

section Entries

variable {inbox}

theorem readEntryPath_congr
    {files others : InboxFiles Document} {stem : String} (same : files[stem]? = others[stem]?) :
    inbox.readJoinResponseInboxEntryPath files stem =
      inbox.readJoinResponseInboxEntryPath others stem := by
  rw [readJoinResponseInboxEntryPath, readJoinResponseInboxEntryPath, same]

theorem readEntryPath_eq_ok_iff
    (files : InboxFiles Document) (stem : String) (entry : JoinResponseInboxEntry) :
    inbox.readJoinResponseInboxEntryPath files stem = .ok entry ↔
      ∃ document, files[stem]? = some document ∧
        inbox.json.byteLen document ≤ joinResponseInboxEntryMaxBytes ∧
          inbox.json.fromStr document = .ok entry ∧
            inbox.validateJoinResponseInboxEntry entry = .ok () := by
  simp only [readJoinResponseInboxEntryPath, bind_eq_ok_iff, okOr_eq_ok_iff, ensure_eq_ok_iff,
    renamed_eq_ok_iff]
  constructor
  · rintro ⟨document, stored, _, fits, parsed, parses, _, valid, isEntry⟩
    cases isEntry
    exact ⟨document, stored, fits, parses, valid⟩
  · rintro ⟨document, stored, fits, parses, valid⟩
    exact ⟨document, stored, (), fits, entry, parses, (), valid, rfl⟩

/-- Both checks of an identifier are the same. -/
theorem validateJoinResponseEntryId_eq_ok_iff (entryId : String) :
    validateJoinResponseEntryId entryId = .ok () ↔
      validateJoinResponseRequestId entryId = .ok () := by
  rw [validateJoinResponseRequestId_eq_ok_iff]
  simp only [validateJoinResponseEntryId, validateEntryId, bind_eq_ok_iff, ensure_eq_ok_iff,
    exists_const]
  exact Iff.rfl

/-- The identifier of a response is read last, from the same object. -/
theorem ensures_requestId (reader : PayloadReader) (text : String) :
    Ensures
      (fun metadata => ∃ object,
        readPayload reader "join_response" "join response" maxJoinResponseSubmissionBytes text =
            .ok object ∧
          optionalArg object.requestId = some metadata.requestId)
      (validateJoinResponsePayload reader text) := by
  unfold validateJoinResponsePayload requiredField
  apply ensures_bind
  intro object isObject
  repeat' with_reducible first
    | (apply ensures_bind; intro _ _)
    | split
  all_goals
    exact ⟨object, isObject, (okOr_eq_ok_iff _ _ _).mp (by assumption)⟩

theorem readPayload_eq_ok
    {reader : PayloadReader} {code name text : String} {maxBytes : Nat} {object : JoinPayload}
    (read : readPayload reader code name maxBytes text = .ok object) :
    trimmed text ≠ "" ∧ text.utf8ByteSize ≤ maxBytes ∧ reader text = .ok (some object) := by
  simp only [readPayload, bind_eq_ok_iff, ensure_eq_ok_iff, okOr_eq_ok_iff, renamed_eq_ok_iff]
    at read
  obtain ⟨_, nonempty, _, small, value, isRead, rfl⟩ := read
  exact ⟨nonempty, small, isRead⟩

/-- An entry that passes its check. -/
structure ValidEntry (entry : JoinResponseInboxEntry) : Prop where
  sameId : entry.entryId = entry.requestId
  validId : validateJoinResponseRequestId entry.requestId = .ok ()
  nonempty : textBytes entry.responseText ≠ []
  small : (textBytes entry.responseText).length ≤ maxJoinResponseSubmissionBytes
  /-- The identifier is the one of the payload, trimmed. -/
  readable :
    ∃ object, inbox.reader entry.responseText = .ok (some object) ∧
      optionalArg object.requestId = some entry.requestId

theorem validEntry_of_validate
    {entry : JoinResponseInboxEntry} (valid : inbox.validateJoinResponseInboxEntry entry = .ok ()) :
    inbox.ValidEntry entry := by
  simp only [validateJoinResponseInboxEntry, bind_eq_ok_iff, ensure_eq_ok_iff] at valid
  obtain ⟨_, -, _, -, _, validId, _, sameId, _, -, metadata, isMetadata, _, sameRequest, -⟩ := valid
  have lastField := ensures_requestId inbox.reader entry.responseText
  rw [isMetadata] at lastField
  obtain ⟨object, isObject, requestId⟩ := lastField
  obtain ⟨nonempty, small, isRead⟩ := readPayload_eq_ok isObject
  rw [sameRequest] at requestId
  refine
    { sameId := sameId
      validId := (validateJoinResponseEntryId_eq_ok_iff entry.requestId).mp validId
      nonempty := ?_
      small := by rw [length_textBytes]; exact small
      readable := ⟨object, isRead, requestId⟩ }
  intro empty
  have noBytes := congrArg List.length empty
  rw [length_textBytes, List.length_nil, String.utf8ByteSize_eq_zero_iff] at noBytes
  rw [noBytes] at nonempty
  exact nonempty rfl

/-- The network reads the identifier of an entry where it is written without white space
around it. -/
theorem joinResponseRequestId_entry
    {entry : JoinResponseInboxEntry} (valid : inbox.ValidEntry entry) (requestId : String) :
    joinResponseRequestId (requestIdField inbox.reader) (textBytes entry.responseText) =
        .ok requestId ↔
      requestId = entry.requestId ∧
        requestIdField inbox.reader entry.responseText = some (some entry.requestId) := by
  obtain ⟨object, isRead, requestIdRead⟩ := valid.readable
  have field :
      requestIdField inbox.reader entry.responseText = some object.requestId := by
    rw [requestIdField, isRead]
    rfl
  rw [joinResponseRequestId_eq_ok_iff]
  simp only [textBytes, Utf8.decode?_encode, Option.some.injEq, exists_eq_left',
    String.ofList_toList, field]
  constructor
  · rintro ⟨written, validId⟩
    have tight := trim_of_validateJoinResponseRequestId validId
    have same : requestId = entry.requestId := by
      simp only [optionalArg, written, Option.map_some, Option.filter_eq_some_iff,
        Option.some.injEq] at requestIdRead
      rw [← requestIdRead.1, trimmed, tight, String.ofList_toList]
    exact ⟨same, by rw [written, same]⟩
  · rintro ⟨rfl, written⟩
    exact ⟨written, valid.validId⟩

theorem validEntry_of_read
    {files : InboxFiles Document} {stem : String} {entry : JoinResponseInboxEntry}
    (read : inbox.readJoinResponseInboxEntryPath files stem = .ok entry) :
    inbox.ValidEntry entry := by
  obtain ⟨-, -, -, -, valid⟩ := (readEntryPath_eq_ok_iff files stem entry).mp read
  exact validEntry_of_validate valid

end Entries

/-! ## Steps -/

section Steps

variable {inbox}

theorem wellNamed_erase
    {files : InboxFiles Document} (wellNamed : inbox.WellNamed files) (stem : String) :
    inbox.WellNamed (files.erase stem) := by
  intro other document found
  rw [Std.ExtTreeMap.getElem?_erase] at found
  split at found
  · cases found
  · rename_i apart
    obtain ⟨entry, read, named⟩ := wellNamed other document found
    refine ⟨entry, ?_, named⟩
    rw [← read]
    apply readEntryPath_congr
    rw [Std.ExtTreeMap.getElem?_erase, if_neg apart]

theorem wellNamed_insert
    (roundTrips : inbox.json.RoundTrips) {files : InboxFiles Document}
    (wellNamed : inbox.WellNamed files) {entry : JoinResponseInboxEntry} {document : Document}
    (encoded : inbox.encodeJoinResponseInboxEntry entry = .ok document) :
    inbox.WellNamed (files.insert entry.entryId document) := by
  simp only [encodeJoinResponseInboxEntry, bind_eq_ok_iff, ensure_eq_ok_iff, Except.ok.injEq]
    at encoded
  obtain ⟨_, valid, _, fits, rfl⟩ := encoded
  intro stem found isFound
  by_cases same : entry.entryId = stem
  · subst same
    refine ⟨entry, (readEntryPath_eq_ok_iff _ _ _).mpr
      ⟨inbox.json.toVecPretty entry, ?_, fits, roundTrips entry, valid⟩, rfl⟩
    exact Std.ExtTreeMap.getElem?_insert_self
  · have kept : (files.insert entry.entryId (inbox.json.toVecPretty entry))[stem]? = files[stem]? := by
      rw [Std.ExtTreeMap.getElem?_insert, if_neg]
      exact fun equal => same (Std.LawfulEqCmp.compare_eq_iff_eq.mp equal)
    rw [kept] at isFound
    obtain ⟨other, read, named⟩ := wellNamed stem found isFound
    exact ⟨other, by rw [readEntryPath_congr kept, read], named⟩

theorem pruneToCapacity_preserves :
    Preserves inbox.WellNamed (inbox.pruneToCapacity : InboxEffect Document Unit) := by
  apply preserves_bind (preserves_reads _)
  intro _ entryCount _ _
  split
  · apply preserves_forEach
    intro _ _
    apply preserves_bind (preserves_reads _)
    intro _ oldest _ _
    exact preserves_changes fun files wellNamed => wellNamed_erase wellNamed oldest.2
  · exact preserves_pure ()

theorem writeJoinResponseInboxEntry_preserves
    (roundTrips : inbox.json.RoundTrips) (now : Nat) (workspaceId : Option String)
    (responseText : String) :
    Preserves inbox.WellNamed
      (inbox.writeJoinResponseInboxEntry now workspaceId responseText) := by
  apply preserves_bind (preserves_lift _)
  intro _ metadata _ _
  apply preserves_bind (preserves_lift _)
  intro _ resolved _ _
  apply preserves_bind (preserves_reads _)
  intro _ stored _ _
  split
  · apply preserves_bind (preserves_reads _)
    intro _ existing _ _
    apply preserves_bind (preserves_lift _)
    intro _ _ _ _
    exact preserves_pure existing
  · apply preserves_bind (preserves_lift _)
    intro files document _ encoded
    obtain ⟨isEncoded, -⟩ := (lift_eq_ok_iff _ _ _ _).mp encoded
    apply preserves_bind pruneToCapacity_preserves
    intro _ _ _ _
    apply preserves_bind
    · exact preserves_changes fun files wellNamed => wellNamed_insert roundTrips wellNamed isEncoded
    · intro _ _ _ _
      exact preserves_pure _

/-- No call leaves a file that is not an entry under its own identifier. -/
theorem wellNamed_perform
    (roundTrips : inbox.json.RoundTrips) (files : InboxFiles Document) (step : InboxStep)
    (wellNamed : inbox.WellNamed files) : inbox.WellNamed (inbox.perform files step) := by
  cases step with
  | submit now workspaceId response =>
      have preserves : Preserves inbox.WellNamed
          (inbox.submitJoinResponse now workspaceId response) := by
        apply preserves_bind (preserves_lift _)
        intro _ responseText _ _
        apply preserves_bind (preserves_lift _)
        intro _ _ _ _
        apply preserves_bind (preserves_mapError
          (writeJoinResponseInboxEntry_preserves roundTrips now workspaceId _))
        intro _ _ _ _
        exact preserves_pure ()
      exact preserves.kept files wellNamed
  | stage now workspaceId responseText =>
      exact (writeJoinResponseInboxEntry_preserves roundTrips now (some workspaceId)
        responseText).kept files wellNamed
  | acknowledge entryId =>
      have preserves : Preserves inbox.WellNamed
          (acknowledgeJoinResponse entryId : InboxEffect Document Unit) := by
        apply preserves_bind (preserves_lift _)
        intro _ _ _ _
        exact preserves_changes fun files wellNamed => wellNamed_erase wellNamed entryId
      exact preserves.kept files wellNamed

theorem wellNamed_empty : inbox.WellNamed (∅ : InboxFiles Document) := by
  intro stem document found
  simp at found

end Steps

/-! ## Listing -/

section Listing

variable {inbox}

theorem readableEntries_cons
    {files : InboxFiles Document} {stem : String} {entry : JoinResponseInboxEntry}
    (isRead : inbox.readJoinResponseInboxEntryPath files stem = .ok entry) (rest : List String) :
    inbox.readableEntries files (stem :: rest) = entry :: inbox.readableEntries files rest := by
  rw [readableEntries, readableEntries, List.filterMap_cons, isRead]
  rfl

/-- Where there is room for all matching entries, the loop loses none. -/
theorem collectMatching_eq
    {files : InboxFiles Document} {maxEntries : Nat} {isMatch : JoinResponseInboxEntry → Bool}
    {entries : List JoinResponseInboxEntry} {stems : List String}
    (readable : ∀ stem ∈ stems, ∃ entry,
      inbox.readJoinResponseInboxEntryPath files stem = .ok entry)
    (room :
      entries.length + ((inbox.readableEntries files stems).filter isMatch).length ≤ maxEntries) :
    inbox.collectMatching files maxEntries isMatch entries stems =
      .ok ((entries ++ (inbox.readableEntries files stems).filter isMatch).insertionSort
        newestFirst) := by
  induction stems generalizing entries with
  | nil => simp [collectMatching, readableEntries]
  | cons stem rest inductionHypothesis =>
      obtain ⟨⟨entry, isRead⟩, restReadable⟩ := List.forall_mem_cons.mp readable
      rw [readableEntries_cons isRead] at room ⊢
      rw [collectMatching, isRead]
      simp only [bind, Except.bind]
      cases isMatched : isMatch entry with
      | false =>
          have skipped : ¬isMatch entry = true := by rw [isMatched]; exact Bool.false_ne_true
          rw [if_pos rfl, List.filter_cons_of_neg skipped]
          rw [List.filter_cons_of_neg skipped] at room
          exact inductionHypothesis restReadable room
      | true =>
          rw [List.filter_cons_of_pos isMatched, List.length_cons] at room
          have inRoom : (entries ++ [entry]).length ≤ maxEntries := by
            rw [List.length_append, List.length_singleton]
            omega
          rw [if_neg (by simp), if_neg (by omega), List.filter_cons_of_pos isMatched,
            inductionHypothesis restReadable (by
              rw [List.length_append, List.length_singleton]
              omega), List.append_assoc]
          rfl

/-- The files of an inbox are named by the requests that their entries answer. -/
theorem map_requestId_entries
    {files : InboxFiles Document} (wellNamed : inbox.WellNamed files) {stems : List String}
    (stored : ∀ stem ∈ stems, stem ∈ files) :
    (inbox.readableEntries files stems).map JoinResponseInboxEntry.requestId = stems := by
  induction stems with
  | nil => rfl
  | cons stem rest inductionHypothesis =>
      obtain ⟨isStored, restStored⟩ := List.forall_mem_cons.mp stored
      obtain ⟨entry, isRead, named⟩ :=
        wellNamed stem files[stem] (Std.ExtTreeMap.getElem?_eq_some_getElem isStored)
      rw [readableEntries_cons isRead, List.map_cons, inductionHypothesis restStored,
        ← (validEntry_of_read isRead).sameId, named]

/-- The stored entries answer different requests. -/
theorem nodup_storedEntries
    {files : InboxFiles Document} (wellNamed : inbox.WellNamed files) (workspaceId : String)
    (requestIds : List String) :
    ((inbox.storedEntries files workspaceId requestIds).map
      JoinResponseInboxEntry.requestId).Nodup := by
  have named :=
    map_requestId_entries wellNamed fun stem member => Std.ExtTreeMap.mem_keys.mp member
  have distinct : files.keys.Nodup := files.nodup_keys
  rw [← named] at distinct
  exact distinct.sublist ((List.filter_sublist).map _)

theorem mem_storedEntries
    {files : InboxFiles Document} {workspaceId : String} {requestIds : List String}
    {entry : JoinResponseInboxEntry}
    (member : entry ∈ inbox.storedEntries files workspaceId requestIds) :
    (∃ stem, inbox.readJoinResponseInboxEntryPath files stem = .ok entry) ∧
      entry.workspaceId = some workspaceId ∧ entry.requestId ∈ requestIds := by
  rw [storedEntries, List.mem_filter, answers, decide_eq_true_eq, readableEntries,
    List.mem_filterMap] at member
  obtain ⟨⟨stem, -, isRead⟩, matching⟩ := member
  refine ⟨⟨stem, ?_⟩, matching⟩
  cases read : inbox.readJoinResponseInboxEntryPath files stem with
  | error raised => simp [read, Except.toOption] at isRead
  | ok found =>
      rw [read] at isRead
      rw [← Option.some.inj isRead]

theorem length_storedEntries_le
    {files : InboxFiles Document} (wellNamed : inbox.WellNamed files) (workspaceId : String)
    (requestIds : List String) :
    (inbox.storedEntries files workspaceId requestIds).length ≤ requestIds.length := by
  have distinct := nodup_storedEntries wellNamed workspaceId requestIds
  have asked :
      (inbox.storedEntries files workspaceId requestIds).map JoinResponseInboxEntry.requestId ⊆
        requestIds := by
    intro requestId member
    obtain ⟨entry, stored, rfl⟩ := List.mem_map.mp member
    exact (mem_storedEntries stored).2.2
  have count := (distinct.subperm asked).length_le
  rwa [List.length_map] at count

/-- A text that is trimmed is taken as it is. -/
theorem directWorkspaceIdArg_of_wire
    {workspaceId context : String} (valid : validateWireWorkspaceId context workspaceId = .ok ()) :
    directWorkspaceIdArg workspaceId = .ok workspaceId := by
  simp only [validateWireWorkspaceId, bind_eq_ok_iff, ensure_eq_ok_iff, renamed_eq_ok_iff] at valid
  obtain ⟨_, nonempty, _, tight, bounded⟩ := valid
  have same : trimmed workspaceId = workspaceId := by
    rw [trimmed, tight, String.ofList_toList]
  have present : workspaceId ≠ "" := by
    rintro rfl
    exact nonempty rfl
  simp only [directWorkspaceIdArg, same, bind_eq_ok_iff, ensure_eq_ok_iff, renamed_eq_ok_iff]
  exact ⟨(), present, (), bounded, trivial⟩

theorem mapM_trimmedEntryId
    {requestIds : List String}
    (valid : ∀ requestId ∈ requestIds, validateJoinResponseRequestId requestId = .ok ()) :
    requestIds.mapM trimmedEntryId = .ok requestIds := by
  induction requestIds with
  | nil => rfl
  | cons requestId rest inductionHypothesis =>
      obtain ⟨firstValid, restValid⟩ := List.forall_mem_cons.mp valid
      have same : trimmed requestId = requestId := by
        rw [trimmed, trim_of_validateJoinResponseRequestId firstValid, String.ofList_toList]
      refine mapM_cons_eq_ok_iff.mpr
        ⟨requestId, rest, ?_, inductionHypothesis restValid, rfl⟩
      simp only [trimmedEntryId, same, bind_eq_ok_iff]
      exact ⟨(), (validateJoinResponseEntryId_eq_ok_iff requestId).mpr firstValid, trivial⟩

/-- The inbox lists all that it holds for a request. -/
theorem listInboxForRequests_eq
    {files : InboxFiles Document} (wellNamed : inbox.WellNamed files) {workspaceId : String}
    {requestIds : List String} {limit : Nat} {context : String}
    (validWorkspace : validateWireWorkspaceId context workspaceId = .ok ())
    (validIds : ∀ requestId ∈ requestIds, validateJoinResponseRequestId requestId = .ok ())
    (nonempty : requestIds ≠ []) (count : requestIds.length ≤ maxFetchJoinResponsesPerRequest)
    (room : requestIds.length ≤ limit) :
    inbox.listInboxForRequests files workspaceId requestIds limit =
      .ok (((inbox.storedEntries files workspaceId requestIds).insertionSort newestFirst).map
        fun entry => textBytes entry.responseText) := by
  have entries := length_storedEntries_le wellNamed workspaceId requestIds
  have positive : limit ≠ 0 := by
    rintro rfl
    exact nonempty (List.length_eq_zero_iff.mp (by omega))
  have inRoom :
      (inbox.storedEntries files workspaceId requestIds).length ≤
        min limit joinResponseInboxListMaxEntries := by
    rw [maxFetchJoinResponsesPerRequest] at count
    rw [joinResponseInboxListMaxEntries]
    omega
  have readable : ∀ stem ∈ files.keys, ∃ entry,
      inbox.readJoinResponseInboxEntryPath files stem = .ok entry := by
    intro stem member
    obtain ⟨entry, isRead, -⟩ :=
      wellNamed stem _ (Std.ExtTreeMap.getElem?_eq_some_getElem (Std.ExtTreeMap.mem_keys.mp member))
    exact ⟨entry, isRead⟩
  have collected :
      inbox.collectMatching files (min limit joinResponseInboxListMaxEntries)
          (answers workspaceId requestIds) [] files.keys =
        .ok (([] ++ inbox.storedEntries files workspaceId requestIds).insertionSort
          newestFirst) := by
    refine collectMatching_eq readable ?_
    rw [List.length_nil, Nat.zero_add]
    exact inRoom
  have asked : ¬(requestIds = [] ∨ limit = 0) := by
    rintro (empty | none)
    · exact nonempty empty
    · exact positive none
  have someRoom : min limit joinResponseInboxListMaxEntries ≠ 0 := by
    rw [joinResponseInboxListMaxEntries]
    omega
  rw [listInboxForRequests, if_neg asked, directWorkspaceIdArg_of_wire validWorkspace,
    mapM_trimmedEntryId validIds]
  have listed :
      inbox.listJoinResponseInboxEntriesMatching files
          (min limit joinResponseInboxListMaxEntries) (answers workspaceId requestIds) =
        .ok ((inbox.storedEntries files workspaceId requestIds).insertionSort newestFirst) := by
    rw [listJoinResponseInboxEntriesMatching, if_neg someRoom, collected, List.nil_append]
  have sameMatch :
      (fun entry : JoinResponseInboxEntry =>
        decide (entry.workspaceId = some workspaceId ∧ entry.requestId ∈ requestIds)) =
        answers workspaceId requestIds := rfl
  simp only [Except.mapError, bind, Except.bind, sameMatch, listed]

end Listing

/-! ## Answers -/

def answerOf (entry : JoinResponseInboxEntry) : String × List UInt8 :=
  (entry.requestId, textBytes entry.responseText)

/-- After any calls, the responses that the inbox holds for a valid request reach the
requester exactly when each of them writes its ID without white space around it. -/
theorem servesJoinResponses_iff
    (roundTrips : inbox.json.RoundTrips) (eventBodyToVec : WireEventBody → List UInt8)
    (steps : List InboxStep) (workspaceId : String) (requestIds : List String) (limit : UInt64)
    (distinct : requestIds.Nodup)
    (count : requestIds.length ≤ maxFetchJoinResponsesPerRequest)
    (validIds : ∀ requestId ∈ requestIds, validateJoinResponseRequestId requestId = .ok ())
    (room : requestIds.length ≤ limit.toNat) :
    inbox.ServesJoinResponses eventBodyToVec (Trace.run inbox.perform ∅ steps) workspaceId
        requestIds limit ↔
      (requestIds ≠ [] ∧ limit.toNat ≤ maxFetchJoinResponsesPerRequest ∧
          validateWireWorkspaceId "fetch-join-responses" workspaceId = .ok ()) ∧
        ∀ entry ∈ inbox.storedEntries (Trace.run inbox.perform ∅ steps) workspaceId requestIds,
          requestIdField inbox.reader entry.responseText = some (some entry.requestId) := by
  have wellNamed : inbox.WellNamed (Trace.run inbox.perform ∅ steps) :=
    Trace.run_keeps inbox.perform (wellNamed_perform roundTrips) wellNamed_empty steps
  generalize Trace.run inbox.perform ∅ steps = files at wellNamed ⊢
  have valid : ∀ entry ∈ inbox.storedEntries files workspaceId requestIds,
      inbox.ValidEntry entry := by
    intro entry member
    obtain ⟨⟨stem, isRead⟩, -⟩ := mem_storedEntries member
    exact validEntry_of_read isRead
  constructor
  · rintro ⟨response, handled, sameTexts, -⟩
    simp only [handleFetchJoinResponses, bind_eq_ok_iff, Except.ok.injEq] at handled
    obtain ⟨⟨asked, limited⟩, checked, responses, -, envelopes, filtered, _, -, _, -, _, -, rfl⟩ :=
      handled
    have fetches := validateFetchJoinResponsesRequest_eq_ok checked
    obtain rfl := Option.some.inj fetches.workspace
    obtain rfl := Option.some.inj fetches.isLimit
    refine ⟨⟨fetches.nonempty, fetches.limitBounded, fetches.validWorkspace⟩, ?_⟩
    intro entry member
    have taken : textBytes entry.responseText ∈ envelopes :=
      sameTexts.mem_iff.mpr (List.mem_map_of_mem member)
    have asks : ¬(requestIds = [] ∨ limit.toNat = 0) := by
      rintro (empty | none)
      · exact fetches.nonempty empty
      · exact fetches.limitPositive none
    change filterJoinResponsesForRequests _ responses requestIds limit.toNat = .ok envelopes
      at filtered
    rw [filterJoinResponsesForRequests, if_neg asks] at filtered
    obtain nothing | ⟨requestId, isRead⟩ :=
      readable_of_takeRequestedResponses filtered _ taken
    · cases nothing
    · exact ((joinResponseRequestId_entry (valid entry member) requestId).mp isRead).2
  · rintro ⟨⟨nonempty, bounded, validWorkspace⟩, exactIds⟩
    have positive : limit.toNat ≠ 0 := by
      intro none
      exact nonempty (List.length_eq_zero_iff.mp (by omega))
    have checked :=
      validateFetchJoinResponsesRequest_of_valid validWorkspace positive bounded nonempty count
        distinct validIds
    have listed := listInboxForRequests_eq wellNamed validWorkspace validIds nonempty count room
    have stored := length_storedEntries_le wellNamed workspaceId requestIds
    have differ := nodup_storedEntries wellNamed workspaceId requestIds
    have sameEntries :=
      List.perm_insertionSort newestFirst (inbox.storedEntries files workspaceId requestIds)
    generalize (inbox.storedEntries files workspaceId requestIds).insertionSort newestFirst =
      entries at listed sameEntries
    have few : entries.length ≤ requestIds.length := by
      rw [sameEntries.length_eq]
      exact stored
    have known : ∀ entry ∈ entries,
        entry ∈ inbox.storedEntries files workspaceId requestIds :=
      fun entry member => sameEntries.mem_iff.mp member
    have isRead : ∀ answer ∈ entries.map answerOf,
        joinResponseRequestId (requestIdField inbox.reader) answer.2 = .ok answer.1 := by
      intro answer member
      obtain ⟨entry, listed, rfl⟩ := List.mem_map.mp member
      exact (joinResponseRequestId_entry (valid entry (known entry listed)) entry.requestId).mpr
        ⟨rfl, exactIds entry (known entry listed)⟩
    have small : ∀ answer ∈ entries.map answerOf,
        validateJoinResponseSubmissionBytes answer.2 = .ok () := by
      intro answer member
      obtain ⟨entry, listed, rfl⟩ := List.mem_map.mp member
      have isValid := valid entry (known entry listed)
      exact (validateJoinResponseSubmissionBytes_eq_ok_iff _ ()).mpr
        ⟨isValid.nonempty, isValid.small⟩
    have asked : ∀ answer ∈ entries.map answerOf, answer.1 ∈ requestIds := by
      intro answer member
      obtain ⟨entry, listed, rfl⟩ := List.mem_map.mp member
      exact (mem_storedEntries (known entry listed)).2.2
    have different : ((entries.map answerOf).map Prod.fst).Nodup := by
      rw [List.map_map]
      exact (sameEntries.map JoinResponseInboxEntry.requestId).nodup_iff.mpr differ
    have texts :
        (entries.map answerOf).map Prod.snd =
          entries.map fun entry => textBytes entry.responseText := by
      rw [List.map_map]
      rfl
    have answered :=
      handleFetchJoinResponses_of_answers eventBodyToVec (inbox.listInboxForRequests files) checked
        (listed.trans (congrArg Except.ok texts.symm)) small isRead asked different
        (by rw [List.length_map]; omega)
    rw [texts] at answered
    refine ⟨_, answered, ?_, ?_⟩
    · exact sameEntries.map _
    · have taken :=
        @validateScopedJoinResponses_of_distinct (requestIdField inbox.reader) requestIds []
          (entries.map answerOf) isRead asked different fun _ _ => List.not_mem_nil
      rw [texts] at taken
      exact taken

end FileJoinResponseInbox

/-! ## An ID with white space before it -/

def exactResponseText : String :=
  "\x7b\"kind\":\"chaft.workspace-join-response.v1\",\"schemaVersion\":1," ++
    "\"requestId\":\"req_1\",\"workspaceId\":\"wrk_1\",\"resolution\":\"approved\"\x7d"

def paddedResponseText : String :=
  "\x7b\"kind\":\"chaft.workspace-join-response.v1\",\"schemaVersion\":1," ++
    "\"requestId\":\" req_2\",\"workspaceId\":\"wrk_1\",\"resolution\":\"declined\"\x7d"

def resolvedResponse (requestId resolution : String) : JoinPayload where
  kind := some "chaft.workspace-join-response.v1"
  schemaVersion := some 1
  displayName := none
  requestId := some requestId
  workspaceId := some "wrk_1"
  inviteId := none
  inviteeDeviceId := none
  role := none
  resolution := some resolution
  claim := .error "missing field"
  response := .error "missing field"

def twoResponseReader : PayloadReader := fun text =>
  if text = exactResponseText then
    .ok (some (resolvedResponse "req_1" "approved"))
  else if text = paddedResponseText then
    .ok (some (resolvedResponse " req_2" "declined"))
  else
    .error "expected value"

/-- Files that hold their entries as they are. -/
def inboxEntryFiles : InboxJson JoinResponseInboxEntry where
  toVecPretty := id
  fromStr := .ok
  byteLen entry := 512 + entry.responseText.utf8ByteSize

def twoResponseInbox : FileJoinResponseInbox JoinResponseInboxEntry where
  reader := twoResponseReader
  json := inboxEntryFiles
  dataDir := "data".toList

def submitExact : InboxStep := .submit 1 (some "wrk_1") (textBytes exactResponseText)

def submitPadded : InboxStep := .submit 2 (some "wrk_1") (textBytes paddedResponseText)

/-- What the inbox holds after one and after two responses, evaluated at once. -/
private theorem twoResponseInbox_facts :
    (∀ entry ∈ twoResponseInbox.storedEntries
        (Trace.run twoResponseInbox.perform ∅ [submitExact]) "wrk_1" ["req_1"],
      requestIdField twoResponseReader entry.responseText = some (some entry.requestId)) ∧
      (handleFetchJoinResponses (requestIdField twoResponseReader) (fun _ => [])
        (twoResponseInbox.listInboxForRequests
          (Trace.run twoResponseInbox.perform ∅ [submitExact, submitPadded]))
        (fetchJoinResponsesRequest "wrk_1" ["req_1", "req_2"] 5)).isOk = false := by
  decide +kernel

/-- A response that writes its ID exactly is served. -/
theorem servesJoinResponses_exact :
    twoResponseInbox.ServesJoinResponses (fun _ => [])
      (Trace.run twoResponseInbox.perform ∅ [submitExact]) "wrk_1" ["req_1"] 5 := by
  have valid : ∀ requestId ∈ ["req_1"], validateJoinResponseRequestId requestId = .ok () := by
    decide +kernel
  have exactIds := twoResponseInbox_facts.1
  exact (FileJoinResponseInbox.servesJoinResponses_iff twoResponseInbox (fun _ => rfl) _ _ _ _ _
    (by decide) (by decide) valid (by decide)).mpr
      ⟨⟨by decide, by decide, by decide +kernel⟩, exactIds⟩

/-- One response with white space before its ID hides another response. -/
theorem not_servesJoinResponses :
    ¬ ∀ (inbox : FileJoinResponseInbox JoinResponseInboxEntry)
        (eventBodyToVec : WireEventBody → List UInt8) (steps : List InboxStep)
        (workspaceId : String) (requestIds : List String) (limit : UInt64),
      inbox.json.RoundTrips →
        validateWireWorkspaceId "fetch-join-responses" workspaceId = .ok () →
          requestIds ≠ [] → requestIds.Nodup →
            requestIds.length ≤ maxFetchJoinResponsesPerRequest →
              (∀ requestId ∈ requestIds, validateJoinResponseRequestId requestId = .ok ()) →
                requestIds.length ≤ limit.toNat →
                  limit.toNat ≤ maxFetchJoinResponsesPerRequest →
                    inbox.ServesJoinResponses eventBodyToVec
                      (Trace.run inbox.perform ∅ steps) workspaceId requestIds limit := by
  intro serves
  have valid : ∀ requestId ∈ ["req_1", "req_2"],
      validateJoinResponseRequestId requestId = .ok () := by
    decide +kernel
  obtain ⟨response, handled, -⟩ :=
    serves twoResponseInbox (fun _ => []) [submitExact, submitPadded] "wrk_1" ["req_1", "req_2"] 5
      (fun _ => rfl) (by decide +kernel) (by decide) (by decide) (by decide) valid (by decide)
      (by decide)
  have refused := twoResponseInbox_facts.2
  change handleFetchJoinResponses (requestIdField twoResponseReader) _ _ _ = _ at handled
  rw [handled] at refused
  cases refused

end Chaft
