import Chaft.Bindings.Outbox
import Chaft.Library.Trace

/-!
# Delivery from an outbox

A queued text leaves its outbox when its entry is delivered or acknowledged.  The entry
alone does not tell which text was delivered: a text that replaces a delivered one, or that
is queued while another is on its way, is dropped without having been sent.
-/

namespace Chaft

open Keyed Outcome Trace

/-- How a network exchange ends; an aborted one marks nothing. -/
inductive SubmitOutcome where
  | delivered
  | failed (message : String)
  | aborted
  deriving DecidableEq

inductive OutboxStep where
  | queue (now : Nat) (peerEndpoint workspaceId : Option String) (text : String)
  | list (maxEntries : Nat)
  | listDue (now maxEntries : Nat)
  | mark (now : Nat) (entryId status : String) (error : Option String)
  | acknowledge (entryId : String)
  | beginSubmit (ticket : Nat) (entryId : String)
  | finishSubmit (ticket now : Nat) (outcome : SubmitOutcome)

namespace OutboxState

variable {α Document : Type}

/-- A failed call changes no file. -/
def withFiles
    (state : OutboxState Document) (result : Except FfiError (α × HashMap String Document)) :
    OutboxState Document :=
  match result with
  | .ok (_, files) => { state with files := files }
  | .error _ => state

end OutboxState

namespace Outbox

variable {Endpoint Document : Type} (outbox : Outbox Endpoint Document)

/-- What a submission does after the network exchange. -/
def finishSubmission
    (now : Nat) (outcome : SubmitOutcome) (submission : Submission)
    (state : OutboxState Document) : OutboxState Document :=
  match outcome with
  | .delivered =>
      state.withFiles (outbox.markEntry now submission.entryId .delivered none state.files)
  | .failed message =>
      state.withFiles
        (outbox.markEntry now submission.entryId .failed (some message) state.files)
  | .aborted => state

def perform (state : OutboxState Document) : OutboxStep → OutboxState Document
  | .queue now peerEndpoint workspaceId text =>
      state.withFiles (outbox.queue now peerEndpoint workspaceId text state.files)
  | .list maxEntries => (outbox.listEntries (listSize maxEntries) state).2
  | .listDue now maxEntries => (outbox.listDueEntries now (listSize maxEntries) state).2
  | .mark now entryId status error =>
      state.withFiles (outbox.markEntryArgs now entryId status error state.files)
  | .acknowledge entryId =>
      match outbox.acknowledgeEntry entryId state.files with
      | .ok files => { state with files := files }
      | .error _ => state
  | .beginSubmit ticket entryId =>
      match outbox.beginSubmission entryId state.files with
      | .ok submission =>
          { state with submissions := state.submissions.insert ticket submission }
      | .error _ => state
  | .finishSubmit ticket now outcome =>
      match state.submissions[ticket]? with
      | some submission =>
          outbox.finishSubmission now outcome submission
            { state with submissions := state.submissions.erase ticket }
      | none => state

/-! ## Files -/

/-- Every entry is stored under its own identifier. -/
def WellNamed (files : HashMap String Document) : Prop :=
  ∀ stem entry, outbox.readEntryPath files stem = .ok entry → entry.entryId = stem

/-- The text is stored and neither delivered nor acknowledged. -/
def Awaits (files : HashMap String Document) (entryId text : String) : Prop :=
  ∃ entry, outbox.readEntryPath files entryId = .ok entry ∧ entry.text = text ∧
    entry.isTerminal = false

section Files

variable {outbox}

theorem readEntryPath_congr
    {files others : HashMap String Document} {stem : String}
    (same : files[stem]? = others[stem]?) :
    outbox.readEntryPath files stem = outbox.readEntryPath others stem := by
  unfold readEntryPath
  rw [same]

theorem readEntryPath_eq_ok_iff
    (files : HashMap String Document) (stem : String) (entry : OutboxEntry Endpoint) :
    outbox.readEntryPath files stem = .ok entry ↔
      ∃ document, files[stem]? = some document ∧
        outbox.json.byteLen document ≤ outbox.entryMaxBytes ∧
          outbox.json.fromStr document = .ok entry ∧ outbox.validateEntry entry = .ok () := by
  unfold readEntryPath
  simp only [bind_eq_ok_iff, okOr_eq_ok_iff, ensure_eq_ok_iff, renamed_eq_ok_iff]
  constructor
  · intro read
    obtain ⟨document, stored, _, fits, parsed, parses, _, valid, isEntry⟩ := read
    cases isEntry
    exact ⟨document, stored, fits, parses, valid⟩
  · intro read
    obtain ⟨document, stored, fits, parses, valid⟩ := read
    exact ⟨document, stored, (), fits, entry, parses, (), valid, rfl⟩

theorem readEntry_eq_ok_iff
    (files : HashMap String Document) (entryId : String) (entry : OutboxEntry Endpoint) :
    outbox.readEntry files entryId = .ok entry ↔
      outbox.checkEntryId entryId = .ok () ∧ outbox.readEntryPath files entryId = .ok entry := by
  unfold readEntry
  simp only [bind_eq_ok_iff]
  constructor
  · rintro ⟨_, checked, read⟩
    exact ⟨checked, read⟩
  · intro accepted
    exact ⟨(), accepted.1, accepted.2⟩

theorem writeEntry_eq_ok
    {files written : HashMap String Document} {entry : OutboxEntry Endpoint}
    (writes : outbox.writeEntry files entry = .ok written) :
    outbox.validateEntry entry = .ok () ∧
      outbox.json.byteLen (outbox.json.toVecPretty entry) ≤ outbox.entryMaxBytes ∧
        written = files.insert entry.entryId (outbox.json.toVecPretty entry) := by
  unfold writeEntry at writes
  simp only [bind_eq_ok_iff, ensure_eq_ok_iff, Except.ok.injEq] at writes
  obtain ⟨_, valid, _, fits, isWritten⟩ := writes
  exact ⟨valid, fits, isWritten.symm⟩

/-- Writing an entry leaves the other files as they are. -/
theorem readEntryPath_of_writeEntry_ne
    {files written : HashMap String Document} {entry : OutboxEntry Endpoint} {stem : String}
    (writes : outbox.writeEntry files entry = .ok written) (other : entry.entryId ≠ stem) :
    outbox.readEntryPath written stem = outbox.readEntryPath files stem := by
  obtain ⟨-, -, rfl⟩ := writeEntry_eq_ok writes
  refine readEntryPath_congr ?_
  rw [Std.ExtTreeMap.getElem?_insert, if_neg]
  exact fun same => other (Std.LawfulEqCmp.compare_eq_iff_eq.mp same)

variable
  (lawful : ∀ entry, outbox.json.fromStr (outbox.json.toVecPretty entry) = .ok entry)

include lawful in
/-- A written entry reads back. -/
theorem readEntryPath_of_writeEntry
    {files written : HashMap String Document} {entry : OutboxEntry Endpoint}
    (writes : outbox.writeEntry files entry = .ok written) :
    outbox.readEntryPath written entry.entryId = .ok entry := by
  obtain ⟨valid, fits, rfl⟩ := writeEntry_eq_ok writes
  refine (readEntryPath_eq_ok_iff _ _ _).mpr
    ⟨outbox.json.toVecPretty entry, ?_, fits, lawful entry, valid⟩
  rw [Std.ExtTreeMap.getElem?_insert_self]

include lawful in
theorem wellNamed_of_writeEntry
    {files written : HashMap String Document} {entry : OutboxEntry Endpoint}
    (wellNamed : outbox.WellNamed files) (writes : outbox.writeEntry files entry = .ok written) :
    outbox.WellNamed written := by
  intro stem other read
  by_cases same : entry.entryId = stem
  · subst same
    rw [readEntryPath_of_writeEntry lawful writes, Except.ok.injEq] at read
    rw [← read]
  · rw [readEntryPath_of_writeEntry_ne writes same] at read
    exact wellNamed stem other read

end Files

/-! ## Calls -/

section Calls

variable {outbox}

theorem queue_eq_ok
    {now : Nat} {peerEndpoint workspaceId : Option String} {text : String}
    {files written : HashMap String Document} {stored : OutboxEntry Endpoint}
    (queues : outbox.queue now peerEndpoint workspaceId text files = .ok (stored, written)) :
    ∃ queued, outbox.checkQueued peerEndpoint workspaceId text = .ok queued ∧
      stored = queuedEntry now queued (outbox.readEntry files queued.requestId).toOption ∧
        outbox.writeEntry files stored = .ok written := by
  unfold queue queueEntry at queues
  simp only [bind_eq_ok_iff, Except.ok.injEq, Prod.mk.injEq] at queues
  obtain ⟨queued, checked, _, -, files, writes, rfl, rfl⟩ := queues
  exact ⟨queued, checked, rfl, writes⟩

theorem markEntry_eq_ok
    {now : Nat} {entryId : String} {status : OutboxStatus} {error : Option String}
    {files written : HashMap String Document} {marked : OutboxEntry Endpoint}
    (marks : outbox.markEntry now entryId status error files = .ok (marked, written)) :
    ∃ entry, outbox.readEntry files entryId = .ok entry ∧
      marked = markedEntry now status error entry ∧
        outbox.writeEntry files marked = .ok written := by
  unfold markEntry at marks
  simp only [bind_eq_ok_iff, Except.ok.injEq, Prod.mk.injEq] at marks
  obtain ⟨entry, read, files, writes, rfl, rfl⟩ := marks
  exact ⟨entry, read, rfl, writes⟩

theorem markEntryArgs_eq_ok
    {now : Nat} {entryId status : String} {error : Option String}
    {files written : HashMap String Document} {marked : OutboxEntry Endpoint}
    (marks : outbox.markEntryArgs now entryId status error files = .ok (marked, written)) :
    ∃ parsed, outbox.statusArg status = .ok parsed ∧
      outbox.markEntry now entryId parsed (optionalArg error) files = .ok (marked, written) := by
  unfold markEntryArgs at marks
  simp only [bind_eq_ok_iff] at marks
  obtain ⟨_, -, parsed, parses, _, -, marks⟩ := marks
  exact ⟨parsed, parses, marks⟩

theorem withFiles_cases {α : Type}
    (state : OutboxState Document) (result : Except FfiError (α × HashMap String Document)) :
    state.withFiles result = state ∨
      ∃ value files, result = .ok (value, files) ∧
        state.withFiles result = { state with files := files } := by
  cases result with
  | error raised => exact Or.inl rfl
  | ok changed => exact Or.inr ⟨changed.1, changed.2, rfl, rfl⟩

/-- Listing keeps every file that reads as an entry, and makes no other one readable. -/
theorem readEntryPath_of_listEntries
    (maxEntries : Nat) (state : OutboxState Document) (stem : String)
    (entry : OutboxEntry Endpoint) :
    outbox.readEntryPath (outbox.listEntries maxEntries state).2.files stem = .ok entry ↔
      outbox.readEntryPath state.files stem = .ok entry := by
  unfold listEntries
  split
  · cases read : outbox.readEntryPath state.files stem with
    | ok found =>
        have kept :
            (state.files.filter fun other _ => outbox.isReadable state.files other)[stem]? =
              state.files[stem]? := by
          rw [Std.ExtTreeMap.getElem?_filter', isReadable, read]
          cases state.files[stem]? <;> rfl
        rw [readEntryPath_congr kept, read]
    | error raised =>
        have gone :
            (state.files.filter fun other _ => outbox.isReadable state.files other)[stem]? =
              none := by
          rw [Std.ExtTreeMap.getElem?_filter', isReadable, read]
          simp [Except.toOption]
        rw [readEntryPath_eq_ok_iff, gone]
        simp
  · rfl

/-- Every listed entry was read from some file. -/
theorem exists_stem_of_listed
    {maxEntries : Nat} {state : OutboxState Document} {entries : List (OutboxEntry Endpoint)}
    (lists : (outbox.listEntries maxEntries state).1 = .ok entries)
    {entry : OutboxEntry Endpoint} (isListed : entry ∈ entries) :
    ∃ stem, outbox.readEntryPath state.files stem = .ok entry := by
  have inSorted :
      ∀ read : List (OutboxEntry Endpoint), entry ∈ sortEntries read maxEntries →
        entry ∈ read := by
    intro read isSorted
    rw [sortEntries] at isSorted
    exact (List.mem_insertionSort _).mp (List.mem_of_mem_take isSorted)
  unfold listEntries at lists
  split at lists
  · rw [Except.ok.injEq] at lists
    subst lists
    obtain ⟨read, isRead, isEntry⟩ := List.mem_filterMap.mp (inSorted _ isListed)
    obtain ⟨stem, -, rfl⟩ := List.mem_map.mp isRead
    cases reads : outbox.readEntryPath state.files stem with
    | error raised => simp [reads, Except.toOption] at isEntry
    | ok found =>
        simp only [reads, Except.toOption, Option.some.injEq] at isEntry
        exact ⟨stem, isEntry ▸ reads⟩
  · cases reads : (state.files.keys.map (outbox.readEntryPath state.files)).mapM id with
    | error raised => simp [reads, Except.map] at lists
    | ok found =>
        simp only [reads, Except.map, Except.ok.injEq] at lists
        subst lists
        obtain ⟨read, isRead, isEntry⟩ := exists_of_mem_mapM reads _ (inSorted _ isListed)
        obtain ⟨stem, -, rfl⟩ := List.mem_map.mp isRead
        exact ⟨stem, isEntry⟩

private theorem getElem?_foldl_erase
    (entries : List (OutboxEntry Endpoint)) (files : HashMap String Document) (stem : String) :
    (entries.foldl (fun files entry => files.erase entry.entryId) files)[stem]? =
      if stem ∈ entries.map OutboxEntry.entryId then none else files[stem]? := by
  induction entries generalizing files with
  | nil => simp
  | cons entry rest inductionHypothesis =>
      rw [List.foldl_cons, inductionHypothesis, List.map_cons, Std.ExtTreeMap.getElem?_erase]
      by_cases same : entry.entryId = stem
      · simp [same]
      · have different : ¬ stem = entry.entryId := fun equal => same equal.symm
        simp [same, different]

variable (outbox) in
/-- Listing the due entries makes no file readable, and deletes only the files whose names
are those of terminal entries. -/
theorem getElem?_of_listDueEntries
    (now maxEntries : Nat) (state : OutboxState Document) (stem : String) :
    (outbox.listDueEntries now maxEntries state).2.files[stem]? =
        (outbox.listEntries maxUnixMs state).2.files[stem]? ∨
      (outbox.listDueEntries now maxEntries state).2.files[stem]? = none ∧
        ∃ other entry, outbox.readEntryPath state.files other = .ok entry ∧
          entry.entryId = stem ∧ entry.isTerminal = true := by
  unfold listDueEntries
  cases lists : outbox.listEntries maxUnixMs state with
  | mk result listed =>
      cases result with
      | error raised => exact Or.inl rfl
      | ok entries =>
          dsimp only
          rw [getElem?_foldl_erase]
          split
          · rename_i isErased
            obtain ⟨entry, isTerminal, isStem⟩ := List.mem_map.mp isErased
            obtain ⟨isListed, terminal⟩ := List.mem_filter.mp isTerminal
            obtain ⟨other, read⟩ :=
              exists_stem_of_listed (by rw [lists]) isListed
            exact Or.inr ⟨rfl, other, entry, read, isStem, terminal⟩
          · exact Or.inl rfl

end Calls

/-! ## Steps -/

/-- The entry that a queue call stores. -/
def storedByQueue (state : OutboxState Document) : OutboxStep → Option (OutboxEntry Endpoint)
  | .queue now peerEndpoint workspaceId text =>
      (outbox.queue now peerEndpoint workspaceId text state.files).toOption.map Prod.fst
  | _ => none

def QueuesUnder (entryId : String) (state : OutboxState Document) (step : OutboxStep) : Prop :=
  ∃ stored, outbox.storedByQueue state step = some stored ∧ stored.entryId = entryId

/-- A submission of the text succeeds, or the entry is acknowledged or marked by a call. -/
def Settles (entryId text : String) (state : OutboxState Document) : OutboxStep → Prop
  | .mark _ marked status _ =>
      marked = entryId ∧
        (outbox.statusArg status = .ok .delivered ∨ outbox.statusArg status = .ok .acknowledged)
  | .acknowledge acknowledged => acknowledged = entryId
  | .finishSubmit ticket _ .delivered => state.submissions[ticket]? = some ⟨entryId, text⟩
  | _ => False

/-- A text does not replace a delivered or acknowledged one, and a submission that succeeds
finds the text that it has sent, or a terminal entry. -/
def Careful (state : OutboxState Document) : OutboxStep → Prop
  | .queue _ peerEndpoint workspaceId text =>
      ∀ queued, outbox.checkQueued peerEndpoint workspaceId text = .ok queued →
        ∀ existing, outbox.readEntry state.files queued.requestId = .ok existing →
          existing.isTerminal = false
  | .finishSubmit ticket _ .delivered =>
      ∀ submission, state.submissions[ticket]? = some submission →
        ∀ entry, outbox.readEntry state.files submission.entryId = .ok entry →
          entry.isTerminal = true ∨ entry.text = submission.text
  | _ => True

section Steps

variable {outbox}
  (lawful : ∀ entry, outbox.json.fromStr (outbox.json.toVecPretty entry) = .ok entry)

include lawful in
theorem wellNamed_of_queue
    {now : Nat} {peerEndpoint workspaceId : Option String} {text : String}
    {files written : HashMap String Document} {stored : OutboxEntry Endpoint}
    (wellNamed : outbox.WellNamed files)
    (queues : outbox.queue now peerEndpoint workspaceId text files = .ok (stored, written)) :
    outbox.WellNamed written := by
  obtain ⟨_, -, -, writes⟩ := queue_eq_ok queues
  exact wellNamed_of_writeEntry lawful wellNamed writes

include lawful in
theorem wellNamed_of_markEntry
    {now : Nat} {entryId : String} {status : OutboxStatus} {error : Option String}
    {files written : HashMap String Document} {marked : OutboxEntry Endpoint}
    (wellNamed : outbox.WellNamed files)
    (marks : outbox.markEntry now entryId status error files = .ok (marked, written)) :
    outbox.WellNamed written := by
  obtain ⟨_, -, -, writes⟩ := markEntry_eq_ok marks
  exact wellNamed_of_writeEntry lawful wellNamed writes

theorem wellNamed_of_subset
    {files fewer : HashMap String Document} (wellNamed : outbox.WellNamed files)
    (fromFiles :
      ∀ stem entry, outbox.readEntryPath fewer stem = .ok entry →
        outbox.readEntryPath files stem = .ok entry) :
    outbox.WellNamed fewer :=
  fun stem entry read => wellNamed stem entry (fromFiles stem entry read)

theorem readEntryPath_of_erase
    {files : HashMap String Document} {entryId stem : String} {entry : OutboxEntry Endpoint}
    (read : outbox.readEntryPath (files.erase entryId) stem = .ok entry) :
    outbox.readEntryPath files stem = .ok entry := by
  rw [readEntryPath_eq_ok_iff] at read ⊢
  obtain ⟨document, stored, rest⟩ := read
  rw [Std.ExtTreeMap.getElem?_erase] at stored
  split at stored
  · cases stored
  · exact ⟨document, stored, rest⟩

theorem readEntryPath_of_listDueEntries
    {now maxEntries : Nat} {state : OutboxState Document} {stem : String}
    {entry : OutboxEntry Endpoint}
    (read :
      outbox.readEntryPath (outbox.listDueEntries now maxEntries state).2.files stem =
        .ok entry) :
    outbox.readEntryPath state.files stem = .ok entry := by
  rcases getElem?_of_listDueEntries outbox now maxEntries state stem with
    same | ⟨gone, -⟩
  · rw [readEntryPath_congr same] at read
    exact (readEntryPath_of_listEntries _ _ _ _).mp read
  · rw [readEntryPath_eq_ok_iff, gone] at read
    obtain ⟨_, impossible, -⟩ := read
    cases impossible

variable (outbox) in
/-- A submission ends with at most one mark. -/
theorem finishSubmission_cases
    (now : Nat) (outcome : SubmitOutcome) (submission : Submission)
    (state : OutboxState Document) :
    (outbox.finishSubmission now outcome submission state).files = state.files ∨
      ∃ status error marked written,
        outbox.markEntry now submission.entryId status error state.files =
            .ok (marked, written) ∧
          (outbox.finishSubmission now outcome submission state).files = written ∧
            (status = .failed ∨ status = .delivered ∧ outcome = .delivered) := by
  cases outcome with
  | aborted => exact Or.inl rfl
  | delivered =>
      rw [finishSubmission]
      rcases withFiles_cases state
          (outbox.markEntry now submission.entryId .delivered none state.files) with
        same | ⟨marked, written, marks, changed⟩
      · exact Or.inl (by rw [same])
      · exact Or.inr ⟨.delivered, none, marked, written, marks, by rw [changed],
          Or.inr ⟨rfl, rfl⟩⟩
  | failed message =>
      rw [finishSubmission]
      rcases withFiles_cases state
          (outbox.markEntry now submission.entryId .failed (some message) state.files) with
        same | ⟨marked, written, marks, changed⟩
      · exact Or.inl (by rw [same])
      · exact Or.inr ⟨.failed, some message, marked, written, marks, by rw [changed],
          Or.inl rfl⟩

include lawful in
/-- Every step stores entries under their own identifiers. -/
theorem wellNamed_perform
    (state : OutboxState Document) (step : OutboxStep) (wellNamed : outbox.WellNamed state.files) :
    outbox.WellNamed (outbox.perform state step).files := by
  cases step with
  | queue now peerEndpoint workspaceId text =>
      rw [perform]
      rcases withFiles_cases state (outbox.queue now peerEndpoint workspaceId text state.files) with
        same | ⟨stored, written, queues, changed⟩
      · rw [same]
        exact wellNamed
      · rw [changed]
        exact wellNamed_of_queue lawful wellNamed queues
  | list maxEntries =>
      exact wellNamed_of_subset wellNamed fun stem entry =>
        (readEntryPath_of_listEntries _ _ stem entry).mp
  | listDue now maxEntries =>
      exact wellNamed_of_subset wellNamed fun stem entry => readEntryPath_of_listDueEntries
  | mark now entryId status error =>
      rw [perform]
      rcases withFiles_cases state (outbox.markEntryArgs now entryId status error state.files) with
        same | ⟨marked, written, marks, changed⟩
      · rw [same]
        exact wellNamed
      · obtain ⟨_, -, marks⟩ := markEntryArgs_eq_ok marks
        rw [changed]
        exact wellNamed_of_markEntry lawful wellNamed marks
  | acknowledge entryId =>
      rw [perform]
      cases acknowledges : outbox.acknowledgeEntry entryId state.files with
      | error raised => exact wellNamed
      | ok files =>
          unfold acknowledgeEntry at acknowledges
          simp only [bind_eq_ok_iff, Except.ok.injEq] at acknowledges
          obtain ⟨_, -, rfl⟩ := acknowledges
          exact wellNamed_of_subset wellNamed fun stem entry => readEntryPath_of_erase
  | beginSubmit ticket entryId =>
      rw [perform]
      cases outbox.beginSubmission entryId state.files with
      | error raised => exact wellNamed
      | ok submission => exact wellNamed
  | finishSubmit ticket now outcome =>
      rw [perform]
      cases state.submissions[ticket]? with
      | none => exact wellNamed
      | some submission =>
          dsimp only
          rcases finishSubmission_cases outbox now outcome submission
              { state with submissions := state.submissions.erase ticket } with
            same | ⟨_, _, marked, written, marks, changed, -⟩
          · rw [same]
            exact wellNamed
          · rw [changed]
            exact wellNamed_of_markEntry lawful wellNamed marks

/-! ## Waiting texts -/

variable {files written : HashMap String Document} {entryId text : String}

/-- A mark of another entry does not touch a waiting text. -/
theorem awaits_of_markEntry_ne
    {now : Nat} {other : String} {status : OutboxStatus} {error : Option String}
    {marked : OutboxEntry Endpoint} (wellNamed : outbox.WellNamed files)
    (awaits : outbox.Awaits files entryId text)
    (marks : outbox.markEntry now other status error files = .ok (marked, written))
    (different : other ≠ entryId) :
    outbox.Awaits written entryId text := by
  obtain ⟨entry, read, rfl, writes⟩ := markEntry_eq_ok marks
  have named := wellNamed other entry ((readEntry_eq_ok_iff _ _ _).mp read).2
  obtain ⟨waiting, waitingRead, rest⟩ := awaits
  refine ⟨waiting, ?_, rest⟩
  rw [readEntryPath_of_writeEntry_ne writes fun same => different (named.symm.trans same),
    waitingRead]

include lawful in
/-- A mark as pending or failed leaves a text waiting. -/
theorem awaits_of_markEntry
    {now : Nat} {status : OutboxStatus} {error : Option String}
    {marked : OutboxEntry Endpoint} (wellNamed : outbox.WellNamed files)
    (awaits : outbox.Awaits files entryId text)
    (marks : outbox.markEntry now entryId status error files = .ok (marked, written))
    (waits : status = .pending ∨ status = .failed) :
    outbox.Awaits written entryId text := by
  obtain ⟨entry, read, rfl, writes⟩ := markEntry_eq_ok marks
  obtain ⟨-, readPath⟩ := (readEntry_eq_ok_iff _ _ _).mp read
  have named := wellNamed entryId entry readPath
  obtain ⟨waiting, waitingRead, sameText, -⟩ := awaits
  rw [readPath, Except.ok.injEq] at waitingRead
  subst waitingRead
  have writtenRead := readEntryPath_of_writeEntry lawful writes
  have sameName : (markedEntry now status error entry).entryId = entryId := named
  rw [sameName] at writtenRead
  refine ⟨_, writtenRead, sameText, ?_⟩
  rcases waits with isPending | isFailed
  · rw [isPending]
    rfl
  · rw [isFailed]
    rfl

include lawful in
/-- A waiting text keeps waiting through a careful step that does not replace it, unless the
step settles it. -/
theorem awaits_perform
    (state : OutboxState Document) (step : OutboxStep) (wellNamed : outbox.WellNamed state.files)
    (awaits : outbox.Awaits state.files entryId text) (careful : outbox.Careful state step)
    (noOther : ¬ outbox.QueuesUnder entryId state step) :
    outbox.Awaits (outbox.perform state step).files entryId text ∨
      outbox.Settles entryId text state step := by
  cases step with
  | queue now peerEndpoint workspaceId replacing =>
      rw [perform]
      rcases withFiles_cases state
          (outbox.queue now peerEndpoint workspaceId replacing state.files) with
        same | ⟨stored, written, queues, changed⟩
      · rw [same]
        exact Or.inl awaits
      · rw [changed]
        have different : stored.entryId ≠ entryId := fun isSame =>
          noOther ⟨stored, by simp [storedByQueue, queues, Except.toOption], isSame⟩
        obtain ⟨_, -, -, writes⟩ := queue_eq_ok queues
        obtain ⟨waiting, waitingRead, rest⟩ := awaits
        refine Or.inl ⟨waiting, ?_, rest⟩
        rw [readEntryPath_of_writeEntry_ne writes different, waitingRead]
  | list maxEntries =>
      obtain ⟨waiting, waitingRead, rest⟩ := awaits
      exact Or.inl ⟨waiting, (readEntryPath_of_listEntries _ _ _ _).mpr waitingRead, rest⟩
  | listDue now maxEntries =>
      obtain ⟨waiting, waitingRead, sameText, isWaiting⟩ := awaits
      refine Or.inl ⟨waiting, ?_, sameText, isWaiting⟩
      rcases getElem?_of_listDueEntries outbox now (listSize maxEntries) state entryId
        with same | ⟨-, other, entry, read, isName, terminal⟩
      · rw [perform, readEntryPath_congr same]
        exact (readEntryPath_of_listEntries _ _ _ _).mpr waitingRead
      · -- A terminal entry of this name would be the waiting one.
        have isOther : entryId = other := isName.symm.trans (wellNamed other entry read)
        rw [← isOther, waitingRead, Except.ok.injEq] at read
        rw [read, terminal] at isWaiting
        cases isWaiting
  | mark now marked status error =>
      rw [perform]
      rcases withFiles_cases state (outbox.markEntryArgs now marked status error state.files) with
        same | ⟨entry, written, marks, changed⟩
      · rw [same]
        exact Or.inl awaits
      · rw [changed]
        obtain ⟨parsed, parses, marks⟩ := markEntryArgs_eq_ok marks
        by_cases isSame : marked = entryId
        · subst isSame
          cases parsed with
          | pending =>
              exact Or.inl (awaits_of_markEntry lawful wellNamed awaits marks (Or.inl rfl))
          | failed =>
              exact Or.inl (awaits_of_markEntry lawful wellNamed awaits marks (Or.inr rfl))
          | delivered => exact Or.inr ⟨rfl, Or.inl parses⟩
          | acknowledged => exact Or.inr ⟨rfl, Or.inr parses⟩
        · exact Or.inl (awaits_of_markEntry_ne wellNamed awaits marks isSame)
  | acknowledge acknowledged =>
      by_cases isSame : acknowledged = entryId
      · exact Or.inr isSame
      · rw [perform]
        cases acknowledges : outbox.acknowledgeEntry acknowledged state.files with
        | error raised => exact Or.inl awaits
        | ok files =>
            unfold acknowledgeEntry at acknowledges
            simp only [bind_eq_ok_iff, Except.ok.injEq] at acknowledges
            obtain ⟨_, -, rfl⟩ := acknowledges
            obtain ⟨waiting, waitingRead, rest⟩ := awaits
            refine Or.inl ⟨waiting, ?_, rest⟩
            rw [← waitingRead]
            refine readEntryPath_congr ?_
            rw [Std.ExtTreeMap.getElem?_erase, if_neg]
            exact fun equal => isSame (Std.LawfulEqCmp.compare_eq_iff_eq.mp equal)
  | beginSubmit ticket submitted =>
      rw [perform]
      cases outbox.beginSubmission submitted state.files with
      | error raised => exact Or.inl awaits
      | ok submission => exact Or.inl awaits
  | finishSubmit ticket now outcome =>
      rw [perform]
      cases inFlight : state.submissions[ticket]? with
      | none => exact Or.inl awaits
      | some submission =>
          dsimp only
          rcases finishSubmission_cases outbox now outcome submission
              { state with submissions := state.submissions.erase ticket } with
            same | ⟨status, error, marked, written, marks, changed, isStatus⟩
          · rw [same]
            exact Or.inl awaits
          · rw [changed]
            by_cases isSame : submission.entryId = entryId
            · rcases isStatus with isFailed | ⟨-, isDelivered⟩
              · subst isSame
                exact Or.inl
                  (awaits_of_markEntry lawful wellNamed awaits marks (Or.inr isFailed))
              · -- A careful success has sent the stored text.
                subst isDelivered
                right
                obtain ⟨entry, read, -, -⟩ := markEntry_eq_ok marks
                obtain ⟨waiting, waitingRead, sameText, isWaiting⟩ := awaits
                obtain ⟨-, readPath⟩ := (readEntry_eq_ok_iff _ _ _).mp read
                rw [isSame, waitingRead, Except.ok.injEq] at readPath
                subst readPath
                rcases careful submission inFlight waiting read with terminal | sent
                · rw [terminal] at isWaiting
                  cases isWaiting
                · rw [Settles, inFlight, ← isSame, ← sameText, sent]
            · exact Or.inl (awaits_of_markEntry_ne wellNamed awaits marks isSame)

end Steps

/-! ## Runs -/

/-- The outbox drops an entry: it counts as terminal, or the next listing deletes it. -/
def Drops (state : OutboxState Document) (entryId : String) : Prop :=
  (∃ entry, outbox.readEntryPath state.files entryId = .ok entry ∧ entry.isTerminal = true) ∨
    ∃ now maxEntries, entryId ∈ state.files ∧
      entryId ∉ (outbox.perform state (.listDue now maxEntries)).files

/-- In every run that stores a text by a queue call and does not replace it afterwards, the
entry is dropped at the end only if something after that call has settled the text. -/
def NeverDropsUndelivered (start : OutboxState Document) (steps : List OutboxStep) : Prop :=
  ∀ before queueCall after, steps = before ++ queueCall :: after →
    ∀ stored, outbox.storedByQueue (run outbox.perform start before) queueCall = some stored →
      let queued := outbox.perform (run outbox.perform start before) queueCall
      ¬ SomeStep outbox.perform (outbox.QueuesUnder stored.entryId) queued after →
        outbox.Drops (run outbox.perform queued after) stored.entryId →
          SomeStep outbox.perform (outbox.Settles stored.entryId stored.text) queued after

section Runs

variable {outbox}
  (lawful : ∀ entry, outbox.json.fromStr (outbox.json.toVecPretty entry) = .ok entry)

include lawful in
/-- A text that is queued with care waits. -/
theorem awaits_of_storedByQueue
    {state : OutboxState Document} {step : OutboxStep} {stored : OutboxEntry Endpoint}
    (careful : outbox.Careful state step)
    (isStored : outbox.storedByQueue state step = some stored) :
    outbox.Awaits (outbox.perform state step).files stored.entryId stored.text := by
  cases step with
  | queue now peerEndpoint workspaceId text =>
      cases queues : outbox.queue now peerEndpoint workspaceId text state.files with
      | error raised => simp [storedByQueue, queues, Except.toOption] at isStored
      | ok changed =>
          simp only [storedByQueue, queues, Except.toOption, Option.map_some,
            Option.some.injEq] at isStored
          subst isStored
          obtain ⟨queued, checked, isEntry, writes⟩ := queue_eq_ok queues
          have read := readEntryPath_of_writeEntry lawful writes
          refine ⟨changed.1, ?_, rfl, ?_⟩
          · rw [perform, queues]
            exact read
          · rw [isEntry]
            cases existing : outbox.readEntry state.files queued.requestId with
            | error raised => rfl
            | ok entry => exact careful queued checked entry existing
  | list | listDue | mark | acknowledge | beginSubmit | finishSubmit => cases isStored

/-- A waiting text is not dropped. -/
theorem not_drops_of_awaits
    {state : OutboxState Document} {entryId text : String}
    (wellNamed : outbox.WellNamed state.files)
    (awaits : outbox.Awaits state.files entryId text) :
    ¬ outbox.Drops state entryId := by
  obtain ⟨waiting, waitingRead, -, isWaiting⟩ := awaits
  intro drops
  rcases drops with ⟨entry, read, terminal⟩ | ⟨now, maxEntries, -, isDeleted⟩
  · rw [waitingRead, Except.ok.injEq] at read
    rw [read, terminal] at isWaiting
    cases isWaiting
  · rcases getElem?_of_listDueEntries outbox now (listSize maxEntries) state entryId with
      same | ⟨-, other, entry, read, isName, terminal⟩
    · have kept := (readEntryPath_of_listEntries maxUnixMs state entryId waiting).mpr waitingRead
      obtain ⟨document, stored, -⟩ := (readEntryPath_eq_ok_iff _ _ _).mp kept
      refine isDeleted ((mem_iff_exists_getElem? _ _).mpr ⟨document, ?_⟩)
      exact same.trans stored
    · have isOther : entryId = other := isName.symm.trans (wellNamed other entry read)
      rw [← isOther, waitingRead, Except.ok.injEq] at read
      rw [read, terminal] at isWaiting
      cases isWaiting

include lawful in
/-- A careful run never drops an undelivered text. -/
theorem neverDropsUndelivered_of_careful
    {start : OutboxState Document} {steps : List OutboxStep}
    (wellNamed : outbox.WellNamed start.files)
    (careful : EveryStep outbox.perform outbox.Careful start steps) :
    outbox.NeverDropsUndelivered start steps := by
  intro before queueCall after isRun stored isStored queued notReplaced drops
  rw [isRun] at careful
  obtain ⟨carefulQueue, carefulAfter⟩ := everyStep_append outbox.perform careful
  have wellNamedBefore : outbox.WellNamed (run outbox.perform start before).files :=
    run_keeps outbox.perform (wellNamed_perform lawful) wellNamed before
  have startsWaiting := awaits_of_storedByQueue lawful carefulQueue isStored
  have startsWellNamed := wellNamed_perform lawful _ queueCall wellNamedBefore
  have keepsWaiting :
      ∀ state step,
        outbox.WellNamed state.files ∧ outbox.Awaits state.files stored.entryId stored.text →
          outbox.Careful state step ∧ ¬ outbox.QueuesUnder stored.entryId state step →
            (outbox.WellNamed (outbox.perform state step).files ∧
                outbox.Awaits (outbox.perform state step).files stored.entryId stored.text) ∨
              outbox.Settles stored.entryId stored.text state step :=
    fun state step holds guarded =>
      (awaits_perform lawful state step holds.1 holds.2 guarded.1 guarded.2).imp_left
        fun awaits => ⟨wellNamed_perform lawful state step holds.1, awaits⟩
  have atEnd :=
    run_keeps_or_someStep outbox.perform keepsWaiting ⟨startsWellNamed, startsWaiting⟩
      (everyStep_of_not_someStep outbox.perform carefulAfter notReplaced)
  rcases atEnd with ⟨endsWellNamed, endsWaiting⟩ | settled
  · exact absurd drops (not_drops_of_awaits endsWellNamed endsWaiting)
  · exact settled

end Runs

end Outbox

section Outboxes

variable {RequestDocument ResponseDocument : Type}

/-- Careful runs of either outbox never drop an undelivered text. -/
theorem outboxes_neverDropUndelivered
    (reader : PayloadReader) (dataDir : List Char)
    (requestJson : OutboxJson (Option String) RequestDocument)
    (responseJson : OutboxJson String ResponseDocument)
    (requestsReadBack :
      ∀ entry, requestJson.fromStr (requestJson.toVecPretty entry) = .ok entry)
    (responsesReadBack :
      ∀ entry, responseJson.fromStr (responseJson.toVecPretty entry) = .ok entry) :
    let requests := joinRequestOutbox reader dataDir requestJson
    let responses := joinResponseOutbox reader dataDir responseJson
    (∀ (start : OutboxState RequestDocument) (steps : List OutboxStep),
      requests.WellNamed start.files →
        EveryStep requests.perform requests.Careful start steps →
          requests.NeverDropsUndelivered start steps) ∧
      ∀ (start : OutboxState ResponseDocument) (steps : List OutboxStep),
        responses.WellNamed start.files →
          EveryStep responses.perform responses.Careful start steps →
            responses.NeverDropsUndelivered start steps :=
  ⟨fun _ _ wellNamed careful =>
      Outbox.neverDropsUndelivered_of_careful requestsReadBack wellNamed careful,
    fun _ _ wellNamed careful =>
      Outbox.neverDropsUndelivered_of_careful responsesReadBack wellNamed careful⟩

end Outboxes

/-! ## A request that replaces a delivered one -/

def firstRequestText : String :=
  "\x7b\"kind\":\"chaft.workspace-join-request.v1\",\"schemaVersion\":1," ++
    "\"requestId\":\"req_1\",\"workspaceId\":\"wrk_1\",\"displayName\":\"Ann\"\x7d"

def secondRequestText : String :=
  "\x7b\"kind\":\"chaft.workspace-join-request.v1\",\"schemaVersion\":1," ++
    "\"requestId\":\"req_1\",\"workspaceId\":\"wrk_1\",\"displayName\":\"Anna\"\x7d"

def namedRequest (displayName : String) : JoinPayload where
  kind := some "chaft.workspace-join-request.v1"
  schemaVersion := some 1
  displayName := some displayName
  requestId := some "req_1"
  workspaceId := some "wrk_1"
  inviteId := none
  inviteeDeviceId := none
  role := none
  resolution := none
  claim := .error "missing field"
  response := .error "missing field"

def twoRequestReader : PayloadReader := fun text =>
  if text = firstRequestText then
    .ok (some (namedRequest "Ann"))
  else if text = secondRequestText then
    .ok (some (namedRequest "Anna"))
  else
    .error "expected value"

/-- Files that hold their entries as they are. -/
def entryFiles (Endpoint : Type) : OutboxJson Endpoint (OutboxEntry Endpoint) where
  toVecPretty := id
  fromStr := .ok
  byteLen entry := 512 + entry.text.utf8ByteSize

def twoRequestOutbox : Outbox (Option String) (OutboxEntry (Option String)) :=
  joinRequestOutbox twoRequestReader "data".toList (entryFiles (Option String))

def emptyOutbox (Document : Type) : OutboxState Document where
  files := ∅
  setAside := ∅
  submissions := ∅

def queueFirst : OutboxStep :=
  .queue 1 (some "direct+tcp://127.0.0.1:7777") none firstRequestText

def queueSecond : OutboxStep :=
  .queue 4 (some "direct+tcp://127.0.0.1:7777") none secondRequestText

theorem wellNamed_emptyOutbox {Endpoint Document : Type} (outbox : Outbox Endpoint Document) :
    outbox.WellNamed (emptyOutbox Document).files := by
  intro stem entry read
  rw [Outbox.readEntryPath_eq_ok_iff] at read
  obtain ⟨document, stored, -⟩ := read
  simp [emptyOutbox] at stored

def deliverFirst : List OutboxStep :=
  [queueFirst, .beginSubmit 0 "req_1", .finishSubmit 0 3 .delivered]

/-- The submission finds the text that it has sent. -/
theorem careful_deliverFirst :
    EveryStep twoRequestOutbox.perform twoRequestOutbox.Careful (emptyOutbox _) deliverFirst := by
  refine ⟨?_, trivial, ?_, trivial⟩
  · intro queued _ existing read
    obtain ⟨-, readPath⟩ := (Outbox.readEntry_eq_ok_iff _ _ _).mp read
    obtain ⟨document, stored, -⟩ := (Outbox.readEntryPath_eq_ok_iff _ _ _).mp readPath
    simp [emptyOutbox] at stored
  · intro submission inFlight entry read
    right
    obtain ⟨sent, waiting⟩ :
        (twoRequestOutbox.perform (twoRequestOutbox.perform (emptyOutbox _) queueFirst)
            (.beginSubmit 0 "req_1")).submissions[0]? = some ⟨"req_1", firstRequestText⟩ ∧
          (twoRequestOutbox.readEntry
              (twoRequestOutbox.perform (twoRequestOutbox.perform (emptyOutbox _) queueFirst)
                (.beginSubmit 0 "req_1")).files "req_1").map
            OutboxEntry.text = .ok firstRequestText := by
      decide +kernel
    obtain rfl : submission = ⟨"req_1", firstRequestText⟩ :=
      Option.some.inj (inFlight.symm.trans sent)
    rw [read] at waiting
    exact Except.ok.inj waiting

theorem outboxes_neverDropUndelivered_deliverFirst :
    twoRequestOutbox.NeverDropsUndelivered (emptyOutbox _) deliverFirst :=
  (outboxes_neverDropUndelivered twoRequestReader "data".toList
    (entryFiles (Option String)) (entryFiles String) (fun _ => rfl) (fun _ => rfl)).1 _ _
    (wellNamed_emptyOutbox _) careful_deliverFirst

/-- The second request is dropped without having been sent. -/
theorem not_outbox_neverDropsUndelivered :
    ¬ ∀ (reader : PayloadReader) (dataDir : List Char)
        (json : OutboxJson (Option String) (OutboxEntry (Option String))),
      (∀ entry, json.fromStr (json.toVecPretty entry) = .ok entry) →
        ∀ (start : OutboxState (OutboxEntry (Option String))) (steps : List OutboxStep),
          (joinRequestOutbox reader dataDir json).WellNamed start.files →
            (joinRequestOutbox reader dataDir json).NeverDropsUndelivered start steps := by
  intro neverDrops
  have dropsNone :
      twoRequestOutbox.NeverDropsUndelivered (emptyOutbox _) (deliverFirst ++ [queueSecond]) :=
    neverDrops _ _ _ (fun _ => rfl) _ _ (wellNamed_emptyOutbox _)
  obtain ⟨stores, isTerminal⟩ :
      (twoRequestOutbox.storedByQueue
          (run twoRequestOutbox.perform (emptyOutbox _) deliverFirst) queueSecond).map
        OutboxEntry.entryId = some "req_1" ∧
        (twoRequestOutbox.readEntryPath
            (run twoRequestOutbox.perform (emptyOutbox _)
              (deliverFirst ++ [queueSecond])).files "req_1").map
          OutboxEntry.isTerminal = .ok true := by
    decide +kernel
  obtain ⟨stored, isStored, isName⟩ := Option.map_eq_some_iff.mp stores
  have drops :
      twoRequestOutbox.Drops
        (run twoRequestOutbox.perform (emptyOutbox _) (deliverFirst ++ [queueSecond]))
        "req_1" := by
    cases read : twoRequestOutbox.readEntryPath
        (run twoRequestOutbox.perform (emptyOutbox _) (deliverFirst ++ [queueSecond])).files
        "req_1" with
    | error raised =>
        rw [read] at isTerminal
        cases isTerminal
    | ok entry =>
        rw [read] at isTerminal
        exact Or.inl ⟨entry, read, Except.ok.inj isTerminal⟩
  rw [run_append, run_cons, ← isName] at drops
  exact dropsNone deliverFirst queueSecond [] rfl stored isStored id drops

end Chaft
