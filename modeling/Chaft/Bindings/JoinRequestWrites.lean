import Chaft.Bindings.JoinRequestInbox
import Chaft.Library.BoundedBuffer
import Chaft.Library.Trace

/-!
# Writers of the join request inbox

Calls of several processes write to one inbox, while its user acknowledges entries.  Each call
takes its file steps one at a time, and those of other calls come between them; only the calls
of one process exclude each other, by a lock.  An entry is complete when it appears under its
name, and a name that is taken is not taken again.
-/

namespace Chaft

open Keyed Outcome

/-- One call of `write_join_request_inbox_entry`. -/
structure WriteCall where
  process : Nat
  workspaceId : Option String
  requestText : String

/-- An entry, and the document that lies in its temporary file. -/
structure PreparedEntry (Document : Type) where
  entry : JoinRequestInboxEntry
  document : Document

/-- A search for the oldest entry: how many more searches follow, and what it has found. -/
structure PruneSearch where
  more : Nat
  /-- The files that have been there since the search opened the directory, and have not been
  listed. -/
  due : List String
  oldest : Option (JoinRequestInboxEntry × String)

/-- What a call does next.  In all phases but the first and the last it holds the lock of its
process. -/
inductive WritePhase (Document : Type) where
  | called
  | looking (checked : JoinMetadata)
  | inspecting (checked : JoinMetadata)
  | matching (checked : JoinMetadata)
  | opening (prepared : PreparedEntry Document)
  | counting (prepared : PreparedEntry Document) (due : List String) (count : Nat)
  | pruning (prepared : PreparedEntry Document) (more : Nat)
  | searching (prepared : PreparedEntry Document) (search : PruneSearch)
  | inspectingListed (prepared : PreparedEntry Document) (search : PruneSearch) (stem : String)
  | readingListed (prepared : PreparedEntry Document) (search : PruneSearch) (stem : String)
  | removing (prepared : PreparedEntry Document) (more : Nat) (victim : String)
  | linking (prepared : PreparedEntry Document)
  | done (result : Except FfiError JoinRequestInboxEntry)

namespace PruneSearch

/-- A removed file need not be listed. -/
def forget (stem : String) (search : PruneSearch) : PruneSearch :=
  { search with due := search.due.erase stem }

/-- The older of two entries is kept. -/
def consider (entry : JoinRequestInboxEntry) (stem : String) (search : PruneSearch) :
    PruneSearch :=
  if search.oldest.all fun known => entry.isOlder known.1 then
    { search with oldest := some (entry, stem) }
  else
    search

end PruneSearch

namespace WritePhase

variable {Document : Type}

def isLocked : WritePhase Document → Bool
  | called => false
  | done _ => false
  | _ => true

def forget (stem : String) : WritePhase Document → WritePhase Document
  | counting prepared due count => counting prepared (due.erase stem) count
  | searching prepared search => searching prepared (search.forget stem)
  | inspectingListed prepared search listed =>
      inspectingListed prepared (search.forget stem) listed
  | readingListed prepared search listed => readingListed prepared (search.forget stem) listed
  | phase => phase

end WritePhase

/-- The inbox, the locks of the processes and the phases of the calls. -/
structure InboxState (ι Document : Type) where
  files : JoinRequestFiles Document
  lock : Nat → Option ι
  phase : ι → WritePhase Document

/-- What happens next: an acknowledgement, or a step of a call, with the time it would read and
the file it would find in a directory. -/
inductive InboxAction (ι : Type) where
  | acknowledge (entryId : String)
  | advance (call : ι) (now : Nat) (listed : Option String)

namespace FileJoinRequestInbox

variable {Document : Type} (inbox : FileJoinRequestInbox Document)

/-! ## The two file steps of a read -/

def inspectEntry (files : JoinRequestFiles Document) (stem : String) : Except FfiError Unit := do
  let document ← okOr files[stem]?
    (ffiError "join_request_inbox_read_failed" "could not inspect join request inbox entry")
  ensure (inbox.json.byteLen document ≤ joinRequestInboxEntryMaxBytes)
    (ffiError "join_request_inbox_entry_too_large"
      ("join request inbox entry " ++ String.ofList (inbox.inboxEntryPath stem) ++
        " is too large"))

def parseEntry
    (files : JoinRequestFiles Document) (stem : String) :
    Except FfiError JoinRequestInboxEntry := do
  let document ← okOr files[stem]?
    (ffiError "join_request_inbox_read_failed" "could not read join request inbox entry")
  let entry ← (inbox.json.fromStr document).mapError fun error =>
    ffiError "join_request_inbox_read_failed"
      ("could not parse join request inbox entry: " ++ error)
  inbox.validateJoinRequestInboxEntry entry
  .ok entry

/-- A read that nothing interrupts. -/
theorem readJoinRequestInboxEntryPath_eq (files : JoinRequestFiles Document) (stem : String) :
    inbox.readJoinRequestInboxEntryPath files stem = (do
      inbox.inspectEntry files stem
      inbox.parseEntry files stem) := by
  rw [readJoinRequestInboxEntryPath, inspectEntry, parseEntry]
  cases files[stem]? with
  | none => rfl
  | some document =>
      simp only [okOr, bind, Except.bind]

/-- The first file step of `read_join_request_inbox_entry`. -/
def inspectById (files : JoinRequestFiles Document) (entryId : String) : Except FfiError Unit := do
  validateJoinRequestInboxEntryId entryId
  inbox.inspectEntry files entryId

/-- The entry under the name of a request is returned if it is the same. -/
def compareExisting
    (files : JoinRequestFiles Document) (checked : JoinMetadata) (requestText : String) :
    Except FfiError JoinRequestInboxEntry := do
  let existing ← inbox.parseEntry files checked.requestId
  ensure (existing.workspaceId = checked.workspaceId ∧ existing.requestText = requestText)
    (ffiError "join_request_inbox_entry_conflict"
      ("join request inbox entry " ++ checked.requestId ++
        " conflicts with an existing request"))
  .ok existing

end FileJoinRequestInbox

namespace InboxState

variable {ι Document : Type} [DecidableEq ι]

section Steps

variable (inbox : FileJoinRequestInbox Document) (calls : ι → WriteCall)
variable (state : InboxState ι Document)

def goTo (call : ι) (phase : WritePhase Document) : InboxState ι Document :=
  { state with phase := Function.update state.phase call phase }

/-- The call returns and releases its lock. -/
def finish (call : ι) (result : Except FfiError JoinRequestInboxEntry) : InboxState ι Document :=
  { state with
    phase := Function.update state.phase call (.done result)
    lock := Function.update state.lock (calls call).process none }

/-- `remove_file`; that there is no such file is no error. -/
def remove (stem : String) : InboxState ι Document :=
  { state with
    files := state.files.erase stem
    phase := fun call => (state.phase call).forget stem }

/-- A directory lists each file that is there from beginning to end, and may list one that
comes later. -/
def Lists (due : List String) (stem : String) : Prop :=
  stem ∈ due ∨ state.files[stem]?.isSome = true

instance (due : List String) (stem : String) : Decidable (state.Lists due stem) :=
  inferInstanceAs (Decidable (_ ∨ _))

/-- The next step of a call.  A step that is not possible leaves the state as it is: the lock is
taken, the listed file is not there, or the directory has more files to list. -/
def advance (call : ι) (now : Nat) (listed : Option String) : InboxState ι Document :=
  let requestText := (calls call).requestText
  match state.phase call with
  | .called =>
      match inbox.checkRequest (calls call).workspaceId requestText with
      | .error raised => state.goTo call (.done (.error raised))
      | .ok checked =>
          if state.lock (calls call).process = none then
            { state with
              phase := Function.update state.phase call (.looking checked)
              lock := Function.update state.lock (calls call).process (some call) }
          else
            state
  | .looking checked =>
      if state.files[checked.requestId]?.isSome then
        state.goTo call (.inspecting checked)
      else
        let entry := FileJoinRequestInbox.newEntry now checked requestText
        match inbox.encodeEntry entry with
        | .error raised => state.finish calls call (.error raised)
        | .ok document => state.goTo call (.opening ⟨entry, document⟩)
  | .inspecting checked =>
      match inbox.inspectById state.files checked.requestId with
      | .error raised => state.finish calls call (.error raised)
      | .ok _ => state.goTo call (.matching checked)
  | .matching checked =>
      state.finish calls call (inbox.compareExisting state.files checked requestText)
  | .opening prepared => state.goTo call (.counting prepared state.files.keys 0)
  | .counting prepared due count =>
      match listed with
      | some stem =>
          if state.Lists due stem then
            state.goTo call (.counting prepared (due.erase stem) (count + 1))
          else
            state
      | none =>
          if due = [] then
            match FileJoinRequestInbox.pruneCount count with
            | 0 => state.goTo call (.linking prepared)
            | more + 1 => state.goTo call (.pruning prepared more)
          else
            state
  | .pruning prepared more =>
      state.goTo call (.searching prepared ⟨more, state.files.keys, none⟩)
  | .searching prepared search =>
      match listed with
      | some stem =>
          if state.Lists search.due stem then
            state.goTo call (.inspectingListed prepared (search.forget stem) stem)
          else
            state
      | none =>
          if search.due = [] then
            match search.oldest with
            | none => state.finish calls call (.error FileJoinRequestInbox.pruneFull)
            | some (_, victim) => state.goTo call (.removing prepared search.more victim)
          else
            state
  | .inspectingListed prepared search stem =>
      match inbox.inspectEntry state.files stem with
      | .error _ => state.goTo call (.searching prepared search)
      | .ok _ => state.goTo call (.readingListed prepared search stem)
  | .readingListed prepared search stem =>
      match inbox.parseEntry state.files stem with
      | .error _ => state.goTo call (.searching prepared search)
      | .ok entry => state.goTo call (.searching prepared (search.consider entry stem))
  | .removing prepared more victim =>
      match more with
      | 0 => (state.remove victim).goTo call (.linking prepared)
      | more + 1 => (state.remove victim).goTo call (.pruning prepared more)
  | .linking prepared =>
      if state.files[prepared.entry.entryId]?.isSome then
        state.goTo call (.inspecting ⟨prepared.entry.entryId, prepared.entry.workspaceId⟩)
      else
        { state.finish calls call (.ok prepared.entry) with
          files := state.files.insert prepared.entry.entryId prepared.document }
  | .done _ => state

/-- `runtime_ack_join_request_inbox_entry_result`. -/
def acknowledge (entryId : String) : InboxState ι Document :=
  match validateJoinRequestInboxEntryId entryId with
  | .error _ => state
  | .ok _ => state.remove entryId

def perform : InboxAction ι → InboxState ι Document
  | .acknowledge entryId => state.acknowledge entryId
  | .advance call now listed => state.advance inbox calls call now listed

end Steps

/-! ## What a step does to the files -/

section Files

variable {inbox : FileJoinRequestInbox Document} {calls : ι → WriteCall}
variable {state : InboxState ι Document}

@[simp]
theorem goTo_files (call : ι) (phase : WritePhase Document) :
    (state.goTo call phase).files = state.files := rfl

@[simp]
theorem finish_files (call : ι) (result : Except FfiError JoinRequestInboxEntry) :
    (state.finish calls call result).files = state.files := rfl

/-- The file that an action removes: by an acknowledgement, or to make room. -/
def removes (state : InboxState ι Document) : InboxAction ι → Option String
  | .acknowledge entryId =>
      match validateJoinRequestInboxEntryId entryId with
      | .error _ => none
      | .ok _ => some entryId
  | .advance call _ _ =>
      match state.phase call with
      | .removing _ _ victim => some victim
      | _ => none

/-- A step keeps the files, removes one, or links one under a free name. -/
theorem perform_files (action : InboxAction ι) :
    (state.perform inbox calls action).files = state.files ∨
      (∃ stem, state.removes action = some stem ∧
        (state.perform inbox calls action).files = state.files.erase stem) ∨
        ∃ call prepared, state.phase call = .linking prepared ∧
          state.files[prepared.entry.entryId]? = none ∧
            (state.perform inbox calls action).files =
              state.files.insert prepared.entry.entryId prepared.document := by
  cases action with
  | acknowledge entryId =>
      rw [perform, acknowledge, removes]
      cases validateJoinRequestInboxEntryId entryId with
      | error raised => exact Or.inl rfl
      | ok _ => exact Or.inr (Or.inl ⟨entryId, rfl, rfl⟩)
  | advance call now listed =>
      rw [perform, advance, removes]
      cases phase : state.phase call with
      | called =>
          left
          dsimp only
          split
          · rfl
          · split <;> rfl
      | looking checked =>
          left
          dsimp only
          split
          · rfl
          · split <;> rfl
      | inspecting checked =>
          left
          dsimp only
          split <;> rfl
      | matching checked => exact Or.inl rfl
      | opening prepared => exact Or.inl rfl
      | counting prepared due count =>
          left
          dsimp only
          split
          · split <;> rfl
          · split
            · split <;> rfl
            · rfl
      | pruning prepared more => exact Or.inl rfl
      | searching prepared search =>
          left
          dsimp only
          split
          · split <;> rfl
          · split
            · split <;> rfl
            · rfl
      | inspectingListed prepared search stem =>
          left
          dsimp only
          split <;> rfl
      | readingListed prepared search stem =>
          left
          dsimp only
          split <;> rfl
      | removing prepared more victim =>
          refine Or.inr (Or.inl ⟨victim, rfl, ?_⟩)
          dsimp only
          split <;> rfl
      | linking prepared =>
          dsimp only
          split
          · exact Or.inl rfl
          · rename_i free
            rw [Bool.not_eq_true, Option.isSome_eq_false_iff, Option.isNone_iff_eq_none] at free
            exact Or.inr (Or.inr ⟨call, prepared, phase, free, rfl⟩)
      | done result => exact Or.inl rfl

/-- A stored document stays as it is until it is removed. -/
theorem perform_keeps_document
    {entryId : String} {document : Document} (stored : state.files[entryId]? = some document)
    (action : InboxAction ι) :
    (state.perform inbox calls action).files[entryId]? = some document ∨
      state.removes action = some entryId := by
  rcases perform_files action with kept | ⟨stem, isRemoved, changed⟩ |
      ⟨call, prepared, -, free, changed⟩
  · rw [kept]
    exact Or.inl stored
  · by_cases same : stem = entryId
    · rw [same] at isRemoved
      exact Or.inr isRemoved
    · left
      rw [changed, Std.ExtTreeMap.getElem?_erase]
      simp only [Std.LawfulEqCmp.compare_eq_iff_eq, same, if_false]
      exact stored
  · left
    have apart : prepared.entry.entryId ≠ entryId := by
      intro same
      rw [same, stored] at free
      cases free
    rw [changed, Std.ExtTreeMap.getElem?_insert]
    simp only [Std.LawfulEqCmp.compare_eq_iff_eq, apart, if_false]
    exact stored

/-- A run removes an entry when one of its steps does. -/
def Removed
    (inbox : FileJoinRequestInbox Document) (calls : ι → WriteCall) (entryId : String) :
    InboxState ι Document → List (InboxAction ι) → Prop :=
  Trace.SomeStep (fun state action => state.perform inbox calls action)
    fun state action => state.removes action = some entryId

def run
    (inbox : FileJoinRequestInbox Document) (calls : ι → WriteCall)
    (state : InboxState ι Document) (actions : List (InboxAction ι)) : InboxState ι Document :=
  Trace.run (fun state action => state.perform inbox calls action) state actions

theorem run_keeps_document
    {entryId : String} {document : Document} (stored : state.files[entryId]? = some document)
    {actions : List (InboxAction ι)} (present : ¬Removed inbox calls entryId state actions) :
    (state.run inbox calls actions).files[entryId]? = some document := by
  have keeps :
      ∀ (state : InboxState ι Document) (action : InboxAction ι),
        state.files[entryId]? = some document → ¬state.removes action = some entryId →
          (state.perform inbox calls action).files[entryId]? = some document :=
    fun state action holds notRemoved =>
      (perform_keeps_document holds action).resolve_right notRemoved
  exact Trace.run_keeps_of_not_someStep _ keeps stored present

end Files

end InboxState

end Chaft
