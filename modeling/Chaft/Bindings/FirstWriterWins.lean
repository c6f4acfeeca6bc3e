import Chaft.Bindings.AcceptedHandoffs
import Chaft.Bindings.InboxListings

/-!
# The first writer of a join request wins

However the steps of writers and acknowledgements interleave, an entry stays until it is
removed, a writer of the same ID is told whether its request is the stored one, and the writers
of one process keep the inbox within its capacity.
-/

namespace Chaft

open Keyed Outcome

namespace WritePhase

variable {Document : Type}

/-- The entry that the call has prepared. -/
def prepared? : WritePhase Document → Option (PreparedEntry Document)
  | opening prepared => some prepared
  | counting prepared _ _ => some prepared
  | pruning prepared _ => some prepared
  | searching prepared _ => some prepared
  | inspectingListed prepared _ _ => some prepared
  | readingListed prepared _ _ => some prepared
  | removing prepared _ _ => some prepared
  | linking prepared => some prepared
  | _ => none

@[simp]
theorem prepared?_forget (stem : String) (phase : WritePhase Document) :
    (phase.forget stem).prepared? = phase.prepared? := by
  cases phase <;> rfl

end WritePhase

namespace InboxState

variable {ι Document : Type} [DecidableEq ι]
variable {inbox : FileJoinRequestInbox Document} {calls : ι → WriteCall}
variable {state : InboxState ι Document}

/-! ## Complete entries -/

/-- The files are entries, and so is what lies in the temporary files. -/
structure Sound (inbox : FileJoinRequestInbox Document) (state : InboxState ι Document) :
    Prop where
  wellFormed : inbox.WellFormed state.files
  encoded :
    ∀ call prepared, (state.phase call).prepared? = some prepared →
      inbox.encodeEntry prepared.entry = .ok prepared.document

/-- A new phase of one call prepares only what was prepared or is encoded. -/
private theorem encoded_of_update
    {phase : ι → WritePhase Document} {call : ι} {next : WritePhase Document}
    (encoded :
      ∀ call prepared, (phase call).prepared? = some prepared →
        inbox.encodeEntry prepared.entry = .ok prepared.document)
    (nextEncoded :
      ∀ prepared, next.prepared? = some prepared →
        (phase call).prepared? = some prepared ∨
          inbox.encodeEntry prepared.entry = .ok prepared.document) :
    ∀ other prepared, (Function.update phase call next other).prepared? = some prepared →
      inbox.encodeEntry prepared.entry = .ok prepared.document := by
  intro other prepared isPrepared
  by_cases same : other = call
  · subst same
    rw [Function.update_self] at isPrepared
    rcases nextEncoded prepared isPrepared with kept | isEncoded
    · exact encoded _ prepared kept
    · exact isEncoded
  · rw [Function.update_of_ne same] at isPrepared
    exact encoded other prepared isPrepared

theorem Sound.goTo
    (sound : state.Sound inbox) {call : ι} {next : WritePhase Document}
    (nextEncoded :
      ∀ prepared, next.prepared? = some prepared →
        (state.phase call).prepared? = some prepared ∨
          inbox.encodeEntry prepared.entry = .ok prepared.document) :
    (state.goTo call next).Sound inbox :=
  ⟨sound.wellFormed, encoded_of_update sound.encoded nextEncoded⟩

theorem Sound.finish
    (sound : state.Sound inbox) (call : ι) (result : Except FfiError JoinRequestInboxEntry) :
    (state.finish calls call result).Sound inbox :=
  ⟨sound.wellFormed, encoded_of_update sound.encoded fun _ isPrepared => by cases isPrepared⟩

omit [DecidableEq ι] in
theorem Sound.remove (sound : state.Sound inbox) (stem : String) :
    (state.remove stem).Sound inbox := by
  refine ⟨sound.wellFormed.erase stem, fun call prepared isPrepared => ?_⟩
  apply sound.encoded call prepared
  rw [← isPrepared]
  exact ((state.phase call).prepared?_forget stem).symm

theorem Sound.perform
    (roundTrips : inbox.json.RoundTrips) (sound : state.Sound inbox) (action : InboxAction ι) :
    (state.perform inbox calls action).Sound inbox := by
  have without :
      ∀ {call : ι} {next : WritePhase Document}, next.prepared? = none →
        (state.goTo call next).Sound inbox := by
    intro call next none
    apply sound.goTo
    intro prepared isPrepared
    rw [none] at isPrepared
    cases isPrepared
  have keeping :
      ∀ {call : ι} {next : WritePhase Document},
        next.prepared? = (state.phase call).prepared? → (state.goTo call next).Sound inbox := by
    intro call next kept
    apply sound.goTo
    intro prepared isPrepared
    rw [kept] at isPrepared
    exact Or.inl isPrepared
  cases action with
  | acknowledge entryId =>
      rw [InboxState.perform, acknowledge]
      split
      · exact sound
      · exact sound.remove entryId
  | advance call now listed =>
      rw [InboxState.perform, advance]
      cases phase : state.phase call with
      | called =>
          dsimp only
          split
          · exact without rfl
          · split
            · exact ⟨sound.wellFormed,
                encoded_of_update sound.encoded fun _ isPrepared => by cases isPrepared⟩
            · exact sound
      | looking checked =>
          dsimp only
          split
          · exact without rfl
          · split
            · exact sound.finish call _
            · rename_i document isEncoded
              apply sound.goTo
              intro prepared isPrepared
              cases isPrepared
              exact Or.inr isEncoded
      | inspecting checked =>
          dsimp only
          split
          · exact sound.finish call _
          · exact without rfl
      | matching checked => exact sound.finish call _
      | opening prepared => exact keeping (by rw [phase]; rfl)
      | counting prepared due count =>
          dsimp only
          split
          · split
            · exact keeping (by rw [phase]; rfl)
            · exact sound
          · split
            · split <;> exact keeping (by rw [phase]; rfl)
            · exact sound
      | pruning prepared more => exact keeping (by rw [phase]; rfl)
      | searching prepared search =>
          dsimp only
          split
          · split
            · exact keeping (by rw [phase]; rfl)
            · exact sound
          · split
            · split
              · exact sound.finish call _
              · exact keeping (by rw [phase]; rfl)
            · exact sound
      | inspectingListed prepared search stem =>
          dsimp only
          split <;> exact keeping (by rw [phase]; rfl)
      | readingListed prepared search stem =>
          dsimp only
          split <;> exact keeping (by rw [phase]; rfl)
      | removing prepared more victim =>
          have kept : ((state.remove victim).phase call).prepared? = some prepared := by
            change ((state.phase call).forget victim).prepared? = some prepared
            rw [phase]
            rfl
          dsimp only
          split <;>
            · apply (sound.remove victim).goTo
              intro other isPrepared
              rw [kept]
              exact Or.inl isPrepared
      | linking prepared =>
          dsimp only
          split
          · exact without rfl
          · have isEncoded := sound.encoded call prepared (by rw [phase]; rfl)
            exact ⟨sound.wellFormed.insert
                (FileJoinRequestInbox.reads_of_encodeEntry roundTrips isEncoded),
              (@Sound.finish _ _ _ _ calls _ sound call (.ok prepared.entry)).encoded⟩
      | done result => exact sound

/-! ## A writer of a stored ID -/

/-- What a writer is told about an entry that is there. -/
def answer
    (entry : JoinRequestInboxEntry) (checked : JoinMetadata) (requestText : String) :
    Except FfiError JoinRequestInboxEntry :=
  if entry.workspaceId = checked.workspaceId ∧ entry.requestText = requestText then
    .ok entry
  else
    .error
      (ffiError "join_request_inbox_entry_conflict"
        ("join request inbox entry " ++ checked.requestId ++
          " conflicts with an existing request"))

omit [DecidableEq ι] in
private theorem compareExisting_eq_answer
    {files : JoinRequestFiles Document} {entry : JoinRequestInboxEntry} {checked : JoinMetadata}
    (parsed : inbox.parseEntry files checked.requestId = .ok entry) (requestText : String) :
    inbox.compareExisting files checked requestText = answer entry checked requestText := by
  rw [FileJoinRequestInbox.compareExisting, parsed, answer]
  by_cases same : entry.workspaceId = checked.workspaceId ∧ entry.requestText = requestText
  · simp only [ensure, if_pos same, bind, Except.bind]
  · simp only [ensure, if_neg same, bind, Except.bind]

/-- The phases of a call that finds the entry, and what it returns. -/
def Answering
    (entry : JoinRequestInboxEntry) (checked : JoinMetadata) (requestText : String) :
    WritePhase Document → Prop
  | .called => True
  | .looking known => known = checked
  | .inspecting known => known = checked
  | .matching known => known = checked
  | .done result => result = answer entry checked requestText
  | _ => False

private theorem phase_of_answering
    {entry : JoinRequestInboxEntry} {checked : JoinMetadata} {requestText : String}
    {phase : WritePhase Document} (answering : Answering entry checked requestText phase) :
    phase = .called ∨ phase = .looking checked ∨ phase = .inspecting checked ∨
      phase = .matching checked ∨ phase = .done (answer entry checked requestText) := by
  cases phase with
  | called => exact Or.inl rfl
  | looking known => exact Or.inr (Or.inl (congrArg WritePhase.looking answering))
  | inspecting known => exact Or.inr (Or.inr (Or.inl (congrArg WritePhase.inspecting answering)))
  | matching known =>
      exact Or.inr (Or.inr (Or.inr (Or.inl (congrArg WritePhase.matching answering))))
  | done result => exact Or.inr (Or.inr (Or.inr (Or.inr (congrArg WritePhase.done answering))))
  | _ => exact answering.elim

private theorem answering_forget
    {entry : JoinRequestInboxEntry} {checked : JoinMetadata} {requestText : String}
    {phase : WritePhase Document} (answering : Answering entry checked requestText phase)
    (stem : String) : Answering entry checked requestText (phase.forget stem) := by
  cases phase <;> exact answering

/-- A call writes a request, whose ID has an entry that stays. -/
structure Meets
    (inbox : FileJoinRequestInbox Document) (calls : ι → WriteCall) (call : ι)
    (entry : JoinRequestInboxEntry) (checked : JoinMetadata) (state : InboxState ι Document) :
    Prop where
  stored :
    ∃ document, state.files[checked.requestId]? = some document ∧ inbox.Reads document entry
  answering : Answering entry checked (calls call).requestText (state.phase call)

omit [DecidableEq ι] in
private theorem validId_of_checkRequest
    {workspaceId : Option String} {requestText : String} {checked : JoinMetadata}
    (isChecked : inbox.checkRequest workspaceId requestText = .ok checked) :
    validateJoinRequestInboxEntryId checked.requestId = .ok () := by
  simp only [FileJoinRequestInbox.checkRequest, bind_eq_ok_iff, Except.ok.injEq] at isChecked
  obtain ⟨metadata, validated, _, -, rfl⟩ := isChecked
  simp only [validateJoinRequestPayload, bind_eq_ok_iff] at validated
  obtain ⟨_, -, _, -, _, -, _, -, requestId, -, _, valid, _, -, rest⟩ := validated
  split at rest
  · simp only [bind_eq_ok_iff, Except.ok.injEq] at rest
    obtain ⟨_, -, _, -, rfl⟩ := rest
    exact valid
  · simp only [bind_eq_ok_iff, Except.ok.injEq] at rest
    obtain ⟨_, -, _, -, _, -, _, -, rfl⟩ := rest
    exact valid

omit [DecidableEq ι] in
private theorem inspectById_of_stored
    {workspaceId : Option String} {requestText : String} {checked : JoinMetadata}
    (isChecked : inbox.checkRequest workspaceId requestText = .ok checked)
    {files : JoinRequestFiles Document} {document : Document} {entry : JoinRequestInboxEntry}
    (stored : files[checked.requestId]? = some document) (reads : inbox.Reads document entry) :
    inbox.inspectById files checked.requestId = .ok () := by
  rw [FileJoinRequestInbox.inspectById, validId_of_checkRequest isChecked]
  exact FileJoinRequestInbox.inspectEntry_eq_ok_iff.mpr ⟨document, stored, reads.small⟩

/-- The call itself takes a step. -/
private theorem answering_advance
    {call : ι} {entry : JoinRequestInboxEntry} {checked : JoinMetadata}
    (isChecked :
      inbox.checkRequest (calls call).workspaceId (calls call).requestText = .ok checked)
    (meets : state.Meets inbox calls call entry checked) (now : Nat) (listed : Option String) :
    Answering entry checked (calls call).requestText
      ((state.advance inbox calls call now listed).phase call) := by
  obtain ⟨⟨document, stored, reads⟩, answering⟩ := meets
  have inspected := inspectById_of_stored isChecked stored reads
  have parsed : inbox.parseEntry state.files checked.requestId = .ok entry :=
    FileJoinRequestInbox.parseEntry_eq_ok_iff.mpr ⟨document, stored, reads.parsed, reads.valid⟩
  rw [advance]
  rcases phase_of_answering answering with phase | phase | phase | phase | phase
  · simp only [phase, isChecked]
    split
    · simp only [Function.update_self]
      rfl
    · rw [phase]
      trivial
  · simp only [phase, stored, Option.isSome_some, if_true, goTo, Function.update_self]
    rfl
  · simp only [phase, inspected, goTo, Function.update_self]
    rfl
  · simp only [phase, finish, Function.update_self]
    exact compareExisting_eq_answer parsed _
  · simp only [phase]
    rfl

/-- A step of another call leaves the phase, but for files that need not be listed any more. -/
theorem advance_phase_other
    {call other : ι} (apart : other ≠ call) (now : Nat) (listed : Option String) :
    (state.advance inbox calls call now listed).phase other = state.phase other ∨
      ∃ stem, state.removes (.advance call now listed) = some stem ∧
        (state.advance inbox calls call now listed).phase other =
          (state.phase other).forget stem := by
  have updated :
      ∀ (phase : ι → WritePhase Document) next, Function.update phase call next other =
        phase other :=
    fun phase next => Function.update_of_ne apart next phase
  rw [advance, removes]
  cases phase : state.phase call with
  | called =>
      left
      dsimp only
      split
      · exact updated _ _
      · split
        · exact updated _ _
        · rfl
  | looking checked =>
      left
      dsimp only
      split
      · exact updated _ _
      · split <;> exact updated _ _
  | inspecting checked =>
      left
      dsimp only
      split <;> exact updated _ _
  | matching checked => exact Or.inl (updated _ _)
  | opening prepared => exact Or.inl (updated _ _)
  | counting prepared due count =>
      left
      dsimp only
      split
      · split
        · exact updated _ _
        · rfl
      · split
        · split <;> exact updated _ _
        · rfl
  | pruning prepared more => exact Or.inl (updated _ _)
  | searching prepared search =>
      left
      dsimp only
      split
      · split
        · exact updated _ _
        · rfl
      · split
        · split <;> exact updated _ _
        · rfl
  | inspectingListed prepared search stem =>
      left
      dsimp only
      split <;> exact updated _ _
  | readingListed prepared search stem =>
      left
      dsimp only
      split <;> exact updated _ _
  | removing prepared more victim =>
      refine Or.inr ⟨victim, rfl, ?_⟩
      dsimp only
      split <;> exact updated _ _
  | linking prepared =>
      left
      dsimp only
      split <;> exact updated _ _
  | done result => exact Or.inl rfl

theorem Meets.perform
    {call : ι} {entry : JoinRequestInboxEntry} {checked : JoinMetadata}
    (isChecked :
      inbox.checkRequest (calls call).workspaceId (calls call).requestText = .ok checked)
    (meets : state.Meets inbox calls call entry checked) {action : InboxAction ι}
    (present : ¬state.removes action = some checked.requestId) :
    (state.perform inbox calls action).Meets inbox calls call entry checked := by
  obtain ⟨document, stored, reads⟩ := meets.stored
  have kept : (state.perform inbox calls action).files[checked.requestId]? = some document :=
    (perform_keeps_document stored action).resolve_right present
  refine ⟨⟨document, kept, reads⟩, ?_⟩
  cases action with
  | acknowledge entryId =>
      rw [InboxState.perform, acknowledge]
      split
      · exact meets.answering
      · exact answering_forget meets.answering entryId
  | advance other now listed =>
      rw [InboxState.perform]
      by_cases same : call = other
      · subst same
        exact answering_advance isChecked meets now listed
      · rcases advance_phase_other same now listed with unchanged | ⟨stem, -, forgot⟩
        · rw [unchanged]
          exact meets.answering
        · rw [forgot]
          exact answering_forget meets.answering stem

/-- What a call returns whose request ID has an entry throughout. -/
theorem done_of_present
    {call : ι} {entry : JoinRequestInboxEntry} {checked : JoinMetadata}
    (isCalled : state.phase call = .called)
    (isChecked :
      inbox.checkRequest (calls call).workspaceId (calls call).requestText = .ok checked)
    (read : inbox.readJoinRequestInboxEntryPath state.files checked.requestId = .ok entry)
    {later : List (InboxAction ι)}
    (present : ¬Removed inbox calls checked.requestId state later)
    {result : Except FfiError JoinRequestInboxEntry}
    (isDone : (state.run inbox calls later).phase call = .done result) :
    result = answer entry checked (calls call).requestText := by
  have atStart : state.Meets inbox calls call entry checked := by
    refine ⟨FileJoinRequestInbox.readPath_eq_ok_iff.mp read, ?_⟩
    rw [isCalled]
    trivial
  have keeps :
      ∀ (state : InboxState ι Document) (action : InboxAction ι),
        state.Meets inbox calls call entry checked →
          ¬state.removes action = some checked.requestId →
            (state.perform inbox calls action).Meets inbox calls call entry checked :=
    fun state action meets present => meets.perform isChecked present
  have atEnd := Trace.run_keeps_of_not_someStep _ keeps atStart present
  have answering := atEnd.answering
  change Answering entry checked (calls call).requestText
    ((state.run inbox calls later).phase call) at answering
  rw [isDone] at answering
  exact answering

/-! ## The capacity -/

/-- How many files less there are than when the oldest entry was found. -/
def gone (files : JoinRequestFiles Document) (victim : String) : Nat :=
  if files[victim]?.isSome then 0 else 1

/-- How many files a call in a phase leaves room for. -/
def Room (files : JoinRequestFiles Document) : WritePhase Document → Prop
  | .counting _ due count =>
      due.Nodup ∧ (∀ stem ∈ due, files[stem]?.isSome = true) ∧ files.size ≤ due.length + count
  | .pruning _ more => files.size ≤ joinRequestInboxMaxEntries + more
  | .searching _ search
  | .inspectingListed _ search _
  | .readingListed _ search _ =>
      files.size ≤ joinRequestInboxMaxEntries + search.more ∧
        ∀ found ∈ search.oldest,
          files.size + gone files found.2 ≤ joinRequestInboxMaxEntries + search.more
  | .removing _ more victim =>
      files.size + gone files victim ≤ joinRequestInboxMaxEntries + more
  | .linking _ => files.size < joinRequestInboxMaxEntries
  | _ => True

/-- The inbox is within its capacity, one call holds the lock, and calls leave room. -/
structure Bounded (calls : ι → WriteCall) (state : InboxState ι Document) : Prop where
  small : state.files.size ≤ joinRequestInboxMaxEntries
  locks :
    ∀ call, (state.phase call).isLocked = true → state.lock (calls call).process = some call
  room : ∀ call, Room state.files (state.phase call)

omit [DecidableEq ι] in
private theorem size_erase_gone (files : JoinRequestFiles Document) (stem : String) :
    (files.erase stem).size + 1 = files.size + gone files stem := by
  have size := @Std.ExtTreeMap.size_erase _ _ _ files _ stem
  rw [Std.ExtTreeMap.contains_eq_isSome_getElem?] at size
  rw [size, gone]
  by_cases present : files[stem]?.isSome = true
  · have positive : 0 < files.size := by
      rw [Nat.pos_iff_ne_zero]
      intro empty
      rw [Std.ExtTreeMap.eq_empty_iff_size_eq_zero.mpr empty] at present
      simp at present
    rw [if_pos present, if_pos present]
    omega
  · rw [if_neg present, if_neg present]

private theorem isSome_erase (files : JoinRequestFiles Document) (removed stem : String) :
    (files.erase removed)[stem]?.isSome = true ↔ stem ≠ removed ∧ files[stem]?.isSome = true := by
  rw [Std.ExtTreeMap.getElem?_erase]
  simp only [Std.LawfulEqCmp.compare_eq_iff_eq]
  by_cases same : removed = stem
  · simp [same]
  · simp [same, Ne.symm same]

/-- Without one more file, what was gone is gone, and one file fewer is there if another is
gone now. -/
private theorem size_erase_add_gone
    (files : JoinRequestFiles Document) (removed victim : String) :
    (files.erase removed).size + gone (files.erase removed) victim ≤
      files.size + gone files victim := by
  have size := size_erase_gone files removed
  have iff := isSome_erase files removed victim
  by_cases same : victim = removed
  · subst same
    have absent : gone (files.erase victim) victim = 1 := by
      rw [gone, if_neg]
      intro present
      exact (iff.mp present).1 rfl
    rw [absent]
    omega
  · have unchanged : gone (files.erase removed) victim = gone files victim := by
      simp only [gone, iff, ne_eq, same, not_false_eq_true, true_and]
    have bound : gone files removed ≤ 1 := by
      rw [gone]
      split <;> omega
    omega

private theorem size_erase_le (files : JoinRequestFiles Document) (removed : String) :
    (files.erase removed).size ≤ files.size := by
  have size := size_erase_gone files removed
  have bound : gone files removed ≤ 1 := by
    rw [gone]
    split <;> omega
  omega

theorem room_erase
    {files : JoinRequestFiles Document} {phase : WritePhase Document} (room : Room files phase)
    (removed : String) : Room (files.erase removed) (phase.forget removed) := by
  have size := size_erase_le files removed
  have search :
      ∀ more (oldest : Option (JoinRequestInboxEntry × String)),
        (files.size ≤ joinRequestInboxMaxEntries + more ∧
          ∀ found ∈ oldest,
            files.size + gone files found.2 ≤ joinRequestInboxMaxEntries + more) →
        (files.erase removed).size ≤ joinRequestInboxMaxEntries + more ∧
          ∀ found ∈ oldest,
            (files.erase removed).size + gone (files.erase removed) found.2 ≤
              joinRequestInboxMaxEntries + more := by
    intro more oldest known
    refine ⟨le_trans size known.1, fun found member => ?_⟩
    exact le_trans (size_erase_add_gone files removed found.2) (known.2 found member)
  cases phase with
  | counting prepared due count =>
      obtain ⟨distinct, present, enough⟩ := room
      refine ⟨distinct.erase removed, ?_, ?_⟩
      · intro stem member
        rw [distinct.mem_erase_iff] at member
        exact (isSome_erase files removed stem).mpr ⟨member.1, present stem member.2⟩
      · have exact := size_erase_gone files removed
        by_cases isDue : removed ∈ due
        · have isThere : gone files removed = 0 := by
            rw [gone, if_pos (present removed isDue)]
          have positive := List.length_pos_of_mem isDue
          rw [List.length_erase_of_mem isDue]
          omega
        · rw [List.erase_of_not_mem isDue]
          omega
  | pruning prepared more => exact le_trans size room
  | searching prepared known => exact search known.more known.oldest room
  | inspectingListed prepared known stem => exact search known.more known.oldest room
  | readingListed prepared known stem => exact search known.more known.oldest room
  | removing prepared more victim =>
      exact le_trans (size_erase_add_gone files removed victim) room
  | linking prepared => exact lt_of_le_of_lt size room
  | called => trivial
  | looking checked => trivial
  | inspecting checked => trivial
  | matching checked => trivial
  | opening prepared => trivial
  | done result => trivial

theorem Bounded.goTo
    (bounded : state.Bounded calls) {call : ι} {next : WritePhase Document}
    (locked : (state.phase call).isLocked = true ∨ next.isLocked = false)
    (room : Room state.files next) : (state.goTo call next).Bounded calls := by
  refine ⟨bounded.small, fun other isLocked => ?_, fun other => ?_⟩
  · by_cases same : other = call
    · subst same
      change (Function.update state.phase other next other).isLocked = true at isLocked
      rw [Function.update_self] at isLocked
      rcases locked with before | unlocked
      · exact bounded.locks other before
      · rw [unlocked] at isLocked
        cases isLocked
    · change (Function.update state.phase call next other).isLocked = true at isLocked
      rw [Function.update_of_ne same] at isLocked
      exact bounded.locks other isLocked
  · change Room state.files (Function.update state.phase call next other)
    by_cases same : other = call
    · subst same
      rw [Function.update_self]
      exact room
    · rw [Function.update_of_ne same]
      exact bounded.room other

omit [DecidableEq ι] in
theorem Bounded.remove (bounded : state.Bounded calls) (stem : String) :
    (state.remove stem).Bounded calls := by
  refine ⟨le_trans (size_erase_le state.files stem) bounded.small, fun call isLocked => ?_,
    fun call => room_erase (bounded.room call) stem⟩
  apply bounded.locks call
  rw [← isLocked]
  change _ = ((state.phase call).forget stem).isLocked
  cases state.phase call <;> rfl

omit [DecidableEq ι] in
private theorem room_of_unlocked
    (files : JoinRequestFiles Document) {phase : WritePhase Document}
    (unlocked : phase.isLocked = false) : Room files phase := by
  cases phase <;> trivial

omit [DecidableEq ι] in
/-- In a process, the other calls wait or are done. -/
theorem Bounded.alone
    (bounded : state.Bounded calls)
    (single : ∀ call other, (calls call).process = (calls other).process) {call other : ι}
    (locked : state.lock (calls call).process = none ∨ (state.phase call).isLocked = true)
    (apart : other ≠ call) : (state.phase other).isLocked = false := by
  rw [← Bool.not_eq_true]
  intro isLocked
  have held := bounded.locks other isLocked
  rw [single other call] at held
  rcases locked with free | locked
  · rw [free] at held
    cases held
  · rw [bounded.locks call locked, Option.some.injEq] at held
    exact apart held.symm

/-- The holder of the lock leaves it, and may link its entry. -/
theorem Bounded.finish
    (bounded : state.Bounded calls)
    (single : ∀ call other, (calls call).process = (calls other).process) {call : ι}
    (locked : (state.phase call).isLocked = true)
    (result : Except FfiError JoinRequestInboxEntry) {files : JoinRequestFiles Document}
    (small : files.size ≤ joinRequestInboxMaxEntries) :
    Bounded calls { state.finish calls call result with files := files } := by
  have unlocked :
      ∀ other, (Function.update state.phase call (.done result) other).isLocked = false := by
    intro other
    by_cases same : other = call
    · subst same
      rw [Function.update_self]
      rfl
    · rw [Function.update_of_ne same]
      exact bounded.alone single (Or.inr locked) same
  refine ⟨small, fun other isLocked => ?_, fun other => room_of_unlocked files (unlocked other)⟩
  have free := unlocked other
  change (Function.update state.phase call (.done result) other).isLocked = true at isLocked
  rw [free] at isLocked
  cases isLocked

/-- A step of a call of a single process. -/
theorem Bounded.advance
    (bounded : state.Bounded calls)
    (single : ∀ call other, (calls call).process = (calls other).process) (call : ι) (now : Nat)
    (listed : Option String) : (state.advance inbox calls call now listed).Bounded calls := by
  have room := bounded.room call
  have lockedIn :
      ∀ {phase : WritePhase Document}, state.phase call = phase → phase.isLocked = true →
        (state.phase call).isLocked = true := by
    intro phase isPhase locked
    rw [isPhase]
    exact locked
  rw [InboxState.advance]
  cases phase : state.phase call with
  | called =>
      dsimp only
      split
      · exact bounded.goTo (Or.inr rfl) trivial
      · rename_i checked isChecked
        split
        · rename_i free
          refine ⟨bounded.small, fun other isLocked => ?_, fun other => ?_⟩
          · by_cases same : other = call
            · subst same
              simp only [Function.update_self]
            · change (Function.update state.phase call (.looking checked) other).isLocked = true
                at isLocked
              rw [Function.update_of_ne same, bounded.alone single (Or.inl free) same] at isLocked
              cases isLocked
          · change Room state.files (Function.update state.phase call (.looking checked) other)
            by_cases same : other = call
            · subst same
              rw [Function.update_self]
              trivial
            · rw [Function.update_of_ne same]
              exact bounded.room other
        · exact bounded
  | looking checked =>
      have locked := lockedIn phase rfl
      dsimp only
      split
      · exact bounded.goTo (Or.inl locked) trivial
      · split
        · exact bounded.finish single locked _ bounded.small
        · exact bounded.goTo (Or.inl locked) trivial
  | inspecting checked =>
      have locked := lockedIn phase rfl
      dsimp only
      split
      · exact bounded.finish single locked _ bounded.small
      · exact bounded.goTo (Or.inl locked) trivial
  | matching checked =>
      have locked := lockedIn phase rfl
      exact bounded.finish single locked _ bounded.small
  | opening prepared =>
      have locked := lockedIn phase rfl
      refine bounded.goTo (Or.inl locked) ⟨Std.ExtTreeMap.nodup_keys, ?_, ?_⟩
      · intro stem member
        exact Std.ExtTreeMap.mem_iff_isSome_getElem?.mp (Std.ExtTreeMap.mem_keys.mp member)
      · rw [Std.ExtTreeMap.length_keys, Nat.add_zero]
  | counting prepared due count =>
      have locked := lockedIn phase rfl
      rw [phase] at room
      obtain ⟨distinct, present, enough⟩ := room
      dsimp only
      split
      · rename_i stem
        split
        · refine bounded.goTo (Or.inl locked) ⟨distinct.erase stem, ?_, ?_⟩
          · intro other member
            exact present other (List.mem_of_mem_erase member)
          · have length : due.length - 1 ≤ (due.erase stem).length := List.le_length_erase
            omega
        · exact bounded
      · split
        · rename_i allListed
          rw [allListed, List.length_nil, Nat.zero_add] at enough
          split
          · rename_i noPrune
            refine bounded.goTo (Or.inl locked) ?_
            rw [FileJoinRequestInbox.pruneCount] at noPrune
            change state.files.size < joinRequestInboxMaxEntries
            split at noPrune <;> omega
          · rename_i more isMore
            refine bounded.goTo (Or.inl locked) ?_
            rw [FileJoinRequestInbox.pruneCount] at isMore
            change state.files.size ≤ joinRequestInboxMaxEntries + more
            split at isMore <;> omega
        · exact bounded
  | pruning prepared more =>
      have locked := lockedIn phase rfl
      rw [phase] at room
      exact bounded.goTo (Or.inl locked) ⟨room, fun _ found => by cases found⟩
  | searching prepared search =>
      have locked := lockedIn phase rfl
      rw [phase] at room
      dsimp only
      split
      · split
        · exact bounded.goTo (Or.inl locked) room
        · exact bounded
      · split
        · split
          · exact bounded.finish single locked _ bounded.small
          · rename_i victim found
            exact bounded.goTo (Or.inl locked) (room.2 _ found)
        · exact bounded
  | inspectingListed prepared search stem =>
      have locked := lockedIn phase rfl
      rw [phase] at room
      dsimp only
      split <;> exact bounded.goTo (Or.inl locked) room
  | readingListed prepared search stem =>
      have locked := lockedIn phase rfl
      rw [phase] at room
      dsimp only
      split
      · exact bounded.goTo (Or.inl locked) room
      · rename_i entry isEntry
        obtain ⟨document, stored, -, -⟩ :=
          FileJoinRequestInbox.parseEntry_eq_ok_iff.mp isEntry
        refine bounded.goTo (Or.inl locked) ?_
        rw [PruneSearch.consider]
        split
        · refine ⟨room.1, fun found isFound => ?_⟩
          cases isFound
          have isThere : gone state.files stem = 0 := by
            rw [gone, stored]
            rfl
          change state.files.size + gone state.files stem ≤ _
          rw [isThere]
          exact room.1
        · exact room
  | removing prepared more victim =>
      have locked : ((state.remove victim).phase call).isLocked = true := by
        change ((state.phase call).forget victim).isLocked = true
        rw [phase]
        rfl
      rw [phase] at room
      have size := size_erase_gone state.files victim
      change state.files.size + gone state.files victim ≤ joinRequestInboxMaxEntries + more at room
      dsimp only
      split
      · refine (bounded.remove victim).goTo (Or.inl locked) ?_
        change (state.files.erase victim).size < joinRequestInboxMaxEntries
        omega
      · rename_i more
        refine (bounded.remove victim).goTo (Or.inl locked) ?_
        change (state.files.erase victim).size ≤ joinRequestInboxMaxEntries + more
        omega
  | linking prepared =>
      have locked := lockedIn phase rfl
      rw [phase] at room
      dsimp only
      split
      · exact bounded.goTo (Or.inl locked) trivial
      · refine bounded.finish single locked _ ?_
        have size :=
          @Std.ExtTreeMap.size_insert_le _ _ _ state.files _ prepared.entry.entryId
            prepared.document
        change state.files.size < joinRequestInboxMaxEntries at room
        omega
  | done result => exact bounded

/-! ## A writer of a stored ID returns -/

/-- The steps of a call that has the lock and finds the entry. -/
def stepsLeft : WritePhase Document → Nat
  | .looking _ => 3
  | .inspecting _ => 2
  | .matching _ => 1
  | _ => 0

def isCalled : WritePhase Document → Bool
  | .called => true
  | _ => false

/-- An action is a step of the call. -/
def isStepOf (call : ι) : InboxAction ι → Bool
  | .acknowledge _ => false
  | .advance other _ _ => decide (other = call)

private theorem stepsLeft_perform
    {call : ι} {entry : JoinRequestInboxEntry} {checked : JoinMetadata}
    (isChecked :
      inbox.checkRequest (calls call).workspaceId (calls call).requestText = .ok checked)
    (meets : state.Meets inbox calls call entry checked)
    (started : isCalled (state.phase call) = false) (action : InboxAction ι) :
    isCalled ((state.perform inbox calls action).phase call) = false ∧
      stepsLeft ((state.perform inbox calls action).phase call) =
        stepsLeft (state.phase call) - if isStepOf call action then 1 else 0 := by
  have forgets :
      ∀ stem, isCalled ((state.phase call).forget stem) = false ∧
        stepsLeft ((state.phase call).forget stem) = stepsLeft (state.phase call) := by
    intro stem
    cases phase : state.phase call <;> exact ⟨by rw [phase] at started; exact started, rfl⟩
  cases action with
  | acknowledge entryId =>
      rw [InboxState.perform, acknowledge, isStepOf]
      split
      · exact ⟨started, rfl⟩
      · exact forgets entryId
  | advance other now listed =>
      rw [InboxState.perform, isStepOf]
      by_cases same : call = other
      · subst same
        obtain ⟨⟨document, stored, reads⟩, answering⟩ := meets
        have inspected := inspectById_of_stored isChecked stored reads
        rw [InboxState.advance]
        rcases phase_of_answering answering with phase | phase | phase | phase | phase
        · rw [phase] at started
          cases started
        · simp only [phase, stored, Option.isSome_some, if_true, goTo, Function.update_self,
            decide_true]
          exact ⟨rfl, rfl⟩
        · simp only [phase, inspected, goTo, Function.update_self, decide_true]
          exact ⟨rfl, rfl⟩
        · simp only [phase, finish, Function.update_self, decide_true]
          exact ⟨rfl, rfl⟩
        · simp only [phase, decide_true]
          exact ⟨rfl, rfl⟩
      · simp only [decide_eq_false (Ne.symm same), Bool.false_eq_true, if_false, Nat.sub_zero]
        rcases advance_phase_other same now listed with unchanged | ⟨stem, -, forgot⟩
        · rw [unchanged]
          exact ⟨started, rfl⟩
        · rw [forgot]
          exact forgets stem

/-- With the lock, a call whose request ID has an entry throughout is done after three steps. -/
theorem returns_of_present
    {call : ι} {entry : JoinRequestInboxEntry} {checked : JoinMetadata}
    (isChecked :
      inbox.checkRequest (calls call).workspaceId (calls call).requestText = .ok checked)
    {later : List (InboxAction ι)} (meets : state.Meets inbox calls call entry checked)
    (started : isCalled (state.phase call) = false)
    (present : ¬Removed inbox calls checked.requestId state later)
    (enough : stepsLeft (state.phase call) ≤ later.countP (isStepOf call)) :
    ∃ result, (state.run inbox calls later).phase call = .done result := by
  induction later generalizing state with
  | nil =>
      rcases phase_of_answering meets.answering with phase | phase | phase | phase | phase
      · rw [phase] at started
        cases started
      · rw [phase] at enough
        cases enough
      · rw [phase] at enough
        cases enough
      · rw [phase] at enough
        cases enough
      · exact ⟨_, phase⟩
  | cons action rest inductionHypothesis =>
      rw [Removed, Trace.SomeStep, not_or] at present
      obtain ⟨startedNext, left⟩ := stepsLeft_perform isChecked meets started action
      refine inductionHypothesis (meets.perform isChecked present.1) startedNext present.2 ?_
      rw [left]
      rw [List.countP_cons] at enough
      by_cases own : isStepOf call action = true
      · rw [if_pos own] at enough ⊢
        omega
      · rw [if_neg own] at enough ⊢
        omega

end InboxState

/-! ## The inbox -/

namespace InboxState

variable {ι Document : Type} [DecidableEq ι]

/-- The calls have not begun, and the inbox is well formed and within its capacity. -/
structure Starts (inbox : FileJoinRequestInbox Document) (initial : InboxState ι Document) :
    Prop where
  wellFormed : inbox.WellFormed initial.files
  small : initial.files.size ≤ joinRequestInboxMaxEntries
  unlocked : ∀ process, initial.lock process = none
  called : ∀ call, initial.phase call = .called

/-- What holds of an inbox from a state on. -/
structure FirstWriterWins
    (inbox : FileJoinRequestInbox Document) (calls : ι → WriteCall)
    (state : InboxState ι Document) : Prop where
  /-- A stored document stays until it is acknowledged or pruned. -/
  kept :
    ∀ entryId document later, state.files[entryId]? = some document →
      ¬Removed inbox calls entryId state later →
        (state.run inbox calls later).files[entryId]? = some document
  /-- A call whose request ID has an entry throughout returns it if the request is the same,
  and raises an error otherwise; there is one entry of the ID. -/
  answered :
    ∀ call checked entry later result, state.phase call = .called →
      inbox.checkRequest (calls call).workspaceId (calls call).requestText = .ok checked →
        inbox.readJoinRequestInboxEntryPath state.files checked.requestId = .ok entry →
          ¬Removed inbox calls checked.requestId state later →
            (state.run inbox calls later).phase call = .done result →
              ((∃ returned, result = .ok returned) ↔
                entry.workspaceId = checked.workspaceId ∧
                  entry.requestText = (calls call).requestText) ∧
                ∀ stem other,
                  inbox.readJoinRequestInboxEntryPath (state.run inbox calls later).files stem =
                      .ok other →
                    (other.entryId = checked.requestId ↔ stem = checked.requestId) ∧
                      (stem = checked.requestId → other = entry)
  /-- Such a call is done when it has the lock and takes three steps. -/
  returns :
    ∀ call checked entry later, state.phase call = .looking checked →
      inbox.checkRequest (calls call).workspaceId (calls call).requestText = .ok checked →
        inbox.readJoinRequestInboxEntryPath state.files checked.requestId = .ok entry →
          ¬Removed inbox calls checked.requestId state later →
            3 ≤ later.countP (isStepOf call) →
              ∃ result, (state.run inbox calls later).phase call = .done result
  /-- One process keeps the inbox within its capacity. -/
  bounded :
    (∀ call other, (calls call).process = (calls other).process) →
      state.files.size ≤ joinRequestInboxMaxEntries
  /-- A listing shows the newest entries of its workspace. -/
  listed :
    ∀ directory workspaceId maxEntries, directory.Perm state.files.keys →
      inbox.listJoinRequestInboxEntries state.files directory workspaceId maxEntries =
        .ok
          (((inbox.entriesOf state.files (workspaceId.map trimmed)).insertionSort
            JoinRequestInboxEntry.newestFirst).take maxEntries)

variable {inbox : FileJoinRequestInbox Document} {calls : ι → WriteCall}
variable {initial : InboxState ι Document}

theorem Sound.run
    (roundTrips : inbox.json.RoundTrips) {state : InboxState ι Document}
    (sound : state.Sound inbox) (actions : List (InboxAction ι)) :
    (state.run inbox calls actions).Sound inbox :=
  Trace.run_keeps _ (fun _ action known => known.perform roundTrips action) sound actions

omit [DecidableEq ι] in
theorem Starts.sound (starts : initial.Starts inbox) : initial.Sound inbox := by
  refine ⟨starts.wellFormed, fun call prepared isPrepared => ?_⟩
  rw [starts.called] at isPrepared
  cases isPrepared

omit [DecidableEq ι] in
theorem Starts.bounded (starts : initial.Starts inbox) : initial.Bounded calls := by
  refine ⟨starts.small, fun call isLocked => ?_, fun call => ?_⟩
  · rw [starts.called] at isLocked
    cases isLocked
  · rw [starts.called]
    trivial

theorem Bounded.run
    {state : InboxState ι Document} (bounded : state.Bounded calls)
    (single : ∀ call other, (calls call).process = (calls other).process)
    (actions : List (InboxAction ι)) : (state.run inbox calls actions).Bounded calls := by
  refine Trace.run_keeps _ (fun state action known => ?_) bounded actions
  cases action with
  | acknowledge entryId =>
      rw [perform, acknowledge]
      split
      · exact known
      · exact known.remove entryId
  | advance call now listed => exact known.advance single call now listed

end InboxState

/-- However writers, acknowledgements and prunings interleave, the first writer of a request
wins; the writers of one process keep the capacity, and listings show the newest entries. -/
theorem joinRequestInbox_firstWriterWins
    {ι Document : Type} [DecidableEq ι] (inbox : FileJoinRequestInbox Document)
    (roundTrips : inbox.json.RoundTrips) (calls : ι → WriteCall)
    (initial : InboxState ι Document) (starts : initial.Starts inbox)
    (actions : List (InboxAction ι)) :
    (initial.run inbox calls actions).FirstWriterWins inbox calls := by
  have sound := @InboxState.Sound.run _ _ _ _ calls roundTrips _ starts.sound actions
  refine ⟨?_, ?_, ?_, ?_, ?_⟩
  · exact fun entryId document later stored present => InboxState.run_keeps_document stored present
  · intro call checked entry later result isCalled isChecked read present isDone
    have isAnswer := InboxState.done_of_present isCalled isChecked read present isDone
    constructor
    · rw [isAnswer, InboxState.answer]
      split
      · rename_i same
        simp only [same, and_self, iff_true]
        exact ⟨_, rfl⟩
      · rename_i differ
        simp only [differ, reduceCtorEq, exists_false]
    · obtain ⟨document, stored, reads⟩ := FileJoinRequestInbox.readPath_eq_ok_iff.mp read
      have kept := InboxState.run_keeps_document stored present
      have later := @InboxState.Sound.run _ _ _ _ calls roundTrips _ sound later
      intro stem other readOther
      obtain ⟨otherDocument, otherStored, otherReads⟩ :=
        FileJoinRequestInbox.readPath_eq_ok_iff.mp readOther
      obtain ⟨named, namedReads, isStem⟩ := later.wellFormed stem otherDocument otherStored
      rw [otherReads.unique namedReads]
      refine ⟨by rw [isStem], fun isId => ?_⟩
      rw [isId, kept, Option.some.injEq] at otherStored
      rw [← otherStored] at namedReads
      exact namedReads.unique reads
  · intro call checked entry later isLooking isChecked read present enough
    refine InboxState.returns_of_present isChecked
      ⟨FileJoinRequestInbox.readPath_eq_ok_iff.mp read, ?_⟩ ?_ present ?_
    · rw [isLooking]
      rfl
    · rw [isLooking]
      rfl
    · rw [isLooking]
      exact enough
  · exact fun single => (starts.bounded.run single actions).small
  · exact fun directory workspaceId maxEntries lists =>
      FileJoinRequestInbox.list_eq sound.wellFormed lists workspaceId maxEntries

/-! ## One request -/

/-- A process writes the same request twice. -/
def deviceCalls (_ : Bool) : WriteCall where
  process := 1
  workspaceId := some "wrk_1"
  requestText := deviceRequestText

def emptyInbox : InboxState Bool JoinRequestInboxEntry where
  files := ∅
  lock _ := none
  phase _ := .called

/-- The steps of the first call, and the first step of the second. -/
def deviceActions : List (InboxAction Bool) :=
  List.replicate 5 (.advance false 7 none) ++ [.advance true 8 none]

theorem joinRequestInbox_firstWriterWins_device :
    (emptyInbox.run deviceInbox deviceCalls deviceActions).FirstWriterWins deviceInbox
      deviceCalls := by
  refine joinRequestInbox_firstWriterWins deviceInbox (fun _ => rfl) deviceCalls emptyInbox
    ⟨?_, by decide, fun _ => rfl, fun _ => rfl⟩ deviceActions
  intro stem document stored
  simp [emptyInbox] at stored

end Chaft
