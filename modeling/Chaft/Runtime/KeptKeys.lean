import Chaft.Runtime.KeyImports

/-!
# Keys that are kept

A write of a key file keeps the keys that the stored rings resolve when no other ring
lies at the same place and the new ring extends the stored one.  Rotations write such
rings as long as epochs are not used twice; an import writes whatever ring it is
given, so an older export takes the newer keys away.
-/

namespace Chaft

open Outcome SlashPath

section Keeping

variable (libraries : KeyLibraries) (runtime : LocalRuntime)

/-- The stored ring of a scope resolves a key ID to a key. -/
def LocalRuntime.Resolves
    (files : SecretFiles) (scope : KeyScope) (keyId : String) (key : ContentKey) : Prop :=
  ∃ ring, runtime.loadKey libraries files scope = .ok (some ring) ∧
    ring.resolveContentKey keyId = some key

/-- The bytes of the key file of a ring, without the newline. -/
def LocalRuntime.keyFileBytes
    (write : SecretWrite) (ring : KeyRing) : Except RuntimeError (List UInt8) := do
  let json ← okOr (libraries.keyToVecPretty ring.persisted) .serde
  runtime.secrets.localSecretBytes libraries.toSecretLibraries write.entropy
    (runtime.keyPath ring.scope) ring.scope.secretKind json

/-- The file of a ring can be read again. -/
def LocalRuntime.FitsFile (write : SecretWrite) (ring : KeyRing) : Prop :=
  ∀ bytes, runtime.keyFileBytes libraries write ring = .ok bytes →
    bytes.length + 1 ≤ localSecretFileMaxBytes

/-- Two scopes of one place, such as two spellings of one path, read the same rings. -/
def LocalRuntime.SameReader (other scope : KeyScope) : Prop :=
  other.isChannel = scope.isChannel ∧
    runtime.secrets.SameHint (runtime.keyPath other) (runtime.keyPath scope)

/-- No ring that is read in another way lies at the place of a scope. -/
def LocalRuntime.Alone (files : SecretFiles) (scope : KeyScope) : Prop :=
  ∀ other stored, runtime.loadKey libraries files other = .ok (some stored) →
    runtime.keyPlace other = runtime.keyPlace scope → runtime.SameReader other scope

/-- No stored ring lies at the place of a record of an invite. -/
def LocalRuntime.RecordsApart (files : SecretFiles) : Prop :=
  ∀ scope stored, runtime.loadKey libraries files scope = .ok (some stored) →
    ∀ record, runtime.recordPlace record ≠ runtime.keyPlace scope

/-- The rotation of a stored ring takes a fresh key ID. -/
structure LocalRuntime.Rotatable
    (files : SecretFiles) (draw : RotationDraw) (scope : KeyScope) (ring : KeyRing) : Prop where
  ownFile : ring.scope = scope
  notLast : ring.epoch + 1 ≠ 0
  newId : ring.resolveContentKey (ring.rotate draw.generated).keyId = none
  noOther :
    ∀ material ∈ ring.previousKeys, material.keyId = ring.keyId →
      material.contentKey = ring.contentKey
  alone : runtime.Alone libraries files scope
  fits : runtime.FitsFile libraries draw.write (ring.rotate draw.generated)

/-- A ring that is imported extends the stored one. -/
structure LocalRuntime.Importable
    (files : SecretFiles) (write : SecretWrite) (ring : KeyRing) : Prop where
  extendsStored :
    ∀ stored, runtime.loadKey libraries files ring.scope = .ok (some stored) →
      ring.Extends stored
  alone : runtime.Alone libraries files ring.scope
  fits : runtime.FitsFile libraries write ring

end Keeping

/-- The condition under which a call keeps all keys. -/
def KeyOperation.KeepsKeys
    (libraries : ImportLibraries) (runtime : LocalRuntime) (state : RuntimeState) :
    KeyOperation → Prop
  | rotateWorkspaceKey draw workspaceId =>
      ∀ ring,
        runtime.loadKey libraries.toKeyLibraries state.files (.workspace workspaceId) =
            .ok (some ring) →
          runtime.Rotatable libraries.toKeyLibraries state.files draw (.workspace workspaceId)
            ring
  | rotateChannelKey draw workspaceId channelId =>
      ∀ ring,
        runtime.loadKey libraries.toKeyLibraries state.files (.channel workspaceId channelId) =
            .ok (some ring) →
          runtime.Rotatable libraries.toKeyLibraries state.files draw
            (.channel workspaceId channelId) ring
  | importWorkspaceKey write exported =>
      ∀ ring, KeyRing.fromExport exported.val = .ok ring →
        runtime.Importable libraries.toKeyLibraries state.files write ring
  | importChannelKey write exported =>
      ∀ ring, KeyRing.fromExport exported.val = .ok ring →
        runtime.Importable libraries.toKeyLibraries state.files write ring
  | importWorkspaceRecoveryBundle writes bundle passphrase =>
      ∀ rings, openWorkspaceRecoveryBundle libraries bundle passphrase = .ok rings →
        ∀ index ring, rings[index]? = some ring →
          runtime.Importable libraries.toKeyLibraries state.files (writes index) ring
  | importWorkspaceInviteResponse writes _ response =>
      ∀ exported, runtime.openWorkspaceInviteResponse libraries state.files response =
          .ok exported →
        runtime.RecordsApart libraries.toKeyLibraries state.files ∧
          ∀ ring, KeyRing.fromExport exported.val = .ok ring →
            runtime.Importable libraries.toKeyLibraries state.files writes.key ring

/-- Every call of a sequence meets its condition in the state before it. -/
def EachKeepsKeys
    (libraries : ImportLibraries) (runtime : LocalRuntime) :
    RuntimeState → List KeyOperation → Prop
  | _, [] => True
  | state, operation :: rest =>
      operation.KeepsKeys libraries runtime state ∧
        EachKeepsKeys libraries runtime (operation.perform libraries runtime state) rest

/-! ## Loading and saving -/

section Writes

variable {libraries : KeyLibraries} {runtime : LocalRuntime}

/-- Loading looks at the place of the scope only. -/
theorem LocalRuntime.loadKey_congr
    (libraries : KeyLibraries) {files next : SecretFiles} {scope : KeyScope}
    (same : next (runtime.keyPlace scope) = files (runtime.keyPlace scope)) :
    runtime.loadKey libraries next scope = runtime.loadKey libraries files scope := by
  rw [LocalRuntime.keyPlace] at same
  simp only [LocalRuntime.loadKey, LocalSecretStore.readLocalSecretFile,
    readLocalMetadataFileWithLimit, same]

theorem LocalRuntime.saveKey_files
    (libraries : KeyLibraries) (runtime : LocalRuntime) (write : SecretWrite) (files : SecretFiles) (ring : KeyRing) :
    (runtime.saveKey libraries write files ring).2 = files ∨
      ∃ bytes, runtime.keyFileBytes libraries write ring = .ok bytes ∧
        (runtime.saveKey libraries write files ring).2 =
          Function.update files (runtime.keyPlace ring.scope) (some (bytes ++ [newline])) := by
  rw [LocalRuntime.saveKey, LocalRuntime.keyFileBytes]
  cases libraries.keyToVecPretty ring.persisted with
  | none => exact Or.inl rfl
  | some json =>
      dsimp only [okOr, bind, Except.bind]
      rw [LocalSecretStore.writeLocalSecretFile]
      cases made :
          runtime.secrets.localSecretBytes libraries.toSecretLibraries write.entropy
            (runtime.keyPath ring.scope) ring.scope.secretKind json with
      | error raised => exact Or.inl rfl
      | ok bytes =>
          dsimp only
          cases write.fault with
          | none => exact Or.inr ⟨bytes, rfl, rfl⟩
          | beforeRename => exact Or.inl rfl
          | afterRename => exact Or.inr ⟨bytes, rfl, rfl⟩

private theorem secretKind_of_isChannel
    {other scope : KeyScope} (same : other.isChannel = scope.isChannel) :
    other.secretKind = scope.secretKind := by
  cases other <;> cases scope <;> first | rfl | cases same

/-- A ring is loaded from the file that was written for it. -/
theorem LocalRuntime.loadKey_of_written
    (lawful : libraries.Lawful) {write : SecretWrite} {files : SecretFiles} {ring : KeyRing}
    {bytes : List UInt8} (started : ring.epoch ≠ 0)
    (made : runtime.keyFileBytes libraries write ring = .ok bytes)
    {scope : KeyScope} (sameReader : runtime.SameReader scope ring.scope)
    (stored : files (runtime.keyPlace scope) = some (bytes ++ [newline]))
    (small : bytes.length + 1 ≤ localSecretFileMaxBytes) :
    runtime.loadKey libraries files scope = .ok (some ring) := by
  simp only [LocalRuntime.keyFileBytes, bind_eq_ok_iff, okOr_eq_ok_iff] at made
  obtain ⟨json, isJson, made⟩ := made
  obtain ⟨readsPlain, readsWithNewline⟩ := lawful.keyReadsBack _ _ isJson
  have length : (bytes ++ [newline]).length ≤ localSecretFileMaxBytes := by
    rw [List.length_append]
    exact small
  have parsed :
      ∀ read, libraries.keyFromSlice ring.scope.isChannel read = some ⟨ring.persisted, rfl⟩ →
        KeyRing.fromBytes libraries ring.scope.isChannel read = .ok ring := by
    intro read isRecord
    simp only [KeyRing.fromBytes, isRecord, okOr, bind, Except.bind]
    exact ring.fromPersisted_persisted started
  have isPlain := lawful.keyIsPlain _ _ isJson
  rw [LocalRuntime.loadKey, sameReader.1, secretKind_of_isChannel sameReader.1]
  rcases LocalSecretStore.read_of_written lawful.toLawful made isPlain stored sameReader.2
      length with
    read | read
  · rw [read]
    dsimp only
    rw [parsed _ readsPlain]
    rfl
  · rw [read]
    dsimp only
    rw [parsed _ readsWithNewline]
    rfl

/-- A ring that one scope loads is loaded by another of the same place and reader. -/
theorem LocalRuntime.loadKey_of_sameReader
    {files : SecretFiles} {other scope : KeyScope} {stored : KeyRing}
    (sameReader : runtime.SameReader other scope)
    (samePlace : runtime.keyPlace other = runtime.keyPlace scope)
    (loaded : runtime.loadKey libraries files other = .ok (some stored)) :
    runtime.loadKey libraries files scope = .ok (some stored) := by
  rw [LocalRuntime.loadKey, sameReader.1, secretKind_of_isChannel sameReader.1] at loaded
  cases read :
      runtime.secrets.readLocalSecretFile libraries.toSecretLibraries files
        (runtime.keyPath other) scope.secretKind with
  | ok bytes =>
      rw [read] at loaded
      rw [LocalRuntime.loadKey, LocalSecretStore.read_of_samePlace samePlace sameReader.2 read]
      exact loaded
  | error raised =>
      rw [read] at loaded
      split at loaded
      · rename_i isOk
        cases isOk
      · cases loaded
      · cases loaded

/-! ## Facts about stored keys -/

/-- Some of the keys that are resolved somewhere. -/
abbrev KeyFacts := KeyScope → String → ContentKey → Prop

/-- The stored rings resolve the keys. -/
def LocalRuntime.Keep
    (libraries : KeyLibraries) (runtime : LocalRuntime) (facts : KeyFacts)
    (files : SecretFiles) : Prop :=
  ∀ scope keyId key, facts scope keyId key → runtime.Resolves libraries files scope keyId key

/-- A ring resolves the keys of its place, which are all read as its own are. -/
def LocalRuntime.Covers (runtime : LocalRuntime) (facts : KeyFacts) (ring : KeyRing) : Prop :=
  ∀ scope keyId key, facts scope keyId key →
    runtime.keyPlace scope = runtime.keyPlace ring.scope →
      runtime.SameReader scope ring.scope ∧ ring.resolveContentKey keyId = some key

/-- Files that agree where the rings lie keep the same keys. -/
theorem LocalRuntime.Keep.congr
    {facts : KeyFacts} {files next : SecretFiles}
    (keep : runtime.Keep libraries facts files)
    (same :
      ∀ scope keyId key, facts scope keyId key →
        next (runtime.keyPlace scope) = files (runtime.keyPlace scope)) :
    runtime.Keep libraries facts next := by
  intro scope keyId key fact
  obtain ⟨ring, loaded, resolved⟩ := keep scope keyId key fact
  have loadedNext := LocalRuntime.loadKey_congr libraries (same scope keyId key fact)
  exact ⟨ring, loadedNext.trans loaded, resolved⟩

/-- The write of a ring that covers the keys of its place. -/
theorem LocalRuntime.Keep.saveKey
    (lawful : libraries.Lawful) {facts : KeyFacts} {files : SecretFiles} {ring : KeyRing}
    {write : SecretWrite} (keep : runtime.Keep libraries facts files)
    (covers : runtime.Covers facts ring) (started : ring.epoch ≠ 0)
    (fits : runtime.FitsFile libraries write ring) :
    runtime.Keep libraries facts (runtime.saveKey libraries write files ring).2 := by
  rcases LocalRuntime.saveKey_files libraries runtime write files ring with unchanged | ⟨bytes, made, changed⟩
  · rw [unchanged]
    exact keep
  · rw [changed]
    intro scope keyId key fact
    by_cases atPlace : runtime.keyPlace scope = runtime.keyPlace ring.scope
    · obtain ⟨sameReader, resolved⟩ := covers scope keyId key fact atPlace
      have written :
          Function.update files (runtime.keyPlace ring.scope) (some (bytes ++ [newline]))
            (runtime.keyPlace scope) = some (bytes ++ [newline]) := by
        rw [atPlace]
        exact Function.update_self ..
      exact ⟨ring, LocalRuntime.loadKey_of_written lawful started made sameReader written
        (fits bytes made), resolved⟩
    · obtain ⟨stored, loaded, resolved⟩ := keep scope keyId key fact
      have elsewhere :
          Function.update files (runtime.keyPlace ring.scope) (some (bytes ++ [newline]))
            (runtime.keyPlace scope) = files (runtime.keyPlace scope) :=
        Function.update_of_ne atPlace ..
      exact ⟨stored, (LocalRuntime.loadKey_congr libraries elsewhere).trans loaded, resolved⟩

/-- A ring that may be written covers what the stored rings resolve. -/
theorem LocalRuntime.covers_of_extends
    {files : SecretFiles} {ring : KeyRing}
    (extendsStored :
      ∀ stored, runtime.loadKey libraries files ring.scope = .ok (some stored) →
        ring.Extends stored)
    (alone : runtime.Alone libraries files ring.scope) :
    runtime.Covers (runtime.Resolves libraries files) ring := by
  rintro scope keyId key ⟨stored, loaded, resolved⟩ atPlace
  have sameReader := alone scope stored loaded atPlace
  have ownLoaded := LocalRuntime.loadKey_of_sameReader sameReader atPlace loaded
  exact ⟨sameReader, extendsStored stored ownLoaded keyId key resolved⟩

theorem LocalRuntime.keep_resolves
    (libraries : KeyLibraries) (runtime : LocalRuntime) (files : SecretFiles) :
    runtime.Keep libraries (runtime.Resolves libraries files) files :=
  fun _ _ _ resolves => resolves

end Writes

/-! ## Calls -/

section Calls

variable {libraries : KeyLibraries} {runtime : LocalRuntime}

theorem LocalRuntime.rotateKey_keeps
    (lawful : libraries.Lawful) {draw : RotationDraw} {state : RuntimeState} {scope : KeyScope}
    (rotatable :
      ∀ ring, runtime.loadKey libraries state.files scope = .ok (some ring) →
        runtime.Rotatable libraries state.files draw scope ring) :
    runtime.Keep libraries (runtime.Resolves libraries state.files)
      (runtime.rotateKey libraries draw state scope).2.files := by
  have unchanged := LocalRuntime.keep_resolves libraries runtime state.files
  rw [LocalRuntime.rotateKey]
  split
  · exact unchanged
  · rename_i context isContext
    split
    · exact unchanged
    · exact unchanged
    · rename_i ring loaded
      obtain ⟨ownFile, notLast, newId, noOther, alone, fits⟩ := rotatable ring loaded
      have covers :
          runtime.Covers (runtime.Resolves libraries state.files)
            (ring.rotate draw.generated) := by
        refine LocalRuntime.covers_of_extends ?_ ?_
        · intro stored storedLoaded
          have sameRing : stored = ring := by
            rw [show (ring.rotate draw.generated).scope = scope from ownFile, loaded]
              at storedLoaded
            cases storedLoaded
            rfl
          rw [sameRing]
          exact ring.rotate_extends newId noOther
        · rw [show (ring.rotate draw.generated).scope = scope from ownFile]
          exact alone
      have saved := unchanged.saveKey lawful covers notLast fits
      have keeps :
          ∀ event history,
            runtime.Keep libraries (runtime.Resolves libraries state.files)
              (runtime.signAuthorizeSaveKeyAndAppendWithHistory libraries draw.write state event
                history (ring.rotate draw.generated)).2.files := by
        intro event history
        rw [LocalRuntime.signAuthorizeSaveKeyAndAppendWithHistory]
        split
        · exact unchanged
        · split
          · rename_i written
            rw [written] at saved
            exact saved
          · rename_i written
            rw [written] at saved
            split <;> exact saved
      have performedKeeps :=
        keeps
          ((ring.rotate draw.generated).epochPublished scope ring.keyId
            (runtime.identity.deviceId libraries.primitives) draw.timestamp
            context.headEventIds)
          context.events
      dsimp only
      split <;>
        · rename_i performed
          rw [performed] at performedKeeps
          exact performedKeeps

theorem LocalRuntime.Keep.importKey
    (lawful : libraries.Lawful) {facts : KeyFacts} {files : SecretFiles}
    (keep : runtime.Keep libraries facts files) (write : SecretWrite)
    (exported : ContentKeyExport)
    (importable :
      ∀ ring, KeyRing.fromExport exported = .ok ring →
        runtime.Covers facts ring ∧ runtime.FitsFile libraries write ring) :
    runtime.Keep libraries facts (runtime.importKey libraries write files exported).2 := by
  rw [LocalRuntime.importKey]
  split
  · exact keep
  · rename_i ring isRing
    obtain ⟨covers, fits⟩ := importable ring isRing
    have saved := keep.saveKey lawful covers (KeyRing.epoch_of_fromExport isRing) fits
    split <;>
      · rename_i written
        rw [written] at saved
        exact saved

end Calls

section Imports

variable {libraries : ImportLibraries} {runtime : LocalRuntime}

theorem LocalRuntime.Keep.saveKeys
    (lawful : libraries.toKeyLibraries.Lawful) {facts : KeyFacts} {files : SecretFiles}
    (keep : runtime.Keep libraries.toKeyLibraries facts files) (writes : Nat → SecretWrite)
    {rings : List KeyRing}
    (writable :
      ∀ index ring, rings[index]? = some ring →
        runtime.Covers facts ring ∧ ring.epoch ≠ 0 ∧
          runtime.FitsFile libraries.toKeyLibraries (writes index) ring) :
    runtime.Keep libraries.toKeyLibraries facts
      (runtime.saveKeys libraries writes files rings).2 := by
  induction rings generalizing writes files with
  | nil => exact keep
  | cons ring rest inductionHypothesis =>
      obtain ⟨covers, started, fits⟩ := writable 0 ring rfl
      have saved := keep.saveKey lawful covers started fits
      rw [LocalRuntime.saveKeys]
      split
      · rename_i written
        rw [written] at saved
        exact saved
      · rename_i written
        rw [written] at saved
        exact inductionHypothesis saved (fun index => writes (index + 1))
          fun index other isOther => writable (index + 1) other isOther

/-- Every ring of a bundle comes from an export. -/
theorem epoch_of_openWorkspaceRecoveryBundle
    {bundle : WorkspaceRecoveryBundle} {passphrase : String} {rings : List KeyRing}
    (opened : openWorkspaceRecoveryBundle libraries bundle passphrase = .ok rings) :
    ∀ ring ∈ rings, ring.epoch ≠ 0 := by
  simp only [openWorkspaceRecoveryBundle, bind_eq_ok_iff, Except.ok.injEq] at opened
  obtain ⟨_, -, _, -, _, -, _, -, _, -, _, -, _, -, workspaceKey, isWorkspaceKey, channelKeys,
    areChannelKeys, rfl⟩ := opened
  intro ring member
  rcases List.mem_cons.mp member with rfl | isChannelKey
  · exact KeyRing.epoch_of_fromExport isWorkspaceKey
  · obtain ⟨exported, -, isRing⟩ := exists_of_mem_mapM areChannelKeys ring isChannelKey
    exact KeyRing.epoch_of_fromExport isRing

/-- Marking a claim touches records only. -/
theorem LocalRuntime.mark_elsewhere
    (libraries : InviteLibraries) (runtime : LocalRuntime) (markerFault receiptFault : WriteFault)
    (files : SecretFiles) (workspaceId inviteId requestId : String) {place : Place}
    (apart : ∀ record, runtime.recordPlace record ≠ place) :
    (runtime.markWorkspaceInviteProfilePending libraries markerFault receiptFault files workspaceId
      inviteId requestId).2 place = files place := by
  have written :
      ∀ fault files record serialized maxBytes field,
        (runtime.writeRecord fault files record serialized maxBytes field).2 place =
          files place := by
    intro fault files record serialized maxBytes field
    have updated :
        ∀ value, Function.update files (runtime.recordPlace record) value place = files place :=
      fun value => Function.update_of_ne (apart record).symm ..
    cases serialized with
    | none => rfl
    | some bytes =>
        rw [LocalRuntime.writeRecord]
        split
        · rfl
        · cases fault with
          | none => exact updated _
          | beforeRename => rfl
          | afterRename => exact updated _
  have removed :
      ∀ record,
        (runtime.removeLocalMarkerFile markerFault files record).2 place = files place := by
    intro record
    cases markerFault with
    | none => exact Function.update_of_ne (apart record).symm ..
    | beforeRename => rfl
    | afterRename => rfl
  rw [LocalRuntime.markWorkspaceInviteProfilePending]
  split
  · rfl
  · split
    · rfl
    · dsimp only
      split
      · exact removed _
      · split
        · rename_i failed
          have marked := congrArg (fun result => result.2 place) failed
          dsimp only at marked
          rw [written] at marked
          exact marked.symm
        · rename_i succeeded
          have marked := congrArg (fun result => result.2 place) succeeded
          dsimp only at marked
          rw [written] at marked
          rw [written]
          exact marked.symm

theorem LocalRuntime.writeRecords_elsewhere
    (runtime : LocalRuntime) (files : SecretFiles)
    (records : List (InviteRecord × Option (List UInt8))) {place : Place}
    (apart : ∀ record, runtime.recordPlace record ≠ place) :
    runtime.writeRecords files records place = files place := by
  rw [LocalRuntime.writeRecords]
  induction records generalizing files with
  | nil => rfl
  | cons entry rest inductionHypothesis =>
      rw [List.foldl_cons, inductionHypothesis]
      exact Function.update_of_ne (apart entry.1).symm ..

theorem LocalRuntime.importWorkspaceInviteResponse_keeps
    (lawful : libraries.toKeyLibraries.Lawful) {writes : ResponseWrites}
    {finalization : ProfileFinalization} {state : RuntimeState}
    {response : WorkspaceInviteResponse}
    (importable :
      ∀ exported, runtime.openWorkspaceInviteResponse libraries state.files response =
          .ok exported →
        runtime.RecordsApart libraries.toKeyLibraries state.files ∧
          ∀ ring, KeyRing.fromExport exported.val = .ok ring →
            runtime.Importable libraries.toKeyLibraries state.files writes.key ring) :
    runtime.Keep libraries.toKeyLibraries
      (runtime.Resolves libraries.toKeyLibraries state.files)
      (runtime.importWorkspaceInviteResponse libraries writes finalization state
        response).2.files := by
  have unchanged := LocalRuntime.keep_resolves libraries.toKeyLibraries runtime state.files
  rw [LocalRuntime.importWorkspaceInviteResponse]
  dsimp only
  split
  · exact unchanged
  · rename_i exported opened
    obtain ⟨recordsApart, importable⟩ := importable exported opened
    have apart :
        ∀ scope keyId key,
          runtime.Resolves libraries.toKeyLibraries state.files scope keyId key →
            ∀ record, runtime.recordPlace record ≠ runtime.keyPlace scope := by
      rintro scope keyId key ⟨stored, loaded, -⟩
      exact recordsApart scope stored loaded
    have marked := fun markerFault receiptFault workspaceId inviteId requestId =>
      unchanged.congr fun scope keyId key fact =>
        LocalRuntime.mark_elsewhere libraries.toInviteLibraries runtime markerFault receiptFault
          state.files workspaceId inviteId requestId (apart scope keyId key fact)
    split
    · rename_i markFailed
      have kept := marked writes.marker writes.receipt response.payload.workspaceId
        response.payload.inviteId response.payload.requestId
      rw [markFailed] at kept
      exact kept
    · rename_i files isMarked
      have kept := marked writes.marker writes.receipt response.payload.workspaceId
        response.payload.inviteId response.payload.requestId
      rw [isMarked] at kept
      have imported :=
        kept.importKey lawful writes.key exported.val fun ring isRing =>
          ⟨LocalRuntime.covers_of_extends (importable ring isRing).extendsStored
            (importable ring isRing).alone, (importable ring isRing).fits⟩
      rw [LocalRuntime.importWorkspaceKey]
      split
      · rename_i importFailed
        rw [importFailed] at imported
        exact imported
      · rename_i isImported
        rw [isImported] at imported
        have finalized :=
          imported.congr fun scope keyId key fact =>
            LocalRuntime.writeRecords_elsewhere runtime _ finalization.records
              (apart scope keyId key fact)
        split <;> exact finalized

/-- A call that meets its condition keeps what the stored rings resolve. -/
theorem KeyOperation.perform_keeps
    (lawful : libraries.toKeyLibraries.Lawful) {state : RuntimeState} {operation : KeyOperation}
    (keepsKeys : operation.KeepsKeys libraries runtime state) :
    runtime.Keep libraries.toKeyLibraries
      (runtime.Resolves libraries.toKeyLibraries state.files)
      (operation.perform libraries runtime state).files := by
  have unchanged := LocalRuntime.keep_resolves libraries.toKeyLibraries runtime state.files
  have covered :
      ∀ {write ring}, runtime.Importable libraries.toKeyLibraries state.files write ring →
        runtime.Covers (runtime.Resolves libraries.toKeyLibraries state.files) ring ∧
          runtime.FitsFile libraries.toKeyLibraries write ring :=
    fun importable =>
      ⟨LocalRuntime.covers_of_extends importable.extendsStored importable.alone, importable.fits⟩
  cases operation with
  | rotateWorkspaceKey draw workspaceId => exact LocalRuntime.rotateKey_keeps lawful keepsKeys
  | rotateChannelKey draw workspaceId channelId =>
      exact LocalRuntime.rotateKey_keeps lawful keepsKeys
  | importWorkspaceKey write exported =>
      exact unchanged.importKey lawful write exported.val fun ring isRing =>
        covered (keepsKeys ring isRing)
  | importChannelKey write exported =>
      exact unchanged.importKey lawful write exported.val fun ring isRing =>
        covered (keepsKeys ring isRing)
  | importWorkspaceRecoveryBundle writes bundle passphrase =>
      rw [perform, LocalRuntime.importWorkspaceRecoveryBundle]
      dsimp only
      split
      · exact unchanged
      · rename_i rings opened
        have started := epoch_of_openWorkspaceRecoveryBundle opened
        have saved :=
          unchanged.saveKeys lawful writes fun index ring isRing =>
            ⟨(covered (keepsKeys rings opened index ring isRing)).1,
              started ring (List.mem_of_getElem? isRing),
              (covered (keepsKeys rings opened index ring isRing)).2⟩
        split <;>
          · rename_i written
            rw [written] at saved
            exact saved
  | importWorkspaceInviteResponse writes finalization response =>
      exact LocalRuntime.importWorkspaceInviteResponse_keeps lawful keepsKeys

end Imports

/-- A sequence of calls, succeeding or failing, keeps what the stored rings resolve when
each call meets its condition in the state before it. -/
theorem keyRings_keep_keys
    (libraries : ImportLibraries) (lawful : libraries.toKeyLibraries.Lawful)
    (runtime : LocalRuntime) (state : RuntimeState) (operations : List KeyOperation)
    (eachKeeps : EachKeepsKeys libraries runtime state operations) :
    ∀ scope keyId key,
      runtime.Resolves libraries.toKeyLibraries state.files scope keyId key →
        runtime.Resolves libraries.toKeyLibraries
          (operations.foldl (KeyOperation.perform libraries runtime) state).files scope keyId
          key := by
  induction operations generalizing state with
  | nil => exact fun _ _ _ resolves => resolves
  | cons operation rest inductionHypothesis =>
      intro scope keyId key resolves
      obtain ⟨keepsKeys, restKeeps⟩ := eachKeeps
      have kept := KeyOperation.perform_keeps lawful keepsKeys scope keyId key resolves
      exact inductionHypothesis _ restKeeps scope keyId key kept

/-! ## Exports of two ages

A device holds the ring of a workspace and imports an export of it, once a newer one
and once an older one. -/

def firstKey : ContentKey := ⟨List.replicate 32 1, by decide⟩

def secondKey : ContentKey := ⟨List.replicate 32 2, by decide⟩

def firstRing : KeyRing := KeyRing.generate (.workspace ⟨"w"⟩) firstKey

def secondRing : KeyRing := firstRing.rotate secondKey

/-- Indented JSON of an array. -/
def arrayJson (indent : String) (items : List (List String)) : List String :=
  if items.isEmpty then
    ["[]"]
  else
    ["[\n"] ++ ((items.map fun item => [indent, "  "] ++ item).intersperse [",\n"]).flatten ++
      ["\n", indent, "]"]

def keyBytesJson (indent : String) (bytes : List UInt8) : List String :=
  arrayJson indent (bytes.map fun byte => [byte.toNat.repr])

def rawKeyJson (raw : RawKeyMaterial) : List String :=
  ["\x7b\n      \"key_id\": \"", raw.keyId, "\",\n      \"aes_256_gcm_siv_key\": "] ++
    keyBytesJson "      " raw.aes256GcmSivKey ++ ["\n    \x7d"]

/-- Indented JSON of a workspace key. -/
def workspaceKeyJson (record : PersistedKey) : List UInt8 :=
  asciiBytes
    (["\x7b\n  \"schema_version\": ", record.schemaVersion.toNat.repr,
        ",\n  \"workspace_id\": \"", record.scope.workspaceId.text, "\",\n  \"epoch\": ",
        record.epoch.toNat.repr, ",\n  \"key_id\": \"", record.keyId,
        "\",\n  \"aes_256_gcm_siv_key\": "] ++
      keyBytesJson "  " record.aes256GcmSivKey ++ [",\n  \"previous_keys\": "] ++
      arrayJson "  " (record.previousKeys.map rawKeyJson) ++ ["\n\x7d"])

/-- The JSON library as it behaves on some records of workspace keys. -/
def readRing : List PersistedKey → List UInt8 →
    Option { record : PersistedKey // record.scope.isChannel = false }
  | [], _ => none
  | record :: rest, bytes =>
      if isWorkspace : record.scope.isChannel = false then
        if bytes = workspaceKeyJson record ∨ bytes = workspaceKeyJson record ++ [newline] then
          some ⟨record, isWorkspace⟩
        else
          readRing rest bytes
      else
        readRing rest bytes

def ringRecords : List PersistedKey := [firstRing.persisted, secondRing.persisted]

/-- The libraries as they behave on the two rings; nothing is sealed. -/
def ringLibraries : ImportLibraries where
  aead :=
    { encrypt := fun _ _ _ _ => none
      decrypt := fun _ _ _ _ => none }
  hashPasswordInto _ _ := none
  toVecPretty _ := none
  fromSlice _ := none
  primitives := homePrimitives
  eventJson := { toVec := fun _ => none, fromSlice := fun _ => none }
  keyToVecPretty record :=
    if record ∈ ringRecords then some (workspaceKeyJson record) else none
  keyFromSlice
    | true => fun _ => none
    | false => readRing ringRecords
  deriveKey _ _ := firstKey
  diffieHellman _ _ := []
  workspaceKeyExportFromSlice _ := none
  responsePayloadToVec _ := none
  claimReceiptToVec _ := none
  claimReceiptFromSlice _ := none
  finalizationToVec _ := none
  blake3 _ := []
  recoveryPlaintextFromSlice _ := none

theorem ringLibraries_lawful : ringLibraries.toKeyLibraries.Lawful where
  decrypts := fun _ _ _ _ _ encrypted => nomatch encrypted
  readsBack := fun _ _ written => nomatch written
  keyReadsBack := by
    intro record bytes written
    have readsBack :
        ∀ record ∈ ringRecords,
          ringLibraries.keyFromSlice record.scope.isChannel (workspaceKeyJson record) =
              some ⟨record, rfl⟩ ∧
            ringLibraries.keyFromSlice record.scope.isChannel
              (workspaceKeyJson record ++ [newline]) = some ⟨record, rfl⟩ := by
      decide +kernel
    dsimp only [ringLibraries] at written
    split at written
    · rename_i member
      cases written
      exact readsBack record member
    · cases written
  keyIsPlain := fun _ _ _ => rfl

def ringRuntime : LocalRuntime where
  dataDir := "/data".toList
  secrets :=
    { here := []
      workspaceKeysDir := "/data/keys".toList
      localSecretPathHint := fun path => String.ofList (path.drop "/data/".length)
      identityPassphrase := none }
  identity :=
    { verifyingKeyBytes := homeKey
      sign := fun _ => [] }
  signingKeyBytes := []

/-- A device whose only secret is the ring of the workspace. -/
def stateWithRing (ring : KeyRing) : RuntimeState where
  files place :=
    if place = ["data".toList, "keys".toList, "w.json".toList] then
      some (workspaceKeyJson ring.persisted ++ [newline])
    else
      none
  store := EventStore.empty

def plainWrite : SecretWrite where
  entropy :=
    { salt := List.replicate 16 0
      nonce := List.replicate 12 0
      saltLength := by decide
      nonceLength := by decide }
  fault := .none

/-- The import of an export of a ring. -/
def importRing (ring : KeyRing) (isWorkspace : ring.scope.isChannel = false) : KeyOperation :=
  .importWorkspaceKey plainWrite ⟨ring.exported ("dev_" ++ strangerDeviceHash), isWorkspace⟩

theorem stateWithRing_loads :
    ∀ ring ∈ [firstRing, secondRing],
      ringRuntime.loadKey ringLibraries.toKeyLibraries (stateWithRing ring).files
        (.workspace ⟨"w"⟩) = .ok (some ring) := by
  decide +kernel

/-- The newer export keeps the first key. -/
theorem keyRings_keep_keys_newer :
    ringRuntime.Resolves ringLibraries.toKeyLibraries
      ([importRing secondRing rfl].foldl (KeyOperation.perform ringLibraries ringRuntime)
        (stateWithRing firstRing)).files (.workspace ⟨"w"⟩) "w:content:v1" firstKey := by
  have loaded := stateWithRing_loads firstRing List.mem_cons_self
  refine keyRings_keep_keys ringLibraries ringLibraries_lawful ringRuntime
    (stateWithRing firstRing) [importRing secondRing rfl] ⟨?_, trivial⟩ (.workspace ⟨"w"⟩)
    "w:content:v1" firstKey ⟨firstRing, loaded, by decide +kernel⟩
  intro ring isRing
  have isSecond : ring = secondRing := by
    rw [KeyRing.fromExport_exported secondRing (by decide)] at isRing
    cases isRing
    rfl
  subst isSecond
  refine ⟨?_, ?_, ?_⟩
  · intro stored storedLoaded
    have isFirst : stored = firstRing := by
      have sameScope : secondRing.scope = .workspace ⟨"w"⟩ := rfl
      rw [sameScope, loaded] at storedLoaded
      cases storedLoaded
      rfl
    rw [isFirst]
    exact firstRing.rotate_extends (by decide +kernel) fun _ member => nomatch member
  · intro other stored storedLoaded _
    refine ⟨?_, Or.inl rfl⟩
    cases other with
    | workspace workspaceId => rfl
    | channel workspaceId channelId =>
        rw [LocalRuntime.loadKey] at storedLoaded
        split at storedLoaded <;> cases storedLoaded
  · intro bytes made
    have written :
        ringRuntime.keyFileBytes ringLibraries.toKeyLibraries plainWrite secondRing =
          .ok (workspaceKeyJson secondRing.persisted) := by
      decide +kernel
    rw [written] at made
    cases made
    decide +kernel

/-- The older export takes the second key away. -/
theorem not_keyRings_keep_keys :
    ¬ ∀ (libraries : ImportLibraries), libraries.toKeyLibraries.Lawful →
      ∀ (runtime : LocalRuntime) (state : RuntimeState) (operations : List KeyOperation)
        (scope : KeyScope) (keyId : String) (key : ContentKey),
        runtime.Resolves libraries.toKeyLibraries state.files scope keyId key →
          runtime.Resolves libraries.toKeyLibraries
            (operations.foldl (KeyOperation.perform libraries runtime) state).files scope keyId
            key := by
  intro kept
  have loaded := stateWithRing_loads secondRing (List.mem_cons_of_mem _ List.mem_cons_self)
  obtain ⟨ring, ringLoaded, resolved⟩ :=
    kept ringLibraries ringLibraries_lawful ringRuntime (stateWithRing secondRing)
      [importRing firstRing rfl] (.workspace ⟨"w"⟩) "w:content:v2" secondKey
      ⟨secondRing, loaded, by decide +kernel⟩
  have after :
      ringRuntime.loadKey ringLibraries.toKeyLibraries
        ([importRing firstRing rfl].foldl (KeyOperation.perform ringLibraries ringRuntime)
          (stateWithRing secondRing)).files (.workspace ⟨"w"⟩) = .ok (some firstRing) := by
    decide +kernel
  rw [after] at ringLoaded
  cases ringLoaded
  revert resolved
  decide +kernel

end Chaft
