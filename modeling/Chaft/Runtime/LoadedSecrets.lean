import Chaft.Runtime.RotatedRings
import Chaft.Runtime.SavedSecrets

/-!
# Secrets that are loaded after they were saved

Reading a secret file limits its size, writing does not, and the file is larger than the
secret: a ring lists the bytes of its keys as indented numbers, and a passphrase adds a
sealed form that lists the ciphertext in the same way.  A rotation also takes the last epoch
to zero, which no reader accepts.
-/

namespace Chaft

open Outcome

/-- The rings that a device comes to hold. -/
inductive KeyRing.Reachable : KeyRing → Prop where
  | generate (scope : KeyScope) (generated : ContentKey) :
      Reachable (KeyRing.generate scope generated)
  | rotate {ring : KeyRing} (generated : ContentKey) (earlier : Reachable ring) :
      Reachable (ring.rotate generated)
  | fromExport {exported : ContentKeyExport} {ring : KeyRing}
      (accepted : KeyRing.fromExport exported = .ok ring) : Reachable ring

/-- What the runtime has to save: a ring that it holds, or bytes that pass the size checks
of OpenMLS. -/
def SavedSecret.Held : SavedSecret → Prop
  | .keyRing ring => ring.Reachable
  | .openmlsKeyPackage _ _ privateBundle =>
      privateBundle.length ≤ openmlsPrivateKeyPackageBundleMaxBytes
  | .openmlsWorkspaceGroup _ privateGroupState =>
      privateGroupState.length ≤ openmlsPrivateGroupStateMaxBytes
  | .openmlsChannelGroup _ _ privateGroupState =>
      privateGroupState.length ≤ openmlsPrivateGroupStateMaxBytes

/-! ## White space at the end -/

def isAsciiWhitespace (byte : UInt8) : Bool :=
  byte == 9 || byte == 10 || byte == 12 || byte == 13 || byte == 32

/-- `trim_ascii_end`. -/
def trimAsciiEnd (bytes : List UInt8) : List UInt8 :=
  (bytes.reverse.dropWhile isAsciiWhitespace).reverse

theorem trimAsciiEnd_newline (bytes : List UInt8) :
    trimAsciiEnd (bytes ++ [newline]) = trimAsciiEnd bytes := by
  have isBlank : isAsciiWhitespace newline = true := by decide
  rw [trimAsciiEnd, List.reverse_append, List.reverse_singleton, List.singleton_append,
    List.dropWhile_cons_of_pos isBlank, ← trimAsciiEnd]

/-! ## Loading -/

section Loading

variable (libraries : KeyLibraries) (runtime : LocalRuntime)

/-- `read_openmls_secret_file`. -/
def LocalRuntime.readOpenmlsSecretFile
    (files : SecretFiles) (secret : SavedSecret) : Except RuntimeError (List UInt8) :=
  runtime.secrets.readLocalSecretFile libraries.toSecretLibraries files
    (runtime.secretPath secret) secret.kind

/-- The bytes are read again, up to white space at their end. -/
def LocalRuntime.ReadsAgain
    (files : SecretFiles) (secret : SavedSecret) (saved : List UInt8) : Prop :=
  ∃ read, runtime.readOpenmlsSecretFile libraries files secret = .ok read ∧
    trimAsciiEnd read = trimAsciiEnd saved

/-- Loading a secret gives it back. -/
def LocalRuntime.LoadsAgain (files : SecretFiles) : SavedSecret → Prop
  | .keyRing ring =>
      ∃ read, runtime.loadKey libraries files ring.scope = .ok (some read) ∧ ring.SameKeys read
  | .openmlsKeyPackage workspaceId keyPackageRef privateBundle =>
      runtime.ReadsAgain libraries files
        (.openmlsKeyPackage workspaceId keyPackageRef privateBundle) privateBundle
  | .openmlsWorkspaceGroup workspaceId privateGroupState =>
      runtime.ReadsAgain libraries files
        (.openmlsWorkspaceGroup workspaceId privateGroupState) privateGroupState
  | .openmlsChannelGroup workspaceId channelId privateGroupState =>
      runtime.ReadsAgain libraries files
        (.openmlsChannelGroup workspaceId channelId privateGroupState) privateGroupState

/-- The bytes would be taken for a sealed secret. -/
def LooksSealed (bytes : List UInt8) : Prop :=
  ∃ encrypted, libraries.fromSlice bytes = some encrypted ∧ encrypted.storage = localSecretStorage

/-- A ring of a real epoch, and bytes that are sealed or do not look so. -/
def LocalRuntime.FormReadable : SavedSecret → Prop
  | .keyRing ring => ring.epoch ≠ 0
  | .openmlsKeyPackage _ _ saved
  | .openmlsWorkspaceGroup _ saved
  | .openmlsChannelGroup _ _ saved =>
      runtime.secrets.identityPassphrase = none → ¬LooksSealed libraries (saved ++ [newline])

/-- The file of the secret is within the limit of its reader, and of a form that is read. -/
structure LocalRuntime.Readable (write : SecretWrite) (secret : SavedSecret) : Prop where
  fits :
    ∀ bytes, runtime.secretFileBytes libraries write secret = .ok bytes →
      bytes.length + 1 ≤ localSecretFileMaxBytes
  form : runtime.FormReadable libraries secret

variable {libraries runtime}

/-- Without a fault, a secret whose bytes are made is saved. -/
theorem LocalRuntime.saveSecret_of_made
    {write : SecretWrite} (noFault : write.fault = .none) (files : SecretFiles)
    {secret : SavedSecret} {bytes : List UInt8}
    (made : runtime.secretFileBytes libraries write secret = .ok bytes) :
    ∃ after, runtime.saveSecret libraries write files secret = (.ok (), after) := by
  rw [runtime.saveSecret_eq libraries noFault, made]
  exact ⟨_, rfl⟩

/-- A successful save has no fault and leaves the bytes in their file. -/
theorem LocalRuntime.written_of_saveSecret
    {write : SecretWrite} {files after : SecretFiles} {secret : SavedSecret}
    (saved : runtime.saveSecret libraries write files secret = (.ok (), after)) :
    ∃ bytes, runtime.secretFileBytes libraries write secret = .ok bytes ∧
      after (SlashPath.resolve runtime.secrets.here (runtime.secretPath secret)) =
        some (bytes ++ [newline]) := by
  rw [LocalRuntime.saveSecret] at saved
  rw [LocalRuntime.secretFileBytes]
  cases made : secret.plaintext libraries with
  | error raised =>
      rw [made] at saved
      cases saved
  | ok plaintext =>
      rw [made] at saved
      simp only [LocalSecretStore.writeLocalSecretFile] at saved
      simp only [bind, Except.bind]
      cases sealedBytes :
          runtime.secrets.localSecretBytes libraries.toSecretLibraries write.entropy
            (runtime.secretPath secret) secret.kind plaintext with
      | error raised =>
          rw [sealedBytes] at saved
          cases saved
      | ok bytes =>
          rw [sealedBytes] at saved
          refine ⟨bytes, rfl, ?_⟩
          cases fault : write.fault with
          | none =>
              simp only [writeSecretFile, fault, Prod.mk.injEq, true_and] at saved
              rw [← saved, Function.update_self]
          | beforeRename =>
              simp [writeSecretFile, fault] at saved
          | afterRename =>
              simp [writeSecretFile, fault] at saved

/-- A file over the limit is not read. -/
theorem LocalSecretStore.small_of_read
    {secrets : LocalSecretStore} {files : SecretFiles} {path : List Char} {secretKind : String}
    {stored read : List UInt8}
    (isStored : files (SlashPath.resolve secrets.here path) = some stored)
    (isRead :
      secrets.readLocalSecretFile libraries.toSecretLibraries files path secretKind = .ok read) :
    stored.length ≤ localSecretFileMaxBytes := by
  by_cases small : stored.length ≤ localSecretFileMaxBytes
  · exact small
  · simp only [readLocalSecretFile, readLocalMetadataFileWithLimit, isStored, ensure, small,
      if_false, bind, Except.bind, reduceCtorEq] at isRead

/-- Bytes that look sealed are not read without a passphrase. -/
theorem LocalSecretStore.plain_of_read
    {secrets : LocalSecretStore} {files : SecretFiles} {path : List Char} {secretKind : String}
    {stored read : List UInt8}
    (isStored : files (SlashPath.resolve secrets.here path) = some stored)
    (without : secrets.identityPassphrase = none)
    (isRead :
      secrets.readLocalSecretFile libraries.toSecretLibraries files path secretKind = .ok read) :
    ¬LooksSealed libraries stored := by
  rintro ⟨encrypted, parsed, isSealed⟩
  have small := small_of_read isStored isRead
  have raises :
      ∀ plaintext, openLocalSecret libraries.toSecretLibraries encrypted secretKind
        (secrets.localSecretPathHint path) none ≠ .ok plaintext := by
    intro plaintext isPlaintext
    simp only [openLocalSecret, bind_eq_ok_iff, okOr_eq_ok_iff, reduceCtorEq, false_and,
      exists_false, and_false] at isPlaintext
  simp only [readLocalSecretFile, readLocalMetadataFileWithLimit, isStored, ensure, small,
    if_true, okOr, bind, Except.bind, openSerializedLocalSecret, parsed, isSealed, without,
    ne_eq, not_true_eq_false, if_false] at isRead
  cases opened :
      openLocalSecret libraries.toSecretLibraries encrypted secretKind
        (secrets.localSecretPathHint path) none with
  | ok plaintext => exact raises plaintext opened
  | error raised =>
      rw [opened] at isRead
      cases isRead

/-- What a small file of a readable form gives. -/
theorem LocalRuntime.readsAgain_of_small
    (lawful : libraries.Lawful) {write : SecretWrite} {files : SecretFiles}
    {secret : SavedSecret} {saved bytes : List UInt8}
    (isPlaintext : secret.plaintext libraries = .ok saved)
    (made : runtime.secretFileBytes libraries write secret = .ok bytes)
    (stored :
      files (SlashPath.resolve runtime.secrets.here (runtime.secretPath secret)) =
        some (bytes ++ [newline]))
    (small : bytes.length + 1 ≤ localSecretFileMaxBytes)
    (plain :
      runtime.secrets.identityPassphrase = none → ¬LooksSealed libraries (saved ++ [newline])) :
    runtime.ReadsAgain libraries files secret saved := by
  have length : (bytes ++ [newline]).length ≤ localSecretFileMaxBytes := by
    rw [List.length_append]
    exact small
  have found :
      readLocalMetadataFileWithLimit files
          (SlashPath.resolve runtime.secrets.here (runtime.secretPath secret))
          localSecretFileMaxBytes "local secret file" = .ok (some (bytes ++ [newline])) := by
    simp only [readLocalMetadataFileWithLimit, stored, ensure, length, if_true, bind, Except.bind]
  rw [LocalRuntime.secretFileBytes, isPlaintext] at made
  simp only [bind, Except.bind, LocalSecretStore.localSecretBytes] at made
  rw [LocalRuntime.ReadsAgain, LocalRuntime.readOpenmlsSecretFile,
    LocalSecretStore.readLocalSecretFile]
  simp only [found, okOr, bind, Except.bind]
  cases isGiven : runtime.secrets.identityPassphrase with
  | none =>
      rw [isGiven] at made
      cases made
      have notSealed :
          openSerializedLocalSecret libraries.toSecretLibraries (saved ++ [newline]) secret.kind
            (runtime.secrets.localSecretPathHint (runtime.secretPath secret)) none = .ok none := by
        rw [openSerializedLocalSecret]
        cases parsed : libraries.fromSlice (saved ++ [newline]) with
        | none => rfl
        | some encrypted =>
            have elsewhere : encrypted.storage ≠ localSecretStorage :=
              fun isSealed => plain isGiven ⟨encrypted, parsed, isSealed⟩
            exact if_pos elsewhere
      rw [notSealed]
      exact ⟨saved ++ [newline], rfl, trimAsciiEnd_newline saved⟩
  | some passphrase =>
      rw [isGiven] at made
      rw [open_of_encrypt lawful.toLawful made]
      exact ⟨saved, rfl, rfl⟩

/-- OpenMLS bytes are read again if and only if their file is small and of a readable form. -/
theorem LocalRuntime.readsAgain_iff
    (lawful : libraries.Lawful) {write : SecretWrite} {files : SecretFiles}
    {secret : SavedSecret} {saved bytes : List UInt8}
    (isPlaintext : secret.plaintext libraries = .ok saved)
    (made : runtime.secretFileBytes libraries write secret = .ok bytes)
    (stored :
      files (SlashPath.resolve runtime.secrets.here (runtime.secretPath secret)) =
        some (bytes ++ [newline])) :
    runtime.ReadsAgain libraries files secret saved ↔
      bytes.length + 1 ≤ localSecretFileMaxBytes ∧
        (runtime.secrets.identityPassphrase = none →
          ¬LooksSealed libraries (saved ++ [newline])) := by
  constructor
  · rintro ⟨read, isRead, -⟩
    have small := LocalSecretStore.small_of_read stored isRead
    rw [List.length_append] at small
    refine ⟨small, fun without => ?_⟩
    have unsealed : bytes = saved := by
      rw [LocalRuntime.secretFileBytes, isPlaintext] at made
      simp only [bind, Except.bind, LocalSecretStore.localSecretBytes, without] at made
      exact (Except.ok.inj made).symm
    rw [← unsealed]
    exact LocalSecretStore.plain_of_read stored without isRead
  · rintro ⟨small, plain⟩
    exact LocalRuntime.readsAgain_of_small lawful isPlaintext made stored small plain

/-- A ring is loaded again if and only if its file is small and its epoch is real. -/
theorem LocalRuntime.loadKey_iff
    (lawful : libraries.Lawful) {write : SecretWrite} {files : SecretFiles} {ring : KeyRing}
    {bytes : List UInt8}
    (made : runtime.keyFileBytes libraries write ring = .ok bytes)
    (stored : files (runtime.keyPlace ring.scope) = some (bytes ++ [newline])) :
    (∃ read, runtime.loadKey libraries files ring.scope = .ok (some read) ∧ ring.SameKeys read) ↔
      bytes.length + 1 ≤ localSecretFileMaxBytes ∧ ring.epoch ≠ 0 := by
  constructor
  · rintro ⟨read, loaded, sameEpoch, -⟩
    rw [LocalRuntime.loadKey] at loaded
    split at loaded
    · rename_i plaintext isRead
      have small := LocalSecretStore.small_of_read stored isRead
      rw [List.length_append] at small
      cases parsed : KeyRing.fromBytes libraries ring.scope.isChannel plaintext with
      | error raised =>
          rw [parsed] at loaded
          cases loaded
      | ok found =>
          rw [parsed] at loaded
          cases loaded
          simp only [KeyRing.fromBytes, bind_eq_ok_iff] at parsed
          obtain ⟨record, -, isRing⟩ := parsed
          rw [← sameEpoch]
          exact ⟨small, KeyRing.epoch_of_decodeKeyRing isRing⟩
    · cases loaded
    · cases loaded
  · rintro ⟨small, started⟩
    exact ⟨ring, LocalRuntime.loadKey_of_written lawful started made
      ⟨rfl, Or.inr rfl⟩ stored small, ring.sameKeys_self⟩

end Loading

/-- After a successful save, a secret is loaded again if and only if its file is within the
limit of the reader and of a form that is read. -/
theorem secret_loadsAgain_iff
    (libraries : KeyLibraries) (lawful : libraries.Lawful) (runtime : LocalRuntime)
    (write : SecretWrite) (files after : SecretFiles) (secret : SavedSecret)
    (saved : runtime.saveSecret libraries write files secret = (.ok (), after)) :
    runtime.LoadsAgain libraries after secret ↔ runtime.Readable libraries write secret := by
  obtain ⟨bytes, made, stored⟩ := LocalRuntime.written_of_saveSecret saved
  have readable :
      runtime.Readable libraries write secret ↔
        bytes.length + 1 ≤ localSecretFileMaxBytes ∧ runtime.FormReadable libraries secret := by
    constructor
    · intro readable
      exact ⟨readable.fits bytes made, readable.form⟩
    · rintro ⟨small, form⟩
      refine ⟨fun others isMade => ?_, form⟩
      rw [made] at isMade
      cases isMade
      exact small
  rw [readable]
  cases secret with
  | keyRing ring => exact LocalRuntime.loadKey_iff lawful made stored
  | openmlsKeyPackage workspaceId keyPackageRef privateBundle =>
      exact LocalRuntime.readsAgain_iff lawful rfl made stored
  | openmlsWorkspaceGroup workspaceId privateGroupState =>
      exact LocalRuntime.readsAgain_iff lawful rfl made stored
  | openmlsChannelGroup workspaceId channelId privateGroupState =>
      exact LocalRuntime.readsAgain_iff lawful rfl made stored

/-- The ring after one rotation. -/
theorem secret_loadsAgain_rotated :
    ringRuntime.LoadsAgain ringLibraries.toKeyLibraries
      (ringRuntime.saveSecret ringLibraries.toKeyLibraries plainWrite (fun _ => none)
        (.keyRing secondRing)).2
      (.keyRing secondRing) := by
  have isMade :
      ringRuntime.secretFileBytes ringLibraries.toKeyLibraries plainWrite (.keyRing secondRing) =
        .ok (workspaceKeyJson secondRing.persisted) := by
    decide +kernel
  have saved :
      ringRuntime.saveSecret ringLibraries.toKeyLibraries plainWrite (fun _ => none)
          (.keyRing secondRing) =
        (.ok (), (ringRuntime.saveSecret ringLibraries.toKeyLibraries plainWrite (fun _ => none)
          (.keyRing secondRing)).2) := by
    rw [ringRuntime.saveSecret_eq ringLibraries.toKeyLibraries rfl, isMade]
  refine (secret_loadsAgain_iff ringLibraries.toKeyLibraries ringLibraries_lawful ringRuntime
    plainWrite (fun _ => none) _ (.keyRing secondRing) saved).mpr ⟨?_, show secondRing.epoch ≠ 0 by decide⟩
  intro bytes made
  rw [isMade] at made
  cases made
  decide +kernel

/-! ## A ring after many rotations

Each replaced key takes more than 280 bytes of its file. -/

section Sizes

theorem length_asciiBytes_intersperse
    (separator : List String) {size : Nat} (items : List (List String))
    (large : ∀ item ∈ items, size ≤ (asciiBytes item).length) :
    size * items.length ≤ (asciiBytes (items.intersperse separator).flatten).length := by
  induction items with
  | nil => exact Nat.zero_le _
  | cons item rest inductionHypothesis =>
      have first := large item List.mem_cons_self
      have others := inductionHypothesis fun other member =>
        large other (List.mem_cons_of_mem item member)
      rw [List.length_cons, Nat.mul_succ]
      cases rest with
      | nil =>
          simp only [List.intersperse_singleton, List.flatten_cons, List.flatten_nil, List.append_nil,
            List.length_nil]
          omega
      | cons next others' =>
          rw [List.intersperse_cons_cons, List.flatten_cons, List.flatten_cons,
            length_asciiBytes_append, length_asciiBytes_append]
          omega

theorem length_arrayJson
    (indent : String) {size : Nat} (items : List (List String))
    (large : ∀ item ∈ items, size ≤ indent.toList.length + 2 + (asciiBytes item).length) :
    size * items.length ≤ (asciiBytes (arrayJson indent items)).length := by
  by_cases isEmpty : items.isEmpty = true
  · rw [List.isEmpty_iff.mp isEmpty]
    exact Nat.zero_le _
  · have indented :
        ∀ item ∈ items.map fun item => [indent, "  "] ++ item,
          size ≤ (asciiBytes item).length := by
      intro item member
      obtain ⟨inner, isInner, rfl⟩ := List.mem_map.mp member
      have blanks : "  ".toList.length = 2 := rfl
      have bound := large inner isInner
      rw [List.cons_append, List.cons_append, List.nil_append, length_asciiBytes_cons,
        length_asciiBytes_cons, blanks]
      omega
    have body := length_asciiBytes_intersperse [",\n"] _ indented
    rw [List.length_map] at body
    rw [arrayJson, if_neg isEmpty, length_asciiBytes_append, length_asciiBytes_append]
    omega

theorem length_rawKeyJson (raw : RawKeyMaterial) (isKey : raw.aes256GcmSivKey.length = 32) :
    288 ≤ (asciiBytes (rawKeyJson raw)).length := by
  have numbers :
      9 * (raw.aes256GcmSivKey.map fun byte => [byte.toNat.repr]).length ≤
        (asciiBytes (keyBytesJson "      " raw.aes256GcmSivKey)).length := by
    refine length_arrayJson "      " _ fun item member => ?_
    obtain ⟨byte, -, rfl⟩ := List.mem_map.mp member
    have blanks : "      ".toList.length = 6 := rfl
    have digits : 0 < byte.toNat.repr.toList.length := by
      rw [Nat.toList_repr]
      exact Nat.length_toDigits_pos
    rw [length_asciiBytes_cons, blanks]
    omega
  rw [List.length_map, isKey] at numbers
  rw [rawKeyJson, length_asciiBytes_append, length_asciiBytes_append]
  omega

theorem length_workspaceKeyJson (ring : KeyRing) :
    288 * ring.previousKeys.length ≤ (workspaceKeyJson ring.persisted).length := by
  have previous :
      288 * (ring.persisted.previousKeys.map rawKeyJson).length ≤
        (asciiBytes (arrayJson "  " (ring.persisted.previousKeys.map rawKeyJson))).length := by
    refine length_arrayJson "  " _ fun item member => ?_
    obtain ⟨raw, isRaw, rfl⟩ := List.mem_map.mp member
    obtain ⟨material, -, rfl⟩ := List.mem_map.mp isRaw
    have bound := length_rawKeyJson material.raw material.contentKey.length_eq
    omega
  have kept : (ring.persisted.previousKeys.map rawKeyJson).length = ring.previousKeys.length := by
    rw [List.length_map, KeyRing.persisted, List.length_map]
  rw [kept] at previous
  rw [workspaceKeyJson, length_asciiBytes_append, length_asciiBytes_append]
  omega

end Sizes

/-- The key of a rotation: its number in 32 digits of base 256. -/
def numberedKey (number : Nat) : ContentKey :=
  ⟨List.ofFn fun place : Fin 32 => UInt8.ofNat (number / 256 ^ place.val), List.length_ofFn⟩

/-- The first ring after some rotations. -/
def ringAfter : Nat → KeyRing
  | 0 => firstRing
  | rotations + 1 => (ringAfter rotations).rotate (numberedKey rotations)

theorem ringAfter_reachable (rotations : Nat) : (ringAfter rotations).Reachable := by
  induction rotations with
  | zero => exact .generate _ _
  | succ rotations inductionHypothesis => exact .rotate _ inductionHypothesis

theorem ringAfter_scope (rotations : Nat) :
    (ringAfter rotations).scope = .workspace ⟨"w"⟩ := by
  induction rotations with
  | zero => rfl
  | succ rotations inductionHypothesis => exact inductionHypothesis

theorem ringAfter_previousKeys (rotations : Nat) :
    (ringAfter rotations).previousKeys.length = rotations := by
  induction rotations with
  | zero => rfl
  | succ rotations inductionHypothesis =>
      rw [ringAfter, KeyRing.rotate, List.length_append, inductionHypothesis]
      rfl

/-- The libraries as they behave on the file of one ring of a workspace. -/
def oneRingLibraries (record : PersistedKey) : KeyLibraries :=
  { ringLibraries.toKeyLibraries with
    keyToVecPretty := fun other =>
      if other = record then some (workspaceKeyJson record) else none
    keyFromSlice := fun
      | true => fun _ => none
      | false => readRing [record] }

theorem oneRingLibraries_lawful
    {record : PersistedKey} (isWorkspace : record.scope.isChannel = false) :
    (oneRingLibraries record).Lawful where
  decrypts := ringLibraries_lawful.decrypts
  readsBack := ringLibraries_lawful.readsBack
  keyReadsBack := by
    intro other bytes written
    dsimp only [oneRingLibraries] at written
    split at written
    · rename_i same
      subst same
      cases written
      have read :
          ∀ text, text = workspaceKeyJson other ∨
              text = workspaceKeyJson other ++ [newline] →
            (oneRingLibraries other).keyFromSlice other.scope.isChannel text =
              some ⟨other, rfl⟩ := by
        intro text isText
        have onWorkspaces :
            ∀ isChannel (kind : other.scope.isChannel = isChannel), isChannel = false →
              (oneRingLibraries other).keyFromSlice isChannel text = some ⟨other, kind⟩ := by
          intro isChannel kind isFalse
          subst isFalse
          simp only [oneRingLibraries, readRing, dif_pos kind, if_pos isText]
        exact onWorkspaces _ rfl isWorkspace
      exact ⟨read _ (Or.inl rfl), read _ (Or.inr rfl)⟩
    · cases written
  keyIsPlain := fun _ _ _ => rfl

/-- The ring of a workspace after 60000 rotations. -/
theorem not_secret_loadsAgain :
    ¬ ∀ (libraries : KeyLibraries), libraries.Lawful →
      ∀ (runtime : LocalRuntime) (write : SecretWrite) (files after : SecretFiles)
        (secret : SavedSecret), secret.Held →
          runtime.saveSecret libraries write files secret = (.ok (), after) →
            runtime.LoadsAgain libraries after secret := by
  intro claim
  obtain ⟨rotations, many⟩ : ∃ rotations : Nat, rotations = 60000 := ⟨_, rfl⟩
  have isWorkspace : (ringAfter rotations).persisted.scope.isChannel = false := by
    change (ringAfter rotations).scope.isChannel = false
    rw [ringAfter_scope]
    rfl
  have isMade :
      ringRuntime.keyFileBytes (oneRingLibraries (ringAfter rotations).persisted) plainWrite
          (ringAfter rotations) =
        .ok (workspaceKeyJson (ringAfter rotations).persisted) := by
    simp only [LocalRuntime.keyFileBytes, oneRingLibraries, if_true, okOr, bind, Except.bind,
      LocalSecretStore.localSecretBytes, ringRuntime]
  obtain ⟨after, saved⟩ :
      ∃ after,
        ringRuntime.saveSecret (oneRingLibraries (ringAfter rotations).persisted) plainWrite
            (fun _ => none) (.keyRing (ringAfter rotations)) = (.ok (), after) :=
    @LocalRuntime.saveSecret_of_made _ ringRuntime plainWrite rfl (fun _ => none)
      (.keyRing (ringAfter rotations)) _ isMade
  obtain ⟨bytes, made, stored⟩ := LocalRuntime.written_of_saveSecret saved
  have loads := claim _ (oneRingLibraries_lawful isWorkspace) ringRuntime plainWrite
    (fun _ => none) after (.keyRing (ringAfter rotations)) (ringAfter_reachable rotations) saved
  obtain ⟨small, -⟩ :=
    (LocalRuntime.loadKey_iff (oneRingLibraries_lawful isWorkspace) made stored).mp loads
  have same := made.symm.trans isMade
  rw [Except.ok.inj same] at small
  have lower := length_workspaceKeyJson (ringAfter rotations)
  rw [ringAfter_previousKeys] at lower
  rw [localSecretFileMaxBytes] at small
  omega

end Chaft
