import Chaft.Library.SlashPath
import Chaft.Library.Text
import Chaft.Library.Utf8
import Chaft.Runtime.RuntimeError

/-!
# Files of local secrets

A secret file is written beside its place and moved there, so a failed write leaves
the old bytes or the new ones.  When the runtime has a passphrase, a file holds the
secret sealed under a key that is derived from the passphrase and a random salt.

Key derivation, cipher and JSON come from libraries and are parameters; salts and
nonces are arguments.
-/

namespace Chaft

open Outcome SlashPath

/-! ## Sealed secrets -/

def localSecretSchemaVersion : UInt32 := 1
def localSecretStorage : String := "argon2id-aes-256-gcm-siv"
def localSecretKdfArgon2id : String := "argon2id"
def localSecretKdfContext : String := "Chaft local secret file v1"
def localSecretSaltLen : Nat := 16
def localSecretKeyLen : Nat := 32
def localSecretArgon2MemoryCostKib : UInt32 := 64 * 1024
def localSecretArgon2TimeCost : UInt32 := 3
def localSecretArgon2Parallelism : UInt32 := 1
def localSecretKdfOutputLen : UInt32 := 32

def localSecretFileMaxBytes : Nat := 16 * 1024 * 1024
def localSecretKindWorkspaceKey : String := "workspace-key"
def localSecretKindChannelKey : String := "channel-key"

structure LocalSecretKdf where
  name : String
  context : String
  salt : List UInt8
  memoryCostKib : UInt32
  timeCost : UInt32
  parallelism : UInt32
  outputLen : UInt32
  deriving DecidableEq

structure PersistedEncryptedLocalSecret where
  schemaVersion : UInt32
  storage : String
  secretKind : String
  pathHint : String
  kdf : LocalSecretKdf
  sealedPayload : SealedPayload
  deriving DecidableEq

/-- A passphrase that is not blank; the runtime takes a blank one for none. -/
structure Passphrase where
  text : String
  notBlank : Text.trim text.toList ≠ []

/-- What the secret files take from libraries. -/
structure SecretLibraries where
  aead : Aead
  /-- The Argon2id hash of a passphrase and a salt, with the costs of the source. -/
  hashPasswordInto : String → List UInt8 → Option ContentKey
  toVecPretty : PersistedEncryptedLocalSecret → Option (List UInt8)
  fromSlice : List UInt8 → Option PersistedEncryptedLocalSecret

/-- The random bytes of one sealed secret. -/
structure SecretEntropy where
  salt : List UInt8
  nonce : List UInt8
  saltLength : salt.length = localSecretSaltLen
  nonceLength : nonce.length = aes256GcmSivNonceLen

section Sealing

variable (libraries : SecretLibraries)

def deriveLocalSecretKey
    (passphrase : String) (kdf : LocalSecretKdf) : Except RuntimeError ContentKey := do
  ensure (kdf.name = localSecretKdfArgon2id ∧ kdf.context = localSecretKdfContext ∧
      kdf.salt.length = localSecretSaltLen ∧
        kdf.memoryCostKib = localSecretArgon2MemoryCostKib ∧
          kdf.timeCost = localSecretArgon2TimeCost ∧
            kdf.parallelism = localSecretArgon2Parallelism ∧
              kdf.outputLen = localSecretKdfOutputLen)
    .unsupportedLocalSecretFile
  okOr (libraries.hashPasswordInto passphrase kdf.salt) .localSecretKdf

def localSecretAad (secretKind pathHint : String) (kdf : LocalSecretKdf) : List UInt8 :=
  Utf8.encode ("chaft:v1:local_secret:" ++ secretKind ++ ":" ++ pathHint ++ ":" ++ kdf.name ++
    ":" ++ kdf.context ++ ":").toList ++ kdf.salt

def localSecretKeyId (secretKind pathHint : String) : String :=
  "local-secret:" ++ secretKind ++ ":" ++ pathHint

def encryptLocalSecret
    (entropy : SecretEntropy) (secretKind pathHint : String) (passphrase : String)
    (plaintext : List UInt8) : Except RuntimeError (List UInt8) := do
  let kdf : LocalSecretKdf :=
    { name := localSecretKdfArgon2id
      context := localSecretKdfContext
      salt := entropy.salt
      memoryCostKib := localSecretArgon2MemoryCostKib
      timeCost := localSecretArgon2TimeCost
      parallelism := localSecretArgon2Parallelism
      outputLen := localSecretKdfOutputLen }
  let wrappingKey ← deriveLocalSecretKey libraries passphrase kdf
  let sealedPayload ←
    (sealAes256GcmSiv libraries.aead entropy.nonce (localSecretKeyId secretKind pathHint)
      wrappingKey plaintext (localSecretAad secretKind pathHint kdf)).mapError .crypto
  okOr
    (libraries.toVecPretty
      { schemaVersion := localSecretSchemaVersion
        storage := localSecretStorage
        secretKind := secretKind
        pathHint := pathHint
        kdf := kdf
        sealedPayload := sealedPayload })
    .serde

def openLocalSecret
    (encrypted : PersistedEncryptedLocalSecret) (secretKind pathHint : String)
    (passphrase : Option Passphrase) : Except RuntimeError (List UInt8) := do
  ensure (encrypted.schemaVersion = localSecretSchemaVersion ∧
      encrypted.storage = localSecretStorage ∧ encrypted.secretKind = secretKind)
    .unsupportedLocalSecretFile
  ensure (encrypted.pathHint = pathHint) .invalidLocalSecretFile
  let passphrase ← okOr passphrase .localSecretPassphraseRequired
  let wrappingKey ← deriveLocalSecretKey libraries passphrase.text encrypted.kdf
  ensure (encrypted.sealedPayload.aad = localSecretAad secretKind pathHint encrypted.kdf)
    .invalidLocalSecretFile
  (openAes256GcmSiv libraries.aead wrappingKey encrypted.sealedPayload).mapError .crypto

/-- Bytes that are no sealed secret are none. -/
def openSerializedLocalSecret
    (bytes : List UInt8) (secretKind pathHint : String) (passphrase : Option Passphrase) :
    Except RuntimeError (Option (List UInt8)) :=
  match libraries.fromSlice bytes with
  | none => .ok none
  | some encrypted =>
      if encrypted.storage ≠ localSecretStorage then
        .ok none
      else
        (openLocalSecret libraries encrypted secretKind pathHint passphrase).map some

end Sealing

/-! ## Files -/

/-- The bytes of the secret files. -/
abbrev SecretFiles := Place → Option (List UInt8)

/-- How far a write comes. -/
inductive WriteFault where
  | none
  | beforeRename
  | afterRename
  deriving DecidableEq, Repr

def newline : UInt8 := 10

def writeSecretFile
    (fault : WriteFault) (files : SecretFiles) (place : Place) (bytes : List UInt8) :
    Except RuntimeError Unit × SecretFiles :=
  match fault with
  | .none => (.ok (), Function.update files place (some (bytes ++ [newline])))
  | .beforeRename => (.error (.io .other), files)
  | .afterRename => (.error (.io .other), Function.update files place (some (bytes ++ [newline])))

def readLocalMetadataFileWithLimit
    (files : SecretFiles) (place : Place) (maxBytes : Nat) (field : String) :
    Except RuntimeError (Option (List UInt8)) :=
  match files place with
  | none => .ok none
  | some bytes => do
      ensure (bytes.length ≤ maxBytes) (.metadataFieldTooLarge field bytes.length maxBytes)
      .ok (some bytes)

/-- Where a runtime keeps its secrets and how it seals them. -/
structure LocalSecretStore where
  /-- The working directory, from which paths lead to their places. -/
  here : Place
  workspaceKeysDir : List Char
  /-- The path relative to the data directory, as text. -/
  localSecretPathHint : List Char → String
  identityPassphrase : Option Passphrase

namespace LocalSecretStore

variable (libraries : SecretLibraries) (secrets : LocalSecretStore)

def readLocalSecretFile
    (files : SecretFiles) (path : List Char) (secretKind : String) :
    Except RuntimeError (List UInt8) := do
  let found ←
    readLocalMetadataFileWithLimit files (resolve secrets.here path) localSecretFileMaxBytes
      "local secret file"
  let bytes ← okOr found (.io .notFound)
  let plaintext ←
    openSerializedLocalSecret libraries bytes secretKind (secrets.localSecretPathHint path)
      secrets.identityPassphrase
  .ok (plaintext.getD bytes)

/-- The bytes that are written for a secret. -/
def localSecretBytes
    (entropy : SecretEntropy) (path : List Char) (secretKind : String)
    (plaintext : List UInt8) : Except RuntimeError (List UInt8) :=
  match secrets.identityPassphrase with
  | some passphrase =>
      encryptLocalSecret libraries entropy secretKind (secrets.localSecretPathHint path)
        passphrase.text plaintext
  | none => .ok plaintext

def writeLocalSecretFile
    (entropy : SecretEntropy) (fault : WriteFault) (files : SecretFiles) (path : List Char)
    (secretKind : String) (plaintext : List UInt8) : Except RuntimeError Unit × SecretFiles :=
  match secrets.localSecretBytes libraries entropy path secretKind plaintext with
  | .error raised => (.error raised, files)
  | .ok bytes => writeSecretFile fault files (resolve secrets.here path) bytes

end LocalSecretStore

/-! ## Reading back -/

/-- What the runtime relies on in its libraries: what is encrypted decrypts, and JSON
reads back, also with the newline that ends a file. -/
structure SecretLibraries.Lawful (libraries : SecretLibraries) : Prop where
  decrypts : libraries.aead.Decrypts
  readsBack :
    ∀ encrypted bytes, libraries.toVecPretty encrypted = some bytes →
      libraries.fromSlice (bytes ++ [newline]) = some encrypted

variable {libraries : SecretLibraries}

/-- A sealed secret opens to its plaintext. -/
theorem open_of_encrypt
    (lawful : libraries.Lawful) {entropy : SecretEntropy} {secretKind pathHint : String}
    {passphrase : Passphrase} {plaintext bytes : List UInt8}
    (encrypted :
      encryptLocalSecret libraries entropy secretKind pathHint passphrase.text plaintext =
        .ok bytes) :
    openSerializedLocalSecret libraries (bytes ++ [newline]) secretKind pathHint
      (some passphrase) = .ok (some plaintext) := by
  simp only [encryptLocalSecret, bind_eq_ok_iff, renamed_eq_ok_iff, okOr_eq_ok_iff] at encrypted
  obtain ⟨wrappingKey, derived, payload, isSealed, written⟩ := encrypted
  obtain ⟨sameAad, opened⟩ := open_of_seal lawful.decrypts entropy.nonceLength isSealed
  have parsed := lawful.readsBack _ _ written
  simp [openSerializedLocalSecret, parsed, openLocalSecret, derived, sameAad, opened, ensure,
    okOr, bind, Except.bind, Except.map, Except.mapError]

namespace LocalSecretStore

variable {secrets : LocalSecretStore}

/-- Two paths are read in the same way from the same bytes: a sealed secret names the
path that it was written for. -/
def SameHint (secrets : LocalSecretStore) (left right : List Char) : Prop :=
  secrets.identityPassphrase = none ∨
    secrets.localSecretPathHint left = secrets.localSecretPathHint right

/-- What a secret file gives when it is read, after its bytes were written to it. -/
theorem read_of_written
    (lawful : libraries.Lawful) {entropy : SecretEntropy} {files : SecretFiles}
    {path readPath : List Char} {secretKind : String} {plaintext bytes : List UInt8}
    (written : secrets.localSecretBytes libraries entropy path secretKind plaintext = .ok bytes)
    (isPlain : libraries.fromSlice (plaintext ++ [newline]) = none)
    (stored : files (resolve secrets.here readPath) = some (bytes ++ [newline]))
    (sameHint : secrets.SameHint readPath path)
    (small : (bytes ++ [newline]).length ≤ localSecretFileMaxBytes) :
    secrets.readLocalSecretFile libraries files readPath secretKind = .ok plaintext ∨
      secrets.readLocalSecretFile libraries files readPath secretKind =
        .ok (plaintext ++ [newline]) := by
  have found :
      readLocalMetadataFileWithLimit files (resolve secrets.here readPath)
        localSecretFileMaxBytes "local secret file" = .ok (some (bytes ++ [newline])) := by
    simp only [readLocalMetadataFileWithLimit, stored, ensure, small, if_true, bind, Except.bind]
  rw [localSecretBytes] at written
  simp only [readLocalSecretFile, found, okOr, bind, Except.bind]
  cases isGiven : secrets.identityPassphrase with
  | none =>
      rw [isGiven] at written
      cases written
      right
      simp [openSerializedLocalSecret, isPlain]
  | some passphrase =>
      rw [isGiven] at written
      have hints : secrets.localSecretPathHint readPath = secrets.localSecretPathHint path := by
        rcases sameHint with without | hints
        · rw [isGiven] at without
          cases without
        · exact hints
      left
      rw [hints, open_of_encrypt lawful written]
      rfl

/-- Without a passphrase, what opens is not sealed. -/
private theorem open_without_passphrase
    {bytes : List UInt8} {secretKind pathHint : String} {opened : Option (List UInt8)}
    (isOpened : openSerializedLocalSecret libraries bytes secretKind pathHint none = .ok opened) :
    opened = none ∧
      ∀ otherHint, openSerializedLocalSecret libraries bytes secretKind otherHint none =
        .ok none := by
  rw [openSerializedLocalSecret] at isOpened
  cases parsed : libraries.fromSlice bytes with
  | none =>
      rw [parsed] at isOpened
      cases isOpened
      exact ⟨rfl, fun otherHint => by rw [openSerializedLocalSecret, parsed]⟩
  | some encrypted =>
      rw [parsed] at isOpened
      dsimp only at isOpened
      by_cases elsewhere : encrypted.storage ≠ localSecretStorage
      · rw [if_pos elsewhere] at isOpened
        cases isOpened
        refine ⟨rfl, fun otherHint => ?_⟩
        rw [openSerializedLocalSecret, parsed]
        exact if_pos elsewhere
      · rw [if_neg elsewhere] at isOpened
        have raises :
            ∀ plaintext, openLocalSecret libraries encrypted secretKind pathHint none ≠
              .ok plaintext := by
          intro plaintext isPlaintext
          simp only [openLocalSecret, bind_eq_ok_iff, okOr_eq_ok_iff, reduceCtorEq, false_and,
            exists_false, and_false] at isPlaintext
        cases plain : openLocalSecret libraries encrypted secretKind pathHint none with
        | ok plaintext => exact absurd plain (raises plaintext)
        | error raised =>
            rw [plain] at isOpened
            cases isOpened

/-- A secret that is read through one path is read through another of the same place
and hint. -/
theorem read_of_samePlace
    {files : SecretFiles} {path readPath : List Char} {secretKind : String}
    {plaintext : List UInt8}
    (samePlace : resolve secrets.here readPath = resolve secrets.here path)
    (sameHint : secrets.SameHint readPath path)
    (read : secrets.readLocalSecretFile libraries files readPath secretKind = .ok plaintext) :
    secrets.readLocalSecretFile libraries files path secretKind = .ok plaintext := by
  rw [readLocalSecretFile] at read ⊢
  rw [← samePlace]
  rcases sameHint with without | hints
  · simp only [bind_eq_ok_iff, without] at read ⊢
    obtain ⟨found, isFound, bytes, isBytes, opened, isOpened, isPlaintext⟩ := read
    obtain ⟨notSealed, opensToo⟩ := open_without_passphrase isOpened
    rw [notSealed] at isPlaintext
    exact ⟨found, isFound, bytes, isBytes, none, opensToo _, isPlaintext⟩
  · rw [← hints]
    exact read

end LocalSecretStore

end Chaft
