import Chaft.Domain.Event
import Chaft.Library.Outcome

/-!
# Content keys and sealed payloads

A content key is 32 bytes.  A payload is sealed with AES-256-GCM-SIV under a random
nonce; the cipher itself comes from a library and is a parameter, the nonce is an
argument.
-/

namespace Chaft

open Outcome

inductive CryptoError where
  | notAes256GcmSiv
  | invalidNonceLength
  | associatedDataMismatch
  | sealFailed
  | openFailed
  | invalidUtf8
  deriving DecidableEq, Repr

def aes256GcmSivKeyLen : Nat := 32

def aes256GcmSivNonceLen : Nat := 12

structure ContentKey where
  bytes : List UInt8
  length_eq : bytes.length = aes256GcmSivKeyLen
  deriving DecidableEq

/-- The cipher. -/
structure Aead where
  encrypt : ContentKey → (nonce plaintext aad : List UInt8) → Option (List UInt8)
  decrypt : ContentKey → (nonce ciphertext aad : List UInt8) → Option (List UInt8)

/-- What is encrypted decrypts under the same key, nonce and data. -/
def Aead.Decrypts (aead : Aead) : Prop :=
  ∀ key nonce plaintext aad ciphertext,
    aead.encrypt key nonce plaintext aad = some ciphertext →
      aead.decrypt key nonce ciphertext aad = some plaintext

section Sealing

variable (aead : Aead)

def sealAes256GcmSiv
    (nonce : List UInt8) (keyId : String) (key : ContentKey) (plaintext aad : List UInt8) :
    Except CryptoError SealedPayload := do
  let bytes ← okOr (aead.encrypt key nonce plaintext aad) .sealFailed
  .ok { mode := .aes256GcmSiv, keyId := keyId, nonce := nonce, aad := aad, bytes := bytes }

def openAes256GcmSivWithAad
    (key : ContentKey) (payload : SealedPayload) (aad : List UInt8) :
    Except CryptoError (List UInt8) := do
  ensure (payload.mode = .aes256GcmSiv) .notAes256GcmSiv
  ensure (payload.nonce.length = aes256GcmSivNonceLen) .invalidNonceLength
  ensure (payload.aad = aad) .associatedDataMismatch
  okOr (aead.decrypt key payload.nonce payload.bytes aad) .openFailed

def openAes256GcmSiv (key : ContentKey) (payload : SealedPayload) :
    Except CryptoError (List UInt8) :=
  openAes256GcmSivWithAad aead key payload payload.aad

variable {aead}

/-- A sealed payload opens under its key. -/
theorem open_of_seal
    (decrypts : aead.Decrypts) {nonce : List UInt8}
    (nonceLength : nonce.length = aes256GcmSivNonceLen) {keyId : String} {key : ContentKey}
    {plaintext aad : List UInt8} {payload : SealedPayload}
    (isSealed : sealAes256GcmSiv aead nonce keyId key plaintext aad = .ok payload) :
    payload.aad = aad ∧ openAes256GcmSiv aead key payload = .ok plaintext := by
  rw [sealAes256GcmSiv, bind_eq_ok_iff] at isSealed
  obtain ⟨bytes, encrypted, made⟩ := isSealed
  rw [okOr_eq_ok_iff] at encrypted
  cases made
  have decrypted := decrypts key nonce plaintext aad bytes encrypted
  refine ⟨rfl, ?_⟩
  simp [openAes256GcmSiv, openAes256GcmSivWithAad, nonceLength, decrypted, ensure, okOr, bind,
    Except.bind]

end Sealing

end Chaft
