import Mathlib.Algebra.Ring.Nat
import Chaft.Domain.Event
import Chaft.Library.Outcome
import Chaft.Library.TextParts

/-!
# Identity of devices and events

A device is named by the hash of its public key, an event by the hash of its
signed bytes and signature.  Verification recomputes both names and checks the
signature.  The hash, the signature scheme and the serialization of the signed
records are not part of the modelled program; they are the fields of
`Primitives`.
-/

namespace Chaft

open Outcome

inductive IdentityError where
  | invalidVerifyingKey
  | invalidSignature
  | eventIdMismatch
  | deviceIdMismatch
  | invalidTrustSnapshotRoot
  | trustSnapshotSignerMismatch
  deriving DecidableEq, Repr

def IdentityError.message : IdentityError → String
  | .invalidVerifyingKey => "invalid verifying key"
  | .invalidSignature => "invalid signature"
  | .eventIdMismatch => "event id does not match event content and signature"
  | .deviceIdMismatch => "author public key does not match author device id"
  | .invalidTrustSnapshotRoot => "trust snapshot root event is invalid"
  | .trustSnapshotSignerMismatch =>
      "trust snapshot signer does not match workspace root owner"

/-- What the program takes from its cryptographic and serialization libraries. -/
structure Primitives where
  /-- The BLAKE3 hash of some bytes, in hexadecimal. -/
  blake3Hex : List UInt8 → String
  /-- Whether 32 bytes are an Ed25519 public key. -/
  isVerifyingKey : List UInt8 → Bool
  /-- Whether a 64 byte signature of some bytes verifies under a public key. -/
  verify : List UInt8 → List UInt8 → List UInt8 → Bool
  /-- The JSON of a record that is signed. -/
  signableEventJson : SignableEvent → List UInt8
  trustSnapshotJson : TrustSnapshot → List UInt8

structure SignedTrustSnapshot where
  snapshot : TrustSnapshot
  rootEvent : SignedEvent
  authorPublicKey : List UInt8
  signature : List UInt8
  deriving DecidableEq

section Verification

variable (primitives : Primitives)

def DeviceId.fromPublicKeyBytes (bytes : List UInt8) : DeviceId :=
  ⟨"dev_" ++ primitives.blake3Hex bytes⟩

def SignableEvent.signingBytes (event : SignableEvent) : List UInt8 :=
  primitives.signableEventJson event

def TrustSnapshot.signingBytes (snapshot : TrustSnapshot) : List UInt8 :=
  primitives.trustSnapshotJson snapshot

def SignedEvent.fromAuthorSignature
    (event : SignableEvent) (authorPublicKey signature : List UInt8) : SignedEvent where
  eventId := ⟨"evt_" ++ primitives.blake3Hex (event.signingBytes primitives ++ signature)⟩
  event := event
  authorPublicKey := authorPublicKey
  signature := signature

def validateAuthorPublicKeyLen (bytes : List UInt8) : Except IdentityError Unit :=
  ensure (bytes.length ≤ eventAuthorPublicKeyMaxBytes) .invalidVerifyingKey

def validateSignatureLen (bytes : List UInt8) : Except IdentityError Unit :=
  ensure (bytes.length ≤ eventSignatureMaxBytes) .invalidSignature

/-- The check of a signature by a key of the right length: the key has to be a
point of the curve and the signature 64 bytes long. -/
def verifyBytes
    (verifyingKeyBytes bytes signature : List UInt8) : Except IdentityError Unit := do
  ensure (primitives.isVerifyingKey verifyingKeyBytes = true) .invalidVerifyingKey
  ensure (signature.length = 64) .invalidSignature
  ensure (primitives.verify verifyingKeyBytes bytes signature = true) .invalidSignature

def verifyEvent
    (event : SignedEvent) (verifyingKeyBytes : List UInt8) : Except IdentityError Unit := do
  validateSignatureLen event.signature
  verifyBytes primitives verifyingKeyBytes (event.event.signingBytes primitives) event.signature

def verifySelfContainedEvent (event : SignedEvent) : Except IdentityError Unit := do
  validateAuthorPublicKeyLen event.authorPublicKey
  validateSignatureLen event.signature
  ensure (event.authorPublicKey.length = 32) .invalidVerifyingKey
  ensure (DeviceId.fromPublicKeyBytes primitives event.authorPublicKey =
      event.event.authorDeviceId)
    .deviceIdMismatch
  ensure ((SignedEvent.fromAuthorSignature primitives event.event event.authorPublicKey
      event.signature).eventId = event.eventId)
    .eventIdMismatch
  verifyEvent primitives event event.authorPublicKey

def validateTrustSnapshotRoot
    (snapshot : TrustSnapshot) (rootEvent : SignedEvent) : Except IdentityError Unit := do
  verifySelfContainedEvent primitives rootEvent
  ensure (snapshot.schemaVersion = 1 ∧ rootEvent.eventId = snapshot.rootEventId ∧
      rootEvent.event.workspaceId = snapshot.workspaceId ∧
        rootEvent.event.authorDeviceId = snapshot.rootAuthorDeviceId ∧
          CreatesWorkspace rootEvent)
    .invalidTrustSnapshotRoot

def verifySelfContainedTrustSnapshot
    (snapshot : SignedTrustSnapshot) : Except IdentityError Unit := do
  validateTrustSnapshotRoot primitives snapshot.snapshot snapshot.rootEvent
  validateAuthorPublicKeyLen snapshot.authorPublicKey
  validateSignatureLen snapshot.signature
  ensure (snapshot.authorPublicKey.length = 32) .invalidVerifyingKey
  ensure (DeviceId.fromPublicKeyBytes primitives snapshot.authorPublicKey =
      snapshot.snapshot.rootAuthorDeviceId)
    .trustSnapshotSignerMismatch
  ensure (snapshot.rootEvent.authorPublicKey = snapshot.authorPublicKey)
    .trustSnapshotSignerMismatch
  verifyBytes primitives snapshot.authorPublicKey (snapshot.snapshot.signingBytes primitives)
    snapshot.signature

/-- `verify_self_contained_event(event).is_ok()`. -/
def isServableEvent (event : SignedEvent) : Bool :=
  (verifySelfContainedEvent primitives event).isOk

end Verification

/-! ## A signed event

The device of the first RFC 8032 test vector, which the source's tests use too,
signs the creation of a workspace. -/

/-- The bytes of some texts without characters beyond ASCII. -/
def asciiBytes (texts : List String) : List UInt8 :=
  texts.flatMap fun text => text.toList.map fun symbol => UInt8.ofNat symbol.toNat

theorem length_asciiBytes_cons (text : String) (texts : List String) :
    (asciiBytes (text :: texts)).length = text.toList.length + (asciiBytes texts).length := by
  rw [asciiBytes, List.flatMap_cons, List.length_append, List.length_map]
  rfl

theorem length_asciiBytes_append (first second : List String) :
    (asciiBytes (first ++ second)).length =
      (asciiBytes first).length + (asciiBytes second).length := by
  rw [asciiBytes, List.flatMap_append, List.length_append]
  rfl

theorem length_le_asciiBytes {text : String} {texts : List String} (member : text ∈ texts) :
    text.toList.length ≤ (asciiBytes texts).length := by
  induction texts with
  | nil => cases member
  | cons first rest inductionHypothesis =>
      rw [length_asciiBytes_cons]
      rcases List.mem_cons.mp member with rfl | later
      · omega
      · have short := inductionHypothesis later
        omega

/-- The sizes of texts are told faster than their characters. -/
theorem length_asciiBytes_le (texts : List String) :
    (asciiBytes texts).length ≤ (texts.map String.utf8ByteSize).sum := by
  induction texts with
  | nil => exact Nat.zero_le _
  | cons text rest inductionHypothesis =>
      have short := Text.length_le_utf8ByteSize text
      rw [length_asciiBytes_cons, List.map_cons, List.sum_cons]
      omega

def homeKey : List UInt8 :=
  [0xd7, 0x5a, 0x98, 0x01, 0x82, 0xb1, 0x0a, 0xb7, 0xd5, 0x4b, 0xfe, 0xd3,
    0xc9, 0x64, 0x07, 0x3a, 0x0e, 0xe1, 0x72, 0xf3, 0xda, 0xa6, 0x23, 0x25,
    0xaf, 0x02, 0x1a, 0x68, 0xf7, 0x07, 0x51, 0x1a]

def homeSignature : List UInt8 :=
  [0x60, 0x8e, 0xd1, 0x27, 0x2e, 0x80, 0x37, 0xaf, 0x68, 0xc3, 0xaa, 0x96,
    0xbf, 0x31, 0x24, 0xba, 0xdc, 0xaf, 0x23, 0xeb, 0x89, 0x73, 0x4c, 0x08,
    0x62, 0xbe, 0x2b, 0x46, 0xa7, 0x3e, 0xe6, 0x49, 0x07, 0x2f, 0xca, 0xf6,
    0x93, 0x09, 0x65, 0x42, 0x35, 0xd8, 0x71, 0xd1, 0xc9, 0x12, 0x8d, 0xe5,
    0x6c, 0x31, 0x75, 0x2b, 0xf2, 0x8f, 0xbe, 0x31, 0xa7, 0xd2, 0x5f, 0x9d,
    0x62, 0x51, 0x8d, 0x01]

def homeDeviceHash : String :=
  "6c31041268f471609c79f5f2dbcc38e4a4ab2f4d416109a4e09fcf50fd0f0062"

def homeEventHash : String :=
  "42b5e7f76de8ed9c808fc52aba295a356293d6c79eb147b2d85eb61ee10f0f32"

/-- The creation of workspace `w` under some name. -/
def homeCreation (name : String) : SignableEvent where
  schemaVersion := 1
  workspaceId := ⟨"w"⟩
  channelId := none
  authorDeviceId := ⟨"dev_" ++ homeDeviceHash⟩
  timestamp := { physicalMs := 0, logical := 0 }
  parents := []
  body := .workspaceCreated name

/-- The JSON of that event, in pieces. -/
def homeCreationJson (name : String) : List String :=
  ["\x7b\"schema_version\":1,", "\"workspace_id\":\"w\",", "\"channel_id\":null,",
    "\"author_device_id\":\"dev_", homeDeviceHash, "\",", "\"timestamp\":",
    "\x7b\"physical_ms\":0,\"logical\":0\x7d,", "\"parents\":[],",
    "\"body\":\x7b\"kind\":\"workspace_created\",", "\"name\":\"", name, "\"\x7d\x7d"]

/-- The workspace is called `home`. -/
def signedHome : SignedEvent where
  eventId := ⟨"evt_" ++ homeEventHash⟩
  event := homeCreation "home"
  authorPublicKey := homeKey
  signature := homeSignature

/-- The primitives as they behave on this event. -/
def homePrimitives : Primitives where
  blake3Hex bytes :=
    if bytes = homeKey then
      homeDeviceHash
    else if bytes = asciiBytes (homeCreationJson "home") ++ homeSignature then
      homeEventHash
    else
      ""
  isVerifyingKey bytes := decide (bytes = homeKey)
  verify key bytes signature :=
    decide (key = homeKey ∧ bytes = asciiBytes (homeCreationJson "home") ∧
      signature = homeSignature)
  signableEventJson event :=
    match event.body with
    | .workspaceCreated name => asciiBytes (homeCreationJson name)
    | _ => []
  trustSnapshotJson _ := []

/-! The device of the second RFC 8032 test vector. -/

def strangerKey : List UInt8 :=
  [0x3d, 0x40, 0x17, 0xc3, 0xe8, 0x43, 0x89, 0x5a, 0x92, 0xb7, 0x0a, 0xa7,
    0x4d, 0x1b, 0x7e, 0xbc, 0x9c, 0x98, 0x2c, 0xcf, 0x2e, 0xc4, 0x96, 0x8c,
    0xc0, 0xcd, 0x55, 0xf1, 0x2a, 0xf4, 0x66, 0x0c]

def strangerDeviceHash : String :=
  "1027e035b26b605dc6d4b78d07dc29660fcc3498b598a2e57c4e6b1b673a1e95"

theorem signedHome_servable : isServableEvent homePrimitives signedHome = true := by
  decide +kernel

end Chaft
