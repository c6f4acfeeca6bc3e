import Chaft.Library.Protobuf
import Chaft.Network.WireEvent

/-!
# Trust snapshots on the wire

A signed trust snapshot travels as a protobuf message, and older peers send JSON.
The reader tells the two apart by the first byte that is not white space.  A
message starts with the key 0x0A, which is a line feed, and the length of the
snapshot in it, so that a snapshot of 123 bytes passes for JSON: 123 is an opening
brace.

The snapshots that pass verification are longer than that and are read back.  The
bytes of the root event's body, the reader of protobuf messages and that of JSON are
parameters.
-/

namespace Chaft

open Outcome Protobuf

/-! ## Messages -/

def encodeTrustSnapshotRole (role : TrustSnapshotRole) : WireTrustSnapshotRole where
  deviceId := role.deviceId.text
  role := roleToWire role.role

def decodeTrustSnapshotRole (role : WireTrustSnapshotRole) :
    Except WireError TrustSnapshotRole := do
  let workspaceRole ← roleFromWire role.role
  .ok { deviceId := ⟨role.deviceId⟩, role := workspaceRole }

def encodeTrustSnapshotChannel (channel : TrustSnapshotChannel) : WireTrustSnapshotChannel where
  channelId := channel.channelId.text
  isPrivate := channel.isPrivate
  creatorDeviceId := channel.creatorDeviceId.text
  memberDeviceIds := channel.memberDeviceIds.map Identifier.text

def decodeTrustSnapshotChannel (channel : WireTrustSnapshotChannel) : TrustSnapshotChannel where
  channelId := ⟨channel.channelId⟩
  isPrivate := channel.isPrivate
  creatorDeviceId := ⟨channel.creatorDeviceId⟩
  memberDeviceIds := channel.memberDeviceIds.map Identifier.mk

def encodeTrustSnapshotMessage (message : TrustSnapshotMessage) : WireTrustSnapshotMessage where
  messageId := message.messageId.text
  channelId := message.channelId.text
  authorDeviceId := message.authorDeviceId.map Identifier.text

def decodeTrustSnapshotMessage (message : WireTrustSnapshotMessage) : TrustSnapshotMessage where
  messageId := ⟨message.messageId⟩
  channelId := ⟨message.channelId⟩
  authorDeviceId := message.authorDeviceId.map Identifier.mk

def encodeTrustSnapshotEventChannel
    (eventChannel : TrustSnapshotEventChannel) : WireTrustSnapshotEventChannel where
  eventId := eventChannel.eventId.text
  channelId := eventChannel.channelId.text

def decodeTrustSnapshotEventChannel
    (eventChannel : WireTrustSnapshotEventChannel) : TrustSnapshotEventChannel where
  eventId := ⟨eventChannel.eventId⟩
  channelId := ⟨eventChannel.channelId⟩

def encodeTrustSnapshotPersonDeviceLink
    (link : TrustSnapshotPersonDeviceLink) : WireTrustSnapshotPersonDeviceLink where
  personId := link.personId.text
  deviceId := link.deviceId.text

def decodeTrustSnapshotPersonDeviceLink
    (link : WireTrustSnapshotPersonDeviceLink) : TrustSnapshotPersonDeviceLink where
  personId := ⟨link.personId⟩
  deviceId := ⟨link.deviceId⟩

def encodeTrustSnapshotInner (snapshot : TrustSnapshot) : WireTrustSnapshot where
  schemaVersion := snapshot.schemaVersion
  workspaceId := snapshot.workspaceId.text
  rootEventId := snapshot.rootEventId.text
  rootAuthorDeviceId := snapshot.rootAuthorDeviceId.text
  roles := snapshot.roles.map encodeTrustSnapshotRole
  channels := snapshot.channels.map encodeTrustSnapshotChannel
  messages := snapshot.messages.map encodeTrustSnapshotMessage
  eventChannels := snapshot.eventChannels.map encodeTrustSnapshotEventChannel
  personDeviceLinks := snapshot.personDeviceLinks.map encodeTrustSnapshotPersonDeviceLink

def decodeTrustSnapshotInner (snapshot : WireTrustSnapshot) : Except WireError TrustSnapshot := do
  let roles ← snapshot.roles.mapM decodeTrustSnapshotRole
  .ok
    { schemaVersion := snapshot.schemaVersion
      workspaceId := ⟨snapshot.workspaceId⟩
      rootEventId := ⟨snapshot.rootEventId⟩
      rootAuthorDeviceId := ⟨snapshot.rootAuthorDeviceId⟩
      roles := roles
      channels := snapshot.channels.map decodeTrustSnapshotChannel
      messages := snapshot.messages.map decodeTrustSnapshotMessage
      eventChannels := snapshot.eventChannels.map decodeTrustSnapshotEventChannel
      personDeviceLinks := snapshot.personDeviceLinks.map decodeTrustSnapshotPersonDeviceLink }

def encodeTrustSnapshotEnvelope (snapshot : SignedTrustSnapshot) : WireSignedTrustSnapshot where
  snapshot := some (encodeTrustSnapshotInner snapshot.snapshot)
  rootEvent := some (encodeEventEnvelope snapshot.rootEvent)
  authorPublicKey := snapshot.authorPublicKey
  signature := snapshot.signature

def decodeTrustSnapshotEnvelope
    (primitives : Primitives) (eventBodyFromSlice : List UInt8 → Option EventBody)
    (wire : WireSignedTrustSnapshot) : Except WireError SignedTrustSnapshot := do
  let snapshot ← okOr wire.snapshot (.trustSnapshotFieldMissing "snapshot")
  let snapshot ← decodeTrustSnapshotInner snapshot
  let rootEvent ← okOr wire.rootEvent (.trustSnapshotFieldMissing "root_event")
  let rootEvent ← decodeEventEnvelope primitives eventBodyFromSlice rootEvent
  .ok
    { snapshot := snapshot
      rootEvent := rootEvent
      authorPublicKey := wire.authorPublicKey
      signature := wire.signature }

/-! ## Bytes -/

def WireTrustSnapshotRole.fields (role : WireTrustSnapshotRole) : List Field :=
  textField 1 role.deviceId ++ enumField 2 role.role

def WireTrustSnapshotChannel.fields (channel : WireTrustSnapshotChannel) : List Field :=
  textField 1 channel.channelId ++ flagField 2 channel.isPrivate ++
    textField 3 channel.creatorDeviceId ++ repeatedField 4 (channel.memberDeviceIds.map textBytes)

def WireTrustSnapshotMessage.fields (message : WireTrustSnapshotMessage) : List Field :=
  textField 1 message.messageId ++ textField 2 message.channelId ++
    optionalField 3 (message.authorDeviceId.map textBytes)

def WireTrustSnapshotEventChannel.fields
    (eventChannel : WireTrustSnapshotEventChannel) : List Field :=
  textField 1 eventChannel.eventId ++ textField 2 eventChannel.channelId

def WireTrustSnapshotPersonDeviceLink.fields
    (link : WireTrustSnapshotPersonDeviceLink) : List Field :=
  textField 1 link.personId ++ textField 2 link.deviceId

def WireTrustSnapshot.fields (snapshot : WireTrustSnapshot) : List Field :=
  numberField 1 snapshot.schemaVersion.toNat ++
    (textField 2 snapshot.workspaceId ++ textField 3 snapshot.rootEventId ++
      textField 4 snapshot.rootAuthorDeviceId ++
      repeatedField 5 (snapshot.roles.map fun role => encode role.fields) ++
      repeatedField 6 (snapshot.channels.map fun channel => encode channel.fields) ++
      repeatedField 7 (snapshot.messages.map fun message => encode message.fields) ++
      repeatedField 8 (snapshot.eventChannels.map fun eventChannel => encode eventChannel.fields) ++
      repeatedField 9 (snapshot.personDeviceLinks.map fun link => encode link.fields))

section Bytes

variable (eventBodyToVec : WireEventBody → List UInt8)

def WireEventEnvelope.fields (envelope : WireEventEnvelope) : List Field :=
  textField 1 envelope.eventId ++ textField 2 envelope.workspaceId ++
    optionalField 3 (envelope.channelId.map textBytes) ++ textField 4 envelope.authorDeviceId ++
    numberField 5 envelope.physicalMs.toUInt64.toNat ++ numberField 6 envelope.logical.toNat ++
    repeatedField 7 envelope.parentIds ++ bytesField 8 envelope.bodyJson ++
    bytesField 9 envelope.signature ++ bytesField 10 envelope.authorPublicKey ++
    optionalField 11 (envelope.body.map eventBodyToVec)

def WireSignedTrustSnapshot.fields (snapshot : WireSignedTrustSnapshot) : List Field :=
  optionalField 1 (snapshot.snapshot.map fun inner => encode inner.fields) ++
    optionalField 2 (snapshot.rootEvent.map fun event => encode (event.fields eventBodyToVec)) ++
    bytesField 3 snapshot.authorPublicKey ++ bytesField 4 snapshot.signature

def encodeTrustSnapshot (snapshot : SignedTrustSnapshot) : List UInt8 :=
  encode ((encodeTrustSnapshotEnvelope snapshot).fields eventBodyToVec)

end Bytes

/-- The bytes that `is_ascii_whitespace` accepts. -/
def isAsciiWhitespaceByte (byte : UInt8) : Bool :=
  byte == 0x20 || byte == 0x09 || byte == 0x0A || byte == 0x0C || byte == 0x0D

def looksLikeJson (bytes : List UInt8) : Bool :=
  (bytes.find? fun byte => !isAsciiWhitespaceByte byte) == some 0x7B

section Decoding

variable (primitives : Primitives) (eventBodyFromSlice : List UInt8 → Option EventBody)
variable (trustSnapshotFromSlice : List UInt8 → Option SignedTrustSnapshot)
variable (messageFromBytes : List UInt8 → Option WireSignedTrustSnapshot)

def decodeTrustSnapshot (bytes : List UInt8) : Except WireError SignedTrustSnapshot :=
  if looksLikeJson bytes then
    okOr (trustSnapshotFromSlice bytes) .trustSnapshot
  else do
    let wire ← okOr (messageFromBytes bytes) .decode
    decodeTrustSnapshotEnvelope primitives eventBodyFromSlice wire

end Decoding

/-! ## Messages are read back -/

theorem decode_encodeTrustSnapshotRole (role : TrustSnapshotRole) :
    decodeTrustSnapshotRole (encodeTrustSnapshotRole role) = .ok role := by
  simp only [decodeTrustSnapshotRole, encodeTrustSnapshotRole, bind_eq_ok_iff,
    roleFromWire_toWire, Except.ok.injEq, exists_eq_left']

theorem decode_encodeTrustSnapshotChannel (channel : TrustSnapshotChannel) :
    decodeTrustSnapshotChannel (encodeTrustSnapshotChannel channel) = channel := by
  simp [decodeTrustSnapshotChannel, encodeTrustSnapshotChannel]

theorem decode_encodeTrustSnapshotMessage (message : TrustSnapshotMessage) :
    decodeTrustSnapshotMessage (encodeTrustSnapshotMessage message) = message := by
  simp [decodeTrustSnapshotMessage, encodeTrustSnapshotMessage]

theorem decode_encodeTrustSnapshotInner (snapshot : TrustSnapshot) :
    decodeTrustSnapshotInner (encodeTrustSnapshotInner snapshot) = .ok snapshot := by
  have roles := mapM_map_eq_ok decode_encodeTrustSnapshotRole snapshot.roles
  have channels :
      (snapshot.channels.map encodeTrustSnapshotChannel).map decodeTrustSnapshotChannel =
        snapshot.channels := by
    rw [List.map_map]
    exact List.map_id'' decode_encodeTrustSnapshotChannel snapshot.channels
  have messages :
      (snapshot.messages.map encodeTrustSnapshotMessage).map decodeTrustSnapshotMessage =
        snapshot.messages := by
    rw [List.map_map]
    exact List.map_id'' decode_encodeTrustSnapshotMessage snapshot.messages
  have eventChannels :
      (snapshot.eventChannels.map encodeTrustSnapshotEventChannel).map
          decodeTrustSnapshotEventChannel =
        snapshot.eventChannels := by
    rw [List.map_map]
    exact List.map_id'' (fun _ => rfl) snapshot.eventChannels
  have links :
      (snapshot.personDeviceLinks.map encodeTrustSnapshotPersonDeviceLink).map
          decodeTrustSnapshotPersonDeviceLink =
        snapshot.personDeviceLinks := by
    rw [List.map_map]
    exact List.map_id'' (fun _ => rfl) snapshot.personDeviceLinks
  simp only [decodeTrustSnapshotInner, encodeTrustSnapshotInner, bind_eq_ok_iff, roles, channels,
    messages, eventChannels, links, Except.ok.injEq, exists_eq_left']

theorem decode_encodeTrustSnapshotEnvelope
    (primitives : Primitives) (eventBodyFromSlice : List UInt8 → Option EventBody)
    {snapshot : SignedTrustSnapshot}
    (version : snapshot.rootEvent.event.schemaVersion = 1)
    (named :
      snapshot.rootEvent.eventId =
        (SignedEvent.fromAuthorSignature primitives snapshot.rootEvent.event
          snapshot.rootEvent.authorPublicKey snapshot.rootEvent.signature).eventId)
    (creates : CreatesWorkspace snapshot.rootEvent) :
    decodeTrustSnapshotEnvelope primitives eventBodyFromSlice
        (encodeTrustSnapshotEnvelope snapshot) =
      .ok snapshot := by
  have readable : ReadableBody snapshot.rootEvent.event.body := by
    obtain ⟨name, isCreation⟩ := creates.exists_name
    rw [isCreation]
    trivial
  have rootEvent :=
    decode_encode_of_readable primitives eventBodyFromSlice version named readable
  have inner := decode_encodeTrustSnapshotInner snapshot.snapshot
  simp only [decodeTrustSnapshotEnvelope, encodeTrustSnapshotEnvelope, bind_eq_ok_iff,
    okOr_eq_ok_iff, Option.some.injEq, inner, rootEvent, Except.ok.injEq, exists_eq_left']

/-! ## The first bytes -/

/-- The length of the bytes of a snapshot without its root event and signature. -/
def TrustSnapshot.encodedLen (snapshot : TrustSnapshot) : Nat :=
  encodedLength (encodeTrustSnapshotInner snapshot).fields

theorem length_encode_inner (snapshot : TrustSnapshot) :
    (encode (encodeTrustSnapshotInner snapshot).fields).length = snapshot.encodedLen :=
  length_encode _

/-- The keys of a snapshot are neither white space nor an opening brace. -/
theorem key_of_mem_fields
    {snapshot : WireTrustSnapshot} {field : Field} (member : field ∈ snapshot.fields) :
    field.key = 8 ∨ field.key % 8 = 2 ∧ 18 ≤ field.key ∧ field.key ≤ 74 := by
  simp only [WireTrustSnapshot.fields, List.mem_append] at member
  rcases member with member | (((((((member | member) | member) | member) | member) | member) |
    member) | member)
  · exact .inl (key_of_mem_numberField member)
  · have key := key_of_mem_textField member
    omega
  · have key := key_of_mem_textField member
    omega
  · have key := key_of_mem_textField member
    omega
  · have key := key_of_mem_repeatedField member
    omega
  · have key := key_of_mem_repeatedField member
    omega
  · have key := key_of_mem_repeatedField member
    omega
  · have key := key_of_mem_repeatedField member
    omega
  · have key := key_of_mem_repeatedField member
    omega

/-- A snapshot that is not empty starts with a byte that no JSON text starts with. -/
theorem encode_inner_starts
    {snapshot : WireTrustSnapshot} (notEmpty : encode snapshot.fields ≠ []) :
    ∃ first rest,
      encode snapshot.fields = first :: rest ∧
        isAsciiWhitespaceByte first = false ∧ first ≠ 0x7B := by
  have small (field : Field) (member : field ∈ snapshot.fields) : field.key < 128 := by
    have key := key_of_mem_fields member
    omega
  rcases encode_eq_nil_or_cons small with empty | ⟨field, member, rest, split⟩
  · exact absurd empty notEmpty
  · refine ⟨_, rest, split, ?_⟩
    have key := key_of_mem_fields member
    have listed :
        field.key = 8 ∨ field.key = 18 ∨ field.key = 26 ∨ field.key = 34 ∨ field.key = 42 ∨
          field.key = 50 ∨ field.key = 58 ∨ field.key = 66 ∨ field.key = 74 := by
      omega
    rcases listed with key | key | key | key | key | key | key | key | key <;>
      rw [key] <;> decide

/-- The snapshot stands behind a line feed and its length; the key of the root event
comes later. -/
theorem encodeTrustSnapshot_eq
    (eventBodyToVec : WireEventBody → List UInt8) (snapshot : SignedTrustSnapshot) :
    ∃ rest,
      encodeTrustSnapshot eventBodyToVec snapshot =
          0x0A :: (varint snapshot.snapshot.encodedLen ++
            (encode (encodeTrustSnapshotInner snapshot.snapshot).fields ++ rest)) ∧
        0x12 ∈ rest := by
  let rootEvent := encode ((encodeEventEnvelope snapshot.rootEvent).fields eventBodyToVec)
  let others := bytesField 3 snapshot.authorPublicKey ++ bytesField 4 snapshot.signature
  refine ⟨encode (⟨2, .bytes rootEvent⟩ :: others), ?_, ?_⟩
  · rw [← length_encode_inner]
    have split :
        (encodeTrustSnapshotEnvelope snapshot).fields eventBodyToVec =
          ⟨1, .bytes (encode (encodeTrustSnapshotInner snapshot.snapshot).fields)⟩ ::
            ⟨2, .bytes rootEvent⟩ :: others := by
      simp [WireSignedTrustSnapshot.fields, encodeTrustSnapshotEnvelope, optionalField,
        repeatedField, others, rootEvent]
    rw [encodeTrustSnapshot, split, encode, List.flatMap_cons, Field.encode, Payload.encode]
    have key (content : List UInt8) : varint (Field.key ⟨1, .bytes content⟩) = [0x0A] := rfl
    rw [key]
    simp only [List.cons_append, List.nil_append, List.append_assoc]
    rfl
  · have key : varint (Field.key ⟨2, .bytes rootEvent⟩) = [0x12] := rfl
    rw [encode, List.flatMap_cons, Field.encode, key]
    simp

theorem isAsciiWhitespaceByte_of_large {byte : UInt8} (large : 128 ≤ byte) :
    isAsciiWhitespaceByte byte = false ∧ byte ≠ 0x7B := by
  have different (other : UInt8) (small : other < 128) : byte ≠ other := by
    rintro rfl
    exact absurd small (UInt8.not_lt.mpr large)
  refine ⟨?_, different _ (by decide)⟩
  simp [isAsciiWhitespaceByte, different 0x20 (by decide), different 0x09 (by decide),
    different 0x0A (by decide), different 0x0C (by decide), different 0x0D (by decide)]

theorem looksLikeJson_cons (first : UInt8) (rest : List UInt8) :
    looksLikeJson (first :: rest) =
      if isAsciiWhitespaceByte first then looksLikeJson rest else first == 0x7B := by
  rw [looksLikeJson, List.find?_cons]
  cases isAsciiWhitespaceByte first <;> simp [looksLikeJson]

/-- A snapshot passes for JSON exactly at the length of 123 bytes. -/
theorem looksLikeJson_encodeTrustSnapshot_iff
    (eventBodyToVec : WireEventBody → List UInt8) (snapshot : SignedTrustSnapshot) :
    looksLikeJson (encodeTrustSnapshot eventBodyToVec snapshot) = true ↔
      snapshot.snapshot.encodedLen = 123 := by
  obtain ⟨rest, split, -⟩ := encodeTrustSnapshot_eq eventBodyToVec snapshot
  have lineFeed : isAsciiWhitespaceByte 0x0A = true := rfl
  rw [split, looksLikeJson_cons, if_pos lineFeed]
  have length := length_encode_inner snapshot.snapshot
  by_cases small : snapshot.snapshot.encodedLen < 128
  · rw [varint_of_small small, List.singleton_append, looksLikeJson_cons]
    by_cases white : isAsciiWhitespaceByte (UInt8.ofNat snapshot.snapshot.encodedLen) = true
    · rw [if_pos white]
      have notEmpty : encode (encodeTrustSnapshotInner snapshot.snapshot).fields ≠ [] := by
        intro empty
        rw [empty, List.length_nil] at length
        rw [← length] at white
        exact absurd white (by decide)
      obtain ⟨first, others, starts, notWhite, notBrace⟩ := encode_inner_starts notEmpty
      rw [starts, List.cons_append, looksLikeJson_cons, notWhite]
      constructor
      · intro isBrace
        exact absurd (eq_of_beq isBrace) notBrace
      · intro sameLength
        rw [sameLength] at white
        exact absurd white (by decide)
    · rw [if_neg white, beq_iff_eq]
      constructor
      · intro isBrace
        have sameNumber := congrArg UInt8.toNat isBrace
        rw [UInt8.toNat_ofNat_of_lt' (by rw [UInt8.size]; omega)] at sameNumber
        exact sameNumber
      · intro sameLength
        rw [sameLength]
        rfl
  · have large : 128 ≤ snapshot.snapshot.encodedLen := by omega
    obtain ⟨first, others, starts, isLarge⟩ := varint_of_large large
    obtain ⟨notWhite, notBrace⟩ := isAsciiWhitespaceByte_of_large isLarge
    rw [starts, List.cons_append, looksLikeJson_cons, notWhite]
    constructor
    · intro isBrace
      exact absurd (eq_of_beq isBrace) notBrace
    · intro sameLength
      omega

/-! ## The round trip -/

section RoundTrip

variable (primitives : Primitives) (eventBodyFromSlice : List UInt8 → Option EventBody)
variable (trustSnapshotFromSlice : List UInt8 → Option SignedTrustSnapshot)
variable (messageFromBytes : List UInt8 → Option WireSignedTrustSnapshot)
variable (eventBodyToVec : WireEventBody → List UInt8)

/-- JSON has no control characters apart from white space. -/
def RefusesControls : Prop :=
  ∀ bytes, 0x12 ∈ bytes → trustSnapshotFromSlice bytes = none

/-- A snapshot is read back exactly when its content does not take 123 bytes, and so
it is with not being taken for JSON. -/
theorem decode_encodeTrustSnapshot_iff
    {snapshot : SignedTrustSnapshot}
    (version : snapshot.rootEvent.event.schemaVersion = 1)
    (named :
      snapshot.rootEvent.eventId =
        (SignedEvent.fromAuthorSignature primitives snapshot.rootEvent.event
          snapshot.rootEvent.authorPublicKey snapshot.rootEvent.signature).eventId)
    (creates : CreatesWorkspace snapshot.rootEvent)
    (messageRead :
      messageFromBytes (encodeTrustSnapshot eventBodyToVec snapshot) =
        some (encodeTrustSnapshotEnvelope snapshot))
    (refusesControls : RefusesControls trustSnapshotFromSlice) :
    (decodeTrustSnapshot primitives eventBodyFromSlice trustSnapshotFromSlice messageFromBytes
          (encodeTrustSnapshot eventBodyToVec snapshot) =
        .ok snapshot ↔
      snapshot.snapshot.encodedLen ≠ 123) ∧
    (looksLikeJson (encodeTrustSnapshot eventBodyToVec snapshot) = false ↔
      snapshot.snapshot.encodedLen ≠ 123) := by
  have isJson := looksLikeJson_encodeTrustSnapshot_iff eventBodyToVec snapshot
  have notJson :
      looksLikeJson (encodeTrustSnapshot eventBodyToVec snapshot) = false ↔
        snapshot.snapshot.encodedLen ≠ 123 := by
    rw [← Bool.not_eq_true, isJson]
  refine ⟨?_, notJson⟩
  constructor
  · intro decoded sameLength
    -- The bytes are handed to the JSON reader, which stops at the key of the root event.
    obtain ⟨rest, split, control⟩ := encodeTrustSnapshot_eq eventBodyToVec snapshot
    have refused :
        trustSnapshotFromSlice (encodeTrustSnapshot eventBodyToVec snapshot) = none := by
      apply refusesControls
      rw [split]
      exact List.mem_cons_of_mem _ (List.mem_append_right _ (List.mem_append_right _ control))
    rw [decodeTrustSnapshot, if_pos (isJson.mpr sameLength), refused] at decoded
    cases decoded
  · intro otherLength
    have envelope :=
      decode_encodeTrustSnapshotEnvelope primitives eventBodyFromSlice version named creates
    simp only [decodeTrustSnapshot, notJson.mpr otherLength, Bool.false_eq_true, if_false,
      messageRead, bind_eq_ok_iff, okOr_eq_ok_iff, Option.some.injEq, exists_eq_left', envelope]

end RoundTrip

/-! ## Snapshots that pass verification -/

theorem length_le_length_textBytes (text : String) :
    text.toList.length ≤ (textBytes text).length := by
  rw [textBytes, Utf8.encode]
  induction text.toList with
  | nil => exact Nat.zero_le _
  | cons symbol rest inductionHypothesis =>
      have positive := symbol.utf8Size_pos
      rw [List.flatMap_cons, List.length_append, String.length_utf8EncodeChar, List.length_cons]
      omega

/-- A snapshot is longer than the texts of its root. -/
theorem length_le_encodedLen (snapshot : TrustSnapshot) :
    snapshot.rootEventId.text.toList.length + snapshot.rootAuthorDeviceId.text.toList.length ≤
      snapshot.encodedLen := by
  have eventId := length_le_length_textBytes snapshot.rootEventId.text
  have deviceId := length_le_length_textBytes snapshot.rootAuthorDeviceId.text
  have field (tag : Nat) (text : String) :
      (textBytes text).length ≤ encodedLength (textField tag text) := by
    by_cases empty : textBytes text = []
    · rw [empty]
      exact Nat.zero_le _
    · rw [textField, bytesField, if_neg empty]
      simp only [encodedLength, List.map_cons, List.map_nil, List.sum_cons, List.sum_nil,
        Field.encodedLength, Payload.encodedLength]
      omega
  have eventField := field 3 snapshot.rootEventId.text
  have deviceField := field 4 snapshot.rootAuthorDeviceId.text
  simp only [TrustSnapshot.encodedLen, WireTrustSnapshot.fields, encodeTrustSnapshotInner,
    encodedLength, List.map_append, List.sum_append] at eventField deviceField ⊢
  omega

/-- A snapshot that passes verification names its root by two hashes of 64 digits. -/
theorem encodedLen_of_verified
    {primitives : Primitives}
    (digests : ∀ bytes, (primitives.blake3Hex bytes).toList.length = 64)
    {snapshot : SignedTrustSnapshot}
    (verified : verifySelfContainedTrustSnapshot primitives snapshot = .ok ()) :
    123 < snapshot.snapshot.encodedLen := by
  simp only [verifySelfContainedTrustSnapshot, validateTrustSnapshotRoot,
    verifySelfContainedEvent, bind_eq_ok_iff, ensure_eq_ok_iff] at verified
  obtain ⟨_, ⟨_, ⟨_, -, _, -, _, -, _, -, _, eventNamed, -⟩, -, sameEvent, -, -, -⟩, _, -, _, -, _,
    -, _, signer, -⟩ := verified
  have bounded := length_le_encodedLen snapshot.snapshot
  rw [← sameEvent, ← eventNamed, ← signer] at bounded
  simp only [SignedEvent.fromAuthorSignature, DeviceId.fromPublicKeyBytes, String.toList_append,
    List.length_append, digests] at bounded
  omega

/-! ## Two snapshots of a workspace -/

/-- The bytes of the creation of a workspace. -/
def creationToVec (body : WireEventBody) : List UInt8 :=
  match body.kind with
  | some (.workspaceCreated creation) =>
      encode [⟨1, .bytes (encode (textField 1 creation.name))⟩]
  | _ => []

/-- A reader of the message of one snapshot. -/
def readSnapshot (snapshot : SignedTrustSnapshot) (bytes : List UInt8) :
    Option WireSignedTrustSnapshot :=
  if bytes = encodeTrustSnapshot creationToVec snapshot then
    some (encodeTrustSnapshotEnvelope snapshot)
  else
    none

/-- A snapshot of the signed workspace that names some device as the owner. -/
def homeSnapshot (owner : String) : SignedTrustSnapshot where
  snapshot :=
    { schemaVersion := 1
      workspaceId := ⟨"w"⟩
      rootEventId := ⟨"evt_" ++ homeEventHash⟩
      rootAuthorDeviceId := ⟨owner⟩
      roles := []
      channels := []
      messages := []
      eventChannels := []
      personDeviceLinks := [] }
  rootEvent := signedHome
  authorPublicKey := homeKey
  signature := homeSignature

/-- A device ID with a shorter hash. -/
def shortDeviceId : String :=
  "dev_6c31041268f471609c79" ++ "f5f2dbcc38e4a4ab2f4d41"

theorem decode_encodeTrustSnapshot_iff_home :
    (decodeTrustSnapshot homePrimitives (fun _ => none) (fun _ => none)
          (readSnapshot (homeSnapshot ("dev_" ++ homeDeviceHash)))
          (encodeTrustSnapshot creationToVec (homeSnapshot ("dev_" ++ homeDeviceHash))) =
        .ok (homeSnapshot ("dev_" ++ homeDeviceHash)) ↔
      (homeSnapshot ("dev_" ++ homeDeviceHash)).snapshot.encodedLen ≠ 123) ∧
    (looksLikeJson
          (encodeTrustSnapshot creationToVec (homeSnapshot ("dev_" ++ homeDeviceHash))) = false ↔
      (homeSnapshot ("dev_" ++ homeDeviceHash)).snapshot.encodedLen ≠ 123) :=
  decode_encodeTrustSnapshot_iff homePrimitives (fun _ => none) (fun _ => none)
    (readSnapshot (homeSnapshot ("dev_" ++ homeDeviceHash))) creationToVec rfl
    (by decide +kernel) rfl (if_pos rfl) (fun _ _ => rfl)

theorem encodedLen_short : (homeSnapshot shortDeviceId).snapshot.encodedLen = 123 := by
  decide +kernel

/-- A snapshot of 123 bytes is handed to the JSON reader. -/
theorem decode_encodeTrustSnapshot_short :
    (homeSnapshot shortDeviceId).rootEvent.event.schemaVersion = 1 ∧
      (homeSnapshot shortDeviceId).rootEvent.eventId =
        (SignedEvent.fromAuthorSignature homePrimitives signedHome.event homeKey
          homeSignature).eventId ∧
      CreatesWorkspace (homeSnapshot shortDeviceId).rootEvent ∧
      looksLikeJson (encodeTrustSnapshot creationToVec (homeSnapshot shortDeviceId)) = true ∧
      decodeTrustSnapshot homePrimitives (fun _ => none) (fun _ => none)
          (readSnapshot (homeSnapshot shortDeviceId))
          (encodeTrustSnapshot creationToVec (homeSnapshot shortDeviceId)) =
        .error .trustSnapshot := by
  have isJson :
      looksLikeJson (encodeTrustSnapshot creationToVec (homeSnapshot shortDeviceId)) = true :=
    (looksLikeJson_encodeTrustSnapshot_iff creationToVec _).mpr encodedLen_short
  refine ⟨rfl, by decide +kernel, rfl, isJson, ?_⟩
  rw [decodeTrustSnapshot, if_pos isJson]
  rfl

end Chaft
