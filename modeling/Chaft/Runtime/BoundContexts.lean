import Chaft.Library.TextParts
import Chaft.Library.Utf8
import Chaft.Runtime.BodyDecryption

/-!
# What a sealed payload is bound to

The place of a message or an attachment is authenticated with its content, and a key ring
names its keys after its scope.  Both are texts in which colons join the IDs, and an ID can
hold colons itself.  Two places share their text exactly when their IDs have the same parts
between colons, distributed in different ways.
-/

namespace Chaft

open Outcome Text

/-! ## Sealing and opening -/

section Sealing

variable (aead : Aead) (nonce : List UInt8) (keyId : String) (key : ContentKey)
  (workspaceId : WorkspaceId) (channelId : ChannelId) (messageId : MessageId)

def sealMessageMarkdown (markdown : String) : Except CryptoError SealedPayload :=
  sealAes256GcmSiv aead nonce keyId key markdown.toUTF8.toList
    (messageMarkdownAad workspaceId channelId messageId)

def attachmentBlobAad (attachmentIndex : UInt32) : List UInt8 :=
  ("chaft:v1:attachment_blob:" ++ workspaceId.text ++ ":" ++ channelId.text ++ ":" ++
    messageId.text ++ ":" ++ attachmentIndex.toNat.repr).toUTF8.toList

def sealAttachmentBlob (attachmentIndex : UInt32) (bytes : List UInt8) :
    Except CryptoError SealedPayload :=
  sealAes256GcmSiv aead nonce keyId key bytes
    (attachmentBlobAad workspaceId channelId messageId attachmentIndex)

def openAttachmentBlob (payload : SealedPayload) (attachmentIndex : UInt32) :
    Except CryptoError (List UInt8) :=
  openAes256GcmSivWithAad aead key payload
    (attachmentBlobAad workspaceId channelId messageId attachmentIndex)

end Sealing

/-- The text of a message, or one of its attachments. -/
structure SealedPlace where
  workspaceId : WorkspaceId
  channelId : ChannelId
  messageId : MessageId
  attachmentIndex : Option UInt32
  deriving DecidableEq

namespace SealedPlace

def associatedData (place : SealedPlace) : List UInt8 :=
  match place.attachmentIndex with
  | none => messageMarkdownAad place.workspaceId place.channelId place.messageId
  | some index => attachmentBlobAad place.workspaceId place.channelId place.messageId index

/-- Some content was sealed for the place. -/
def Seals
    (place : SealedPlace) (aead : Aead) (nonce : List UInt8) (keyId : String) (key : ContentKey)
    (payload : SealedPayload) : Prop :=
  match place.attachmentIndex with
  | none =>
      ∃ markdown,
        sealMessageMarkdown aead nonce keyId key place.workspaceId place.channelId
          place.messageId markdown = .ok payload
  | some index =>
      ∃ bytes,
        sealAttachmentBlob aead nonce keyId key place.workspaceId place.channelId
          place.messageId index bytes = .ok payload

def Rejects
    (place : SealedPlace) (aead : Aead) (key : ContentKey) (payload : SealedPayload) : Prop :=
  match place.attachmentIndex with
  | none =>
      ∃ error,
        openMessageMarkdown aead key payload place.workspaceId place.channelId
          place.messageId = .error error
  | some index =>
      ∃ error,
        openAttachmentBlob aead key place.workspaceId place.channelId place.messageId payload
          index = .error error

def ids (place : SealedPlace) : List (List Char) :=
  [place.workspaceId.text.toList, place.channelId.text.toList, place.messageId.text.toList]

/-- Places of one kind and index whose IDs have the same parts between colons, distributed
in different ways. -/
def Regroups (place other : SealedPlace) : Prop :=
  place.attachmentIndex = other.attachmentIndex ∧ Regrouped ':' place.ids other.ids

instance (place other : SealedPlace) : Decidable (place.Regroups other) :=
  inferInstanceAs (Decidable (_ ∧ _))

/-- The size limits are all that the checks of the three IDs ask. -/
def Valid (place : SealedPlace) : Prop :=
  validateWorkspaceIdStr place.workspaceId.text = .ok () ∧
    validateIdBytes "channel ID" place.channelId.text channelIdMaxBytes = .ok () ∧
      validateIdBytes "message ID" place.messageId.text messageIdMaxBytes = .ok ()

end SealedPlace

/-! ## Texts of places -/

theorem colon_not_mem_toDigits (number : Nat) : ':' ∉ Nat.toDigits 10 number := by
  intro member
  have isDigit := Nat.isDigit_of_mem_toDigits (by decide) (by decide) member
  exact absurd isDigit (by decide)

/-- Texts that end in a part of their own are the same if and only if both pieces are. -/
theorem intercalate_append_iff
    {left right ending otherEnding : List (List Char)} (leftNonempty : left ≠ [])
    (rightNonempty : right ≠ []) (sameLength : ending.length = otherEnding.length)
    (absent : ∀ part ∈ ending, ':' ∉ part) (otherAbsent : ∀ part ∈ otherEnding, ':' ∉ part) :
    [':'].intercalate (left ++ ending) = [':'].intercalate (right ++ otherEnding) ↔
      (partsOf ':' left).flatten = (partsOf ':' right).flatten ∧ ending = otherEnding := by
  have single : ∀ texts : List (List Char), (∀ part ∈ texts, ':' ∉ part) →
      (partsOf ':' texts).flatten = texts := by
    intro texts allAbsent
    have singles : partsOf ':' texts = texts.map fun text => [text] :=
      List.map_congr_left fun text member => List.splitOn_eq_singleton (allAbsent text member)
    rw [singles, ← List.flatMap_def, List.flatMap_singleton']
  have parts : ∀ texts others : List (List Char),
      (partsOf ':' (texts ++ others)).flatten =
        (partsOf ':' texts).flatten ++ (partsOf ':' others).flatten := by
    intro texts others
    rw [partsOf, List.map_append, List.flatten_append]
    rfl
  rw [intercalate_eq_iff ':' (by simp [leftNonempty]) (by simp [rightNonempty]), parts, parts,
    single ending absent, single otherEnding otherAbsent]
  constructor
  · intro same
    exact List.append_inj' same sameLength
  · intro sameBoth
    rw [sameBoth.1, sameBoth.2]

namespace SealedPlace

/-- The end of an attachment's text. -/
def ending (place : SealedPlace) : List (List Char) :=
  (place.attachmentIndex.map fun index => Nat.toDigits 10 index.toNat).toList

theorem ending_absent (place : SealedPlace) : ∀ part ∈ place.ending, ':' ∉ part := by
  intro part member
  rw [ending, Option.mem_toList, Option.map_eq_some_iff] at member
  obtain ⟨index, -, rfl⟩ := member
  exact colon_not_mem_toDigits index.toNat

def opening (place : SealedPlace) : List Char :=
  match place.attachmentIndex with
  | none => "chaft:v1:message_markdown:".toList
  | some _ => "chaft:v1:attachment_blob:".toList

/-- The text behind the associated data. -/
def text (place : SealedPlace) : List Char :=
  place.opening ++ [':'].intercalate (place.ids ++ place.ending)

theorem associatedData_eq (place : SealedPlace) :
    place.associatedData = (String.ofList place.text).toUTF8.toList := by
  have joined : ∀ (front : String) (back : List (List Char)),
      (front ++ place.workspaceId.text ++ ":" ++ place.channelId.text ++ ":" ++
          place.messageId.text).toList ++ back.flatMap (fun part => ':' :: part) =
        front.toList ++ [':'].intercalate (place.ids ++ back) := by
    intro front back
    have rest : ∀ (first : List Char) (back : List (List Char)),
        [':'].intercalate (first :: back) = first ++ back.flatMap (fun part => ':' :: part) := by
      intro first back
      induction back generalizing first with
      | nil => simp
      | cons next others inductionHypothesis =>
          rw [List.intercalate_cons_cons, inductionHypothesis, List.flatMap_cons]
          simp
    simp only [ids, List.cons_append, List.nil_append, rest, List.flatMap_cons,
      String.toList_append, List.append_assoc]
    rfl
  have sameText : ∀ written : String, written.toList = place.text →
      written.toUTF8.toList = (String.ofList place.text).toUTF8.toList := by
    intro written same
    rw [← same, String.ofList_toList]
  rw [associatedData]
  cases index : place.attachmentIndex with
  | none =>
      refine sameText _ ?_
      have whole := joined "chaft:v1:message_markdown:" []
      rw [List.flatMap_nil, List.append_nil] at whole
      rw [whole, text, opening, ending, index]
      rfl
  | some attachmentIndex =>
      refine sameText _ ?_
      have whole :=
        joined "chaft:v1:attachment_blob:" [Nat.toDigits 10 attachmentIndex.toNat]
      rw [text, opening, ending, index]
      refine Eq.trans ?_ whole
      rw [String.toList_append, String.toList_append, Nat.repr_eq_ofList_toDigits,
        String.toList_ofList]
      simp

/-- The text of an attachment is never that of a message. -/
theorem opening_differs (place other : SealedPlace)
    (isMessage : place.attachmentIndex = none) (isAttachment : other.attachmentIndex.isSome = true) :
    place.text ≠ other.text := by
  obtain ⟨index, isIndex⟩ := Option.isSome_iff_exists.mp isAttachment
  intro same
  have start := congrArg (List.take 10) same
  rw [text, text, opening, opening, isMessage, isIndex] at start
  dsimp only at start
  rw [List.take_append_of_le_length (by decide), List.take_append_of_le_length (by decide)]
    at start
  exact absurd start (by decide)

/-- Places have the same associated data if and only if they agree on the kind and the index
and their IDs have the same parts in all. -/
theorem associatedData_eq_iff (place other : SealedPlace) :
    place.associatedData = other.associatedData ↔
      place.attachmentIndex = other.attachmentIndex ∧
        (partsOf ':' place.ids).flatten = (partsOf ':' other.ids).flatten := by
  have asTexts :
      place.associatedData = other.associatedData ↔ place.text = other.text := by
    rw [associatedData_eq, associatedData_eq]
    constructor
    · intro same
      exact String.ofList_injective (Utf8.toUTF8_toList_injective same)
    · intro same
      rw [same]
  rw [asTexts]
  have sameKind :
      place.opening = other.opening → place.ending.length = other.ending.length →
        (place.text = other.text ↔
          (partsOf ':' place.ids).flatten = (partsOf ':' other.ids).flatten ∧
            place.ending = other.ending) := by
    intro sameOpening sameLength
    rw [text, text, sameOpening, List.append_right_inj,
      intercalate_append_iff (by simp [ids]) (by simp [ids]) sameLength place.ending_absent
        other.ending_absent]
  cases index : place.attachmentIndex with
  | none =>
      cases otherIndex : other.attachmentIndex with
      | none =>
          rw [sameKind (by rw [opening, opening, index, otherIndex])
            (by rw [ending, ending, index, otherIndex])]
          have noEndings : place.ending = other.ending := by
            rw [ending, ending, index, otherIndex]
          simp [noEndings]
      | some attachmentIndex =>
          have differs :=
            opening_differs place other index (by rw [otherIndex]; rfl)
          simp [differs]
  | some attachmentIndex =>
      cases otherIndex : other.attachmentIndex with
      | none =>
          have differs :=
            opening_differs other place otherIndex (by rw [index]; rfl)
          simp [differs.symm]
      | some otherAttachmentIndex =>
          rw [sameKind (by rw [opening, opening, index, otherIndex])
            (by rw [ending, ending, index, otherIndex]; rfl)]
          have endings :
              place.ending = other.ending ↔ attachmentIndex = otherAttachmentIndex := by
            rw [ending, ending, index, otherIndex]
            simp [toDigits_injective.eq_iff, UInt32.toNat_inj]
          rw [endings, Option.some.injEq, and_comm]

theorem ext_of_ids
    {place other : SealedPlace} (sameIndex : place.attachmentIndex = other.attachmentIndex)
    (sameIds : place.ids = other.ids) : place = other := by
  obtain ⟨⟨workspaceId⟩, ⟨channelId⟩, ⟨messageId⟩, index⟩ := place
  obtain ⟨⟨otherWorkspaceId⟩, ⟨otherChannelId⟩, ⟨otherMessageId⟩, otherIndex⟩ := other
  simp only [ids, List.cons.injEq, and_true, String.toList_inj] at sameIds
  simp only at sameIndex
  obtain ⟨rfl, rfl, rfl⟩ := sameIds
  rw [sameIndex]

/-- Two places share their associated data without being one place exactly where one regroups
the other. -/
theorem bound_iff (place other : SealedPlace) :
    (place.associatedData = other.associatedData → place = other) ↔ ¬place.Regroups other := by
  rw [associatedData_eq_iff]
  constructor
  · rintro bound ⟨sameIndex, sameParts, differ⟩
    exact differ (by rw [bound ⟨sameIndex, sameParts⟩])
  · rintro apart ⟨sameIndex, sameParts⟩
    apply ext_of_ids sameIndex
    apply partsOf_injective ':'
    by_contra differ
    exact apart ⟨sameIndex, sameParts, differ⟩

/-- A place whose IDs hold no colon shares its associated data with no other place. -/
theorem not_regroups_of_absent
    {place : SealedPlace} (absent : ∀ id ∈ place.ids, ':' ∉ id) (other : SealedPlace) :
    ¬place.Regroups other := by
  rintro ⟨-, regrouped⟩
  have sameCount : place.ids.length = other.ids.length := rfl
  exact not_regrouped_of_absent absent sameCount regrouped

end SealedPlace

/-! ## Payloads at other places -/

/-- What is encrypted with some data decrypts with no other data, whatever the key. -/
def Aead.Binds (aead : Aead) : Prop :=
  ∀ key openingKey nonce plaintext aad otherAad ciphertext,
    aead.encrypt key nonce plaintext aad = some ciphertext → otherAad ≠ aad →
      aead.decrypt openingKey nonce ciphertext otherAad = none

section Payloads

variable {aead : Aead} {nonce : List UInt8} {keyId : String} {key : ContentKey}
  {payload : SealedPayload} {place other : SealedPlace}

theorem sealAes256GcmSiv_eq_ok
    {plaintext aad : List UInt8}
    (isSealed : sealAes256GcmSiv aead nonce keyId key plaintext aad = .ok payload) :
    aead.encrypt key nonce plaintext aad = some payload.bytes ∧ payload.mode = .aes256GcmSiv ∧
      payload.nonce = nonce ∧ payload.aad = aad := by
  simp only [sealAes256GcmSiv, bind_eq_ok_iff, okOr_eq_ok_iff, Except.ok.injEq] at isSealed
  obtain ⟨bytes, encrypted, rfl⟩ := isSealed
  exact ⟨encrypted, rfl, rfl, rfl⟩

/-- A payload does not open with other data, even where its own note of the data is
replaced. -/
theorem openWithAad_rejects
    (binds : aead.Binds) {plaintext aad otherAad : List UInt8}
    (isSealed : sealAes256GcmSiv aead nonce keyId key plaintext aad = .ok payload)
    (differ : otherAad ≠ aad) (openingKey : ContentKey) (noted : List UInt8) :
    ∃ error,
      openAes256GcmSivWithAad aead openingKey { payload with aad := noted } otherAad =
        .error error := by
  obtain ⟨encrypted, -, sameNonce, -⟩ := sealAes256GcmSiv_eq_ok isSealed
  have closed := binds key openingKey nonce plaintext aad otherAad payload.bytes encrypted differ
  cases opened :
      openAes256GcmSivWithAad aead openingKey { payload with aad := noted } otherAad with
  | error raised => exact ⟨raised, rfl⟩
  | ok plain =>
      simp only [openAes256GcmSivWithAad, bind_eq_ok_iff, okOr_eq_ok_iff, sameNonce, closed]
        at opened
      obtain ⟨-, -, -, -, -, -, impossible⟩ := opened
      cases impossible

theorem SealedPlace.rejects_of_differ
    (binds : aead.Binds) (isSealed : place.Seals aead nonce keyId key payload)
    (differ : other.associatedData ≠ place.associatedData) (openingKey : ContentKey)
    (noted : List UInt8) : other.Rejects aead openingKey { payload with aad := noted } := by
  obtain ⟨plaintext, sealedPlain⟩ :
      ∃ plaintext,
        sealAes256GcmSiv aead nonce keyId key plaintext place.associatedData = .ok payload := by
    rw [Seals] at isSealed
    rw [associatedData]
    split at isSealed
    · obtain ⟨markdown, isSealed⟩ := isSealed
      exact ⟨_, isSealed⟩
    · obtain ⟨bytes, isSealed⟩ := isSealed
      exact ⟨_, isSealed⟩
  obtain ⟨raised, rejected⟩ := openWithAad_rejects binds sealedPlain differ openingKey noted
  rw [associatedData] at rejected
  rw [Rejects]
  split
  · rename_i isMessage
    rw [isMessage] at rejected
    exact ⟨raised, by rw [openMessageMarkdown, rejected]; rfl⟩
  · rename_i index isAttachment
    rw [isAttachment] at rejected
    exact ⟨raised, rejected⟩

/-- A place with the same kind and data opens what was sealed for the other. -/
theorem SealedPlace.opens_of_same
    (decrypts : aead.Decrypts) (nonceLength : nonce.length = aes256GcmSivNonceLen)
    (isSealed : place.Seals aead nonce keyId key payload)
    (sameIndex : place.attachmentIndex = other.attachmentIndex)
    (same : place.associatedData = other.associatedData) :
    ¬other.Rejects aead key payload := by
  have opens : ∀ plaintext,
      sealAes256GcmSiv aead nonce keyId key plaintext place.associatedData = .ok payload →
        openAes256GcmSivWithAad aead key payload other.associatedData = .ok plaintext := by
    intro plaintext isSealed
    obtain ⟨sameAad, opened⟩ := open_of_seal decrypts nonceLength isSealed
    rw [← same, ← sameAad]
    exact opened
  rw [associatedData] at opens
  rw [Seals] at isSealed
  rw [Rejects]
  cases index : place.attachmentIndex with
  | none =>
      have otherIndex := sameIndex.symm.trans index
      rw [associatedData, otherIndex, index] at opens
      rw [index] at isSealed
      obtain ⟨markdown, isSealed⟩ := isSealed
      rw [otherIndex]
      rintro ⟨raised, rejected⟩
      rw [openMessageMarkdown, opens _ isSealed] at rejected
      simp only [bind, Except.bind, Utf8.fromUTF8?_toUTF8, okOr] at rejected
      cases rejected
  | some attachmentIndex =>
      have otherIndex := sameIndex.symm.trans index
      rw [associatedData, otherIndex, index] at opens
      rw [index] at isSealed
      obtain ⟨bytes, isSealed⟩ := isSealed
      rw [otherIndex]
      rintro ⟨raised, rejected⟩
      rw [openAttachmentBlob, opens _ isSealed] at rejected
      cases rejected

end Payloads

/-! ## Names of keys -/

namespace KeyScope

def ids (scope : KeyScope) : List (List Char) :=
  scope.workspaceId.text.toList :: (scope.channelId.map fun id => id.text.toList).toList

/-- Scopes whose IDs have the same parts between colons, distributed in different ways. -/
def Regroups (scope other : KeyScope) : Prop :=
  Regrouped ':' scope.ids other.ids

instance (scope other : KeyScope) : Decidable (scope.Regroups other) :=
  inferInstanceAs (Decidable (Regrouped ..))

def epochParts (epoch : UInt64) : List (List Char) :=
  ["content".toList, 'v' :: Nat.toDigits 10 epoch.toNat]

theorem epochParts_absent (epoch : UInt64) : ∀ part ∈ epochParts epoch, ':' ∉ part := by
  intro part member
  rw [epochParts, List.mem_cons, List.mem_singleton] at member
  rcases member with rfl | rfl
  · decide
  · rw [List.mem_cons, not_or]
    exact ⟨by decide, colon_not_mem_toDigits epoch.toNat⟩

theorem epochParts_injective : Function.Injective epochParts := by
  intro epoch other same
  simp only [epochParts, List.cons.injEq, and_true, true_and] at same
  exact UInt64.toNat_inj.mp (toDigits_injective same)

theorem keyIdForEpoch_toList (scope : KeyScope) (epoch : UInt64) :
    (scope.keyIdForEpoch epoch).toList =
      [':'].intercalate (scope.ids ++ epochParts epoch) := by
  have split : (":content:v" : String).toList = ':' :: ("content".toList ++ [':', 'v']) := by
    decide
  cases scope with
  | workspace workspaceId =>
      rw [keyIdForEpoch, WorkspaceKey.keyIdForEpoch, String.toList_append, String.toList_append,
        split, Nat.repr_eq_ofList_toDigits, String.toList_ofList]
      simp [ids, epochParts, KeyScope.workspaceId, KeyScope.channelId]
  | channel workspaceId channelId =>
      rw [keyIdForEpoch, ChannelKey.keyIdForEpoch, String.toList_append, String.toList_append,
        String.toList_append, String.toList_append, split, Nat.repr_eq_ofList_toDigits,
        String.toList_ofList]
      simp [ids, epochParts, KeyScope.workspaceId, KeyScope.channelId]

/-- Two rings name a key alike if and only if the epochs are the same and the IDs of their
scopes have the same parts in all. -/
theorem keyIdForEpoch_eq_iff (scope other : KeyScope) (epoch otherEpoch : UInt64) :
    scope.keyIdForEpoch epoch = other.keyIdForEpoch otherEpoch ↔
      (partsOf ':' scope.ids).flatten = (partsOf ':' other.ids).flatten ∧ epoch = otherEpoch := by
  have nonempty : ∀ scope : KeyScope, scope.ids ≠ [] := fun _ => List.cons_ne_nil _ _
  have sameLength : (epochParts epoch).length = (epochParts otherEpoch).length := rfl
  rw [← String.toList_inj, keyIdForEpoch_toList, keyIdForEpoch_toList,
    intercalate_append_iff (nonempty scope) (nonempty other) sameLength
      (epochParts_absent epoch) (epochParts_absent otherEpoch),
    epochParts_injective.eq_iff]

theorem ids_injective : Function.Injective ids := by
  intro scope other same
  cases scope <;> cases other <;>
    simp_all [ids, KeyScope.workspaceId, KeyScope.channelId, String.toList_inj,
      Identifier.text_injective.eq_iff]

/-- Rings of two scopes never name a key alike exactly where neither scope regroups the
other. -/
theorem named_iff (scope other : KeyScope) :
    ((∃ epoch otherEpoch,
        scope.keyIdForEpoch epoch = other.keyIdForEpoch otherEpoch) → scope = other) ↔
      ¬scope.Regroups other := by
  constructor
  · rintro named ⟨sameParts, differ⟩
    have alike := (keyIdForEpoch_eq_iff scope other 1 1).mpr ⟨sameParts, rfl⟩
    exact differ (by rw [named ⟨1, 1, alike⟩])
  · rintro apart ⟨epoch, otherEpoch, alike⟩
    obtain ⟨sameParts, -⟩ := (keyIdForEpoch_eq_iff scope other epoch otherEpoch).mp alike
    apply ids_injective
    apply partsOf_injective ':'
    by_contra differ
    exact apart ⟨sameParts, differ⟩

end KeyScope

/-- Associated data, sealed payloads and key IDs belong to one place or scope alone, except
between those whose IDs have the same parts between colons distributed in different ways. -/
theorem sealedContexts_bound_iff
    (place other : SealedPlace) (scope otherScope : KeyScope) :
    ((place.associatedData = other.associatedData → place = other) ↔ ¬place.Regroups other) ∧
      (∀ aead : Aead, aead.Decrypts → aead.Binds →
        ∀ (nonce : List UInt8) (keyId : String) (key : ContentKey) (payload : SealedPayload),
          other ≠ place → nonce.length = aes256GcmSivNonceLen →
            place.Seals aead nonce keyId key payload →
              ((∀ (openingKey : ContentKey) (noted : List UInt8),
                  other.Rejects aead openingKey { payload with aad := noted }) ↔
                ¬place.Regroups other)) ∧
        (((∃ epoch otherEpoch,
              scope.keyIdForEpoch epoch = otherScope.keyIdForEpoch otherEpoch) →
            scope = otherScope) ↔
          ¬scope.Regroups otherScope) := by
  refine ⟨SealedPlace.bound_iff place other, ?_, KeyScope.named_iff scope otherScope⟩
  intro aead decrypts binds nonce keyId key payload apart nonceLength isSealed
  constructor
  · rintro rejects ⟨sameIndex, sameParts, -⟩
    have same := (SealedPlace.associatedData_eq_iff place other).mpr ⟨sameIndex, sameParts⟩
    exact SealedPlace.opens_of_same decrypts nonceLength isSealed sameIndex same
      (rejects key payload.aad)
  · intro distinct openingKey noted
    apply SealedPlace.rejects_of_differ binds isSealed
    intro same
    exact apart ((SealedPlace.bound_iff place other).mpr distinct same.symm).symm

/-! ## An ID with a colon -/

/-- Bytes with a mark before each, so that a zero ends them. -/
def markedBytes (bytes : List UInt8) : List UInt8 :=
  bytes.flatMap fun byte => [1, byte]

theorem markedBytes_append_inj
    {left right : List UInt8} {rest otherRest : List UInt8}
    (same : markedBytes left ++ 0 :: rest = markedBytes right ++ 0 :: otherRest) :
    left = right ∧ rest = otherRest := by
  induction left generalizing right with
  | nil =>
      cases right with
      | nil => simpa [markedBytes] using same
      | cons byte others => simp [markedBytes] at same
  | cons byte others inductionHypothesis =>
      cases right with
      | nil => simp [markedBytes] at same
      | cons otherByte otherOthers =>
          simp only [markedBytes, List.flatMap_cons, List.cons_append, List.nil_append,
            List.cons.injEq, true_and] at same
          obtain ⟨sameByte, same⟩ := same
          obtain ⟨sameOthers, sameRest⟩ := inductionHypothesis same
          exact ⟨by rw [sameByte, sameOthers], sameRest⟩

/-- A cipher that notes in clear text what a ciphertext belongs to. -/
def clearCipher : Aead where
  encrypt key nonce plaintext aad :=
    some (markedBytes (key.bytes ++ nonce ++ aad) ++ 0 :: plaintext)
  decrypt key nonce ciphertext aad :=
    let front := markedBytes (key.bytes ++ nonce ++ aad) ++ [0]
    if front.isPrefixOf ciphertext then some (ciphertext.drop front.length) else none

theorem clearCipher_decrypts : clearCipher.Decrypts := by
  intro key nonce plaintext aad ciphertext encrypted
  cases encrypted
  have split :
      markedBytes (key.bytes ++ nonce ++ aad) ++ 0 :: plaintext =
        (markedBytes (key.bytes ++ nonce ++ aad) ++ [0]) ++ plaintext := by
    simp
  have begins :
      (markedBytes (key.bytes ++ nonce ++ aad) ++ [0]).isPrefixOf
        (markedBytes (key.bytes ++ nonce ++ aad) ++ 0 :: plaintext) = true := by
    rw [List.isPrefixOf_iff_prefix, split]
    exact List.prefix_append _ _
  simp only [clearCipher]
  rw [if_pos begins, split, List.drop_left]

theorem clearCipher_binds : clearCipher.Binds := by
  intro key openingKey nonce plaintext aad otherAad ciphertext encrypted differ
  cases encrypted
  simp only [clearCipher]
  rw [if_neg]
  rw [List.isPrefixOf_iff_prefix]
  rintro ⟨rest, same⟩
  rw [List.append_assoc, List.singleton_append] at same
  obtain ⟨sameFront, -⟩ := markedBytes_append_inj same
  rw [List.append_assoc, List.append_assoc] at sameFront
  have sameLength : openingKey.bytes.length = key.bytes.length := by
    rw [openingKey.length_eq, key.length_eq]
  exact differ (List.append_cancel_left (List.append_inj sameFront sameLength).2)

/-- The key whose bytes are all zero. -/
def zeroKey : ContentKey where
  bytes := List.replicate 32 0
  length_eq := rfl

def plainPlace : SealedPlace := ⟨⟨"wrk_1"⟩, ⟨"chn_1"⟩, ⟨"msg_1"⟩, none⟩

def otherPlace : SealedPlace := ⟨⟨"wrk_1"⟩, ⟨"chn_2"⟩, ⟨"msg_1"⟩, none⟩

/-- A message of one channel does not open in another channel. -/
theorem sealedContexts_bound_plain :
    ∃ payload,
      plainPlace.Seals clearCipher (List.replicate 12 0) "wrk_1:content:v1" zeroKey payload ∧
        ∀ (openingKey : ContentKey) (noted : List UInt8),
          otherPlace.Rejects clearCipher openingKey { payload with aad := noted } := by
  have isSealed :
      plainPlace.Seals clearCipher (List.replicate 12 0) "wrk_1:content:v1" zeroKey
        { mode := .aes256GcmSiv
          keyId := "wrk_1:content:v1"
          nonce := List.replicate 12 0
          aad := messageMarkdownAad ⟨"wrk_1"⟩ ⟨"chn_1"⟩ ⟨"msg_1"⟩
          bytes :=
            markedBytes (zeroKey.bytes ++ List.replicate 12 0 ++
                messageMarkdownAad ⟨"wrk_1"⟩ ⟨"chn_1"⟩ ⟨"msg_1"⟩) ++
              0 :: ("hello" : String).toUTF8.toList } :=
    ⟨"hello", rfl⟩
  exact ⟨_, isSealed,
    ((sealedContexts_bound_iff plainPlace otherPlace (.workspace ⟨"wrk_1"⟩)
      (.workspace ⟨"wrk_1"⟩)).2.1 clearCipher clearCipher_decrypts clearCipher_binds
        _ _ zeroKey _ (by decide) List.length_replicate isSealed).mpr (by decide)⟩

/-- A channel ID with a colon, and a workspace ID with it, share everything. -/
theorem not_sealedContexts_bound :
    (¬ ∀ place other : SealedPlace, place.Valid → other.Valid →
        place.associatedData = other.associatedData → place = other) ∧
      ¬ ∀ scope other : KeyScope, scope ≠ other →
        ∀ epoch otherEpoch, scope.keyIdForEpoch epoch ≠ other.keyIdForEpoch otherEpoch := by
  constructor
  · intro bound
    have same := bound ⟨⟨"a"⟩, ⟨"b:c"⟩, ⟨"d"⟩, none⟩ ⟨⟨"a:b"⟩, ⟨"c"⟩, ⟨"d"⟩, none⟩
      ⟨by decide +kernel, by decide +kernel, by decide +kernel⟩
      ⟨by decide +kernel, by decide +kernel, by decide +kernel⟩ (by decide +kernel)
    exact absurd same (by decide)
  · intro named
    exact named (.workspace ⟨"a:b"⟩) (.channel ⟨"a"⟩ ⟨"b"⟩) (by decide) 1 1 (by decide +kernel)

end Chaft
