import Chaft.Library.Containers

/-!
# Identifiers and limits

Every identifier of the domain wraps one string.  The source declares seven
separate newtypes with the same derived comparisons; they are one structure
here, indexed by what the identifier names, so that an event ID can never be
used where a channel ID is meant.
-/

namespace Chaft

open Keyed

/-- What an identifier names. -/
inductive IdentifierKind where
  | event
  | workspace
  | channel
  | message
  | deviceKeyPackage
  | device
  | person
  deriving DecidableEq, Repr

/-- A string identifier of one kind. -/
structure Identifier (kind : IdentifierKind) where
  text : String
  deriving DecidableEq, Repr

abbrev EventId := Identifier .event
abbrev WorkspaceId := Identifier .workspace
abbrev ChannelId := Identifier .channel
abbrev MessageId := Identifier .message
abbrev DeviceKeyPackageId := Identifier .deviceKeyPackage
abbrev DeviceId := Identifier .device
abbrev PersonId := Identifier .person

namespace Identifier

variable {kind : IdentifierKind}

/-- Identifiers are ordered as their texts are. -/
instance : Ord (Identifier kind) :=
  ⟨fun left right => compare left.text right.text⟩

theorem text_injective : Function.Injective (@Identifier.text kind) := by
  intro left right same
  cases left
  cases right
  exact congrArg Identifier.mk same

instance : Std.TransOrd (Identifier kind) :=
  transOrd_of_projection Identifier.text (fun _ _ => rfl)

instance : Std.LawfulEqOrd (Identifier kind) :=
  lawfulEqOrd_of_projection Identifier.text text_injective (fun _ _ => rfl)

/-- The order behind `left.0.cmp(&right.0)`, by which the source sorts. -/
def le (left right : Identifier kind) : Prop :=
  (compare left right).isLE = true

instance : DecidableRel (@le kind) :=
  fun left right => inferInstanceAs (Decidable ((compare left right).isLE = true))

instance : IsTrans (Identifier kind) le :=
  ⟨fun _ _ _ first second => Std.TransOrd.isLE_trans first second⟩

instance : Std.Total (@le kind) where
  total left right := by
    unfold le
    rw [Std.OrientedOrd.eq_swap (a := right) (b := left)]
    cases compare left right <;> simp

theorem le_antisymmetric
    (left right : Identifier kind)
    (forward : le left right) (backward : le right left) :
    left = right := by
  unfold le at forward backward
  rw [Std.OrientedOrd.eq_swap (a := right) (b := left)] at backward
  apply Std.LawfulEqOrd.eq_of_compare
  cases order : compare left right with
  | lt => simp [order] at backward
  | eq => rfl
  | gt => simp [order] at forward

instance : LawfulBEq DeviceId := inferInstance

instance : LawfulBEq EventId := inferInstance

end Identifier

/-! ## Texts

Errors show identifiers as `{:?}` does: under the name of their type and with their
text in quotes.  How a text is quoted depends on tables of the standard library. -/

def IdentifierKind.typeName : IdentifierKind → String
  | event => "EventId"
  | workspace => "WorkspaceId"
  | channel => "ChannelId"
  | message => "MessageId"
  | deviceKeyPackage => "DeviceKeyPackageId"
  | device => "DeviceId"
  | person => "PersonId"

def Identifier.debug
    {kind : IdentifierKind} (debugText : String → String) (identifier : Identifier kind) :
    String :=
  kind.typeName ++ "(" ++ debugText identifier.text ++ ")"

/-! ## Limits -/

def workspaceIdMaxBytes : Nat := 128
def channelIdMaxBytes : Nat := 128
def messageIdMaxBytes : Nat := 128
def deviceKeyPackageIdMaxBytes : Nat := 128
def eventIdMaxBytes : Nat := 68
def deviceIdMaxBytes : Nat := 512
def eventAuthorPublicKeyMaxBytes : Nat := 32
def eventSignatureMaxBytes : Nat := 64
def workspaceNameMaxBytes : Nat := 128
def channelNameMaxBytes : Nat := 128
def channelTopicMaxBytes : Nat := 512
def deviceDisplayNameMaxBytes : Nat := 128
def avatarIdMaxBytes : Nat := 64
def relayAvatarGroupCount : Nat := 16
def relayAvatarPatternCount : Nat := 8
def relayAvatarColorCount : Nat := 12
def personIdMaxBytes : Nat := 128
def workspaceInviteIdMaxBytes : Nat := 128
def workspaceInviteLabelMaxBytes : Nat := 128
def workspaceInviteExpiresAtMaxBytes : Nat := 64
def workspaceInviteApprovalPolicyMaxBytes : Nat := 32
def workspaceInviteSyncExpectationMaxBytes : Nat := 64
def workspaceInviteCapabilityPublicKeyMaxBytes : Nat := 64
def workspaceInviteMaxClaims : UInt32 := 100
def workspaceAccessPolicyMaxBytes : Nat := 32
def workspaceJoinRequestIdMaxBytes : Nat := 128
def workspaceJoinRequestNoteMaxBytes : Nat := 512
def deviceKeyPackageProtocolMaxBytes : Nat := 128
def peerEndpointIdMaxBytes : Nat := 2304
def peerEndpointMaxBytes : Nat := 2048
def peerEndpointTransportMaxBytes : Nat := 64
def replicaRetentionHintMaxBytes : Nat := 128
def irohEndpointIdHexBytes : Nat := 64
def irohEndpointIdBase32Bytes : Nat := 52
def reactionTextMaxBytes : Nat := 64
def contentKeyIdMaxBytes : Nat := 512
def contentKeyAlgorithmMaxBytes : Nat := 128
def messageMarkdownMaxBytes : Nat := 64 * 1024
def sealedMessageMarkdownMaxBytes : Nat := messageMarkdownMaxBytes + 16
def sealedPayloadKeyIdMaxBytes : Nat := contentKeyIdMaxBytes
def sealedPayloadNonceMaxBytes : Nat := 12
def sealedPayloadAadMaxBytes : Nat := 512
def messageAttachmentMaxCount : Nat := 16
def attachmentBlobHashMaxBytes : Nat := 128
def attachmentMediaTypeMaxBytes : Nat := 128
def attachmentDisplayNameMaxBytes : Nat := 256
def attachmentIdMaxBytes : Nat := 256
def attachmentKeyIdMaxBytes : Nat := 512
def attachmentPlaintextMaxBytes : UInt64 := 128 * 1024 * 1024
def attachmentCiphertextMaxBytes : UInt64 := attachmentPlaintextMaxBytes + 16
def openmlsKeyPackageMaxBytes : Nat := 64 * 1024
def openmlsPrivateKeyPackageBundleMaxBytes : Nat := 512 * 1024
def openmlsPrivateGroupStateMaxBytes : Nat := 4 * 1024 * 1024
def openmlsWelcomeMaxBytes : Nat := 1024 * 1024
def openmlsCommitMaxBytes : Nat := 1024 * 1024
def openmlsRatchetTreeMaxBytes : Nat := 4 * 1024 * 1024
def openmlsProtocolMaxBytes : Nat := 128
def openmlsCiphersuiteMaxBytes : Nat := 128
def openmlsGroupIdMaxBytes : Nat := 512
def openmlsKeyPackageRefMaxBytes : Nat := 256

/-! ## Sizes of texts -/

structure IdValidationError where
  field : String
  actualBytes : Nat
  maxBytes : Nat
  deriving DecidableEq, Repr

def IdValidationError.message (error : IdValidationError) : String :=
  error.field ++ " is too large (" ++ error.actualBytes.repr ++ " bytes, max " ++
    error.maxBytes.repr ++ ")"

def validateIdBytes (field value : String) (maxBytes : Nat) : Except IdValidationError Unit :=
  if maxBytes < value.utf8ByteSize then
    .error { field := field, actualBytes := value.utf8ByteSize, maxBytes := maxBytes }
  else
    .ok ()

def validateWorkspaceIdStr (value : String) : Except IdValidationError Unit :=
  validateIdBytes "workspace ID" value workspaceIdMaxBytes

end Chaft
