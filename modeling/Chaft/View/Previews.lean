import Chaft.Core.WorkspaceState
import Chaft.Core.ApplyBatch
import Chaft.Library.Text

/-!
# Previews

What a reader is shown of a message without opening its timeline row: one line of its
body, under the name and avatar of its author.  Bodies that this device has decrypted
stand in the overrides, under the ID of the event that created the message.
-/

namespace Chaft

open Keyed

/-- `body_overrides_by_event_id`. -/
abbrev BodyOverrides := HashMap String String

/-- `events_by_id`; a later event takes the place of an earlier one with its ID. -/
def eventsById (events : List SignedEvent) : HashMap EventId SignedEvent :=
  tableOf SignedEvent.eventId id ∅ events

theorem getElem?_eventsById
    {events : List SignedEvent} (distinct : (events.map SignedEvent.eventId).Nodup)
    {event : SignedEvent} (member : event ∈ events) :
    (eventsById events)[event.eventId]? = some event :=
  getElem?_tableOf_of_mem (List.pairwise_map.mp distinct) member ∅

structure ReplyPreviewSnapshot where
  messageId : String
  authorDeviceId : String
  authorDisplayName : Option String
  authorAvatarId : String
  body : String
  deleted : Bool
  deriving DecidableEq

structure ChannelActivitySnapshot where
  eventId : String
  messageId : Option String
  authorDeviceId : String
  authorDisplayName : Option String
  authorAvatarId : String
  physicalMs : Int64
  preview : String
  deriving DecidableEq

def maxPreviewChars : Nat := 96

/-- `split_whitespace`: the runs of other characters between white space. -/
def splitWhitespace (text : List Char) : List (List Char) :=
  (text.splitOnP Text.isWhiteSpace).filter fun run => !run.isEmpty

def compactPreview (value : String) : String :=
  let compact := [' '].intercalate (splitWhitespace value.toList)
  if compact.length ≤ maxPreviewChars then
    String.ofList compact
  else
    String.ofList (compact.take (maxPreviewChars - 3)) ++ "..."

def isBlank (text : String) : Bool :=
  (Text.trim text.toList).isEmpty

def messageActivityPreview
    (message : MessageView) (eventId : EventId) (bodyOverrides : BodyOverrides) : String :=
  if message.deleted then
    "Message deleted"
  else
    match bodyOverrides[eventId.text]?.or bodyOverrides[message.authorEventId.text]? with
    | some body => compactPreview body
    | none =>
        if message.sealedMarkdown.isSome then
          "Encrypted message"
        else if !isBlank message.markdown then
          compactPreview message.markdown
        else
          match message.attachments with
          | [] => "Message"
          | [attachment] => "Attachment: " ++ compactPreview attachment.displayName
          | attachments => toString attachments.length ++ " attachments"

/-- The trimmed ID of an avatar that is not blank. -/
def chosenAvatarId (avatarId : String) : Option String :=
  let trimmed := Text.trim avatarId.toList
  if trimmed.isEmpty then none else some (String.ofList trimmed)

namespace WorkspaceState

/-- The avatar of the person a device is linked to goes before its own. -/
def profileAvatarId (state : WorkspaceState) (deviceId : DeviceId) : String :=
  let ofPerson :=
    (state.personDeviceLinks[deviceId]?.bind fun link =>
      state.personProfiles[link.personId]?).bind fun profile => chosenAvatarId profile.avatarId
  let ofDevice := state.profiles[deviceId]?.bind fun profile => chosenAvatarId profile.avatarId
  (ofPerson.or ofDevice).getD ""

def authorDisplayName (state : WorkspaceState) (deviceId : DeviceId) : Option String :=
  state.profiles[deviceId]?.map DeviceProfileView.displayName

/-- Without a reader, everything is shown. -/
def shownTo
    (state : WorkspaceState) (readerDeviceId : Option DeviceId) (channelId : ChannelId) : Bool :=
  readerDeviceId.all fun deviceId => state.channelAccessibleTo channelId deviceId

def replyPreviewSnapshot
    (state : WorkspaceState) (message : MessageView) (event : SignedEvent)
    (bodyOverrides : BodyOverrides) : ReplyPreviewSnapshot where
  messageId := message.messageId.text
  authorDeviceId := event.event.authorDeviceId.text
  authorDisplayName := state.authorDisplayName event.event.authorDeviceId
  authorAvatarId := state.profileAvatarId event.event.authorDeviceId
  body := messageActivityPreview message event.eventId bodyOverrides
  deleted := message.deleted

def replyPreviewForMessage
    (state : WorkspaceState) (eventsById : HashMap EventId SignedEvent) (message : MessageView)
    (bodyOverrides : BodyOverrides) : Option ReplyPreviewSnapshot := do
  let replyToMessageId ← message.replyToMessageId
  let replyTo ← state.messages[replyToMessageId]?
  let replyEvent ← eventsById[replyTo.authorEventId]?
  some (state.replyPreviewSnapshot replyTo replyEvent bodyOverrides)

end WorkspaceState

end Chaft
