import Chaft.Runtime.BodyDecryption

/-!
# Rebuilding the search index

A rebuild deletes the rows of the workspace and then indexes the readable messages one by
one.  What fails in between leaves the index as far as it was rebuilt.
-/

namespace Chaft

open Keyed Outcome

/-! ## The index -/

structure SearchRow where
  eventId : EventId
  messageId : MessageId
  workspaceId : WorkspaceId
  channelId : ChannelId
  physicalMs : Int64
  markdown : String
  deriving DecidableEq

/-- The table `messages_fts`. -/
abbrev SearchIndex := List SearchRow

namespace SearchIndex

def indexMessage (index : SearchIndex) (row : SearchRow) : SearchIndex :=
  List.filter (fun other => decide (other.eventId ≠ row.eventId)) index ++ [row]

def clearWorkspace (index : SearchIndex) (workspaceId : WorkspaceId) : SearchIndex :=
  List.filter (fun row => decide (row.workspaceId ≠ workspaceId)) index

end SearchIndex

/-! ## The rebuild -/

structure IndexedWorkspaceSearch where
  workspaceId : String
  indexedMessageCount : Nat
  deriving DecidableEq

namespace LocalRuntime

variable (libraries : ReadingLibraries) (runtime : LocalRuntime) (reading : ReadingState)
  (workspaceId : WorkspaceId)

/-- The text of a message, if the message is to be indexed. -/
def searchableMarkdown
    (state : WorkspaceState) (workspaceKey : Option KeyRing) (message : MessageView) :
    Except RuntimeError (Option String) :=
  if message.deleted = true ∨
      state.channelAccessibleTo message.channelId (runtime.readerDeviceId libraries) = false then
    .ok none
  else
    match message.sealedMarkdown with
    | none => .ok (some message.markdown)
    | some payload => do
        match ← runtime.contentKeyForMaterializedPayload libraries reading workspaceId state
            workspaceKey message.channelId payload.keyId with
        | none => .ok none
        | some key => do
            let markdown ← (openMessageMarkdown libraries.aead key payload workspaceId
              message.channelId message.messageId).mapError .crypto
            .ok (some markdown)

/-- A blank text is not indexed. -/
def searchRow
    (table : HashMap EventId SignedEvent) (message : MessageView) (markdown : String) :
    Option SearchRow :=
  if Text.trim markdown.toList = [] then
    none
  else
    some
      { eventId := message.authorEventId
        messageId := message.messageId
        workspaceId := workspaceId
        channelId := message.channelId
        physicalMs :=
          (table[message.authorEventId]?.map fun event => event.event.timestamp.physicalMs).getD 0
        markdown := markdown }

/-- Index the messages in turn; the first failure ends the rebuild. -/
def indexMessages
    (state : WorkspaceState) (workspaceKey : Option KeyRing)
    (table : HashMap EventId SignedEvent) :
    List MessageView → Nat → SearchIndex → Except RuntimeError Nat × SearchIndex
  | [], indexed, index => (.ok indexed, index)
  | message :: rest, indexed, index =>
      match runtime.searchableMarkdown libraries reading workspaceId state workspaceKey
          message with
      | .error raised => (.error raised, index)
      | .ok markdown =>
          match markdown.bind (searchRow workspaceId table message) with
          | none => indexMessages state workspaceKey table rest indexed index
          | some row =>
              indexMessages state workspaceKey table rest (indexed + 1) (index.indexMessage row)

def reindexWorkspaceSearchWithKey
    (workspaceKey : Option KeyRing) (index : SearchIndex) :
    Except RuntimeError IndexedWorkspaceSearch × SearchIndex :=
  let events := materializedEvents libraries reading workspaceId
  match (WorkspaceState.new workspaceId).applyBatch events with
  | (.error raised, _) => (.error (.core raised), index)
  | (.ok _, state) =>
      let (counted, rebuilt) :=
        runtime.indexMessages libraries reading workspaceId state workspaceKey
          (eventsById events) (listedValues state.messages) 0 (index.clearWorkspace workspaceId)
      (counted.map fun count =>
        { workspaceId := workspaceId.text, indexedMessageCount := count }, rebuilt)

def reindexWorkspaceSearch (index : SearchIndex) :
    Except RuntimeError IndexedWorkspaceSearch × SearchIndex :=
  match (do
    validateWorkspaceIdReference workspaceId
    runtime.workspaceKeyForReading libraries reading workspaceId) with
  | .error raised => (.error raised, index)
  | .ok workspaceKey =>
      runtime.reindexWorkspaceSearchWithKey libraries reading workspaceId workspaceKey index

end LocalRuntime

end Chaft
