import Chaft.Runtime.SearchRebuild
import Mathlib.Data.List.Sort
import Mathlib.Data.String.Basic

/-!
# Searching the messages of a workspace

The index is asked first.  Of the rows that match, those are shown whose event is stored and
applied and whose channel the device may read.
-/

namespace Chaft

open Keyed Outcome

/-! ## The index -/

/-- What a search takes from Unicode and from the full-text extension of SQLite. -/
structure FullTextSearch where
  isAlphanumeric : Char → Bool
  toLowercase : Char → List Char
  /-- Whether a text `MATCH`es a query. -/
  isMatch : String → String → Bool
  /-- The snippet of a text for a query. -/
  snippet : String → String → String

def maxSearchHitLimit : Nat := 512

/-- The terms before the current one, and the current one. -/
def nextTerm (texts : FullTextSearch) (passed : List (List Char) × List Char) (symbol : Char) :
    List (List Char) × List Char :=
  if texts.isAlphanumeric symbol then
    (passed.1, passed.2 ++ texts.toLowercase symbol)
  else if passed.2 = [] then
    passed
  else
    (passed.1 ++ [passed.2], [])

def normalizeQuery (texts : FullTextSearch) (query : String) : Option String :=
  let (terms, current) := query.toList.foldl (nextTerm texts) ([], [])
  let terms := if current = [] then terms else terms ++ [current]
  if terms = [] then
    none
  else
    some (" ".intercalate (terms.map fun term => String.ofList (term ++ ['*'])))

def queryHasSearchTerms (texts : FullTextSearch) (query : String) : Bool :=
  (normalizeQuery texts query).isSome

structure SearchHit where
  eventId : EventId
  messageId : MessageId
  channelId : ChannelId
  markdown : String
  markdownCharCount : Nat
  markdownTruncated : Bool
  deriving DecidableEq

/-- `ORDER BY CAST(physical_ms AS INTEGER) DESC, event_id ASC`. -/
def SearchRow.listedBefore (left right : SearchRow) : Prop :=
  right.physicalMs.toInt < left.physicalMs.toInt ∨
    left.physicalMs.toInt = right.physicalMs.toInt ∧ left.eventId.text ≤ right.eventId.text

instance : DecidableRel SearchRow.listedBefore := fun _ _ =>
  inferInstanceAs (Decidable (_ ∨ _))

def SearchRow.hit (texts : FullTextSearch) (query : String) (row : SearchRow) : SearchHit where
  eventId := row.eventId
  messageId := row.messageId
  channelId := row.channelId
  markdown := texts.snippet query row.markdown
  markdownCharCount := row.markdown.length
  markdownTruncated := decide (texts.snippet query row.markdown ≠ row.markdown)

namespace SearchIndex

def removeMessage
    (index : SearchIndex) (workspaceId : WorkspaceId) (messageId : MessageId) : SearchIndex :=
  List.filter
    (fun row => !(decide (row.workspaceId = workspaceId) && decide (row.messageId = messageId)))
    index

def searchLimited
    (texts : FullTextSearch) (index : SearchIndex) (workspaceId : WorkspaceId) (query : String)
    (limit : Nat) : List SearchHit :=
  if limit = 0 then
    []
  else
    match normalizeQuery texts query with
    | none => []
    | some query =>
        let rows := List.filter
          (fun row =>
            decide (row.workspaceId = workspaceId) && texts.isMatch query row.markdown) index
        ((rows.insertionSort SearchRow.listedBefore).take (min limit maxSearchHitLimit)).map
          (SearchRow.hit texts query)

end SearchIndex

/-- `filter_servable_event_ids_for_workspace`. -/
def EventStore.filterServableEventIdsForWorkspace
    (store : EventStore) (workspaceId : String) (candidateIds : List EventId) : List EventId :=
  (store.rows.filter fun row =>
      decide (row.workspaceId = workspaceId) && isServableRow row &&
        decide (row.eventId ∈ candidateIds)).map EventRow.eventId

/-! ## The search -/

def localSearchRawHitLimit : Nat := 500

def localSearchVisibleHitLimit : Nat := 50

def searchQueryMaxBytes : Nat := 512

def validateSearchQuerySize (query : String) : Except RuntimeError Unit :=
  ensure (query.utf8ByteSize ≤ searchQueryMaxBytes)
    (.searchQueryTooLarge query.utf8ByteSize searchQueryMaxBytes)

structure WorkspaceSearchHit where
  workspaceId : String
  eventId : String
  messageId : String
  channelId : String
  channelName : String
  channelIsPrivate : Bool
  authorDeviceId : String
  authorDisplayName : Option String
  authorAvatarId : String
  physicalMs : Int64
  body : String
  bodyCharCount : Nat
  bodyTruncated : Bool
  deriving DecidableEq

structure SearchedWorkspace where
  workspaceId : String
  query : String
  itemCount : Nat
  hitCount : Nat
  rawCandidateCount : Nat
  rawCandidateLimit : Nat
  visibleHitLimit : Nat
  hasMoreHits : Bool
  hits : List WorkspaceSearchHit
  deriving DecidableEq

namespace SearchedWorkspace

def empty (workspaceId : WorkspaceId) (query : String) : SearchedWorkspace where
  workspaceId := workspaceId.text
  query := query
  itemCount := 0
  hitCount := 0
  rawCandidateCount := 0
  rawCandidateLimit := localSearchRawHitLimit
  visibleHitLimit := localSearchVisibleHitLimit
  hasMoreHits := false
  hits := []

def bounded
    (workspaceId : WorkspaceId) (query : String) (hits : List WorkspaceSearchHit)
    (rawCandidateCount : Nat) (hasMoreRawCandidates : Bool) : SearchedWorkspace where
  workspaceId := workspaceId.text
  query := query
  itemCount := (hits.take localSearchVisibleHitLimit).length
  hitCount := hits.length
  rawCandidateCount := rawCandidateCount
  rawCandidateLimit := localSearchRawHitLimit
  visibleHitLimit := localSearchVisibleHitLimit
  hasMoreHits := hasMoreRawCandidates
  hits := hits.take localSearchVisibleHitLimit

end SearchedWorkspace

/-- By the time of the event, then by its ID and by the message. -/
def WorkspaceSearchHit.listedBefore (left right : WorkspaceSearchHit) : Prop :=
  right.physicalMs.toInt < left.physicalMs.toInt ∨
    left.physicalMs.toInt = right.physicalMs.toInt ∧
      (left.eventId < right.eventId ∨
        left.eventId = right.eventId ∧ left.messageId ≤ right.messageId)

instance : DecidableRel WorkspaceSearchHit.listedBefore := fun _ _ =>
  inferInstanceAs (Decidable (_ ∨ _))

namespace WorkspaceState

/-- A hit as it is shown, if its event is listed and its channel is known. -/
def workspaceSearchHit
    (state : WorkspaceState) (workspaceId : WorkspaceId)
    (authorAndPhysicalMsById : HashMap EventId (DeviceId × Int64)) (hit : SearchHit) :
    Option WorkspaceSearchHit := do
  let (authorDeviceId, physicalMs) ← authorAndPhysicalMsById[hit.eventId]?
  let channel ← state.channels[hit.channelId]?
  some
    { workspaceId := workspaceId.text
      eventId := hit.eventId.text
      messageId := hit.messageId.text
      channelId := hit.channelId.text
      channelName := channel.name
      channelIsPrivate := channel.isPrivate
      authorDeviceId := authorDeviceId.text
      authorDisplayName := state.authorDisplayName authorDeviceId
      authorAvatarId := state.profileAvatarId authorDeviceId
      physicalMs := physicalMs
      body := hit.markdown
      bodyCharCount := hit.markdownCharCount
      bodyTruncated := hit.markdownTruncated }

end WorkspaceState

namespace LocalRuntime

variable (libraries : ReadingLibraries) (texts : FullTextSearch) (runtime : LocalRuntime)
  (reading : ReadingState) (workspaceId : WorkspaceId)

/-- The hits that the materialized state lets through, in the order in which they show. -/
def shownHits
    (state : WorkspaceState) (report : MaterializationReport) (events : List SignedEvent)
    (rawHits : List SearchHit) : List WorkspaceSearchHit :=
  let known := rawHits.filter fun hit =>
    decide (hit.eventId ∈ report.appliedEvents) &&
      state.channelAccessibleTo hit.channelId (runtime.readerDeviceId libraries)
  let table := tableOf SignedEvent.eventId
    (fun event => (event.event.authorDeviceId, event.event.timestamp.physicalMs)) ∅ events
  (known.filterMap (state.workspaceSearchHit workspaceId table)).insertionSort
    WorkspaceSearchHit.listedBefore

def searchWorkspaceMessages (index : SearchIndex) (query : String) :
    Except RuntimeError SearchedWorkspace := do
  validateWorkspaceIdReference workspaceId
  let query := String.ofList (Text.trim query.toList)
  validateSearchQuerySize query
  if queryHasSearchTerms texts query = false then
    .ok (.empty workspaceId query)
  else
    let rawHits := index.searchLimited texts workspaceId query (localSearchRawHitLimit + 1)
    if rawHits = [] then
      .ok (.empty workspaceId query)
    else
      let hasMoreRawCandidates := decide (localSearchRawHitLimit < rawHits.length)
      let rawHits := rawHits.take localSearchRawHitLimit
      let rawCandidateCount := rawHits.length
      let servableEventIds := reading.store.filterServableEventIdsForWorkspace workspaceId.text
        (rawHits.map SearchHit.eventId)
      let rawHits := rawHits.filter fun hit => decide (hit.eventId ∈ servableEventIds)
      if rawHits = [] then
        .ok (.bounded workspaceId query [] rawCandidateCount hasMoreRawCandidates)
      else
        let events := materializedEvents libraries reading workspaceId
        match (WorkspaceState.new workspaceId).applyBatch events with
        | (.error raised, _) => .error (.core raised)
        | (.ok report, state) =>
            .ok (.bounded workspaceId query
              (runtime.shownHits libraries workspaceId state report events rawHits)
              rawCandidateCount hasMoreRawCandidates)

end LocalRuntime

end Chaft
