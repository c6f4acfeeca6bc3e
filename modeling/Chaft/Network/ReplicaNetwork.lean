import Chaft.Library.Gossip
import Chaft.Library.Trace
import Chaft.Network.WorkspacePull

/-!
# Replicas of a workspace

Replicas append events and pull from each other.  A pull has two parts, the plan and the fetch,
and anything can happen between them, also at the peer.  A transport can fail, and a pull can
fail after it was answered.

Served events spread along the plans and pulls that succeed, none is lost, and none is served
that was not served or appended somewhere.
-/

namespace Chaft

open Outcome Effects Effects.Effect Gossip

/-! ## The network -/

structure ReplicaNetwork (ι : Type) where
  store : ι → EventStore
  /-- The peer and the plan of a pull that is under way. -/
  pending : ι → Option (ι × WorkspaceSyncPlan)

inductive ReplicaStep (ι : Type) where
  | append (replica : ι) (event : SignedEvent)
  | plan (replica peer : ι)
  | pull (replica : ι) (answers : Bool)

section Network

variable {ι : Type} [DecidableEq ι]
variable (primitives : Primitives) (json : EventJson) (workspaceId : WorkspaceId)

/-- A transport to a replica gives the events that the replica serves, or fails. -/
def fetchFromReplica
    (answers : Bool) (peer : EventStore) (eventIds : List EventId) :
    Except NetError (List SignedEvent) :=
  if answers then
    .ok ((deduplicateEventIds eventIds).filterMap (peer.getServableEvent json))
  else
    .error (.unavailable "peer")

namespace ReplicaNetwork

variable (network : ReplicaNetwork ι)

def planFor (replica peer : ι) : Except SyncError WorkspaceSyncPlan :=
  planWorkspaceSync (network.store replica) workspaceId
    ((network.store peer).listServableEventIdsForWorkspace workspaceId.text)

def pullFor (replica peer : ι) (plan : WorkspaceSyncPlan) (answers : Bool) :
    Except SyncError PullSyncReport × EventStore :=
  pullWorkspaceFromPeerWithPlan primitives json
    (fetchFromReplica json answers (network.store peer)) workspaceId plan (network.store replica)

/-- An event that cannot be appended changes nothing. -/
def perform : ReplicaStep ι → ReplicaNetwork ι
  | .append replica event =>
      { network with
        store :=
          Function.update network.store replica
            ((network.store replica).after primitives json [event]) }
  | .plan replica peer =>
      { network with
        pending :=
          Function.update network.pending replica
            ((network.planFor workspaceId replica peer).toOption.map fun plan => (peer, plan)) }
  | .pull replica answers =>
      match network.pending replica with
      | none => network
      | some pending =>
          { store :=
              Function.update network.store replica
                (network.pullFor primitives json workspaceId replica pending.1 pending.2
                  answers).2
            pending := Function.update network.pending replica none }

/-- What a step is for the spread of knowledge. -/
def contact : ReplicaStep ι → Contact ι
  | .append .. => .other
  | .plan replica peer =>
      match network.planFor workspaceId replica peer with
      | .ok _ => .note replica peer
      | .error _ => .forget replica
  | .pull replica answers =>
      match network.pending replica with
      | none => .other
      | some pending =>
          match (network.pullFor primitives json workspaceId replica pending.1 pending.2
              answers).1 with
          | .ok _ => .learn replica
          | .error _ => .forget replica

def contacts : ReplicaNetwork ι → List (ReplicaStep ι) → List (Contact ι)
  | _, [] => []
  | network, step :: rest =>
      network.contact primitives json workspaceId step ::
        contacts (network.perform primitives json workspaceId step) rest

/-- The IDs of the workspace that are served, and those that a plan has noted. -/
def knowledge : Knowledge ι EventId
  | .knows replica =>
      {eventId | ∃ event, (network.store replica).getServableEvent json eventId = some event ∧
        event.event.workspaceId = workspaceId}
  | .noted replica =>
      {eventId | ∃ pending, network.pending replica = some pending ∧
        eventId ∈ pending.2.remoteEventIds}

/-- The stores hold appended events, serve some of the given ones, and the plans fit them. -/
structure Sound (events : Set SignedEvent) : Prop where
  appended :
    ∀ replica, ∃ history,
      network.store replica = EventStore.empty.after primitives json history
  drawn :
    ∀ replica eventId event,
      (network.store replica).getServableEvent json eventId = some event → event ∈ events
  offered :
    ∀ replica peer plan, network.pending replica = some (peer, plan) →
      ∀ eventId ∈ plan.remoteEventIds,
        eventId ∈ network.knowledge json workspaceId (.knows peer)
  requested :
    ∀ replica peer plan, network.pending replica = some (peer, plan) →
      ∀ eventId ∈ plan.remoteEventIds,
        eventId ∈ plan.requestEventIds ∨
          eventId ∈ network.knowledge json workspaceId (.knows replica)

end ReplicaNetwork

end Network

/-- Events with one ID are of one workspace. -/
def OneWorkspacePerId (events : Set SignedEvent) : Prop :=
  ∀ first ∈ events, ∀ second ∈ events, first.eventId = second.eventId →
    first.event.workspaceId = second.event.workspaceId

/-- The events that the steps append. -/
def appendedBy {ι : Type} (steps : List (ReplicaStep ι)) : Set SignedEvent :=
  {event | ∃ replica, .append replica event ∈ steps}

namespace ReplicaNetwork

section Steps

variable {ι : Type} [DecidableEq ι] {primitives : Primitives} {json : EventJson}
variable {workspaceId : WorkspaceId} {network : ReplicaNetwork ι} {events : Set SignedEvent}

/-! ## One step -/

/-- A step adds to a store what is appended there or what a peer serves. -/
theorem perform_adds (step : ReplicaStep ι) (replica : ι) :
    ∃ added,
      (network.perform primitives json workspaceId step).store replica =
          (network.store replica).after primitives json added ∧
        ∀ event ∈ added,
          step = .append replica event ∨
            ∃ peer eventId,
              (network.store peer).getServableEvent json eventId = some event := by
  cases step with
  | append target event =>
      by_cases isTarget : replica = target
      · subst isTarget
        refine ⟨[event], Function.update_self .., ?_⟩
        intro other member
        rw [List.mem_singleton.mp member]
        exact Or.inl rfl
      · exact ⟨[], Function.update_of_ne isTarget .., by simp⟩
  | plan target peer => exact ⟨[], rfl, by simp⟩
  | pull target answers =>
      rw [perform]
      cases isPending : network.pending target with
      | none => exact ⟨[], rfl, by simp⟩
      | some pending =>
          by_cases isTarget : replica = target
          · subst isTarget
            obtain ⟨fetched, added, pulled, isFetched, -⟩ :=
              @pullWithPlan_spec primitives json
                (fetchFromReplica json answers (network.store pending.1)) workspaceId pending.2
                (network.store replica)
            refine ⟨added, ?_, ?_⟩
            · dsimp only
              rw [Function.update_self]
              exact pulled.after
            · intro event member
              have inFetched := (pulled.drawn event member).1
              rcases isFetched with none | answered
              · rw [none] at inFetched
                cases inFetched
              · rw [fetchFromReplica] at answered
                split at answered
                · rw [← Except.ok.inj answered] at inFetched
                  obtain ⟨eventId, -, served⟩ := List.mem_filterMap.mp inFetched
                  exact Or.inr ⟨pending.1, eventId, served⟩
                · cases answered
          · exact ⟨[], Function.update_of_ne isTarget .., by simp⟩

/-- What is served stays served. -/
theorem Sound.serves_perform
    (roundTrips : json.RoundTrips) (sound : network.Sound primitives json workspaceId events)
    (step : ReplicaStep ι) {replica : ι} {eventId : EventId} {event : SignedEvent}
    (served : (network.store replica).getServableEvent json eventId = some event) :
    ((network.perform primitives json workspaceId step).store replica).getServableEvent json
      eventId = some event := by
  obtain ⟨added, isAfter, -⟩ :=
    @perform_adds ι _ primitives json workspaceId network step replica
  obtain ⟨history, isStore⟩ := sound.appended replica
  rw [isStore] at served
  rw [isAfter, isStore, ← after_append]
  exact served_after_append roundTrips history served added

theorem Sound.knows_perform
    (roundTrips : json.RoundTrips) (sound : network.Sound primitives json workspaceId events)
    (step : ReplicaStep ι) (replica : ι) :
    network.knowledge json workspaceId (.knows replica) ⊆
      (network.perform primitives json workspaceId step).knowledge json workspaceId
        (.knows replica) := by
  intro eventId known
  obtain ⟨event, served, sameWorkspace⟩ := known
  exact ⟨event, sound.serves_perform roundTrips step served, sameWorkspace⟩

omit [DecidableEq ι] in
/-- The listed IDs of the workspace are the known ones. -/
theorem Sound.mem_listed_iff
    (roundTrips : json.RoundTrips) (sound : network.Sound primitives json workspaceId events)
    (replica : ι) (eventId : EventId) :
    eventId ∈ (network.store replica).listServableEventIdsForWorkspace workspaceId.text ↔
      eventId ∈ network.knowledge json workspaceId (.knows replica) := by
  obtain ⟨history, isStore⟩ := sound.appended replica
  rw [isStore, mem_listServableForWorkspace_iff roundTrips]
  constructor
  · intro listed
    obtain ⟨event, served, sameText⟩ := listed
    rw [← isStore] at served
    exact ⟨event, served, congrArg Identifier.mk sameText⟩
  · intro known
    obtain ⟨event, served, sameWorkspace⟩ := known
    rw [isStore] at served
    exact ⟨event, served, congrArg Identifier.text sameWorkspace⟩

/-- A pending plan of the network after a step was pending before or was just made. -/
theorem pending_perform
    {step : ReplicaStep ι} {replica peer : ι} {plan : WorkspaceSyncPlan}
    (isPending :
      (network.perform primitives json workspaceId step).pending replica = some (peer, plan)) :
    network.pending replica = some (peer, plan) ∨
      network.planFor workspaceId replica peer = .ok plan := by
  cases step with
  | append target event => exact Or.inl isPending
  | plan target source =>
      by_cases isTarget : replica = target
      · subst isTarget
        simp only [perform, Function.update_self] at isPending
        cases isPlan : network.planFor workspaceId replica source with
        | error raised =>
            rw [isPlan] at isPending
            cases isPending
        | ok made =>
            rw [isPlan] at isPending
            have same := Prod.mk.inj (Option.some.inj isPending)
            rw [← same.1, ← same.2]
            exact Or.inr isPlan
      · simp only [perform, Function.update_of_ne isTarget] at isPending
        exact Or.inl isPending
  | pull target answers =>
      rw [perform] at isPending
      cases before : network.pending target with
      | none =>
          rw [before] at isPending
          exact Or.inl isPending
      | some pending =>
          rw [before] at isPending
          by_cases isTarget : replica = target
          · subst isTarget
            simp only [Function.update_self, reduceCtorEq] at isPending
          · simp only [Function.update_of_ne isTarget] at isPending
            exact Or.inl isPending

/-- Steps keep a network sound. -/
theorem Sound.perform
    (roundTrips : json.RoundTrips) (sound : network.Sound primitives json workspaceId events)
    {step : ReplicaStep ι}
    (drawn : ∀ replica event, step = .append replica event → event ∈ events) :
    (network.perform primitives json workspaceId step).Sound primitives json workspaceId
      events := by
  have known := sound.knows_perform roundTrips step
  constructor
  · intro replica
    obtain ⟨added, isAfter, -⟩ :=
      @perform_adds ι _ primitives json workspaceId network step replica
    obtain ⟨history, isStore⟩ := sound.appended replica
    exact ⟨history ++ added, by rw [isAfter, isStore, after_append]⟩
  · intro replica eventId event served
    obtain ⟨added, isAfter, origin⟩ :=
      @perform_adds ι _ primitives json workspaceId network step replica
    obtain ⟨history, isStore⟩ := sound.appended replica
    rw [isAfter, isStore, ← after_append] at served
    rcases served_of_append roundTrips history served with before | ⟨isAdded, -⟩
    · rw [← isStore] at before
      exact sound.drawn replica eventId event before
    · rcases origin event isAdded with isStep | ⟨peer, otherId, servedThere⟩
      · exact drawn replica event isStep
      · exact sound.drawn peer otherId event servedThere
  · intro replica peer plan isPending eventId member
    rcases pending_perform isPending with before | isPlan
    · exact known peer (sound.offered replica peer plan before eventId member)
    · obtain ⟨-, remote, -⟩ := planWorkspaceSync_requests isPlan
      rw [remote] at member
      exact known peer ((sound.mem_listed_iff roundTrips peer eventId).mp member)
  · intro replica peer plan isPending eventId member
    rcases pending_perform isPending with before | isPlan
    · rcases sound.requested replica peer plan before eventId member with asked | isKnown
      · exact Or.inl asked
      · exact Or.inr (known replica isKnown)
    · obtain ⟨-, remote, requests⟩ := planWorkspaceSync_requests isPlan
      rw [remote] at member
      by_cases isLocal :
          eventId ∈
            (network.store replica).listServableEventIdsForWorkspace workspaceId.text
      · exact Or.inr (known replica ((sound.mem_listed_iff roundTrips replica eventId).mp isLocal))
      · exact Or.inl ((requests eventId).mpr ⟨member, isLocal⟩)

/-- After a successful pull, what was noted is served. -/
theorem Sound.learns
    (roundTrips : json.RoundTrips) (sound : network.Sound primitives json workspaceId events)
    (identified : OneWorkspacePerId events) {replica : ι} {answers : Bool}
    {peer : ι} {plan : WorkspaceSyncPlan} (isPending : network.pending replica = some (peer, plan))
    {report : PullSyncReport}
    (isOk :
      (network.pullFor primitives json workspaceId replica peer plan answers).1 = .ok report)
    {eventId : EventId} (noted : eventId ∈ plan.remoteEventIds) :
    eventId ∈
      (network.perform primitives json workspaceId (.pull replica answers)).knowledge json
        workspaceId (.knows replica) := by
  have known := sound.knows_perform roundTrips (.pull replica answers)
  have noAppend :
      ∀ target event,
        (ReplicaStep.pull replica answers : ReplicaStep ι) = .append target event →
          event ∈ events := by
    intro target event isStep
    cases isStep
  have soundAfter := Sound.perform roundTrips sound noAppend
  rcases sound.requested replica peer plan isPending eventId noted with asked | isKnown
  · obtain ⟨event, served, sameWorkspace⟩ :=
      sound.offered replica peer plan isPending eventId noted
    obtain ⟨fetched, added, pulled, -, whole⟩ :=
      @pullWithPlan_spec primitives json (fetchFromReplica json answers (network.store peer))
        workspaceId plan (network.store replica)
    have isAnswer :
        fetchFromReplica json answers (network.store peer) plan.requestEventIds = .ok fetched := by
      rcases whole report isOk with nothing | isAnswer
      · rw [nothing] at asked
        cases asked
      · exact isAnswer
    have inFetched : event ∈ fetched := by
      rw [fetchFromReplica] at isAnswer
      split at isAnswer
      · rw [← Except.ok.inj isAnswer]
        exact List.mem_filterMap.mpr ⟨eventId, mem_deduplicateEventIds.mpr asked, served⟩
      · cases isAnswer
    have isAdded := (pulled.complete report isOk).2 event inFetched sameWorkspace
    obtain ⟨-, -, -, copy⟩ := pulled.drawn event isAdded
    obtain ⟨history, isStore⟩ := sound.appended replica
    obtain ⟨peerHistory, isPeerStore⟩ := sound.appended peer
    have sameId : event.eventId = eventId := by
      rw [isPeerStore] at served
      exact (copy_of_served roundTrips peerHistory served).2.sameId
    have after :
        (network.perform primitives json workspaceId (.pull replica answers)).store replica =
          EventStore.empty.after primitives json (history ++ added) := by
      rw [ReplicaNetwork.perform, isPending, after_append, ← isStore]
      dsimp only
      rw [Function.update_self]
      exact pulled.after
    obtain ⟨found, isFound⟩ :=
      served_of_mem roundTrips (history ++ added) (List.mem_append_right history isAdded) copy
    rw [← after, sameId] at isFound
    refine ⟨found, isFound, ?_⟩
    have foundDrawn := soundAfter.drawn replica eventId found isFound
    have foundId : found.eventId = eventId := by
      rw [after] at isFound
      exact (copy_of_served roundTrips _ isFound).2.sameId
    rw [identified found foundDrawn event (sound.drawn peer eventId event served)
      (foundId.trans sameId.symm)]
    exact sameWorkspace
  · exact known replica isKnown

/-- A step does to the knowledge what its contact does. -/
theorem Sound.respects
    (roundTrips : json.RoundTrips) (sound : network.Sound primitives json workspaceId events)
    (identified : OneWorkspacePerId events) (step : ReplicaStep ι) :
    Respects (network.contact primitives json workspaceId step)
      (network.knowledge json workspaceId)
      ((network.perform primitives json workspaceId step).knowledge json workspaceId) := by
  constructor
  · intro site keeps
    cases site with
    | knows replica => exact sound.knows_perform roundTrips step replica
    | noted replica =>
        have same :
            (network.perform primitives json workspaceId step).pending replica =
              network.pending replica := by
          cases step with
          | append target event => rfl
          | plan target peer =>
              have isOther : replica ≠ target := by
                rw [contact] at keeps
                cases isPlan : network.planFor workspaceId target peer with
                | ok plan =>
                    rw [isPlan] at keeps
                    exact keeps
                | error raised =>
                    rw [isPlan] at keeps
                    exact keeps
              exact Function.update_of_ne isOther ..
          | pull target answers =>
              rw [ReplicaNetwork.perform]
              cases isPending : network.pending target with
              | none => rfl
              | some pending =>
                  have isOther : replica ≠ target := by
                    rw [contact, isPending] at keeps
                    cases result :
                        (network.pullFor primitives json workspaceId target pending.1 pending.2
                          answers).1 with
                    | ok report =>
                        simp only [result] at keeps
                        exact keeps
                    | error raised =>
                        simp only [result] at keeps
                        exact keeps
                  exact Function.update_of_ne isOther ..
        intro eventId noted
        obtain ⟨pending, isPending, member⟩ := noted
        exact ⟨pending, same.trans isPending, member⟩
  · intro reader source isNote
    cases step with
    | append target event => cases isNote
    | plan target peer =>
        rw [contact] at isNote
        cases isPlan : network.planFor workspaceId target peer with
        | error raised =>
            rw [isPlan] at isNote
            cases isNote
        | ok plan =>
            rw [isPlan] at isNote
            cases isNote
            intro eventId known
            obtain ⟨-, remote, -⟩ := planWorkspaceSync_requests isPlan
            refine ⟨(source, plan), ?_, ?_⟩
            · simp only [ReplicaNetwork.perform, Function.update_self, isPlan]
              rfl
            · dsimp only
              rw [remote]
              exact (sound.mem_listed_iff roundTrips source eventId).mpr known
    | pull target answers =>
        rw [contact] at isNote
        cases isPending : network.pending target with
        | none =>
            rw [isPending] at isNote
            cases isNote
        | some pending =>
            simp only [isPending] at isNote
            split at isNote <;> cases isNote
  · intro reader isLearn
    cases step with
    | append target event => cases isLearn
    | plan target peer =>
        rw [contact] at isLearn
        split at isLearn <;> cases isLearn
    | pull target answers =>
        rw [contact] at isLearn
        cases isPending : network.pending target with
        | none =>
            rw [isPending] at isLearn
            cases isLearn
        | some pending =>
            obtain ⟨peer, plan⟩ := pending
            simp only [isPending] at isLearn
            cases result :
                (network.pullFor primitives json workspaceId target peer plan answers).1 with
            | error raised =>
                rw [result] at isLearn
                cases isLearn
            | ok report =>
                rw [result] at isLearn
                cases isLearn
                intro eventId noted
                obtain ⟨others, isOthers, member⟩ := noted
                have same : others = (peer, plan) :=
                  Option.some.inj (isOthers.symm.trans isPending)
                rw [same] at member
                exact sound.learns roundTrips identified isPending result member

/-! ## Runs -/

variable (primitives json workspaceId) in
/-- The network after some steps. -/
def after (network : ReplicaNetwork ι) (steps : List (ReplicaStep ι)) : ReplicaNetwork ι :=
  Trace.run (fun network step => network.perform primitives json workspaceId step) network steps

/-- A run keeps a network sound. -/
theorem Sound.after
    (roundTrips : json.RoundTrips) (sound : network.Sound primitives json workspaceId events)
    {steps : List (ReplicaStep ι)} (drawn : appendedBy steps ⊆ events) :
    (network.after primitives json workspaceId steps).Sound primitives json workspaceId
      events := by
  induction steps generalizing network with
  | nil => exact sound
  | cons step rest inductionHypothesis =>
      have soundNext :=
        Sound.perform roundTrips sound
          (fun replica event isStep => drawn ⟨replica, isStep ▸ List.mem_cons_self⟩)
      apply inductionHypothesis soundNext
      intro event isAppended
      obtain ⟨replica, member⟩ := isAppended
      exact drawn ⟨replica, List.mem_cons_of_mem step member⟩

/-- What is served stays served through a run. -/
theorem Sound.serves_after
    (roundTrips : json.RoundTrips) (sound : network.Sound primitives json workspaceId events)
    {steps : List (ReplicaStep ι)} (drawn : appendedBy steps ⊆ events) {replica : ι}
    {eventId : EventId} {event : SignedEvent}
    (served : (network.store replica).getServableEvent json eventId = some event) :
    ((network.after primitives json workspaceId steps).store replica).getServableEvent json
      eventId = some event := by
  induction steps generalizing network with
  | nil => exact served
  | cons step rest inductionHypothesis =>
      have soundNext :=
        Sound.perform roundTrips sound
          (fun replica event isStep => drawn ⟨replica, isStep ▸ List.mem_cons_self⟩)
      apply inductionHypothesis soundNext
      · intro other isAppended
        obtain ⟨target, member⟩ := isAppended
        exact drawn ⟨target, List.mem_cons_of_mem step member⟩
      · exact sound.serves_perform roundTrips step served

/-- A run spreads knowledge along its contacts. -/
theorem Sound.spreads
    (roundTrips : json.RoundTrips) (sound : network.Sound primitives json workspaceId events)
    (identified : OneWorkspacePerId events) {steps : List (ReplicaStep ι)}
    (drawn : appendedBy steps ⊆ events) :
    Spreads (network.contacts primitives json workspaceId steps)
      (network.knowledge json workspaceId)
      ((network.after primitives json workspaceId steps).knowledge json workspaceId) := by
  induction steps generalizing network with
  | nil => exact .done _
  | cons step rest inductionHypothesis =>
      have soundNext :=
        Sound.perform roundTrips sound
          (fun replica event isStep => drawn ⟨replica, isStep ▸ List.mem_cons_self⟩)
      apply Spreads.next (sound.respects roundTrips identified step)
      apply inductionHypothesis soundNext
      intro event isAppended
      obtain ⟨replica, member⟩ := isAppended
      exact drawn ⟨replica, List.mem_cons_of_mem step member⟩

/-- The events that some replica serves. -/
def servedEvents (json : EventJson) (network : ReplicaNetwork ι) : Set SignedEvent :=
  {event | ∃ replica eventId, (network.store replica).getServableEvent json eventId = some event}

variable (primitives json) in
/-- The replicas hold appended events, and no pull is under way. -/
def Initial (network : ReplicaNetwork ι) : Prop :=
  ∀ replica, network.pending replica = none ∧
    ∃ history, network.store replica = EventStore.empty.after primitives json history

omit [DecidableEq ι] in
variable (workspaceId) in
theorem Initial.sound
    (initial : network.Initial primitives json) (others : Set SignedEvent) :
    network.Sound primitives json workspaceId (network.servedEvents json ∪ others) where
  appended replica := (initial replica).2
  drawn replica eventId event served := Or.inl ⟨replica, eventId, served⟩
  offered replica peer plan isPending := by
    rw [(initial replica).1] at isPending
    cases isPending
  requested replica peer plan isPending := by
    rw [(initial replica).1] at isPending
    cases isPending

omit [DecidableEq ι] in
/-- A network is sound for the events that it serves. -/
theorem Sound.narrow
    (sound : network.Sound primitives json workspaceId events) :
    network.Sound primitives json workspaceId (network.servedEvents json) :=
  { sound with drawn := fun replica eventId _ served => ⟨replica, eventId, served⟩ }

/-- Without appends, a run knows nothing that was not known. -/
theorem Sound.nothingNew
    (roundTrips : json.RoundTrips) (sound : network.Sound primitives json workspaceId events)
    {steps : List (ReplicaStep ι)} (quiet : ∀ replica event, .append replica event ∉ steps)
    (replica : ι) :
    (network.after primitives json workspaceId steps).knowledge json workspaceId
        (.knows replica) ⊆
      ⋃ source, network.knowledge json workspaceId (.knows source) := by
  have drawn : appendedBy steps ⊆ network.servedEvents json := by
    intro event isAppended
    obtain ⟨other, member⟩ := isAppended
    exact absurd member (quiet other event)
  have soundAfter := sound.narrow.after roundTrips drawn
  intro eventId known
  obtain ⟨event, served, sameWorkspace⟩ := known
  obtain ⟨source, otherId, servedBefore⟩ := soundAfter.drawn replica eventId event served
  have sameId : event.eventId = eventId := by
    obtain ⟨history, isStore⟩ := soundAfter.appended replica
    rw [isStore] at served
    exact (copy_of_served roundTrips history served).2.sameId
  have sameOther : event.eventId = otherId := by
    obtain ⟨history, isStore⟩ := sound.appended source
    have copy := servedBefore
    rw [isStore] at copy
    exact (copy_of_served roundTrips history copy).2.sameId
  rw [← sameOther, sameId] at servedBefore
  exact Set.mem_iUnion.mpr ⟨source, event, servedBefore, sameWorkspace⟩

end Steps

end ReplicaNetwork

section Replicas

variable {ι : Type} [DecidableEq ι]

/-- Along the plans and pulls that succeed, the events of a workspace reach other replicas. -/
theorem replicas_spread
    (primitives : Primitives) (json : EventJson) (roundTrips : json.RoundTrips)
    (workspaceId : WorkspaceId) (network : ReplicaNetwork ι)
    (initial : network.Initial primitives json) (earlier later : List (ReplicaStep ι))
    (identified :
      OneWorkspacePerId (network.servedEvents json ∪ appendedBy (earlier ++ later)))
    (source reader : ι) :
    let before := network.after primitives json workspaceId earlier
    let after := network.after primitives json workspaceId (earlier ++ later)
    Carries (before.contacts primitives json workspaceId later) (.knows source)
        (.knows reader) →
      ∀ eventId event,
        (before.store source).getServableEvent json eventId = some event →
          event.event.workspaceId = workspaceId →
            ∃ copy, (after.store reader).getServableEvent json eventId = some copy ∧
              copy.event.workspaceId = workspaceId := by
  intro before after carries eventId event served sameWorkspace
  have sound := initial.sound workspaceId (appendedBy (earlier ++ later))
  have drawnEarlier :
      appendedBy earlier ⊆ network.servedEvents json ∪ appendedBy (earlier ++ later) := by
    intro appended isAppended
    obtain ⟨replica, member⟩ := isAppended
    exact Or.inr ⟨replica, List.mem_append_left later member⟩
  have drawnLater :
      appendedBy later ⊆ network.servedEvents json ∪ appendedBy (earlier ++ later) := by
    intro appended isAppended
    obtain ⟨replica, member⟩ := isAppended
    exact Or.inr ⟨replica, List.mem_append_right earlier member⟩
  have soundBefore := sound.after roundTrips drawnEarlier
  have spreads := soundBefore.spreads roundTrips identified drawnLater
  have reached := spreads.subset_of_carries carries ⟨event, served, sameWorkspace⟩
  have isAfter : before.after primitives json workspaceId later = after :=
    (Trace.run_append _ network earlier later).symm
  obtain ⟨copy, servedThere, copyWorkspace⟩ := reached
  exact ⟨copy, isAfter ▸ servedThere, copyWorkspace⟩

/-- Once nothing is appended any more and everyone has reached everyone, all replicas serve
the same IDs of the workspace: those that some replica served. -/
theorem replicas_converge
    (primitives : Primitives) (json : EventJson) (roundTrips : json.RoundTrips)
    (workspaceId : WorkspaceId) (network : ReplicaNetwork ι)
    (initial : network.Initial primitives json) (earlier later : List (ReplicaStep ι))
    (identified :
      OneWorkspacePerId (network.servedEvents json ∪ appendedBy (earlier ++ later)))
    (quiet : ∀ replica event, .append replica event ∉ later)
    (reached :
      ∀ source reader,
        Carries ((network.after primitives json workspaceId earlier).contacts primitives json
          workspaceId later) (.knows source) (.knows reader))
    (replica : ι) (eventId : EventId) :
    eventId ∈
        ((network.after primitives json workspaceId
          (earlier ++ later)).store replica).listServableEventIdsForWorkspace workspaceId.text ↔
      ∃ source,
        eventId ∈
          ((network.after primitives json workspaceId
            earlier).store source).listServableEventIdsForWorkspace workspaceId.text := by
  have sound := initial.sound workspaceId (appendedBy (earlier ++ later))
  have drawnEarlier :
      appendedBy earlier ⊆ network.servedEvents json ∪ appendedBy (earlier ++ later) := by
    intro appended isAppended
    obtain ⟨other, member⟩ := isAppended
    exact Or.inr ⟨other, List.mem_append_left later member⟩
  have drawnLater :
      appendedBy later ⊆ network.servedEvents json ∪ appendedBy (earlier ++ later) := by
    intro appended isAppended
    obtain ⟨other, member⟩ := isAppended
    exact absurd member (quiet other appended)
  have soundBefore := sound.after roundTrips drawnEarlier
  have soundAfter := soundBefore.after roundTrips drawnLater
  have spreads := soundBefore.spreads roundTrips identified drawnLater
  have allKnown :=
    spreads.all_known reached (soundBefore.nothingNew roundTrips quiet) replica
  have isAfter :
      (network.after primitives json workspaceId earlier).after primitives json workspaceId
          later =
        network.after primitives json workspaceId (earlier ++ later) :=
    (Trace.run_append _ network earlier later).symm
  rw [← isAfter, soundAfter.mem_listed_iff roundTrips, allKnown, Set.mem_iUnion]
  exact exists_congr fun source => (soundBefore.mem_listed_iff roundTrips source eventId).symm

end Replicas

/-! One of two replicas serves the creation of the home workspace, and they pull from each
other. -/

def homeReplicaStore (replica : Bool) : EventStore :=
  if replica then
    EventStore.empty
  else
    EventStore.empty.after homePrimitives homeJson [signedHome]

theorem homeReplicaStore_false :
    homeReplicaStore false = EventStore.empty.after homePrimitives homeJson [signedHome] := by
  simp only [homeReplicaStore, Bool.false_eq_true, if_false]

theorem homeReplicaStore_true : homeReplicaStore true = EventStore.empty := by
  simp only [homeReplicaStore, if_true]

def homeReplicas : ReplicaNetwork Bool where
  store := homeReplicaStore
  pending _ := none

theorem homeReplicas_store (replica : Bool) : homeReplicas.store replica = homeReplicaStore replica :=
  rfl

theorem homeReplicas_initial : homeReplicas.Initial homePrimitives homeJson := by
  intro replica
  cases replica with
  | false => exact ⟨rfl, [signedHome], (homeReplicas_store false).trans homeReplicaStore_false⟩
  | true => exact ⟨rfl, [], (homeReplicas_store true).trans homeReplicaStore_true⟩

def homePullSteps : List (ReplicaStep Bool) :=
  [.plan true false, .pull true true, .plan false true, .pull false true]

/-- The contacts of the steps, and what the first replica has before and after, evaluated at
once. -/
theorem homeReplicas_facts :
    homeReplicas.contacts homePrimitives homeJson ⟨"w"⟩ homePullSteps =
        [.note true false, .learn true, .note false true, .learn false] ∧
      (homeReplicas.store false).getServableEvent homeJson signedHome.eventId =
          some signedHome ∧
        signedHome.eventId ∈
          (homeReplicas.store false).listServableEventIdsForWorkspace (⟨"w"⟩ : WorkspaceId).text := by
  decide +kernel

theorem homeReplicas_reached (source reader : Bool) :
    Carries (homeReplicas.contacts homePrimitives homeJson ⟨"w"⟩ homePullSteps) (.knows source)
      (.knows reader) := by
  have isContacts := homeReplicas_facts.1
  have nothingBetween (replica : Bool) :
      ∀ contact ∈ ([] : List (Contact Bool)), contact.Keeps (.noted replica) := by
    simp
  rw [isContacts]
  cases source with
  | false =>
      cases reader with
      | false => exact carries_known _ false
      | true =>
          exact carries_of_exchange [] [.note false true, .learn false] (nothingBetween true)
  | true =>
      cases reader with
      | false =>
          exact carries_of_exchange [.note true false, .learn true] [] (nothingBetween false)
      | true => exact carries_known _ true

theorem homeReplicas_identified :
    OneWorkspacePerId (homeReplicas.servedEvents homeJson ∪ appendedBy ([] ++ homePullSteps)) := by
  have isHome :
      ∀ event ∈ homeReplicas.servedEvents homeJson ∪ appendedBy ([] ++ homePullSteps),
        event = signedHome := by
    intro event member
    rcases member with served | appended
    · obtain ⟨replica, eventId, isServed⟩ := served
      rw [homeReplicas_store] at isServed
      cases replica with
      | true => cases isServed
      | false =>
          rw [homeReplicaStore_false] at isServed
          exact List.mem_singleton.mp (copy_of_served homeJson_roundTrips [signedHome] isServed).1
    · obtain ⟨replica, member⟩ := appended
      simp [homePullSteps] at member
  intro first isFirst second isSecond _
  rw [isHome first isFirst, isHome second isSecond]

theorem home_isServed :
    (homeReplicas.store false).getServableEvent homeJson signedHome.eventId =
      some signedHome :=
  homeReplicas_facts.2.1

theorem homeReplicas_spreadHome :
    ∃ copy,
      ((homeReplicas.after homePrimitives homeJson ⟨"w"⟩ ([] ++ homePullSteps)).store
          true).getServableEvent homeJson signedHome.eventId =
        some copy ∧ copy.event.workspaceId = ⟨"w"⟩ :=
  replicas_spread homePrimitives homeJson homeJson_roundTrips ⟨"w"⟩ homeReplicas
    homeReplicas_initial [] homePullSteps homeReplicas_identified false true
    (homeReplicas_reached false true) signedHome.eventId signedHome home_isServed rfl

theorem homeReplicas_convergeHome :
    signedHome.eventId ∈
      ((homeReplicas.after homePrimitives homeJson ⟨"w"⟩
        ([] ++ homePullSteps)).store true).listServableEventIdsForWorkspace "w" := by
  rw [show "w" = (⟨"w"⟩ : WorkspaceId).text from rfl,
    replicas_converge homePrimitives homeJson homeJson_roundTrips ⟨"w"⟩ homeReplicas
      homeReplicas_initial [] homePullSteps homeReplicas_identified
      (by simp [homePullSteps]) homeReplicas_reached true signedHome.eventId]
  refine ⟨false, ?_⟩
  exact homeReplicas_facts.2.2

end Chaft
