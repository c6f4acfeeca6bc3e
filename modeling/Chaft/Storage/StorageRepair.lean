import Mathlib.Data.List.Forall2
import Chaft.Storage.EventStore

/-!
# Repairing the storage metadata

The flag `self_contained_signature_valid` repeats what the JSON of a row already says.  A
health report counts where the two disagree, and a repair writes the flag again from the
JSON.  Neither assumes anything of the table: a row may hold any bytes and any flag.
-/

namespace Chaft

open Outcome

def boundedEventJsonOrNone
    (actualBytes : Nat) (bytes : Option (List UInt8)) : Option (List UInt8) :=
  if actualBytes > eventJsonMaxBytes then none
  else bytes.filter fun bytes => decide (bytes.length ≤ eventJsonMaxBytes)

/-! ## The health report -/

structure WorkspaceEventStorageHealth where
  workspaceId : String
  totalEventCount : Nat
  parseableEventCount : Nat
  corruptEventCount : Nat
  signatureValidMetadataCount : Nat
  servableEventCount : Nat
  poisonedServableMetadataCount : Nat
  promotableServableMetadataCount : Nat
  nonServableParseableEventCount : Nat
  deriving DecidableEq, Repr

/-- The counters before the first row. -/
def WorkspaceEventStorageHealth.unread (workspaceId : String) : WorkspaceEventStorageHealth where
  workspaceId := workspaceId
  totalEventCount := 0
  parseableEventCount := 0
  corruptEventCount := 0
  signatureValidMetadataCount := 0
  servableEventCount := 0
  poisonedServableMetadataCount := 0
  promotableServableMetadataCount := 0
  nonServableParseableEventCount := 0

section Health

variable (primitives : Primitives) (json : EventJson)

/-- A row without a readable event. -/
def WorkspaceEventStorageHealth.countCorrupt
    (health : WorkspaceEventStorageHealth) (hasSignatureValidMetadata : Bool) :
    WorkspaceEventStorageHealth :=
  let health := { health with corruptEventCount := health.corruptEventCount + 1 }
  if hasSignatureValidMetadata then
    { health with poisonedServableMetadataCount := health.poisonedServableMetadataCount + 1 }
  else
    health

/-- What the row holds, next to what its mark says. -/
def WorkspaceEventStorageHealth.countContent
    (health : WorkspaceEventStorageHealth) (hasSignatureValidMetadata : Bool)
    (eventJson : Option (List UInt8)) : WorkspaceEventStorageHealth :=
  match eventJson with
  | none => health.countCorrupt hasSignatureValidMetadata
  | some bytes =>
      match json.fromSlice bytes with
      | none => health.countCorrupt hasSignatureValidMetadata
      | some event =>
          let isServable := isServableEvent primitives event
          let health := { health with parseableEventCount := health.parseableEventCount + 1 }
          let health :=
            if isServable then
              { health with servableEventCount := health.servableEventCount + 1 }
            else
              { health with
                nonServableParseableEventCount := health.nonServableParseableEventCount + 1 }
          if hasSignatureValidMetadata && !isServable then
            { health with
              poisonedServableMetadataCount := health.poisonedServableMetadataCount + 1 }
          else if !hasSignatureValidMetadata && isServable then
            { health with
              promotableServableMetadataCount := health.promotableServableMetadataCount + 1 }
          else
            health

/-- The body of the loop over the rows. -/
def WorkspaceEventStorageHealth.countRow
    (health : WorkspaceEventStorageHealth) (row : EventRow) : WorkspaceEventStorageHealth :=
  let (actualBytes, bytes) := row.boundedJson
  let hasSignatureValidMetadata := row.isMarkedValid
  let health := { health with totalEventCount := health.totalEventCount + 1 }
  let health :=
    if hasSignatureValidMetadata then
      { health with signatureValidMetadataCount := health.signatureValidMetadataCount + 1 }
    else
      health
  health.countContent primitives json hasSignatureValidMetadata
    (boundedEventJsonOrNone actualBytes bytes)

def EventStore.workspaceEventStorageHealth
    (store : EventStore) (workspaceId : String) : WorkspaceEventStorageHealth :=
  (store.workspaceRows workspaceId).foldl
    (WorkspaceEventStorageHealth.countRow primitives json) (.unread workspaceId)

end Health

/-! ## The repair -/

structure WorkspaceEventStorageRepair where
  workspaceId : String
  totalEventCount : Nat
  parseableEventCount : Nat
  corruptEventCount : Nat
  signatureValidMetadataBeforeCount : Nat
  signatureValidMetadataAfterCount : Nat
  repairedMetadataCount : Nat
  promotedServableMetadataCount : Nat
  clearedUnservableMetadataCount : Nat
  deriving DecidableEq, Repr

/-- The counters and the pending updates of the first pass. -/
structure RepairScan where
  totalEventCount : Nat
  parseableEventCount : Nat
  corruptEventCount : Nat
  signatureValidMetadataBeforeCount : Nat
  signatureValidMetadataAfterCount : Nat
  promotedServableMetadataCount : Nat
  clearedUnservableMetadataCount : Nat
  updates : List (EventId × Bool)

def RepairScan.unread : RepairScan where
  totalEventCount := 0
  parseableEventCount := 0
  corruptEventCount := 0
  signatureValidMetadataBeforeCount := 0
  signatureValidMetadataAfterCount := 0
  promotedServableMetadataCount := 0
  clearedUnservableMetadataCount := 0
  updates := []

section Repair

variable (primitives : Primitives) (json : EventJson)

/-- Whether the row should be marked, with the counters of what was read. -/
def RepairScan.classify
    (scan : RepairScan) (eventJson : Option (List UInt8)) : RepairScan × Bool :=
  match eventJson with
  | some bytes =>
      match json.fromSlice bytes with
      | some event =>
          ({ scan with parseableEventCount := scan.parseableEventCount + 1 },
            isServableEvent primitives event)
      | none => ({ scan with corruptEventCount := scan.corruptEventCount + 1 }, false)
  | none => ({ scan with corruptEventCount := scan.corruptEventCount + 1 }, false)

/-- The body of the first loop. -/
def RepairScan.readRow (scan : RepairScan) (row : EventRow) : RepairScan :=
  let (actualBytes, bytes) := row.boundedJson
  let current := row.isMarkedValid
  let scan := { scan with totalEventCount := scan.totalEventCount + 1 }
  let scan :=
    if current then
      { scan with
        signatureValidMetadataBeforeCount := scan.signatureValidMetadataBeforeCount + 1 }
    else
      scan
  let (scan, repaired) :=
    scan.classify primitives json (boundedEventJsonOrNone actualBytes bytes)
  let scan :=
    if repaired then
      { scan with
        signatureValidMetadataAfterCount := scan.signatureValidMetadataAfterCount + 1 }
    else
      scan
  if current ≠ repaired then
    let scan :=
      if repaired then
        { scan with promotedServableMetadataCount := scan.promotedServableMetadataCount + 1 }
      else
        { scan with clearedUnservableMetadataCount := scan.clearedUnservableMetadataCount + 1 }
    { scan with updates := scan.updates ++ [(row.eventId, repaired)] }
  else
    scan

/-- `UPDATE events SET self_contained_signature_valid = … WHERE event_id = …`, on one row. -/
def EventRow.updateMark (row : EventRow) (update : EventId × Bool) : EventRow :=
  if row.eventId = update.1 then
    { row with selfContainedSignatureValid := some (boolToSqliteInteger update.2) }
  else
    row

@[simp] theorem EventRow.updateMark_eventId (row : EventRow) (update : EventId × Bool) :
    (row.updateMark update).eventId = row.eventId := by
  unfold updateMark
  split <;> rfl

def EventStore.updateMark (store : EventStore) (update : EventId × Bool) : EventStore where
  rows := store.rows.map fun row => row.updateMark update
  distinct := by
    have sameIds :
        (store.rows.map fun row => row.updateMark update).map EventRow.eventId =
          store.rows.map EventRow.eventId := by
      rw [List.map_map]
      exact List.map_congr_left fun row _ => row.updateMark_eventId update
    rw [sameIds]
    exact store.distinct

/-- The report and the table it leaves. -/
def EventStore.repairWorkspaceEventStorageMetadata
    (store : EventStore) (workspaceId : String) : WorkspaceEventStorageRepair × EventStore :=
  let scan :=
    (store.workspaceRows workspaceId).foldl (RepairScan.readRow primitives json) .unread
  ({ workspaceId := workspaceId
     totalEventCount := scan.totalEventCount
     parseableEventCount := scan.parseableEventCount
     corruptEventCount := scan.corruptEventCount
     signatureValidMetadataBeforeCount := scan.signatureValidMetadataBeforeCount
     signatureValidMetadataAfterCount := scan.signatureValidMetadataAfterCount
     repairedMetadataCount := scan.updates.length
     promotedServableMetadataCount := scan.promotedServableMetadataCount
     clearedUnservableMetadataCount := scan.clearedUnservableMetadataCount },
    scan.updates.foldl EventStore.updateMark store)

end Repair

/-! ## What a row holds -/

section Rows

variable (primitives : Primitives) (json : EventJson)

/-- The event that the row can be read as. -/
def EventRow.storedEvent (row : EventRow) : Option SignedEvent :=
  if row.eventJson.length ≤ eventJsonMaxBytes then json.fromSlice row.eventJson else none

/-- The row holds an event that a peer may be served. -/
def EventRow.holdsServable (row : EventRow) : Bool :=
  (row.storedEvent json).any (isServableEvent primitives)

/-- The row as a repair leaves it. -/
def EventRow.repaired (row : EventRow) : EventRow :=
  if row.isMarkedValid = row.holdsServable primitives json then row
  else
    { row with
      selfContainedSignatureValid :=
        some (boolToSqliteInteger (row.holdsServable primitives json)) }

/-- The change that a repair makes to the row. -/
def EventRow.pendingUpdate (row : EventRow) : Option (EventId × Bool) :=
  if row.isMarkedValid = row.holdsServable primitives json then none
  else some (row.eventId, row.holdsServable primitives json)

variable {primitives json}

theorem boundedJson_bind_fromSlice (row : EventRow) :
    (boundedEventJsonOrNone row.boundedJson.1 row.boundedJson.2).bind json.fromSlice =
      row.storedEvent json := by
  unfold EventRow.boundedJson boundedEventJsonOrNone EventRow.storedEvent
  by_cases small : row.eventJson.length ≤ eventJsonMaxBytes
  · have within : ¬row.eventJson.length > eventJsonMaxBytes := by omega
    simp [small, within, Option.filter]
  · have beyond : row.eventJson.length > eventJsonMaxBytes := by omega
    simp [small, beyond]

theorem EventRow.repaired_eq_self {row : EventRow}
    (agrees : row.isMarkedValid = row.holdsServable primitives json) :
    row.repaired primitives json = row :=
  if_pos agrees

theorem EventRow.repaired_eq_of_ne {row : EventRow}
    (differs : row.isMarkedValid ≠ row.holdsServable primitives json) :
    row.repaired primitives json =
      { row with
        selfContainedSignatureValid :=
          some (boolToSqliteInteger (row.holdsServable primitives json)) } :=
  if_neg differs

@[simp] theorem EventRow.repaired_eventId (row : EventRow) :
    (row.repaired primitives json).eventId = row.eventId := by
  unfold repaired
  split <;> rfl

@[simp] theorem EventRow.repaired_workspaceId (row : EventRow) :
    (row.repaired primitives json).workspaceId = row.workspaceId := by
  unfold repaired
  split <;> rfl

@[simp] theorem EventRow.repaired_eventJson (row : EventRow) :
    (row.repaired primitives json).eventJson = row.eventJson := by
  unfold repaired
  split <;> rfl

@[simp] theorem EventRow.repaired_storedEvent (row : EventRow) :
    (row.repaired primitives json).storedEvent json = row.storedEvent json := by
  simp only [storedEvent, repaired_eventJson]

@[simp] theorem EventRow.repaired_holdsServable (row : EventRow) :
    (row.repaired primitives json).holdsServable primitives json =
      row.holdsServable primitives json := by
  simp only [holdsServable, repaired_storedEvent]

/-- A repaired row is marked exactly when it holds a servable event. -/
@[simp] theorem EventRow.repaired_isMarkedValid (row : EventRow) :
    (row.repaired primitives json).isMarkedValid = row.holdsServable primitives json := by
  by_cases agrees : row.isMarkedValid = row.holdsServable primitives json
  · rw [repaired_eq_self agrees, agrees]
  · rw [repaired_eq_of_ne agrees]
    cases row.holdsServable primitives json <;>
      simp [isMarkedValid, boolToSqliteInteger]

theorem EventRow.repaired_repaired (row : EventRow) :
    (row.repaired primitives json).repaired primitives json = row.repaired primitives json := by
  apply repaired_eq_self
  rw [repaired_isMarkedValid, repaired_holdsServable]

end Rows

/-! ## What the passes count -/

section Counts

variable {primitives : Primitives} {json : EventJson}

theorem countContent_eq
    (health : WorkspaceEventStorageHealth) (marked : Bool) (eventJson : Option (List UInt8)) :
    health.countContent primitives json marked eventJson =
      let stored := eventJson.bind json.fromSlice
      let servable := stored.any (isServableEvent primitives)
      { health with
        parseableEventCount := health.parseableEventCount + (if stored.isSome then 1 else 0)
        corruptEventCount := health.corruptEventCount + (if stored.isNone then 1 else 0)
        servableEventCount := health.servableEventCount + (if servable then 1 else 0)
        poisonedServableMetadataCount :=
          health.poisonedServableMetadataCount + (if marked && !servable then 1 else 0)
        promotableServableMetadataCount :=
          health.promotableServableMetadataCount + (if !marked && servable then 1 else 0)
        nonServableParseableEventCount :=
          health.nonServableParseableEventCount +
            (if stored.isSome && !servable then 1 else 0) } := by
  cases eventJson with
  | none => cases marked <;> rfl
  | some bytes =>
      unfold WorkspaceEventStorageHealth.countContent
      dsimp only [Option.bind_some]
      cases json.fromSlice bytes with
      | none => cases marked <;> rfl
      | some event =>
          by_cases servable : isServableEvent primitives event = true
          · cases marked <;> simp [servable]
          · cases marked <;> simp [servable]

theorem countRow_eq (health : WorkspaceEventStorageHealth) (row : EventRow) :
    health.countRow primitives json row =
      { health with
        totalEventCount := health.totalEventCount + 1
        parseableEventCount :=
          health.parseableEventCount + (if (row.storedEvent json).isSome then 1 else 0)
        corruptEventCount :=
          health.corruptEventCount + (if (row.storedEvent json).isNone then 1 else 0)
        signatureValidMetadataCount :=
          health.signatureValidMetadataCount + (if row.isMarkedValid then 1 else 0)
        servableEventCount :=
          health.servableEventCount + (if row.holdsServable primitives json then 1 else 0)
        poisonedServableMetadataCount :=
          health.poisonedServableMetadataCount +
            (if row.isMarkedValid && !row.holdsServable primitives json then 1 else 0)
        promotableServableMetadataCount :=
          health.promotableServableMetadataCount +
            (if !row.isMarkedValid && row.holdsServable primitives json then 1 else 0)
        nonServableParseableEventCount :=
          health.nonServableParseableEventCount +
            (if (row.storedEvent json).isSome && !row.holdsServable primitives json then 1
              else 0) } := by
  unfold WorkspaceEventStorageHealth.countRow
  dsimp only
  rw [countContent_eq, boundedJson_bind_fromSlice]
  cases row.isMarkedValid <;> rfl

theorem foldl_countRow (rows : List EventRow) (health : WorkspaceEventStorageHealth) :
    rows.foldl (WorkspaceEventStorageHealth.countRow primitives json) health =
      { health with
        totalEventCount := health.totalEventCount + rows.length
        parseableEventCount :=
          health.parseableEventCount + rows.countP fun row => (row.storedEvent json).isSome
        corruptEventCount :=
          health.corruptEventCount + rows.countP fun row => (row.storedEvent json).isNone
        signatureValidMetadataCount :=
          health.signatureValidMetadataCount + rows.countP EventRow.isMarkedValid
        servableEventCount :=
          health.servableEventCount + rows.countP (EventRow.holdsServable primitives json)
        poisonedServableMetadataCount :=
          health.poisonedServableMetadataCount +
            rows.countP fun row => row.isMarkedValid && !row.holdsServable primitives json
        promotableServableMetadataCount :=
          health.promotableServableMetadataCount +
            rows.countP fun row => !row.isMarkedValid && row.holdsServable primitives json
        nonServableParseableEventCount :=
          health.nonServableParseableEventCount +
            rows.countP fun row =>
              (row.storedEvent json).isSome && !row.holdsServable primitives json } := by
  induction rows generalizing health with
  | nil => rfl
  | cons row rest inductionHypothesis =>
      rw [List.foldl_cons, inductionHypothesis, countRow_eq]
      simp only [List.length_cons, List.countP_cons, WorkspaceEventStorageHealth.mk.injEq, true_and]
      omega

theorem classify_eq (scan : RepairScan) (eventJson : Option (List UInt8)) :
    scan.classify primitives json eventJson =
      ({ scan with
          parseableEventCount :=
            scan.parseableEventCount +
              (if (eventJson.bind json.fromSlice).isSome then 1 else 0)
          corruptEventCount :=
            scan.corruptEventCount +
              (if (eventJson.bind json.fromSlice).isNone then 1 else 0) },
        (eventJson.bind json.fromSlice).any (isServableEvent primitives)) := by
  cases eventJson with
  | none => rfl
  | some bytes =>
      unfold RepairScan.classify
      dsimp only [Option.bind_some]
      split
      next event read => simp [read]
      next read => simp [read]

theorem readRow_eq (scan : RepairScan) (row : EventRow) :
    scan.readRow primitives json row =
      { totalEventCount := scan.totalEventCount + 1
        parseableEventCount :=
          scan.parseableEventCount + (if (row.storedEvent json).isSome then 1 else 0)
        corruptEventCount :=
          scan.corruptEventCount + (if (row.storedEvent json).isNone then 1 else 0)
        signatureValidMetadataBeforeCount :=
          scan.signatureValidMetadataBeforeCount + (if row.isMarkedValid then 1 else 0)
        signatureValidMetadataAfterCount :=
          scan.signatureValidMetadataAfterCount +
            (if row.holdsServable primitives json then 1 else 0)
        promotedServableMetadataCount :=
          scan.promotedServableMetadataCount +
            (if !row.isMarkedValid && row.holdsServable primitives json then 1 else 0)
        clearedUnservableMetadataCount :=
          scan.clearedUnservableMetadataCount +
            (if row.isMarkedValid && !row.holdsServable primitives json then 1 else 0)
        updates := scan.updates ++ (row.pendingUpdate primitives json).toList } := by
  unfold RepairScan.readRow EventRow.pendingUpdate
  dsimp only
  have holds :
      (row.storedEvent json).any (isServableEvent primitives) =
        row.holdsServable primitives json :=
    rfl
  simp only [classify_eq, boundedJson_bind_fromSlice, holds]
  cases row.isMarkedValid <;> cases row.holdsServable primitives json <;> simp

theorem foldl_readRow (rows : List EventRow) (scan : RepairScan) :
    rows.foldl (RepairScan.readRow primitives json) scan =
      { totalEventCount := scan.totalEventCount + rows.length
        parseableEventCount :=
          scan.parseableEventCount + rows.countP fun row => (row.storedEvent json).isSome
        corruptEventCount :=
          scan.corruptEventCount + rows.countP fun row => (row.storedEvent json).isNone
        signatureValidMetadataBeforeCount :=
          scan.signatureValidMetadataBeforeCount + rows.countP EventRow.isMarkedValid
        signatureValidMetadataAfterCount :=
          scan.signatureValidMetadataAfterCount +
            rows.countP (EventRow.holdsServable primitives json)
        promotedServableMetadataCount :=
          scan.promotedServableMetadataCount +
            rows.countP fun row => !row.isMarkedValid && row.holdsServable primitives json
        clearedUnservableMetadataCount :=
          scan.clearedUnservableMetadataCount +
            rows.countP fun row => row.isMarkedValid && !row.holdsServable primitives json
        updates := scan.updates ++ rows.filterMap (EventRow.pendingUpdate primitives json) } := by
  induction rows generalizing scan with
  | nil => simp
  | cons row rest inductionHypothesis =>
      rw [List.foldl_cons, inductionHypothesis, readRow_eq]
      have updates :
          (row.pendingUpdate primitives json).toList ++
              rest.filterMap (EventRow.pendingUpdate primitives json) =
            (row :: rest).filterMap (EventRow.pendingUpdate primitives json) := by
        rw [List.filterMap_cons]
        cases row.pendingUpdate primitives json <;> rfl
      simp only [List.length_cons, List.countP_cons, List.append_assoc, updates,
        RepairScan.mk.injEq, and_true]
      omega

/-- Marks gained and lost lead from the one count to the other. -/
theorem countP_exchange (rows : List EventRow) (current due : EventRow → Bool) :
    rows.countP current + rows.countP (fun row => !current row && due row) =
      rows.countP due + rows.countP fun row => current row && !due row := by
  induction rows with
  | nil => rfl
  | cons row rest inductionHypothesis =>
      simp only [List.countP_cons]
      cases current row <;> cases due row <;>
        simp only [Bool.not_true, Bool.not_false, Bool.and_true, Bool.and_false,
          Bool.false_eq_true, if_true, if_false] <;>
        omega

/-- As many rows are corrected as lose or gain the mark. -/
theorem length_pendingUpdates (rows : List EventRow) :
    (rows.filterMap (EventRow.pendingUpdate primitives json)).length =
      (rows.countP fun row => !row.isMarkedValid && row.holdsServable primitives json) +
        rows.countP fun row => row.isMarkedValid && !row.holdsServable primitives json := by
  induction rows with
  | nil => rfl
  | cons row rest inductionHypothesis =>
      unfold EventRow.pendingUpdate at inductionHypothesis ⊢
      simp only [List.filterMap_cons, List.countP_cons]
      cases row.isMarkedValid <;> cases row.holdsServable primitives json <;>
        simp only [if_true, if_false, List.length_cons, inductionHypothesis, Bool.not_true,
          Bool.not_false, Bool.and_true, Bool.and_false, Bool.false_eq_true,
          Bool.true_eq_false] <;>
        omega

end Counts

/-! ## What a repair changes -/

section Changes

variable {primitives : Primitives} {json : EventJson}

theorem rows_foldl_updateMark (updates : List (EventId × Bool)) (store : EventStore) :
    (updates.foldl EventStore.updateMark store).rows =
      store.rows.map fun row => updates.foldl EventRow.updateMark row := by
  induction updates generalizing store with
  | nil => simp
  | cons update rest inductionHypothesis =>
      rw [List.foldl_cons, inductionHypothesis]
      simp only [EventStore.updateMark, List.map_map, List.foldl_cons]
      rfl

/-- Updates that agree on a row either leave it or set its mark. -/
theorem foldl_updateMark_row
    {updates : List (EventId × Bool)} {row : EventRow} {value : Bool}
    (agree : ∀ update ∈ updates, update.1 = row.eventId → update.2 = value) :
    updates.foldl EventRow.updateMark row =
      if row.eventId ∈ updates.map Prod.fst then
        { row with selfContainedSignatureValid := some (boolToSqliteInteger value) }
      else
        row := by
  induction updates generalizing row with
  | nil => simp
  | cons update rest inductionHypothesis =>
      have later : ∀ update ∈ rest, update.1 = row.eventId → update.2 = value :=
        fun update member => agree update (List.mem_cons_of_mem _ member)
      rw [List.foldl_cons, EventRow.updateMark]
      by_cases named : row.eventId = update.1
      · have sameValue : update.2 = value := agree update List.mem_cons_self named.symm
        have marked :=
          @inductionHypothesis
            { row with selfContainedSignatureValid := some (boolToSqliteInteger value) } later
        rw [if_pos named, sameValue, marked]
        have member : row.eventId ∈ (update :: rest).map Prod.fst := by simp [named]
        rw [if_pos member]
        split <;> rfl
      · rw [if_neg named, inductionHypothesis later]
        simp [named]

namespace EventStore

/-- Every row of the workspace is repaired, and no other one. -/
theorem rows_repair (store : EventStore) (workspaceId : String) :
    (store.repairWorkspaceEventStorageMetadata primitives json workspaceId).2.rows =
      store.rows.map fun row =>
        if row.workspaceId = workspaceId then row.repaired primitives json else row := by
  unfold repairWorkspaceEventStorageMetadata
  dsimp only
  rw [foldl_readRow, rows_foldl_updateMark]
  refine List.map_congr_left fun row member => ?_
  simp only [RepairScan.unread, List.nil_append]
  have own :
      ∀ update ∈ (store.workspaceRows workspaceId).filterMap
          (EventRow.pendingUpdate primitives json),
        update.1 = row.eventId →
          row.workspaceId = workspaceId ∧ row.pendingUpdate primitives json = some update := by
    intro update isUpdate named
    obtain ⟨other, isRow, pending⟩ := List.mem_filterMap.mp isUpdate
    rw [workspaceRows, List.mem_filter, decide_eq_true_eq] at isRow
    have otherId : other.eventId = update.1 := by
      unfold EventRow.pendingUpdate at pending
      split at pending
      · cases pending
      · rw [← Option.some.inj pending]
    have same : other = row :=
      List.inj_on_of_nodup_map store.distinct isRow.1 member (otherId.trans named)
    rw [← same]
    exact ⟨isRow.2, pending⟩
  have agree :
      ∀ update ∈ (store.workspaceRows workspaceId).filterMap
          (EventRow.pendingUpdate primitives json),
        update.1 = row.eventId → update.2 = row.holdsServable primitives json := by
    intro update isUpdate named
    have pending := (own update isUpdate named).2
    unfold EventRow.pendingUpdate at pending
    split at pending
    · cases pending
    · rw [← Option.some.inj pending]
  rw [foldl_updateMark_row agree]
  by_cases inWorkspace : row.workspaceId = workspaceId
  · rw [if_pos inWorkspace]
    by_cases agrees : row.isMarkedValid = row.holdsServable primitives json
    · rw [EventRow.repaired_eq_self agrees]
      refine if_neg fun listed => ?_
      obtain ⟨update, isUpdate, named⟩ := List.mem_map.mp listed
      have pending := (own update isUpdate named).2
      rw [EventRow.pendingUpdate, if_pos agrees] at pending
      cases pending
    · rw [EventRow.repaired_eq_of_ne agrees]
      refine if_pos (List.mem_map.mpr ⟨(row.eventId, row.holdsServable primitives json), ?_, rfl⟩)
      refine List.mem_filterMap.mpr ⟨row, ?_, if_neg agrees⟩
      rw [workspaceRows, List.mem_filter, decide_eq_true_eq]
      exact ⟨member, inWorkspace⟩
  · rw [if_neg inWorkspace]
    refine if_neg fun listed => ?_
    obtain ⟨update, isUpdate, named⟩ := List.mem_map.mp listed
    exact inWorkspace (own update isUpdate named).1

/-- The rows of the workspace after a repair. -/
theorem workspaceRows_repair (store : EventStore) (workspaceId : String) :
    (store.repairWorkspaceEventStorageMetadata primitives json workspaceId).2.workspaceRows
        workspaceId =
      (store.workspaceRows workspaceId).map (EventRow.repaired primitives json) := by
  rw [workspaceRows, rows_repair, workspaceRows]
  induction store.rows with
  | nil => rfl
  | cons row rest inductionHypothesis =>
      rw [List.map_cons]
      by_cases inWorkspace : row.workspaceId = workspaceId
      · rw [if_pos inWorkspace, List.filter_cons_of_pos (by simp [inWorkspace]),
          List.filter_cons_of_pos (by simp [inWorkspace]), inductionHypothesis, List.map_cons]
      · rw [if_neg inWorkspace, List.filter_cons_of_neg (by simp [inWorkspace]),
          List.filter_cons_of_neg (by simp [inWorkspace]), inductionHypothesis]

end EventStore

end Changes

/-! ## Convergence -/

section Convergence

variable (primitives : Primitives) (json : EventJson)

/-- What a repair of the workspace leaves: a healthy workspace, a report that balances, and
a table that differs from the earlier one in the marks of the workspace alone. -/
structure EventStore.RepairConverges (store : EventStore) (workspaceId : String) : Prop where
  noPoisoned :
    ((store.repairWorkspaceEventStorageMetadata primitives json workspaceId).2
      |>.workspaceEventStorageHealth primitives json
        workspaceId).poisonedServableMetadataCount = 0
  noPromotable :
    ((store.repairWorkspaceEventStorageMetadata primitives json workspaceId).2
      |>.workspaceEventStorageHealth primitives json
        workspaceId).promotableServableMetadataCount = 0
  validAreServable :
    ((store.repairWorkspaceEventStorageMetadata primitives json workspaceId).2
        |>.workspaceEventStorageHealth primitives json
          workspaceId).signatureValidMetadataCount =
      ((store.repairWorkspaceEventStorageMetadata primitives json workspaceId).2
        |>.workspaceEventStorageHealth primitives json workspaceId).servableEventCount
  balances :
    let repair := (store.repairWorkspaceEventStorageMetadata primitives json workspaceId).1
    (repair.signatureValidMetadataBeforeCount : Int) + repair.promotedServableMetadataCount -
        repair.clearedUnservableMetadataCount =
      repair.signatureValidMetadataAfterCount
  repaired :
    let repair := (store.repairWorkspaceEventStorageMetadata primitives json workspaceId).1
    repair.repairedMetadataCount =
      repair.promotedServableMetadataCount + repair.clearedUnservableMetadataCount
  settled :
    let after := (store.repairWorkspaceEventStorageMetadata primitives json workspaceId).2
    (after.repairWorkspaceEventStorageMetadata primitives json workspaceId).2 = after ∧
      (after.repairWorkspaceEventStorageMetadata primitives json
        workspaceId).1.repairedMetadataCount = 0
  onlyMarks :
    List.Forall₂
      (fun before after : EventRow =>
        after =
            { before with selfContainedSignatureValid := after.selfContainedSignatureValid } ∧
          (before.workspaceId ≠ workspaceId → after = before))
      store.rows
      (store.repairWorkspaceEventStorageMetadata primitives json workspaceId).2.rows
  servesVerified :
    ∀ event ∈
      (store.repairWorkspaceEventStorageMetadata primitives json
        workspaceId).2.listServableEventsForWorkspace json workspaceId,
      verifySelfContainedEvent primitives event = .ok ()

variable {primitives json}

/-- The rows of a repaired workspace are marked exactly as they should be. -/
theorem countP_repaired_eq_zero
    {rows : List EventRow} {picks : EventRow → Bool}
    (never : ∀ row : EventRow, picks (row.repaired primitives json) = false) :
    (rows.map (EventRow.repaired primitives json)).countP picks = 0 := by
  rw [List.countP_eq_zero]
  intro row member
  obtain ⟨before, -, rfl⟩ := List.mem_map.mp member
  rw [never before]
  exact Bool.false_ne_true

namespace EventStore

/-- The health of a repaired workspace. -/
theorem health_repair (store : EventStore) (workspaceId : String) :
    ((store.repairWorkspaceEventStorageMetadata primitives json workspaceId).2
        |>.workspaceEventStorageHealth primitives json workspaceId) =
      ((store.workspaceRows workspaceId).map (EventRow.repaired primitives json)).foldl
        (WorkspaceEventStorageHealth.countRow primitives json) (.unread workspaceId) := by
  rw [workspaceEventStorageHealth, workspaceRows_repair]

theorem rows_repair_repair (store : EventStore) (workspaceId : String) :
    ((store.repairWorkspaceEventStorageMetadata primitives json workspaceId).2
        |>.repairWorkspaceEventStorageMetadata primitives json workspaceId).2 =
      (store.repairWorkspaceEventStorageMetadata primitives json workspaceId).2 := by
  have sameRows :
      ((store.repairWorkspaceEventStorageMetadata primitives json workspaceId).2
          |>.repairWorkspaceEventStorageMetadata primitives json workspaceId).2.rows =
        (store.repairWorkspaceEventStorageMetadata primitives json workspaceId).2.rows := by
    rw [rows_repair, rows_repair, List.map_map]
    refine List.map_congr_left fun row _ => ?_
    by_cases inWorkspace : row.workspaceId = workspaceId
    · simp [inWorkspace, EventRow.repaired_repaired]
    · simp [inWorkspace]
  cases isTwice : ((store.repairWorkspaceEventStorageMetadata primitives json workspaceId).2
      |>.repairWorkspaceEventStorageMetadata primitives json workspaceId).2
  cases isOnce : (store.repairWorkspaceEventStorageMetadata primitives json workspaceId).2
  rw [isOnce] at isTwice sameRows
  rw [isTwice] at sameRows
  cases sameRows
  rfl

/-- The report counts the rows that it changes. -/
theorem repairedMetadataCount_eq (store : EventStore) (workspaceId : String) :
    (store.repairWorkspaceEventStorageMetadata primitives json
        workspaceId).1.repairedMetadataCount =
      ((store.workspaceRows workspaceId).countP fun row =>
          !row.isMarkedValid && row.holdsServable primitives json) +
        (store.workspaceRows workspaceId).countP fun row =>
          row.isMarkedValid && !row.holdsServable primitives json := by
  simp only [repairWorkspaceEventStorageMetadata, foldl_readRow, RepairScan.unread,
    List.nil_append]
  exact length_pendingUpdates _

/-- A served row of a repaired workspace holds an event that verifies. -/
theorem verified_of_served_after_repair
    {store : EventStore} {workspaceId : String} {event : SignedEvent}
    (served : event ∈
      (store.repairWorkspaceEventStorageMetadata primitives json
        workspaceId).2.listServableEventsForWorkspace json workspaceId) :
    verifySelfContainedEvent primitives event = .ok () := by
  obtain ⟨row, isRow, parsed⟩ := List.mem_filterMap.mp served
  rw [List.mem_filter, Bool.and_eq_true, decide_eq_true_eq, isServableRow, Bool.and_eq_true,
    decide_eq_true_eq, decide_eq_true_eq] at isRow
  obtain ⟨member, inWorkspace, marked, small⟩ := isRow
  have repaired : row ∈
      (store.repairWorkspaceEventStorageMetadata primitives json workspaceId).2.workspaceRows
        workspaceId := by
    rw [workspaceRows, List.mem_filter, decide_eq_true_eq]
    exact ⟨member, inWorkspace⟩
  rw [workspaceRows_repair] at repaired
  obtain ⟨before, -, isRepaired⟩ := List.mem_map.mp repaired
  have isMarked : row.isMarkedValid = true := by
    rw [EventRow.isMarkedValid, marked]
    rfl
  rw [← isRepaired, EventRow.repaired_isMarkedValid] at isMarked
  have stored : before.storedEvent json = some event := by
    rw [← isRepaired, EventRow.repaired_eventJson] at parsed small
    rw [EventRow.storedEvent, if_pos small, parsed]
  rw [EventRow.holdsServable, stored, Option.any_some, isServableEvent] at isMarked
  cases outcome : verifySelfContainedEvent primitives event with
  | error raised =>
      rw [outcome] at isMarked
      cases isMarked
  | ok done => rfl

/-- Whatever the table holds, a repair of the workspace converges. -/
theorem repair_converges
    (primitives : Primitives) (json : EventJson) (store : EventStore) (workspaceId : String) :
    store.RepairConverges primitives json workspaceId where
  noPoisoned := by
    rw [health_repair, foldl_countRow]
    simp only [WorkspaceEventStorageHealth.unread, Nat.zero_add]
    exact countP_repaired_eq_zero fun row => by simp
  noPromotable := by
    rw [health_repair, foldl_countRow]
    simp only [WorkspaceEventStorageHealth.unread, Nat.zero_add]
    exact countP_repaired_eq_zero fun row => by simp
  validAreServable := by
    rw [health_repair, foldl_countRow]
    simp only [WorkspaceEventStorageHealth.unread, Nat.zero_add, List.countP_map]
    congr 1
    funext row
    simp
  balances := by
    simp only [repairWorkspaceEventStorageMetadata, foldl_readRow, RepairScan.unread,
      Nat.zero_add]
    have exchanged :=
      countP_exchange (store.workspaceRows workspaceId) EventRow.isMarkedValid
        (EventRow.holdsServable primitives json)
    omega
  repaired := by
    dsimp only
    rw [repairedMetadataCount_eq]
    simp only [repairWorkspaceEventStorageMetadata, foldl_readRow, RepairScan.unread,
      Nat.zero_add]
  settled := by
    refine ⟨rows_repair_repair store workspaceId, ?_⟩
    rw [repairedMetadataCount_eq, workspaceRows_repair,
      countP_repaired_eq_zero fun row => by simp, countP_repaired_eq_zero fun row => by simp]
  onlyMarks := by
    rw [rows_repair, List.forall₂_map_right_iff, List.forall₂_same]
    intro row _
    by_cases inWorkspace : row.workspaceId = workspaceId
    · rw [if_pos inWorkspace]
      refine ⟨?_, fun other => absurd inWorkspace other⟩
      unfold EventRow.repaired
      split <;> rfl
    · rw [if_neg inWorkspace]
      exact ⟨rfl, fun _ => rfl⟩
  servesVerified := fun _ served => verified_of_served_after_repair served

end EventStore

end Convergence

end Chaft
