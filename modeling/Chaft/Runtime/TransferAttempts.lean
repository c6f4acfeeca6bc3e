import Chaft.Library.Trace
import Chaft.Runtime.TransferLedger
import Chaft.Security.Identity

/-!
# Attempts that stay apart

Attempts are told apart by a text of the start time, the count, the peer and the blob.  Two
attempts for different workspaces or endpoints can have the same of each, and a ledger can grow
above the limit of its readers.  As long as neither happens, the ledger can be read, its
attempts are apart, and finishing one touches no other.
-/

namespace Chaft

open Outcome SlashPath Text

/-! ## The text of an attempt -/

namespace BlobTransferAttempt

/-- What the ID of an attempt says. -/
def mark (attempt : BlobTransferAttempt) : UInt64 × UInt32 × String × String :=
  (attempt.startedAtUnixMs, attempt.attemptCount, attempt.peerId, attempt.blobHash)

/-- What an attempt sends, and where. -/
def target (attempt : BlobTransferAttempt) : String × String × String × String :=
  (attempt.workspaceId, attempt.peerId, attempt.peerEndpoint, attempt.blobHash)

/-- The attempt has the ID of its mark, and texts within the limits of the reader. -/
structure Named (attempt : BlobTransferAttempt) : Prop where
  isId :
    attempt.attemptId =
      attemptIdText attempt.startedAtUnixMs attempt.attemptCount attempt.peerId attempt.blobHash
  workspace : attempt.workspaceId.utf8ByteSize ≤ workspaceIdMaxBytes
  peer : attempt.peerId.utf8ByteSize ≤ peerEndpointIdMaxBytes
  endpoint : attempt.peerEndpoint.utf8ByteSize ≤ peerEndpointMaxBytes
  blob : isBlobHash attempt.blobHash = true

end BlobTransferAttempt

private theorem utf8ByteSize_of_isBlobHash
    {hash : String} (isHash : isBlobHash hash = true) : hash.utf8ByteSize = 64 := by
  simp only [isBlobHash, Bool.and_eq_true, decide_eq_true_eq, List.all_eq_true] at isHash
  have narrow : ∀ symbol ∈ hash.toList, symbol.utf8Size = 1 := by
    intro symbol member
    have digit := isHash.2 symbol member
    simp only [isLowerHexDigit, Bool.or_eq_true, Bool.and_eq_true, decide_eq_true_eq,
      Char.le_def, UInt32.le_iff_toNat_le] at digit
    have small : symbol.val ≤ 0x7f := by
      rw [UInt32.le_iff_toNat_le]
      simp only [Char.reduceVal, UInt32.reduceToNat] at digit ⊢
      omega
    exact Char.utf8Size_eq_one_iff.mpr small
  have size := Text.utf8ByteSize_ofList narrow
  rw [String.ofList_toList] at size
  omega

private theorem utf8ByteSize_repr {number digits : Nat} (positive : 0 < digits)
    (small : number < 10 ^ digits) : number.repr.utf8ByteSize ≤ digits := by
  have narrow : ∀ symbol ∈ Nat.toDigits 10 number, symbol.utf8Size = 1 := by
    intro symbol member
    have isDigit := Nat.isDigit_of_mem_toDigits (by decide) (by decide) member
    have bounds := (Bool.and_eq_true _ _).mp isDigit
    have high : symbol.val ≤ '9'.val := of_decide_eq_true bounds.2
    have small : symbol.val ≤ 0x7f := by
      rw [UInt32.le_iff_toNat_le] at high ⊢
      simp only [Char.reduceVal, UInt32.reduceToNat] at high ⊢
      omega
    exact Char.utf8Size_eq_one_iff.mpr small
  rw [Nat.repr_eq_ofList_toDigits, Text.utf8ByteSize_ofList narrow]
  exact (Nat.length_toDigits_le_iff (by decide) positive).mpr small

private theorem attemptIdText_short
    (startedAtUnixMs : UInt64) (attemptCount : UInt32) {peerId blobHash : String}
    (peer : peerId.utf8ByteSize ≤ peerEndpointIdMaxBytes) (blob : isBlobHash blobHash = true) :
    (startedAtUnixMs.toNat.repr ++ ":" ++ attemptCount.toNat.repr ++ ":" ++ peerId ++ ":" ++
        blobHash).utf8ByteSize ≤ blobTransferAttemptIdMaxBytes := by
  have started : startedAtUnixMs.toNat.repr.utf8ByteSize ≤ 20 :=
    utf8ByteSize_repr (by decide) (by have bound := startedAtUnixMs.toNat_lt; omega)
  have count : attemptCount.toNat.repr.utf8ByteSize ≤ 10 :=
    utf8ByteSize_repr (by decide) (by have bound := attemptCount.toNat_lt; omega)
  have hash := utf8ByteSize_of_isBlobHash blob
  have colon : ":".utf8ByteSize = 1 := by decide
  simp only [String.utf8ByteSize_append, blobTransferAttemptIdMaxBytes, attachmentBlobHashMaxBytes,
    peerEndpointIdMaxBytes] at peer ⊢
  omega

/-- The ID of an attempt is never cut. -/
theorem attemptIdText_eq
    (startedAtUnixMs : UInt64) (attemptCount : UInt32) {peerId blobHash : String}
    (peer : peerId.utf8ByteSize ≤ peerEndpointIdMaxBytes) (blob : isBlobHash blobHash = true) :
    attemptIdText startedAtUnixMs attemptCount peerId blobHash =
      startedAtUnixMs.toNat.repr ++ ":" ++ attemptCount.toNat.repr ++ ":" ++ peerId ++ ":" ++
        blobHash :=
  truncateStringBytes_of_le (attemptIdText_short startedAtUnixMs attemptCount peer blob)

private theorem cut_unique
    {separator : Char} {left right after otherAfter : List Char} (absent : separator ∉ left)
    (otherAbsent : separator ∉ right)
    (same : left ++ separator :: after = right ++ separator :: otherAfter) :
    left = right ∧ after = otherAfter := by
  have cut := splitOnce_append absent after
  rw [same, splitOnce_append otherAbsent otherAfter] at cut
  exact ⟨(congrArg Prod.fst (Option.some.inj cut)).symm,
    (congrArg Prod.snd (Option.some.inj cut)).symm⟩

private theorem colon_not_mem_repr (number : Nat) : ':' ∉ number.repr.toList := by
  rw [Nat.toList_repr]
  intro member
  have isDigit := Nat.isDigit_of_mem_toDigits (by decide) (by decide) member
  exact absurd isDigit (by decide)

namespace BlobTransferAttempt

/-- Attempts with the same ID have the same mark. -/
theorem Named.attemptId_eq_iff
    {left right : BlobTransferAttempt} (isNamed : left.Named) (otherNamed : right.Named) :
    left.attemptId = right.attemptId ↔ left.mark = right.mark := by
  constructor
  · intro same
    rw [isNamed.isId, otherNamed.isId, attemptIdText_eq _ _ isNamed.peer isNamed.blob,
      attemptIdText_eq _ _ otherNamed.peer otherNamed.blob] at same
    have symbols := congrArg String.toList same
    simp only [String.toList_append] at symbols
    have colon : ":".toList = [':'] := by decide
    have hashes : left.blobHash.toList.length = right.blobHash.toList.length := by
      have isHash := isNamed.blob
      have otherHash := otherNamed.blob
      simp only [isBlobHash, Bool.and_eq_true, decide_eq_true_eq] at isHash otherHash
      rw [isHash.1, otherHash.1]
    obtain ⟨front, blob⟩ := List.append_inj' symbols hashes
    obtain ⟨front, -⟩ := List.append_inj' front rfl
    simp only [colon, List.append_assoc, List.singleton_append] at front
    obtain ⟨started, front⟩ :=
      cut_unique (colon_not_mem_repr _) (colon_not_mem_repr _) front
    obtain ⟨count, peer⟩ := cut_unique (colon_not_mem_repr _) (colon_not_mem_repr _) front
    rw [Nat.toList_repr, Nat.toList_repr] at started count
    have sameStart := UInt64.toNat_inj.mp (toDigits_injective started)
    have sameCount := UInt32.toNat_inj.mp (toDigits_injective count)
    have samePeer := String.toList_inj.mp peer
    have sameBlob := String.toList_inj.mp blob
    simp only [mark, sameStart, sameCount, samePeer, sameBlob]
  · intro same
    simp only [mark, Prod.mk.injEq] at same
    rw [isNamed.isId, otherNamed.isId, same.1, same.2.1, same.2.2.1, same.2.2.2]

/-- Readers cut none of the texts that tell an attempt and its target. -/
theorem Named.normalizeAfterRead_eq
    {attempt : BlobTransferAttempt} (isNamed : attempt.Named) :
    attempt.normalizeAfterRead =
      refreshCounts
        { attempt with
          chunkSize := if attempt.mode = .wholeBlob then none else attempt.chunkSize
          chunkHashes := attempt.keptHashes attempt.chunkHashes
          plannedChunkHashes := attempt.keptHashes attempt.plannedChunkHashes
          remoteAvailableChunkHashes := attempt.keptHashes attempt.remoteAvailableChunkHashes
          error := truncateStringOptionBytes attempt.error blobTransferAttemptErrorMaxBytes } := by
  have idSize : attempt.attemptId.utf8ByteSize ≤ blobTransferAttemptIdMaxBytes := by
    rw [isNamed.isId, attemptIdText_eq _ _ isNamed.peer isNamed.blob]
    exact attemptIdText_short _ _ isNamed.peer isNamed.blob
  have blobSize : attempt.blobHash.utf8ByteSize ≤ attachmentBlobHashMaxBytes := by
    rw [utf8ByteSize_of_isBlobHash isNamed.blob]
    decide
  rw [BlobTransferAttempt.normalizeAfterRead, truncateStringBytes_of_le idSize,
    truncateStringBytes_of_le isNamed.workspace, truncateStringBytes_of_le isNamed.peer,
    truncateStringBytes_of_le isNamed.endpoint, truncateStringBytes_of_le blobSize]

/-- Readers leave the ID and the target of an attempt as they are. -/
theorem Named.normalizeAfterRead
    {attempt : BlobTransferAttempt} (isNamed : attempt.Named) :
    attempt.normalizeAfterRead.attemptId = attempt.attemptId ∧
      attempt.normalizeAfterRead.target = attempt.target ∧
        attempt.normalizeAfterRead.mark = attempt.mark ∧ attempt.normalizeAfterRead.Named := by
  rw [isNamed.normalizeAfterRead_eq]
  exact ⟨rfl, rfl, rfl, isNamed.isId, isNamed.workspace, isNamed.peer, isNamed.endpoint,
    isNamed.blob⟩

end BlobTransferAttempt

/-! ## Lists of entries -/

private theorem length_drainOldest (entries : List BlobTransferAttempt) :
    (drainOldest entries).length ≤ blobTransferLedgerMaxEntries := by
  rw [drainOldest, List.length_drop]
  omega

private theorem drainOldest_of_few
    {entries : List BlobTransferAttempt} (few : entries.length ≤ blobTransferLedgerMaxEntries) :
    drainOldest entries = entries := by
  rw [drainOldest, Nat.sub_eq_zero_of_le few, List.drop_zero]

/-- The entries that stay when one more is recorded. -/
def keptEntries (entries : List BlobTransferAttempt) : List BlobTransferAttempt :=
  entries.drop (entries.length + 1 - blobTransferLedgerMaxEntries)

private theorem drainOldest_append
    {entries : List BlobTransferAttempt} (few : entries.length ≤ blobTransferLedgerMaxEntries)
    (entry : BlobTransferAttempt) :
    drainOldest (entries ++ [entry]) = keptEntries entries ++ [entry] := by
  rw [drainOldest, keptEntries, List.length_append, List.length_singleton,
    List.drop_append_of_le_length]
  rw [blobTransferLedgerMaxEntries] at few ⊢
  omega

/-! ## Calls -/

/-- A runtime's ledger, the attempts that it recorded, and those of them that are not finished. -/
structure LedgerWorld where
  files : SecretFiles
  recorded : List BlobTransferAttempt
  running : List BlobTransferAttempt

inductive LedgerCall where
  | started (transfer : PlannedTransfer) (nowUnixMs : UInt64)
  /-- The attempt is one of those that are not finished. -/
  | finished (index : Nat) (status : BlobTransferStatus) (error : Option String)
      (nowUnixMs : UInt64)
  | reconcileCompleted (workspaceId : String) (peer : PeerAddress) (blobHash : String)
      (nowUnixMs : UInt64)
  | reconcileSatisfied (workspaceId blobHash : String) (nowUnixMs : UInt64)

section Calls

variable (json : LedgerJson) (place : Place)

def LedgerWorld.perform (world : LedgerWorld) : LedgerCall → LedgerWorld
  | .started transfer nowUnixMs =>
      match recordBlobTransferStarted json place world.files transfer nowUnixMs with
      | (.error _, files) => { world with files }
      | (.ok attempt, files) =>
          { files
            recorded := world.recorded ++ [attempt]
            running := world.running ++ [attempt] }
  | .finished index status error nowUnixMs =>
      match world.running[index]? with
      | none => world
      | some attempt =>
          { world with
            files :=
              (recordBlobTransferFinished json place world.files attempt status error nowUnixMs).2
            running := world.running.eraseIdx index }
  | .reconcileCompleted workspaceId peer blobHash nowUnixMs =>
      { world with
        files :=
          (reconcileCompletedBlobTransferAttempts json place world.files workspaceId peer blobHash
            nowUnixMs).2 }
  | .reconcileSatisfied workspaceId blobHash nowUnixMs =>
      { world with
        files :=
          (reconcileSatisfiedBlobTransferAttempts json place world.files workspaceId blobHash
            nowUnixMs).2 }

/-- Before the first call. -/
def LedgerWorld.empty : LedgerWorld :=
  ⟨fun _ => none, [], []⟩

/-- The workspace is one the runtime looks up, and the blob one of a blob store. -/
structure PlannedTransfer.Valid (transfer : PlannedTransfer) : Prop where
  workspace : transfer.workspaceId.utf8ByteSize ≤ workspaceIdMaxBytes
  blob : isBlobHash transfer.blobHash = true

def LedgerCall.Valid : LedgerCall → Prop
  | .started transfer _ => transfer.Valid
  | .finished .. | .reconcileCompleted .. | .reconcileSatisfied .. => True

/-- Finishing replaces the entry of the attempt, or records it once more. -/
structure FinishesOnly
    (before after : List BlobTransferAttempt) (attempt finished : BlobTransferAttempt) : Prop where
  sameTarget : finished.target = attempt.target
  sameId : finished.attemptId = attempt.attemptId
  change :
    (∃ index entry, before[index]? = some entry ∧ entry.attemptId = attempt.attemptId ∧
        entry.target = attempt.target ∧ after = before.set index finished) ∨
      (∀ entry ∈ before, entry.attemptId ≠ attempt.attemptId) ∧
        after = drainOldest (before ++ [finished])

/-- The ledger can be read, its attempts are apart and as they were recorded, and finishing an
attempt changes its entry only. -/
def LedgerWorld.InOrder (world : LedgerWorld) : Prop :=
  ∃ ledger, readBlobTransferLedger json place world.files = .ok ledger ∧
    ledger.entries.length ≤ blobTransferLedgerMaxEntries ∧
      (ledger.entries.map BlobTransferAttempt.attemptId).Nodup ∧
        (∀ entry ∈ ledger.entries, ∃ attempt ∈ world.recorded,
          attempt.attemptId = entry.attemptId ∧ attempt.target = entry.target) ∧
          ∀ (index : Nat) (attempt : BlobTransferAttempt) (status : BlobTransferStatus)
            (error : Option String) (nowUnixMs : UInt64) (finished : BlobTransferAttempt)
            (after : SecretFiles),
            world.running[index]? = some attempt →
              recordBlobTransferFinished json place world.files attempt status error nowUnixMs =
                  (.ok finished, after) →
                ∃ entries bytes,
                  json.toVecPretty ⟨blobTransferLedgerSchemaVersion, entries⟩ = some bytes ∧
                    after = Function.update world.files place (some (bytes ++ [newline])) ∧
                      FinishesOnly ledger.entries entries attempt finished

/-- The JSON of the entries and its newline are within the limit of readers. -/
def LedgerJson.Fits (entries : List BlobTransferAttempt) : Prop :=
  ∀ bytes, json.toVecPretty ⟨blobTransferLedgerSchemaVersion, entries⟩ = some bytes →
    bytes.length + 1 ≤ blobTransferLedgerMaxBytes

/-- A new attempt differs in its mark from those that stay recorded and those that are not
finished, and the ledger that is written can be read. -/
def LedgerCall.Meets (world : LedgerWorld) : LedgerCall → Prop
  | .started transfer nowUnixMs =>
      ∀ ledger, readBlobTransferLedger json place world.files = .ok ledger →
        (∀ entry ∈ keptEntries ledger.entries ++ world.running,
          entry.mark ≠
            (nowUnixMs, transfer.nextAttemptCount ledger.entries, transfer.peer.peerId,
              transfer.blobHash)) ∧
          json.Fits (startedEntries transfer nowUnixMs ledger.entries)
  | .finished index status error nowUnixMs =>
      ∀ ledger attempt, readBlobTransferLedger json place world.files = .ok ledger →
        world.running[index]? = some attempt →
          json.Fits
            (finishedEntries (finishedAttempt attempt status error nowUnixMs) ledger.entries)
  | .reconcileCompleted workspaceId peer blobHash nowUnixMs =>
      ∀ ledger, readBlobTransferLedger json place world.files = .ok ledger →
        json.Fits
          (reconciledEntries (isCompletedTransfer workspaceId peer blobHash) nowUnixMs
            ledger.entries)
  | .reconcileSatisfied workspaceId blobHash nowUnixMs =>
      ∀ ledger, readBlobTransferLedger json place world.files = .ok ledger →
        json.Fits
          (reconciledEntries (isSatisfiedTransfer workspaceId blobHash) nowUnixMs ledger.entries)

end Calls

/-! ## Entries that stay apart -/

/-- The entries, the attempts that were recorded and those that are not finished. -/
structure Apart (recorded running entries : List BlobTransferAttempt) : Prop where
  few : entries.length ≤ blobTransferLedgerMaxEntries
  named : ∀ entry ∈ entries, entry.Named
  distinct : (entries.map BlobTransferAttempt.mark).Nodup
  traced :
    ∀ entry ∈ entries, ∃ attempt ∈ recorded,
      attempt.attemptId = entry.attemptId ∧ attempt.target = entry.target
  runningNamed : ∀ attempt ∈ running, attempt.Named
  runningDistinct : (running.map BlobTransferAttempt.mark).Nodup
  runningRecorded : ∀ attempt ∈ running, attempt ∈ recorded
  sameTarget :
    ∀ entry ∈ entries, ∀ attempt ∈ running, entry.mark = attempt.mark →
      entry.target = attempt.target

namespace Apart

variable {recorded running entries : List BlobTransferAttempt}

/-- Changes of entries that leave their IDs and targets as they are. -/
theorem map
    (apart : Apart recorded running entries) {change : BlobTransferAttempt → BlobTransferAttempt}
    (keeps :
      ∀ entry, entry.Named →
        (change entry).attemptId = entry.attemptId ∧ (change entry).target = entry.target ∧
          (change entry).mark = entry.mark ∧ (change entry).Named) :
    Apart recorded running (entries.map change) := by
  have sameMarks :
      (entries.map change).map BlobTransferAttempt.mark =
        entries.map BlobTransferAttempt.mark := by
    rw [List.map_map]
    exact List.map_congr_left fun entry member => (keeps entry (apart.named entry member)).2.2.1
  constructor
  · rw [List.length_map]
    exact apart.few
  · intro changed member
    obtain ⟨entry, isEntry, rfl⟩ := List.mem_map.mp member
    exact (keeps entry (apart.named entry isEntry)).2.2.2
  · rw [sameMarks]
    exact apart.distinct
  · intro changed member
    obtain ⟨entry, isEntry, rfl⟩ := List.mem_map.mp member
    have kept := keeps entry (apart.named entry isEntry)
    rw [kept.1, kept.2.1]
    exact apart.traced entry isEntry
  · exact apart.runningNamed
  · exact apart.runningDistinct
  · exact apart.runningRecorded
  · intro changed member attempt isRunning sameMark
    obtain ⟨entry, isEntry, rfl⟩ := List.mem_map.mp member
    have kept := keeps entry (apart.named entry isEntry)
    rw [kept.2.1]
    exact apart.sameTarget entry isEntry attempt isRunning (kept.2.2.1.symm.trans sameMark)

theorem normalized (apart : Apart recorded running entries) :
    Apart recorded running (entries.map BlobTransferAttempt.normalizeAfterRead) :=
  apart.map fun _ isNamed => isNamed.normalizeAfterRead

theorem reconciled
    (apart : Apart recorded running entries) (isMeant : BlobTransferAttempt → Bool)
    (nowUnixMs : UInt64) :
    Apart recorded running (reconciledEntries isMeant nowUnixMs entries) := by
  apply apart.map
  intro entry isNamed
  by_cases pending : isMeant entry ∧ entry.status ≠ .succeeded
  · rw [if_pos pending]
    exact ⟨rfl, rfl, rfl, isNamed.isId, isNamed.workspace, isNamed.peer, isNamed.endpoint,
      isNamed.blob⟩
  · rw [if_neg pending]
    exact ⟨rfl, rfl, rfl, isNamed⟩

/-- An attempt is no longer waited for. -/
theorem forget (apart : Apart recorded running entries) (index : Nat) :
    Apart recorded (running.eraseIdx index) entries := by
  have stays : ∀ attempt ∈ running.eraseIdx index, attempt ∈ running :=
    fun _ member => List.mem_of_mem_eraseIdx member
  refine ⟨apart.few, apart.named, apart.distinct, apart.traced, ?_, ?_, ?_, ?_⟩
  · exact fun attempt member => apart.runningNamed attempt (stays attempt member)
  · exact apart.runningDistinct.sublist ((List.eraseIdx_sublist running index).map _)
  · exact fun attempt member => apart.runningRecorded attempt (stays attempt member)
  · exact fun entry isEntry attempt member =>
      apart.sameTarget entry isEntry attempt (stays attempt member)

/-- The oldest entries can go. -/
theorem kept (apart : Apart recorded running entries) :
    Apart recorded running (keptEntries entries) := by
  have stays : ∀ entry ∈ keptEntries entries, entry ∈ entries :=
    fun _ member => List.mem_of_mem_drop member
  refine ⟨?_, ?_, ?_, ?_, apart.runningNamed, apart.runningDistinct, apart.runningRecorded, ?_⟩
  · exact ((List.drop_sublist _ entries).length_le).trans apart.few
  · exact fun entry member => apart.named entry (stays entry member)
  · exact apart.distinct.sublist ((List.drop_sublist _ entries).map _)
  · exact fun entry member => apart.traced entry (stays entry member)
  · exact fun entry member => apart.sameTarget entry (stays entry member)

/-- An attempt of another mark is recorded and waited for. -/
theorem waitFor
    (apart : Apart recorded running entries) {attempt : BlobTransferAttempt}
    (isNamed : attempt.Named)
    (fresh : ∀ other ∈ entries ++ running, other.mark ≠ attempt.mark) :
    Apart (recorded ++ [attempt]) (running ++ [attempt]) entries := by
  refine ⟨apart.few, apart.named, apart.distinct, ?_, ?_, ?_, ?_, ?_⟩
  · intro entry member
    obtain ⟨origin, isRecorded, same⟩ := apart.traced entry member
    exact ⟨origin, List.mem_append_left _ isRecorded, same⟩
  · intro other member
    rcases List.mem_append.mp member with old | new
    · exact apart.runningNamed other old
    · rw [List.mem_singleton.mp new]
      exact isNamed
  · rw [List.map_append, List.map_singleton, ← List.concat_eq_append, List.nodup_concat]
    refine ⟨?_, apart.runningDistinct⟩
    intro member
    obtain ⟨other, isRunning, same⟩ := List.mem_map.mp member
    exact fresh other (List.mem_append_right _ isRunning) same
  · intro other member
    rcases List.mem_append.mp member with old | new
    · exact List.mem_append_left _ (apart.runningRecorded other old)
    · exact List.mem_append_right _ new
  · intro entry isEntry other member sameMark
    rcases List.mem_append.mp member with old | new
    · exact apart.sameTarget entry isEntry other old sameMark
    · rw [List.mem_singleton.mp new] at sameMark
      exact absurd sameMark (fresh entry (List.mem_append_left _ isEntry))

/-- An entry joins entries of other marks. -/
theorem extend
    (apart : Apart recorded running entries) {entry : BlobTransferAttempt}
    (room : entries.length < blobTransferLedgerMaxEntries) (isNamed : entry.Named)
    (fresh : ∀ other ∈ entries, other.mark ≠ entry.mark)
    (isRecorded :
      ∃ attempt ∈ recorded, attempt.attemptId = entry.attemptId ∧ attempt.target = entry.target)
    (sameTarget :
      ∀ attempt ∈ running, entry.mark = attempt.mark → entry.target = attempt.target) :
    Apart recorded running (entries ++ [entry]) := by
  have each :
      ∀ property : BlobTransferAttempt → Prop, (∀ other ∈ entries, property other) →
        property entry → ∀ other ∈ entries ++ [entry], property other := by
    intro property ofEntries ofNew other member
    rcases List.mem_append.mp member with old | new
    · exact ofEntries other old
    · rw [List.mem_singleton.mp new]
      exact ofNew
  refine ⟨?_, ?_, ?_, ?_, apart.runningNamed, apart.runningDistinct, apart.runningRecorded, ?_⟩
  · rw [List.length_append, List.length_singleton]
    exact room
  · exact each _ apart.named isNamed
  · rw [List.map_append, List.map_singleton, ← List.concat_eq_append, List.nodup_concat]
    refine ⟨?_, apart.distinct⟩
    intro member
    obtain ⟨other, isEntry, same⟩ := List.mem_map.mp member
    exact fresh other isEntry same
  · exact each _ apart.traced isRecorded
  · exact each _ apart.sameTarget sameTarget

private theorem length_keptEntries
    (few : entries.length ≤ blobTransferLedgerMaxEntries) :
    (keptEntries entries).length < blobTransferLedgerMaxEntries := by
  rw [keptEntries, List.length_drop]
  rw [blobTransferLedgerMaxEntries] at few ⊢
  omega

/-- A new attempt pushes out the oldest. -/
theorem started
    (apart : Apart recorded running entries) {attempt : BlobTransferAttempt}
    (isNamed : attempt.Named)
    (fresh : ∀ other ∈ keptEntries entries ++ running, other.mark ≠ attempt.mark) :
    Apart (recorded ++ [attempt]) (running ++ [attempt]) (drainOldest (entries ++ [attempt])) := by
  rw [drainOldest_append apart.few]
  apply (apart.kept.waitFor isNamed fresh).extend (length_keptEntries apart.few) isNamed
  · exact fun other member => fresh other (List.mem_append_left _ member)
  · exact ⟨attempt, List.mem_append_right _ (List.mem_singleton_self attempt), rfl, rfl⟩
  · intro other member sameMark
    rcases List.mem_append.mp member with old | new
    · exact absurd sameMark.symm (fresh other (List.mem_append_right _ old))
    · rw [List.mem_singleton.mp new]

/-- Only the entry of the attempt is found by its ID. -/
theorem finishesOnly
    (apart : Apart recorded running entries) {index : Nat} {attempt : BlobTransferAttempt}
    (isRunning : running[index]? = some attempt) (status : BlobTransferStatus)
    (error : Option String) (nowUnixMs : UInt64) :
    FinishesOnly entries
      (finishedEntries (finishedAttempt attempt status error nowUnixMs) entries) attempt
      (finishedAttempt attempt status error nowUnixMs) := by
  refine ⟨rfl, rfl, ?_⟩
  have member : attempt ∈ running := List.mem_of_getElem? isRunning
  rw [finishedEntries]
  cases found :
      entries.findIdx? fun entry =>
        decide (entry.attemptId = (finishedAttempt attempt status error nowUnixMs).attemptId) with
  | none =>
      rw [List.findIdx?_eq_none_iff] at found
      refine Or.inr ⟨?_, rfl⟩
      intro entry isEntry
      exact of_decide_eq_false (found entry isEntry)
  | some position =>
      obtain ⟨inside, sameId, -⟩ := List.findIdx?_eq_some_iff_getElem.mp found
      have sameId := of_decide_eq_true sameId
      have isEntry : entries[position] ∈ entries := List.getElem_mem inside
      have sameMark :=
        ((apart.named _ isEntry).attemptId_eq_iff (apart.runningNamed attempt member)).mp sameId
      refine Or.inl ⟨position, entries[position], List.getElem?_eq_getElem inside, sameId,
        apart.sameTarget _ isEntry attempt member sameMark, ?_⟩
      apply drainOldest_of_few
      rw [List.length_set]
      exact apart.few

/-- An entry is replaced by one with its mark and target. -/
theorem replace
    (apart : Apart recorded running entries) {position : Nat} {entry new : BlobTransferAttempt}
    (isEntry : entries[position]? = some entry) (isNamed : new.Named)
    (sameId : new.attemptId = entry.attemptId) (sameTarget : new.target = entry.target)
    (sameMark : new.mark = entry.mark) :
    Apart recorded running (entries.set position new) := by
  have inEntries : entry ∈ entries := List.mem_of_getElem? isEntry
  have sameMarks :
      (entries.set position new).map BlobTransferAttempt.mark =
        entries.map BlobTransferAttempt.mark := by
    obtain ⟨inside, isItem⟩ := List.getElem?_eq_some_iff.mp isEntry
    rw [List.map_set, sameMark, ← isItem, ← List.getElem_map BlobTransferAttempt.mark,
      List.set_getElem_self]
    rwa [List.length_map]
  have each :
      ∀ property : BlobTransferAttempt → Prop, (∀ other ∈ entries, property other) →
        property new → ∀ other ∈ entries.set position new, property other := by
    intro property ofEntries ofNew other member
    rcases List.mem_or_eq_of_mem_set member with old | isNew
    · exact ofEntries other old
    · rw [isNew]
      exact ofNew
  refine ⟨?_, each _ apart.named isNamed, ?_, ?_, apart.runningNamed, apart.runningDistinct,
    apart.runningRecorded, ?_⟩
  · rw [List.length_set]
    exact apart.few
  · rw [sameMarks]
    exact apart.distinct
  · apply each _ apart.traced
    rw [sameId, sameTarget]
    exact apart.traced entry inEntries
  · apply each _ apart.sameTarget
    rw [sameMark, sameTarget]
    exact apart.sameTarget entry inEntries

/-- A finished attempt is no longer waited for. -/
theorem finished
    (apart : Apart recorded running entries) {index : Nat} {attempt : BlobTransferAttempt}
    (isRunning : running[index]? = some attempt) (status : BlobTransferStatus)
    (error : Option String) (nowUnixMs : UInt64) :
    Apart recorded (running.eraseIdx index)
      (finishedEntries (finishedAttempt attempt status error nowUnixMs) entries) := by
  have member : attempt ∈ running := List.mem_of_getElem? isRunning
  have attemptNamed := apart.runningNamed attempt member
  have isNamed : (finishedAttempt attempt status error nowUnixMs).Named :=
    ⟨attemptNamed.isId, attemptNamed.workspace, attemptNamed.peer, attemptNamed.endpoint,
      attemptNamed.blob⟩
  rcases (apart.finishesOnly isRunning status error nowUnixMs).change with
    ⟨position, entry, isEntry, sameId, sameTarget, replaced⟩ | ⟨absent, pushed⟩
  · have entryNamed := apart.named entry (List.mem_of_getElem? isEntry)
    have sameMark := (entryNamed.attemptId_eq_iff attemptNamed).mp sameId
    rw [replaced]
    exact (apart.forget index).replace isEntry isNamed sameId.symm sameTarget.symm sameMark.symm
  · rw [pushed, drainOldest_append apart.few]
    apply (apart.forget index).kept.extend (length_keptEntries apart.few) isNamed
    · intro other isKept sameMark
      have isEntry : other ∈ entries := List.mem_of_mem_drop isKept
      exact absent other isEntry
        (((apart.named other isEntry).attemptId_eq_iff attemptNamed).mpr sameMark)
    · exact ⟨attempt, apart.runningRecorded attempt member, rfl, rfl⟩
    · intro other isWaiting sameMark
      have isRunning : other ∈ running := List.mem_of_mem_eraseIdx isWaiting
      have same := List.inj_on_of_nodup_map apart.runningDistinct member isRunning sameMark
      rw [← same]
      rfl

end Apart

/-! ## Reading what was written -/

section Files

variable {json : LedgerJson} {place : Place}

theorem readBlobTransferLedger_of_written
    (roundTrips : json.RoundTrips) (files : SecretFiles) {entries : List BlobTransferAttempt}
    {bytes : List UInt8}
    (isWritten : json.toVecPretty ⟨blobTransferLedgerSchemaVersion, entries⟩ = some bytes)
    (few : entries.length ≤ blobTransferLedgerMaxEntries) (fits : json.Fits entries) :
    readBlobTransferLedger json place
        (Function.update files place (some (bytes ++ [newline]))) =
      .ok ⟨blobTransferLedgerSchemaVersion,
        entries.map BlobTransferAttempt.normalizeAfterRead⟩ := by
  have small : (bytes ++ [newline]).length ≤ blobTransferLedgerMaxBytes := by
    rw [List.length_append, List.length_singleton]
    exact fits bytes isWritten
  have isRead :
      readLocalMetadataFileWithLimit
          (Function.update files place (some (bytes ++ [newline]))) place
          blobTransferLedgerMaxBytes "blob transfer ledger" =
        .ok (some (bytes ++ [newline])) := by
    rw [readLocalMetadataFileWithLimit, Function.update_self]
    simp only [ensure, if_pos small, bind, Except.bind]
  simp only [readBlobTransferLedger, isRead, roundTrips _ _ isWritten, okOr, bind, Except.bind,
    ne_eq, not_true_eq_false, if_false, drainOldest_of_few few]

/-- A call that changes nothing, one whose ledger has no JSON, and one that writes. -/
theorem updateBlobTransferLedger_cases
    {α : Type} {files : SecretFiles} {ledger : BlobTransferLedger}
    (isRead : readBlobTransferLedger json place files = .ok ledger)
    (change : List BlobTransferAttempt → α × Option (List BlobTransferAttempt)) :
    ((change ledger.entries).2 = none ∧
        updateBlobTransferLedger json place files change = (.ok (change ledger.entries).1, files)) ∨
      ∃ entries, (change ledger.entries).2 = some entries ∧
        (updateBlobTransferLedger json place files change = (.error .serde, files) ∨
          ∃ bytes,
            json.toVecPretty { ledger with entries := entries } = some bytes ∧
              updateBlobTransferLedger json place files change =
                (.ok (change ledger.entries).1,
                  Function.update files place (some (bytes ++ [newline])))) := by
  simp only [updateBlobTransferLedger, isRead]
  cases changed : change ledger.entries with
  | mk result written =>
      cases written with
      | none => exact Or.inl ⟨rfl, rfl⟩
      | some entries =>
          refine Or.inr ⟨entries, rfl, ?_⟩
          simp only [writeBlobTransferLedger]
          cases isWritten : json.toVecPretty { ledger with entries := entries } with
          | none => exact Or.inl rfl
          | some bytes => exact Or.inr ⟨bytes, rfl, rfl⟩

theorem recordBlobTransferStarted_of_written
    {files : SecretFiles} {ledger : BlobTransferLedger} {transfer : PlannedTransfer}
    {nowUnixMs : UInt64} {bytes : List UInt8}
    (accepted : validatePeerAddress transfer.peer = .ok ())
    (isRead : readBlobTransferLedger json place files = .ok ledger)
    (isWritten :
      json.toVecPretty
          { ledger with entries := startedEntries transfer nowUnixMs ledger.entries } =
        some bytes) :
    recordBlobTransferStarted json place files transfer nowUnixMs =
      (.ok (transfer.attempt ledger.entries nowUnixMs),
        Function.update files place (some (bytes ++ [newline]))) := by
  simp only [recordBlobTransferStarted, accepted, updateBlobTransferLedger, isRead,
    writeBlobTransferLedger, isWritten, writeSecretFile]

theorem LedgerWorld.perform_started
    {world : LedgerWorld} {transfer : PlannedTransfer} {nowUnixMs : UInt64}
    {attempt : BlobTransferAttempt} {files : SecretFiles}
    (isRecorded :
      recordBlobTransferStarted json place world.files transfer nowUnixMs = (.ok attempt, files)) :
    world.perform json place (.started transfer nowUnixMs) =
      ⟨files, world.recorded ++ [attempt], world.running ++ [attempt]⟩ := by
  simp only [LedgerWorld.perform, isRecorded]

/-! ## Runs -/

/-- The ledger of a runtime is read, and its attempts are apart. -/
def LedgerWorld.Kept (json : LedgerJson) (place : Place) (world : LedgerWorld) : Prop :=
  ∃ entries,
    readBlobTransferLedger json place world.files = .ok ⟨blobTransferLedgerSchemaVersion, entries⟩ ∧
      Apart world.recorded world.running entries

/-- What a call writes is read by the next. -/
theorem LedgerWorld.Kept.of_update
    (roundTrips : json.RoundTrips) {α : Type} {files : SecretFiles}
    {entries recorded running : List BlobTransferAttempt}
    (isRead :
      readBlobTransferLedger json place files = .ok ⟨blobTransferLedgerSchemaVersion, entries⟩)
    (unchanged : Apart recorded running entries)
    (change : List BlobTransferAttempt → α × Option (List BlobTransferAttempt))
    (changed :
      ∀ new, (change entries).2 = some new → Apart recorded running new ∧ json.Fits new) :
    LedgerWorld.Kept json place
      ⟨(updateBlobTransferLedger json place files change).2, recorded, running⟩ := by
  rcases updateBlobTransferLedger_cases isRead change with
    ⟨-, outcome⟩ | ⟨new, isNew, outcome | ⟨bytes, isWritten, outcome⟩⟩
  · rw [outcome]
    exact ⟨entries, isRead, unchanged⟩
  · rw [outcome]
    exact ⟨entries, isRead, unchanged⟩
  · obtain ⟨apart, fits⟩ := changed new isNew
    rw [outcome]
    exact ⟨_, readBlobTransferLedger_of_written roundTrips files isWritten apart.few fits,
      apart.normalized⟩

/-- The attempt of an accepted call says what the call says. -/
theorem PlannedTransfer.Valid.named
    {transfer : PlannedTransfer} (valid : transfer.Valid)
    (accepted : validatePeerAddress transfer.peer = .ok ()) (entries : List BlobTransferAttempt)
    (nowUnixMs : UInt64) : (transfer.attempt entries nowUnixMs).Named := by
  simp only [validatePeerAddress, validatePeerEndpointInput, validateMetadataFieldSize,
    bind_eq_ok_iff, ensure_eq_ok_iff _ _ ()] at accepted
  obtain ⟨-, ⟨-, -, -, endpoint, -⟩, peer⟩ := accepted
  refine ⟨?_, valid.workspace, peer, endpoint, valid.blob⟩
  simp only [PlannedTransfer.attempt]

namespace LedgerWorld.Kept

variable {world : LedgerWorld}

private theorem started
    (roundTrips : json.RoundTrips) (kept : world.Kept json place) {transfer : PlannedTransfer}
    {nowUnixMs : UInt64} (valid : transfer.Valid)
    (meets : (LedgerCall.started transfer nowUnixMs).Meets json place world) :
    (world.perform json place (.started transfer nowUnixMs)).Kept json place := by
  obtain ⟨entries, isRead, apart⟩ := kept
  obtain ⟨fresh, fits⟩ := meets _ isRead
  simp only [LedgerWorld.perform, recordBlobTransferStarted]
  cases accepted : validatePeerAddress transfer.peer with
  | error raised => exact ⟨entries, isRead, apart⟩
  | ok done =>
      have isNamed := valid.named accepted entries nowUnixMs
      have after := apart.started isNamed fresh
      have outcomes := updateBlobTransferLedger_cases isRead fun entries =>
        (transfer.attempt entries nowUnixMs, some (startedEntries transfer nowUnixMs entries))
      rcases outcomes with ⟨isNone, -⟩ | ⟨new, isNew, outcome | ⟨bytes, isWritten, outcome⟩⟩
      · cases isNone
      · simp only [outcome]
        exact ⟨entries, isRead, apart⟩
      · have same : startedEntries transfer nowUnixMs entries = new := Option.some.inj isNew
        subst same
        simp only [outcome]
        exact ⟨_, readBlobTransferLedger_of_written roundTrips _ isWritten after.few fits,
          after.normalized⟩

/-- Every call that meets the condition leaves the attempts apart. -/
theorem perform
    (roundTrips : json.RoundTrips) (kept : world.Kept json place) {call : LedgerCall}
    (valid : call.Valid) (meets : call.Meets json place world) :
    (world.perform json place call).Kept json place := by
  cases call with
  | started transfer nowUnixMs => exact kept.started roundTrips valid meets
  | finished index status error nowUnixMs =>
      obtain ⟨entries, isRead, apart⟩ := kept
      rw [LedgerWorld.perform]
      cases isRunning : world.running[index]? with
      | none => exact ⟨entries, isRead, apart⟩
      | some attempt =>
          apply of_update roundTrips isRead (apart.forget index)
          intro new isNew
          have same :
              finishedEntries (finishedAttempt attempt status error nowUnixMs) entries = new :=
            Option.some.inj isNew
          subst same
          have fits := meets _ attempt isRead isRunning
          exact ⟨apart.finished isRunning status error nowUnixMs, fits⟩
  | reconcileCompleted workspaceId peer blobHash nowUnixMs =>
      obtain ⟨entries, isRead, apart⟩ := kept
      apply of_update roundTrips isRead apart
      intro new isNew
      obtain ⟨-, isNew⟩ := ite_eq_iff.mp isNew |>.resolve_left (by simp)
      cases isNew
      exact ⟨apart.reconciled _ nowUnixMs, meets _ isRead⟩
  | reconcileSatisfied workspaceId blobHash nowUnixMs =>
      obtain ⟨entries, isRead, apart⟩ := kept
      apply of_update roundTrips isRead apart
      intro new isNew
      obtain ⟨-, isNew⟩ := ite_eq_iff.mp isNew |>.resolve_left (by simp)
      cases isNew
      exact ⟨apart.reconciled _ nowUnixMs, meets _ isRead⟩

theorem empty (json : LedgerJson) (place : Place) : LedgerWorld.empty.Kept json place := by
  refine ⟨[], rfl, ?_⟩
  constructor <;> simp [LedgerWorld.empty]

/-- Kept attempts are in order. -/
theorem inOrder (kept : world.Kept json place) : world.InOrder json place := by
  obtain ⟨entries, isRead, apart⟩ := kept
  refine ⟨_, isRead, apart.few, ?_, apart.traced, ?_⟩
  · have distinct := apart.distinct
    rw [List.nodup_iff_pairwise_ne, List.pairwise_map] at distinct ⊢
    refine distinct.imp_of_mem ?_
    intro left right leftMember rightMember differ same
    exact differ
      (((apart.named left leftMember).attemptId_eq_iff (apart.named right rightMember)).mp same)
  · intro index attempt status error nowUnixMs finished after isRunning isDone
    have outcomes := updateBlobTransferLedger_cases isRead fun entries =>
      (finishedAttempt attempt status error nowUnixMs,
        some (finishedEntries (finishedAttempt attempt status error nowUnixMs) entries))
    rw [← recordBlobTransferFinished, isDone] at outcomes
    rcases outcomes with ⟨isNone, -⟩ | ⟨new, isNew, outcome | ⟨bytes, isWritten, outcome⟩⟩
    · cases isNone
    · cases outcome
    · have same :
          finishedEntries (finishedAttempt attempt status error nowUnixMs) entries = new :=
        Option.some.inj isNew
      subst same
      obtain ⟨isFinished, rfl⟩ := Prod.mk.inj outcome
      obtain rfl := Except.ok.inj isFinished
      exact ⟨_, bytes, isWritten, rfl, apart.finishesOnly isRunning status error nowUnixMs⟩

end LedgerWorld.Kept

end Files

def sentTransfer (workspaceId : String) : PlannedTransfer where
  workspaceId
  peer := ⟨"backup-node", "127.0.0.1:7777"⟩
  blobHash := "ea8f163db38682925e4491c5e58d4bb3506ef8c14eb78a86e908c5624a67200f"
  mode := .wholeBlob
  totalByteLen := 5
  chunkSize := none
  chunkHashes := []
  plannedChunkHashes := []
  remoteAvailableChunkHashes := []

def sentAttempt (workspaceId : String) : BlobTransferAttempt :=
  (sentTransfer workspaceId).attempt [] 1700000000000

def sentAttemptJson (workspaceId : String) : List String :=
  ["    \x7b\n      \"attemptId\": \"1700000000000:1:backup-node:",
    (sentTransfer workspaceId).blobHash, "\",\n      \"workspaceId\": \"", workspaceId,
    "\",\n      \"peerId\": \"backup-node\",\n      \"peerEndpoint\": \"127.0.0.1:7777\",\n",
    "      \"blobHash\": \"", (sentTransfer workspaceId).blobHash,
    "\",\n      \"mode\": \"wholeBlob\",\n      \"status\": \"inProgress\",\n",
    "      \"attemptCount\": 1,\n      \"totalByteLen\": 5,\n      \"chunkSize\": null,\n",
    "      \"chunkCount\": 0,\n      \"chunkHashes\": [],\n      \"plannedChunkCount\": 0,\n",
    "      \"plannedChunkHashes\": [],\n      \"remoteAvailableChunkCount\": 0,\n",
    "      \"remoteAvailableChunkHashes\": [],\n      \"startedAtUnixMs\": 1700000000000,\n",
    "      \"finishedAtUnixMs\": null,\n      \"error\": null\n    \x7d"]

def sentLedgerHead : List UInt8 :=
  asciiBytes (["\x7b\n  \"schemaVersion\": 1,\n  \"entries\": [\n"] ++ sentAttemptJson "w1")

def oneSentJson : List UInt8 :=
  sentLedgerHead ++ asciiBytes ["\n  ]\n\x7d"]

def twoSentJson : List UInt8 :=
  sentLedgerHead ++ asciiBytes ([",\n"] ++ sentAttemptJson "w2" ++ ["\n  ]\n\x7d"])

def oneSent : BlobTransferLedger :=
  ⟨blobTransferLedgerSchemaVersion, [sentAttempt "w1"]⟩

def twoSent : BlobTransferLedger :=
  ⟨blobTransferLedgerSchemaVersion, [sentAttempt "w1", sentAttempt "w2"]⟩

/-- The JSON of two ledgers. -/
def sentJson : LedgerJson where
  toVecPretty ledger :=
    if ledger = oneSent then
      some oneSentJson
    else if ledger = twoSent then
      some twoSentJson
    else
      none
  fromSlice bytes :=
    if bytes = oneSentJson ++ [newline] then
      some oneSent
    else if bytes = twoSentJson ++ [newline] then
      some twoSent
    else
      none

/-- What is computed about the transfers and the JSON. -/
private theorem sent_facts :
    validatePeerAddress (sentTransfer "").peer = .ok () ∧
      isBlobHash (sentTransfer "").blobHash = true ∧
      (sentTransfer "w2").nextAttemptCount [sentAttempt "w1"] =
        (sentTransfer "w2").nextAttemptCount [] ∧
      (asciiBytes ([",\n"] ++ sentAttemptJson "w2" ++ ["\n  ]\n\x7d"])).head? ≠
        (asciiBytes ["\n  ]\n\x7d"]).head? ∧
      ((["\x7b\n  \"schemaVersion\": 1,\n  \"entries\": [\n"] ++ sentAttemptJson "w1").map
        String.utf8ByteSize).sum ≤ 2000 ∧
      (["\n  ]\n\x7d"].map String.utf8ByteSize).sum ≤ 2000 ∧
      (([",\n"] ++ sentAttemptJson "w2" ++ ["\n  ]\n\x7d"]).map
        String.utf8ByteSize).sum ≤ 2000 := by
  decide +kernel

private theorem oneSentJson_ne : twoSentJson ≠ oneSentJson := by
  intro same
  obtain ⟨-, -, -, heads, -⟩ := sent_facts
  have tails := List.append_cancel_left same
  exact heads (congrArg List.head? tails)

private theorem twoSent_ne : twoSent ≠ oneSent := by
  intro same
  have lengths := congrArg (fun ledger : BlobTransferLedger => ledger.entries.length) same
  exact absurd lengths (by decide)

theorem sentJson_roundTrips : sentJson.RoundTrips := by
  intro ledger bytes isWritten
  dsimp only [sentJson] at isWritten ⊢
  by_cases one : ledger = oneSent
  · rw [if_pos one] at isWritten
    obtain rfl := Option.some.inj isWritten
    rw [if_pos rfl, one]
  · rw [if_neg one] at isWritten
    by_cases two : ledger = twoSent
    · rw [if_pos two] at isWritten
      obtain rfl := Option.some.inj isWritten
      have other : twoSentJson ++ [newline] ≠ oneSentJson ++ [newline] := by
        intro same
        exact oneSentJson_ne (List.append_cancel_right same)
      rw [if_neg other, if_pos rfl, two]
    · rw [if_neg two] at isWritten
      cases isWritten

private theorem sent_accepted (workspaceId : String) :
    validatePeerAddress (sentTransfer workspaceId).peer = .ok () := by
  have accepted := sent_facts.1
  exact accepted

private theorem sent_isBlobHash (workspaceId : String) :
    isBlobHash (sentTransfer workspaceId).blobHash = true := by
  have isHash := sent_facts.2.1
  exact isHash

private theorem sentTransfer_valid
    {workspaceId : String} (short : workspaceId.utf8ByteSize ≤ workspaceIdMaxBytes) :
    (sentTransfer workspaceId).Valid :=
  ⟨short, sent_isBlobHash workspaceId⟩

private theorem toVecPretty_oneSent : sentJson.toVecPretty oneSent = some oneSentJson := by
  dsimp only [sentJson]
  rw [if_pos rfl]

private theorem toVecPretty_twoSent : sentJson.toVecPretty twoSent = some twoSentJson := by
  dsimp only [sentJson]
  rw [if_neg twoSent_ne, if_pos rfl]

/-- The JSON of the two ledgers is small. -/
private theorem length_sentJson :
    oneSentJson.length + 1 ≤ blobTransferLedgerMaxBytes ∧
      twoSentJson.length + 1 ≤ blobTransferLedgerMaxBytes := by
  obtain ⟨-, -, -, -, sizes⟩ := sent_facts
  have head :=
    length_asciiBytes_le
      (["\x7b\n  \"schemaVersion\": 1,\n  \"entries\": [\n"] ++ sentAttemptJson "w1")
  have last := length_asciiBytes_le ["\n  ]\n\x7d"]
  have second := length_asciiBytes_le ([",\n"] ++ sentAttemptJson "w2" ++ ["\n  ]\n\x7d"])
  rw [oneSentJson, twoSentJson, sentLedgerHead, blobTransferLedgerMaxBytes, List.length_append,
    List.length_append]
  omega

private theorem oneSent_fits : sentJson.Fits oneSent.entries := by
  intro bytes isWritten
  obtain rfl := Option.some.inj (toVecPretty_oneSent.symm.trans isWritten)
  exact length_sentJson.1

/-- Readers of the ledger find the attempts as they were recorded. -/
private theorem sent_normalized
    {workspaceId : String} (short : workspaceId.utf8ByteSize ≤ workspaceIdMaxBytes) :
    (sentAttempt workspaceId).normalizeAfterRead = sentAttempt workspaceId := by
  have isNamed :=
    (sentTransfer_valid short).named (sent_accepted workspaceId) [] 1700000000000
  rw [sentAttempt, isNamed.normalizeAfterRead_eq]
  rfl

private theorem second_attempt :
    (sentTransfer "w2").attempt [sentAttempt "w1"] 1700000000000 = sentAttempt "w2" := by
  have count :
      (sentTransfer "w2").nextAttemptCount [sentAttempt "w1"] =
        (sentTransfer "w2").nextAttemptCount [] :=
    sent_facts.2.2.1
  rw [PlannedTransfer.attempt, count]
  rfl

private theorem startedEntries_first :
    startedEntries (sentTransfer "w1") 1700000000000 [] = oneSent.entries := by
  apply drainOldest_of_few
  decide

private theorem startedEntries_second :
    startedEntries (sentTransfer "w2") 1700000000000 oneSent.entries = twoSent.entries := by
  have isSecond :
      (sentTransfer "w2").attempt oneSent.entries 1700000000000 = sentAttempt "w2" :=
    second_attempt
  rw [startedEntries, isSecond]
  apply drainOldest_of_few
  decide

/-- The files after the first attempt. -/
def oneSentFiles : SecretFiles :=
  Function.update (fun _ => none) [] (some (oneSentJson ++ [newline]))

private theorem read_oneSentFiles :
    readBlobTransferLedger sentJson [] oneSentFiles = .ok oneSent := by
  have isRead :=
    @readBlobTransferLedger_of_written sentJson [] sentJson_roundTrips (fun _ => none)
      oneSent.entries oneSentJson toVecPretty_oneSent (by decide) oneSent_fits
  rw [oneSentFiles, isRead, oneSent, List.map_singleton, sent_normalized (by decide)]

private theorem perform_first :
    LedgerWorld.empty.perform sentJson [] (.started (sentTransfer "w1") 1700000000000) =
      ⟨oneSentFiles, [sentAttempt "w1"], [sentAttempt "w1"]⟩ := by
  have isRead :
      readBlobTransferLedger sentJson [] (fun _ => none) = .ok .default := rfl
  have isWritten :
      sentJson.toVecPretty
          { BlobTransferLedger.default with
            entries :=
              startedEntries (sentTransfer "w1") 1700000000000
                BlobTransferLedger.default.entries } =
        some oneSentJson := by
    rw [BlobTransferLedger.default, startedEntries_first]
    exact toVecPretty_oneSent
  have recorded := recordBlobTransferStarted_of_written (sent_accepted "w1") isRead isWritten
  exact LedgerWorld.perform_started recorded

private theorem perform_second :
    (LedgerWorld.mk oneSentFiles [sentAttempt "w1"] [sentAttempt "w1"]).perform sentJson []
        (.started (sentTransfer "w2") 1700000000000) =
      ⟨Function.update oneSentFiles [] (some (twoSentJson ++ [newline])),
        [sentAttempt "w1", sentAttempt "w2"], [sentAttempt "w1", sentAttempt "w2"]⟩ := by
  have isWritten :
      sentJson.toVecPretty
          { oneSent with
            entries := startedEntries (sentTransfer "w2") 1700000000000 oneSent.entries } =
        some twoSentJson := by
    have same : { oneSent with entries := twoSent.entries } = twoSent := rfl
    rw [startedEntries_second, same]
    exact toVecPretty_twoSent
  have recorded :=
    recordBlobTransferStarted_of_written (sent_accepted "w2") read_oneSentFiles isWritten
  have isSecond :
      (sentTransfer "w2").attempt oneSent.entries 1700000000000 = sentAttempt "w2" :=
    second_attempt
  rw [isSecond] at recorded
  exact LedgerWorld.perform_started recorded

end Chaft
