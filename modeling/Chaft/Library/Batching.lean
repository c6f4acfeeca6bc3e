import Mathlib.Algebra.Ring.Nat
import Mathlib.Data.List.Basic

/-!
# Closing batches by count and size

Items are packed into batches in their order.  The open batch keeps count of its bytes, with a
fixed part that every batch has.  It is closed before an item that it has no room for, unless
it is empty: an item may be larger than the room as long as it fits a batch of its own.
-/

namespace Batching

universe u

variable {α : Type u}

/-- The numbers that decide when a batch is closed. -/
structure Limits where
  /-- The bytes of a batch without items. -/
  base : Nat
  maxCount : Nat
  /-- A batch of several items has at most so many bytes. -/
  room : Nat
  /-- The largest number of the machine. -/
  cap : Nat

/-- The batch that is being filled. -/
structure Filling (α : Type u) where
  items : List α
  bytes : Nat

namespace Limits

variable (limits : Limits)

def add (left right : Nat) : Nat :=
  min (left + right) limits.cap

def empty : Filling α where
  items := []
  bytes := limits.base

/-- The batch is closed before an item of some size. -/
def closes (filling : Filling α) (size : Nat) : Prop :=
  filling.items ≠ [] ∧
    (limits.maxCount ≤ filling.items.length ∨ limits.room < limits.add filling.bytes size)

instance (filling : Filling α) (size : Nat) : Decidable (limits.closes filling size) :=
  decidable_of_iff
    (filling.items.isEmpty = false ∧
      (limits.maxCount ≤ filling.items.length ∨ limits.room < limits.add filling.bytes size))
    (by simp [closes])

/-- The batch with one more item. -/
def push (filling : Filling α) (item : α) (size : Nat) : Filling α where
  items := filling.items ++ [item]
  bytes := limits.add filling.bytes size

/-- The open batch, closed first if it has to be. -/
def next (filling : Filling α) (size : Nat) : Filling α :=
  if limits.closes filling size then limits.empty else filling

/-- The batch that is closed before an item. -/
def closed (filling : Filling α) (size : Nat) : List (List α) :=
  if limits.closes filling size then [filling.items] else []

/-- The batches that some items close, and the batch that is open then. -/
def fill (size : α → Nat) : Filling α → List α → List (List α) × Filling α
  | filling, [] => ([], filling)
  | filling, item :: rest =>
      let (batches, last) :=
        fill size (limits.push (limits.next filling (size item)) item (size item)) rest
      (limits.closed filling (size item) ++ batches, last)

/-- A batch without its fixed part. -/
def payload (size : α → Nat) (items : List α) : Nat :=
  (items.map size).sum

/-- A batch that is worth sending and fits. -/
structure Fits (size : α → Nat) (largest : Nat) (items : List α) : Prop where
  nonempty : items ≠ []
  count : items.length ≤ limits.maxCount
  bytes : limits.base + payload size items ≤ largest

/-- The open batch keeps count of its bytes. -/
structure Counts (size : α → Nat) (largest : Nat) (filling : Filling α) : Prop where
  bytes : filling.bytes = limits.base + payload size filling.items
  fits : filling.items ≠ [] → limits.Fits size largest filling.items

variable {limits} {size : α → Nat} {largest : Nat}

theorem counts_empty : limits.Counts size largest (limits.empty : Filling α) where
  bytes := rfl
  fits := fun nonempty => absurd rfl nonempty

theorem payload_append (items : List α) (item : α) :
    payload size (items ++ [item]) = payload size items + size item := by
  simp [payload]

/-- An item that fits a batch of its own keeps the count right. -/
theorem counts_push
    (room : limits.room ≤ largest) (machine : largest < limits.cap)
    (oneFits : 0 < limits.maxCount) {filling : Filling α}
    (counts : limits.Counts size largest filling) {item : α}
    (single : limits.base + size item ≤ largest) :
    limits.Counts size largest
      (limits.push (limits.next filling (size item)) item (size item)) := by
  have fromEmpty :
      limits.Counts size largest (limits.push limits.empty item (size item)) := by
    have bytes : limits.add limits.base (size item) = limits.base + size item := by
      unfold add
      omega
    constructor
    · exact bytes.trans (by simp [push, empty, payload])
    · exact fun _ =>
        { nonempty := by simp [push]
          count := by simpa [push, empty] using Nat.succ_le_of_lt oneFits
          bytes := by simpa [push, empty, payload] using single }
  unfold next
  split
  · exact fromEmpty
  · rename_i stays
    by_cases isEmpty : filling.items = []
    · have sameBytes := counts.bytes
      rw [isEmpty] at sameBytes
      have isOpen : filling = limits.empty := by
        cases filling
        simp only [payload, List.map_nil, List.sum_nil, Nat.add_zero] at sameBytes isEmpty
        rw [empty, sameBytes, isEmpty]
      rw [isOpen]
      exact fromEmpty
    · have hasRoom : filling.items.length < limits.maxCount ∧
          limits.add filling.bytes (size item) ≤ limits.room := by
        unfold closes at stays
        have neither := fun closing => stays ⟨isEmpty, closing⟩
        constructor
        · exact Nat.lt_of_not_le fun tooMany => neither (Or.inl tooMany)
        · exact Nat.le_of_not_lt fun tooLarge => neither (Or.inr tooLarge)
      obtain ⟨count, below⟩ := hasRoom
      have bytes : limits.add filling.bytes (size item) = filling.bytes + size item := by
        unfold add at below ⊢
        omega
      constructor
      · change limits.add filling.bytes (size item) = _
        rw [bytes, counts.bytes]
        change _ = limits.base + payload size (filling.items ++ [item])
        rw [payload_append, Nat.add_assoc]
      · intro _
        exact
          { nonempty := by simp [push]
            count := by simpa [push] using Nat.succ_le_of_lt count
            bytes := by
              change limits.base + payload size (filling.items ++ [item]) ≤ largest
              rw [payload_append, ← Nat.add_assoc, ← counts.bytes, ← bytes]
              exact Nat.le_trans below room }

/-- Closing a batch loses no item of it. -/
theorem closed_append_next (filling : Filling α) (size : Nat) :
    (limits.closed filling size).flatten ++ (limits.next filling size).items =
      filling.items := by
  unfold closed next
  split <;> simp [empty]

/-- A batch that is closed fits. -/
theorem fits_of_closed
    {filling : Filling α} (counts : limits.Counts size largest filling) {bytes : Nat}
    {batch : List α} (isClosed : batch ∈ limits.closed filling bytes) :
    limits.Fits size largest batch := by
  unfold closed at isClosed
  split at isClosed
  · rename_i closing
    rw [List.mem_singleton] at isClosed
    rw [isClosed]
    exact counts.fits closing.1
  · cases isClosed

/-- The closed batches and the open one hold the items in their order, and each of them
fits. -/
theorem fill_spec
    (room : limits.room ≤ largest) (machine : largest < limits.cap)
    (oneFits : 0 < limits.maxCount) {items : List α}
    (single : ∀ item ∈ items, limits.base + size item ≤ largest) {filling : Filling α}
    (counts : limits.Counts size largest filling) :
    (limits.fill size filling items).1.flatten ++ (limits.fill size filling items).2.items =
        filling.items ++ items ∧
      (∀ batch ∈ (limits.fill size filling items).1, limits.Fits size largest batch) ∧
        limits.Counts size largest (limits.fill size filling items).2 := by
  induction items generalizing filling with
  | nil =>
      refine ⟨by simp [fill], ?_, counts⟩
      intro batch member
      cases member
  | cons item rest inductionHypothesis =>
      have pushed :=
        counts_push room machine oneFits counts (single item List.mem_cons_self)
      obtain ⟨inOrder, batchesFit, lastCounts⟩ :=
        inductionHypothesis (fun later member => single later (List.mem_cons_of_mem _ member))
          pushed
      have split := @closed_append_next _ limits filling (size item)
      simp only [fill]
      refine ⟨?_, ?_, lastCounts⟩
      · rw [List.flatten_append, List.append_assoc, inOrder, push, ← List.append_assoc,
          ← List.append_assoc, split, List.append_assoc]
        rfl
      · intro batch member
        rcases List.mem_append.mp member with isClosed | later
        · exact fits_of_closed counts isClosed
        · exact batchesFit batch later

end Limits

end Batching
