import Mathlib.Data.List.Induction
import Mathlib.Data.List.Nodup

/-!
# Logs with one entry per key

A log keeps its entries in the order in which their keys first arrived.  A
later entry under a key that is there either replaces the old entry where it
stands or is dropped; which of the two is decided by looking at both.
-/

namespace KeyedLog

universe u v

variable {ρ : Type u} {κ : Type v} [DecidableEq κ]

/-- Enter one item: at the end if its key is new, otherwise over the entry of the
same key when that one gives way. -/
def upsert (key : ρ → κ) (givesWay : ρ → ρ → Bool) (log : List ρ) (item : ρ) : List ρ :=
  if key item ∈ log.map key then
    log.map fun entry =>
      if key entry = key item && givesWay entry item then item else entry
  else
    log ++ [item]

/-- The entry of a key. -/
def entryOf (key : ρ → κ) (wanted : κ) (log : List ρ) : Option ρ :=
  log.find? fun entry => decide (key entry = wanted)

/-- A list of keys without repetitions, in the order of their first occurrences. -/
def firstArrivals (keys : List κ) : List κ :=
  keys.foldl (fun seen key => if key ∈ seen then seen else seen ++ [key]) []

section Keys

variable {key : ρ → κ} {givesWay : ρ → ρ → Bool}

theorem map_key_upsert (log : List ρ) (item : ρ) :
    (upsert key givesWay log item).map key =
      if key item ∈ log.map key then log.map key else log.map key ++ [key item] := by
  unfold upsert
  split
  · rw [List.map_map]
    apply List.map_congr_left
    intro entry _
    rw [Function.comp_apply]
    split
    · rename_i replaced
      rw [Bool.and_eq_true, decide_eq_true_eq] at replaced
      exact replaced.1.symm
    · rfl
  · rw [List.map_append]
    rfl

theorem nodup_upsert
    {log : List ρ} (distinct : (log.map key).Nodup) (item : ρ) :
    ((upsert key givesWay log item).map key).Nodup := by
  rw [map_key_upsert]
  split
  · exact distinct
  · rename_i isNew
    rw [List.nodup_append]
    refine ⟨distinct, List.nodup_singleton _, ?_⟩
    intro earlier isEarlier last isLast same
    rw [List.mem_singleton] at isLast
    rw [same, isLast] at isEarlier
    exact isNew isEarlier

theorem entryOf_eq_some
    {log : List ρ} {wanted : κ} {entry : ρ} (found : entryOf key wanted log = some entry) :
    entry ∈ log ∧ key entry = wanted :=
  ⟨List.mem_of_find?_eq_some found, by simpa using List.find?_some found⟩

theorem entryOf_eq_none_iff {log : List ρ} {wanted : κ} :
    entryOf key wanted log = none ↔ wanted ∉ log.map key := by
  rw [entryOf, List.find?_eq_none, List.mem_map]
  constructor
  · rintro absent ⟨entry, member, same⟩
    exact absent entry member (decide_eq_true same)
  · intro absent entry member same
    exact absent ⟨entry, member, of_decide_eq_true same⟩

/-- With distinct keys an entry is the entry of its key. -/
theorem entryOf_of_mem
    {log : List ρ} (distinct : (log.map key).Nodup) {entry : ρ} (member : entry ∈ log) :
    entryOf key (key entry) log = some entry := by
  cases found : entryOf key (key entry) log with
  | none =>
      rw [entryOf_eq_none_iff] at found
      exact absurd (List.mem_map_of_mem member) found
  | some other =>
      obtain ⟨isOther, same⟩ := entryOf_eq_some found
      rw [List.inj_on_of_nodup_map distinct isOther member same]

/-- Looking for an entry of a key with a property is looking at the entry of the
key. -/
theorem find?_key_and
    {log : List ρ} (distinct : (log.map key).Nodup) (wanted : κ) (property : ρ → Bool) :
    (log.find? fun entry => decide (key entry = wanted) && property entry) =
      (entryOf key wanted log).filter property := by
  cases found : log.find? fun entry => decide (key entry = wanted) && property entry with
  | some entry =>
      have holds := List.find?_some found
      rw [Bool.and_eq_true, decide_eq_true_eq] at holds
      rw [← holds.1, entryOf_of_mem distinct (List.mem_of_find?_eq_some found)]
      exact (if_pos holds.2).symm
  | none =>
      rw [List.find?_eq_none] at found
      cases present : entryOf key wanted log with
      | none => rfl
      | some entry =>
          obtain ⟨member, isWanted⟩ := entryOf_eq_some present
          have fails : property entry = false := by simpa [isWanted] using found entry member
          exact (if_neg (by rw [fails]; exact Bool.false_ne_true)).symm

/-- Some entries of a log are the entries of their keys. -/
theorem map_entryOf
    {log part : List ρ} (distinct : (log.map key).Nodup) (within : ∀ entry ∈ part, entry ∈ log) :
    (part.map key).map (fun wanted => entryOf key wanted log) = part.map some := by
  rw [List.map_map]
  apply List.map_congr_left
  intro entry member
  exact entryOf_of_mem distinct (within entry member)

/-- A change that keeps the keys is seen by the entry of a key. -/
theorem entryOf_map
    {change : ρ → ρ} (keepsKey : ∀ entry, key (change entry) = key entry)
    (log : List ρ) (wanted : κ) :
    entryOf key wanted (log.map change) = (entryOf key wanted log).map change := by
  rw [entryOf, List.find?_map, entryOf]
  congr 2
  funext entry
  rw [Function.comp_apply, keepsKey]

/-- The entry of a key after one more item. -/
theorem entryOf_upsert (log : List ρ) (item : ρ) (wanted : κ) :
    entryOf key wanted (upsert key givesWay log item) =
      if key item = wanted then
        match entryOf key wanted log with
        | some entry => some (if givesWay entry item then item else entry)
        | none => some item
      else
        entryOf key wanted log := by
  unfold upsert
  by_cases known : key item ∈ log.map key
  · have keepsKey :
        ∀ entry,
          key (if key entry = key item && givesWay entry item then item else entry) =
            key entry := by
      intro entry
      split
      · rename_i replaced
        rw [Bool.and_eq_true, decide_eq_true_eq] at replaced
        exact replaced.1.symm
      · rfl
    rw [if_pos known, entryOf_map keepsKey]
    cases found : entryOf key wanted log with
    | none =>
        rw [entryOf_eq_none_iff] at found
        have other : key item ≠ wanted := fun same => found (same ▸ known)
        rw [if_neg other, Option.map_none]
    | some entry =>
        have isWanted := (entryOf_eq_some found).2
        rw [Option.map_some]
        by_cases same : key item = wanted
        · simp [same, isWanted]
        · have apart : ¬ key entry = key item := fun alike => same (alike.symm.trans isWanted)
          simp [same, apart]
  · rw [if_neg known, entryOf, List.find?_append]
    by_cases same : key item = wanted
    · have unknown : entryOf key wanted log = none := by
        rw [entryOf_eq_none_iff, ← same]
        exact known
      rw [if_pos same, unknown, ← entryOf, unknown, Option.none_or]
      simp [same]
    · rw [if_neg same]
      simp [same, entryOf]

end Keys

section Runs

variable {key : ρ → κ} {givesWay : ρ → ρ → Bool}

theorem firstArrivals_append (keys : List κ) (key : κ) :
    firstArrivals (keys ++ [key]) =
      if key ∈ firstArrivals keys then firstArrivals keys else firstArrivals keys ++ [key] := by
  rw [firstArrivals, List.foldl_append]
  rfl

theorem mem_firstArrivals {keys : List κ} {key : κ} : key ∈ firstArrivals keys ↔ key ∈ keys := by
  induction keys using List.reverseRecOn with
  | nil => rfl
  | append_singleton earlier last inductionHypothesis =>
      rw [firstArrivals_append, List.mem_append, List.mem_singleton]
      split
      · rename_i known
        rw [inductionHypothesis]
        constructor
        · exact Or.inl
        · rintro (isEarlier | isLast)
          · exact isEarlier
          · subst isLast
            exact inductionHypothesis.mp known
      · rw [List.mem_append, List.mem_singleton, inductionHypothesis]

/-- The keys of a log are those of its items, ordered by arrival. -/
theorem map_key_foldl_upsert (items : List ρ) :
    (items.foldl (upsert key givesWay) []).map key = firstArrivals (items.map key) := by
  induction items using List.reverseRecOn with
  | nil => rfl
  | append_singleton earlier last inductionHypothesis =>
      rw [List.foldl_append, List.foldl_cons, List.foldl_nil, map_key_upsert,
        inductionHypothesis, List.map_append, List.map_cons, List.map_nil,
        firstArrivals_append]

/-- The entry of a key after a run of items is what the items of that key make of
it. -/
theorem entryOf_foldl_upsert (log : List ρ) (items : List ρ) (wanted : κ) :
    entryOf key wanted (items.foldl (upsert key givesWay) log) =
      (items.filter fun item => decide (key item = wanted)).foldl
        (fun found item =>
          match found with
          | some entry => some (if givesWay entry item then item else entry)
          | none => some item)
        (entryOf key wanted log) := by
  induction items generalizing log with
  | nil => rfl
  | cons item rest inductionHypothesis =>
      rw [List.foldl_cons, inductionHypothesis, entryOf_upsert]
      by_cases same : key item = wanted
      · rw [if_pos same, List.filter_cons_of_pos (by simpa using same), List.foldl_cons]
      · rw [if_neg same, List.filter_cons_of_neg (by simpa using same)]

/-- Items of distinct keys are their own log. -/
theorem foldl_upsert_of_nodup
    {items : List ρ} (distinct : (items.map key).Nodup) :
    items.foldl (upsert key givesWay) [] = items := by
  induction items using List.reverseRecOn with
  | nil => rfl
  | append_singleton earlier last inductionHypothesis =>
      rw [List.map_append, List.nodup_append] at distinct
      have isNew : key last ∉ earlier.map key :=
        fun known => distinct.2.2 _ known _ (List.mem_singleton_self _) rfl
      rw [List.foldl_append, inductionHypothesis distinct.1, List.foldl_cons, List.foldl_nil,
        upsert, if_neg isNew]

/-- An entry of a log comes from the log before or from the items. -/
theorem mem_foldl_upsert
    {log items : List ρ} {entry : ρ}
    (member : entry ∈ items.foldl (upsert key givesWay) log) :
    entry ∈ log ∨ entry ∈ items := by
  induction items generalizing log with
  | nil => exact Or.inl member
  | cons item rest inductionHypothesis =>
      rcases inductionHypothesis member with inLog | inRest
      · unfold upsert at inLog
        split at inLog
        · obtain ⟨earlier, isEarlier, rfl⟩ := List.mem_map.mp inLog
          split
          · exact Or.inr List.mem_cons_self
          · exact Or.inl isEarlier
        · rcases List.mem_append.mp inLog with isEarlier | isItem
          · exact Or.inl isEarlier
          · exact Or.inr (List.mem_cons.mpr (Or.inl (List.mem_singleton.mp isItem)))
      · exact Or.inr (List.mem_cons_of_mem item inRest)

end Runs

/-! ## Settled entries

An entry that is settled stays; any other gives way to the first settled item of
its key. -/

section Settled

variable {settled : ρ → Bool}

private def enter (settled : ρ → Bool) (found : Option ρ) (item : ρ) : Option ρ :=
  match found with
  | some entry => some (if !settled entry && settled item then item else entry)
  | none => some item

private theorem foldl_enter_settled
    {entry : ρ} (isSettled : settled entry = true) (items : List ρ) :
    items.foldl (enter settled) (some entry) = some entry := by
  induction items with
  | nil => rfl
  | cons item rest inductionHypothesis =>
      rw [List.foldl_cons, enter, isSettled]
      exact inductionHypothesis

private theorem foldl_enter_unsettled
    {entry : ρ} (unsettled : settled entry = false) (items : List ρ) :
    items.foldl (enter settled) (some entry) = (items.find? settled).or (some entry) := by
  induction items with
  | nil => rfl
  | cons item rest inductionHypothesis =>
      rw [List.foldl_cons, enter, unsettled]
      cases isSettled : settled item with
      | true =>
          rw [List.find?_cons_of_pos isSettled, Option.some_or]
          exact foldl_enter_settled isSettled rest
      | false =>
          rw [List.find?_cons_of_neg (by simp [isSettled])]
          exact inductionHypothesis

private theorem foldl_enter_none (items : List ρ) :
    items.foldl (enter settled) none = (items.find? settled).or items.head? := by
  cases items with
  | nil => rfl
  | cons item rest =>
      rw [List.foldl_cons, List.head?_cons]
      cases isSettled : settled item with
      | true =>
          rw [List.find?_cons_of_pos isSettled, Option.some_or]
          exact foldl_enter_settled isSettled rest
      | false =>
          rw [List.find?_cons_of_neg (by simp [isSettled])]
          exact foldl_enter_unsettled isSettled rest

variable {key : ρ → κ}

/-- A log whose unsettled entries give way to settled items. -/
abbrev settle (key : ρ → κ) (settled : ρ → Bool) : List ρ → ρ → List ρ :=
  upsert key fun entry item => !settled entry && settled item

private theorem entryOf_settle (log items : List ρ) (wanted : κ) :
    entryOf key wanted (items.foldl (settle key settled) log) =
      (items.filter fun item => decide (key item = wanted)).foldl (enter settled)
        (entryOf key wanted log) := by
  rw [entryOf_foldl_upsert]
  rfl

/-- An absent key gets its first settled item, or its first item. -/
theorem entryOf_settle_of_absent
    {log : List ρ} {wanted : κ} (absent : entryOf key wanted log = none) (items : List ρ) :
    entryOf key wanted (items.foldl (settle key settled) log) =
      (items.find? fun item => decide (key item = wanted) && settled item).or
        (items.find? fun item => decide (key item = wanted)) := by
  rw [entryOf_settle, absent, foldl_enter_none, List.find?_filter, List.head?_filter]
  simp only [Bool.decide_and, Bool.decide_eq_true]

theorem entryOf_settle_of_settled
    {log : List ρ} {wanted : κ} {entry : ρ} (found : entryOf key wanted log = some entry)
    (isSettled : settled entry = true) (items : List ρ) :
    entryOf key wanted (items.foldl (settle key settled) log) = some entry := by
  rw [entryOf_settle, found, foldl_enter_settled isSettled]

theorem entryOf_settle_of_unsettled
    {log : List ρ} {wanted : κ} {entry : ρ} (found : entryOf key wanted log = some entry)
    (unsettled : settled entry = false) (items : List ρ) :
    entryOf key wanted (items.foldl (settle key settled) log) =
      (items.find? fun item => decide (key item = wanted) && settled item).or (some entry) := by
  rw [entryOf_settle, found, foldl_enter_unsettled unsettled, List.find?_filter]
  simp only [Bool.decide_and, Bool.decide_eq_true]

end Settled

end KeyedLog
