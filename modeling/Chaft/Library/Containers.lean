import Mathlib.Data.List.Pairwise
import Mathlib.Data.List.Sort
import Mathlib.Data.Set.Function

/-!
# Keyed containers

Maps and sets over ordered keys.  They are the extensional search trees of the
standard library: two maps are equal as soon as they give the same answer for
every key, and iteration follows the order of the keys.  A program that
iterates over a hash table in an unspecified order is modelled by this one
fixed order.

The section on sorted lists covers the `sort` followed by `dedup` idiom by
which programs turn a list into a canonical listing of its members.
-/

namespace Keyed

universe u v w

/-- A finite map, used for both hash maps and ordered maps. -/
abbrev HashMap (κ : Type u) (υ : Type v) [Ord κ] := Std.ExtTreeMap κ υ compare

/-- A finite set. -/
abbrev HashSet (κ : Type u) [Ord κ] := Std.ExtTreeSet κ compare

attribute [simp] Std.ExtTreeMap.getElem?_insert Std.ExtTreeMap.getElem?_erase
  Std.ExtTreeMap.getElem?_map

section Orders

variable {α : Type u} {β : Type v} [Ord β]

/-- Comparing through a projection is transitive. -/
theorem transOrd_of_projection
    [order : Ord α] [Std.TransOrd β] (projection : α → β)
    (compared :
      ∀ left right,
        compare left right = compare (projection left) (projection right)) :
    Std.TransOrd α where
  eq_swap := by
    intro left right
    rw [compared, compared]
    exact Std.OrientedOrd.eq_swap
  isLE_trans := by
    intro first second third
    rw [compared, compared, compared]
    exact Std.TransOrd.isLE_trans

/-- Comparing through an injective projection decides equality. -/
theorem lawfulEqOrd_of_projection
    [order : Ord α] [Std.LawfulEqOrd β] (projection : α → β)
    (injective : Function.Injective projection)
    (compared :
      ∀ left right,
        compare left right = compare (projection left) (projection right)) :
    Std.LawfulEqOrd α where
  compare_self := by
    intro item
    rw [compared]
    exact Std.ReflOrd.compare_self
  eq_of_compare := by
    intro left right same
    rw [compared] at same
    exact injective (Std.LawfulEqOrd.eq_of_compare same)

end Orders

section Maps

variable {κ : Type u} {υ : Type v} [Ord κ] [Std.TransOrd κ]

theorem mem_iff_exists_getElem?
    (table : HashMap κ υ) (key : κ) :
    key ∈ table ↔ ∃ value, table[key]? = some value := by
  rw [Std.ExtTreeMap.mem_iff_isSome_getElem?, Option.isSome_iff_exists]

variable [Std.LawfulEqOrd κ]

/-- The values of a table, in the order of their keys. -/
def listedValues (table : HashMap κ υ) : List υ :=
  table.toList.map Prod.snd

theorem mem_listedValues
    (table : HashMap κ υ) (value : υ) :
    value ∈ listedValues table ↔ ∃ key : κ, table[key]? = some value := by
  unfold listedValues
  rw [List.mem_map]
  constructor
  · rintro ⟨⟨key, _⟩, member, rfl⟩
    exact ⟨key, Std.ExtTreeMap.mem_toList_iff_getElem?_eq_some.mp member⟩
  · rintro ⟨key, present⟩
    exact ⟨(key, value), Std.ExtTreeMap.mem_toList_iff_getElem?_eq_some.mpr present, rfl⟩

@[simp]
theorem getElem?_modify_same
    [DecidableEq κ] (table : HashMap κ υ) (key tested : κ) (change : υ → υ) :
    (table.modify key change)[tested]? =
      if key = tested then table[tested]?.map change else table[tested]? := by
  rw [Std.ExtTreeMap.getElem?_modify]
  simp only [Std.LawfulEqCmp.compare_eq_iff_eq]
  split
  · rename_i same
    rw [same]
  · rfl

/-- Two maps with the same answers are the same map. -/
theorem ext_of_getElem?
    {left right : HashMap κ υ}
    (agree : ∀ key : κ, left[key]? = right[key]?) :
    left = right :=
  Std.ExtTreeMap.ext_getElem? agree

end Maps

section Lists

variable {α : Type u} {β : Type v}

/-- A map that tells the members of two lists apart tells the lists apart. -/
theorem map_injOn_eq
    {f : α → β} {members : Set α} (injective : Set.InjOn f members)
    {left right : List α} (leftIn : ∀ item ∈ left, item ∈ members)
    (rightIn : ∀ item ∈ right, item ∈ members) (same : left.map f = right.map f) :
    left = right := by
  induction left generalizing right with
  | nil => simpa using same.symm
  | cons item rest inductionHypothesis =>
      cases right with
      | nil => simp at same
      | cons other others =>
          rw [List.map_cons, List.map_cons, List.cons.injEq] at same
          have sameHead :=
            injective (leftIn item List.mem_cons_self) (rightIn other List.mem_cons_self) same.1
          have sameRest :=
            inductionHypothesis (fun item member => leftIn item (List.mem_cons_of_mem _ member))
              (fun item member => rightIn item (List.mem_cons_of_mem _ member)) same.2
          rw [sameHead, sameRest]

end Lists

section Options

variable {α : Type u} {β : Type v} {related : α → β → Prop}

/-- Changes that keep related values related keep related options related. -/
theorem rel_map
    {left : Option α} {right : Option β} (before : Option.Rel related left right)
    {changeLeft : α → α} {changeRight : β → β}
    (kept :
      ∀ leftValue rightValue, left = some leftValue → right = some rightValue →
        related leftValue rightValue →
          related (changeLeft leftValue) (changeRight rightValue)) :
    Option.Rel related (left.map changeLeft) (right.map changeRight) := by
  cases before with
  | none => exact .none
  | some holds => exact .some (kept _ _ rfl rfl holds)

/-- Related options are present together. -/
theorem exists_iff_of_rel
    {left : Option α} {right : Option β} (before : Option.Rel related left right) :
    (∃ value, left = some value) ↔ ∃ value, right = some value := by
  cases before with
  | none => simp
  | some holds => simp

end Options

section Listings

variable {α : Type w} {κ : Type u} {υ : Type v} [Ord κ] [Std.TransOrd κ]
  {key : α → κ} {value : α → υ}

/-- Enter a listing into a table. -/
def tableOf (key : α → κ) (value : α → υ) (table : HashMap κ υ) (items : List α) : HashMap κ υ :=
  items.foldl (fun entered item => entered.insert (key item) (value item)) table

@[simp]
theorem tableOf_nil (table : HashMap κ υ) : tableOf key value table [] = table := rfl

@[simp]
theorem tableOf_cons (table : HashMap κ υ) (item : α) (items : List α) :
    tableOf key value table (item :: items) =
      tableOf key value (table.insert (key item) (value item)) items :=
  rfl

variable [Std.LawfulEqOrd κ]

theorem mem_tableOf
    (table : HashMap κ υ) (items : List α) (tested : κ) :
    tested ∈ tableOf key value table items ↔
      tested ∈ table ∨ ∃ item ∈ items, key item = tested := by
  induction items generalizing table with
  | nil => simp
  | cons item rest inductionHypothesis =>
      rw [tableOf_cons, inductionHypothesis, Std.ExtTreeMap.mem_insert,
        Std.LawfulEqCmp.compare_eq_iff_eq]
      simp only [List.mem_cons, exists_eq_or_imp]
      tauto

omit [Std.LawfulEqOrd κ] in
theorem getElem?_tableOf_congr
    {left right : HashMap κ υ} {tested : κ} (same : left[tested]? = right[tested]?)
    (items : List α) :
    (tableOf key value left items)[tested]? = (tableOf key value right items)[tested]? := by
  induction items generalizing left right with
  | nil => exact same
  | cons item rest inductionHypothesis =>
      apply inductionHypothesis
      rw [Std.ExtTreeMap.getElem?_insert, Std.ExtTreeMap.getElem?_insert, same]

/-- The answer for a key is an entry of the listing, or comes from before it. -/
theorem getElem?_tableOf
    {table : HashMap κ υ} {items : List α} {tested : κ} {found : υ}
    (isFound : (tableOf key value table items)[tested]? = some found) :
    (∃ item ∈ items, key item = tested ∧ value item = found) ∨
      (∀ item ∈ items, key item ≠ tested) ∧ table[tested]? = some found := by
  induction items generalizing table with
  | nil => exact Or.inr ⟨by simp, isFound⟩
  | cons item rest inductionHypothesis =>
      rcases inductionHypothesis isFound with ⟨later, member, isLater⟩ | ⟨noLater, before⟩
      · exact Or.inl ⟨later, List.mem_cons_of_mem item member, isLater⟩
      · rw [Std.ExtTreeMap.getElem?_insert] at before
        split at before
        · rename_i compared
          exact Or.inl ⟨item, List.mem_cons_self, Std.LawfulEqCmp.compare_eq_iff_eq.mp compared,
            Option.some.inj before⟩
        · rename_i compared
          refine Or.inr ⟨?_, before⟩
          intro other member
          rcases List.mem_cons.mp member with isItem | later
          · rw [isItem]
            exact fun same => compared (Std.LawfulEqCmp.compare_eq_iff_eq.mpr same)
          · exact noLater other later

/-- Entries with a key of their own are found. -/
theorem getElem?_tableOf_of_mem
    {items : List α} (apart : items.Pairwise fun first second => key first ≠ key second)
    {item : α} (member : item ∈ items) (table : HashMap κ υ) :
    (tableOf key value table items)[key item]? = some (value item) := by
  have known : key item ∈ tableOf key value table items :=
    (mem_tableOf table items (key item)).mpr (Or.inr ⟨item, member, rfl⟩)
  obtain ⟨found, isFound⟩ := (mem_iff_exists_getElem? _ _).mp known
  rcases getElem?_tableOf isFound with ⟨other, otherMember, sameKey, isValue⟩ | ⟨none, _⟩
  · by_cases same : other = item
    · rw [isFound, ← isValue, same]
    · have symmetric : Std.Symm fun first second => key first ≠ key second :=
        ⟨fun _ _ different equal => different equal.symm⟩
      exact absurd sameKey (apart.forall otherMember member same)
  · exact absurd rfl (none item member)

/-- Keeping the entries of some keys restricts the table to them. -/
theorem getElem?_tableOf_filter
    (kept : κ → Bool) (table : HashMap κ υ) (items : List α) (tested : κ) :
    (tableOf key value table (items.filter fun item => kept (key item)))[tested]? =
      if kept tested = true then (tableOf key value table items)[tested]? else table[tested]? := by
  induction items generalizing table with
  | nil => simp
  | cons item rest inductionHypothesis =>
      by_cases isKept : kept (key item) = true
      · rw [List.filter_cons_of_pos (by simpa using isKept), tableOf_cons, tableOf_cons,
          inductionHypothesis, Std.ExtTreeMap.getElem?_insert]
        split
        · rfl
        · rename_i notKept
          rw [if_neg]
          intro compared
          rw [Std.LawfulEqCmp.compare_eq_iff_eq] at compared
          exact notKept (compared ▸ isKept)
      · rw [List.filter_cons_of_neg (by simpa using isKept), tableOf_cons, inductionHypothesis]
        split
        · rename_i testedKept
          apply getElem?_tableOf_congr
          rw [Std.ExtTreeMap.getElem?_insert, if_neg]
          intro compared
          rw [Std.LawfulEqCmp.compare_eq_iff_eq] at compared
          exact isKept (compared ▸ testedKept)
        · rfl

omit [Std.LawfulEqOrd κ] in
theorem tableOf_map
    {β : Type w} (rename : β → α) (table : HashMap κ υ) (items : List β) :
    tableOf key value table (items.map rename) =
      tableOf (fun item => key (rename item)) (fun item => value (rename item)) table items :=
  List.foldl_map

omit [Std.LawfulEqOrd κ] in
theorem tableOf_congr
    {otherKey : α → κ} {otherValue : α → υ} {items : List α}
    (same : ∀ item ∈ items, key item = otherKey item ∧ value item = otherValue item)
    (table : HashMap κ υ) :
    tableOf key value table items = tableOf otherKey otherValue table items := by
  induction items generalizing table with
  | nil => rfl
  | cons item rest inductionHypothesis =>
      obtain ⟨sameKey, sameValue⟩ := same item List.mem_cons_self
      rw [tableOf_cons, tableOf_cons, sameKey, sameValue]
      exact inductionHypothesis (fun other member => same other (List.mem_cons_of_mem item member)) _

omit [Std.LawfulEqOrd κ] in
/-- Changing every entry changes every answer. -/
theorem getElem?_tableOf_change
    {ω : Type v} (change : υ → ω) {left : HashMap κ ω} {right : HashMap κ υ} {tested : κ}
    (same : left[tested]? = right[tested]?.map change) (items : List α) :
    (tableOf key (fun item => change (value item)) left items)[tested]? =
      (tableOf key value right items)[tested]?.map change := by
  induction items generalizing left right with
  | nil => exact same
  | cons item rest inductionHypothesis =>
      apply inductionHypothesis
      rw [Std.ExtTreeMap.getElem?_insert, Std.ExtTreeMap.getElem?_insert, same]
      split <;> rfl

/-- The entries of a table have keys of their own. -/
theorem toList_apart (table : HashMap κ υ) :
    table.toList.Pairwise fun first second => first.1 ≠ second.1 :=
  Std.ExtTreeMap.distinct_keys_toList.imp fun different same =>
    different (Std.LawfulEqCmp.compare_eq_iff_eq.mpr same)

/-- Entering the entries of a table again gives back its answers. -/
theorem getElem?_tableOf_toList
    {ω : Type v} (change : υ → ω) (base : HashMap κ ω) (table : HashMap κ υ) (tested : κ) :
    (tableOf Prod.fst (fun entry : κ × υ => change entry.2) base table.toList)[tested]? =
      if tested ∈ table then table[tested]?.map change else base[tested]? := by
  by_cases known : tested ∈ table
  · obtain ⟨value, isValue⟩ := (mem_iff_exists_getElem? table tested).mp known
    have entered :=
      @getElem?_tableOf_of_mem _ _ _ _ _ Prod.fst (fun entry : κ × υ => change entry.2) _ _
        (toList_apart table) (tested, value)
        (Std.ExtTreeMap.mem_toList_iff_getElem?_eq_some.mpr isValue) base
    rw [if_pos known, isValue]
    exact entered
  · rw [if_neg known]
    cases found :
        (tableOf Prod.fst (fun entry : κ × υ => change entry.2) base table.toList)[tested]? with
    | none =>
        have unknown : tested ∉ tableOf Prod.fst (fun entry : κ × υ => change entry.2) base
            table.toList := by
          rw [mem_iff_exists_getElem?, found]
          simp
        rw [mem_tableOf, not_or] at unknown
        exact (Std.ExtTreeMap.getElem?_eq_none unknown.1).symm
    | some value =>
        rcases getElem?_tableOf found with ⟨⟨key, entry⟩, member, same, _⟩ | ⟨_, before⟩
        · have isEntry := Std.ExtTreeMap.mem_toList_iff_getElem?_eq_some.mp member
          rw [← same, mem_iff_exists_getElem?] at known
          exact absurd ⟨entry, isEntry⟩ known
        · exact before.symm

theorem getElem?_tableOf_toList_empty
    {ω : Type v} (change : υ → ω) (table : HashMap κ υ) (tested : κ) :
    (tableOf Prod.fst (fun entry : κ × υ => change entry.2) ∅ table.toList)[tested]? =
      table[tested]?.map change := by
  rw [getElem?_tableOf_toList change]
  split
  · rfl
  · rename_i unknown
    rw [Std.ExtTreeMap.getElem?_eq_none unknown, Std.ExtTreeMap.getElem?_empty]
    rfl

end Listings

section Sets

variable {κ : Type u} [Ord κ] [Std.TransOrd κ] [Std.LawfulEqOrd κ]

theorem mem_foldl_insert
    (items : List κ) (members : HashSet κ) (tested : κ) :
    tested ∈ items.foldl (fun members item => members.insert item) members ↔
      tested ∈ members ∨ tested ∈ items := by
  induction items generalizing members with
  | nil => simp
  | cons item rest inductionHypothesis =>
      rw [List.foldl_cons, inductionHypothesis, Std.ExtTreeSet.mem_insert,
        Std.LawfulEqCmp.compare_eq_iff_eq, List.mem_cons, eq_comm]
      tauto

theorem mem_filter_iff
    (members : HashSet κ) (kept : κ → Bool) (tested : κ) :
    tested ∈ members.filter kept ↔ tested ∈ members ∧ kept tested = true := by
  rw [Std.ExtTreeSet.mem_filter]
  constructor
  · rintro ⟨member, isKept⟩
    rw [Std.ExtTreeSet.get_eq] at isKept
    exact ⟨member, isKept⟩
  · rintro ⟨member, isKept⟩
    exact ⟨member, by rw [Std.ExtTreeSet.get_eq]; exact isKept⟩

/-- Two sets with the same members are the same set. -/
theorem ext_of_mem
    {left right : HashSet κ} (agree : ∀ item : κ, item ∈ left ↔ item ∈ right) :
    left = right :=
  Std.ExtTreeSet.ext_mem agree

/-- Inserting a member changes nothing. -/
theorem insert_of_mem {members : HashSet κ} {item : κ} (member : item ∈ members) :
    members.insert item = members := by
  apply ext_of_mem
  intro tested
  rw [Std.ExtTreeSet.mem_insert, Std.LawfulEqCmp.compare_eq_iff_eq]
  constructor
  · rintro (same | present)
    · exact same ▸ member
    · exact present
  · exact Or.inr

/-- Erasing what is no member changes nothing. -/
theorem erase_of_not_mem {members : HashSet κ} {item : κ} (absent : item ∉ members) :
    members.erase item = members := by
  apply ext_of_mem
  intro tested
  rw [Std.ExtTreeSet.mem_erase, ne_eq, Std.LawfulEqCmp.compare_eq_iff_eq]
  constructor
  · exact And.right
  · intro present
    exact ⟨fun same => absent (same ▸ present), present⟩

variable [DecidableEq κ]

theorem mem_ofList_iff (items : List κ) (tested : κ) :
    tested ∈ Std.ExtTreeSet.ofList items compare ↔ tested ∈ items := by
  rw [Std.ExtTreeSet.mem_ofList, List.contains_iff_mem]

/-- Inserting one by one gives the set of the listed items. -/
theorem foldl_insert_eq_ofList (items : List κ) :
    items.foldl (fun members item => members.insert item) (∅ : HashSet κ) =
      Std.ExtTreeSet.ofList items compare := by
  apply ext_of_mem
  intro tested
  rw [mem_foldl_insert, mem_ofList_iff]
  simp

theorem ofList_congr
    {left right : List κ} (same : ∀ item, item ∈ left ↔ item ∈ right) :
    Std.ExtTreeSet.ofList left compare = Std.ExtTreeSet.ofList right compare := by
  apply ext_of_mem
  intro tested
  rw [mem_ofList_iff, mem_ofList_iff, same]

theorem ofList_filter_ne (items : List κ) (removed : κ) :
    Std.ExtTreeSet.ofList (items.filter fun item => decide (item ≠ removed)) compare =
      (Std.ExtTreeSet.ofList items compare).erase removed := by
  apply ext_of_mem
  intro tested
  rw [mem_ofList_iff, List.mem_filter, decide_eq_true_eq, Std.ExtTreeSet.mem_erase,
    mem_ofList_iff, ne_eq, ne_eq, Std.LawfulEqCmp.compare_eq_iff_eq, eq_comm]
  tauto

theorem ofList_append_singleton (items : List κ) (added : κ) :
    Std.ExtTreeSet.ofList (items ++ [added]) compare =
      (Std.ExtTreeSet.ofList items compare).insert added := by
  apply ext_of_mem
  intro tested
  rw [mem_ofList_iff, List.mem_append, List.mem_singleton, Std.ExtTreeSet.mem_insert,
    mem_ofList_iff, Std.LawfulEqCmp.compare_eq_iff_eq, eq_comm]
  tauto

/-- Inserting an item that is listed already changes nothing. -/
theorem insert_ofList_of_mem {items : List κ} {added : κ} (listed : added ∈ items) :
    (Std.ExtTreeSet.ofList items compare).insert added =
      Std.ExtTreeSet.ofList items compare :=
  insert_of_mem ((mem_ofList_iff items added).mpr listed)

end Sets

section SortedListings

variable {α : Type u} [DecidableEq α]

/-- Remove consecutive repetitions. -/
def dedup : List α → List α
  | [] => []
  | [item] => [item]
  | first :: second :: rest =>
      if first = second then
        dedup (second :: rest)
      else
        first :: dedup (second :: rest)

@[simp]
theorem mem_dedup
    (tested : α) : ∀ items : List α, tested ∈ dedup items ↔ tested ∈ items
  | [] => by simp [dedup]
  | [item] => by simp [dedup]
  | first :: second :: rest => by
      have inductionHypothesis := mem_dedup tested (second :: rest)
      rw [dedup]
      split
      · rename_i same
        rw [inductionHypothesis]
        simp [same]
      · simp only [List.mem_cons] at inductionHypothesis ⊢
        rw [inductionHypothesis]

/-- Sort by the key order and remove repetitions: a canonical listing. -/
def sortedListing
    (le : α → α → Prop) [DecidableRel le] (items : List α) : List α :=
  dedup (items.insertionSort le)

@[simp]
theorem mem_sortedListing
    (le : α → α → Prop) [DecidableRel le] (items : List α) (tested : α) :
    tested ∈ sortedListing le items ↔ tested ∈ items := by
  rw [sortedListing, mem_dedup, List.mem_insertionSort]

private theorem dedup_nodup_of_sorted
    {le : α → α → Prop}
    (antisymmetric : ∀ left right, le left right → le right left → left = right) :
    ∀ items : List α, items.Pairwise le → (dedup items).Nodup
  | [], _ => List.nodup_nil
  | [item], _ => List.nodup_singleton item
  | first :: second :: rest, sorted => by
      have tailSorted := (List.pairwise_cons.mp sorted).2
      have tailNodup :=
        dedup_nodup_of_sorted antisymmetric (second :: rest) tailSorted
      rw [dedup]
      split
      · exact tailNodup
      · rename_i different
        refine List.nodup_cons.mpr ⟨?_, tailNodup⟩
        rw [mem_dedup]
        intro member
        rcases List.mem_cons.mp member with same | later
        · exact different same
        · have firstBelow : le first second :=
            (List.pairwise_cons.mp sorted).1 second List.mem_cons_self
          have secondBelow : le second first :=
            (List.pairwise_cons.mp tailSorted).1 first later
          exact different (antisymmetric first second firstBelow secondBelow)

/-- A canonical listing has no repetitions. -/
theorem sortedListing_nodup
    {le : α → α → Prop} [DecidableRel le] [IsTrans α le] [Std.Total le]
    (antisymmetric : ∀ left right, le left right → le right left → left = right)
    (items : List α) :
    (sortedListing le items).Nodup :=
  dedup_nodup_of_sorted antisymmetric _ (List.pairwise_insertionSort le items)

/-- The canonical listing of some items and one more. -/
theorem ofList_sortedListing_with
    [Ord α] [Std.TransOrd α] [Std.LawfulEqOrd α]
    (le : α → α → Prop) [DecidableRel le] (items : List α) (added : α) :
    Std.ExtTreeSet.ofList
        (sortedListing le (if added ∈ items then items else items ++ [added])) compare =
      (Std.ExtTreeSet.ofList items compare).insert added := by
  rw [ofList_congr (mem_sortedListing le _)]
  split
  · rename_i listed
    exact (insert_ofList_of_mem listed).symm
  · exact ofList_append_singleton items added

end SortedListings

end Keyed
