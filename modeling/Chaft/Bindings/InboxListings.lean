import Chaft.Bindings.JoinRequestWrites

/-!
# Entries of the join request inbox, and their listings

A file of the inbox holds an entry and is named by its ID.  A listing reads the files in the
order of the directory and keeps the newest entries, which are the same in every order.
-/

namespace Chaft

open Keyed Outcome

/-- JSON reads back what it wrote. -/
def JoinRequestInboxJson.RoundTrips {Document : Type} (json : JoinRequestInboxJson Document) :
    Prop :=
  ∀ entry, json.fromStr (json.toVecPretty entry) = .ok entry

namespace FileJoinRequestInbox

variable {Document : Type} (inbox : FileJoinRequestInbox Document)

/-- A document that is read as an entry. -/
structure Reads (document : Document) (entry : JoinRequestInboxEntry) : Prop where
  small : inbox.json.byteLen document ≤ joinRequestInboxEntryMaxBytes
  parsed : inbox.json.fromStr document = .ok entry
  valid : inbox.validateJoinRequestInboxEntry entry = .ok ()

/-- Each file holds an entry and is named by its ID. -/
def WellFormed (files : JoinRequestFiles Document) : Prop :=
  ∀ stem document, files[stem]? = some document →
    ∃ entry, inbox.Reads document entry ∧ entry.entryId = stem

variable {inbox} {files : JoinRequestFiles Document} {stem : String} {document : Document}
variable {entry : JoinRequestInboxEntry}

theorem parseEntry_eq_ok_iff :
    inbox.parseEntry files stem = .ok entry ↔
      ∃ document, files[stem]? = some document ∧ inbox.json.fromStr document = .ok entry ∧
        inbox.validateJoinRequestInboxEntry entry = .ok () := by
  simp only [parseEntry, bind_eq_ok_iff, okOr_eq_ok_iff, renamed_eq_ok_iff, Except.ok.injEq]
  constructor
  · rintro ⟨document, stored, read, parsed, _, valid, rfl⟩
    exact ⟨document, stored, parsed, valid⟩
  · rintro ⟨document, stored, parsed, valid⟩
    exact ⟨document, stored, entry, parsed, (), valid, rfl⟩

theorem inspectEntry_eq_ok_iff {result : Unit} :
    inbox.inspectEntry files stem = .ok result ↔
      ∃ document, files[stem]? = some document ∧
        inbox.json.byteLen document ≤ joinRequestInboxEntryMaxBytes := by
  simp only [inspectEntry, bind_eq_ok_iff, okOr_eq_ok_iff, ensure_eq_ok_iff]

theorem readPath_eq_ok_iff :
    inbox.readJoinRequestInboxEntryPath files stem = .ok entry ↔
      ∃ document, files[stem]? = some document ∧ inbox.Reads document entry := by
  rw [readJoinRequestInboxEntryPath_eq]
  simp only [bind_eq_ok_iff, inspectEntry_eq_ok_iff, parseEntry_eq_ok_iff]
  constructor
  · rintro ⟨_, ⟨document, stored, small⟩, other, again, parsed, valid⟩
    rw [stored, Option.some.injEq] at again
    subst again
    exact ⟨document, stored, small, parsed, valid⟩
  · rintro ⟨document, stored, small, parsed, valid⟩
    exact ⟨(), ⟨document, stored, small⟩, document, stored, parsed, valid⟩

theorem Reads.unique
    {other : JoinRequestInboxEntry} (reads : inbox.Reads document entry)
    (readsOther : inbox.Reads document other) : entry = other := by
  have same := reads.parsed.symm.trans readsOther.parsed
  exact Except.ok.inj same

/-- What a writer encodes is read back. -/
theorem reads_of_encodeEntry
    (roundTrips : inbox.json.RoundTrips)
    (encoded : inbox.encodeEntry entry = .ok document) : inbox.Reads document entry := by
  simp only [encodeEntry, bind_eq_ok_iff, ensure_eq_ok_iff, Except.ok.injEq] at encoded
  obtain ⟨_, valid, _, small, rfl⟩ := encoded
  exact ⟨small, roundTrips entry, valid⟩

theorem WellFormed.erase (wellFormed : inbox.WellFormed files) (removed : String) :
    inbox.WellFormed (files.erase removed) := by
  intro stem document stored
  rw [Std.ExtTreeMap.getElem?_erase] at stored
  split at stored
  · cases stored
  · exact wellFormed stem document stored

theorem WellFormed.insert
    (wellFormed : inbox.WellFormed files) (reads : inbox.Reads document entry) :
    inbox.WellFormed (files.insert entry.entryId document) := by
  intro stem other stored
  rw [Std.ExtTreeMap.getElem?_insert] at stored
  split at stored
  · rename_i same
    rw [Std.LawfulEqCmp.compare_eq_iff_eq] at same
    cases stored
    exact ⟨entry, reads, same⟩
  · exact wellFormed stem other stored

end FileJoinRequestInbox

/-! ## Listings -/

instance : Std.Total JoinRequestInboxEntry.newestFirst where
  total left right := by
    rcases Nat.lt_trichotomy left.receivedAtUnixMs right.receivedAtUnixMs with
      earlier | same | later
    · exact Or.inr (Or.inl earlier)
    · rcases le_total left.entryId right.entryId with before | after
      · exact Or.inr (Or.inr ⟨same, before⟩)
      · exact Or.inl (Or.inr ⟨same.symm, after⟩)
    · exact Or.inl (Or.inl later)

instance : IsTrans JoinRequestInboxEntry JoinRequestInboxEntry.newestFirst where
  trans first second third before after := by
    rcases before with earlier | ⟨same, before⟩
    · rcases after with later | ⟨same, -⟩
      · exact Or.inl (lt_trans later earlier)
      · left
        omega
    · rcases after with later | ⟨again, after⟩
      · left
        omega
      · exact Or.inr ⟨again.trans same, le_trans after before⟩

namespace FileJoinRequestInbox

variable {Document : Type} (inbox : FileJoinRequestInbox Document)
variable {files : JoinRequestFiles Document}

/-- An entry of the workspace that a listing asks for, if it asks for one. -/
def shown
    (workspaceId : Option String) (entry : JoinRequestInboxEntry) :
    Option JoinRequestInboxEntry :=
  if workspaceId.isSome = true ∧ entry.workspaceId ≠ workspaceId then none else some entry

/-- The entries of a workspace among some files. -/
def entriesAmong
    (files : JoinRequestFiles Document) (workspaceId : Option String) (stems : List String) :
    List JoinRequestInboxEntry :=
  stems.filterMap fun stem =>
    (inbox.readJoinRequestInboxEntryPath files stem).toOption.bind (shown workspaceId)

/-- The entries of a workspace. -/
def entriesOf (files : JoinRequestFiles Document) (workspaceId : Option String) :
    List JoinRequestInboxEntry :=
  inbox.entriesAmong files workspaceId files.keys

variable {inbox}

theorem collectEntries_eq
    (workspaceId : Option String) (maxEntries : Nat) (entries : List JoinRequestInboxEntry)
    {directory : List String}
    (allRead :
      ∀ stem ∈ directory, ∃ entry, inbox.readJoinRequestInboxEntryPath files stem = .ok entry) :
    inbox.collectEntries files workspaceId maxEntries entries directory =
      .ok
        (((inbox.entriesAmong files workspaceId directory).foldl
            (BoundedBuffer.keepFirst JoinRequestInboxEntry.newestFirst maxEntries)
            entries).insertionSort JoinRequestInboxEntry.newestFirst) := by
  induction directory generalizing entries with
  | nil => rfl
  | cons stem rest inductionHypothesis =>
      obtain ⟨entry, read⟩ := allRead stem List.mem_cons_self
      have restRead := fun other member => allRead other (List.mem_cons_of_mem stem member)
      rw [collectEntries, read]
      simp only [bind, Except.bind]
      by_cases hidden : workspaceId.isSome = true ∧ entry.workspaceId ≠ workspaceId
      · have among :
            inbox.entriesAmong files workspaceId (stem :: rest) =
              inbox.entriesAmong files workspaceId rest := by
          rw [entriesAmong, List.filterMap_cons_none, entriesAmong]
          rw [read]
          exact if_pos hidden
        rw [if_pos hidden, among, inductionHypothesis entries restRead]
      · have among :
            inbox.entriesAmong files workspaceId (stem :: rest) =
              entry :: inbox.entriesAmong files workspaceId rest := by
          rw [entriesAmong, List.filterMap_cons_some, entriesAmong]
          rw [read]
          exact if_neg hidden
        rw [if_neg hidden, among, List.foldl_cons, BoundedBuffer.keepFirst]
        split
        · exact inductionHypothesis _ restRead
        · exact inductionHypothesis _ restRead

theorem mem_entriesAmong
    {workspaceId : Option String} {stems : List String} {entry : JoinRequestInboxEntry}
    (member : entry ∈ inbox.entriesAmong files workspaceId stems) :
    ∃ stem, inbox.readJoinRequestInboxEntryPath files stem = .ok entry := by
  obtain ⟨stem, -, isEntry⟩ := List.mem_filterMap.mp member
  cases read : inbox.readJoinRequestInboxEntryPath files stem with
  | error raised =>
      rw [read] at isEntry
      cases isEntry
  | ok other =>
      rw [read] at isEntry
      change shown workspaceId other = some entry at isEntry
      rw [shown] at isEntry
      split at isEntry
      · cases isEntry
      · cases isEntry
        exact ⟨stem, read⟩

/-- Entries of one time and ID are one entry. -/
theorem WellFormed.apart
    (wellFormed : inbox.WellFormed files) {workspaceId : Option String} {stems : List String} :
    ∀ entry ∈ inbox.entriesAmong files workspaceId stems,
      ∀ other ∈ inbox.entriesAmong files workspaceId stems,
        entry.newestFirst other → other.newestFirst entry → entry = other := by
  intro entry isEntry other isOther before after
  obtain ⟨stem, read⟩ := mem_entriesAmong isEntry
  obtain ⟨otherStem, readOther⟩ := mem_entriesAmong isOther
  obtain ⟨document, stored, reads⟩ := readPath_eq_ok_iff.mp read
  obtain ⟨otherDocument, otherStored, readsOther⟩ := readPath_eq_ok_iff.mp readOther
  obtain ⟨named, namedReads, isStem⟩ := wellFormed stem document stored
  obtain ⟨otherNamed, otherNamedReads, isOtherStem⟩ := wellFormed otherStem _ otherStored
  have sameId : entry.entryId = other.entryId := by
    rcases before with earlier | ⟨_, before⟩
    · rcases after with later | ⟨same, -⟩ <;> omega
    · rcases after with later | ⟨_, after⟩
      · omega
      · exact le_antisymm after before
  have sameStem : stem = otherStem := by
    rw [← isStem, ← isOtherStem, ← reads.unique namedReads, ← readsOther.unique otherNamedReads]
    exact sameId
  rw [sameStem, readOther] at read
  exact (Except.ok.inj read).symm

/-- A listing shows the newest entries of the workspace, whatever the order of the directory. -/
theorem list_eq
    (wellFormed : inbox.WellFormed files) {directory : List String}
    (lists : directory.Perm files.keys) (workspaceId : Option String) (maxEntries : Nat) :
    inbox.listJoinRequestInboxEntries files directory workspaceId maxEntries =
      .ok
        (((inbox.entriesOf files (workspaceId.map trimmed)).insertionSort
          JoinRequestInboxEntry.newestFirst).take maxEntries) := by
  rw [listJoinRequestInboxEntries]
  by_cases isNone : maxEntries = 0
  · rw [if_pos isNone, isNone, List.take_zero]
  · have allRead :
        ∀ stem ∈ directory,
          ∃ entry, inbox.readJoinRequestInboxEntryPath files stem = .ok entry := by
      intro stem member
      have isStored : files[stem]?.isSome = true :=
        Std.ExtTreeMap.mem_iff_isSome_getElem?.mp
          (Std.ExtTreeMap.mem_keys.mp (lists.mem_iff.mp member))
      obtain ⟨document, stored⟩ := Option.isSome_iff_exists.mp isStored
      obtain ⟨entry, reads, -⟩ := wellFormed stem document stored
      exact ⟨entry, readPath_eq_ok_iff.mpr ⟨document, stored, reads⟩⟩
    have same :
        (inbox.entriesAmong files (workspaceId.map trimmed) directory).Perm
          (inbox.entriesOf files (workspaceId.map trimmed)) :=
      lists.filterMap _
    have sorted :
        (inbox.entriesAmong files (workspaceId.map trimmed) directory).insertionSort
            JoinRequestInboxEntry.newestFirst =
          (inbox.entriesOf files (workspaceId.map trimmed)).insertionSort
            JoinRequestInboxEntry.newestFirst := by
      refine List.Perm.eq_of_pairwise ?_ (List.pairwise_insertionSort _ _)
        (List.pairwise_insertionSort _ _)
        (((List.perm_insertionSort _ _).trans same).trans (List.perm_insertionSort _ _).symm)
      intro entry other isEntry isOther
      exact wellFormed.apart entry
        (same.mem_iff.mp ((List.mem_insertionSort _).mp isEntry)) other
        ((List.mem_insertionSort _).mp isOther)
    rw [if_neg isNone, collectEntries_eq _ _ _ allRead,
      BoundedBuffer.insertionSort_of_leads (BoundedBuffer.leads_foldl_keepFirst maxEntries _)
        wellFormed.apart, sorted]

end FileJoinRequestInbox

end Chaft
