import Chaft.Library.Outcome

/-!
# Replay by stable passes

A replay absorbs a list of pending items into a state.  Each pass walks over
the pending items in order and attempts every one of them: an attempt may keep
the item pending, drop it, advance the state with it, or abort the whole
replay.  Passes repeat until one of them advances nothing.

The facts proved here are the ones that any such replay has: its advances form
a run, what it keeps is a sublist of its input, nothing is lost, and what it
keeps at the end is kept by the final state.
-/

namespace StableReplay

open Outcome

universe u v w

/-- What one attempt decides about an item. -/
inductive Attempt (σ : Type u) (ε : Type w) where
  | keep
  | drop
  | advance (next : σ)
  | abort (raised : ε)

/-- The state after some attempts, with the items still pending and the items
that advanced the state. -/
structure Scan (σ : Type u) (α : Type v) where
  state : σ
  kept : List α
  advanced : List α

variable {σ : Type u} {α : Type v} {ε : Type w}

/-- One walk over the pending items. -/
def pass (attempt : σ → α → Attempt σ ε) : σ → List α → Except ε (Scan σ α)
  | state, [] => .ok ⟨state, [], []⟩
  | state, item :: rest =>
      match attempt state item with
      | .keep =>
          (pass attempt state rest).map fun scan => { scan with kept := item :: scan.kept }
      | .drop => pass attempt state rest
      | .advance next =>
          (pass attempt next rest).map fun scan =>
            { scan with advanced := item :: scan.advanced }
      | .abort raised => .error raised

/-- Passes until one of them advances nothing, at most as many as the fuel
allows. -/
def passes (attempt : σ → α → Attempt σ ε) : Nat → σ → List α → Except ε (Scan σ α)
  | 0, state, pending => .ok ⟨state, pending, []⟩
  | fuel + 1, state, pending =>
      match pass attempt state pending with
      | .error raised => .error raised
      | .ok scan =>
          if scan.advanced.isEmpty then
            .ok scan
          else
            (passes attempt fuel scan.state scan.kept).map fun later =>
              { later with advanced := scan.advanced ++ later.advanced }

/-- Every pass but the last one removes an item, so one pass more than there
are items is always enough. -/
def replay (attempt : σ → α → Attempt σ ε) (state : σ) (pending : List α) :
    Except ε (Scan σ α) :=
  passes attempt (pending.length + 1) state pending

/-- The items advance the state one after the other. -/
inductive Advances (attempt : σ → α → Attempt σ ε) : σ → List α → σ → Prop
  | done (state : σ) : Advances attempt state [] state
  | next {state middle final : σ} {item : α} {rest : List α}
      (advanced : attempt state item = .advance middle)
      (later : Advances attempt middle rest final) :
      Advances attempt state (item :: rest) final

variable {attempt : σ → α → Attempt σ ε}

theorem Advances.eq_of_nil
    {attempt : σ → α → Attempt σ ε} {state final : σ} (advances : Advances attempt state [] final) :
    state = final := by
  cases advances
  rfl

theorem Advances.append
    {state middle final : σ} {earlier later : List α}
    (first : Advances attempt state earlier middle)
    (second : Advances attempt middle later final) :
    Advances attempt state (earlier ++ later) final := by
  induction first with
  | done state => exact second
  | next advanced _ inductionHypothesis =>
      exact .next advanced (inductionHypothesis second)

/-- What each advance preserves, a run of advances preserves. -/
theorem Advances.invariant
    {property : σ → Prop} {state final : σ} {items : List α}
    (ran : Advances attempt state items final)
    (atStart : property state)
    (preserved :
      ∀ state item next, item ∈ items →
        property state → attempt state item = .advance next → property next) :
    property final := by
  induction ran with
  | done state => exact atStart
  | next advanced _ inductionHypothesis =>
      apply inductionHypothesis
      · exact preserved _ _ _ List.mem_cons_self atStart advanced
      · intro state item next member
        exact preserved state item next (List.mem_cons_of_mem _ member)

/-- A run goes through with any attempt that decides the same about its items. -/
theorem Advances.of_agree
    {other : σ → α → Attempt σ ε} {state final : σ} {items : List α}
    (ran : Advances attempt state items final)
    (agrees : ∀ state item, item ∈ items → other state item = attempt state item) :
    Advances other state items final := by
  induction ran with
  | done state => exact .done state
  | next advanced _ inductionHypothesis =>
      refine .next ((agrees _ _ List.mem_cons_self).trans advanced) ?_
      exact inductionHypothesis fun state item member =>
        agrees state item (List.mem_cons_of_mem _ member)

/-- Every item of a run has its step. -/
theorem Advances.exists_step
    {state final : σ} {items : List α} {item : α}
    (ran : Advances attempt state items final) (member : item ∈ items) :
    ∃ earlier later middle next, items = earlier ++ item :: later ∧
      Advances attempt state earlier middle ∧ attempt middle item = .advance next ∧
        Advances attempt next later final := by
  induction ran with
  | done state => cases member
  | @next state middle final first rest advanced later inductionHypothesis =>
      rcases List.mem_cons.mp member with same | inRest
      · rw [same]
        exact ⟨[], rest, state, middle, rfl, .done state, advanced, later⟩
      · obtain ⟨earlier, others, atItem, afterItem, split, before, step, after⟩ :=
          inductionHypothesis inRest
        refine ⟨first :: earlier, others, atItem, afterItem, ?_, .next advanced before, step,
          after⟩
        rw [split, List.cons_append]

/-! ## One pass -/

/-- How a pass begins, with the pass over the rest. -/
theorem pass_cons_eq_ok
    {state : σ} {item : α} {rest : List α} {scan : Scan σ α}
    (finished : pass attempt state (item :: rest) = .ok scan) :
    (∃ later, attempt state item = .keep ∧ pass attempt state rest = .ok later ∧
        scan = { later with kept := item :: later.kept }) ∨
      (attempt state item = .drop ∧ pass attempt state rest = .ok scan) ∨
        ∃ next later, attempt state item = .advance next ∧
          pass attempt next rest = .ok later ∧
            scan = { later with advanced := item :: later.advanced } := by
  rw [pass] at finished
  cases decision : attempt state item with
  | keep =>
      cases later : pass attempt state rest with
      | error raised => simp [decision, later, Except.map] at finished
      | ok laterScan =>
          simp only [decision, later, Except.map, Except.ok.injEq] at finished
          exact Or.inl ⟨laterScan, rfl, rfl, finished.symm⟩
  | drop =>
      rw [decision] at finished
      exact Or.inr (Or.inl ⟨rfl, finished⟩)
  | advance next =>
      cases later : pass attempt next rest with
      | error raised => simp [decision, later, Except.map] at finished
      | ok laterScan =>
          simp only [decision, later, Except.map, Except.ok.injEq] at finished
          exact Or.inr (Or.inr ⟨next, laterScan, rfl, later, finished.symm⟩)
  | abort raised => simp [decision] at finished

theorem pass_advances
    {state : σ} {items : List α} {scan : Scan σ α}
    (finished : pass attempt state items = .ok scan) :
    Advances attempt state scan.advanced scan.state := by
  induction items generalizing state scan with
  | nil =>
      cases finished
      exact .done state
  | cons item rest inductionHypothesis =>
      rcases pass_cons_eq_ok finished with
        ⟨later, _, laterFinished, rfl⟩ | ⟨_, laterFinished⟩ |
          ⟨next, later, advanced, laterFinished, rfl⟩
      · exact @inductionHypothesis state later laterFinished
      · exact inductionHypothesis laterFinished
      · exact .next advanced (inductionHypothesis laterFinished)

theorem pass_kept_sublist
    {state : σ} {items : List α} {scan : Scan σ α}
    (finished : pass attempt state items = .ok scan) :
    scan.kept.Sublist items := by
  induction items generalizing state scan with
  | nil =>
      cases finished
      exact List.Sublist.refl []
  | cons item rest inductionHypothesis =>
      rcases pass_cons_eq_ok finished with
        ⟨later, _, laterFinished, rfl⟩ | ⟨_, laterFinished⟩ |
          ⟨next, later, _, laterFinished, rfl⟩
      · exact (inductionHypothesis laterFinished).cons_cons item
      · exact (inductionHypothesis laterFinished).cons item
      · exact (inductionHypothesis laterFinished).cons item

theorem pass_length_le
    {state : σ} {items : List α} {scan : Scan σ α}
    (finished : pass attempt state items = .ok scan) :
    scan.kept.length + scan.advanced.length ≤ items.length := by
  induction items generalizing state scan with
  | nil =>
      cases finished
      exact Nat.le_refl 0
  | cons item rest inductionHypothesis =>
      rcases pass_cons_eq_ok finished with
        ⟨later, _, laterFinished, rfl⟩ | ⟨_, laterFinished⟩ |
          ⟨next, later, _, laterFinished, rfl⟩
      · have bound := inductionHypothesis laterFinished
        simp only [List.length_cons]
        omega
      · have bound := inductionHypothesis laterFinished
        simp only [List.length_cons]
        omega
      · have bound := inductionHypothesis laterFinished
        simp only [List.length_cons]
        omega

/-- An item was dropped in some state on the way through the advances. -/
def DroppedAlong
    (attempt : σ → α → Attempt σ ε) (state : σ) (advanced : List α) (final : σ)
    (item : α) : Prop :=
  ∃ middle earlier later, advanced = earlier ++ later ∧
    Advances attempt state earlier middle ∧ attempt middle item = .drop ∧
      Advances attempt middle later final

theorem DroppedAlong.after
    {state middle final : σ} {earlier later : List α} {item : α}
    (first : Advances attempt state earlier middle)
    (dropped : DroppedAlong attempt middle later final item) :
    DroppedAlong attempt state (earlier ++ later) final item := by
  obtain ⟨atDrop, before, rest, split, toDrop, isDropped, toFinal⟩ := dropped
  refine ⟨atDrop, earlier ++ before, rest, ?_, first.append toDrop, isDropped, toFinal⟩
  rw [split, List.append_assoc]

theorem DroppedAlong.before
    {state middle final : σ} {earlier later : List α} {item : α}
    (dropped : DroppedAlong attempt state earlier middle item)
    (second : Advances attempt middle later final) :
    DroppedAlong attempt state (earlier ++ later) final item := by
  obtain ⟨atDrop, before, rest, split, toDrop, isDropped, toMiddle⟩ := dropped
  refine ⟨atDrop, before, rest ++ later, ?_, toDrop, isDropped, toMiddle.append second⟩
  rw [split, List.append_assoc]

theorem DroppedAlong.next
    {state middle final : σ} {advanced : List α} {first item : α}
    (step : attempt state first = .advance middle)
    (dropped : DroppedAlong attempt middle advanced final item) :
    DroppedAlong attempt state (first :: advanced) final item :=
  dropped.after (.next step (.done middle))

/-- No item is lost: each is kept, or advanced, or was dropped on the way. -/
theorem pass_mem
    {state : σ} {items : List α} {scan : Scan σ α} {tested : α}
    (finished : pass attempt state items = .ok scan) (member : tested ∈ items) :
    tested ∈ scan.kept ∨ tested ∈ scan.advanced ∨
      DroppedAlong attempt state scan.advanced scan.state tested := by
  induction items generalizing state scan with
  | nil => cases member
  | cons item rest inductionHypothesis =>
      rcases pass_cons_eq_ok finished with
        ⟨later, _, laterFinished, rfl⟩ | ⟨dropped, laterFinished⟩ |
          ⟨next, later, advanced, laterFinished, rfl⟩
      · rcases List.mem_cons.mp member with same | inRest
        · exact Or.inl (List.mem_cons.mpr (Or.inl same))
        · rcases inductionHypothesis laterFinished inRest with kept | other
          · exact Or.inl (List.mem_cons_of_mem item kept)
          · exact Or.inr other
      · rcases List.mem_cons.mp member with same | inRest
        · right
          right
          rw [same]
          exact ⟨state, [], scan.advanced, rfl, .done state, dropped,
            pass_advances laterFinished⟩
        · exact inductionHypothesis laterFinished inRest
      · rcases List.mem_cons.mp member with same | inRest
        · exact Or.inr (Or.inl (List.mem_cons.mpr (Or.inl same)))
        · rcases inductionHypothesis laterFinished inRest with kept | advancedLater | along
          · exact Or.inl kept
          · exact Or.inr (Or.inl (List.mem_cons_of_mem item advancedLater))
          · exact Or.inr (Or.inr (along.next advanced))

/-- A pass without an advance leaves the state alone, and that state keeps
every item the pass kept. -/
theorem pass_of_no_advance
    {state : σ} {items : List α} {scan : Scan σ α}
    (finished : pass attempt state items = .ok scan) (none : scan.advanced = []) :
    scan.state = state ∧ ∀ item ∈ scan.kept, attempt state item = .keep := by
  induction items generalizing scan with
  | nil =>
      cases finished
      exact ⟨rfl, fun item member => by cases member⟩
  | cons item rest inductionHypothesis =>
      rcases pass_cons_eq_ok finished with
        ⟨later, keeps, laterFinished, rfl⟩ | ⟨_, laterFinished⟩ |
          ⟨next, later, _, _, rfl⟩
      · obtain ⟨sameState, allKept⟩ := inductionHypothesis laterFinished none
        refine ⟨sameState, ?_⟩
        intro tested member
        rcases List.mem_cons.mp member with same | inRest
        · rw [same]
          exact keeps
        · exact allKept tested inRest
      · exact inductionHypothesis laterFinished none
      · cases none

/-! ## Whole replays -/

/-- How a sequence of passes begins. -/
theorem passes_succ_eq_ok
    {fuel : Nat} {state : σ} {items : List α} {scan : Scan σ α}
    (finished : passes attempt (fuel + 1) state items = .ok scan) :
    (pass attempt state items = .ok scan ∧ scan.advanced = []) ∨
      ∃ first later, pass attempt state items = .ok first ∧ first.advanced ≠ [] ∧
        passes attempt fuel first.state first.kept = .ok later ∧
          scan = { later with advanced := first.advanced ++ later.advanced } := by
  rw [passes] at finished
  cases begun : pass attempt state items with
  | error raised => simp [begun] at finished
  | ok first =>
      simp only [begun] at finished
      split at finished
      · rename_i stopped
        cases finished
        exact Or.inl ⟨rfl, List.isEmpty_iff.mp stopped⟩
      · rename_i progressed
        right
        cases continued : passes attempt fuel first.state first.kept with
        | error raised => simp [continued, Except.map] at finished
        | ok later =>
            simp only [continued, Except.map, Except.ok.injEq] at finished
            exact ⟨first, later, rfl, fun none => progressed (List.isEmpty_iff.mpr none),
              continued, finished.symm⟩

theorem passes_advances
    (fuel : Nat) {state : σ} {items : List α} {scan : Scan σ α}
    (finished : passes attempt fuel state items = .ok scan) :
    Advances attempt state scan.advanced scan.state := by
  induction fuel generalizing state items scan with
  | zero =>
      cases finished
      exact .done state
  | succ fuel inductionHypothesis =>
      rcases passes_succ_eq_ok finished with
        ⟨only, _⟩ | ⟨first, later, begun, _, continued, rfl⟩
      · exact pass_advances only
      · exact (pass_advances begun).append (inductionHypothesis continued)

/-- The advances of a replay form a run from the first to the last state. -/
theorem replay_advances
    {state : σ} {items : List α} {scan : Scan σ α}
    (finished : replay attempt state items = .ok scan) :
    Advances attempt state scan.advanced scan.state :=
  passes_advances _ finished

private theorem passes_kept_sublist
    (fuel : Nat) {state : σ} {items : List α} {scan : Scan σ α}
    (finished : passes attempt fuel state items = .ok scan) :
    scan.kept.Sublist items := by
  induction fuel generalizing state items scan with
  | zero =>
      cases finished
      exact List.Sublist.refl items
  | succ fuel inductionHypothesis =>
      rcases passes_succ_eq_ok finished with
        ⟨only, _⟩ | ⟨first, later, begun, _, continued, rfl⟩
      · exact pass_kept_sublist only
      · exact (inductionHypothesis continued).trans (pass_kept_sublist begun)

/-- A replay keeps items in their input order. -/
theorem replay_kept_sublist
    {state : σ} {items : List α} {scan : Scan σ α}
    (finished : replay attempt state items = .ok scan) :
    scan.kept.Sublist items :=
  passes_kept_sublist _ finished

private theorem passes_mem
    (fuel : Nat) {state : σ} {items : List α} {scan : Scan σ α} {tested : α}
    (finished : passes attempt fuel state items = .ok scan) (member : tested ∈ items) :
    tested ∈ scan.kept ∨ tested ∈ scan.advanced ∨
      DroppedAlong attempt state scan.advanced scan.state tested := by
  induction fuel generalizing state items scan with
  | zero =>
      cases finished
      exact Or.inl member
  | succ fuel inductionHypothesis =>
      rcases passes_succ_eq_ok finished with
        ⟨only, _⟩ | ⟨first, later, begun, _, continued, rfl⟩
      · exact pass_mem only member
      · have firstAdvances := pass_advances begun
        rcases pass_mem begun member with kept | advanced | along
        · rcases inductionHypothesis continued kept with keptLater | advancedLater | along
          · exact Or.inl keptLater
          · exact Or.inr (Or.inl (List.mem_append_right _ advancedLater))
          · exact Or.inr (Or.inr (along.after firstAdvances))
        · exact Or.inr (Or.inl (List.mem_append_left _ advanced))
        · exact Or.inr (Or.inr (along.before (passes_advances fuel continued)))

/-- No item of a replay is lost. -/
theorem replay_mem
    {state : σ} {items : List α} {scan : Scan σ α} {tested : α}
    (finished : replay attempt state items = .ok scan) (member : tested ∈ items) :
    tested ∈ scan.kept ∨ tested ∈ scan.advanced ∨
      DroppedAlong attempt state scan.advanced scan.state tested :=
  passes_mem _ finished member

/-! ## What a replay keeps -/

private theorem pass_kept_filter
    {state : σ} {items : List α} {scan : Scan σ α} (tested : α → Bool)
    (finished : pass attempt state items = .ok scan)
    (settled :
      ∀ item, item ∈ scan.advanced ∨ DroppedAlong attempt state scan.advanced scan.state item →
        tested item = false) :
    scan.kept.filter tested = items.filter tested := by
  induction items generalizing state scan with
  | nil =>
      cases finished
      rfl
  | cons item rest inductionHypothesis =>
      rcases pass_cons_eq_ok finished with
        ⟨later, _, laterFinished, rfl⟩ | ⟨dropped, laterFinished⟩ |
          ⟨next, later, advanced, laterFinished, rfl⟩
      · have sameRest := @inductionHypothesis state later laterFinished settled
        rw [List.filter_cons, List.filter_cons, sameRest]
      · have itemSettled : tested item = false :=
          settled item (Or.inr ⟨state, [], scan.advanced, rfl, .done state, dropped,
            pass_advances laterFinished⟩)
        rw [List.filter_cons, itemSettled]
        exact inductionHypothesis laterFinished settled
      · have itemSettled : tested item = false := settled item (Or.inl List.mem_cons_self)
        rw [List.filter_cons, itemSettled]
        apply @inductionHypothesis next later laterFinished
        rintro other (isAdvanced | along)
        · exact settled other (Or.inl (List.mem_cons_of_mem item isAdvanced))
        · exact settled other (Or.inr (along.next advanced))

private theorem passes_kept_filter
    (fuel : Nat) {state : σ} {items : List α} {scan : Scan σ α} (tested : α → Bool)
    (finished : passes attempt fuel state items = .ok scan)
    (settled :
      ∀ item, item ∈ scan.advanced ∨ DroppedAlong attempt state scan.advanced scan.state item →
        tested item = false) :
    scan.kept.filter tested = items.filter tested := by
  induction fuel generalizing state items scan with
  | zero =>
      cases finished
      rfl
  | succ fuel inductionHypothesis =>
      rcases passes_succ_eq_ok finished with
        ⟨only, _⟩ | ⟨first, later, begun, _, continued, rfl⟩
      · exact pass_kept_filter tested only settled
      · have sameFirst : first.kept.filter tested = items.filter tested := by
          apply pass_kept_filter tested begun
          rintro item (isAdvanced | along)
          · exact settled item (Or.inl (List.mem_append_left _ isAdvanced))
          · exact settled item (Or.inr (along.before (passes_advances fuel continued)))
        rw [← sameFirst]
        apply @inductionHypothesis first.state first.kept later continued
        rintro item (isAdvanced | along)
        · exact settled item (Or.inl (List.mem_append_right _ isAdvanced))
        · exact settled item (Or.inr (along.after (pass_advances begun)))

/-- A test that fails for everything advanced or dropped picks the same items
from what a replay keeps as from its input. -/
theorem replay_kept_filter
    {state : σ} {items : List α} {scan : Scan σ α} (tested : α → Bool)
    (finished : replay attempt state items = .ok scan)
    (settled :
      ∀ item, item ∈ scan.advanced ∨ DroppedAlong attempt state scan.advanced scan.state item →
        tested item = false) :
    scan.kept.filter tested = items.filter tested :=
  passes_kept_filter _ tested finished settled

/-- Advanced items come from the input. -/
theorem pass_advanced_sublist
    {state : σ} {items : List α} {scan : Scan σ α}
    (finished : pass attempt state items = .ok scan) :
    scan.advanced.Sublist items := by
  induction items generalizing state scan with
  | nil =>
      cases finished
      exact List.Sublist.refl []
  | cons item rest inductionHypothesis =>
      rcases pass_cons_eq_ok finished with
        ⟨later, _, laterFinished, rfl⟩ | ⟨_, laterFinished⟩ |
          ⟨next, later, _, laterFinished, rfl⟩
      · exact (inductionHypothesis laterFinished).cons item
      · exact (inductionHypothesis laterFinished).cons item
      · exact (inductionHypothesis laterFinished).cons_cons item

theorem passes_advanced_subset
    (fuel : Nat) {state : σ} {items : List α} {scan : Scan σ α}
    (finished : passes attempt fuel state items = .ok scan) :
    scan.advanced ⊆ items := by
  induction fuel generalizing state items scan with
  | zero =>
      cases finished
      exact List.nil_subset items
  | succ fuel inductionHypothesis =>
      rcases passes_succ_eq_ok finished with
        ⟨only, _⟩ | ⟨first, later, begun, _, continued, rfl⟩
      · exact (pass_advanced_sublist only).subset
      · apply List.append_subset.mpr
        refine ⟨(pass_advanced_sublist begun).subset, ?_⟩
        intro item member
        exact (pass_kept_sublist begun).subset (inductionHypothesis continued member)

theorem replay_advanced_subset
    {state : σ} {items : List α} {scan : Scan σ α}
    (finished : replay attempt state items = .ok scan) :
    scan.advanced ⊆ items :=
  passes_advanced_subset _ finished

private theorem passes_fixpoint
    (fuel : Nat) {state : σ} {items : List α} {scan : Scan σ α}
    (enough : items.length < fuel)
    (finished : passes attempt fuel state items = .ok scan) :
    ∀ item ∈ scan.kept, attempt scan.state item = .keep := by
  induction fuel generalizing state items scan with
  | zero => omega
  | succ fuel inductionHypothesis =>
      rcases passes_succ_eq_ok finished with
        ⟨only, stopped⟩ | ⟨first, later, begun, progressed, continued, rfl⟩
      · obtain ⟨sameState, allKept⟩ := pass_of_no_advance only stopped
        rw [sameState]
        exact allKept
      · have bound := pass_length_le begun
        have positive : 0 < first.advanced.length := List.length_pos_iff.mpr progressed
        have fewer : first.kept.length < fuel := by omega
        exact @inductionHypothesis first.state first.kept later fewer continued

/-- A replay stops only at a fixpoint: its final state keeps whatever it left
pending. -/
theorem replay_fixpoint
    {state : σ} {items : List α} {scan : Scan σ α}
    (finished : replay attempt state items = .ok scan) :
    ∀ item ∈ scan.kept, attempt scan.state item = .keep :=
  passes_fixpoint _ (Nat.lt_succ_self items.length) finished

/-- Nothing happens to items that the state keeps. -/
theorem passes_of_all_kept
    (fuel : Nat) {state : σ} {items : List α}
    (allKept : ∀ item ∈ items, attempt state item = .keep) :
    passes attempt fuel state items = .ok ⟨state, items, []⟩ := by
  have begun : pass attempt state items = .ok ⟨state, items, []⟩ := by
    induction items with
    | nil => rfl
    | cons item rest inductionHypothesis =>
        have restKept : ∀ other ∈ rest, attempt state other = .keep :=
          fun other member => allKept other (List.mem_cons_of_mem item member)
        rw [pass, allKept item List.mem_cons_self, inductionHypothesis restKept]
        rfl
  cases fuel with
  | zero => rfl
  | succ fuel => simp [passes, begun]

/-- Items that advance one after the other are one pass. -/
theorem pass_of_advances
    {state final : σ} {items : List α} (ran : Advances attempt state items final) :
    pass attempt state items = .ok ⟨final, [], items⟩ := by
  induction ran with
  | done state => rfl
  | next advanced _ inductionHypothesis =>
      rw [pass, advanced]
      dsimp only
      rw [inductionHypothesis]
      rfl

/-- Items that advance one after the other replay to the same state. -/
theorem replay_of_advances
    {state final : σ} {items : List α} (ran : Advances attempt state items final) :
    replay attempt state items = .ok ⟨final, [], items⟩ := by
  rw [replay, passes, pass_of_advances ran]
  cases items with
  | nil => rfl
  | cons item rest => simp [passes_of_all_kept, Except.map]

/-! ## Replays that never abort -/

private theorem pass_of_never_aborts
    {property : σ → Prop} {items : List α}
    (preserved :
      ∀ state item next, property state → attempt state item = .advance next → property next)
    (never :
      ∀ state item, item ∈ items → property state →
        ∀ raised, attempt state item ≠ .abort raised)
    (state : σ) (holds : property state) :
    ∃ scan, pass attempt state items = .ok scan ∧ property scan.state := by
  induction items generalizing state with
  | nil => exact ⟨⟨state, [], []⟩, rfl, holds⟩
  | cons item rest inductionHypothesis =>
      have restNever :
          ∀ state other, other ∈ rest → property state →
            ∀ raised, attempt state other ≠ .abort raised :=
        fun state other member => never state other (List.mem_cons_of_mem item member)
      rw [pass]
      cases decision : attempt state item with
      | keep =>
          obtain ⟨scan, finished, atEnd⟩ := inductionHypothesis restNever state holds
          exact ⟨{ scan with kept := item :: scan.kept }, by simp [finished, Except.map], atEnd⟩
      | drop => exact inductionHypothesis restNever state holds
      | advance next =>
          obtain ⟨scan, finished, atEnd⟩ :=
            inductionHypothesis restNever next (preserved state item next holds decision)
          exact ⟨{ scan with advanced := item :: scan.advanced },
            by simp [finished, Except.map], atEnd⟩
      | abort raised => exact absurd decision (never state item List.mem_cons_self holds raised)

private theorem passes_of_never_aborts
    {property : σ → Prop} (fuel : Nat) {items : List α}
    (preserved :
      ∀ state item next, property state → attempt state item = .advance next → property next)
    (never :
      ∀ state item, item ∈ items → property state →
        ∀ raised, attempt state item ≠ .abort raised)
    (state : σ) (holds : property state) :
    ∃ scan, passes attempt fuel state items = .ok scan := by
  induction fuel generalizing state items with
  | zero => exact ⟨_, rfl⟩
  | succ fuel inductionHypothesis =>
      obtain ⟨scan, begun, atEnd⟩ := pass_of_never_aborts preserved never state holds
      rw [passes, begun]
      dsimp only
      split
      · exact ⟨scan, rfl⟩
      · have keptNever :
            ∀ state item, item ∈ scan.kept → property state →
              ∀ raised, attempt state item ≠ .abort raised :=
          fun state item member => never state item ((pass_kept_sublist begun).subset member)
        obtain ⟨later, continued⟩ := inductionHypothesis keptNever scan.state atEnd
        rw [continued]
        exact ⟨_, rfl⟩

/-- A replay succeeds if its items abort in no state it can come to. -/
theorem replay_of_never_aborts
    {property : σ → Prop} {state : σ} {items : List α} (atStart : property state)
    (preserved :
      ∀ state item next, property state → attempt state item = .advance next → property next)
    (never :
      ∀ state item, item ∈ items → property state →
        ∀ raised, attempt state item ≠ .abort raised) :
    ∃ scan, replay attempt state items = .ok scan :=
  passes_of_never_aborts _ preserved never state atStart

/-! ## Renaming items -/

/-- The scan of renamed items. -/
def Scan.map {β : Type v} (rename : α → β) (scan : Scan σ α) : Scan σ β where
  state := scan.state
  kept := scan.kept.map rename
  advanced := scan.advanced.map rename

section Renaming

variable {β : Type v} {attempt : σ → β → Attempt σ ε} (rename : α → β)

theorem pass_map (state : σ) (items : List α) :
    pass attempt state (items.map rename) =
      (pass (fun current item => attempt current (rename item)) state items).map
        (Scan.map rename) := by
  induction items generalizing state with
  | nil => rfl
  | cons item rest inductionHypothesis =>
      rw [List.map_cons, pass, pass]
      cases attempt state (rename item) with
      | keep =>
          simp only [inductionHypothesis]
          cases pass (fun current item => attempt current (rename item)) state rest <;> rfl
      | drop => exact inductionHypothesis state
      | advance next =>
          simp only [inductionHypothesis]
          cases pass (fun current item => attempt current (rename item)) next rest <;> rfl
      | abort raised => rfl

theorem passes_map (fuel : Nat) (state : σ) (items : List α) :
    passes attempt fuel state (items.map rename) =
      (passes (fun current item => attempt current (rename item)) fuel state items).map
        (Scan.map rename) := by
  induction fuel generalizing state items with
  | zero => rfl
  | succ fuel inductionHypothesis =>
      rw [passes, passes, pass_map]
      cases pass (fun current item => attempt current (rename item)) state items with
      | error raised => rfl
      | ok scan =>
          simp only [Except.map, Scan.map, List.isEmpty_map, inductionHypothesis]
          split
          · rfl
          · cases
                passes (fun current item => attempt current (rename item)) fuel scan.state
                  scan.kept with
            | error raised => rfl
            | ok later => simp

/-- A replay does not depend on how its items are represented. -/
theorem replay_map (state : σ) (items : List α) :
    replay attempt state (items.map rename) =
      (replay (fun current item => attempt current (rename item)) state items).map
        (Scan.map rename) := by
  rw [replay, replay, passes_map, List.length_map]

end Renaming

/-! ## Two attempts that agree -/

section Agreement

variable {first second : σ → α → Attempt σ ε} {good : σ → α → Prop} {apart : α → α → Prop}

/-- Items that are good for the current state and pairwise apart. -/
private def AllGood
    (good : σ → α → Prop) (apart : α → α → Prop) (state : σ) (items : List α) : Prop :=
  items.Pairwise apart ∧ ∀ item ∈ items, good state item

private theorem AllGood.advance
    (symmetric : ∀ left right, apart left right → apart right left)
    (preserved :
      ∀ state item other next, good state item → good state other → apart item other →
        first state item = .advance next → good next other)
    {state next : σ} {item : α} {others rest : List α}
    (allGood : AllGood good apart state (others ++ item :: rest))
    (advanced : first state item = .advance next) :
    AllGood good apart next (others ++ rest) := by
  obtain ⟨separate, eachGood⟩ := allGood
  have withoutItem : (others ++ rest).Sublist (others ++ item :: rest) :=
    (List.Sublist.refl others).append (List.sublist_cons_self item rest)
  refine ⟨separate.sublist withoutItem, ?_⟩
  intro other member
  obtain ⟨-, itemSeparate, acrossSeparate⟩ := List.pairwise_append.mp separate
  have isApart : apart item other := by
    rcases List.mem_append.mp member with inOthers | inRest
    · exact symmetric _ _ (acrossSeparate other inOthers item List.mem_cons_self)
    · exact (List.pairwise_cons.mp itemSeparate).1 other inRest
  have itemGood := eachGood item (by simp)
  exact preserved state item other next itemGood (eachGood other (withoutItem.subset member))
    isApart advanced

/-- Two attempts that agree on good items run the same pass, when advancing
with one good item keeps the items apart from it good. -/
private theorem pass_congr
    (symmetric : ∀ left right, apart left right → apart right left)
    (agree : ∀ state item, good state item → first state item = second state item)
    (preserved :
      ∀ state item other next, good state item → good state other → apart item other →
        first state item = .advance next → good next other)
    (state : σ) (others items : List α)
    (allGood : AllGood good apart state (others ++ items)) :
    pass first state items = pass second state items ∧
      ∀ scan, pass first state items = .ok scan →
        AllGood good apart scan.state (others ++ scan.kept) := by
  induction items generalizing state others with
  | nil =>
      refine ⟨rfl, ?_⟩
      intro scan finished
      cases finished
      exact allGood
  | cons item rest inductionHypothesis =>
      have itemGood : good state item := allGood.2 item (by simp)
      have regrouped : others ++ item :: rest = (others ++ [item]) ++ rest := by simp
      have withoutItem : (others ++ rest).Sublist (others ++ item :: rest) :=
        (List.Sublist.refl others).append (List.sublist_cons_self item rest)
      have restGood : AllGood good apart state (others ++ rest) :=
        ⟨allGood.1.sublist withoutItem,
          fun other member => allGood.2 other (withoutItem.subset member)⟩
      constructor
      · rw [pass, pass, ← agree state item itemGood]
        cases decision : first state item with
        | keep =>
            rw [regrouped] at allGood
            dsimp only
            rw [(inductionHypothesis state (others ++ [item]) allGood).1]
        | drop => exact (inductionHypothesis state others restGood).1
        | advance next =>
            have nextGood := allGood.advance symmetric preserved decision
            dsimp only
            rw [(inductionHypothesis next others nextGood).1]
        | abort raised => rfl
      · intro scan finished
        rcases pass_cons_eq_ok finished with
          ⟨later, _, laterFinished, rfl⟩ | ⟨_, laterFinished⟩ |
            ⟨next, later, advanced, laterFinished, rfl⟩
        · rw [regrouped] at allGood
          have laterGood :=
            (inductionHypothesis state (others ++ [item]) allGood).2 later laterFinished
          simpa using laterGood
        · exact (inductionHypothesis state others restGood).2 scan laterFinished
        · have nextGood := allGood.advance symmetric preserved advanced
          exact (inductionHypothesis next others nextGood).2 later laterFinished

private theorem passes_congr
    (symmetric : ∀ left right, apart left right → apart right left)
    (agree : ∀ state item, good state item → first state item = second state item)
    (preserved :
      ∀ state item other next, good state item → good state other → apart item other →
        first state item = .advance next → good next other)
    (fuel : Nat) (state : σ) (items : List α) (allGood : AllGood good apart state items) :
    passes first fuel state items = passes second fuel state items ∧
      ∀ scan, passes first fuel state items = .ok scan →
        ∀ item ∈ scan.kept, good scan.state item := by
  induction fuel generalizing state items with
  | zero =>
      refine ⟨rfl, ?_⟩
      intro scan finished
      cases finished
      exact allGood.2
  | succ fuel inductionHypothesis =>
      obtain ⟨samePass, passGood⟩ :=
        pass_congr symmetric agree preserved state [] items allGood
      constructor
      · rw [passes, passes, ← samePass]
        cases begun : pass first state items with
        | error raised => rfl
        | ok scan =>
            dsimp only
            rw [(inductionHypothesis scan.state scan.kept (passGood scan begun)).1]
      · intro scan finished
        rcases passes_succ_eq_ok finished with
          ⟨only, _⟩ | ⟨begun, later, started, _, continued, rfl⟩
        · exact (passGood scan only).2
        · exact
            (inductionHypothesis begun.state begun.kept (passGood begun started)).2 later continued

/-- Two attempts that agree on good items run the same replay, and what it keeps
is still good at the end. -/
theorem replay_congr
    (symmetric : ∀ left right, apart left right → apart right left)
    (agree : ∀ state item, good state item → first state item = second state item)
    (preserved :
      ∀ state item other next, good state item → good state other → apart item other →
        first state item = .advance next → good next other)
    (state : σ) (items : List α) (separate : items.Pairwise apart)
    (allGood : ∀ item ∈ items, good state item) :
    replay first state items = replay second state items ∧
      ∀ scan, replay first state items = .ok scan →
        ∀ item ∈ scan.kept, good scan.state item :=
  passes_congr symmetric agree preserved _ state items ⟨separate, allGood⟩

end Agreement

end StableReplay
