import Chaft.Library.ReplaySimulation

/-!
# Replays of growing lists

When items are added behind a list, the first pass over the old items is the same.  As
long as no added item advances, the next passes are the same too; what the old items
advance until then comes first in both replays.
-/

namespace StableReplay

universe u v w

variable {σ : Type u} {α : Type v} {ε : Type w} {attempt : σ → α → Attempt σ ε}

/-! ## Passes over two lists -/

/-- A pass over two lists is a pass over the first and one over the second. -/
theorem pass_append
    {state : σ} {items more : List α} {scan tail : Scan σ α}
    (finished : pass attempt state items = .ok scan)
    (continued : pass attempt scan.state more = .ok tail) :
    pass attempt state (items ++ more) =
      .ok ⟨tail.state, scan.kept ++ tail.kept, scan.advanced ++ tail.advanced⟩ := by
  induction items generalizing state scan with
  | nil =>
      cases finished
      exact continued
  | cons item rest inductionHypothesis =>
      rw [List.cons_append, pass]
      rcases pass_cons_eq_ok finished with
        ⟨later, keeps, laterFinished, rfl⟩ | ⟨drops, laterFinished⟩ |
          ⟨next, later, advances, laterFinished, rfl⟩
      · rw [keeps]
        dsimp only
        rw [inductionHypothesis laterFinished continued]
        rfl
      · rw [drops]
        dsimp only
        exact inductionHypothesis laterFinished continued
      · rw [advances]
        dsimp only
        rw [inductionHypothesis laterFinished continued]
        rfl

theorem exists_pass_of_append
    {state : σ} {items more : List α} {whole : Scan σ α}
    (finished : pass attempt state (items ++ more) = .ok whole) :
    ∃ scan tail, pass attempt state items = .ok scan ∧
      pass attempt scan.state more = .ok tail ∧
        whole = ⟨tail.state, scan.kept ++ tail.kept, scan.advanced ++ tail.advanced⟩ := by
  induction items generalizing state whole with
  | nil => exact ⟨⟨state, [], []⟩, whole, rfl, finished, rfl⟩
  | cons item rest inductionHypothesis =>
      rw [List.cons_append] at finished
      rcases pass_cons_eq_ok finished with
        ⟨later, keeps, laterFinished, rfl⟩ | ⟨drops, laterFinished⟩ |
          ⟨next, later, advances, laterFinished, rfl⟩
      · obtain ⟨scan, tail, begun, continued, rfl⟩ := inductionHypothesis laterFinished
        refine ⟨{ scan with kept := item :: scan.kept }, tail, ?_, continued, rfl⟩
        rw [pass, keeps]
        dsimp only
        rw [begun]
        rfl
      · obtain ⟨scan, tail, begun, continued, same⟩ := inductionHypothesis laterFinished
        refine ⟨scan, tail, ?_, continued, same⟩
        rw [pass, drops]
        exact begun
      · obtain ⟨scan, tail, begun, continued, rfl⟩ := inductionHypothesis laterFinished
        refine ⟨{ scan with advanced := item :: scan.advanced }, tail, ?_, continued, rfl⟩
        rw [pass, advances]
        dsimp only
        rw [begun]
        rfl

/-! ## Rounds -/

/-- A number of passes, also when one of them advances nothing. -/
def rounds (attempt : σ → α → Attempt σ ε) : Nat → σ → List α → Except ε (Scan σ α)
  | 0, state, pending => .ok ⟨state, pending, []⟩
  | count + 1, state, pending =>
      match pass attempt state pending with
      | .error raised => .error raised
      | .ok scan =>
          (rounds attempt count scan.state scan.kept).map fun later =>
            { later with advanced := scan.advanced ++ later.advanced }

/-- How a number of rounds begins. -/
theorem rounds_succ_eq_ok
    {count : Nat} {state : σ} {items : List α} {scan : Scan σ α}
    (finished : rounds attempt (count + 1) state items = .ok scan) :
    ∃ first later, pass attempt state items = .ok first ∧
      rounds attempt count first.state first.kept = .ok later ∧
        scan = { later with advanced := first.advanced ++ later.advanced } := by
  rw [rounds] at finished
  cases begun : pass attempt state items with
  | error raised => simp [begun] at finished
  | ok first =>
      simp only [begun] at finished
      cases continued : rounds attempt count first.state first.kept with
      | error raised => simp [continued, Except.map] at finished
      | ok later =>
          simp only [continued, Except.map, Except.ok.injEq] at finished
          exact ⟨first, later, rfl, continued, finished.symm⟩

theorem rounds_succ
    {count : Nat} {state : σ} {items : List α} {first later : Scan σ α}
    (begun : pass attempt state items = .ok first)
    (continued : rounds attempt count first.state first.kept = .ok later) :
    rounds attempt (count + 1) state items =
      .ok { later with advanced := first.advanced ++ later.advanced } := by
  rw [rounds, begun]
  dsimp only
  rw [continued]
  rfl

/-- Where every item is kept, rounds change nothing. -/
theorem rounds_of_still
    (count : Nat) {state : σ} {items : List α}
    (still : ∀ item ∈ items, attempt state item = .keep) :
    rounds attempt count state items = .ok ⟨state, items, []⟩ := by
  have passed : pass attempt state items = .ok ⟨state, items, []⟩ := by
    induction items with
    | nil => rfl
    | cons item rest inductionHypothesis =>
        obtain ⟨keeps, restStill⟩ := List.forall_mem_cons.mp still
        rw [pass, keeps]
        dsimp only
        rw [inductionHypothesis restStill]
        rfl
  induction count with
  | zero => rfl
  | succ count inductionHypothesis => exact rounds_succ passed inductionHypothesis

private theorem rounds_of_passes
    (fuel count : Nat) {state : σ} {items : List α} {scan : Scan σ α}
    (enough : items.length < fuel) (finished : passes attempt fuel state items = .ok scan) :
    ∃ part, rounds attempt count state items = .ok part ∧
      part.advanced.IsPrefix scan.advanced := by
  induction fuel generalizing count state items scan with
  | zero => omega
  | succ fuel inductionHypothesis =>
      cases count with
      | zero => exact ⟨⟨state, items, []⟩, rfl, List.nil_prefix⟩
      | succ count =>
          rcases passes_succ_eq_ok finished with
            ⟨only, stopped⟩ | ⟨first, later, begun, progressed, continued, rfl⟩
          · obtain ⟨sameState, still⟩ := pass_of_no_advance only stopped
            rw [← sameState] at still
            refine ⟨_, rounds_succ only (rounds_of_still count still), ?_⟩
            simp only [List.append_nil, List.prefix_rfl]
          · have bound := pass_length_le begun
            have positive : 0 < first.advanced.length := List.length_pos_iff.mpr progressed
            obtain ⟨part, partRan, isPrefix⟩ :=
              inductionHypothesis count (by omega) continued
            exact ⟨_, rounds_succ begun partRan,
              (List.prefix_append_right_inj first.advanced).mpr isPrefix⟩

/-- What the first rounds of a replay advance comes first. -/
theorem rounds_of_replay
    (count : Nat) {state : σ} {items : List α} {scan : Scan σ α}
    (finished : replay attempt state items = .ok scan) :
    ∃ part, rounds attempt count state items = .ok part ∧
      part.advanced.IsPrefix scan.advanced :=
  rounds_of_passes _ count (Nat.lt_succ_self _) finished

/-- While no added item advances, the old items go through the same rounds, and through
one more. -/
theorem rounds_prefix_of_waiting
    (count : Nat) {state : σ} {items more : List α} {part begun whole : Scan σ α}
    (waited : rounds attempt count state (items ++ more) = .ok part)
    (waiting : ∀ item ∈ part.advanced, item ∉ more)
    (early : rounds attempt (count + 1) state items = .ok begun)
    (ran : rounds attempt (count + 1) state (items ++ more) = .ok whole) :
    begun.advanced.IsPrefix whole.advanced := by
  induction count generalizing state items more part begun whole with
  | zero =>
      obtain ⟨first, later, passed, stopped, rfl⟩ := rounds_succ_eq_ok early
      obtain ⟨both, rest, bothPassed, bothStopped, rfl⟩ := rounds_succ_eq_ok ran
      cases stopped
      cases bothStopped
      obtain ⟨scan, tail, scanned, -, rfl⟩ := exists_pass_of_append bothPassed
      rw [scanned, Except.ok.injEq] at passed
      subst passed
      dsimp only
      rw [List.append_nil, List.append_nil]
      exact List.prefix_append _ _
  | succ count inductionHypothesis =>
      obtain ⟨both, partLater, bothPassed, partContinued, rfl⟩ := rounds_succ_eq_ok waited
      obtain ⟨first, later, passed, continued, rfl⟩ := rounds_succ_eq_ok early
      obtain ⟨bothAgain, wholeLater, bothPassedAgain, wholeContinued, rfl⟩ :=
        rounds_succ_eq_ok ran
      rw [bothPassed, Except.ok.injEq] at bothPassedAgain
      subst bothPassedAgain
      obtain ⟨scan, tail, scanned, tailPassed, rfl⟩ := exists_pass_of_append bothPassed
      rw [scanned, Except.ok.injEq] at passed
      subst passed
      -- the added items have advanced nothing in this pass
      have idle : tail.advanced = [] := by
        refine List.eq_nil_iff_forall_not_mem.mpr fun item member => ?_
        have amongMore := (pass_advanced_sublist tailPassed).subset member
        refine waiting item ?_ amongMore
        exact List.mem_append_left _ (List.mem_append_right _ member)
      have sameState := (pass_of_no_advance tailPassed idle).1
      rw [sameState] at partContinued wholeContinued
      have restWaiting : ∀ item ∈ partLater.advanced, item ∉ tail.kept := by
        intro item member isKept
        refine waiting item (List.mem_append_right _ member) ?_
        exact (pass_kept_sublist tailPassed).subset isKept
      have restPrefix :=
        inductionHypothesis partContinued restWaiting continued wholeContinued
      dsimp only
      rw [idle, List.append_nil]
      exact (List.prefix_append_right_inj scan.advanced).mpr restPrefix

end StableReplay
