import Chaft.Library.StableReplay

/-!
# Two replays of one list

A replay can follow another one of the same list on states of its own.  It may
skip items for which the other waits in vain, and it may abort at an attempt
that only makes the other wait.  Then it ends in a state related to the end of
the other replay unless the other makes one of those fatal attempts.
-/

namespace StableReplay

universe u v w x y

variable {σ : Type u} {α : Type v} {ε : Type w}

/-- The attempts of one pass, with the states in which they are made. -/
def passTrials (attempt : σ → α → Attempt σ ε) : σ → List α → List (σ × α)
  | _, [] => []
  | state, item :: rest =>
      (state, item) ::
        match attempt state item with
        | .keep => passTrials attempt state rest
        | .drop => passTrials attempt state rest
        | .advance next => passTrials attempt next rest
        | .abort _ => []

def passesTrials (attempt : σ → α → Attempt σ ε) : Nat → σ → List α → List (σ × α)
  | 0, _, _ => []
  | fuel + 1, state, pending =>
      passTrials attempt state pending ++
        match pass attempt state pending with
        | .error _ => []
        | .ok scan =>
            if scan.advanced.isEmpty then [] else passesTrials attempt fuel scan.state scan.kept

/-- The attempts of a whole replay. -/
def trials (attempt : σ → α → Attempt σ ε) (state : σ) (pending : List α) : List (σ × α) :=
  passesTrials attempt (pending.length + 1) state pending

/-- Two attempts decide the same, up to related states. -/
inductive Attempt.Agree {τ : Type x} {δ : Type y} (related : σ → τ → Prop) :
    Attempt σ ε → Attempt τ δ → Prop
  | keep : Agree related .keep .keep
  | drop : Agree related .drop .drop
  | advance {next : σ} {mirrored : τ} (nextRelated : related next mirrored) :
      Agree related (.advance next) (.advance mirrored)
  | abort (raised : ε) (any : Attempt τ δ) : Agree related (.abort raised) any

/-- How a second replay of an input follows the first one. -/
structure Follows {τ : Type x} {δ : Type y}
    (first : σ → α → Attempt σ ε) (second : τ → α → Attempt τ δ)
    (related : σ → τ → Prop) (input : List α) (alive : α → Bool) (fatal : σ → α → Prop) :
    Prop where
  skips : ∀ mirror item, alive item = false → second mirror item = .drop
  waits :
    ∀ state mirror item, item ∈ input → related state mirror → alive item = false →
      first state item = .keep ∧ ¬ fatal state item
  aborts :
    ∀ state mirror item, item ∈ input → related state mirror → fatal state item →
      ∃ raised, second mirror item = .abort raised
  agrees :
    ∀ state mirror item, item ∈ input → related state mirror → alive item = true →
      ¬ fatal state item → Attempt.Agree related (first state item) (second mirror item)

section Following

variable {τ : Type x} {δ : Type y} {first : σ → α → Attempt σ ε}
  {second : τ → α → Attempt τ δ} {related : σ → τ → Prop} {input : List α}
  {alive : α → Bool} {fatal : σ → α → Prop}

/-- Skipped items make no difference to the second replay. -/
private theorem pass_filter
    (follows : Follows first second related input alive fatal)
    (mirror : τ) (items : List α) :
    pass second mirror (items.filter alive) = pass second mirror items := by
  induction items generalizing mirror with
  | nil => rfl
  | cons item rest inductionHypothesis =>
      by_cases isAlive : alive item = true
      · rw [List.filter_cons_of_pos isAlive, pass, pass]
        cases second mirror item with
        | keep => simp only [inductionHypothesis]
        | drop => exact inductionHypothesis mirror
        | advance next => simp only [inductionHypothesis]
        | abort raised => rfl
      · rw [List.filter_cons_of_neg isAlive, pass,
          follows.skips mirror item (Bool.eq_false_of_not_eq_true isAlive)]
        exact inductionHypothesis mirror

/-- The scan of the second replay beside one of the first. -/
private def mirrorScan (alive : α → Bool) (scan : Scan σ α) (final : τ) : Scan τ α :=
  ⟨final, scan.kept.filter alive, scan.advanced⟩

/-- After an attempt that is not fatal both passes go on from related states. -/
private theorem pass_step
    (follows : Follows first second related input alive fatal)
    {state : σ} {mirror : τ} {item : α} {rest : List α} {scan : Scan σ α}
    (drawn : item ∈ input) (stateRelated : related state mirror)
    (finished : pass first state (item :: rest) = .ok scan)
    (harmless : ¬ fatal state item) :
    ∃ next mirrored later extend, related next mirrored ∧
      pass first next rest = .ok later ∧ later.state = scan.state ∧
        passTrials first state (item :: rest) = (state, item) :: passTrials first next rest ∧
          pass second mirror (item :: rest) = (pass second mirrored rest).map extend ∧
            ∀ final, extend (mirrorScan alive later final) = mirrorScan alive scan final := by
  by_cases isAlive : alive item = true
  · have agreed := follows.agrees state mirror item drawn stateRelated isAlive harmless
    cases decision : second mirror item with
    | keep =>
        rcases pass_cons_eq_ok finished with
          ⟨later, kept, laterFinished, rfl⟩ | ⟨dropped, _⟩ | ⟨next, later, advanced, _, _⟩
        · refine ⟨state, mirror, later, fun scan => { scan with kept := item :: scan.kept },
            stateRelated, laterFinished, rfl, ?_, ?_, ?_⟩
          · rw [passTrials, kept]
          · rw [pass, decision]
          · intro final
            simp only [mirrorScan, List.filter_cons_of_pos isAlive]
        · rw [dropped, decision] at agreed
          cases agreed
        · rw [advanced, decision] at agreed
          cases agreed
    | drop =>
        rcases pass_cons_eq_ok finished with
          ⟨later, kept, _, _⟩ | ⟨dropped, laterFinished⟩ | ⟨next, later, advanced, _, _⟩
        · rw [kept, decision] at agreed
          cases agreed
        · refine ⟨state, mirror, scan, id, stateRelated, laterFinished, rfl, ?_, ?_,
            fun final => rfl⟩
          · rw [passTrials, dropped]
          · rw [pass, decision]
            cases pass second mirror rest <;> rfl
        · rw [advanced, decision] at agreed
          cases agreed
    | advance mirrored =>
        rcases pass_cons_eq_ok finished with
          ⟨later, kept, _, _⟩ | ⟨dropped, _⟩ | ⟨next, later, advanced, laterFinished, rfl⟩
        · rw [kept, decision] at agreed
          cases agreed
        · rw [dropped, decision] at agreed
          cases agreed
        · rw [advanced, decision] at agreed
          cases agreed with
          | advance nextRelated =>
              refine ⟨next, mirrored, later,
                fun scan => { scan with advanced := item :: scan.advanced }, nextRelated,
                laterFinished, rfl, ?_, ?_, fun final => rfl⟩
              · rw [passTrials, advanced]
              · rw [pass, decision]
    | abort raised =>
        rcases pass_cons_eq_ok finished with
          ⟨later, kept, _, _⟩ | ⟨dropped, _⟩ | ⟨next, later, advanced, _, _⟩
        · rw [kept, decision] at agreed
          cases agreed
        · rw [dropped, decision] at agreed
          cases agreed
        · rw [advanced, decision] at agreed
          cases agreed
  · have isSkipped := Bool.eq_false_of_not_eq_true isAlive
    have kept := (follows.waits state mirror item drawn stateRelated isSkipped).1
    rcases pass_cons_eq_ok finished with
      ⟨later, _, laterFinished, rfl⟩ | ⟨dropped, _⟩ | ⟨next, later, advanced, _, _⟩
    · refine ⟨state, mirror, later, id, stateRelated, laterFinished, rfl, ?_, ?_, ?_⟩
      · rw [passTrials, kept]
      · rw [pass, follows.skips mirror item isSkipped]
        cases pass second mirror rest <;> rfl
      · intro final
        simp only [mirrorScan, List.filter_cons_of_neg isAlive, id]
    · rw [kept] at dropped
      cases dropped
    · rw [kept] at advanced
      cases advanced

/-- A pass without a fatal attempt is followed. -/
private theorem pass_follows
    (follows : Follows first second related input alive fatal)
    {state : σ} {mirror : τ} {items : List α} {scan : Scan σ α}
    (drawn : items ⊆ input) (stateRelated : related state mirror)
    (finished : pass first state items = .ok scan)
    (harmless : ∀ trial ∈ passTrials first state items, ¬ fatal trial.1 trial.2) :
    ∃ final, pass second mirror items = .ok (mirrorScan alive scan final) ∧
      related scan.state final := by
  induction items generalizing state mirror scan with
  | nil =>
      cases finished
      exact ⟨mirror, rfl, stateRelated⟩
  | cons item rest inductionHypothesis =>
      obtain ⟨itemDrawn, restDrawn⟩ := List.cons_subset.mp drawn
      have itemHarmless : ¬ fatal state item := harmless (state, item) List.mem_cons_self
      obtain ⟨next, mirrored, later, extend, nextRelated, laterFinished, sameState, made,
        continued, extended⟩ := pass_step follows itemDrawn stateRelated finished itemHarmless
      have restHarmless : ∀ trial ∈ passTrials first next rest, ¬ fatal trial.1 trial.2 := by
        intro trial inRest
        apply harmless trial
        rw [made]
        exact List.mem_cons_of_mem _ inRest
      obtain ⟨final, followed, finalRelated⟩ :=
        inductionHypothesis restDrawn nextRelated laterFinished restHarmless
      rw [sameState] at finalRelated
      refine ⟨final, ?_, finalRelated⟩
      rw [continued, followed, Except.map, extended]

/-- A pass with a fatal attempt aborts the second replay. -/
private theorem pass_aborts
    (follows : Follows first second related input alive fatal)
    {state : σ} {mirror : τ} {items : List α} {scan : Scan σ α}
    (drawn : items ⊆ input) (stateRelated : related state mirror)
    (finished : pass first state items = .ok scan)
    (isFatal : ∃ trial ∈ passTrials first state items, fatal trial.1 trial.2) :
    ∃ raised, pass second mirror items = .error raised := by
  induction items generalizing state mirror scan with
  | nil =>
      obtain ⟨trial, made, _⟩ := isFatal
      cases made
  | cons item rest inductionHypothesis =>
      obtain ⟨itemDrawn, restDrawn⟩ := List.cons_subset.mp drawn
      by_cases itemFatal : fatal state item
      · obtain ⟨raised, aborted⟩ := follows.aborts state mirror item itemDrawn stateRelated itemFatal
        exact ⟨raised, by rw [pass, aborted]⟩
      · obtain ⟨next, mirrored, later, extend, nextRelated, laterFinished, _, made,
          continued, _⟩ := pass_step follows itemDrawn stateRelated finished itemFatal
        obtain ⟨trial, isMade, trialFatal⟩ := isFatal
        rw [made] at isMade
        have inRest : trial ∈ passTrials first next rest := by
          rcases List.mem_cons.mp isMade with isItem | inRest
          · rw [isItem] at trialFatal
            exact absurd trialFatal itemFatal
          · exact inRest
        obtain ⟨raised, failed⟩ :=
          inductionHypothesis restDrawn nextRelated laterFinished ⟨trial, inRest, trialFatal⟩
        exact ⟨raised, by rw [continued, failed, Except.map]⟩

/-- The attempts of a sequence of passes. -/
private theorem mem_passesTrials_iff
    {fuel : Nat} {state : σ} {items : List α} {scan : Scan σ α} (trial : σ × α)
    (begun : pass first state items = .ok scan) :
    trial ∈ passesTrials first (fuel + 1) state items ↔
      trial ∈ passTrials first state items ∨
        scan.advanced ≠ [] ∧ trial ∈ passesTrials first fuel scan.state scan.kept := by
  rw [passesTrials, List.mem_append, begun]
  cases progressed : scan.advanced with
  | nil => simp [progressed]
  | cons advanced rest => simp [progressed]

private theorem passes_follow
    (follows : Follows first second related input alive fatal)
    (fuel : Nat) {state : σ} {mirror : τ} {items : List α} {scan : Scan σ α}
    (drawn : items ⊆ input) (stateRelated : related state mirror)
    (finished : passes first fuel state items = .ok scan)
    (harmless : ∀ trial ∈ passesTrials first fuel state items, ¬ fatal trial.1 trial.2) :
    ∃ final, passes second fuel mirror (items.filter alive) =
        .ok (mirrorScan alive scan final) ∧
      related scan.state final := by
  induction fuel generalizing state mirror items scan with
  | zero =>
      cases finished
      exact ⟨mirror, rfl, stateRelated⟩
  | succ fuel inductionHypothesis =>
      rcases passes_succ_eq_ok finished with
        ⟨only, stopped⟩ | ⟨begun, later, started, progressed, continued, rfl⟩
      · have passHarmless : ∀ trial ∈ passTrials first state items, ¬ fatal trial.1 trial.2 :=
          fun trial made => harmless trial ((mem_passesTrials_iff trial only).mpr (Or.inl made))
        obtain ⟨final, followed, finalRelated⟩ :=
          pass_follows follows drawn stateRelated only passHarmless
        refine ⟨final, ?_, finalRelated⟩
        rw [passes, pass_filter follows, followed]
        simp only [mirrorScan, stopped, List.isEmpty_nil, if_true]
      · have passHarmless : ∀ trial ∈ passTrials first state items, ¬ fatal trial.1 trial.2 :=
          fun trial made =>
            harmless trial ((mem_passesTrials_iff trial started).mpr (Or.inl made))
        have laterHarmless :
            ∀ trial ∈ passesTrials first fuel begun.state begun.kept,
              ¬ fatal trial.1 trial.2 :=
          fun trial made =>
            harmless trial
              ((mem_passesTrials_iff trial started).mpr (Or.inr ⟨progressed, made⟩))
        obtain ⟨middle, followed, middleRelated⟩ :=
          pass_follows follows drawn stateRelated started passHarmless
        obtain ⟨final, followedLater, finalRelated⟩ :=
          inductionHypothesis
            (fun item kept => drawn ((pass_kept_sublist started).subset kept)) middleRelated
            continued laterHarmless
        refine ⟨final, ?_, finalRelated⟩
        rw [passes, pass_filter follows, followed]
        simp only [mirrorScan, List.isEmpty_iff, progressed, if_false]
        rw [followedLater, Except.map]
        rfl

private theorem passes_abort
    (follows : Follows first second related input alive fatal)
    (fuel : Nat) {state : σ} {mirror : τ} {items : List α} {scan : Scan σ α}
    (drawn : items ⊆ input) (stateRelated : related state mirror)
    (finished : passes first fuel state items = .ok scan)
    (isFatal : ∃ trial ∈ passesTrials first fuel state items, fatal trial.1 trial.2) :
    ∃ raised, passes second fuel mirror (items.filter alive) = .error raised := by
  induction fuel generalizing state mirror items scan with
  | zero =>
      obtain ⟨trial, made, _⟩ := isFatal
      cases made
  | succ fuel inductionHypothesis =>
      obtain ⟨begun, started⟩ : ∃ begun, pass first state items = .ok begun := by
        rcases passes_succ_eq_ok finished with ⟨only, _⟩ | ⟨begun, _, started, _⟩
        · exact ⟨scan, only⟩
        · exact ⟨begun, started⟩
      by_cases inPass : ∃ trial ∈ passTrials first state items, fatal trial.1 trial.2
      · obtain ⟨raised, failed⟩ := pass_aborts follows drawn stateRelated started inPass
        exact ⟨raised, by rw [passes, pass_filter follows, failed]⟩
      · have passHarmless :
            ∀ trial ∈ passTrials first state items, ¬ fatal trial.1 trial.2 :=
          fun trial made trialFatal => inPass ⟨trial, made, trialFatal⟩
        obtain ⟨middle, followed, middleRelated⟩ :=
          pass_follows follows drawn stateRelated started passHarmless
        obtain ⟨trial, made, trialFatal⟩ := isFatal
        rcases (mem_passesTrials_iff trial started).mp made with inFirst | ⟨progressed, later⟩
        · exact absurd trialFatal (passHarmless trial inFirst)
        · rcases passes_succ_eq_ok finished with
            ⟨only, stopped⟩ | ⟨again, rest, restarted, _, continued, _⟩
          · rw [started, Except.ok.injEq] at only
            rw [only] at progressed
            exact absurd stopped progressed
          · rw [started, Except.ok.injEq] at restarted
            rw [← restarted] at continued
            obtain ⟨raised, failed⟩ :=
              inductionHypothesis
                (fun item kept => drawn ((pass_kept_sublist started).subset kept))
                middleRelated continued ⟨trial, later, trialFatal⟩
            refine ⟨raised, ?_⟩
            rw [passes, pass_filter follows, followed]
            simp only [mirrorScan, List.isEmpty_iff, progressed, if_false]
            rw [failed, Except.map]

/-- A second replay that follows ends in a state related to the end of the first
one, unless the first one makes a fatal attempt; then it aborts. -/
theorem replay_follows
    (follows : Follows first second related input alive fatal)
    {state : σ} {mirror : τ} {scan : Scan σ α}
    (stateRelated : related state mirror)
    (finished : replay first state input = .ok scan) :
    ((∀ trial ∈ trials first state input, ¬ fatal trial.1 trial.2) →
        ∃ mirrored, replay second mirror input = .ok mirrored ∧
          related scan.state mirrored.state) ∧
      ((∃ trial ∈ trials first state input, fatal trial.1 trial.2) →
        ∃ raised, replay second mirror input = .error raised) := by
  have skipping :
      replay second mirror input =
        passes second (input.length + 1) mirror (input.filter alive) := by
    rw [replay, passes, passes, pass_filter follows]
  rw [skipping]
  constructor
  · intro harmless
    obtain ⟨final, followed, finalRelated⟩ :=
      passes_follow follows _ (List.Subset.refl input) stateRelated finished harmless
    exact ⟨_, followed, finalRelated⟩
  · exact passes_abort follows _ (List.Subset.refl input) stateRelated finished

end Following

/-! ## One more item at the end -/

section Straggler

variable {attempt first second : σ → α → Attempt σ ε}

/-- What a pass does with one more item. -/
theorem pass_append_singleton
    {state : σ} {items : List α} {scan : Scan σ α} (item : α)
    (finished : pass attempt state items = .ok scan) :
    pass attempt state (items ++ [item]) =
      match attempt scan.state item with
      | .keep => .ok { scan with kept := scan.kept ++ [item] }
      | .drop => .ok scan
      | .advance next => .ok ⟨next, scan.kept, scan.advanced ++ [item]⟩
      | .abort raised => .error raised := by
  induction items generalizing state scan with
  | nil =>
      cases finished
      rw [List.nil_append, pass]
      cases attempt state item <;> rfl
  | cons head rest inductionHypothesis =>
      rw [List.cons_append, pass]
      rcases pass_cons_eq_ok finished with
        ⟨later, keeps, laterFinished, rfl⟩ | ⟨drops, laterFinished⟩ |
          ⟨next, later, advances, laterFinished, rfl⟩
      · rw [keeps]
        dsimp only
        rw [inductionHypothesis laterFinished]
        cases attempt later.state item <;> rfl
      · rw [drops]
        dsimp only
        rw [inductionHypothesis laterFinished]
      · rw [advances]
        dsimp only
        rw [inductionHypothesis laterFinished]
        cases attempt later.state item <;> rfl

/-- A state on the way through the advances, with the items that led to it. -/
def PassesThrough
    (attempt : σ → α → Attempt σ ε) (state : σ) (advanced : List α) (final : σ)
    (earlier : List α) (middle : σ) : Prop :=
  ∃ later, advanced = earlier ++ later ∧
    Advances attempt state earlier middle ∧ Advances attempt middle later final

theorem PassesThrough.after
    {state middle final reached : σ} {earlier later before : List α}
    (begun : Advances attempt state earlier middle)
    (through : PassesThrough attempt middle later final before reached) :
    PassesThrough attempt state (earlier ++ later) final (earlier ++ before) reached := by
  obtain ⟨rest, split, toReached, toFinal⟩ := through
  refine ⟨rest, ?_, begun.append toReached, toFinal⟩
  rw [split, List.append_assoc]

/-- The items that one attempt holds back while another one decides alike about
all others. -/
structure HoldsBack
    (first second : σ → α → Attempt σ ε) (items : List α) (held : α → Prop) : Prop where
  agrees : ∀ state item, item ∈ items → ¬ held item → second state item = first state item
  waits : ∀ state item, item ∈ items → held item → second state item = .keep

theorem HoldsBack.subset
    {items fewer : List α} {held : α → Prop} (holdsBack : HoldsBack first second items held)
    (contained : fewer ⊆ items) :
    HoldsBack first second fewer held where
  agrees := fun state item member => holdsBack.agrees state item (contained member)
  waits := fun state item member => holdsBack.waits state item (contained member)

/-- None of the held items is advanced or dropped. -/
def StayPending
    (attempt : σ → α → Attempt σ ε) (state : σ) (scan : Scan σ α) (held : α → Prop) : Prop :=
  ∀ item, held item →
    item ∉ scan.advanced ∧ ¬ DroppedAlong attempt state scan.advanced scan.state item

/-- Holding back what stays pending anyway makes the same pass. -/
theorem pass_of_holdsBack
    {state : σ} {items : List α} {scan : Scan σ α} {held : α → Prop}
    (finished : pass first state items = .ok scan)
    (holdsBack : HoldsBack first second items held)
    (pending : StayPending first state scan held) :
    pass second state items = .ok scan := by
  induction items generalizing state scan with
  | nil => exact finished
  | cons item rest inductionHypothesis =>
      have restHolds : HoldsBack first second rest held :=
        holdsBack.subset (List.subset_cons_self item rest)
      rcases pass_cons_eq_ok finished with
        ⟨later, keeps, laterFinished, rfl⟩ | ⟨drops, laterFinished⟩ |
          ⟨next, later, advances, laterFinished, rfl⟩
      · have same : second state item = .keep := by
          by_cases isHeld : held item
          · exact holdsBack.waits state item List.mem_cons_self isHeld
          · rw [holdsBack.agrees state item List.mem_cons_self isHeld, keeps]
        rw [pass, same, inductionHypothesis laterFinished restHolds pending]
        rfl
      · have notHeld : ¬ held item := by
          intro isHeld
          exact (pending item isHeld).2
            ⟨state, [], scan.advanced, rfl, .done state, drops, pass_advances laterFinished⟩
        rw [pass, holdsBack.agrees state item List.mem_cons_self notHeld, drops,
          inductionHypothesis laterFinished restHolds pending]
      · have notHeld : ¬ held item :=
          fun isHeld => (pending item isHeld).1 List.mem_cons_self
        have restPending : StayPending first next later held := by
          intro other isHeld
          obtain ⟨notAdvanced, notDropped⟩ := pending other isHeld
          exact ⟨fun member => notAdvanced (List.mem_cons_of_mem item member),
            fun along => notDropped (along.next advances)⟩
        rw [pass, holdsBack.agrees state item List.mem_cons_self notHeld, advances]
        dsimp only
        rw [inductionHypothesis laterFinished restHolds restPending]
        rfl

private theorem passes_straggler
    (fuel more : Nat) {state : σ} {items : List α} {straggler : α} {scan late : Scan σ α}
    {held : α → Prop} (enough : items.length < fuel) (alsoEnough : items.length < more)
    (finished : passes first fuel state items = .ok scan)
    (finishedLate : passes second more state (items ++ [straggler]) = .ok late)
    (holdsBack : HoldsBack first second items held)
    (pending : StayPending first state scan held)
    (lingers :
      ∀ earlier middle,
        PassesThrough first state scan.advanced scan.state earlier middle →
          (earlier = [] → scan.advanced = []) →
            (∀ raised, second middle straggler ≠ .abort raised) →
              second middle straggler = .keep) :
    late = { scan with kept := scan.kept ++ [straggler] } := by
  induction fuel generalizing more state items scan late with
  | zero => omega
  | succ fuel inductionHypothesis =>
      cases more with
      | zero => omega
      | succ more =>
          -- what the second pass does once the straggler is known to be kept
          have endOfPass :
              ∀ begun : Scan σ α, pass second state items = .ok begun →
                (∀ raised, second begun.state straggler ≠ .abort raised) ∧
                  (second begun.state straggler = .keep →
                    pass second state (items ++ [straggler]) =
                      .ok { begun with kept := begun.kept ++ [straggler] }) := by
            intro begun sameBegun
            have appended := pass_append_singleton straggler sameBegun
            constructor
            · intro raised aborts
              rw [aborts] at appended
              rw [passes, appended] at finishedLate
              cases finishedLate
            · intro keeps
              rw [appended, keeps]
          rcases passes_succ_eq_ok finished with
            ⟨only, stopped⟩ | ⟨begun, later, started, progressed, continued, rfl⟩
          · have sameOnly := pass_of_holdsBack only holdsBack pending
            have atEnd :
                PassesThrough first state scan.advanced scan.state scan.advanced scan.state :=
              ⟨[], (List.append_nil _).symm, pass_advances only, .done _⟩
            obtain ⟨noAbort, keeping⟩ := endOfPass scan sameOnly
            have lateBegun := keeping (lingers _ _ atEnd id noAbort)
            rw [passes, lateBegun] at finishedLate
            simpa [stopped] using finishedLate.symm
          · have beginning : Advances first state begun.advanced begun.state :=
              pass_advances started
            have rest : Advances first begun.state later.advanced later.state :=
              passes_advances _ continued
            have begunPending : StayPending first state begun held := by
              intro item isHeld
              obtain ⟨notAdvanced, notDropped⟩ := pending item isHeld
              exact ⟨fun member => notAdvanced (List.mem_append_left _ member),
                fun along => notDropped (along.before rest)⟩
            have laterPending : StayPending first begun.state later held := by
              intro item isHeld
              obtain ⟨notAdvanced, notDropped⟩ := pending item isHeld
              exact ⟨fun member => notAdvanced (List.mem_append_right _ member),
                fun along => notDropped (along.after beginning)⟩
            have sameBegun := pass_of_holdsBack started holdsBack begunPending
            have atBegun :
                PassesThrough first state (begun.advanced ++ later.advanced) later.state
                  begun.advanced begun.state :=
              ⟨later.advanced, rfl, beginning, rest⟩
            obtain ⟨noAbort, keeping⟩ := endOfPass begun sameBegun
            have lateBegun :=
              keeping (lingers _ _ atBegun (fun none => absurd none progressed) noAbort)
            have bound := pass_length_le started
            have positive : 0 < begun.advanced.length := List.length_pos_iff.mpr progressed
            rcases passes_succ_eq_ok finishedLate with
              ⟨lateOnly, lateStopped⟩ | ⟨lateFirst, lateRest, lateStarted, _, lateContinued, rfl⟩
            · rw [lateBegun, Except.ok.injEq] at lateOnly
              rw [← lateOnly] at lateStopped
              exact absurd lateStopped progressed
            · rw [lateBegun, Except.ok.injEq] at lateStarted
              rw [← lateStarted] at lateContinued
              have laterSame :
                  lateRest = { later with kept := later.kept ++ [straggler] } := by
                refine inductionHypothesis more (by omega) (by omega) continued lateContinued
                  (holdsBack.subset (pass_kept_sublist started).subset) laterPending ?_
                intro earlier middle through _
                refine lingers _ middle (through.after beginning) ?_
                intro none
                exact absurd (List.append_eq_nil_iff.mp none).1 progressed
              rw [laterSame, ← lateStarted]

/-- A straggler that is kept at the end of every pass changes nothing but the
list of what is kept. -/
theorem replay_straggler
    {state : σ} {items : List α} {straggler : α} {scan late : Scan σ α}
    {held : α → Prop} (finished : replay first state items = .ok scan)
    (finishedLate : replay second state (items ++ [straggler]) = .ok late)
    (holdsBack : HoldsBack first second items held)
    (pending : StayPending first state scan held)
    (lingers :
      ∀ earlier middle,
        PassesThrough first state scan.advanced scan.state earlier middle →
          (earlier = [] → scan.advanced = []) →
            (∀ raised, second middle straggler ≠ .abort raised) →
              second middle straggler = .keep) :
    late = { scan with kept := scan.kept ++ [straggler] } := by
  have longer : items.length < (items ++ [straggler]).length + 1 := by
    rw [List.length_append]
    omega
  exact passes_straggler _ _ (Nat.lt_succ_self _) longer finished finishedLate holdsBack
    pending lingers

end Straggler

/-! ## An item that comes last -/

section Newcomer

variable {first second : σ → α → Attempt σ ε}

/-- Attempts that agree on the items make the same pass. -/
theorem pass_of_agree
    {state : σ} {items : List α} {scan : Scan σ α}
    (finished : pass first state items = .ok scan)
    (agrees : ∀ state item, item ∈ items → second state item = first state item) :
    pass second state items = .ok scan := by
  refine @pass_of_holdsBack _ _ _ first second state items scan (fun _ => False) finished ?_ ?_
  · exact ⟨fun state item member _ => agrees state item member, fun _ _ _ never => never.elim⟩
  · exact fun _ never => never.elim

/-- A newcomer waits until the last of the advances. -/
def ComesLast
    (first second : σ → α → Attempt σ ε) (state : σ) (scan : Scan σ α) (newcomer : α) : Prop :=
  ∀ earlier later middle,
    scan.advanced = earlier ++ later → later ≠ [] →
      Advances first state earlier middle → Advances first middle later scan.state →
        second middle newcomer = .keep

private theorem passes_newcomer
    (fuel more : Nat) {state next : σ} {items : List α} {newcomer : α} {scan late : Scan σ α}
    (enough : items.length < fuel)
    (finished : passes first fuel state items = .ok scan)
    (alsoEnough : items.length + 1 < more)
    (finishedLate : passes second more state (items ++ [newcomer]) = .ok late)
    (agrees : ∀ state item, item ∈ items → second state item = first state item)
    (comesLast : ComesLast first second state scan newcomer)
    (arrives : second scan.state newcomer = .advance next) :
    ∃ extra, late.advanced = scan.advanced ++ newcomer :: extra ∧ extra ⊆ items ∧
      Advances second next extra late.state := by
  induction fuel generalizing more state items scan late with
  | zero => omega
  | succ fuel inductionHypothesis =>
      cases more with
      | zero => omega
      | succ more =>
          -- once everything before the newcomer has advanced, the newcomer ends the pass
          have arrivesAt :
              ∀ begun : Scan σ α, pass first state items = .ok begun →
                begun.state = scan.state →
                  ∃ extra, late.advanced = begun.advanced ++ newcomer :: extra ∧
                    extra ⊆ items ∧ Advances second next extra late.state := by
            intro begun started atEnd
            have appended := pass_append_singleton newcomer (pass_of_agree started agrees)
            rw [atEnd, arrives] at appended
            dsimp only at appended
            rcases passes_succ_eq_ok finishedLate with
              ⟨only, stopped⟩ | ⟨lateBegun, rest, lateStarted, -, continued, rfl⟩
            · rw [appended, Except.ok.injEq] at only
              rw [← only] at stopped
              simp at stopped
            · rw [appended, Except.ok.injEq] at lateStarted
              subst lateStarted
              refine ⟨rest.advanced, by simp, ?_, passes_advances _ continued⟩
              intro item member
              exact (pass_kept_sublist started).subset
                (passes_advanced_subset _ continued member)
          rcases passes_succ_eq_ok finished with
            ⟨only, stopped⟩ | ⟨begun, later, started, progressed, continued, rfl⟩
          · exact arrivesAt scan only rfl
          · by_cases done : later.advanced = []
            · have rest := passes_advances _ continued
              rw [done] at rest
              have atEnd : begun.state = later.state := rest.eq_of_nil
              obtain ⟨extra, split, contained, advances⟩ := arrivesAt begun started atEnd
              exact ⟨extra, by rw [split, done, List.append_nil], contained, advances⟩
            · have beginning := pass_advances started
              have waiting : second begun.state newcomer = .keep :=
                comesLast begun.advanced later.advanced begun.state rfl done beginning
                  (passes_advances _ continued)
              have appended := pass_append_singleton newcomer (pass_of_agree started agrees)
              rw [waiting] at appended
              dsimp only at appended
              have bound := pass_length_le started
              have positive : 0 < begun.advanced.length := List.length_pos_iff.mpr progressed
              rcases passes_succ_eq_ok finishedLate with
                ⟨only, stopped⟩ | ⟨lateBegun, rest, lateStarted, -, lateContinued, rfl⟩
              · rw [appended, Except.ok.injEq] at only
                rw [← only] at stopped
                exact absurd stopped progressed
              · rw [appended, Except.ok.injEq] at lateStarted
                subst lateStarted
                obtain ⟨extra, split, contained, advances⟩ :=
                  inductionHypothesis more (by omega) continued (by omega) lateContinued
                    (fun state item member =>
                      agrees state item ((pass_kept_sublist started).subset member))
                    (by
                      intro earlier rest middle parts nonempty toMiddle toEnd
                      refine comesLast (begun.advanced ++ earlier) rest middle ?_ nonempty
                        (beginning.append toMiddle) toEnd
                      rw [List.append_assoc, ← parts])
                    arrives
                refine ⟨extra, ?_, ?_, advances⟩
                · dsimp only
                  rw [split, List.append_assoc]
                · exact fun item member =>
                    (pass_kept_sublist started).subset (contained member)

/-- A newcomer at the end that waits for all advances and can then advance itself
comes right after them. -/
theorem replay_newcomer
    {state next : σ} {items : List α} {newcomer : α} {scan late : Scan σ α}
    (finished : replay first state items = .ok scan)
    (finishedLate : replay second state (items ++ [newcomer]) = .ok late)
    (agrees : ∀ state item, item ∈ items → second state item = first state item)
    (comesLast : ComesLast first second state scan newcomer)
    (arrives : second scan.state newcomer = .advance next) :
    ∃ extra, late.advanced = scan.advanced ++ newcomer :: extra ∧ extra ⊆ items ∧
      Advances second next extra late.state := by
  have longer : items.length + 1 < (items ++ [newcomer]).length + 1 := by
    rw [List.length_append]
    simp
  exact passes_newcomer _ _ (Nat.lt_succ_self _) finished longer finishedLate agrees comesLast
    arrives

/-- A pass without advances over what the state keeps or drops. -/
theorem pass_of_settled
    {attempt : σ → α → Attempt σ ε} {state : σ} {items : List α}
    (settled : ∀ item ∈ items, attempt state item = .keep ∨ attempt state item = .drop) :
    ∃ kept, pass attempt state items = .ok ⟨state, kept, []⟩ := by
  induction items with
  | nil => exact ⟨[], rfl⟩
  | cons item rest inductionHypothesis =>
      obtain ⟨kept, later⟩ := inductionHypothesis
        fun other member => settled other (List.mem_cons_of_mem item member)
      rcases settled item List.mem_cons_self with keeps | drops
      · exact ⟨item :: kept, by rw [pass, keeps, later]; rfl⟩
      · exact ⟨kept, by rw [pass, drops, later]⟩

private theorem passes_newcomer_of_settled
    (fuel more : Nat) {state next : σ} {items : List α} {newcomer : α} {scan : Scan σ α}
    (enough : items.length < fuel)
    (finished : passes first fuel state items = .ok scan)
    (alsoEnough : items.length + 1 < more)
    (agrees : ∀ state item, item ∈ items → second state item = first state item)
    (comesLast : ComesLast first second state scan newcomer)
    (arrives : second scan.state newcomer = .advance next)
    (settled : ∀ item ∈ items, second next item = .keep ∨ second next item = .drop) :
    ∃ kept, passes second more state (items ++ [newcomer]) =
      .ok ⟨next, kept, scan.advanced ++ [newcomer]⟩ := by
  induction fuel generalizing more state items scan with
  | zero => omega
  | succ fuel inductionHypothesis =>
      obtain ⟨more, rfl⟩ : ∃ fewer, more = fewer + 1 := ⟨more - 1, by omega⟩
      -- the pass of the newcomer, and one more pass that advances nothing
      have arrivesAt :
          ∀ begun : Scan σ α, pass first state items = .ok begun → begun.state = scan.state →
            ∃ kept, passes second (more + 1) state (items ++ [newcomer]) =
              .ok ⟨next, kept, begun.advanced ++ [newcomer]⟩ := by
        intro begun started atEnd
        have appended := pass_append_singleton newcomer (pass_of_agree started agrees)
        rw [atEnd, arrives] at appended
        dsimp only at appended
        have keptSettled :
            ∀ item ∈ begun.kept, second next item = .keep ∨ second next item = .drop :=
          fun item member => settled item ((pass_kept_sublist started).subset member)
        obtain ⟨kept, rest⟩ := pass_of_settled keptSettled
        obtain ⟨fewer, rfl⟩ : ∃ fewer, more = fewer + 1 := ⟨more - 1, by omega⟩
        refine ⟨kept, ?_⟩
        rw [passes, appended]
        simp [passes, rest, Except.map]
      rcases passes_succ_eq_ok finished with
        ⟨only, -⟩ | ⟨begun, later, started, progressed, continued, rfl⟩
      · exact arrivesAt scan only rfl
      · by_cases done : later.advanced = []
        · have rest := passes_advances _ continued
          rw [done] at rest
          have atEnd : begun.state = later.state := rest.eq_of_nil
          obtain ⟨kept, passed⟩ := arrivesAt begun started atEnd
          exact ⟨kept, by rw [passed, done, List.append_nil]⟩
        · have beginning := pass_advances started
          have waiting : second begun.state newcomer = .keep :=
            comesLast begun.advanced later.advanced begun.state rfl done beginning
              (passes_advances _ continued)
          have appended := pass_append_singleton newcomer (pass_of_agree started agrees)
          rw [waiting] at appended
          dsimp only at appended
          have bound := pass_length_le started
          have positive : 0 < begun.advanced.length := List.length_pos_iff.mpr progressed
          have contained := (pass_kept_sublist started).subset
          obtain ⟨kept, rest⟩ :=
            inductionHypothesis more (by omega) continued (by omega)
              (fun state item member => agrees state item (contained member))
              (by
                intro earlier rest middle parts nonempty toMiddle toEnd
                refine comesLast (begun.advanced ++ earlier) rest middle ?_ nonempty
                  (beginning.append toMiddle) toEnd
                rw [List.append_assoc, ← parts])
              arrives (fun item member => settled item (contained member))
          refine ⟨kept, ?_⟩
          rw [passes, appended]
          simp [progressed, rest, Except.map]

/-- If the newcomer settles everything, nothing follows it. -/
theorem replay_newcomer_of_settled
    {state next : σ} {items : List α} {newcomer : α} {scan : Scan σ α}
    (finished : replay first state items = .ok scan)
    (agrees : ∀ state item, item ∈ items → second state item = first state item)
    (comesLast : ComesLast first second state scan newcomer)
    (arrives : second scan.state newcomer = .advance next)
    (settled : ∀ item ∈ items, second next item = .keep ∨ second next item = .drop) :
    ∃ kept, replay second state (items ++ [newcomer]) =
      .ok ⟨next, kept, scan.advanced ++ [newcomer]⟩ := by
  have longer : items.length + 1 < (items ++ [newcomer]).length + 1 := by
    rw [List.length_append]
    simp
  exact passes_newcomer_of_settled _ _ (Nat.lt_succ_self _) finished longer agrees comesLast
    arrives settled

end Newcomer

end StableReplay
