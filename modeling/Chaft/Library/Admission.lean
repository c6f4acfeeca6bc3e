import Chaft.Library.Effect
import Chaft.Library.Run

/-!
# Admission of pending items

Items wait to be admitted to a log that decides on them.  A pass walks over the
pending items in order: it drops those that the log has already, admits those that it
authorizes, and leaves the others pending.  Passes repeat until nothing is pending,
or until a pass changes nothing, which is a failure.  An admitted item is first
written to a store, and an item that cannot be written ends everything.

An item is authorized by somebody who is trusted, with a look at the log, or by
somebody who is not, without one.  What the first pass leaves pending no untrusted
authority ever lets in, so that one walk over the pending items decides whether
anything is admitted on such authority.
-/

namespace PendingAdmission

open Effects Effects.Effect Outcome Transition

variable {σ α δ ε : Type}

/-- What was written and what was admitted. -/
structure Admission (σ α : Type) where
  store : σ
  log : List α

/-- How items are admitted. -/
structure Gate (σ α δ ε : Type) where
  known : List α → α → Bool
  authorize : List α → α → Except δ Unit
  write : σ → α → Except ε σ
  refuse : α → δ → ε
  /-- The failure for a pending item that is authorized after all. -/
  mistaken : ε

namespace Gate

def enter (gate : Gate σ α δ ε) (item : α) : Effect (Admission σ α) ε Unit := fun state =>
  match gate.write state.store item with
  | .ok store => (.ok (), { store := store, log := state.log ++ [item] })
  | .error raised => (.error raised, state)

/-- One walk over the pending items: those it leaves pending, and whether there was
anything that it did not leave. -/
def pass (gate : Gate σ α δ ε) :
    List α → Bool → List α → Effect (Admission σ α) ε (List α × Bool)
  | kept, progressed, [] => pure (kept, progressed)
  | kept, progressed, item :: rest => fun state =>
      if gate.known state.log item then
        gate.pass kept true rest state
      else
        match gate.authorize state.log item with
        | .ok _ => (gate.enter item >>= fun _ => gate.pass kept true rest) state
        | .error _ => gate.pass (kept ++ [item]) progressed rest state

/-- The failure of a pass that changed nothing names its first item. -/
def giveUp (gate : Gate σ α δ ε) (item : α) : Effect (Admission σ α) ε Unit :=
  reads fun state =>
    match gate.authorize state.log item with
    | .ok _ => .error gate.mistaken
    | .error refusal => .error (gate.refuse item refusal)

/-- What follows a pass. -/
def proceed
    (gate : Gate σ α δ ε) (again : List α → Effect (Admission σ α) ε Unit) :
    List α × Bool → Effect (Admission σ α) ε Unit
  | ([], _) => pure ()
  | (first :: others, true) => again (first :: others)
  | (first :: _, false) => gate.giveUp first

def passes (gate : Gate σ α δ ε) : Nat → List α → Effect (Admission σ α) ε Unit
  | 0, _ => pure ()
  | fuel + 1, pending => do
      let outcome ← gate.pass [] false pending
      gate.proceed (gate.passes fuel) outcome

/-- Every pass that changes something leaves fewer items, so that as many passes as
there are items are enough. -/
def admitAll (gate : Gate σ α δ ε) (pending : List α) : Effect (Admission σ α) ε Unit :=
  gate.passes pending.length pending

end Gate

/-! ## How a log grows -/

/-- Every item that the log grew by was allowed on the log before it. -/
def GrewBy (allowed : List α → α → Prop) (start final : List α) : Prop :=
  ∀ log item, start <+: log → log ++ [item] <+: final → allowed log item

section Growth

variable {allowed : List α → α → Prop} {start middle final : List α}

theorem grewBy_refl (log : List α) : GrewBy allowed log log := by
  intro earlier item begins ends
  have shorter := begins.length_le
  have longer := ends.length_le
  simp only [List.length_append, List.length_singleton] at longer
  omega

theorem grewBy_snoc_iff (log : List α) (item : α) :
    GrewBy allowed log (log ++ [item]) ↔ allowed log item := by
  constructor
  · intro grew
    exact grew log item (List.prefix_refl log) (List.prefix_refl _)
  · intro isAllowed earlier other begins ends
    have shorter := begins.length_le
    have longer := ends.length_le
    simp only [List.length_append, List.length_singleton] at longer
    have sameLength : log.length = earlier.length := by omega
    have same : log = earlier := begins.eq_of_length sameLength
    subst same
    have sameItem := ends.eq_of_length (by simp)
    rw [List.append_cancel_left_eq, List.singleton_inj] at sameItem
    rw [sameItem]
    exact isAllowed

/-- A log grew as allowed exactly when it did so in both of two stretches. -/
theorem grewBy_trans_iff (first : start <+: middle) (second : middle <+: final) :
    GrewBy allowed start final ↔ GrewBy allowed start middle ∧ GrewBy allowed middle final := by
  constructor
  · intro grew
    constructor
    · intro log item begins ends
      exact grew log item begins (ends.trans second)
    · intro log item begins ends
      exact grew log item (first.trans begins) ends
  · rintro ⟨early, late⟩ log item begins ends
    by_cases reached : log.length < middle.length
    · apply early log item begins
      apply List.prefix_of_prefix_length_le ends second
      simp only [List.length_append, List.length_singleton]
      omega
    · apply late log item _ ends
      have before : log <+: final := (List.prefix_append log [item]).trans ends
      apply List.prefix_of_prefix_length_le second before
      omega

/-- The items that a log grew by. -/
theorem mem_growth_iff (start : List α) {added : List α} {item : α} :
    item ∈ added ↔ ∃ log, start <+: log ∧ log ++ [item] <+: start ++ added := by
  constructor
  · intro member
    obtain ⟨earlier, later, rfl⟩ := List.append_of_mem member
    refine ⟨start ++ earlier, List.prefix_append start earlier, later, ?_⟩
    simp only [List.append_assoc, List.singleton_append]
  · rintro ⟨log, ⟨earlier, rfl⟩, ends⟩
    rw [List.append_assoc, List.prefix_append_right_inj] at ends
    exact ends.subset (List.mem_append_right earlier (List.mem_singleton_self item))

end Growth

namespace Gate

variable {gate : Gate σ α δ ε}

/-! ## Steps of a pass -/

section Steps

variable {kept rest : List α} {progressed : Bool} {item : α} {state : Admission σ α}

theorem pass_cons :
    gate.pass kept progressed (item :: rest) state =
      if gate.known state.log item then
        gate.pass kept true rest state
      else
        match gate.authorize state.log item with
        | .ok _ => (gate.enter item >>= fun _ => gate.pass kept true rest) state
        | .error _ => gate.pass (kept ++ [item]) progressed rest state := rfl

theorem pass_of_known (isKnown : gate.known state.log item = true) :
    gate.pass kept progressed (item :: rest) state = gate.pass kept true rest state := by
  rw [pass_cons, if_pos isKnown]

theorem pass_of_refused
    {refusal : δ} (isNew : gate.known state.log item = false)
    (refused : gate.authorize state.log item = .error refusal) :
    gate.pass kept progressed (item :: rest) state =
      gate.pass (kept ++ [item]) progressed rest state := by
  rw [pass_cons, if_neg (by rw [isNew]; exact Bool.false_ne_true), refused]

theorem pass_of_written
    {store : σ} (isNew : gate.known state.log item = false)
    (authorized : gate.authorize state.log item = .ok ())
    (written : gate.write state.store item = .ok store) :
    gate.pass kept progressed (item :: rest) state =
      gate.pass kept true rest { store := store, log := state.log ++ [item] } := by
  have admitted :
      gate.enter item state = (.ok (), { store := store, log := state.log ++ [item] }) := by
    rw [enter, written]
  rw [pass_cons, if_neg (by rw [isNew]; exact Bool.false_ne_true), authorized]
  exact bind_of_ok admitted _

theorem pass_of_unwritten
    {raised : ε} (isNew : gate.known state.log item = false)
    (authorized : gate.authorize state.log item = .ok ())
    (failed : gate.write state.store item = .error raised) :
    gate.pass kept progressed (item :: rest) state = (.error raised, state) := by
  have stopped : gate.enter item state = (.error raised, state) := by
    rw [enter, failed]
  rw [pass_cons, if_neg (by rw [isNew]; exact Bool.false_ne_true), authorized]
  exact bind_of_error stopped _

end Steps

/-! ## What a run admits -/

/-- A pass writes what it logs, and all of it was pending. -/
theorem pass_admits
    (kept : List α) (progressed : Bool) (pending : List α) (state : Admission σ α) :
    ∃ added,
      (gate.pass kept progressed pending state).2.log = state.log ++ added ∧
        Run gate.write state.store added (gate.pass kept progressed pending state).2.store ∧
        ∀ item ∈ added, item ∈ pending := by
  induction pending generalizing kept progressed state with
  | nil => exact ⟨[], (List.append_nil state.log).symm, .start, fun _ member => member⟩
  | cons item rest inductionHypothesis =>
      cases isKnown : gate.known state.log item with
      | true =>
          rw [pass_of_known isKnown]
          obtain ⟨added, logged, written, pending⟩ := inductionHypothesis kept true state
          exact ⟨added, logged, written,
            fun other member => List.mem_cons_of_mem item (pending other member)⟩
      | false =>
          cases decision : gate.authorize state.log item with
          | error refusal =>
              rw [pass_of_refused isKnown decision]
              obtain ⟨added, logged, written, pending⟩ :=
                inductionHypothesis (kept ++ [item]) progressed state
              exact ⟨added, logged, written,
                fun other member => List.mem_cons_of_mem item (pending other member)⟩
          | ok done =>
              cases attempt : gate.write state.store item with
              | error raised =>
                  rw [pass_of_unwritten isKnown decision attempt]
                  exact ⟨[], (List.append_nil state.log).symm, .start,
                    fun _ member => absurd member List.not_mem_nil⟩
              | ok store =>
                  rw [pass_of_written isKnown decision attempt]
                  obtain ⟨added, logged, written, pending⟩ :=
                    inductionHypothesis kept true
                      { store := store, log := state.log ++ [item] }
                  refine ⟨item :: added, ?_, ?_, ?_⟩
                  · rw [logged, List.append_assoc, List.singleton_append]
                  · exact Run.cons attempt written
                  · intro other member
                    rcases List.mem_cons.mp member with same | later
                    · rw [same]
                      exact List.mem_cons_self
                    · exact List.mem_cons_of_mem item (pending other later)

/-- What a pass leaves pending was pending before and refused on some log. -/
theorem pass_leaves
    {kept pending left : List α} {progressed moved : Bool} {state after : Admission σ α}
    (finished : gate.pass kept progressed pending state = (.ok (left, moved), after)) :
    ∀ item ∈ left,
      item ∈ kept ∨
        (item ∈ pending ∧ ∃ log refusal, gate.authorize log item = .error refusal) := by
  induction pending generalizing kept progressed state with
  | nil =>
      intro item member
      rw [pass, pure_apply_eq_ok_iff, Prod.mk.injEq] at finished
      rw [← finished.1.1] at member
      exact .inl member
  | cons head rest inductionHypothesis =>
      have later :
          ∀ item,
            (item ∈ kept ∨
              (item ∈ rest ∧ ∃ log refusal, gate.authorize log item = .error refusal)) →
            (item ∈ kept ∨
              (item ∈ head :: rest ∧
                ∃ log refusal, gate.authorize log item = .error refusal)) :=
        fun item => Or.imp_right fun found => ⟨List.mem_cons_of_mem head found.1, found.2⟩
      intro item member
      cases isKnown : gate.known state.log head with
      | true =>
          rw [pass_of_known isKnown] at finished
          exact later item (inductionHypothesis finished item member)
      | false =>
          cases decision : gate.authorize state.log head with
          | error refusal =>
              rw [pass_of_refused isKnown decision] at finished
              rcases inductionHypothesis finished item member with early | found
              · rcases List.mem_append.mp early with before | isHead
                · exact .inl before
                · rw [List.mem_singleton.mp isHead]
                  exact .inr ⟨List.mem_cons_self, state.log, refusal, decision⟩
              · exact later item (.inr found)
          | ok done =>
              cases attempt : gate.write state.store head with
              | error raised =>
                  rw [pass_of_unwritten isKnown decision attempt] at finished
                  cases finished
              | ok store =>
                  rw [pass_of_written isKnown decision attempt] at finished
                  exact later item (inductionHypothesis finished item member)

/-- A pass that changed something leaves fewer items. -/
theorem pass_shortens
    {kept pending left : List α} {progressed moved : Bool} {state after : Admission σ α}
    (finished : gate.pass kept progressed pending state = (.ok (left, moved), after)) :
    left.length ≤ kept.length + pending.length ∧
      (moved = true → progressed = true ∨ left.length < kept.length + pending.length) := by
  induction pending generalizing kept progressed state with
  | nil =>
      rw [pass, pure_apply_eq_ok_iff, Prod.mk.injEq] at finished
      rw [← finished.1.1, ← finished.1.2]
      exact ⟨by simp, fun did => .inl did⟩
  | cons head rest inductionHypothesis =>
      rw [List.length_cons]
      cases isKnown : gate.known state.log head with
      | true =>
          rw [pass_of_known isKnown] at finished
          have shorter := (inductionHypothesis finished).1
          exact ⟨by omega, fun _ => .inr (by omega)⟩
      | false =>
          cases decision : gate.authorize state.log head with
          | error refusal =>
              rw [pass_of_refused isKnown decision] at finished
              have shorter := inductionHypothesis finished
              rw [List.length_append, List.length_singleton] at shorter
              refine ⟨by omega, fun did => ?_⟩
              rcases shorter.2 did with before | fewer
              · exact .inl before
              · exact .inr (by omega)
          | ok done =>
              cases attempt : gate.write state.store head with
              | error raised =>
                  rw [pass_of_unwritten isKnown decision attempt] at finished
                  cases finished
              | ok store =>
                  rw [pass_of_written isKnown decision attempt] at finished
                  have shorter := (inductionHypothesis finished).1
                  exact ⟨by omega, fun _ => .inr (by omega)⟩

/-! ## What the passes do -/

theorem passes_of_finished
    {fuel : Nat} {pending : List α} {left : List α × Bool} {state after : Admission σ α}
    (finished : gate.pass [] false pending state = (.ok left, after)) :
    gate.passes (fuel + 1) pending state = gate.proceed (gate.passes fuel) left after := by
  rw [passes, bind_of_ok finished]

theorem passes_of_stopped
    {fuel : Nat} {pending : List α} {raised : ε} {state after : Admission σ α}
    (stopped : gate.pass [] false pending state = (.error raised, after)) :
    gate.passes (fuel + 1) pending state = (.error raised, after) := by
  rw [passes, bind_of_error stopped]

theorem passes_nil (fuel : Nat) (state : Admission σ α) :
    gate.passes fuel [] state = (.ok (), state) := by
  cases fuel with
  | zero => rfl
  | succ fuel => rfl

/-- A further pass has fewer items before it. -/
theorem proceed_congr
    {first second : List α → Effect (Admission σ α) ε Unit} {pending : List α}
    {left : List α × Bool} {state after : Admission σ α}
    (finished : gate.pass [] false pending state = (.ok left, after))
    (agree :
      ∀ (fewer : List α),
        fewer.length < pending.length → first fewer after = second fewer after) :
    gate.proceed first left after = gate.proceed second left after := by
  match left with
  | ([], _) => rfl
  | (head :: others, false) => rfl
  | (head :: others, true) =>
      have shorter := (pass_shortens finished).2 rfl
      apply agree
      rcases shorter with impossible | fewer
      · cases impossible
      · simpa using fewer

/-- More passes than there are items change nothing. -/
theorem passes_eq_of_length_le
    (first second : Nat) (pending : List α) (state : Admission σ α)
    (firstEnough : pending.length ≤ first) (secondEnough : pending.length ≤ second) :
    gate.passes first pending state = gate.passes second pending state := by
  induction first generalizing second pending state with
  | zero =>
      rw [List.length_eq_zero_iff.mp (Nat.le_zero.mp firstEnough), passes_nil, passes_nil]
  | succ first inductionHypothesis =>
      cases second with
      | zero =>
          rw [List.length_eq_zero_iff.mp (Nat.le_zero.mp secondEnough), passes_nil, passes_nil]
      | succ second =>
          cases outcome : gate.pass [] false pending state with
          | mk result after =>
              cases result with
              | error raised => rw [passes_of_stopped outcome, passes_of_stopped outcome]
              | ok left =>
                  rw [passes_of_finished outcome, passes_of_finished outcome]
                  apply proceed_congr outcome
                  intro fewer shorter
                  exact inductionHypothesis second fewer after (by omega) (by omega)

/-- After a pass there is either nothing more or a further pass. -/
theorem proceed_ends_or_repeats
    (again : List α → Effect (Admission σ α) ε Unit) (left : List α × Bool)
    (after : Admission σ α) :
    (gate.proceed again left after).2 = after ∨
      gate.proceed again left after = again left.1 after := by
  match left with
  | ([], _) => exact .inl rfl
  | (head :: others, true) => exact .inr rfl
  | (head :: others, false) => exact .inl rfl

/-- The passes write what they log, and all of it was pending. -/
theorem passes_admits (fuel : Nat) (pending : List α) (state : Admission σ α) :
    ∃ added,
      (gate.passes fuel pending state).2.log = state.log ++ added ∧
        Run gate.write state.store added (gate.passes fuel pending state).2.store ∧
        ∀ item ∈ added, item ∈ pending := by
  induction fuel generalizing pending state with
  | zero =>
      exact ⟨[], (List.append_nil state.log).symm, .start,
        fun _ member => absurd member List.not_mem_nil⟩
  | succ fuel inductionHypothesis =>
      obtain ⟨early, logged, written, wasPending⟩ := gate.pass_admits [] false pending state
      cases outcome : gate.pass [] false pending state with
      | mk result after =>
          rw [outcome] at logged written
          cases result with
          | error raised =>
              rw [passes_of_stopped outcome]
              exact ⟨early, logged, written, wasPending⟩
          | ok left =>
              rw [passes_of_finished outcome]
              rcases gate.proceed_ends_or_repeats (gate.passes fuel) left after with ends | repeats
              · rw [ends]
                exact ⟨early, logged, written, wasPending⟩
              · obtain ⟨late, lateLogged, lateWritten, stillPending⟩ :=
                  inductionHypothesis left.1 after
                rw [repeats]
                refine ⟨early ++ late, ?_, written.append lateWritten, ?_⟩
                · rw [lateLogged, logged, List.append_assoc]
                · intro item member
                  rcases List.mem_append.mp member with isEarly | isLate
                  · exact wasPending item isEarly
                  · rcases pass_leaves outcome item (stillPending item isLate) with none | found
                    · cases none
                    · exact found.1

theorem pass_grows
    (kept : List α) (progressed : Bool) (pending : List α) (state : Admission σ α) :
    state.log <+: (gate.pass kept progressed pending state).2.log := by
  obtain ⟨added, logged, -, -⟩ := gate.pass_admits kept progressed pending state
  rw [logged]
  exact List.prefix_append state.log added

theorem passes_grows (fuel : Nat) (pending : List α) (state : Admission σ α) :
    state.log <+: (gate.passes fuel pending state).2.log := by
  obtain ⟨added, logged, -, -⟩ := gate.passes_admits fuel pending state
  rw [logged]
  exact List.prefix_append state.log added

end Gate

/-! ## Trusted and untrusted authority -/

/-- Who authorizes the items of a gate.  An untrusted authority does not look at the
log. -/
structure Authorities (gate : Gate σ α δ ε) where
  trusted : List α → α → Bool
  untrusted : α → Bool
  authorizes : ∀ log item, (gate.authorize log item).isOk = (trusted log item || untrusted item)

namespace Authorities

variable {gate : Gate σ α δ ε} (authorities : Authorities gate)

/-- Walking over the pending items once, no item that can be written is met that the
log has not, that no trusted authority lets in and that an untrusted one does. -/
def Harmless (writable : α → Bool) : List α → List α → Prop
  | _, [] => True
  | log, item :: rest =>
      if gate.known log item then
        Harmless writable log rest
      else if authorities.trusted log item then
        writable item = true → Harmless writable (log ++ [item]) rest
      else if authorities.untrusted item then
        writable item = false
      else
        Harmless writable log rest

/-- The log grew by items that a trusted authority let in. -/
def GrewTrusted (start final : List α) : Prop :=
  GrewBy (fun log item => authorities.trusted log item = true) start final

variable {authorities} {writable : α → Bool}

theorem harmless_of_trusted
    {log pending : List α} (allTrusted : ∀ item ∈ pending, authorities.untrusted item = false) :
    authorities.Harmless writable log pending := by
  induction pending generalizing log with
  | nil => trivial
  | cons item rest inductionHypothesis =>
      have restTrusted : ∀ other ∈ rest, authorities.untrusted other = false :=
        fun other member => allTrusted other (List.mem_cons_of_mem item member)
      rw [Harmless]
      split
      · exact inductionHypothesis restTrusted
      · split
        · exact fun _ => inductionHypothesis restTrusted
        · rw [if_neg (by rw [allTrusted item List.mem_cons_self]; exact Bool.false_ne_true)]
          exact inductionHypothesis restTrusted

/-- One pass admits on trusted authority alone exactly when it walks over harmless items. -/
theorem pass_grewTrusted_iff
    {pending : List α} (kept : List α) (progressed : Bool) (state : Admission σ α)
    (writes : ∀ item ∈ pending, ∀ store, (gate.write store item).isOk = writable item) :
    authorities.GrewTrusted state.log (gate.pass kept progressed pending state).2.log ↔
      authorities.Harmless writable state.log pending := by
  induction pending generalizing kept progressed state with
  | nil => exact iff_of_true (grewBy_refl state.log) trivial
  | cons item rest inductionHypothesis =>
      have restWrites :
          ∀ other ∈ rest, ∀ store, (gate.write store other).isOk = writable other :=
        fun other member => writes other (List.mem_cons_of_mem item member)
      have itemWrites := writes item List.mem_cons_self state.store
      have authorized := authorities.authorizes state.log item
      rw [Harmless]
      cases isKnown : gate.known state.log item with
      | true =>
          rw [Gate.pass_of_known isKnown, if_pos rfl]
          exact inductionHypothesis kept true state restWrites
      | false =>
          rw [if_neg Bool.false_ne_true]
          cases decision : gate.authorize state.log item with
          | error refusal =>
              rw [decision] at authorized
              have refused := (Bool.or_eq_false_iff.mp authorized.symm)
              rw [Gate.pass_of_refused isKnown decision, refused.1, refused.2,
                if_neg Bool.false_ne_true, if_neg Bool.false_ne_true]
              exact inductionHypothesis (kept ++ [item]) progressed state restWrites
          | ok done =>
              rw [decision] at authorized
              cases attempt : gate.write state.store item with
              | error raised =>
                  rw [attempt] at itemWrites
                  rw [Gate.pass_of_unwritten isKnown decision attempt, ← itemWrites]
                  apply iff_of_true (grewBy_refl state.log)
                  by_cases isTrusted : authorities.trusted state.log item = true
                  · rw [if_pos isTrusted]
                    intro written
                    cases written
                  · rw [Bool.not_eq_true] at isTrusted
                    rw [isTrusted, Bool.false_or] at authorized
                    rw [isTrusted, if_neg Bool.false_ne_true, ← authorized]
                    rfl
              | ok store =>
                  rw [attempt] at itemWrites
                  rw [Gate.pass_of_written isKnown decision attempt, ← itemWrites]
                  have later :=
                    inductionHypothesis kept true
                      { store := store, log := state.log ++ [item] } restWrites
                  have grows : state.log ++ [item] <+:
                      (gate.pass kept true rest
                        { store := store, log := state.log ++ [item] }).2.log :=
                    gate.pass_grows kept true rest
                      { store := store, log := state.log ++ [item] }
                  rw [GrewTrusted, grewBy_trans_iff (List.prefix_append _ _) grows, grewBy_snoc_iff]
                  change _ ∧ authorities.GrewTrusted _ _ ↔ _
                  rw [later]
                  by_cases isTrusted : authorities.trusted state.log item = true
                  · rw [if_pos isTrusted]
                    exact ⟨fun both _ => both.2, fun rest => ⟨isTrusted, rest rfl⟩⟩
                  · have untrusted : authorities.untrusted item = true := by
                      rw [Bool.not_eq_true] at isTrusted
                      rw [isTrusted, Bool.false_or] at authorized
                      exact authorized.symm
                    rw [if_neg isTrusted, if_pos untrusted]
                    exact iff_of_false (fun both => isTrusted both.1) Bool.noConfusion

variable (authorities) in
/-- What a pass leaves pending no untrusted authority lets in. -/
theorem trusted_of_left
    {pending : List α} {left : List α × Bool} {state after : Admission σ α}
    (finished : gate.pass [] false pending state = (.ok left, after)) :
    ∀ item ∈ left.1, item ∈ pending ∧ authorities.untrusted item = false := by
  intro item member
  rcases Gate.pass_leaves finished item member with none | ⟨wasPending, log, refusal, refused⟩
  · cases none
  · have authorized := authorities.authorizes log item
    rw [refused] at authorized
    exact ⟨wasPending, (Bool.or_eq_false_iff.mp authorized.symm).2⟩

/-- Items that no untrusted authority lets in are admitted on trusted authority. -/
theorem passes_grewTrusted
    (fuel : Nat) {pending : List α} (state : Admission σ α)
    (allTrusted : ∀ item ∈ pending, authorities.untrusted item = false)
    (writes : ∀ item ∈ pending, ∀ store, (gate.write store item).isOk = writable item) :
    authorities.GrewTrusted state.log (gate.passes fuel pending state).2.log := by
  induction fuel generalizing pending state with
  | zero => exact grewBy_refl state.log
  | succ fuel inductionHypothesis =>
      have first : authorities.GrewTrusted state.log (gate.pass [] false pending state).2.log :=
        (pass_grewTrusted_iff [] false state writes).mpr (harmless_of_trusted allTrusted)
      have grows := gate.pass_grows [] false pending state
      cases outcome : gate.pass [] false pending state with
      | mk result after =>
          rw [outcome] at first grows
          cases result with
          | error raised =>
              rw [Gate.passes_of_stopped outcome]
              exact first
          | ok left =>
              rw [Gate.passes_of_finished outcome]
              rcases gate.proceed_ends_or_repeats (gate.passes fuel) left after with ends | repeats
              · rw [ends]
                exact first
              · have stillTrusted :=
                  authorities.trusted_of_left outcome
                have later :=
                  inductionHypothesis after (fun item member => (stillTrusted item member).2)
                    (fun item member => writes item (stillTrusted item member).1)
                rw [repeats]
                exact (grewBy_trans_iff grows (gate.passes_grows fuel left.1 after)).mpr
                  ⟨first, later⟩

/-- All passes admit on trusted authority alone exactly when the first of them does. -/
theorem passes_grewTrusted_iff
    (fuel : Nat) {pending : List α} (state : Admission σ α)
    (writes : ∀ item ∈ pending, ∀ store, (gate.write store item).isOk = writable item) :
    authorities.GrewTrusted state.log (gate.passes (fuel + 1) pending state).2.log ↔
      authorities.Harmless writable state.log pending := by
  rw [← pass_grewTrusted_iff [] false state writes]
  have grows := gate.pass_grows [] false pending state
  cases outcome : gate.pass [] false pending state with
  | mk result after =>
      rw [outcome] at grows
      cases result with
      | error raised => rw [Gate.passes_of_stopped outcome]
      | ok left =>
          rw [Gate.passes_of_finished outcome]
          rcases gate.proceed_ends_or_repeats (gate.passes fuel) left after with ends | repeats
          · rw [ends]
          · have stillTrusted := authorities.trusted_of_left outcome
            have later : authorities.GrewTrusted after.log (gate.passes fuel left.1 after).2.log :=
              passes_grewTrusted fuel after (fun item member => (stillTrusted item member).2)
                (fun item member => writes item (stillTrusted item member).1)
            rw [repeats, GrewTrusted, grewBy_trans_iff grows (gate.passes_grows fuel left.1 after)]
            exact and_iff_left later

/-- Everything is admitted on trusted authority exactly when one walk over the pending
items finds them harmless. -/
theorem admitAll_grewTrusted_iff
    {pending : List α} (state : Admission σ α)
    (writes : ∀ item ∈ pending, ∀ store, (gate.write store item).isOk = writable item) :
    authorities.GrewTrusted state.log (gate.admitAll pending state).2.log ↔
      authorities.Harmless writable state.log pending := by
  rw [← passes_grewTrusted_iff pending.length state writes, Gate.admitAll,
    Gate.passes_eq_of_length_le pending.length (pending.length + 1) pending state
      (Nat.le_refl _) (Nat.le_succ _)]

end Authorities

end PendingAdmission
