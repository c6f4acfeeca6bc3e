import Mathlib.Data.Set.Lattice

/-!
# Knowledge that spreads

Replicas know facts.  A reader notes what a source knows and learns what it noted some time
later, whatever happens in between.  Nothing that is known is forgotten, so facts move along
every chain of contacts, and replicas that all reach each other end with the same facts.
-/

namespace Gossip

universe u v

variable {ι : Type u} {κ : Type v}

/-! ## Contacts -/

/-- What happens between replicas. -/
inductive Contact (ι : Type u) where
  | note (reader source : ι)
  | learn (reader : ι)
  | forget (reader : ι)
  | other
deriving DecidableEq

/-- Where facts are. -/
inductive Site (ι : Type u) where
  | knows (replica : ι)
  | noted (replica : ι)

/-- What is known is kept by every contact, what is noted by those of other readers. -/
def Contact.Keeps : Contact ι → Site ι → Prop
  | .note reader _, .noted replica
  | .learn reader, .noted replica
  | .forget reader, .noted replica => replica ≠ reader
  | _, _ => True

theorem Contact.keeps_knows (contact : Contact ι) (replica : ι) :
    contact.Keeps (.knows replica) := by
  cases contact <;> exact trivial

/-- A chain of contacts from one site to another. -/
inductive Carries : List (Contact ι) → Site ι → Site ι → Prop where
  | stay (site : Site ι) : Carries [] site site
  | keep {contact : Contact ι} {rest : List (Contact ι)} {site final : Site ι}
      (keeps : contact.Keeps site) (later : Carries rest site final) :
      Carries (contact :: rest) site final
  | note {reader source : ι} {rest : List (Contact ι)} {final : Site ι}
      (later : Carries rest (.noted reader) final) :
      Carries (.note reader source :: rest) (.knows source) final
  | learn {reader : ι} {rest : List (Contact ι)} {final : Site ι}
      (later : Carries rest (.knows reader) final) :
      Carries (.learn reader :: rest) (.noted reader) final

theorem Carries.append
    {first second : List (Contact ι)} {start middle final : Site ι}
    (toMiddle : Carries first start middle) (toFinal : Carries second middle final) :
    Carries (first ++ second) start final := by
  induction toMiddle with
  | stay site => exact toFinal
  | keep keeps _ inductionHypothesis => exact .keep keeps (inductionHypothesis toFinal)
  | note _ inductionHypothesis => exact .note (inductionHypothesis toFinal)
  | learn _ inductionHypothesis => exact .learn (inductionHypothesis toFinal)

/-- Facts stay where every contact keeps them. -/
theorem carries_of_keeps
    {contacts : List (Contact ι)} {site : Site ι}
    (keeps : ∀ contact ∈ contacts, contact.Keeps site) : Carries contacts site site := by
  induction contacts with
  | nil => exact .stay site
  | cons contact rest inductionHypothesis =>
      obtain ⟨first, later⟩ := List.forall_mem_cons.mp keeps
      exact .keep first (inductionHypothesis later)

theorem carries_known (contacts : List (Contact ι)) (replica : ι) :
    Carries contacts (.knows replica) (.knows replica) :=
  carries_of_keeps fun contact _ => contact.keeps_knows replica

/-- A reader that learns what it noted of a source reaches what the source knew. -/
theorem carries_of_exchange
    (before after : List (Contact ι)) {between : List (Contact ι)} {reader source : ι}
    (kept : ∀ contact ∈ between, contact.Keeps (.noted reader)) :
    Carries (before ++ .note reader source :: (between ++ .learn reader :: after))
      (.knows source) (.knows reader) := by
  have learned : Carries (.learn reader :: after) (.noted reader) (.knows reader) :=
    .learn (carries_known after reader)
  exact (carries_known before source).append (.note ((carries_of_keeps kept).append learned))

/-! ## Facts -/

/-- The facts at each site. -/
abbrev Knowledge (ι : Type u) (κ : Type v) := Site ι → Set κ

/-- What a contact does to the facts, at least. -/
structure Respects (contact : Contact ι) (before after : Knowledge ι κ) : Prop where
  keeps : ∀ site, contact.Keeps site → before site ⊆ after site
  notes :
    ∀ reader source, contact = .note reader source →
      before (.knows source) ⊆ after (.noted reader)
  learns :
    ∀ reader, contact = .learn reader → before (.noted reader) ⊆ after (.knows reader)

/-- The facts along a list of contacts. -/
inductive Spreads : List (Contact ι) → Knowledge ι κ → Knowledge ι κ → Prop where
  | done (facts : Knowledge ι κ) : Spreads [] facts facts
  | next {contact : Contact ι} {rest : List (Contact ι)} {before middle after : Knowledge ι κ}
      (respects : Respects contact before middle) (later : Spreads rest middle after) :
      Spreads (contact :: rest) before after

/-- Facts move along every chain of contacts. -/
theorem Spreads.subset_of_carries
    {contacts : List (Contact ι)} {before after : Knowledge ι κ}
    (spreads : Spreads contacts before after) {start final : Site ι}
    (carries : Carries contacts start final) : before start ⊆ after final := by
  induction spreads generalizing start with
  | done facts =>
      cases carries
      exact subset_rfl
  | next respects _ inductionHypothesis =>
      cases carries with
      | keep keeps later => exact (respects.keeps _ keeps).trans (inductionHypothesis later)
      | note later => exact (respects.notes _ _ rfl).trans (inductionHypothesis later)
      | learn later => exact (respects.learns _ rfl).trans (inductionHypothesis later)

/-- Where nothing new comes up and everyone reaches everyone, all end with all facts. -/
theorem Spreads.all_known
    {contacts : List (Contact ι)} {before after : Knowledge ι κ}
    (spreads : Spreads contacts before after)
    (reached :
      ∀ source reader, Carries contacts (.knows source) (.knows reader))
    (nothingNew : ∀ replica, after (.knows replica) ⊆ ⋃ source, before (.knows source))
    (replica : ι) : after (.knows replica) = ⋃ source, before (.knows source) := by
  apply subset_antisymm (nothingNew replica)
  apply Set.iUnion_subset
  intro source
  exact spreads.subset_of_carries (reached source replica)

end Gossip
