import Mathlib.Data.List.Induction
import TabDeck.Deck.Session

/-!
# What sessions preserve

A session takes one action after the other, and what holds after all sessions is shown by induction
on the last action. This file has that induction, and the equations that take a successful operation
apart into its steps.
-/

namespace TabDeck

/-! ## Successful computations -/

theorem bind_eq_ok {ε α β : Type} {first : Except ε α} {next : α → Except ε β} {result : β} :
    first >>= next = .ok result ↔ ∃ value, first = .ok value ∧ next value = .ok result := by
  cases first with
  | error _ => simp [bind, Except.bind]
  | ok value => simp [bind, Except.bind]

/-- Two steps in a row end well if the first does and the second does after it. -/
theorem bind_total {ε α β : Type} {first : Except ε α} {next : α → Except ε β} {value : α}
    (done : first = .ok value) (total : ∃ result, next value = .ok result) :
    ∃ result, first >>= next = .ok result := by
  rcases total with ⟨result, later⟩
  exact ⟨result, bind_eq_ok.mpr ⟨value, done, later⟩⟩

theorem pure_eq_ok {ε α : Type} {value result : α} :
    (pure value : Except ε α) = .ok result ↔ value = result := by
  simp [pure, Except.pure]

theorem entry_eq_ok {α : Type} {list : List α} {index : Nat} {value : α} :
    entry list index = .ok value ↔ list[index]? = some value := by
  simp only [entry]
  split <;> simp_all

/-- A relation that composes and that every step of a loop obeys is obeyed by the loop. -/
theorem foldlM_related {ε δ ι : Type} {step : δ → ι → Except ε δ} {related : δ → δ → Prop}
    (refl : ∀ state, related state state)
    (trans : ∀ {first second third}, related first second → related second third →
      related first third)
    (each : ∀ {before item after}, step before item = .ok after → related before after)
    (items : List ι) {before after : δ} (ran : items.foldlM step before = .ok after) :
    related before after := by
  induction items generalizing before with
  | nil =>
    rw [List.foldlM_nil, pure_eq_ok] at ran
    rw [← ran]
    exact refl before
  | cons item rest ih =>
    rw [List.foldlM_cons, bind_eq_ok] at ran
    rcases ran with ⟨middle, first, later⟩
    exact trans (each first) (ih later)

/-- A loop ends well if every step does and keeps what the next step needs. -/
theorem foldlM_total {ε δ ι : Type} {step : δ → ι → Except ε δ} {ready : δ → Prop}
    (items : List ι)
    (each : ∀ item ∈ items, ∀ before, ready before → ∃ after, step before item = .ok after ∧
      ready after)
    {before : δ} (start : ready before) :
    ∃ after, items.foldlM step before = .ok after ∧ ready after := by
  induction items generalizing before with
  | nil => exact ⟨before, rfl, start⟩
  | cons item rest ih =>
    rcases each item List.mem_cons_self before start with ⟨middle, first, readyMiddle⟩
    rcases ih (fun other member => each other (List.mem_cons_of_mem item member)) readyMiddle with
      ⟨after, later, readyAfter⟩
    refine ⟨after, ?_, readyAfter⟩
    rw [List.foldlM_cons, bind_eq_ok]
    exact ⟨middle, first, later⟩

/-! ## Reached decks -/

namespace Deck

variable {μ σ : Type} [FontMetrics μ] [PaneHost σ]

/-- Some actions lead from one deck to another. -/
def Reaches (start : Deck μ σ) (actions : List Action) (deck : Deck μ σ) : Prop :=
  ∃ answers, start.run actions = .ok (answers, deck)

theorem reaches_nil {start deck : Deck μ σ} : start.Reaches [] deck ↔ deck = start := by
  simp [Reaches, run, eq_comm]

theorem run_cons_eq_ok {start deck : Deck μ σ} {action : Action} {rest : List Action}
    {answers : List Answer} :
    start.run (action :: rest) = .ok (answers, deck) ↔
      ∃ answer middle later, start.perform action = .ok (answer, middle) ∧
        middle.run rest = .ok (later, deck) ∧ answers = answer :: later := by
  simp only [run, bind_eq_ok, pure_eq_ok]
  constructor
  · rintro ⟨⟨answer, middle⟩, performed, ⟨later, last⟩, ran, same⟩
    cases same
    exact ⟨answer, middle, later, performed, ran, rfl⟩
  · rintro ⟨answer, middle, later, performed, ran, rfl⟩
    exact ⟨(answer, middle), performed, (later, deck), ran, rfl⟩

theorem reaches_cons {start deck : Deck μ σ} {action : Action} {rest : List Action} :
    start.Reaches (action :: rest) deck ↔
      ∃ answer middle, start.perform action = .ok (answer, middle) ∧ middle.Reaches rest deck := by
  constructor
  · rintro ⟨answers, ran⟩
    rcases run_cons_eq_ok.mp ran with ⟨answer, middle, later, performed, ranLater, -⟩
    exact ⟨answer, middle, performed, later, ranLater⟩
  · rintro ⟨answer, middle, performed, later, ranLater⟩
    exact ⟨answer :: later, run_cons_eq_ok.mpr ⟨answer, middle, later, performed, ranLater, rfl⟩⟩

theorem reaches_append {start deck : Deck μ σ} {earlier later : List Action} :
    start.Reaches (earlier ++ later) deck ↔
      ∃ middle, start.Reaches earlier middle ∧ middle.Reaches later deck := by
  induction earlier generalizing start with
  | nil => simp [reaches_nil]
  | cons action rest ih =>
    simp only [List.cons_append, reaches_cons, ih]
    constructor
    · rintro ⟨answer, first, performed, middle, reached, remaining⟩
      exact ⟨middle, ⟨answer, first, performed, reached⟩, remaining⟩
    · rintro ⟨middle, ⟨answer, first, performed, reached⟩, remaining⟩
      exact ⟨answer, first, performed, middle, reached, remaining⟩

theorem reaches_snoc {start deck : Deck μ σ} {earlier : List Action} {action : Action} :
    start.Reaches (earlier ++ [action]) deck ↔
      ∃ middle answer, start.Reaches earlier middle ∧
        middle.perform action = .ok (answer, deck) := by
  simp only [reaches_append, reaches_cons, reaches_nil]
  constructor
  · rintro ⟨middle, reached, answer, last, performed, rfl⟩
    exact ⟨middle, answer, reached, performed⟩
  · rintro ⟨middle, answer, reached, performed⟩
    exact ⟨middle, reached, answer, deck, performed, rfl⟩

/-- What holds at the start and is kept by every action holds of every reached deck. The actions
taken so far are part of the motive, so that it may speak about the history. -/
theorem reaches_induction {start : Deck μ σ} {motive : List Action → Deck μ σ → Prop}
    (initial : motive [] start)
    (action : ∀ earlier before action answer after, start.Reaches earlier before →
      motive earlier before → before.perform action = .ok (answer, after) →
        motive (earlier ++ [action]) after)
    {actions : List Action} {deck : Deck μ σ} (reached : start.Reaches actions deck) :
    motive actions deck := by
  induction actions using List.reverseRecOn generalizing deck with
  | nil =>
    rw [reaches_nil.mp reached]
    exact initial
  | append_singleton earlier last ih =>
    rcases reaches_snoc.mp reached with ⟨before, answer, reachedBefore, performed⟩
    exact action earlier before last answer deck reachedBefore (ih reachedBefore) performed

/-- What every action keeps, whatever came before it, is kept by a session. -/
theorem Reaches.kept {start deck : Deck μ σ} {actions : List Action} {holds : Deck μ σ → Prop}
    (reached : start.Reaches actions deck) (initially : holds start)
    (perform : ∀ {before action answer after}, holds before →
      before.perform action = .ok (answer, after) → holds after) : holds deck := by
  apply reaches_induction initially _ reached
  intro _ before action answer after _ earlier performed
  exact perform earlier performed

/-! ## Every point of a session -/

/-- Something holds at every point of a session, of the actions taken so far and of the deck that
they led to. -/
def Throughout (start : Deck μ σ) (actions : List Action)
    (holds : List Action → Deck μ σ → Prop) : Prop :=
  ∀ earlier, earlier <+: actions → ∀ deck, start.Reaches earlier deck → holds earlier deck

/-- No action of a session is taken where it would do harm. -/
def Avoids (start : Deck μ σ) (actions : List Action) (harms : Deck μ σ → Action → Prop) : Prop :=
  ∀ earlier action, earlier ++ [action] <+: actions → ∀ deck, start.Reaches earlier deck →
    ¬ harms deck action

theorem throughout_nil {start : Deck μ σ} {holds : List Action → Deck μ σ → Prop} :
    start.Throughout [] holds ↔ holds [] start := by
  constructor
  · intro throughout
    exact throughout [] List.nil_prefix start (reaches_nil.mpr rfl)
  · intro here earlier within deck reached
    rw [List.prefix_nil.mp within] at reached ⊢
    rw [reaches_nil.mp reached]
    exact here

theorem throughout_cons {start middle : Deck μ σ} {action : Action} {answer : Answer}
    {rest : List Action} {holds : List Action → Deck μ σ → Prop}
    (performed : start.perform action = .ok (answer, middle)) :
    start.Throughout (action :: rest) holds ↔ holds [] start ∧
      middle.Throughout rest fun earlier => holds (action :: earlier) := by
  constructor
  · intro throughout
    refine ⟨throughout [] List.nil_prefix start (reaches_nil.mpr rfl), ?_⟩
    intro earlier within deck reached
    apply throughout (action :: earlier) (List.cons_prefix_cons.mpr ⟨rfl, within⟩)
    exact reaches_cons.mpr ⟨answer, middle, performed, reached⟩
  · rintro ⟨here, later⟩ earlier within deck reached
    cases earlier with
    | nil =>
      rw [reaches_nil.mp reached]
      exact here
    | cons first others =>
      rcases List.cons_prefix_cons.mp within with ⟨rfl, shorter⟩
      rcases reaches_cons.mp reached with ⟨_, next, performedNext, reachedLater⟩
      rw [performed] at performedNext
      cases performedNext
      exact later others shorter deck reachedLater

theorem avoids_nil {start : Deck μ σ} {harms : Deck μ σ → Action → Prop} :
    start.Avoids [] harms := by
  intro earlier action within
  simp at within

theorem avoids_cons {start middle : Deck μ σ} {action : Action} {answer : Answer}
    {rest : List Action} {harms : Deck μ σ → Action → Prop}
    (performed : start.perform action = .ok (answer, middle)) :
    start.Avoids (action :: rest) harms ↔ ¬ harms start action ∧ middle.Avoids rest harms := by
  constructor
  · intro avoids
    refine ⟨avoids [] action ?_ start (reaches_nil.mpr rfl), ?_⟩
    · exact List.cons_prefix_cons.mpr ⟨rfl, List.nil_prefix⟩
    · intro earlier next within deck reached
      apply avoids (action :: earlier) next (List.cons_prefix_cons.mpr ⟨rfl, within⟩)
      exact reaches_cons.mpr ⟨answer, middle, performed, reached⟩
  · rintro ⟨here, later⟩ earlier next within deck reached
    cases earlier with
    | nil =>
      rcases List.cons_prefix_cons.mp within with ⟨rfl, -⟩
      rw [reaches_nil.mp reached]
      exact here
    | cons first others =>
      rcases List.cons_prefix_cons.mp within with ⟨rfl, shorter⟩
      rcases reaches_cons.mp reached with ⟨_, other, performedOther, reachedLater⟩
      rw [performed] at performedOther
      cases performedOther
      exact later others next shorter deck reachedLater

section Harm

variable {start : Deck μ σ} {actions : List Action} {harms : Deck μ σ → Action → Prop}
  {holds : List Action → Deck μ σ → Prop} (invariant : List Action → Deck μ σ → Prop)

/-- What every action of a session keeps holds throughout the session. -/
theorem throughout_of_step (initial : invariant [] start)
    (step : ∀ earlier before action answer after, earlier ++ [action] <+: actions →
      start.Reaches earlier before → invariant earlier before →
        before.perform action = .ok (answer, after) → invariant (earlier ++ [action]) after) :
    start.Throughout actions invariant := by
  intro history within deck reached
  revert within
  apply reaches_induction (fun _ => initial) _ reached
  intro earlier before last answer after reachedBefore ih performed within
  have shorter : earlier <+: actions := (List.prefix_append earlier [last]).trans within
  exact step earlier before last answer after within reachedBefore (ih shorter) performed

/-- If an invariant is kept by all actions but the harmful ones, and what it implies is lost by
those, then that holds throughout a session exactly if the session avoids harm. -/
theorem throughout_iff_avoids (initial : invariant [] start)
    (sound : ∀ earlier deck, earlier <+: actions → start.Reaches earlier deck →
      invariant earlier deck → holds earlier deck)
    (kept : ∀ earlier before action answer after, earlier ++ [action] <+: actions →
      start.Reaches earlier before → invariant earlier before → ¬ harms before action →
        before.perform action = .ok (answer, after) → invariant (earlier ++ [action]) after)
    (lost : ∀ earlier before action, earlier ++ [action] <+: actions →
      start.Reaches earlier before → invariant earlier before → harms before action →
        ∃ answer after, before.perform action = .ok (answer, after) ∧
          ¬ holds (earlier ++ [action]) after) :
    start.Throughout actions holds ↔ start.Avoids actions harms := by
  constructor
  · intro throughout
    have harmless : ∀ earlier before action, earlier ++ [action] <+: actions →
        start.Reaches earlier before → invariant earlier before → ¬ harms before action := by
      intro earlier before action within reached known harm
      rcases lost earlier before action within reached known harm with
        ⟨answer, after, performed, broken⟩
      have reachedAfter := reaches_snoc.mpr ⟨before, answer, reached, performed⟩
      exact broken (throughout _ within after reachedAfter)
    have known : start.Throughout actions invariant := by
      apply throughout_of_step invariant initial
      intro earlier before action answer after within reached known performed
      exact kept earlier before action answer after within reached known
        (harmless earlier before action within reached known) performed
    intro earlier action within before reached
    have shorter : earlier <+: actions := (List.prefix_append earlier [action]).trans within
    exact harmless earlier before action within reached (known earlier shorter before reached)
  · intro avoids
    have known : start.Throughout actions invariant := by
      apply throughout_of_step invariant initial
      intro earlier before action answer after within reached known performed
      exact kept earlier before action answer after within reached known
        (avoids earlier action within before reached) performed
    intro earlier within deck reached
    exact sound earlier deck within reached (known earlier within deck reached)

end Harm

end Deck

end TabDeck
