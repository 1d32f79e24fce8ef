import TabDeck.Proofs.Coherence
import TabDeck.Proofs.Constancy

/-!
# Settling

A tick never breaks off on a deck whose parts agree. While the row settles, every tick brings it at
least one pixel nearer to its pane, so that it arrives after finitely many ticks, however short they
are. Then, and only then, does time make a tab active: the tab of the pane on which the row settles.
-/

namespace TabDeck

namespace PaneRow

theorem Within.offsetOf_total {row : PaneRow} (within : row.Within) (pane : Nat) :
    ∃ offset, row.offsetOf pane = .ok offset ∧ row.lowest ≤ offset ∧ offset ≤ 0 := by
  have confined := within.confine_ok (-Word.signed (pane * row.stride : Nat))
  refine ⟨_, confined, ?_⟩
  exact bounds_of_confine confined

theorem Within.moveTo_total {row : PaneRow} (within : row.Within) (value : Int) :
    ∃ after, row.moveTo value = .ok after := by
  apply bind_total (within.confine_ok value)
  exact ⟨_, rfl⟩

theorem Within.alignTo_total {row : PaneRow} (within : row.Within) (pane : Nat) :
    ∃ after, row.alignTo pane = .ok after := by
  rcases within.offsetOf_total pane with ⟨offset, found, -⟩
  apply bind_total found
  exact ⟨_, rfl⟩

/-- The offset is one of the range. -/
def Confined (row : PaneRow) : Prop := row.lowest ≤ row.offset ∧ row.offset ≤ 0

theorem Within.confined {row : PaneRow} (within : row.Within) : row.Confined := ⟨within.1, within.2⟩

/-- One offset is left for another that is nearer to a goal, and not past it. -/
def Approaches (goal before after : Int) : Prop :=
  before < after ∧ after ≤ goal ∨ goal ≤ after ∧ after < before

theorem Approaches.nearer {goal before after : Int} (approaches : Approaches goal before after) :
    (goal - after).natAbs < (goal - before).natAbs := by
  simp only [Approaches] at approaches
  omega

theorem Approaches.confined {row : PaneRow} {goal offset : Int}
    (approaches : Approaches goal row.offset offset) (confined : row.Confined)
    (bounds : row.lowest ≤ goal ∧ goal ≤ 0) : ({ row with offset } : PaneRow).Confined := by
  have lowest : ({ row with offset } : PaneRow).lowest = row.lowest := rfl
  simp only [Approaches] at approaches
  simp only [Confined, lowest] at confined ⊢
  omega

/-- Between two offsets of the range the row goes where it is sent. -/
theorem Confined.moveTo {row : PaneRow} {goal step : Int} (confined : row.Confined)
    (bounds : row.lowest ≤ goal ∧ goal ≤ 0) (forward : 1 ≤ step)
    (far : step < (goal - row.offset).natAbs) :
    ∃ offset, row.moveTo (row.offset + step * (goal - row.offset).sign) =
        .ok { row with offset } ∧
      Approaches goal row.offset offset := by
  rcases confined with ⟨lower, upper⟩
  refine ⟨max row.lowest (min (row.offset + step * (goal - row.offset).sign) 0), ?_, ?_⟩
  · simp only [PaneRow.moveTo, bind_eq_ok, pure_eq_ok]
    exact ⟨_, confine_eq_ok.mpr ⟨by omega, rfl⟩, rfl⟩
  · simp only [Approaches]
    rcases Int.lt_trichotomy (goal - row.offset) 0 with left | none | right
    · rw [Int.sign_eq_neg_one_of_neg left]
      omega
    · omega
    · rw [Int.sign_eq_one_of_pos right]
      omega

end PaneRow

namespace Gesture

variable {gesture : Gesture} {row : PaneRow} {target : Nat} {goal : Int}

/-- With a tick a settling row comes nearer to its pane, or is aligned with it. -/
theorem tick_of_settling (confined : row.Confined) (settling : gesture.phase = .settling target)
    (found : row.offsetOf target = .ok goal) (elapsed : Nat) :
    (∃ after offset, gesture.tick row elapsed = .ok (.moving, after, { row with offset }) ∧
      after.phase = .settling target ∧ PaneRow.Approaches goal row.offset offset) ∨
    ∃ after, gesture.tick row elapsed =
        .ok (.arrived target, after, { row with offset := goal, remembered := goal }) ∧
      after.phase = .resting := by
  by_cases near : (goal - row.offset).natAbs ≤ gesture.stride elapsed
  · have aligned : row.alignTo target = .ok { row with offset := goal, remembered := goal } := by
      simp only [PaneRow.alignTo, bind_eq_ok, pure_eq_ok]
      exact ⟨goal, found, rfl⟩
    right
    refine ⟨{ gesture with phase := .resting, velocity := 0.0 }, ?_, rfl⟩
    simp only [tick, settling, bind_eq_ok]
    refine ⟨goal, found, ?_⟩
    simp only [if_pos near, bind_eq_ok, pure_eq_ok]
    exact ⟨_, aligned, rfl⟩
  · rcases confined.moveTo (PaneRow.bounds_of_confine found) (one_le_stride elapsed)
      (Int.not_le.mp near) with ⟨offset, moved, approaches⟩
    left
    refine ⟨{ gesture with velocity := gesture.velocity * friction }, offset, ?_, settling,
      approaches⟩
    simp only [tick, settling, bind_eq_ok]
    refine ⟨goal, found, ?_⟩
    simp only [if_neg near, bind_eq_ok, pure_eq_ok]
    exact ⟨_, moved, rfl⟩

end Gesture

namespace Deck

variable {μ σ : Type} [PaneHost σ] {deck : Deck μ σ} {index : Nat}

/-! ## Operations that cannot break off -/

theorem entry_total {α : Type} {list : List α} (present : index < list.length) :
    ∃ value, entry list index = .ok value :=
  ⟨list[index], entry_eq_ok.mpr (List.getElem?_eq_getElem present)⟩

theorem paneOf_total (present : index < deck.tabs.length) :
    ∃ result, deck.paneOf index = .ok result := by
  rcases entry_total present with ⟨tab, found⟩
  apply bind_total found
  cases tab.pane with
  | some handle => exact ⟨_, rfl⟩
  | none => exact ⟨_, rfl⟩

theorem mountPane_total (present : index < deck.tabs.length) :
    ∃ after, deck.mountPane index = .ok after := by
  rcases paneOf_total present with ⟨result, found⟩
  apply bind_total found
  exact ⟨_, rfl⟩

theorem movePane_total (present : index < deck.tabs.length) :
    ∃ after, deck.movePane index = .ok after := by
  rcases paneOf_total present with ⟨result, found⟩
  apply bind_total found
  exact ⟨_, rfl⟩

theorem unmountPane_total (present : index < deck.tabs.length) :
    ∃ after, deck.unmountPane index = .ok after := by
  rcases entry_total present with ⟨tab, found⟩
  apply bind_total found
  cases tab.pane with
  | some handle => exact ⟨_, rfl⟩
  | none => exact ⟨_, rfl⟩

theorem moveAll_total (deck : Deck μ σ) : ∃ after, deck.moveAll = .ok after := by
  simp only [moveAll]
  split
  · have each : ∀ index ∈ List.range deck.tabs.length, ∀ before : Deck μ σ,
        before.tabs.length = deck.tabs.length →
          ∃ after, before.movePane index = .ok after ∧ after.tabs.length = deck.tabs.length := by
      intro index member before length
      rcases movePane_total (length ▸ List.mem_range.mp member) with ⟨after, moved⟩
      exact ⟨after, moved, (served_of_movePane moved).length_tabs.trans length⟩
    rcases foldlM_total _ each rfl with ⟨after, moved, -⟩
    exact ⟨after, moved⟩
  · exact ⟨deck, rfl⟩

theorem exchangePanes_total {previous : Option Nat}
    (leaves : ∀ old, previous = some old → old < deck.tabs.length)
    (present : index < deck.tabs.length) :
    ∃ after, deck.exchangePanes previous index = .ok after := by
  cases previous with
  | none => exact mountPane_total present
  | some old =>
    rcases unmountPane_total (leaves old rfl) with ⟨mid, unmounted⟩
    have length := (served_of_unmountPane unmounted).length_tabs
    apply bind_total unmounted
    exact mountPane_total (length ▸ present)

theorem bringIntoView_total (deck : Deck μ σ) (within : deck.row.Within) (index : Nat) :
    ∃ after, deck.bringIntoView index = .ok after := by
  rcases within.alignTo_total index with ⟨row, aligned⟩
  have alignedRow : deck.alignRow index = .ok { deck with row } := by
    simp only [alignRow, bind_eq_ok, pure_eq_ok]
    exact ⟨row, aligned, rfl⟩
  apply bind_total alignedRow
  exact moveAll_total _

theorem Coherent.activate_total (coherent : deck.Coherent) (present : index < deck.tabs.length) :
    ∃ result, deck.activate index = .ok result := by
  have chosen : ∀ mid : Deck μ σ, mid.row.Within → ∃ after,
      ({ mid with lastActive := deck.active, active := some index, pressed := none } :
        Deck μ σ).bringIntoView index = .ok after := by
    intro mid within
    apply bringIntoView_total
    exact within
  simp only [Deck.activate]
  split
  · rcases exchangePanes_total coherent.present present with ⟨mid, exchanged⟩
    apply bind_total exchanged
    split
    · rcases chosen mid (coherent.served (served_of_exchangePanes exchanged)).within with
        ⟨last, shown⟩
      apply bind_total shown
      exact ⟨_, rfl⟩
    · exact ⟨_, rfl⟩
  · apply bind_total rfl
    split
    · rcases chosen deck coherent.within with ⟨last, shown⟩
      apply bind_total shown
      exact ⟨_, rfl⟩
    · exact ⟨_, rfl⟩

theorem Coherent.select_total (coherent : deck.Coherent) (index : Nat) :
    ∃ result, deck.select index = .ok result := by
  simp only [Deck.select]
  split
  · exact ⟨_, rfl⟩
  · next open_ =>
    rw [not_or, Nat.not_le] at open_
    exact coherent.activate_total open_.1

theorem Coherent.thenSelect_total (coherent : deck.Coherent) (first : Outcome) (index : Nat) :
    ∃ result, deck.thenSelect first index = .ok result := by
  rcases coherent.select_total index with ⟨⟨selection, mid⟩, selected⟩
  apply bind_total selected
  exact ⟨_, rfl⟩

omit [PaneHost σ] in
/-- The gesture of a deck whose parts agree never breaks off with time. -/
theorem Coherent.gesture_tick_total (coherent : deck.Coherent) (elapsed : Nat) :
    ∃ result, deck.gesture.tick deck.row elapsed = .ok result := by
  simp only [Gesture.tick]
  cases phase : deck.gesture.phase with
  | resting => exact ⟨_, rfl⟩
  | dragging => exact ⟨_, rfl⟩
  | settling target =>
    rcases coherent.within.offsetOf_total target with ⟨offset, found, -⟩
    have steps := Gesture.tick_of_settling coherent.within.confined phase found elapsed
    simp only [Gesture.tick, phase] at steps
    rcases steps with ⟨_, _, moves, -⟩ | ⟨_, arrives, -⟩
    · exact ⟨_, moves⟩
    · exact ⟨_, arrives⟩

/-- Time may always pass. -/
theorem Coherent.tick_total (coherent : deck.Coherent) (elapsed : Nat) :
    ∃ result, deck.tick elapsed = .ok result := by
  rcases coherent.gesture_tick_total elapsed with ⟨⟨progress, gesture, row⟩, ticked⟩
  apply bind_total ticked
  cases progress with
  | idle => exact ⟨_, rfl⟩
  | moving =>
    rcases moveAll_total { deck with gesture, row } with ⟨mid, moved⟩
    apply bind_total moved
    exact ⟨_, rfl⟩
  | arrived target =>
    rcases moveAll_total { deck with gesture, row } with ⟨mid, moved⟩
    apply bind_total moved
    have coherentMid := (coherent.gesture_tick ticked).served (served_of_moveAll moved)
    exact coherentMid.thenSelect_total _ target

/-! ## Settling with time -/

section Ticks

variable {after : Deck μ σ} {outcome : Outcome} {elapsed pane : Nat} {offset : Int}

theorem target_of_activate (untargeted : deck.gesture.target = none)
    (done : deck.activate index = .ok (outcome, after)) : after.gesture.target = none := by
  rcases activate_eq_ok done with ⟨row, gesture, mid, ⟨_, _, rfl, -⟩, rfl, follows, keeps⟩
  cases flicks : deck.settings.flicks with
  | true =>
    rcases follows flicks with ⟨-, rfl⟩
    rfl
  | false =>
    rcases keeps flicks with ⟨-, rfl⟩
    exact untargeted

/-- A tick of a settling deck brings the row nearer to the pane, or makes its tab active. -/
theorem Coherent.tick_of_settling (coherent : deck.Coherent)
    (settling : deck.gesture.phase = .settling pane) (found : deck.row.offsetOf pane = .ok offset)
    (done : deck.tick elapsed = .ok (outcome, after)) :
    (after.gesture.phase = .settling pane ∧ after.active = deck.active ∧
      after.row.offsetOf pane = .ok offset ∧
      (offset - after.row.offset).natAbs < (offset - deck.row.offset).natAbs) ∨
    (after.gesture.target = none ∧ after.active = some pane) := by
  rcases tick_eq_ok done with ⟨progress, gesture, row, ticked, rest⟩
  rcases Gesture.tick_of_settling coherent.within.confined settling found elapsed with
    ⟨_, reached, moves, still, approaches⟩ | ⟨_, arrives, resting⟩
  · rw [ticked] at moves
    cases moves
    left
    rcases served_of_moveAll rest.1 with ⟨_, _, rfl, -⟩
    exact ⟨still, rfl, found, approaches.nearer⟩
  · rw [ticked] at arrives
    cases arrives
    right
    rcases rest with ⟨mid, selection, followed, selected, -⟩
    have served := served_of_moveAll followed
    have present := coherent.targeted pane (Gesture.target_eq_some_iff.mpr settling)
    have length : mid.tabs.length = deck.tabs.length := served.length_tabs
    have untargeted : mid.gesture.target = none := by
      rcases served with ⟨_, _, rfl, -⟩
      exact Gesture.target_of_resting resting
    rcases select_eq_ok selected with ⟨rfl, -, absent | already⟩ | ⟨-, -, activated⟩
    · omega
    · exact ⟨untargeted, already⟩
    · exact ⟨target_of_activate untargeted activated, active_of_activate activated⟩

theorem tick_of_untargeted (untargeted : deck.gesture.target = none)
    (done : deck.tick elapsed = .ok (outcome, after)) : after = deck := by
  rcases tick_eq_ok done with ⟨progress, gesture, row, ticked, rest⟩
  rcases Gesture.tick_eq_ok ticked with ⟨rfl, -⟩ | ⟨target, offset, settling, -⟩
  · exact rest.1
  · rw [Gesture.target_eq_some_iff.mpr settling] at untargeted
    cases untargeted

/-- A tick changes nothing, brings the row nearer to its target, or makes the target active. -/
theorem Coherent.tick_cases (coherent : deck.Coherent)
    (done : deck.tick elapsed = .ok (outcome, after)) :
    after = deck ∨ (after.gesture.target = deck.gesture.target ∧ after.active = deck.active) ∨
      (after.gesture.target = none ∧ after.active = deck.gesture.target) := by
  cases target : deck.gesture.target with
  | none => exact Or.inl (tick_of_untargeted target done)
  | some pane =>
    have settling := Gesture.target_eq_some_iff.mp target
    rcases coherent.within.offsetOf_total pane with ⟨offset, found, -⟩
    rcases coherent.tick_of_settling settling found done with ⟨still, same, -⟩ | arrived
    · exact Or.inr (Or.inl ⟨Gesture.target_eq_some_iff.mpr still, same⟩)
    · exact Or.inr (Or.inr arrived)

end Ticks

section Sessions

variable [FontMetrics μ] {pane : Nat}

/-- Some time after which nothing but time passed, a tick makes a tab active. -/
def TicksInto (deck : Deck μ σ) (pane : Nat) : Prop :=
  ∃ ticks elapsed before answer after, deck.Reaches (List.map Action.tick ticks) before ∧
    before.perform (.tick elapsed) = .ok (answer, after) ∧ before.active ≠ some pane ∧
      after.active = some pane

theorem TicksInto.cons {middle : Deck μ σ} {elapsed : Nat} {answer : Answer}
    (performed : deck.perform (.tick elapsed) = .ok (answer, middle))
    (later : middle.TicksInto pane) : deck.TicksInto pane := by
  rcases later with ⟨ticks, last, before, lastAnswer, after, reached, rest⟩
  refine ⟨elapsed :: ticks, last, before, lastAnswer, after, ?_, rest⟩
  exact reaches_cons.mpr ⟨answer, middle, performed, reached⟩

/-- Only the tab on which the row settles becomes active with time. -/
theorem Coherent.target_of_ticksInto (coherent : deck.Coherent) (ticksInto : deck.TicksInto pane) :
    deck.gesture.target = some pane ∧ deck.active ≠ some pane := by
  rcases ticksInto with ⟨ticks, elapsed, before, answer, after, reached, performed, inactive,
    activates⟩
  induction ticks generalizing deck with
  | nil =>
    rw [List.map_nil, reaches_nil] at reached
    subst reached
    rcases accepted_eq_ok.mp performed with ⟨outcome, ticked, -⟩
    rcases coherent.tick_cases ticked with rfl | ⟨-, same⟩ | ⟨-, arrived⟩
    · exact absurd activates inactive
    · rw [same] at activates
      exact absurd activates inactive
    · exact ⟨arrived.symm.trans activates, inactive⟩
  | cons first rest ih =>
    rcases reaches_cons.mp reached with ⟨firstAnswer, middle, firstPerformed, later⟩
    rcases ih (coherent.perform firstPerformed) later with ⟨target, inactiveMiddle⟩
    rcases accepted_eq_ok.mp firstPerformed with ⟨outcome, ticked, -⟩
    rcases coherent.tick_cases ticked with rfl | ⟨sameTarget, same⟩ | ⟨untargeted, -⟩
    · exact ⟨target, inactiveMiddle⟩
    · rw [sameTarget] at target
      rw [same] at inactiveMiddle
      exact ⟨target, inactiveMiddle⟩
    · rw [untargeted] at target
      cases target

/-- The tab on which the row settles becomes active, however slowly time passes. -/
theorem Coherent.ticksInto_target (coherent : deck.Coherent)
    (target : deck.gesture.target = some pane) (inactive : deck.active ≠ some pane) :
    deck.TicksInto pane := by
  have settling := Gesture.target_eq_some_iff.mp target
  rcases coherent.within.offsetOf_total pane with ⟨offset, found, -⟩
  generalize distant : (offset - deck.row.offset).natAbs = distance
  induction distance using Nat.strongRecOn generalizing deck with
  | ind distance ih =>
    rcases coherent.tick_total 0 with ⟨⟨outcome, after⟩, ticked⟩
    have performed : deck.perform (.tick 0) = .ok (.ok outcome, after) :=
      accepted_eq_ok.mpr ⟨outcome, ticked, rfl⟩
    rcases coherent.tick_of_settling settling found ticked with ⟨still, same, sameFound, nearer⟩ |
      ⟨-, arrived⟩
    · rw [← same] at inactive
      exact (ih _ (distant ▸ nearer) (coherent.tick ticked)
        (Gesture.target_eq_some_iff.mpr still) inactive still sameFound rfl).cons performed
    · exact ⟨[], 0, deck, .ok outcome, after, reaches_nil.mpr rfl, performed, inactive, arrived⟩

theorem Coherent.ticksInto_iff (coherent : deck.Coherent) :
    deck.TicksInto pane ↔ deck.gesture.target = some pane ∧ deck.active ≠ some pane :=
  ⟨coherent.target_of_ticksInto, fun ⟨target, inactive⟩ => coherent.ticksInto_target target inactive⟩

end Sessions

end Deck

end TabDeck
