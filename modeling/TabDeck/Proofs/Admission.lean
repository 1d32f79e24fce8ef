import TabDeck.Proofs.Landing

/-!
# Which tabs input can make active

A tab takes input while it is enabled, or while all tabs are disabled. Taps, arrows and keys look
whether it does when they choose a tab, and make it active at once. A flat tab is looked at when the
finger comes down, and becomes active when the finger goes up. If it is disabled in between, nothing
looks again.
-/

namespace TabDeck

theorem Ring.open_of_search {disabled : List Bool} {forward : Bool} {steps : Nat}
    {place : Option Nat} {found : Nat}
    (searched : Ring.search disabled forward steps place = some found) :
    disabled[found]? = some false := by
  induction steps generalizing place with
  | zero => cases searched
  | succ steps ih =>
    simp only [search] at searched
    split at searched
    · next open_ =>
      cases searched
      exact open_
    · exact ih searched

/-- From a tab the search ends on another one that is not disabled, or comes back. -/
theorem nextAvailable_cases (index : Nat) (forward : Bool) (disabled : List Bool) :
    nextAvailable (some index) forward disabled = index ∨
      disabled[nextAvailable (some index) forward disabled]? = some false := by
  simp only [nextAvailable]
  cases searched : Ring.search disabled forward disabled.length (some index) with
  | none => exact Or.inl rfl
  | some found => exact Or.inr (Ring.open_of_search searched)

namespace Deck

variable {μ σ : Type}

/-- A tab takes input: it is enabled, or all tabs are disabled. -/
def Admits (deck : Deck μ σ) (index : Nat) : Prop :=
  deck.isEnabled index = true ∨ deck.allDisabled = true

/-- A finger goes up over a flat tab that it pressed, and that takes no input any more. -/
def ReleasesBlocked (deck : Deck μ σ) (event : Input) : Prop :=
  ∃ touch index previous, event = .release touch ∧ deck.enabled = true ∧
    deck.gesture.isDragging = false ∧ deck.pressed = some index ∧ index < deck.tabs.length ∧
    deck.active = some previous ∧ previous ≠ index ∧ ¬ deck.Admits index

/-- A reported change of the active tab leads to a tab that takes input. -/
def AdmitsChange (deck : Deck μ σ) (outcome : Outcome) : Prop :=
  ∀ change, outcome.change = some change → deck.Admits change.current

/-! ## What takes input -/

section Flags

variable {before after deck : Deck μ σ} {index : Nat}

theorem SameFlags.admits (same : before.SameFlags after) :
    after.Admits index ↔ before.Admits index := by
  have all : after.allDisabled = before.allDisabled := by
    have flags := congrArg (fun flags => flags.all fun enabled => !enabled) same
    simpa only [allDisabled, List.all_map, Function.comp_def] using flags
  rw [Admits, Admits, same.isEnabled, all]

theorem SameFlags.admitsChange (same : before.SameFlags after) {outcome : Outcome} :
    after.AdmitsChange outcome ↔ before.AdmitsChange outcome := by
  simp only [AdmitsChange, same.admits]

theorem admits_of_blockedFlags (flag : deck.blockedFlags[index]? = some false) :
    deck.Admits index := by
  simp only [blockedFlags] at flag
  split at flag
  · next all => exact Or.inr all
  · exact Or.inl (isEnabled_of_disabledFlags flag)

theorem admits_of_isBlocked (unblocked : deck.isBlocked index = .ok false) : deck.Admits index := by
  simp only [isBlocked] at unblocked
  cases found : entry deck.tabs index with
  | error fault =>
    rw [found] at unblocked
    cases unblocked
  | ok tab =>
    rw [found] at unblocked
    have open_ : (!tab.enabled && !deck.allDisabled) = false := Except.ok.inj unblocked
    rw [Admits, isEnabled, entry_eq_ok.mp found]
    cases enabled : tab.enabled with
    | true => exact Or.inl enabled
    | false =>
      rw [enabled] at open_
      exact Or.inr (by simpa using open_)

end Flags

/-! ## What operations report -/

section Reports

variable [PaneHost σ] {after deck : Deck μ σ} {outcome : Outcome} {index : Nat}

/-- A selection reports that another tab of the deck is active now. -/
theorem change_of_select (done : deck.select index = .ok (outcome, after)) :
    (outcome.change = none ∧
      (deck.tabs.length ≤ index ∨ deck.active = some index ∨ deck.active = none)) ∨
    ∃ previous, outcome.change = some { previous, current := index } ∧
      index < deck.tabs.length ∧ deck.active = some previous ∧ previous ≠ index := by
  rcases select_eq_ok done with ⟨-, rfl, idle⟩ | ⟨present, inactive, activated⟩
  · exact Or.inl ⟨rfl, idle.imp_right Or.inl⟩
  · rw [outcome_of_activate activated]
    cases isActive : deck.active with
    | none => exact Or.inl ⟨rfl, Or.inr (Or.inr rfl)⟩
    | some previous =>
      rw [isActive] at inactive
      refine Or.inr ⟨previous, rfl, present, rfl, ?_⟩
      rintro rfl
      exact inactive rfl

/-- Selecting a tab that takes input, or the active one, is admitted. -/
theorem admitsChange_of_select (done : deck.select index = .ok (outcome, after))
    (admits : ∀ previous, deck.active = some previous → previous = index ∨ deck.Admits index) :
    deck.AdmitsChange outcome := by
  intro change reported
  rcases change_of_select done with ⟨unchanged, -⟩ | ⟨previous, reports, -, isActive, apart⟩
  · rw [unchanged] at reported
    cases reported
  · rw [reports] at reported
    cases reported
    exact (admits previous isActive).resolve_left apart

/-- The next available tab takes input, or is active already. -/
theorem admitsChange_of_selectNext {forward : Bool}
    (done : deck.select (nextAvailable deck.active forward deck.blockedFlags) =
      .ok (outcome, after)) : deck.AdmitsChange outcome := by
  apply admitsChange_of_select done
  intro previous isActive
  rw [isActive]
  rcases nextAvailable_cases previous forward deck.blockedFlags with same | open_
  · exact Or.inl same.symm
  · exact Or.inr (admits_of_blockedFlags open_)

omit [PaneHost σ] in
theorem admitsChange_of_unchanged (unchanged : outcome.change = none) :
    deck.AdmitsChange outcome := by
  intro change reported
  rw [unchanged] at reported
  cases reported

omit [PaneHost σ] in
theorem AdmitsChange.congr {other : Outcome} (admits : deck.AdmitsChange other)
    (same : outcome.change = other.change) : deck.AdmitsChange outcome := by
  intro change reported
  exact admits change (same ▸ reported)

/-! ## What events report -/

theorem admitsChange_of_press {touch : Touch} (done : deck.press touch = .ok (outcome, after)) :
    deck.AdmitsChange outcome := by
  rcases press_eq_tapped done with ⟨point, tapped⟩
  have begun : deck.SameFlags (deck.beginGesture point) := by
    simp only [beginGesture]
    split <;> rfl
  rw [← begun.admitsChange]
  cases tapped with
  | nothing same unchanged => exact admitsChange_of_unchanged unchanged
  | holds pressed _ _ same unchanged => exact admitsChange_of_unchanged unchanged
  | arrow forward selection selected change =>
    exact (admitsChange_of_selectNext selected).congr change
  | tab tapped selection unblocked selected change =>
    refine (admitsChange_of_select selected fun _ _ => Or.inr ?_).congr change
    exact admits_of_isBlocked unblocked

theorem change_of_drag {movement : Point} {time : Nat}
    (done : deck.drag movement time = .ok (outcome, after)) : outcome.change = none := by
  simp only [drag] at done
  split at done
  · cases done
    rfl
  · cases done
    rfl
  · rw [bind_eq_ok] at done
    rcases done with ⟨⟨taken, gesture, row⟩, -, done⟩
    cases taken with
    | true =>
      simp only [if_true, bind_eq_ok] at done
      rcases done with ⟨mid, -, result⟩
      cases result
      split <;> rfl
    | false =>
      cases done
      rfl

theorem change_of_abandon (done : deck.abandon = .ok (outcome, after)) : outcome.change = none := by
  simp only [abandon, bind_eq_ok] at done
  rcases done with ⟨⟨moved, mid⟩, -, result⟩
  cases result
  split <;> rfl

theorem change_of_enterPane {forward : Bool}
    (done : deck.enterPane forward = .ok (outcome, after)) : outcome.change = none := by
  simp only [enterPane] at done
  split at done
  · cases done
    rfl
  · rw [bind_eq_ok] at done
    rcases done with ⟨⟨handle, mid⟩, -, done⟩
    split at done
    · cases done
      rfl
    · cases done
      rfl

theorem admitsChange_of_handleFocus {event : KeyFocus.Event}
    (done : deck.handleFocus event = .ok (outcome, after)) : deck.AdmitsChange outcome := by
  rcases handleFocus_eq_ok done with ⟨-, -, rfl⟩ | ⟨focus, task, inner, change, -, -, followed⟩
  · exact admitsChange_of_unchanged rfl
  apply AdmitsChange.congr _ change
  cases task with
  | changeTab forward =>
    rcases thenSelect_eq_ok followed with ⟨selection, selected, rfl⟩
    have admits : ({ deck with focus } : Deck μ σ).AdmitsChange selection :=
      admitsChange_of_selectNext selected
    exact AdmitsChange.congr admits (Option.or_none ..)
  | enterPane forward => exact admitsChange_of_unchanged (change_of_enterPane followed)
  | nothing | reclaim | release =>
    cases followed
    exact admitsChange_of_unchanged rfl

/-- A release looks at nothing but the press. Letting go of the row adds no change of its own, so
that the pressed tab decides. -/
theorem admitsChange_of_release_iff {touch : Touch} (enabled : deck.enabled = true)
    (done : deck.release = .ok (outcome, after)) :
    deck.AdmitsChange outcome ↔ ¬ deck.ReleasesBlocked (.release touch) := by
  rcases release_eq_select done with ⟨result, mid, letGo, rest⟩
  have change : outcome.change = result.change := by
    rw [← change_of_letGo mid result, letGo]
  rcases rest with ⟨idle, rfl, -⟩ | ⟨index, pressed, still, chosen⟩
  · refine ⟨fun _ => ?_, fun _ => admitsChange_of_unchanged change⟩
    rintro ⟨_, index, _, -, -, still, pressed, -⟩
    rcases idle with unpressed | dragging
    · rw [unpressed] at pressed
      cases pressed
    · rw [dragging] at still
      cases still
  · rcases change_of_select chosen with ⟨unchanged, idle⟩ |
      ⟨previous, reports, present, isActive, apart⟩
    · refine ⟨fun _ => ?_, fun _ => admitsChange_of_unchanged (change.trans unchanged)⟩
      rintro ⟨_, other, previous, -, -, -, isPressed, present, isActive, apart, -⟩
      rw [pressed, Option.some.injEq] at isPressed
      subst isPressed
      rcases idle with absent | same | inactive
      · exact absurd present (Nat.not_lt.mpr absent)
      · rw [show deck.active = some index from same, Option.some.injEq] at isActive
        exact apart isActive.symm
      · rw [show deck.active = none from inactive] at isActive
        cases isActive
    · constructor
      · rintro admits ⟨_, other, _, -, -, -, isPressed, -, -, -, closed⟩
        rw [pressed, Option.some.injEq] at isPressed
        subst isPressed
        exact closed (admits _ (change.trans reports))
      · intro open_ other reported
        rw [change, reports, Option.some.injEq] at reported
        subst reported
        by_contra closed
        exact open_ ⟨touch, index, previous, rfl, enabled, still, pressed, present, isActive, apart,
          closed⟩

theorem sameFlags_of_handleFocus {event : KeyFocus.Event}
    (done : deck.handleFocus event = .ok (outcome, after)) : deck.SameFlags after := by
  rcases switched_or_served_of_handleFocus done with ⟨focus, switched | served⟩
  · exact switched.sameFlags
  · exact served.sameFlags

/-- No event enables or disables a tab. -/
theorem sameFlags_of_handle {event : Input} (done : deck.handle event = .ok (outcome, after)) :
    deck.SameFlags after := by
  rcases handle_eq_ok done with ⟨-, rfl⟩ | ⟨-, handled⟩
  · rfl
  cases event with
  | press touch => exact sameFlags_of_press handled
  | drag touch movement time => exact sameFlags_of_drag handled
  | release touch => exact sameFlags_of_release handled
  | abandon =>
    rcases abandon_eq_ok handled with ⟨moved, calledOff⟩
    exact (served_of_callOff calledOff).sameFlags
  | key direction => exact sameFlags_of_handleFocus handled
  | action => exact sameFlags_of_handleFocus handled
  | focus => exact sameFlags_of_handleFocus handled

/-- Only a release can make a tab active that takes no input. -/
theorem admitsChange_of_apart {event : Input} (apart : ∀ touch, event ≠ .release touch)
    (done : deck.handle event = .ok (outcome, after)) : deck.AdmitsChange outcome := by
  cases enabled : deck.enabled with
  | false =>
    simp only [handle, enabled, Bool.false_eq_true, if_false] at done
    cases done
    exact admitsChange_of_unchanged rfl
  | true =>
    simp only [handle, enabled, if_true] at done
    cases event with
    | press touch => exact admitsChange_of_press done
    | drag touch movement time => exact admitsChange_of_unchanged (change_of_drag done)
    | release touch => exact absurd rfl (apart touch)
    | abandon => exact admitsChange_of_unchanged (change_of_abandon done)
    | key direction => exact admitsChange_of_handleFocus done
    | action => exact admitsChange_of_handleFocus done
    | focus => exact admitsChange_of_handleFocus done

/-- Input makes a tab that takes none active exactly if a finger goes up over a flat tab that was
disabled, or blocked by the enabling of another one, since the finger pressed it. -/
theorem input_admits_iff {event : Input} (done : deck.handle event = .ok (outcome, after)) :
    (∀ change, outcome.change = some change →
      after.isEnabled change.current = true ∨ after.allDisabled = true) ↔
      ¬ deck.ReleasesBlocked event := by
  show after.AdmitsChange outcome ↔ _
  rw [(sameFlags_of_handle done).admitsChange]
  by_cases released : ∃ touch, event = .release touch
  · rcases released with ⟨touch, rfl⟩
    cases enabled : deck.enabled with
    | false =>
      simp only [handle, enabled, Bool.false_eq_true, if_false] at done
      cases done
      refine ⟨fun _ => ?_, fun _ => admitsChange_of_unchanged rfl⟩
      rintro ⟨_, _, _, -, isEnabled, -⟩
      rw [enabled] at isEnabled
      cases isEnabled
    | true =>
      simp only [handle, enabled, if_true] at done
      exact admitsChange_of_release_iff enabled done
  · refine ⟨fun _ => ?_, fun _ => admitsChange_of_apart ?_ done⟩
    · rintro ⟨touch, _, _, same, -⟩
      exact released ⟨touch, same⟩
    · intro touch same
      exact released ⟨touch, same⟩

end Reports

/-! ## A flat tab that is disabled while it is pressed -/

/-- A deck of flat tabs is placed, and a finger presses the second tab. -/
def secondPressed : List Action :=
  [.placeAt ⟨⟨0, 0⟩, ⟨300, 100⟩⟩, .input (.press ⟨60, 5⟩)]

/-- The finger goes up over a tab that is still enabled. -/
theorem release_enters_enabled :
    ∃ start deck after : Deck FixedAdvance DemoPanes, ∃ outcome,
      ofCaptions 8 fourImages ⟨6, 7, 10⟩ {} { style := .material } = .ok start ∧
      start.Reaches secondPressed deck ∧
      deck.handle (.release ⟨60, 5⟩) = .ok (outcome, after) ∧
      outcome.change = some ⟨0, 1⟩ ∧
      ∀ change, outcome.change = some change →
        after.isEnabled change.current = true ∨ after.allDisabled = true := by
  obtain ⟨start, deck, after, outcome, made, reached, released, reports, pressed, open_⟩ :
      ∃ start deck after : Deck FixedAdvance DemoPanes, ∃ outcome,
        ofCaptions 8 fourImages ⟨6, 7, 10⟩ {} { style := .material } = .ok start ∧
        start.Reaches secondPressed deck ∧
        deck.handle (.release ⟨60, 5⟩) = .ok (outcome, after) ∧
        outcome.change = some ⟨0, 1⟩ ∧ deck.pressed = some 1 ∧ deck.isEnabled 1 = true :=
    ⟨_, _, _, _, rfl, ⟨_, rfl⟩, rfl, rfl, rfl, rfl⟩
  refine ⟨start, deck, after, outcome, made, reached, released, reports, ?_⟩
  apply (input_admits_iff released).mpr
  rintro ⟨_, index, _, -, -, -, isPressed, -, -, -, closed⟩
  rw [pressed, Option.some.injEq] at isPressed
  subst isPressed
  exact closed (Or.inl open_)

/-- The finger goes up over a tab that was disabled meanwhile. -/
theorem release_enters_blocked :
    ∃ start deck after : Deck FixedAdvance DemoPanes, ∃ outcome change,
      ofCaptions 8 fourImages ⟨6, 7, 10⟩ {} { style := .material } = .ok start ∧
      start.Reaches (secondPressed ++ [.enableTab 1 false]) deck ∧
      deck.handle (.release ⟨60, 5⟩) = .ok (outcome, after) ∧
      outcome.change = some change ∧
      ¬ (after.isEnabled change.current = true ∨ after.allDisabled = true) :=
  ⟨_, _, _, _, _, rfl, ⟨_, rfl⟩, rfl, rfl, by decide⟩

end Deck

end TabDeck
