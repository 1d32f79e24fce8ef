import TabDeck.Proofs.Admission

/-!
# Notices of a new active tab

An operation that makes another tab active tells so, whichever way it came about: by a tap, a key,
a settled gesture, the disabling of the active tab. Only the first activation is silent. Every
action makes at most one tab active, so that the notices of a session follow one another without a
gap, from the first active tab to the last.
-/

namespace TabDeck

namespace Deck

/-- The change of the active tab of which an answer tells. A refusal tells of none. -/
def reported : Answer → Option TabChange
  | .ok outcome => outcome.change
  | .error _ => none

/-- Each change leaves the tab to which the one before it led. -/
def Chain (first : Nat) : List TabChange → Nat → Prop
  | [], last => first = last
  | change :: rest, last =>
    change.previous = first ∧ change.current ≠ first ∧ Chain change.current rest last

variable {μ σ : Type}

/-- The answer tells of a change exactly if one active tab gave way to another, and only then the
deck remembers another tab as the last active one. -/
structure ToldExactly (before after : Deck μ σ) (change : Option TabChange) : Prop where
  exactly : ∀ notice : TabChange, change = some notice ↔
    before.active = some notice.previous ∧ after.active = some notice.current ∧
      notice.previous ≠ notice.current
  leaves : ∀ notice, change = some notice → after.lastActive = some notice.previous
  stays : after.active = before.active → after.lastActive = before.lastActive

/-- What one action does to the active tab, and the change of which it tells. -/
inductive TabStep (before after : Deck μ σ) : Option TabChange → Prop where
  | kept (active : after.active = before.active) (lastActive : after.lastActive = before.lastActive) :
      TabStep before after none
  | switched (index : Nat) (inactive : before.active ≠ some index)
      (active : after.active = some index) (lastActive : after.lastActive = before.active) :
      TabStep before after (before.active.map fun previous => { previous, current := index })

namespace TabStep

variable {before after first second third deck : Deck μ σ} {change : Option TabChange}

theorem refl (deck : Deck μ σ) : deck.TabStep deck none := .kept rfl rfl

/-- What leaves both tabs alone may come before. -/
theorem since (step : second.TabStep third change) (active : second.active = first.active)
    (lastActive : second.lastActive = first.lastActive) : first.TabStep third change := by
  cases step with
  | kept sameActive sameLast => exact .kept (sameActive.trans active) (sameLast.trans lastActive)
  | switched index inactive isActive left =>
    rw [active] at inactive left ⊢
    exact .switched index inactive isActive left

/-- What leaves both tabs alone may come after. -/
theorem thenKept (step : first.TabStep second change) (active : third.active = second.active)
    (lastActive : third.lastActive = second.lastActive) : first.TabStep third change := by
  cases step with
  | kept sameActive sameLast => exact .kept (active.trans sameActive) (lastActive.trans sameLast)
  | switched index inactive isActive left =>
    exact .switched index inactive (active.trans isActive) (lastActive.trans left)

theorem of_served (served : before.Served after) : before.TabStep after none := by
  rcases served with ⟨_, _, rfl, -⟩
  exact .kept rfl rfl

theorem of_restyled (restyled : before.Restyled after) : before.TabStep after none := by
  rcases restyled with ⟨_, _, _, _, _, _, _, _, rfl, -⟩
  exact .kept rfl rfl

/-- Nothing is told while no tab is active. -/
theorem silent (step : before.TabStep after change) (inactive : before.active = none) :
    change = none := by
  cases step with
  | kept => rfl
  | switched => rw [inactive]; rfl

/-- Where nothing is told although a tab was active, the tab is active still. -/
theorem active_of_silent (step : before.TabStep after change) (silent : change = none)
    (isActive : before.active.isSome = true) : after.active = before.active := by
  cases step with
  | kept active lastActive => exact active
  | switched index inactive active lastActive =>
    rw [Option.map_eq_none_iff.mp silent] at isActive
    cases isActive

theorem toldExactly (step : before.TabStep after change) : before.ToldExactly after change := by
  cases step with
  | kept active lastActive =>
    refine ⟨fun notice => ⟨nofun, ?_⟩, nofun, fun _ => lastActive⟩
    rintro ⟨wasActive, isActive, apart⟩
    rw [active, wasActive, Option.some.injEq] at isActive
    exact absurd isActive apart
  | switched index inactive isActive left =>
    have moved : after.active ≠ before.active := by
      rw [isActive]
      exact fun same => inactive same.symm
    refine ⟨?_, ?_, fun same => absurd same moved⟩
    · intro notice
      rw [Option.map_eq_some_iff, isActive]
      constructor
      · rintro ⟨previous, wasActive, rfl⟩
        refine ⟨wasActive, rfl, fun same => ?_⟩
        rw [wasActive] at inactive
        exact inactive (congrArg some same)
      · rintro ⟨wasActive, same, -⟩
        cases same
        exact ⟨notice.previous, wasActive, rfl⟩
    · intro notice told
      rcases Option.map_eq_some_iff.mp told with ⟨previous, wasActive, rfl⟩
      exact left.trans wasActive

variable [PaneHost σ] {outcome : Outcome} {index : Nat}

theorem of_select (done : deck.select index = .ok (outcome, after)) :
    deck.TabStep after outcome.change := by
  rcases select_eq_ok done with ⟨rfl, rfl, -⟩ | ⟨-, inactive, activated⟩
  · exact refl after
  · rw [outcome_of_activate activated]
    rcases activate_eq_ok activated with ⟨_, _, mid, ⟨_, _, rfl, -⟩, rfl, -⟩
    exact .switched index inactive rfl rfl

/-- What comes before a selection without a notice adds none. -/
theorem of_select_since {earlier selection : Outcome} (unchanged : earlier.change = none)
    (done : deck.select index = .ok (selection, after)) :
    deck.TabStep after (earlier.andThen selection).change := by
  simp only [Outcome.andThen, unchanged, Option.or_none]
  exact of_select done

theorem of_thenSelect {earlier : Outcome} (unchanged : earlier.change = none)
    (done : deck.thenSelect earlier index = .ok (outcome, after)) :
    deck.TabStep after outcome.change := by
  rcases thenSelect_eq_ok done with ⟨selection, selected, rfl⟩
  exact of_select_since unchanged selected

theorem of_placeAt [FontMetrics μ] {bounds : Rect}
    (done : deck.placeAt bounds = .ok (outcome, after)) : deck.TabStep after outcome.change := by
  rw [(outcome_of_placeAt done).1]
  rcases placeAt_eq_ok done with ⟨measured, area, row, stripWidth, shown, last, restyled, -, -,
    showed, stays, selects, rfl⟩
  have kept : shown.active = deck.active ∧ shown.lastActive = deck.lastActive := by
    rcases restyled with ⟨_, _, _, _, _, _, _, _, rfl, -⟩
    rcases served_of_showPanes showed with ⟨_, ⟨_, _, rfl, -⟩, -⟩
    exact ⟨rfl, rfl⟩
  cases isActive : shown.active with
  | some active =>
    rw [stays active isActive]
    exact .kept kept.1 kept.2
  | none =>
    rcases selects isActive with ⟨selection, selected⟩
    have first := of_select selected
    rw [first.silent isActive] at first
    exact (first.since kept.1 kept.2).thenKept rfl rfl

theorem of_enableTab {enabled : Bool}
    (done : deck.enableTab index enabled = .ok (outcome, after)) :
    deck.TabStep after outcome.change := by
  simp only [enableTab] at done
  split at done
  · cases done
    exact refl _
  · split at done
    · cases done
      exact refl _
    · split at done
      · exact (of_thenSelect rfl done).since rfl rfl
      · cases done
        exact .kept rfl rfl

theorem of_supplyPane {handle : PaneId}
    (done : deck.supplyPane index handle = .ok (outcome, after)) :
    deck.TabStep after outcome.change := by
  simp only [supplyPane] at done
  split at done
  · cases done
    exact refl _
  · split at done <;> cases done <;> exact .kept rfl rfl

theorem of_callOff {moved : Bool} (done : deck.callOff = .ok (moved, after)) :
    deck.TabStep after none := by
  rcases served_of_callOff done with ⟨_, _, rfl, -⟩
  exact .kept rfl rfl

theorem of_enable {enabled : Bool} (done : deck.enable enabled = .ok (outcome, after)) :
    deck.TabStep after outcome.change := by
  have told : outcome.change = none := by
    rcases outcome_of_enable done with ⟨-, rfl⟩ | rfl <;> rfl
  rw [told]
  rcases enable_eq_ok done with rfl | ⟨mid, -, rfl, opens, closes⟩
  · exact refl after
  · have toggled : deck.TabStep mid none := by
      cases enabled with
      | true =>
        rw [opens rfl]
        exact .kept rfl rfl
      | false =>
        rcases closes rfl with ⟨moved, calledOff⟩
        exact (of_callOff calledOff).since rfl rfl
    exact toggled.thenKept rfl rfl

theorem of_abandon (done : deck.abandon = .ok (outcome, after)) :
    deck.TabStep after outcome.change := by
  rw [change_of_abandon done]
  rcases abandon_eq_ok done with ⟨moved, calledOff⟩
  exact (of_callOff calledOff).since rfl rfl

theorem of_tick {elapsed : Nat} (done : deck.tick elapsed = .ok (outcome, after)) :
    deck.TabStep after outcome.change := by
  rcases tick_eq_ok done with ⟨progress, gesture, row, -, rest⟩
  cases progress with
  | idle =>
    rcases rest with ⟨rfl, rfl⟩
    exact refl after
  | moving =>
    rcases rest with ⟨moved, rfl⟩
    exact (of_served (served_of_moveAll moved)).since rfl rfl
  | arrived target =>
    rcases rest with ⟨mid, selection, moved, selected, rfl⟩
    rcases served_of_moveAll moved with ⟨_, _, rfl, -⟩
    exact (of_select_since rfl selected).since rfl rfl

theorem of_press {touch : Touch} (done : deck.press touch = .ok (outcome, after)) :
    deck.TabStep after outcome.change := by
  rcases press_eq_tapped done with ⟨point, tapped⟩
  have begun : (deck.beginGesture point).active = deck.active ∧
      (deck.beginGesture point).lastActive = deck.lastActive := by
    simp only [beginGesture]
    split <;> exact ⟨rfl, rfl⟩
  apply TabStep.since _ begun.1 begun.2
  cases tapped with
  | nothing same unchanged =>
    rw [same, unchanged]
    exact refl _
  | holds pressed _ _ same unchanged =>
    rw [same, unchanged]
    exact .kept rfl rfl
  | arrow forward selection selected told =>
    rw [told]
    exact of_select selected
  | tab tapped selection _ selected told =>
    rw [told]
    exact of_select selected

theorem of_drag {movement : Point} {time : Nat}
    (done : deck.drag movement time = .ok (outcome, after)) :
    deck.TabStep after outcome.change := by
  rw [change_of_drag done]
  rcases drag_eq_ok done with ⟨-, rfl⟩ | ⟨active, taken, gesture, row, -, -, -, takes, leaves⟩
  · exact refl after
  · cases taken with
    | true =>
      rcases served_of_moveAll (takes rfl) with ⟨_, _, rfl, -⟩
      exact .kept rfl rfl
    | false =>
      rw [leaves rfl]
      exact .kept rfl rfl

theorem of_release (done : deck.release = .ok (outcome, after)) :
    deck.TabStep after outcome.change := by
  rcases release_eq_select done with ⟨result, mid, letGo, rest⟩
  have chosen : deck.TabStep mid result.change := by
    rcases rest with ⟨-, rfl, rfl⟩ | ⟨index, -, -, selected⟩
    · exact .kept rfl rfl
    · exact (of_select selected).since rfl rfl
  have told : outcome.change = result.change := by rw [← change_of_letGo mid result, letGo]
  have same : after = (mid.letGo result).2 := by rw [letGo]
  rw [told, same]
  simp only [Deck.letGo]
  split
  · split <;> exact chosen.thenKept rfl rfl
  · exact chosen

theorem of_handleFocus {event : KeyFocus.Event}
    (done : deck.handleFocus event = .ok (outcome, after)) :
    deck.TabStep after outcome.change := by
  rcases handleFocus_eq_ok done with ⟨-, rfl, rfl⟩ | ⟨focus, task, inner, told, -, -, followed⟩
  · exact refl after
  rw [told]
  cases task with
  | changeTab forward => exact (of_thenSelect rfl followed).since rfl rfl
  | enterPane forward =>
    rw [change_of_enterPane followed]
    rcases enterPane_eq_ok followed with ⟨-, rfl⟩ |
      ⟨active, handle, mid, granted, link, -, found, -, kept, refused⟩
    · exact .kept rfl rfl
    · rcases (served_of_paneOf found).1 with ⟨_, _, rfl, -⟩
      cases granted with
      | true =>
        rw [kept rfl]
        exact .kept rfl rfl
      | false =>
        rw [refused rfl]
        exact .kept rfl rfl
  | nothing | reclaim | release =>
    cases followed
    exact .kept rfl rfl

theorem of_handle {event : Input} (done : deck.handle event = .ok (outcome, after)) :
    deck.TabStep after outcome.change := by
  simp only [handle] at done
  split at done
  · cases event with
    | press touch => exact of_press done
    | drag touch movement time => exact of_drag done
    | release touch => exact of_release done
    | abandon => exact of_abandon done
    | key direction => exact of_handleFocus done
    | action => exact of_handleFocus done
    | focus => exact of_handleFocus done
  · cases done
    exact refl _

theorem of_perform [FontMetrics μ] {action : Action} {answer : Answer}
    (done : deck.perform action = .ok (answer, after)) : deck.TabStep after (reported answer) := by
  cases action with
  | showIcons icons =>
    rcases acceptedOr_eq_ok.mp done with ⟨outcome, shown, rfl⟩ | ⟨refusal, -, rfl, rfl⟩
    · rw [outcome_of_showIcons shown]
      exact of_restyled (restyled_of_showIcons shown)
    · exact refl after
  | relabel captions =>
    rcases acceptedOr_eq_ok.mp done with ⟨outcome, relabelled, rfl⟩ | ⟨refusal, -, rfl, rfl⟩
    · rw [outcome_of_relabel relabelled]
      rcases relabel_eq_ok relabelled with ⟨mid, area, restyled, -, rfl⟩
      exact (of_restyled restyled).thenKept rfl rfl
    · exact refl after
  | paintTab index colour =>
    cases done
    have silent : (deck.paintTab index colour).1.change = none := by
      simp only [paintTab]
      split <;> rfl
    have painted := of_restyled (restyled_paintTab deck index colour)
    rw [← silent] at painted
    exact painted
  | usePalette palette =>
    cases done
    exact .kept rfl rfl
  | placeAt bounds =>
    rcases accepted_eq_ok.mp done with ⟨outcome, placed, rfl⟩
    exact of_placeAt placed
  | select index =>
    rcases accepted_eq_ok.mp done with ⟨outcome, selected, rfl⟩
    exact of_select selected
  | enableTab index enabled =>
    rcases accepted_eq_ok.mp done with ⟨outcome, changed, rfl⟩
    exact of_enableTab changed
  | supplyPane index handle =>
    rcases accepted_eq_ok.mp done with ⟨outcome, supplied, rfl⟩
    exact of_supplyPane supplied
  | enable enabled =>
    rcases accepted_eq_ok.mp done with ⟨outcome, changed, rfl⟩
    exact of_enable changed
  | input event =>
    rcases accepted_eq_ok.mp done with ⟨outcome, handled, rfl⟩
    exact of_handle handled
  | abandon =>
    rcases accepted_eq_ok.mp done with ⟨outcome, abandoned, rfl⟩
    exact of_abandon abandoned
  | reclaimFocus =>
    rcases accepted_eq_ok.mp done with ⟨outcome, reclaimed, rfl⟩
    exact of_handleFocus reclaimed
  | tick elapsed =>
    rcases accepted_eq_ok.mp done with ⟨outcome, ticked, rfl⟩
    exact of_tick ticked

end TabStep

/-! ## Sessions -/

section Chains

variable [FontMetrics μ] [PaneHost σ] {start deck : Deck μ σ} {actions : List Action}
  {answers : List Answer}

/-- From an active tab on, the notices of a session lead to the active tab after it. -/
theorem chain_of_active {first : Nat} (isActive : start.active = some first)
    (ran : start.run actions = .ok (answers, deck)) :
    ∃ last, deck.active = some last ∧ Chain first (answers.filterMap reported) last := by
  induction actions generalizing start answers first with
  | nil =>
    cases ran
    exact ⟨first, isActive, rfl⟩
  | cons action rest ih =>
    rcases run_cons_eq_ok.mp ran with ⟨answer, middle, later, performed, ranLater, rfl⟩
    rw [List.filterMap_cons]
    generalize told : reported answer = change
    have step := TabStep.of_perform performed
    rw [told] at step
    cases step with
    | kept active lastActive => exact ih (active.trans isActive) ranLater
    | switched index inactive active lastActive =>
      rcases ih active ranLater with ⟨last, isLast, chain⟩
      rw [isActive] at inactive ⊢
      exact ⟨last, isLast, rfl, fun same => inactive (congrArg some same.symm), chain⟩

/-- The notices of a session: none while no tab is active, and from the silent first activation on
a chain that leads to the active tab after the session. -/
inductive Told (start : Deck μ σ) (actions : List Action) (answers : List Answer)
    (deck : Deck μ σ) : Prop where
  | nothing (inactive : deck.active = none) (silent : answers.filterMap reported = [])
  | chain (earlier later : List Action) (action : Action) (before after : Deck μ σ)
      (answer : Answer) (first last : Nat) (split : actions = earlier ++ action :: later)
      (reached : start.Reaches earlier before) (inactive : before.active = none)
      (performed : before.perform action = .ok (answer, after))
      (activated : after.active = some first) (silent : reported answer = none)
      (isLast : deck.active = some last) (chain : Chain first (answers.filterMap reported) last)

theorem told_of_run (inactive : start.active = none)
    (ran : start.run actions = .ok (answers, deck)) : start.Told actions answers deck := by
  induction actions generalizing start answers with
  | nil =>
    cases ran
    exact .nothing inactive rfl
  | cons action rest ih =>
    rcases run_cons_eq_ok.mp ran with ⟨answer, middle, later, performed, ranLater, rfl⟩
    have silent := (TabStep.of_perform performed).silent inactive
    have notices : (answer :: later).filterMap reported = later.filterMap reported := by
      rw [List.filterMap_cons, silent]
    cases isActive : middle.active with
    | some first =>
      rcases chain_of_active isActive ranLater with ⟨last, isLast, chain⟩
      rw [← notices] at chain
      exact .chain [] rest action start middle answer first last rfl (reaches_nil.mpr rfl) inactive
        performed isActive silent isLast chain
    | none =>
      cases ih isActive ranLater with
      | nothing still silentLater => exact .nothing still (notices.trans silentLater)
      | chain earlier others next before after other first last split reached none performedNext
          activated silentNext isLast chain =>
        rw [← notices] at chain
        rw [split]
        exact .chain (action :: earlier) others next before after other first last rfl
          (reaches_cons.mpr ⟨answer, middle, performed, reached⟩) none performedNext activated
          silentNext isLast chain

/-- Every action tells exactly of the change of the active tab that it makes, and over a session
the notices form an unbroken chain from the first active tab to the last. -/
theorem changes_told_exactly {capacity : Nat} {captions : List Caption} {metrics : μ} {host : σ}
    {settings : Settings}
    (made : ofCaptions capacity captions metrics host settings = .ok start) :
    (∀ actions before action answer after, start.Reaches actions before →
      before.perform action = .ok (answer, after) →
        before.ToldExactly after (reported answer)) ∧
    ∀ actions answers deck, start.run actions = .ok (answers, deck) →
      start.Told actions answers deck := by
  constructor
  · intro _ before action answer after _ performed
    exact (TabStep.of_perform performed).toldExactly
  · intro actions answers deck ran
    rcases ofCaptions_eq_ok made with ⟨-, tabs, strip, -, rfl⟩
    exact told_of_run rfl ran

/-- A tab is selected, the active one is disabled, and a tap leads back. -/
def threeChanges : List Action :=
  [.tick 16, .placeAt ⟨⟨0, 0⟩, ⟨300, 100⟩⟩, .select 2, .enableTab 2 false, .select 3,
    .input (.press ⟨60, 5⟩)]

/-- The first tab becomes active silently, and each of three changes is told. -/
theorem changes_told_exactly_after_placement :
    ∃ start deck : Deck FixedAdvance DemoPanes, ∃ answers,
      ofCaptions 8 fourImages ⟨6, 7, 10⟩ {} {} = .ok start ∧
      start.run threeChanges = .ok (answers, deck) ∧
      answers.filterMap reported = [⟨0, 2⟩, ⟨2, 3⟩, ⟨3, 1⟩] ∧
      start.Told threeChanges answers deck := by
  obtain ⟨start, deck, answers, made, ran, notices⟩ :
      ∃ start deck : Deck FixedAdvance DemoPanes, ∃ answers,
        ofCaptions 8 fourImages ⟨6, 7, 10⟩ {} {} = .ok start ∧
        start.run threeChanges = .ok (answers, deck) ∧
        answers.filterMap reported = [⟨0, 2⟩, ⟨2, 3⟩, ⟨3, 1⟩] :=
    ⟨_, _, _, rfl, rfl, rfl⟩
  exact ⟨start, deck, answers, made, ran, notices,
    (changes_told_exactly made).2 threeChanges answers deck ran⟩

end Chains

end Deck

end TabDeck
