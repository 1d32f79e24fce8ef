import TabDeck.Proofs.Dormancy
import TabDeck.Proofs.Navigation
import TabDeck.Proofs.Notices
import TabDeck.Proofs.Totality

/-!
# The two modes

Paged or side by side, the panes do not decide which tab is active. As long as no finger touches it,
a deck does in either mode what `Navigation.step` says, given how the panes answer when they are
offered the focus (`Deck.navigates_of_perform`). Two decks that differ only in the mode therefore
navigate alike, as long as their panes answer alike (`Deck.modes_agree`): in one mode the row moves
where in the other panes are exchanged, but a row that no finger has moved never settles on another
tab.
-/

namespace TabDeck

/-! ## Offers of the focus -/

namespace PaneLink

variable {σ : Type} {before after : PaneLink σ}

/-- The answers to all offers of the focus, in order. -/
def offers (link : PaneLink σ) : List Bool := link.calls.reverse.filterMap PaneCall.offerAnswer

theorem Withholds.offers (withholds : before.Withholds after) : after.offers = before.offers := by
  rcases withholds.noOffers with ⟨calls, appended, none⟩
  rw [PaneLink.offers, appended, List.reverse_append, List.filterMap_append, none,
    List.append_nil, PaneLink.offers]

theorem offers_of_takeFocus [PaneHost σ] {handle : PaneId} {forward granted : Bool}
    (asked : before.takeFocus handle forward = (granted, after)) :
    after.offers = before.offers ++ [granted] := by
  simp only [takeFocus, Prod.mk.injEq] at asked
  rcases asked with ⟨rfl, rfl⟩
  simp [offers, PaneCall.offerAnswer]

/-- The panes of two decks gave the same answers, as far as both were offered the focus. -/
def AnswersLike {τ : Type} (link : PaneLink σ) (other : PaneLink τ) : Prop :=
  ∀ (turn : Nat) (granted otherGranted : Bool), link.offers[turn]? = some granted →
    other.offers[turn]? = some otherGranted → granted = otherGranted

/-- Answers that are the same so far were the same before. -/
theorem AnswersLike.earlier {τ : Type} {other otherAfter : PaneLink τ}
    (alike : after.AnswersLike otherAfter) (begins : before.offers <+: after.offers)
    (otherBegins : other.offers <+: otherAfter.offers) : before.AnswersLike other := by
  intro turn granted otherGranted found otherFound
  rcases List.getElem?_eq_some_iff.mp found with ⟨bound, rfl⟩
  rcases List.getElem?_eq_some_iff.mp otherFound with ⟨otherBound, rfl⟩
  apply alike turn
  · exact List.prefix_iff_getElem?.mp begins turn bound
  · exact List.prefix_iff_getElem?.mp otherBegins turn otherBound

/-- After equal answers, the next ones are equal too. -/
theorem AnswersLike.next {τ : Type} {other : PaneLink τ} (alike : after.AnswersLike other)
    {offers : List Bool} {answer otherAnswer : Option Bool}
    (offered : after.offers = offers ++ answer.toList)
    (otherOffered : other.offers = offers ++ otherAnswer.toList)
    (both : answer.isSome = otherAnswer.isSome) : answer = otherAnswer := by
  cases answer with
  | none =>
    cases otherAnswer with
    | none => rfl
    | some _ => cases both
  | some granted =>
    cases otherAnswer with
    | none => cases both
    | some otherGranted =>
      congr
      apply alike offers.length
      · simp [offered]
      · simp [otherOffered]

end PaneLink

namespace Deck

variable {μ σ : Type}

/-! ## One action -/

/-- The deck went where the answer to an offer of the focus leads, or where it goes without one. -/
def Navigates (before after : Deck μ σ) (asks : Bool) (next : Option Bool → Navigation μ) : Prop :=
  ∃ answer : Option Bool, answer.isSome = asks ∧
    after.link.offers = before.link.offers ++ answer.toList ∧ after.navigation = next answer

theorem Navigates.silent {before after : Deck μ σ} {next : Option Bool → Navigation μ}
    (withholds : before.link.Withholds after.link) (leads : after.navigation = next none) :
    before.Navigates after false next := by
  refine ⟨none, rfl, ?_, leads⟩
  simp [withholds.offers]

section Steps

variable [PaneHost σ] {deck after : Deck μ σ} {outcome : Outcome}

theorem navigates_of_enterPane {forward : Bool}
    (done : deck.enterPane forward = .ok (outcome, after)) :
    deck.Navigates after deck.active.isSome fun answer =>
      { deck.navigation with
        focus := if answer = some true then deck.focus else deck.focus.refused } := by
  rcases enterPane_eq_ok done with ⟨inactive, rfl⟩ |
    ⟨active, handle, mid, granted, link, isActive, found, asked, kept, refused⟩
  · have nobody : none.isSome = deck.active.isSome := congrArg Option.isSome inactive.symm
    exact ⟨none, nobody, (List.append_nil _).symm, rfl⟩
  · have unfocused := Unfocused.of_paneOf found
    have sameNav : mid.navigation = deck.navigation :=
      navigation_of_served (served_of_paneOf found).1
    have offered := PaneLink.offers_of_takeFocus asked
    rw [unfocused.link.offers] at offered
    rw [isActive]
    refine ⟨some granted, rfl, ?_⟩
    cases granted with
    | true =>
      rw [kept rfl]
      exact ⟨offered, sameNav⟩
    | false =>
      have refusedNav : ({ mid with link, focus := mid.focus.refused } : Deck μ σ).navigation =
          { deck.navigation with focus := deck.focus.refused } := by
        rw [← sameNav, ← unfocused.focus]
        rfl
      rw [refused rfl]
      exact ⟨offered, refusedNav⟩

theorem navigates_of_handleFocus {event : KeyFocus.Event}
    (done : deck.handleFocus event = .ok (outcome, after)) :
    deck.Navigates after (deck.navigation.offers event) (deck.navigation.follow event) := by
  cases attentive : deck.navigation.settings.keyboardFocus with
  | false =>
    have inattentive : deck.settings.keyboardFocus = false := attentive
    have ignores : deck.navigation.offers event = false := by
      simp only [Navigation.offers, attentive, Bool.false_and]
      split <;> rfl
    simp only [handleFocus, inattentive] at done
    cases done
    rw [ignores]
    apply Navigates.silent (PaneLink.Withholds.refl _)
    simp [Navigation.follow, attentive]
  | true =>
    rcases handleFocus_eq_ok done with ⟨inattentive, -⟩ |
      ⟨focus, task, inner, -, -, responds, followed⟩
    · have contrary : deck.settings.keyboardFocus = true := attentive
      rw [contrary] at inattentive
      cases inattentive
    have responded : deck.navigation.focus.respond event deck.navigation.settings.edge =
        (focus, task) := responds
    cases task with
    | changeTab forward =>
      have ignores : deck.navigation.offers event = false := by
        simp only [Navigation.offers, responded]
      rw [ignores]
      apply Navigates.silent (Unfocused.of_switched (switched_of_thenSelect followed)).link
      rw [navigation_of_thenSelect followed]
      simp only [Navigation.follow, attentive, responded, if_true, navigation_blockedFlags]
      rfl
    | enterPane forward =>
      rcases navigates_of_enterPane followed with ⟨answer, asked, offered, leads⟩
      refine ⟨answer, ?_, offered, ?_⟩
      · simp only [Navigation.offers, responded, attentive, Bool.true_and]
        exact asked
      · simp only [Navigation.follow, attentive, responded, if_true]
        exact leads
    | nothing | reclaim | release =>
      have ignores : deck.navigation.offers event = false := by
        simp only [Navigation.offers, responded]
      cases followed
      rw [ignores]
      apply Navigates.silent (PaneLink.Withholds.refl _)
      simp only [Navigation.follow, attentive, responded, if_true]
      rfl

section Events

variable [FontMetrics μ] {event : Input}

omit [PaneHost σ] in
theorem Navigates.eventless (eventless : deck.navigation.focusEvent (.input event) = none)
    (withholds : deck.link.Withholds after.link) (stays : after.navigation = deck.navigation) :
    deck.Navigates after (deck.navigation.asks (.input event))
      (deck.navigation.step (.input event)) := by
  simp only [Navigation.asks, eventless, Option.any_none]
  apply Navigates.silent withholds
  simp only [Navigation.step, eventless, stays]

theorem navigates_of_focusEvent {change : KeyFocus.Event}
    (isChange : deck.navigation.focusEvent (.input event) = some change)
    (done : deck.handleFocus change = .ok (outcome, after)) :
    deck.Navigates after (deck.navigation.asks (.input event))
      (deck.navigation.step (.input event)) := by
  rcases navigates_of_handleFocus done with ⟨answer, asked, offered, leads⟩
  refine ⟨answer, ?_, offered, ?_⟩
  · simp only [Navigation.asks, isChange, Option.any_some, asked]
  · simp only [Navigation.step, isChange, leads]

theorem navigates_of_handle (untouched : (Action.input event).isTouch = false)
    (done : deck.handle event = .ok (outcome, after)) :
    deck.Navigates after (deck.navigation.asks (.input event))
      (deck.navigation.step (.input event)) := by
  rcases handle_eq_ok done with ⟨disabled, rfl⟩ | ⟨enabled, handled⟩
  · apply Navigates.eventless _ (PaneLink.Withholds.refl _) rfl
    simp [Navigation.focusEvent, navigation, disabled]
  have isEvent : deck.navigation.focusEvent (.input event) = event.focusEvent := if_pos enabled
  cases event with
  | press touch => cases untouched
  | drag touch movement time => cases untouched
  | release touch => cases untouched
  | abandon =>
    have unfocused := Unfocused.of_moves (moves_of_abandon handled)
    exact .eventless isEvent unfocused.link (navigation_of_abandon handled)
  | key direction => exact navigates_of_focusEvent isEvent handled
  | action => exact navigates_of_focusEvent isEvent handled
  | focus => exact navigates_of_focusEvent isEvent handled

end Events

/-- Unless a finger is behind an action, it leads where `Navigation.step` says. That the row is at
rest matters to ticks only: those of a settling row make another tab active. -/
theorem navigates_of_perform [FontMetrics μ] {action : Action} {answer : Answer}
    (resting : deck.gesture.phase = .resting) (untouched : action.isTouch = false)
    (done : deck.perform action = .ok (answer, after)) :
    deck.Navigates after (deck.navigation.asks action) (deck.navigation.step action) := by
  cases action with
  | showIcons icons =>
    have leads := navigation_of_showIcons done
    rcases acceptedOr_eq_ok.mp done with ⟨outcome, shown, -⟩ | ⟨refusal, -, rfl, -⟩
    · exact .silent (Unfocused.of_restyled (restyled_of_showIcons shown)).link leads
    · exact .silent (PaneLink.Withholds.refl _) leads
  | relabel captions =>
    have leads := navigation_of_relabel done
    rcases acceptedOr_eq_ok.mp done with ⟨outcome, relabelled, -⟩ | ⟨refusal, -, rfl, -⟩
    · exact .silent (Unfocused.of_relabel relabelled).link leads
    · exact .silent (PaneLink.Withholds.refl _) leads
  | paintTab index colour =>
    cases done
    have unfocused := Unfocused.of_restyled (restyled_paintTab deck index colour)
    exact .silent unfocused.link (navigation_paintTab deck index colour)
  | usePalette palette =>
    cases done
    exact .silent (PaneLink.Withholds.refl _) rfl
  | placeAt bounds =>
    rcases accepted_eq_ok.mp done with ⟨outcome, placed, -⟩
    exact .silent (Unfocused.of_placeAt placed).link (navigation_of_placeAt placed)
  | select index =>
    rcases accepted_eq_ok.mp done with ⟨outcome, selected, -⟩
    have unfocused := Unfocused.of_switched (switched_of_select selected)
    exact .silent unfocused.link (navigation_of_select selected)
  | enableTab index enabled =>
    rcases accepted_eq_ok.mp done with ⟨outcome, changed, -⟩
    have unfocused := Unfocused.of_moves (moves_of_enableTab changed)
    exact .silent unfocused.link (navigation_of_enableTab changed)
  | supplyPane index handle =>
    rcases accepted_eq_ok.mp done with ⟨outcome, supplied, -⟩
    exact .silent (Unfocused.of_supplyPane supplied).link (navigation_of_supplyPane supplied)
  | enable enabled =>
    rcases accepted_eq_ok.mp done with ⟨outcome, changed, -⟩
    have unfocused := Unfocused.of_moves (moves_of_enable changed)
    exact .silent unfocused.link (navigation_of_enable changed)
  | input event =>
    rcases accepted_eq_ok.mp done with ⟨outcome, handled, -⟩
    exact navigates_of_handle untouched handled
  | abandon =>
    rcases accepted_eq_ok.mp done with ⟨outcome, abandoned, -⟩
    have unfocused := Unfocused.of_moves (moves_of_abandon abandoned)
    exact .silent unfocused.link (navigation_of_abandon abandoned)
  | reclaimFocus =>
    rcases accepted_eq_ok.mp done with ⟨outcome, reclaimed, -⟩
    exact navigates_of_handleFocus reclaimed
  | tick elapsed =>
    rcases accepted_eq_ok.mp done with ⟨outcome, ticked, -⟩
    rw [Unstirred.tick_of_resting resting elapsed] at ticked
    cases ticked
    exact .silent (PaneLink.Withholds.refl _) rfl

omit [PaneHost σ] in
theorem Calms.resting {before : Deck μ σ} (calms : before.Calms after)
    (resting : before.gesture.phase = .resting) : after.gesture.phase = .resting := by
  rcases calms.gesture with same | forgot
  · rw [same, resting]
  · rw [forgot]
    rfl

theorem resting_of_callOff {moved : Bool} (done : deck.callOff = .ok (moved, after)) :
    after.gesture.phase = .resting := by
  rcases served_of_callOff done with ⟨_, _, rfl, -⟩
  rfl

theorem resting_of_abandon (done : deck.abandon = .ok (outcome, after)) :
    after.gesture.phase = .resting := by
  rcases abandon_eq_ok done with ⟨moved, calledOff⟩
  exact resting_of_callOff calledOff

/-- Only a finger sets the row in motion. -/
theorem resting_of_perform [FontMetrics μ] {action : Action} {answer : Answer}
    (resting : deck.gesture.phase = .resting) (untouched : action.isTouch = false)
    (done : deck.perform action = .ok (answer, after)) : after.gesture.phase = .resting := by
  cases action with
  | showIcons icons =>
    rcases acceptedOr_eq_ok.mp done with ⟨outcome, shown, -⟩ | ⟨refusal, -, rfl, -⟩
    · exact (Calms.of_restyled (restyled_of_showIcons shown)).resting resting
    · exact resting
  | relabel captions =>
    rcases acceptedOr_eq_ok.mp done with ⟨outcome, relabelled, -⟩ | ⟨refusal, -, rfl, -⟩
    · exact (Calms.of_relabel relabelled).resting resting
    · exact resting
  | paintTab index colour =>
    cases done
    exact (Calms.of_restyled (restyled_paintTab deck index colour)).resting resting
  | usePalette palette =>
    cases done
    exact resting
  | placeAt bounds =>
    rcases accepted_eq_ok.mp done with ⟨outcome, placed, -⟩
    exact (Calms.of_placeAt placed).resting resting
  | select index =>
    rcases accepted_eq_ok.mp done with ⟨outcome, selected, -⟩
    exact (Calms.of_switched (switched_of_select selected)).resting resting
  | enableTab index enabled =>
    rcases accepted_eq_ok.mp done with ⟨outcome, changed, -⟩
    exact (Calms.of_enableTab changed).resting resting
  | supplyPane index handle =>
    rcases accepted_eq_ok.mp done with ⟨outcome, supplied, -⟩
    exact (Calms.of_supplyPane supplied).resting resting
  | enable enabled =>
    rcases accepted_eq_ok.mp done with ⟨outcome, changed, -⟩
    rcases enable_eq_ok changed with rfl | ⟨mid, -, rfl, isEnabled, isDisabled⟩
    · exact resting
    · cases enabled with
      | true =>
        rw [isEnabled rfl]
        exact resting
      | false =>
        rcases isDisabled rfl with ⟨moved, calledOff⟩
        have calm : mid.gesture.phase = .resting := resting_of_callOff calledOff
        exact calm
  | input event =>
    rcases accepted_eq_ok.mp done with ⟨outcome, handled, -⟩
    rcases handle_eq_ok handled with ⟨-, rfl⟩ | ⟨-, handled⟩
    · exact resting
    cases event with
    | press touch => cases untouched
    | drag touch movement time => cases untouched
    | release touch => cases untouched
    | abandon => exact resting_of_abandon handled
    | key direction => exact (Calms.of_handleFocus handled).resting resting
    | action => exact (Calms.of_handleFocus handled).resting resting
    | focus => exact (Calms.of_handleFocus handled).resting resting
  | abandon =>
    rcases accepted_eq_ok.mp done with ⟨outcome, abandoned, -⟩
    exact resting_of_abandon abandoned
  | reclaimFocus =>
    rcases accepted_eq_ok.mp done with ⟨outcome, reclaimed, -⟩
    exact (Calms.of_handleFocus reclaimed).resting resting
  | tick elapsed =>
    rcases accepted_eq_ok.mp done with ⟨outcome, ticked, -⟩
    rw [Unstirred.tick_of_resting resting elapsed] at ticked
    cases ticked
    exact resting

end Steps

section Runs

variable [FontMetrics μ] [PaneHost σ] {deck last : Deck μ σ} {actions : List Action}
  {answers : List Answer}

/-- Further offers are answered after those that were answered before. -/
theorem offers_of_run (resting : deck.gesture.phase = .resting)
    (untouched : ∀ action ∈ actions, action.isTouch = false)
    (ran : deck.run actions = .ok (answers, last)) : deck.link.offers <+: last.link.offers := by
  induction actions generalizing deck answers with
  | nil =>
    cases ran
    exact List.prefix_refl _
  | cons action rest ih =>
    rcases run_cons_eq_ok.mp ran with ⟨answer, middle, later, performed, continued, -⟩
    have still : action.isTouch = false := untouched action List.mem_cons_self
    rcases navigates_of_perform resting still performed with ⟨reply, -, offered, -⟩
    have grows : deck.link.offers <+: middle.link.offers := ⟨reply.toList, offered.symm⟩
    have middleRests := resting_of_perform resting still performed
    exact grows.trans (ih middleRests (fun other member =>
      untouched other (List.mem_cons_of_mem action member)) continued)

end Runs

/-! ## Two decks at once -/

theorem HandOff.told_eq {place next : KeyFocus} {told otherTold : Option FocusMove}
    {answers otherAnswers : List Bool} (handOff : HandOff place next told answers)
    (other : HandOff place next otherTold otherAnswers) : told = otherTold := by
  cases handOff <;> cases other <;> rfl

section Pairs

variable {τ : Type} {deck after : Deck μ σ} {other otherAfter : Deck μ τ}

theorem TabStep.change_eq {change otherChange : Option TabChange}
    (step : deck.TabStep after change) (otherStep : other.TabStep otherAfter otherChange)
    (active : deck.active = other.active) (activeAfter : after.active = otherAfter.active) :
    change = otherChange := by
  apply Option.ext
  intro notice
  rw [step.toldExactly.exactly, otherStep.toldExactly.exactly, active, activeAfter]

/-- Two decks that no finger has touched are navigated alike, and their panes answered alike. -/
structure Paired (deck : Deck μ σ) (other : Deck μ τ) : Prop where
  navigation : deck.navigation = other.navigation
  offers : deck.link.offers = other.link.offers
  resting : deck.gesture.phase = .resting
  otherResting : other.gesture.phase = .resting

variable [FontMetrics μ] [PaneHost σ] [PaneHost τ]

/-- Paired decks stay paired and tell the same, which follows from the states before and after an
action, whichever panes were asked. -/
theorem Paired.perform {action : Action} {answer otherAnswer : Answer} (paired : deck.Paired other)
    (untouched : action.isTouch = false) (done : deck.perform action = .ok (answer, after))
    (otherDone : other.perform action = .ok (otherAnswer, otherAfter))
    (alike : after.link.AnswersLike otherAfter.link) :
    after.Paired otherAfter ∧ reported answer = reported otherAnswer ∧
      signalled answer = signalled otherAnswer := by
  rcases navigates_of_perform paired.resting untouched done with ⟨reply, asked, offered, leads⟩
  rcases navigates_of_perform paired.otherResting untouched otherDone with
    ⟨otherReply, otherAsked, otherOffered, otherLeads⟩
  rw [← paired.navigation] at otherAsked otherLeads
  rw [← paired.offers] at otherOffered
  have sameReply : reply = otherReply :=
    alike.next offered otherOffered (asked.trans otherAsked.symm)
  have sameNav : after.navigation = otherAfter.navigation := by
    rw [leads, otherLeads, sameReply]
  have active := congrArg Navigation.active paired.navigation
  have activeAfter := congrArg Navigation.active sameNav
  have focus : deck.focus = other.focus := congrArg Navigation.focus paired.navigation
  have focusAfter : after.focus = otherAfter.focus := congrArg Navigation.focus sameNav
  refine ⟨⟨sameNav, ?_, ?_, ?_⟩, ?_, ?_⟩
  · rw [offered, otherOffered, sameReply]
  · exact resting_of_perform paired.resting untouched done
  · exact resting_of_perform paired.otherResting untouched otherDone
  · exact (TabStep.of_perform done).change_eq (TabStep.of_perform otherDone) active activeAfter
  · have handOff := handOff_of_perform done
    rw [focus, focusAfter] at handOff
    exact HandOff.told_eq handOff (handOff_of_perform otherDone)

theorem Paired.run {actions : List Action} {answers otherAnswers : List Answer}
    {last : Deck μ σ} {otherLast : Deck μ τ} (paired : deck.Paired other)
    (untouched : ∀ action ∈ actions, action.isTouch = false)
    (ran : deck.run actions = .ok (answers, last))
    (otherRan : other.run actions = .ok (otherAnswers, otherLast))
    (alike : last.link.AnswersLike otherLast.link) :
    last.Paired otherLast ∧ answers.map reported = otherAnswers.map reported ∧
      answers.map signalled = otherAnswers.map signalled := by
  induction actions generalizing deck other answers otherAnswers with
  | nil =>
    cases ran
    cases otherRan
    exact ⟨paired, rfl, rfl⟩
  | cons action rest ih =>
    rcases run_cons_eq_ok.mp ran with ⟨answer, middle, later, performed, continued, rfl⟩
    rcases run_cons_eq_ok.mp otherRan with
      ⟨otherAnswer, otherMiddle, otherLater, otherPerformed, otherContinued, rfl⟩
    have still : action.isTouch = false := untouched action List.mem_cons_self
    have restStill : ∀ later ∈ rest, later.isTouch = false := by
      intro later member
      exact untouched later (List.mem_cons_of_mem action member)
    have middleAlike : middle.link.AnswersLike otherMiddle.link := by
      apply alike.earlier
      · exact offers_of_run (resting_of_perform paired.resting still performed) restStill continued
      · exact offers_of_run (resting_of_perform paired.otherResting still otherPerformed) restStill
          otherContinued
    rcases paired.perform still performed otherPerformed middleAlike with
      ⟨middlePaired, sameReport, sameSignal⟩
    rcases ih middlePaired restStill continued otherContinued with
      ⟨lastPaired, sameReports, sameSignals⟩
    refine ⟨lastPaired, ?_, ?_⟩
    · rw [List.map_cons, List.map_cons, sameReport, sameReports]
    · rw [List.map_cons, List.map_cons, sameSignal, sameSignals]

omit [PaneHost σ] [PaneHost τ] in
/-- A deck begins without a gesture, and no pane was offered the focus. -/
theorem paired_ofCaptions {capacity : Nat} {captions : List Caption} {metrics : μ} {host : σ}
    {otherHost : τ} {settings : Settings} {mode otherMode : PaneMode}
    (made : ofCaptions capacity captions metrics host { settings with mode } = .ok deck)
    (otherMade : ofCaptions capacity captions metrics otherHost
      { settings with mode := otherMode } = .ok other) : deck.Paired other := by
  simp only [ofCaptions, bind_eq_ok, pure_eq_ok] at made otherMade
  rcases made with ⟨strip, measured, rfl⟩
  rcases otherMade with ⟨otherStrip, otherMeasured, rfl⟩
  have same : (Except.ok strip : Except DeckError Strip) = .ok otherStrip :=
    measured.symm.trans otherMeasured
  cases same
  exact ⟨rfl, rfl, rfl, rfl⟩

end Pairs

/-! ## Sessions -/

section Sessions

variable [FontMetrics μ] [PaneHost σ] {τ : Type} [PaneHost τ]

/-- Two decks stand alike in everything that is navigated: tabs, focus and the area of the panes. -/
structure StandsLike (deck : Deck μ σ) (other : Deck μ τ) : Prop where
  active : deck.active = other.active
  lastActive : deck.lastActive = other.lastActive
  enabled : deck.tabs.map Tab.enabled = other.tabs.map Tab.enabled
  focus : deck.focus = other.focus
  paneRect : deck.paneRect = other.paneRect

omit [FontMetrics μ] [PaneHost σ] [PaneHost τ] in
theorem standsLike_of_navigation {deck : Deck μ σ} {other : Deck μ τ}
    (same : deck.navigation = other.navigation) : deck.StandsLike other where
  active := congrArg Navigation.active same
  lastActive := congrArg Navigation.lastActive same
  enabled := congrArg Navigation.flags same
  focus := congrArg Navigation.focus same
  paneRect := by
    have bounds : deck.bounds = other.bounds := congrArg Navigation.bounds same
    have area : deck.paneArea = other.paneArea := congrArg Navigation.paneArea same
    rw [Deck.paneRect, Deck.paneRect, bounds, area]

/-- A deck that pages and one that flicks are made of the same captions, fonts and settings, and the
same is done with both, but no finger touches them. Then one session breaks off exactly if the
other does, and as long as the panes of both answer offers of the focus alike, the same tabs are
active and enabled, the focus is in the same place and the panes have the same area, and each answer
tells of the same change and of the same move of the focus. As this holds of any list of actions, it
holds after each of them. -/
theorem modes_agree {capacity : Nat} {captions : List Caption} {metrics : μ} {host : σ}
    {otherHost : τ} {settings : Settings} {pages : Deck μ σ} {flicks : Deck μ τ}
    {actions : List Action}
    (madePaged : ofCaptions capacity captions metrics host { settings with mode := .paged } =
      .ok pages)
    (madeFlick : ofCaptions capacity captions metrics otherHost { settings with mode := .flick } =
      .ok flicks)
    (untouched : ∀ action ∈ actions, action.isTouch = false) :
    ((∃ deck, pages.Reaches actions deck) ↔ ∃ other, flicks.Reaches actions other) ∧
      ∀ answers deck otherAnswers other, pages.run actions = .ok (answers, deck) →
        flicks.run actions = .ok (otherAnswers, other) → deck.link.AnswersLike other.link →
          deck.StandsLike other ∧ answers.map reported = otherAnswers.map reported ∧
            answers.map signalled = otherAnswers.map signalled := by
  have paired : pages.Paired flicks := paired_ofCaptions madePaged madeFlick
  constructor
  · have flags := congrArg Navigation.flags paired.navigation
    have count : pages.tabs.length = flicks.tabs.length := by
      rw [← length_navigation_flags, flags, length_navigation_flags]
    rw [(sound_ofCaptions madePaged).reaches_iff, (sound_ofCaptions madeFlick).reaches_iff, count]
  · intro answers deck otherAnswers other ran otherRan alike
    rcases paired.run untouched ran otherRan alike with ⟨last, sameReports, sameSignals⟩
    exact ⟨standsLike_of_navigation last.navigation, sameReports, sameSignals⟩

/-- The deck is placed and focused, a key changes the tab, and another leads into its pane, which
takes the focus and gives it back. Then the tab is disabled. -/
def keysOnly : List Action :=
  [.placeAt ⟨⟨0, 0⟩, ⟨60, 100⟩⟩, .input .focus, .input (.key .right), .input (.key .down), .tick 16,
    .reclaimFocus, .abandon, .enableTab 1 false]

/-- In both modes the last tab is active afterwards. -/
theorem keys_lead_to_last_tab :
    ∃ pages flicks deck other : Deck FixedAdvance DemoPanes, ∃ answers otherAnswers,
      ofCaptions 8 wideImages ⟨6, 7, 10⟩ {} { ({} : Settings) with mode := .paged } = .ok pages ∧
      ofCaptions 8 wideImages ⟨6, 7, 10⟩ {} { ({} : Settings) with mode := .flick } = .ok flicks ∧
      pages.run keysOnly = .ok (answers, deck) ∧ flicks.run keysOnly = .ok (otherAnswers, other) ∧
      deck.link.offers = [true] ∧ other.link.offers = [true] ∧ deck.active = some 2 ∧
      deck.StandsLike other ∧ answers.map reported = otherAnswers.map reported ∧
      answers.map signalled = otherAnswers.map signalled := by
  obtain ⟨pages, deck, answers, madePaged, ran, offers, active⟩ :
      ∃ pages deck : Deck FixedAdvance DemoPanes, ∃ answers,
        ofCaptions 8 wideImages ⟨6, 7, 10⟩ {} { ({} : Settings) with mode := .paged } =
          .ok pages ∧
        pages.run keysOnly = .ok (answers, deck) ∧ deck.link.offers = [true] ∧
        deck.active = some 2 :=
    ⟨_, _, _, rfl, rfl, by decide, by decide⟩
  obtain ⟨flicks, other, otherAnswers, madeFlick, otherRan, otherOffers⟩ :
      ∃ flicks other : Deck FixedAdvance DemoPanes, ∃ answers,
        ofCaptions 8 wideImages ⟨6, 7, 10⟩ {} { ({} : Settings) with mode := .flick } =
          .ok flicks ∧
        flicks.run keysOnly = .ok (answers, other) ∧ other.link.offers = [true] :=
    ⟨_, _, _, rfl, rfl, by decide⟩
  have alike : deck.link.AnswersLike other.link := by
    intro turn granted otherGranted found otherFound
    rw [offers] at found
    rw [otherOffers] at otherFound
    exact Option.some.inj (found.symm.trans otherFound)
  have untouched : ∀ action ∈ keysOnly, action.isTouch = false := by decide
  rcases (modes_agree madePaged madeFlick untouched).2 answers deck otherAnswers other ran otherRan
    alike with ⟨stands, reports, signals⟩
  exact ⟨pages, flicks, deck, other, answers, otherAnswers, madePaged, madeFlick, ran, otherRan,
    offers, otherOffers, active, stands, reports, signals⟩

end Sessions

end Deck

end TabDeck
