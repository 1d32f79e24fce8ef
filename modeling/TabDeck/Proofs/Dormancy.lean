import TabDeck.Proofs.Holding
import TabDeck.Proofs.Resting
import TabDeck.Proofs.StripSteps

/-!
# Disabled decks

A disabled deck ignores events, but it is still told that time passes and that something else took a
gesture over. Nothing comes of that either: disabling a deck lets go of the pressed tab, ends the
gesture and takes the row back, and what a host may do with a disabled deck keeps it so
(`Deck.Calms`).
-/

namespace TabDeck

/-- What is not the host's own doing: fingers and keys, a gesture that something else takes over, and
time. -/
inductive Action.External : Action → Prop where
  | input (event : Input) : External (.input event)
  | abandon : External .abandon
  | tick (elapsed : Nat) : External (.tick elapsed)

namespace Deck

variable {μ σ : Type}

/-- The gesture stays as it is or is forgotten. -/
structure Calms (before after : Deck μ σ) : Prop where
  enabled : after.enabled = before.enabled
  gesture : after.gesture = before.gesture ∨ after.gesture = before.gesture.forget

namespace Calms

variable {before after : Deck μ σ}

theorem refl (deck : Deck μ σ) : deck.Calms deck := ⟨rfl, .inl rfl⟩

theorem trans {first second third : Deck μ σ} (earlier : first.Calms second)
    (later : second.Calms third) : first.Calms third := by
  refine ⟨later.enabled.trans earlier.enabled, ?_⟩
  rcases later.gesture with kept | forgotten
  · rw [kept]
    exact earlier.gesture
  · right
    rcases earlier.gesture with same | forgotBefore
    · rw [forgotten, same]
    · rw [forgotten, forgotBefore, Gesture.forget_forget]

theorem of_served (served : before.Served after) : before.Calms after := by
  rcases served with ⟨_, _, rfl, -⟩
  exact ⟨rfl, .inl rfl⟩

theorem of_restyled (restyled : before.Restyled after) : before.Calms after := by
  rcases restyled with ⟨_, _, _, _, _, _, _, _, rfl, -⟩
  exact ⟨rfl, .inl rfl⟩

variable [PaneHost σ] {deck : Deck μ σ} {outcome : Outcome} {index : Nat}

theorem of_activate (done : deck.activate index = .ok (outcome, after)) : deck.Calms after := by
  rcases activate_eq_ok done with ⟨row, gesture, mid, served, rfl, follows, keeps⟩
  have chosen : deck.Calms { deck.withActive index with row, gesture } := by
    cases flicks : deck.settings.flicks with
    | true => exact ⟨rfl, .inr (follows flicks).2⟩
    | false => exact ⟨rfl, .inl (keeps flicks).2⟩
  exact (chosen.trans (of_served served)).trans (of_restyled (restyled_arrange mid))

theorem of_switched (switched : before.Switched after) : before.Calms after :=
  switched.related refl of_activate

theorem of_showPanes (done : deck.showPanes = .ok after) : deck.Calms after := by
  rcases served_of_showPanes done with ⟨row, served, -, -⟩
  have aligned : deck.Calms { deck with row } := ⟨rfl, .inl rfl⟩
  exact aligned.trans (of_served served)

theorem of_placeAt [FontMetrics μ] {bounds : Rect}
    (done : deck.placeAt bounds = .ok (outcome, after)) : deck.Calms after := by
  rcases placeAt_eq_ok done with ⟨measured, area, row, stripWidth, shown, last, restyled, -, -,
    showed, stays, selects, rfl⟩
  have bounded : deck.Calms { deck with bounds, laidOut := true } := ⟨rfl, .inl rfl⟩
  have fitted : measured.Calms { measured with paneArea := area, row } := ⟨rfl, .inl rfl⟩
  have displayed := (bounded.trans (of_restyled restyled)).trans (fitted.trans (of_showPanes showed))
  have chosen := of_switched (switched_of_placement stays selects)
  exact displayed.trans (chosen.trans (of_restyled (restyled_arrange last)))

theorem of_enableTab {enabled : Bool}
    (done : deck.enableTab index enabled = .ok (outcome, after)) : deck.Calms after := by
  rcases enableTab_eq_ok done with ⟨tabs, toggled, switched⟩
  exact (of_restyled (restyled_tabs (toggled fun _ _ => rfl))).trans (of_switched switched)

theorem of_supplyPane {handle : PaneId}
    (done : deck.supplyPane index handle = .ok (outcome, after)) : deck.Calms after := by
  rcases supplyPane_eq_ok done with rfl | ⟨tab, link, -, rfl, -⟩
  · exact refl after
  · exact ⟨rfl, .inl rfl⟩

omit [PaneHost σ] in
theorem of_relabel [FontMetrics μ] {captions : List Caption}
    (done : deck.relabel captions = .ok (outcome, after)) : deck.Calms after := by
  rcases relabel_eq_ok done with ⟨mid, area, restyled, -, rfl⟩
  have refitted : mid.Calms { mid with paneArea := area } := ⟨rfl, .inl rfl⟩
  exact (of_restyled restyled).trans (refitted.trans (of_restyled (restyled_arrange _)))

theorem of_handleFocus {event : KeyFocus.Event}
    (done : deck.handleFocus event = .ok (outcome, after)) : deck.Calms after := by
  rcases switched_or_served_of_handleFocus done with ⟨focus, switched | served⟩
  · exact (⟨rfl, .inl rfl⟩ : deck.Calms { deck with focus }).trans (of_switched switched)
  · exact (⟨rfl, .inl rfl⟩ : deck.Calms { deck with focus }).trans (of_served served)

end Calms

/-- While a deck is disabled, there is no gesture left to forget. -/
def Unstirred (deck : Deck μ σ) : Prop := deck.enabled = false → deck.gesture.forget = deck.gesture

namespace Unstirred

variable {before after deck : Deck μ σ} {outcome : Outcome}

theorem calms (unstirred : before.Unstirred) (calms : before.Calms after) : after.Unstirred := by
  intro disabled
  have forgotten := unstirred (calms.enabled ▸ disabled)
  rcases calms.gesture with same | forgot
  · rw [same, forgotten]
  · rw [forgot, Gesture.forget_forget]

theorem of_enabled (enabled : deck.enabled = true) : deck.Unstirred := by
  intro disabled
  rw [enabled] at disabled
  cases disabled

variable [PaneHost σ]

/-- Time does nothing to a gesture at rest. -/
theorem tick_of_resting (resting : deck.gesture.phase = .resting) (elapsed : Nat) :
    deck.tick elapsed = .ok (.nothing, deck) := by
  simp only [Deck.tick, Gesture.tick, resting]
  rfl

theorem of_callOff {moved : Bool} (done : deck.callOff = .ok (moved, after)) : after.Unstirred := by
  rcases served_of_callOff done with ⟨_, _, rfl, -⟩
  exact fun _ => rfl

/-- A switch of the active tab does not enable or disable the deck. -/
theorem enabled_of_reselects (reselects : before.Reselects after) :
    after.enabled = before.enabled := by
  rcases reselects with ⟨mid, last, same, switched, again⟩
  calc after.enabled = last.enabled := congrArg StripInputs.enabled again.inputs
    _ = mid.enabled := switched.enabled
    _ = before.enabled := congrArg StripInputs.enabled same.inputs

theorem perform [FontMetrics μ] (unstirred : deck.Unstirred) (coherent : deck.Coherent)
    {action : Action} {answer : Answer} (done : deck.perform action = .ok (answer, after)) :
    after.Unstirred := by
  cases action with
  | showIcons icons =>
    rcases acceptedOr_eq_ok.mp done with ⟨outcome, shown, -⟩ | ⟨_, -, rfl, -⟩
    · exact unstirred.calms (Calms.of_restyled (restyled_of_showIcons shown))
    · exact unstirred
  | relabel captions =>
    rcases acceptedOr_eq_ok.mp done with ⟨outcome, relabelled, -⟩ | ⟨_, -, rfl, -⟩
    · exact unstirred.calms (Calms.of_relabel relabelled)
    · exact unstirred
  | paintTab index colour =>
    cases done
    exact unstirred.calms (Calms.of_restyled (restyled_paintTab deck index colour))
  | usePalette palette =>
    cases done
    exact unstirred
  | placeAt bounds =>
    rcases accepted_eq_ok.mp done with ⟨outcome, placed, -⟩
    exact unstirred.calms (Calms.of_placeAt placed)
  | select index =>
    rcases accepted_eq_ok.mp done with ⟨outcome, selected, -⟩
    exact unstirred.calms (Calms.of_switched (switched_of_select selected))
  | enableTab index enabled =>
    rcases accepted_eq_ok.mp done with ⟨outcome, changed, -⟩
    exact unstirred.calms (Calms.of_enableTab changed)
  | supplyPane index handle =>
    rcases accepted_eq_ok.mp done with ⟨outcome, supplied, -⟩
    exact unstirred.calms (Calms.of_supplyPane supplied)
  | reclaimFocus =>
    rcases accepted_eq_ok.mp done with ⟨outcome, reclaimed, -⟩
    exact unstirred.calms (Calms.of_handleFocus reclaimed)
  | enable enabled =>
    rcases accepted_eq_ok.mp done with ⟨outcome, changed, -⟩
    rcases enable_eq_ok changed with rfl | ⟨mid, -, rfl, opens, closes⟩
    · exact unstirred
    · apply calms _ (Calms.of_restyled (restyled_enableArrows mid enabled))
      cases enabled with
      | true =>
        rw [opens rfl]
        exact of_enabled rfl
      | false =>
        rcases closes rfl with ⟨moved, calledOff⟩
        exact of_callOff calledOff
  | abandon =>
    rcases accepted_eq_ok.mp done with ⟨outcome, abandoned, -⟩
    rcases abandon_eq_ok abandoned with ⟨moved, calledOff⟩
    exact of_callOff calledOff
  | input event =>
    rcases accepted_eq_ok.mp done with ⟨outcome, handled, -⟩
    rcases handle_eq_ok handled with ⟨-, rfl⟩ | ⟨enabled, -⟩
    · exact unstirred
    · exact of_enabled ((enabled_of_reselects (reselects_of_handle handled)).trans enabled)
  | tick elapsed =>
    rcases accepted_eq_ok.mp done with ⟨outcome, ticked, -⟩
    cases enabled : deck.enabled with
    | true => exact of_enabled ((enabled_of_reselects (reselects_of_tick ticked)).trans enabled)
    | false =>
      rw [tick_of_resting (coherent.inert enabled)] at ticked
      cases ticked
      exact unstirred

end Unstirred

/-! ## Nothing comes of what happens to a disabled deck -/

/-- No tab is held, no gesture is under way or can be forgotten, and the row stands where it would go
back to. -/
structure Dormant (deck : Deck μ σ) : Prop where
  released : deck.pressed = none
  resting : deck.gesture.phase = .resting
  level : deck.row.offset = deck.row.remembered
  forgotten : deck.gesture.forget = deck.gesture

namespace Dormant

variable [PaneHost σ] {deck : Deck μ σ}

theorem abandon (dormant : deck.Dormant) : deck.abandon = .ok (.nothing, deck) := by
  have back := PaneRow.goBack_of_level dormant.level
  have still : deck.row.movedFrom deck.row = false := bne_self_eq_false _
  have unpressed : { deck with pressed := none } = deck := by
    rw [← dormant.released]
  simp only [Deck.abandon, unpressed, callOff, Gesture.abandon, dormant.forgotten, back, still,
    dormant.released, Option.isSome_none]
  rfl

theorem perform [FontMetrics μ] (dormant : deck.Dormant) (disabled : deck.enabled = false)
    {action : Action} (external : action.External) :
    deck.perform action = .ok (.ok .nothing, deck) := by
  cases external with
  | input event =>
    have ignored : deck.handle event = .ok (.nothing, deck) := by
      simp only [Deck.handle, disabled, Bool.false_eq_true, if_false]
      rfl
    exact accepted_eq_ok.mpr ⟨.nothing, ignored, rfl⟩
  | abandon => exact accepted_eq_ok.mpr ⟨.nothing, dormant.abandon, rfl⟩
  | tick elapsed =>
    exact accepted_eq_ok.mpr ⟨.nothing, Unstirred.tick_of_resting dormant.resting elapsed, rfl⟩

/-- Nothing comes of any number of them, and the host is asked for nothing. -/
theorem run [FontMetrics μ] (dormant : deck.Dormant) (disabled : deck.enabled = false)
    {actions : List Action} (external : ∀ action ∈ actions, action.External) :
    deck.run actions = .ok (actions.map fun _ => .ok .nothing, deck) := by
  induction actions with
  | nil => rfl
  | cons action rest ih =>
    rw [List.forall_mem_cons] at external
    exact run_cons_eq_ok.mpr ⟨.ok .nothing, deck, _, dormant.perform disabled external.1,
      ih external.2, rfl⟩

end Dormant

section Sessions

variable [FontMetrics μ] [PaneHost σ] {capacity : Nat} {captions : List Caption} {metrics : μ}
  {host : σ} {settings : Settings} {start deck : Deck μ σ} {actions : List Action}

theorem Reaches.unstirred (reached : start.Reaches actions deck) (coherent : start.Coherent)
    (unstirred : start.Unstirred) : deck.Unstirred := by
  apply reaches_induction unstirred _ reached
  intro _ before action answer after reachedBefore earlier performed
  exact earlier.perform (reachedBefore.coherent coherent) performed

theorem Reaches.dormant (reached : start.Reaches actions deck)
    (made : ofCaptions capacity captions metrics host settings = .ok start)
    (disabled : deck.enabled = false) : deck.Dormant := by
  have coherent := coherent_ofCaptions made
  have unstirred : start.Unstirred := by
    rcases ofCaptions_eq_ok made with ⟨-, tabs, strip, -, rfl⟩
    exact Unstirred.of_enabled rfl
  rcases (reached.poised coherent (poised_ofCaptions made)).dormant disabled with ⟨released, level⟩
  exact ⟨released, (reached.coherent coherent).inert disabled, level,
    reached.unstirred coherent unstirred disabled⟩

/-- However a deck came to be disabled, and whatever its host did with it since, no tab is held, no
gesture is under way and the row stands where it would go back to. Nothing that happens to the deck
changes it or is told until it is enabled again. -/
theorem disabled_deck_is_dormant
    (made : ofCaptions capacity captions metrics host settings = .ok start)
    (reached : start.Reaches actions deck) (disabled : deck.enabled = false) :
    deck.pressed = none ∧ deck.gesture.phase = .resting ∧ deck.row.offset = deck.row.remembered ∧
      ∀ further : List Action, (∀ action ∈ further, action.External) →
        deck.run further = .ok (further.map fun _ => .ok .nothing, deck) := by
  have dormant := reached.dormant made disabled
  refine ⟨dormant.released, dormant.resting, dormant.level, ?_⟩
  intro further external
  exact dormant.run disabled external

end Sessions

/-- A deck that is disabled in the middle of a drag. Its host goes on with it. -/
def interruptedDrag : List Action :=
  [.placeAt ⟨⟨0, 0⟩, ⟨100, 80⟩⟩, .input (.press ⟨50, 50⟩), .input (.drag ⟨10, 50⟩ ⟨-40, 0⟩ 16),
    .enable false, .select 2, .placeAt ⟨⟨0, 0⟩, ⟨60, 40⟩⟩]

/-- The rest of the drag, and time for the panes to settle. -/
def restOfDrag : List Action :=
  [.input (.drag ⟨0, 50⟩ ⟨-10, 0⟩ 32), .input (.release ⟨0, 50⟩), .tick 400, .abandon]

theorem rest_of_drag_is_ignored :
    ∃ start deck : Deck FixedAdvance DemoPanes,
      ofCaptions 8 fourImages ⟨6, 7, 10⟩ {} .touchscreen = .ok start ∧
      start.Reaches interruptedDrag deck ∧ deck.enabled = false ∧ deck.active = some 2 ∧
      deck.row.offset = -120 ∧
      deck.run restOfDrag = .ok (List.replicate 4 (.ok .nothing), deck) := by
  obtain ⟨start, deck, made, reached, disabled, active, offset⟩ :
      ∃ start deck : Deck FixedAdvance DemoPanes,
        ofCaptions 8 fourImages ⟨6, 7, 10⟩ {} .touchscreen = .ok start ∧
        start.Reaches interruptedDrag deck ∧ deck.enabled = false ∧ deck.active = some 2 ∧
        deck.row.offset = -120 :=
    ⟨_, _, rfl, ⟨_, rfl⟩, rfl, rfl, rfl⟩
  have external : ∀ action ∈ restOfDrag, action.External := by
    intro action member
    simp only [restOfDrag, List.mem_cons, List.not_mem_nil, or_false] at member
    rcases member with rfl | rfl | rfl | rfl <;> constructor
  have ⟨_, _, _, ignored⟩ := disabled_deck_is_dormant made reached disabled
  exact ⟨start, deck, made, reached, disabled, active, offset, ignored restOfDrag external⟩

end Deck

end TabDeck
