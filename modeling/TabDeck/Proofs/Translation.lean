import TabDeck.Proofs.Lockstep
import TabDeck.Proofs.StripGeometry

/-!
# Decks at another place

What a deck does is independent of where it is. Two decks whose bounds lie apart by a displacement,
and whose touches do too, go through the same states, give the same answers but for the regions to
paint, and ask their hosts for the same but for the places (`Deck.session_translated`). Before it
has bounds a deck is nowhere, so that a session begins with a placement. The hosts have to answer
alike wherever their panes are, as those of the simulator do.
-/

namespace TabDeck

namespace Deck

variable {μ σ τ : Type} {offset : Point} {related : σ → τ → Prop} {deck : Deck μ σ}
  {moved : Deck μ τ}

/-- The same outcome at different places, and decks that differ in their places. -/
inductive RepliesAlike (offset : Point) (related : σ → τ → Prop) :
    Outcome × Deck μ σ → Outcome × Deck μ τ → Prop where
  | intro (outcome : Outcome) {deck : Deck μ σ} {moved : Deck μ τ}
      (relocated : Relocated offset related deck moved) :
      RepliesAlike offset related (outcome, deck) (outcome.shiftBy offset, moved)

theorem RepliesAlike.of_eq {outcome also : Outcome} (same : also = outcome.shiftBy offset)
    (relocated : Relocated offset related deck moved) :
    RepliesAlike offset related (outcome, deck) (also, moved) := by
  subst same
  exact .intro outcome relocated

theorem Relocated.finish {outcome also : Outcome} (relocated : Relocated offset related deck moved)
    (same : also = outcome.shiftBy offset) :
    InStep (RepliesAlike offset related) (deck.finish outcome) (moved.finish also) :=
  .ended (.of_eq same relocated)

section Operations

variable [PaneHost σ] [PaneHost τ] (hosts : HostsAlike offset related)
  (relocated : Relocated offset related deck moved) (index : Nat)

include hosts relocated

theorem inStep_exchangePanes (previous : Option Nat) :
    InStep (Relocated offset related) (deck.exchangePanes previous index)
      (moved.exchangePanes previous index) := by
  cases previous with
  | none => exact inStep_mountPane hosts relocated index
  | some previous =>
    exact (inStep_unmountPane hosts relocated previous).bind fun _ _ later =>
      inStep_mountPane hosts later index

theorem inStep_bringIntoView :
    InStep (Relocated offset related) (deck.bringIntoView index) (moved.bringIntoView index) := by
  rcases relocated with ⟨link, links, rfl⟩
  simp only [bringIntoView, alignRow, relocate_row, bind_assoc]
  apply InStep.bind_same
  intro row
  exact inStep_moveAll hosts ⟨link, links, rfl⟩

theorem inStep_activate :
    InStep (RepliesAlike offset related) (deck.activate index) (moved.activate index) := by
  rcases relocated with ⟨link, links, rfl⟩
  have start : Relocated offset related deck (deck.relocate offset link) := ⟨link, links, rfl⟩
  simp only [activate, relocate_settings, relocate_laidOut, relocate_active]
  refine .ite (.bind (inStep_exchangePanes hosts start index _) ?follow)
    (.bind (.ended start) ?follow)
  rintro shown _ ⟨link, links, rfl⟩
  simp only [relocate_settings]
  have chosen : Relocated offset related
      ({ shown with lastActive := deck.active, active := some index, pressed := none } : Deck μ σ)
      ({ shown.relocate offset link with
        lastActive := deck.active, active := some index, pressed := none } : Deck μ τ) :=
    ⟨link, links, rfl⟩
  refine .ite (.bind (inStep_bringIntoView hosts chosen index) ?paint)
    (.bind (.ended chosen) ?paint)
  intro _ _ followed
  have painted := followed.arrange.repaintAll
  exact followed.arrange.finish (by rw [painted]; rfl)

theorem inStep_select :
    InStep (RepliesAlike offset related) (deck.select index) (moved.select index) := by
  have activated := inStep_activate hosts relocated index
  rcases relocated with ⟨link, links, rfl⟩
  simp only [select, relocate_tabs, relocate_active]
  exact .ite (Relocated.finish ⟨link, links, rfl⟩ rfl) activated

theorem inStep_thenSelect (outcome : Outcome) :
    InStep (RepliesAlike offset related) (deck.thenSelect outcome index)
      (moved.thenSelect (outcome.shiftBy offset) index) := by
  apply (inStep_select hosts relocated index).bind
  rintro _ _ ⟨selection, later⟩
  exact later.finish (Outcome.shiftBy_andThen ..).symm

theorem inStep_showPanes :
    InStep (Relocated offset related) deck.showPanes moved.showPanes := by
  have all := inStep_mountAll hosts relocated
  have one (active : Nat) := inStep_mountPane hosts relocated active
  rcases relocated with ⟨link, links, rfl⟩
  simp only [showPanes, alignRow, relocate_settings, relocate_active, relocate_row, bind_assoc]
  apply InStep.ite
  · cases deck.active with
    | none => exact all
    | some active =>
      apply InStep.bind_same
      intro row
      exact inStep_mountAll hosts ⟨link, links, rfl⟩
  · cases deck.active with
    | none => exact .ended ⟨link, links, rfl⟩
    | some active => exact one active

omit relocated in
/-- Placing a deck relocates it, wherever it was. -/
theorem inStep_placeAt [FontMetrics μ] {link : PaneLink τ}
    (links : LinksAlike offset related deck.link link) (anywhere bounds : Rect) :
    InStep (RepliesAlike offset related) (deck.placeAt bounds)
      (({ deck with bounds := anywhere, link } : Deck μ τ).placeAt (bounds.shiftBy offset)) := by
  have placed : Relocated offset related ({ deck with bounds, laidOut := true } : Deck μ σ)
      ({ deck with bounds := bounds.shiftBy offset, laidOut := true, link } : Deck μ τ) :=
    ⟨link, links, rfl⟩
  have fits := placed.remeasure.refitPanes
  simp only [placeAt]
  generalize ({ deck with bounds, laidOut := true } : Deck μ σ).remeasure.refitPanes = fitted
    at fits ⊢
  generalize ({ deck with
    bounds := bounds.shiftBy offset, laidOut := true, link } : Deck μ τ).remeasure.refitPanes =
      moved at fits ⊢
  rcases fits with ⟨link, links, rfl⟩
  rw [relocate_row, relocate_tabs, relocate_wantedWidth, Rect.shiftBy_size]
  apply InStep.bind_same
  intro row
  have resized : Relocated offset related ({ fitted with row } : Deck μ σ)
      ({ fitted.relocate offset link with row } : Deck μ τ) := ⟨link, links, rfl⟩
  apply (inStep_showPanes hosts resized).bind
  rintro shown _ ⟨link, links, rfl⟩
  have start : Relocated offset related shown (shown.relocate offset link) := ⟨link, links, rfl⟩
  simp only [relocate_active, relocate_repaintAll, relocate_disabledFlags]
  cases shown.active with
  | none =>
    apply (inStep_thenSelect hosts start _ _).bind
    rintro _ _ ⟨outcome, later⟩
    exact later.arrange.finish rfl
  | some active =>
    apply (start.finish rfl).bind
    rintro _ _ ⟨outcome, later⟩
    exact later.arrange.finish rfl

theorem inStep_enableTab (enabled : Bool) :
    InStep (RepliesAlike offset related) (deck.enableTab index enabled)
      (moved.enableTab index enabled) := by
  rcases relocated with ⟨link, links, rfl⟩
  simp only [enableTab, relocate_tabs]
  cases deck.tabs[index]? with
  | none => exact Relocated.finish ⟨link, links, rfl⟩ rfl
  | some tab =>
    have toggled : Relocated offset related
        ({ deck with tabs := deck.tabs.set index { tab with enabled } } : Deck μ σ)
        ({ deck.relocate offset link with
          tabs := deck.tabs.set index { tab with enabled } } : Deck μ τ) :=
      ⟨link, links, rfl⟩
    exact .ite (Relocated.finish ⟨link, links, rfl⟩ rfl)
      (.ite (inStep_thenSelect hosts toggled _ _) (toggled.finish rfl))

theorem inStep_supplyPane (handle : PaneId) :
    InStep (RepliesAlike offset related) (deck.supplyPane index handle)
      (moved.supplyPane index handle) := by
  rcases relocated with ⟨link, links, rfl⟩
  simp only [supplyPane, relocate_tabs]
  cases deck.tabs[index]? with
  | none => exact Relocated.finish ⟨link, links, rfl⟩ rfl
  | some tab =>
    have filled : Relocated offset related
        ({ deck with tabs := deck.tabs.set index { tab with pane := some handle } } : Deck μ σ)
        ({ deck.relocate offset link with
          tabs := deck.tabs.set index { tab with pane := some handle } } : Deck μ τ) :=
      ⟨link, links, rfl⟩
    refine .ite ?_ (filled.finish rfl)
    cases tab.pane with
    | none =>
      have mounted := links.mount hosts handle (deck.paneBounds index)
      rw [← relocate_paneBounds deck offset link] at mounted
      exact Relocated.finish ⟨_, mounted, rfl⟩ (relocate_repaintPanes deck offset link)
    | some previous =>
      have mounted := (links.unmount hosts previous).mount hosts handle (deck.paneBounds index)
      rw [← relocate_paneBounds deck offset link] at mounted
      exact Relocated.finish ⟨_, mounted, rfl⟩ (relocate_repaintPanes deck offset link)

theorem inStep_callOff :
    InStep (SameFirst (Relocated offset related)) deck.callOff moved.callOff := by
  rcases relocated with ⟨link, links, rfl⟩
  have later (gesture : Gesture) (row : PaneRow) :
      Relocated offset related ({ deck with gesture, row } : Deck μ σ)
        ({ deck.relocate offset link with gesture, row } : Deck μ τ) :=
    ⟨link, links, rfl⟩
  simp only [callOff, relocate_gesture, relocate_row]
  refine .ite (.bind (inStep_moveAll hosts (later ..)) ?done) (.bind (.ended (later ..)) ?done)
  intro _ _ last
  exact .ended (.intro _ last)

theorem inStep_enable (enabled : Bool) :
    InStep (RepliesAlike offset related) (deck.enable enabled) (moved.enable enabled) := by
  rcases relocated with ⟨link, links, rfl⟩
  simp only [enable, relocate_enabled]
  apply InStep.ite
  · exact Relocated.finish ⟨link, links, rfl⟩ rfl
  · have later : Relocated offset related ({ deck with enabled, pressed := none } : Deck μ σ)
      ({ deck.relocate offset link with enabled, pressed := none } : Deck μ τ) := ⟨link, links, rfl⟩
    refine .ite (.bind (.ended later) ?done) (.bind (.bind (inStep_callOff hosts later) ?_) ?done)
    · rintro _ _ ⟨link, links, rfl⟩
      exact Relocated.finish ⟨link, links, rfl⟩ rfl
    · rintro _ _ ⟨_, called⟩
      exact .ended called

theorem inStep_abandon :
    InStep (RepliesAlike offset related) deck.abandon moved.abandon := by
  rcases relocated with ⟨link, links, rfl⟩
  have released : Relocated offset related ({ deck with pressed := none } : Deck μ σ)
      ({ deck.relocate offset link with pressed := none } : Deck μ τ) := ⟨link, links, rfl⟩
  simp only [abandon, relocate_pressed]
  apply (inStep_callOff hosts released).bind
  rintro _ _ ⟨hasMoved, later⟩
  rcases later with ⟨link, links, rfl⟩
  apply Relocated.finish ⟨link, links, rfl⟩
  simp only [relocate_repaintAll, apply_ite (Outcome.shiftBy · offset), Outcome.shiftBy_nothing]
  rfl

theorem inStep_tick (elapsed : Nat) :
    InStep (RepliesAlike offset related) (deck.tick elapsed) (moved.tick elapsed) := by
  rcases relocated with ⟨link, links, rfl⟩
  simp only [tick, relocate_gesture, relocate_row]
  apply InStep.bind_same
  rintro ⟨step, gesture, row⟩
  have later : Relocated offset related ({ deck with gesture, row } : Deck μ σ)
      ({ deck.relocate offset link with gesture, row } : Deck μ τ) := ⟨link, links, rfl⟩
  cases step with
  | idle => exact Relocated.finish ⟨link, links, rfl⟩ rfl
  | moving =>
    apply (inStep_moveAll hosts later).bind
    rintro _ _ ⟨link, links, rfl⟩
    exact Relocated.finish ⟨link, links, rfl⟩ (relocate_repaintPanes ..)
  | arrived target =>
    apply (inStep_moveAll hosts later).bind
    rintro _ _ ⟨link, links, rfl⟩
    rw [relocate_repaintPanes]
    exact inStep_thenSelect hosts ⟨link, links, rfl⟩ _ _

/-! ## Keys -/

omit index in
theorem inStep_enterPane (forward : Bool) :
    InStep (RepliesAlike offset related) (deck.enterPane forward) (moved.enterPane forward) := by
  have asked (active : Nat) := inStep_paneOf hosts relocated active
  rcases relocated with ⟨link, links, rfl⟩
  simp only [enterPane, relocate_active]
  cases deck.active with
  | none => exact Relocated.finish ⟨link, links, rfl⟩ rfl
  | some active =>
    apply (asked active).bind
    rintro _ _ ⟨handle, link, links, rfl⟩
    rcases links.takeFocus hosts handle forward with ⟨same, later⟩
    simp only [relocate_link, same]
    exact .ite (Relocated.finish ⟨_, later, rfl⟩ rfl) (Relocated.finish ⟨_, later, rfl⟩ rfl)

omit index in
theorem inStep_followFocus (task : KeyFocus.Task) :
    InStep (RepliesAlike offset related) (deck.followFocus task) (moved.followFocus task) := by
  have same : moved.active = deck.active ∧ moved.blockedFlags = deck.blockedFlags := by
    rcases relocated with ⟨link, links, rfl⟩
    exact ⟨rfl, rfl⟩
  cases task with
  | nothing => exact relocated.finish rfl
  | changeTab forward =>
    simp only [followFocus, same]
    exact inStep_thenSelect hosts relocated _ .usedUp
  | enterPane forward => exact inStep_enterPane hosts relocated forward
  | reclaim => exact relocated.finish rfl
  | release => exact relocated.finish rfl

omit index in
theorem inStep_handleFocus (event : KeyFocus.Event) :
    InStep (RepliesAlike offset related) (deck.handleFocus event) (moved.handleFocus event) := by
  rcases relocated with ⟨link, links, rfl⟩
  simp only [handleFocus, relocate_settings, relocate_focus]
  refine .ite ?_ (Relocated.finish ⟨link, links, rfl⟩ rfl)
  rcases deck.focus.respond event deck.settings.edge with ⟨focus, task⟩
  have told : Relocated offset related ({ deck with focus } : Deck μ σ)
      ({ deck.relocate offset link with focus } : Deck μ τ) := ⟨link, links, rfl⟩
  apply (inStep_followFocus hosts told task).bind
  rintro _ _ ⟨outcome, link, links, rfl⟩
  apply Relocated.finish ⟨link, links, rfl⟩
  simp only [relocate_focus, apply_ite (Outcome.shiftBy · offset), Outcome.shiftBy_andThen,
    relocate_repaintStrip]

/-! ## Fingers -/

omit index in
theorem inStep_tapArrow (forward : Bool) :
    InStep (RepliesAlike offset related) (deck.tapArrow forward) (moved.tapArrow forward) := by
  have same : moved.active = deck.active ∧ moved.blockedFlags = deck.blockedFlags := by
    rcases relocated with ⟨link, links, rfl⟩
    exact ⟨rfl, rfl⟩
  simp only [tapArrow, same]
  apply (inStep_select hosts relocated _).bind
  rintro _ _ ⟨outcome, later⟩
  exact later.finish rfl

theorem inStep_tapOpenTab :
    InStep (RepliesAlike offset related) (deck.tapOpenTab index) (moved.tapOpenTab index) := by
  have selected (outcome : Outcome) := inStep_thenSelect hosts relocated index outcome
  rcases relocated with ⟨link, links, rfl⟩
  simp only [tapOpenTab, relocate_settings, relocate_stripBand]
  cases deck.settings.style with
  | classic => exact selected _
  | material => exact Relocated.finish ⟨link, links, rfl⟩ rfl

theorem inStep_tapTab :
    InStep (RepliesAlike offset related) (deck.tapTab index) (moved.tapTab index) := by
  have opened := inStep_tapOpenTab hosts relocated index
  rcases relocated with ⟨link, links, rfl⟩
  have start : Relocated offset related deck (deck.relocate offset link) := ⟨link, links, rfl⟩
  simp only [tapTab, relocate_active, relocate_isBlocked]
  apply InStep.ite (start.finish rfl)
  apply InStep.bind_same
  intro blocked
  exact .ite (start.finish rfl) opened

omit hosts index [PaneHost σ] [PaneHost τ] in
theorem Relocated.beginGesture (point : Point) :
    Relocated offset related (deck.beginGesture point) (moved.beginGesture point) := by
  rcases relocated with ⟨link, links, rfl⟩
  cases flicks : deck.settings.flicks with
  | true =>
    simp only [Deck.beginGesture, relocate_settings, flicks, if_true]
    exact ⟨link, links, rfl⟩
  | false =>
    simp only [Deck.beginGesture, relocate_settings, flicks, Bool.false_eq_true, if_false]
    exact ⟨link, links, rfl⟩

omit index in
/-- Two fingers come down at the same place of either deck. -/
theorem inStep_press {touch also : Touch} (shifted : also.point = touch.point + offset) :
    InStep (RepliesAlike offset related) (deck.press touch) (moved.press also) := by
  have begun (point : Point) := relocated.beginGesture point
  have point : also.point - moved.bounds.origin = touch.point - deck.bounds.origin := by
    rcases relocated with ⟨link, links, rfl⟩
    rw [shifted]
    exact Point.add_sub_add_right ..
  simp only [press, point]
  generalize touch.point - deck.bounds.origin = point at begun ⊢
  have start := begun point
  have same : (moved.beginGesture point).arrowAt point = (deck.beginGesture point).arrowAt point ∧
      (moved.beginGesture point).stripLimit = (deck.beginGesture point).stripLimit ∧
      (moved.beginGesture point).tabAt point = (deck.beginGesture point).tabAt point := by
    rcases begun point with ⟨link, links, isMoved⟩
    rw [isMoved]
    exact ⟨rfl, rfl, rfl⟩
  simp only [same]
  cases (deck.beginGesture point).arrowAt point with
  | some forward => exact inStep_tapArrow hosts start forward
  | none =>
    apply InStep.ite (start.finish rfl)
    cases (deck.beginGesture point).tabAt point with
    | some index => exact inStep_tapTab hosts start index
    | none => exact start.finish rfl

omit index in
theorem inStep_drag (movement : Point) (time : Nat) :
    InStep (RepliesAlike offset related) (deck.drag movement time) (moved.drag movement time) := by
  rcases relocated with ⟨link, links, rfl⟩
  have start : Relocated offset related deck (deck.relocate offset link) := ⟨link, links, rfl⟩
  simp only [drag, relocate_settings, relocate_active, relocate_gesture, relocate_row,
    relocate_blockedFlags]
  cases deck.settings.mode with
  | paged => exact start.finish rfl
  | flick =>
    cases deck.active with
    | none => exact start.finish rfl
    | some active =>
      apply InStep.bind_same
      rintro ⟨taken, gesture, row⟩
      have later : Relocated offset related
          ({ deck with active := some active, gesture, row } : Deck μ σ)
          ({ deck.relocate offset link with active := some active, gesture, row } : Deck μ τ) :=
        ⟨link, links, rfl⟩
      have released : Relocated offset related
          ({ deck with active := some active, gesture, row, pressed := none } : Deck μ σ)
          ({ deck.relocate offset link with
            active := some active, gesture, row, pressed := none } : Deck μ τ) :=
        ⟨link, links, rfl⟩
      refine .ite (.bind (inStep_moveAll hosts released) ?_) (later.finish rfl)
      intro _ _ last
      apply last.finish
      have painted : (if deck.pressed.isSome then (deck.relocate offset link).repaintAll
            else (deck.relocate offset link).repaintPanes) =
          (if deck.pressed.isSome then deck.repaintAll else deck.repaintPanes).shiftBy offset := by
        simp only [relocate_repaintAll, relocate_repaintPanes, apply_ite (Outcome.shiftBy · offset)]
      exact congrArg (fun outcome => { outcome with consumed := true }) painted

omit index hosts [PaneHost σ] [PaneHost τ] in
theorem inStep_letGo (outcome : Outcome) :
    RepliesAlike offset related (deck.letGo outcome) (moved.letGo (outcome.shiftBy offset)) := by
  rcases relocated with ⟨link, links, rfl⟩
  simp only [letGo, relocate_settings, relocate_gesture, relocate_row]
  refine related_ite (related_ite ?_ (.intro outcome ⟨link, links, rfl⟩))
    (.intro outcome ⟨link, links, rfl⟩)
  have painted : ({ outcome.shiftBy offset with consumed := true } : Outcome).andThen
        (deck.relocate offset link).repaintPanes =
      (({ outcome with consumed := true } : Outcome).andThen deck.repaintPanes).shiftBy offset := by
    rw [relocate_repaintPanes, Outcome.shiftBy_andThen]
    rfl
  exact .of_eq painted ⟨link, links, rfl⟩

omit index in
theorem inStep_release :
    InStep (RepliesAlike offset related) deck.release moved.release := by
  rcases relocated with ⟨link, links, rfl⟩
  have released : Relocated offset related ({ deck with pressed := none } : Deck μ σ)
      ({ deck.relocate offset link with pressed := none } : Deck μ τ) := ⟨link, links, rfl⟩
  simp only [release, relocate_pressed, relocate_gesture]
  cases deck.pressed with
  | none =>
    apply (released.finish rfl).bind
    rintro _ _ ⟨outcome, later⟩
    exact .ended (inStep_letGo later outcome)
  | some index =>
    refine .ite (.bind (released.finish rfl) ?settle)
      (.bind (inStep_select hosts released index) ?settle)
    rintro _ _ ⟨outcome, later⟩
    exact .ended (inStep_letGo later outcome)

end Operations

/-! ## Sessions -/

end Deck

/-- Whether the action says where something is on the display. -/
def Action.isPlaced : Action → Bool
  | .placeAt _ | .input (.press _) | .input (.drag _ _ _) | .input (.release _) => true
  | _ => false

/-- The same action at another place. Of a drag only the movement and the time count. -/
inductive Action.Shifted (offset : Point) : Action → Action → Prop where
  | placeAt (bounds : Rect) : Shifted offset (.placeAt bounds) (.placeAt (bounds.shiftBy offset))
  | press {touch also : Touch} (shifted : also.point = touch.point + offset) :
      Shifted offset (.input (.press touch)) (.input (.press also))
  | drag (touch also : Touch) (movement : Point) (time : Nat) :
      Shifted offset (.input (.drag touch movement time)) (.input (.drag also movement time))
  | release {touch also : Touch} (shifted : also.point = touch.point + offset) :
      Shifted offset (.input (.release touch)) (.input (.release also))
  | unplaced (action : Action) (unplaced : action.isPlaced = false) : Shifted offset action action

namespace Deck

/-- The same answer at another place. -/
def Answer.shiftBy (answer : Answer) (offset : Point) : Answer :=
  answer.map fun outcome => outcome.shiftBy offset

/-- The same answer at different places, and decks that differ in their places. -/
inductive AnswersAlike {μ σ τ : Type} (offset : Point) (related : σ → τ → Prop) :
    Answer × Deck μ σ → Answer × Deck μ τ → Prop where
  | intro (answer : Answer) {deck : Deck μ σ} {moved : Deck μ τ}
      (relocated : Relocated offset related deck moved) :
      AnswersAlike offset related (answer, deck) (Answer.shiftBy answer offset, moved)

variable {μ σ τ : Type} {offset : Point} {related : σ → τ → Prop} {deck : Deck μ σ}
  {moved : Deck μ τ}

theorem inStep_accepted {result : Except Fault (Outcome × Deck μ σ)}
    {also : Except Fault (Outcome × Deck μ τ)}
    (replies : InStep (RepliesAlike offset related) result also) :
    InStep (AnswersAlike offset related) (accepted result) (accepted also) := by
  apply replies.bind
  rintro _ _ ⟨outcome, later⟩
  exact .ended (.intro (.ok outcome) later)

theorem inStep_acceptedOr {result : Except DeckError (Outcome × Deck μ σ)}
    {also : Except DeckError (Outcome × Deck μ τ)}
    (relocated : Relocated offset related deck moved)
    (replies : InStep (RepliesAlike offset related) result also) :
    InStep (AnswersAlike offset related) (deck.acceptedOr result) (moved.acceptedOr also) := by
  cases replies with
  | ended relates =>
    rcases relates with ⟨outcome, later⟩
    exact .ended (.intro (.ok outcome) later)
  | brokenOff refusal => exact .ended (.intro (.error refusal) relocated)

section Labels

variable [FontMetrics μ] (relocated : Relocated offset related deck moved)

include relocated

theorem inStep_showIcons (icons : List Image) :
    InStep (RepliesAlike offset related) (deck.showIcons icons) (moved.showIcons icons) := by
  rcases relocated with ⟨link, links, rfl⟩
  have labelled (tabs : List Tab) : Relocated offset related
      ({ deck with tabs, hasIcons := true } : Deck μ σ)
      ({ deck.relocate offset link with tabs, hasIcons := true } : Deck μ τ) := ⟨link, links, rfl⟩
  simp only [showIcons, relocate_tabs]
  have arranged := (labelled (List.zipWith (fun tab icon => { tab with icon := some icon })
    deck.tabs icons)).remeasure.arrange
  exact .ite (.ended (.of_eq arranged.repaintAll arranged)) (.brokenOff _)

theorem inStep_relabel (captions : List Caption) :
    InStep (RepliesAlike offset related) (deck.relabel captions) (moved.relabel captions) := by
  rcases relocated with ⟨link, links, rfl⟩
  have labelled (tabs : List Tab) : Relocated offset related ({ deck with tabs } : Deck μ σ)
      ({ deck.relocate offset link with tabs } : Deck μ τ) := ⟨link, links, rfl⟩
  have capacity : (deck.relocate offset link).capacity = deck.capacity := rfl
  simp only [relabel, relocate_tabs, capacity]
  refine .ite ?_ (.brokenOff _)
  apply InStep.bind_same
  intro _
  have arranged := (labelled (List.zipWith (fun tab caption => { tab with caption }) deck.tabs
    captions)).remeasure.refitPanes.arrange
  exact .ended (.of_eq arranged.repaintAll arranged)

end Labels

theorem Relocated.paintTab (relocated : Relocated offset related deck moved) (index : Nat)
    (colour : Option Colour) :
    RepliesAlike offset related (deck.paintTab index colour) (moved.paintTab index colour) := by
  rcases relocated with ⟨link, links, rfl⟩
  simp only [Deck.paintTab, relocate_tabs]
  cases deck.tabs[index]? with
  | none => exact .of_eq rfl ⟨link, links, rfl⟩
  | some tab => exact .of_eq rfl ⟨link, links, rfl⟩

theorem Relocated.usePalette (relocated : Relocated offset related deck moved)
    (palette : Palette) :
    RepliesAlike offset related (deck.usePalette palette) (moved.usePalette palette) := by
  rcases relocated with ⟨link, links, rfl⟩
  exact .of_eq rfl ⟨link, links, rfl⟩

section Steps

variable [FontMetrics μ] [PaneHost σ] [PaneHost τ] (hosts : HostsAlike offset related)
  (relocated : Relocated offset related deck moved)

include hosts relocated

omit [FontMetrics μ] in
theorem inStep_handle {event also : Input}
    (shifted : (Action.input event).Shifted offset (.input also)) :
    InStep (RepliesAlike offset related) (deck.handle event) (moved.handle also) := by
  have same : moved.enabled = deck.enabled := by
    rcases relocated with ⟨link, links, rfl⟩
    rfl
  simp only [handle, same]
  refine .ite ?_ (relocated.finish rfl)
  cases shifted with
  | press shifted => exact inStep_press hosts relocated shifted
  | drag touch also movement time => exact inStep_drag hosts relocated movement time
  | release shifted => exact inStep_release hosts relocated
  | unplaced _ unplaced =>
    cases event with
    | press touch => cases unplaced
    | drag touch movement time => cases unplaced
    | release touch => cases unplaced
    | abandon => exact inStep_abandon hosts relocated
    | key direction => exact inStep_handleFocus hosts relocated (.key direction)
    | action => exact inStep_handleFocus hosts relocated .action
    | focus => exact inStep_handleFocus hosts relocated .enter

theorem inStep_perform {action also : Action} (shifted : action.Shifted offset also) :
    InStep (AnswersAlike offset related) (deck.perform action) (moved.perform also) := by
  cases shifted with
  | placeAt bounds =>
    rcases relocated with ⟨link, links, rfl⟩
    exact inStep_accepted (inStep_placeAt hosts links _ bounds)
  | press shifted => exact inStep_accepted (inStep_handle hosts relocated (.press shifted))
  | drag touch also movement time =>
    exact inStep_accepted (inStep_handle hosts relocated (.drag touch also movement time))
  | release shifted => exact inStep_accepted (inStep_handle hosts relocated (.release shifted))
  | unplaced action unplaced =>
    cases action with
    | placeAt bounds => cases unplaced
    | input event => exact inStep_accepted (inStep_handle hosts relocated (.unplaced _ unplaced))
    | select index => exact inStep_accepted (inStep_select hosts relocated index)
    | enableTab index enabled =>
      exact inStep_accepted (inStep_enableTab hosts relocated index enabled)
    | supplyPane index handle =>
      exact inStep_accepted (inStep_supplyPane hosts relocated index handle)
    | showIcons icons => exact inStep_acceptedOr relocated (inStep_showIcons relocated icons)
    | relabel captions => exact inStep_acceptedOr relocated (inStep_relabel relocated captions)
    | enable enabled => exact inStep_accepted (inStep_enable hosts relocated enabled)
    | paintTab index colour => exact inStep_accepted (.ended (relocated.paintTab index colour))
    | usePalette palette => exact inStep_accepted (.ended (relocated.usePalette palette))
    | abandon => exact inStep_accepted (inStep_abandon hosts relocated)
    | reclaimFocus => exact inStep_accepted (inStep_handleFocus hosts relocated .paneExhausted)
    | tick elapsed => exact inStep_accepted (inStep_tick hosts relocated elapsed)

/-- Sessions with the same actions at different places go the same way. -/
theorem inStep_run {actions also : List Action}
    (shifted : List.Forall₂ (Action.Shifted offset) actions also) :
    InStep (fun ran moved => moved.1 = ran.1.map (fun answer => Answer.shiftBy answer offset) ∧
        Relocated offset related ran.2 moved.2)
      (deck.run actions) (moved.run also) := by
  induction shifted generalizing deck moved with
  | nil => exact .ended ⟨rfl, relocated⟩
  | cons first _ ih =>
    apply (inStep_perform hosts relocated first).bind
    rintro _ _ ⟨answer, later⟩
    apply (ih later).bind
    rintro ⟨answers, after⟩ ⟨_, moved⟩ ⟨rfl, last⟩
    exact .ended ⟨rfl, last⟩

end Steps

/-- Everything that can be read from a deck is the same for the other one, at another place. -/
structure Translated (offset : Point) (deck : Deck μ σ) (moved : Deck μ τ) : Prop where
  active : moved.active = deck.active
  lastActive : moved.lastActive = deck.lastActive
  pressed : moved.pressed = deck.pressed
  focus : moved.focus = deck.focus
  row : moved.row = deck.row
  gesture : moved.gesture = deck.gesture
  tabRects : ∀ index,
    moved.tabRect index = (deck.tabRect index).map fun rect => rect.shiftBy offset
  arrows : moved.visibleArrows = deck.visibleArrows.map fun arrows => arrows.shiftBy offset
  paneRect : moved.paneRect = deck.paneRect.shiftBy offset
  captionLimit : moved.captionLimit = deck.captionLimit + offset.x
  calls : moved.link.calls = deck.link.calls.map (PaneCall.shiftBy offset)

theorem Relocated.translated (relocated : Relocated offset related deck moved) :
    deck.Translated offset moved := by
  rcases relocated with ⟨link, links, rfl⟩
  exact {
    active := rfl
    lastActive := rfl
    pressed := rfl
    focus := rfl
    row := rfl
    gesture := rfl
    tabRects := relocate_tabRect deck offset link
    arrows := relocate_visibleArrows deck offset link
    paneRect := relocate_paneRect deck offset link
    captionLimit := relocate_captionLimit deck offset link
    calls := links.calls }

/-- A session that begins with giving the deck a place goes the same way at any other place. It
breaks off at both or at neither, and every answer and all that can be read from the deck is the
same but for the displacement. -/
theorem session_translated [FontMetrics μ] [PaneHost σ] [PaneHost τ] {capacity : Nat}
    {captions : List Caption} {metrics : μ} {settings : Settings} {host : σ} {otherHost : τ}
    {start : Deck μ σ} {other : Deck μ τ} {bounds : Rect} {actions also : List Action}
    (hosts : HostsAlike offset related) (begun : related host otherHost)
    (made : ofCaptions capacity captions metrics host settings = .ok start)
    (otherMade : ofCaptions capacity captions metrics otherHost settings = .ok other)
    (shifted : List.Forall₂ (Action.Shifted offset) actions also) :
    InStep (fun ran moved => moved.1 = ran.1.map (fun answer => Answer.shiftBy answer offset) ∧
        ran.2.Translated offset moved.2)
      (start.run (.placeAt bounds :: actions))
      (other.run (.placeAt (bounds.shiftBy offset) :: also)) := by
  simp only [ofCaptions, bind_eq_ok, pure_eq_ok] at made otherMade
  rcases made with ⟨strip, measured, rfl⟩
  rcases otherMade with ⟨_, again, rfl⟩
  rw [measured] at again
  cases again
  apply (inStep_accepted (inStep_placeAt hosts ⟨begun, rfl⟩ .zero bounds)).bind
  rintro _ _ ⟨answer, placed⟩
  apply (inStep_run hosts placed shifted).bind
  rintro ⟨answers, after⟩ ⟨_, moved⟩ ⟨rfl, last⟩
  exact .ended ⟨rfl, last.translated⟩

end Deck

/-! ## Hosts that do not look at places -/

/-- The panes differ at most in where they are. -/
def DemoPane.SameButPlace (pane also : DemoPane) : Prop :=
  also = { pane with bounds := also.bounds }

namespace DemoPanes

/-- The panes of two hosts differ at most in where they are. -/
structure SameButPlaces (host also : DemoPanes) : Prop where
  panes : List.Forall₂ DemoPane.SameButPlace host.panes also.panes
  log : also.log = host.log

theorem SameButPlaces.modify {host also : DemoPanes} (same : host.SameButPlaces also)
    (handle : PaneId) {change other : DemoPane → DemoPane}
    (alike : ∀ {pane placed}, DemoPane.SameButPlace pane placed →
      DemoPane.SameButPlace (change pane) (other placed)) :
    (host.modify handle change).SameButPlaces (also.modify handle other) := by
  refine ⟨?_, same.log⟩
  have panes := same.panes
  simp only [DemoPanes.modify]
  generalize handle.id = index
  generalize host.panes = before at panes ⊢
  generalize also.panes = after at panes ⊢
  induction panes generalizing index with
  | nil => simp
  | cons first rest ih =>
    cases index with
    | zero => exact .cons (alike first) rest
    | succ index => exact .cons first (ih index)

/-- Where its panes are makes no difference to the answers of the simulator. -/
theorem hostsAlike (offset : Point) : HostsAlike offset SameButPlaces := by
  refine ⟨?_, ?_, ?_, ?_, ?_⟩
  · intro host also same tab
    have length := same.panes.length_eq
    refine ⟨by simp [PaneHost.create, length], ?_, ?_⟩
    · exact List.rel_append same.panes (.cons rfl .nil)
    · simp [PaneHost.create, length, same.log]
  · intro host also same handle rect
    apply same.modify handle
    intro pane placed alike
    rw [alike]
    rfl
  · intro host also same handle
    apply same.modify handle
    intro pane placed alike
    rw [alike]
    rfl
  · intro host also same handle corner
    apply same.modify handle
    intro pane placed alike
    rw [alike]
    rfl
  · intro host also same handle forward
    have length := same.panes.length_eq
    refine ⟨by simp [PaneHost.takeFocus, clearFocus, DemoPanes.modify, length], ?_⟩
    refine SameButPlaces.modify ?_ handle ?_
    · refine ⟨?_, same.log⟩
      simp only [clearFocus, List.forall₂_map_left_iff, List.forall₂_map_right_iff]
      apply same.panes.imp
      intro pane placed alike
      rw [alike]
      rfl
    · intro pane placed alike
      rw [alike]
      rfl

end DemoPanes

namespace Deck

/-- A tab is tapped where a deck is placed first, and at the same tab of a deck ten columns and
twenty rows away. -/
theorem tap_translated :
    ∃ start deck moved : Deck FixedAdvance DemoPanes, ∃ answers, ∃ touch also : Touch,
      HostsAlike ⟨10, 20⟩ DemoPanes.SameButPlaces ∧
      ofCaptions 8 wideImages ⟨6, 7, 10⟩ {} {} = .ok start ∧
      also.point = touch.point + ⟨10, 20⟩ ∧
      start.run [.placeAt ⟨⟨0, 0⟩, ⟨200, 100⟩⟩, .input (.press touch)] = .ok (answers, deck) ∧
      start.run [.placeAt ⟨⟨10, 20⟩, ⟨200, 100⟩⟩, .input (.press also)] =
        .ok (answers.map fun answer => Answer.shiftBy answer ⟨10, 20⟩, moved) ∧
      deck.active = some 1 ∧ deck.Translated ⟨10, 20⟩ moved := by
  obtain ⟨start, deck, answers, made, ran, active⟩ :
      ∃ start deck : Deck FixedAdvance DemoPanes, ∃ answers,
        ofCaptions 8 wideImages ⟨6, 7, 10⟩ {} {} = .ok start ∧
        start.run [.placeAt ⟨⟨0, 0⟩, ⟨200, 100⟩⟩, .input (.press ⟨60, 5⟩)] =
          .ok (answers, deck) ∧
        deck.active = some 1 :=
    ⟨_, _, _, rfl, rfl, by decide⟩
  have point : Touch.point ⟨70, 25⟩ = Touch.point ⟨60, 5⟩ + ⟨10, 20⟩ := by decide
  have hosts := DemoPanes.hostsAlike ⟨10, 20⟩
  have begun : DemoPanes.SameButPlaces {} {} := ⟨.nil, rfl⟩
  have translated := @session_translated _ _ _ ⟨10, 20⟩ _ _ _ _ _ _ _ _ _ _ _ _ ⟨⟨0, 0⟩, ⟨200, 100⟩⟩
    _ _ hosts begun made made (.cons (.press point) .nil)
  rw [ran] at translated
  generalize alsoRan : start.run (.placeAt (Rect.shiftBy ⟨⟨0, 0⟩, ⟨200, 100⟩⟩ ⟨10, 20⟩) ::
    [.input (.press ⟨70, 25⟩)]) = other at translated
  cases translated with
  | @ended _ moved relates =>
    rcases moved with ⟨others, moved⟩
    rcases relates with ⟨rfl, shown⟩
    exact ⟨start, deck, moved, answers, ⟨60, 5⟩, ⟨70, 25⟩, hosts, made, point, ran, alsoRan, active,
      shown⟩

end Deck

end TabDeck
