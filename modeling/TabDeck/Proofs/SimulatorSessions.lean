import TabDeck.Proofs.Admission
import TabDeck.Proofs.ArrowTaps
import TabDeck.Proofs.Navigation
import TabDeck.Proofs.Totality
import TabDeck.Simulator.Program

/-!
# Sessions of the simulator

The simulator does few things with its deck. It passes input on, takes the focus back from a pane,
toggles the third tab, changes the colours and lets time pass (`Simulator.Uses`); everything else
that a key does is to throw the deck away and build another one. What the simulator relies on is
`Simulator.Steady`, which every event and every frame keep, so that a session always runs to its
end.
-/

namespace TabDeck

/-! ## Which tabs are enabled -/

namespace Navigation

variable {μ : Type} (nav : Navigation μ)

@[simp] theorem flags_choose (index : Nat) : (nav.choose index).flags = nav.flags := by
  simp only [choose]
  split <;> rfl

@[simp] theorem flags_remeasure [FontMetrics μ] : nav.remeasure.flags = nav.flags := by
  simp only [remeasure]
  split <;> rfl

@[simp] theorem flags_refit : nav.refit.flags = nav.flags := by
  cases nav
  rfl

theorem flags_placeAt [FontMetrics μ] (bounds : Rect) :
    (nav.placeAt bounds).flags = nav.flags := by
  simp only [placeAt]
  split <;> simp

theorem flags_showIcons [FontMetrics μ] (icons : List Image) :
    (nav.showIcons icons).flags = nav.flags := by
  simp only [showIcons]
  split <;> simp

theorem flags_relabel [FontMetrics μ] (captions : List Caption) :
    (nav.relabel captions).flags = nav.flags := by
  simp only [relabel]
  split
  · split <;> simp
  · rfl

theorem flags_enableTab (index : Nat) (enabled : Bool) :
    (nav.enableTab index enabled).flags = nav.flags.set index enabled := by
  simp only [enableTab]
  split
  · next absent => rw [List.set_eq_of_length_le (List.getElem?_eq_none_iff.mp absent)]
  · next flag present =>
    split
    · next same =>
      rcases List.getElem?_eq_some_iff.mp present with ⟨bound, isFlag⟩
      rw [← same, ← isFlag, List.set_getElem_self]
    · split <;> simp

end Navigation

namespace Deck

section Flags

variable {μ σ : Type} [PaneHost σ] {deck after : Deck μ σ} {outcome : Outcome}

theorem sameFlags_of_tick {elapsed : Nat} (done : deck.tick elapsed = .ok (outcome, after)) :
    deck.SameFlags after := by
  rcases tick_eq_ok done with ⟨step, gesture, row, -, rest⟩
  cases step with
  | idle =>
    rw [rest.1]
    rfl
  | moving => exact (served_of_moveAll rest.1).sameFlags
  | arrived target =>
    rcases rest with ⟨mid, selection, moved, selected, -⟩
    have slid : deck.SameFlags mid := (served_of_moveAll moved).sameFlags
    exact slid.trans (switched_of_select selected).sameFlags

variable [FontMetrics μ] {action : Action} {answer : Answer}

/-- A tab is enabled or disabled by the action for it, and by no other. -/
theorem flags_of_perform (done : deck.perform action = .ok (answer, after)) :
    after.tabs.map Tab.enabled = match action with
      | .enableTab index enabled => (deck.tabs.map Tab.enabled).set index enabled
      | _ => deck.tabs.map Tab.enabled := by
  have read : ∀ {nav : Navigation μ}, after.navigation = nav →
      after.tabs.map Tab.enabled = nav.flags := by
    rintro _ rfl
    rfl
  cases action with
  | placeAt bounds =>
    rcases accepted_eq_ok.mp done with ⟨outcome, placed, -⟩
    rw [read (navigation_of_placeAt placed), Navigation.flags_placeAt]
    rfl
  | select index =>
    rcases accepted_eq_ok.mp done with ⟨outcome, selected, -⟩
    exact (switched_of_select selected).sameFlags
  | enableTab index enabled =>
    rcases accepted_eq_ok.mp done with ⟨outcome, changed, -⟩
    rw [read (navigation_of_enableTab changed), Navigation.flags_enableTab]
    rfl
  | supplyPane index handle =>
    rcases accepted_eq_ok.mp done with ⟨outcome, supplied, -⟩
    exact read (navigation_of_supplyPane supplied)
  | showIcons icons =>
    rw [read (navigation_of_showIcons done), Navigation.flags_showIcons]
    rfl
  | relabel captions =>
    rw [read (navigation_of_relabel done), Navigation.flags_relabel]
    rfl
  | enable enabled =>
    rcases accepted_eq_ok.mp done with ⟨outcome, changed, -⟩
    exact read (navigation_of_enable changed)
  | paintTab index colour =>
    cases done
    exact read (navigation_paintTab deck index colour)
  | usePalette palette =>
    cases done
    rfl
  | input event =>
    rcases accepted_eq_ok.mp done with ⟨outcome, handled, -⟩
    exact sameFlags_of_handle handled
  | abandon =>
    rcases accepted_eq_ok.mp done with ⟨outcome, abandoned, -⟩
    exact read (navigation_of_abandon abandoned)
  | reclaimFocus =>
    rcases accepted_eq_ok.mp done with ⟨outcome, reclaimed, -⟩
    exact sameFlags_of_handleFocus reclaimed
  | tick elapsed =>
    rcases accepted_eq_ok.mp done with ⟨outcome, ticked, -⟩
    exact sameFlags_of_tick ticked

omit [PaneHost σ] in
/-- Every tab of a new deck is enabled. -/
theorem flags_ofCaptions {capacity : Nat} {captions : List Caption} {metrics : μ} {host : σ}
    {settings : Settings} (made : ofCaptions capacity captions metrics host settings = .ok deck) :
    deck.tabs.map Tab.enabled = List.replicate captions.length true := by
  simp only [ofCaptions, bind_eq_ok, pure_eq_ok] at made
  rcases made with ⟨strip, measured, rfl⟩
  have lengths := Strip.length_tabs_of_measure measured
  rw [← List.map_const']
  exact map_zipWith lengths fun _ _ => rfl

end Flags

theorem Switched.palette {μ σ : Type} [PaneHost σ] {before after : Deck μ σ}
    (switched : before.Switched after) : after.palette = before.palette := by
  rcases switched with rfl | ⟨index, outcome, -, -, activated⟩
  · rfl
  · rcases activate_eq_ok activated with ⟨_, _, mid, ⟨_, _, rfl, -⟩, rfl, -⟩
    rfl

/-- Requests to the host make no difference to what lets actions succeed. -/
theorem Sound.served {μ σ : Type} [FontMetrics μ] {deck after : Deck μ σ} (sound : deck.Sound)
    (served : deck.Served after) : after.Sound :=
  ⟨sound.coherent.served served, sound.poised.eases (Eases.of_served served),
    sound.upToDate.same (SameStrip.of_served served),
    sound.tabsPlaced.same (SameStrip.of_served served)⟩

end Deck

namespace Simulator

/-! ## The deck of the simulator -/

/-- What the simulator does with a deck that it has built. -/
inductive Uses : Action → Prop where
  | select (index : Nat) : Uses (.select index)
  | toggle (enabled : Bool) : Uses (.enableTab toggledTab enabled)
  | usePalette (palette : Palette) : Uses (.usePalette palette)
  | input (event : Input) : Uses (.input event)
  | reclaimFocus : Uses .reclaimFocus
  | tick (elapsed : Nat) : Uses (.tick elapsed)

/-- A deck that was built for some settings and used since. -/
structure Tended (settings : Settings) (deck : DemoDeck) : Prop where
  sound : deck.Sound
  length : deck.tabs.length = demoCaptions.length
  active : deck.active.isSome = true
  settings : deck.settings = settings
  /-- Only the tab that can be toggled may be disabled. -/
  others : ∀ index < demoCaptions.length, index ≠ toggledTab → deck.isEnabled index = true

namespace Tended

variable {settings : Settings} {deck after : DemoDeck} {action : Action}

theorem served (tended : Tended settings deck) (served : deck.Served after) :
    Tended settings after := by
  have keeps := Deck.Keeps.of_served served
  refine ⟨tended.sound.served served, keeps.length.trans tended.length,
    keeps.active tended.active, keeps.settings.trans tended.settings, ?_⟩
  intro index present apart
  rw [served.sameFlags.isEnabled]
  exact tended.others index present apart

theorem relinked (tended : Tended settings deck) (link : PaneLink DemoPanes) :
    Tended settings { deck with link } :=
  tended.served ⟨link, deck.tabs, rfl, TabsFilled.refl deck.tabs⟩

theorem perform {answer : Deck.Answer} (tended : Tended settings deck) (uses : Uses action)
    (done : deck.perform action = .ok (answer, after)) : Tended settings after := by
  have lasts := Deck.Lasts.of_perform done
  refine ⟨tended.sound.perform done, lasts.length.trans tended.length, lasts.active tended.active,
    lasts.settings.trans tended.settings, ?_⟩
  intro index present apart
  have flags := Deck.flags_of_perform done
  rw [← tended.others index present apart, Deck.isEnabled_eq, Deck.isEnabled_eq, flags]
  cases uses with
  | toggle enabled => rw [List.getElem?_set_ne apart.symm]
  | select _ | usePalette _ | input _ | reclaimFocus | tick _ => rfl

/-- What the simulator does with its deck succeeds. -/
theorem accepts (tended : Tended settings deck) (uses : Uses action)
    {operation : Except Fault (Outcome × DemoDeck)}
    (performs : deck.perform action = Deck.accepted operation) :
    ∃ outcome after, operation = .ok (outcome, after) ∧ Tended settings after := by
  have total : ∃ result, deck.perform action = .ok result := by
    apply tended.sound.coherent.perform_total tended.sound.tabsPlaced
    cases uses <;> exact nofun
  rcases total with ⟨⟨answer, after⟩, performed⟩
  have kept := tended.perform uses performed
  rw [performs] at performed
  rcases Deck.accepted_eq_ok.mp performed with ⟨outcome, done, -⟩
  exact ⟨outcome, after, done, kept⟩

end Tended

/-- The captions of the simulator make a strip. -/
theorem demoCaptions_ok :
    ∃ captions, Deck.captionsOfTexts 0 demoCaptions = .ok captions ∧
      captions.length = demoCaptions.length ∧ checkCaptions capacity captions = .ok () :=
  ⟨_, rfl, rfl, rfl⟩

/-- Before its first placement the deck of the simulator has all of its tabs, and all are enabled. -/
theorem demoDeck_ok (settings : Settings) :
    ∃ made : DemoDeck,
      Deck.ofTexts capacity demoCaptions FontPair.builtIn ({} : DemoPanes) settings = .ok made ∧
      made.Sound ∧ made.settings = settings ∧
      made.tabs.map Tab.enabled = List.replicate demoCaptions.length true := by
  rcases demoCaptions_ok with ⟨captions, read, length, checked⟩
  rcases (Strip.measure_ok_iff FontPair.builtIn (settings.stripPolicy 0 false)).mpr checked with
    ⟨strip, measured⟩
  have within : ¬ capacity < demoCaptions.length := by decide
  obtain ⟨made, isMade⟩ : ∃ made : DemoDeck,
      Deck.ofCaptions capacity captions FontPair.builtIn ({} : DemoPanes) settings = .ok made := by
    simp only [Deck.ofCaptions, measured]
    exact ⟨_, rfl⟩
  refine ⟨made, ?_, Deck.sound_ofCaptions isMade, ?_, ?_⟩
  · rw [Deck.ofTexts, if_neg within, read]
    exact isMade
  · rcases Deck.ofCaptions_eq_ok isMade with ⟨-, _, _, -, rfl⟩
    rfl
  · rw [Deck.flags_ofCaptions isMade, length]

/-- A deck can be built for any settings, and all of its tabs are enabled. -/
theorem build_ok (settings : Settings) :
    ∃ lines deck, build settings = .ok (lines, some deck) ∧ Tended settings deck ∧
      deck.tabs.map Tab.enabled = List.replicate demoCaptions.length true := by
  rcases demoDeck_ok settings with ⟨made, isMade, sound, isFor, madeFlags⟩
  have length : made.tabs.length = demoCaptions.length := by
    simpa using congrArg List.length madeFlags
  have roomy : (PaneRow.ofPanes made.tabs.length displaySize.width).lowest ≤ 0 := by
    rw [length]
    exact PaneRow.lowest_ofPanes (by decide)
  have places : ∃ result, made.placeAt ⟨.zero, displaySize⟩ = .ok result :=
    sound.coherent.placeAt_total roomy
  rcases places with ⟨⟨outcome, deck⟩, placed⟩
  have performed : made.perform (.placeAt ⟨.zero, displaySize⟩) = .ok (.ok outcome, deck) :=
    Deck.accepted_eq_ok.mpr ⟨outcome, placed, rfl⟩
  have lasts := Deck.Lasts.of_perform performed
  have active := Deck.active_of_placeAt sound.coherent.nonempty placed
  have flags := (Deck.flags_of_perform performed).trans madeFlags
  have tended : Tended settings deck := by
    refine ⟨sound.perform performed, lasts.length.trans length, active,
      lasts.settings.trans isFor, ?_⟩
    intro index present _
    rw [Deck.isEnabled_eq, flags, List.getElem?_replicate_of_lt present, Option.getD_some]
  simp only [build, isMade, bind_eq_ok, pure_eq_ok]
  exact ⟨_, _, ⟨(outcome, deck), placed, rfl⟩, tended.relinked _, flags⟩

/-! ## Events -/

/-- What the simulator relies on from one event to the next. -/
structure Steady (simulator : Simulator) : Prop where
  tended : Tended simulator.settings simulator.deck
  /-- Only paged decks have arrows. -/
  arrows : simulator.settings.showArrows = !simulator.settings.flicks

namespace Steady

variable {simulator : Simulator}

theorem report (steady : simulator.Steady) {deck : DemoDeck}
    (tended : Tended simulator.settings deck) (outcome : Outcome) :
    (simulator.report outcome deck).Steady :=
  ⟨tended.relinked _, steady.arrows⟩

/-- What comes of using the deck is reported. -/
theorem used (steady : simulator.Steady) {action : Action} (uses : Uses action)
    {operation : Except Fault (Outcome × DemoDeck)}
    (performs : simulator.deck.perform action = Deck.accepted operation) :
    ∃ outcome deck, operation = .ok (outcome, deck) ∧ (simulator.report outcome deck).Steady := by
  rcases steady.tended.accepts uses performs with ⟨outcome, deck, done, tended⟩
  exact ⟨outcome, deck, done, steady.report tended outcome⟩

theorem input (steady : simulator.Steady) (event : Input) :
    ∃ after, simulator.input event = .ok after ∧ after.Steady := by
  rcases steady.used (.input event) rfl with ⟨outcome, deck, handled, kept⟩
  rw [Simulator.input, handled]
  exact ⟨_, rfl, kept⟩

theorem moveFocus (steady : simulator.Steady) (handle : PaneId) (row : Nat) (down : Bool) :
    ∃ after, simulator.moveFocus handle row down = .ok after ∧ after.Steady := by
  simp only [Simulator.moveFocus]
  split
  · exact ⟨_, rfl, steady.tended.relinked _, steady.arrows⟩
  · generalize simulator.deck.link.host.clearFocus = host
    have cleared := steady.tended.relinked { simulator.deck.link with host }
    rcases cleared.accepts .reclaimFocus rfl with ⟨outcome, deck, reclaimed, tended⟩
    rw [reclaimed]
    exact ⟨_, rfl, steady.report tended outcome⟩

theorem arrowKey (steady : simulator.Steady) (direction : Direction) :
    ∃ after, simulator.arrowKey direction = .ok after ∧ after.Steady := by
  simp only [Simulator.arrowKey]
  split
  · exact steady.moveFocus _ _ _
  · exact steady.input _

theorem toggleTab (steady : simulator.Steady) :
    ∃ after, simulator.toggleTab = .ok after ∧ after.Steady := by
  simp only [Simulator.toggleTab]
  generalize (!simulator.deck.isEnabled toggledTab) = enabled
  rcases steady.tended.accepts (.toggle enabled) rfl with ⟨outcome, deck, toggled, tended⟩
  rw [toggled]
  exact ⟨_, rfl, tended.relinked _, steady.arrows⟩

theorem togglePalette (steady : simulator.Steady) : simulator.togglePalette.Steady := by
  simp only [Simulator.togglePalette]
  generalize (if !simulator.light then Palette.light else .dark) = palette
  rcases steady.tended.accepts (.usePalette palette) rfl with ⟨outcome, deck, used, tended⟩
  cases used
  exact ⟨tended.relinked _, steady.arrows⟩

end Steady

/-! ## Another deck -/

/-- The deck was built anew for some settings. -/
structure Rebuilt (wanted : Settings) (before after : Simulator) : Prop where
  settings : after.settings = wanted
  tended : Tended wanted after.deck
  active : after.deck.active = before.deck.active
  palette : after.deck.palette = before.deck.palette
  /-- Nothing is left of which tabs were enabled. -/
  flags : after.deck.tabs.map Tab.enabled = List.replicate demoCaptions.length true

/-- Building the deck anew succeeds, keeps the active tab and the colours, and enables all tabs. -/
theorem Steady.rebuild {simulator : Simulator} (steady : simulator.Steady) (settings : Settings) :
    ∃ after, simulator.rebuild settings = .ok after ∧ simulator.Rebuilt settings after := by
  rcases build_ok settings with ⟨lines, built, isBuilt, tended, flags⟩
  rcases Option.isSome_iff_exists.mp steady.tended.active with ⟨active, isActive⟩
  rcases tended.accepts (.usePalette simulator.deck.palette) rfl with ⟨_, painted, used, kept⟩
  have isPainted : painted = (built.usePalette simulator.deck.palette).2 := by
    cases used
    rfl
  rcases kept.accepts (.select active) rfl with ⟨outcome, chosen, selected, tendedChosen⟩
  have present : active < painted.tabs.length := by
    rw [kept.length, ← steady.tended.length]
    exact steady.tended.sound.coherent.present active isActive
  have switched := Deck.switched_of_select selected
  refine ⟨{ simulator with
    settings, needsRedraw := true
    deck := (takeLog chosen).2
    log := (takeLog chosen).1 ++ (lines ++ simulator.log) }, ?_, ?_⟩
  · simp only [Simulator.rebuild, isBuilt, isActive, Option.getD_some]
    rw [isPainted] at selected
    apply bind_eq_ok.mpr
    refine ⟨(lines, some built), rfl, ?_⟩
    apply bind_eq_ok.mpr
    exact ⟨(outcome, chosen), selected, rfl⟩
  · refine ⟨rfl, tendedChosen.relinked _, ?_, ?_, ?_⟩
    · exact (Deck.active_of_select present selected).trans isActive.symm
    · show chosen.palette = _
      rw [switched.palette, isPainted]
      rfl
    · have sameFlags : built.SameFlags chosen := by
        rw [isPainted] at switched
        exact switched.sameFlags
      exact Eq.trans sameFlags flags

/-- A deck that was built anew is as good as the one before. -/
theorem Rebuilt.steady {settings : Settings} {before after : Simulator}
    (rebuilt : before.Rebuilt settings after) (arrows : settings.showArrows = !settings.flicks) :
    after.Steady := by
  refine ⟨?_, ?_⟩
  · rw [rebuilt.settings]
    exact rebuilt.tended
  · rw [rebuilt.settings]
    exact arrows

theorem arrows_otherMode (settings : Settings) :
    (otherMode settings).showArrows = !(otherMode settings).flicks := by
  cases mode : settings.mode <;> simp [otherMode, mode, Settings.flicks]

theorem arrows_otherEdge {settings : Settings} (arrows : settings.showArrows = !settings.flicks) :
    (otherEdge settings).showArrows = !(otherEdge settings).flicks := by
  cases edge : settings.edge <;> simp [otherEdge, edge, Settings.flicks, arrows]

/-! ## Frames -/

namespace Steady

variable {simulator : Simulator}

theorem key (steady : simulator.Steady) (key : SimulatorKey) :
    ∃ after, simulator.key key = .ok after ∧ after.Steady := by
  unfold Simulator.key
  split
  · exact steady.arrowKey _
  · exact steady.input .action
  · exact steady.input .abandon
  · exact steady.input .focus
  · exact steady.toggleTab
  · exact ⟨_, rfl, steady.togglePalette⟩
  · rcases steady.rebuild (otherMode simulator.settings) with ⟨after, done, rebuilt⟩
    exact ⟨after, done, rebuilt.steady (arrows_otherMode simulator.settings)⟩
  · rcases steady.rebuild (otherEdge simulator.settings) with ⟨after, done, rebuilt⟩
    exact ⟨after, done, rebuilt.steady (arrows_otherEdge steady.arrows)⟩
  · exact ⟨_, rfl, steady⟩
  · exact ⟨_, rfl, steady⟩

/-- The place of the mouse does not matter to the deck. -/
theorem pointed (steady : simulator.Steady) (pointer : Option Point) :
    { simulator with pointer }.Steady :=
  ⟨steady.tended, steady.arrows⟩

/-- Every event is taken. -/
theorem handle (steady : simulator.Steady) (event : SimulatorEvent) :
    ∃ after, simulator.handle event = .ok after ∧ after.Steady := by
  cases event with
  | press point => exact (steady.pointed (some point)).input _
  | release point => exact (steady.pointed none).input _
  | move point =>
    simp only [Simulator.handle, movePointer]
    split
    · exact ⟨_, rfl, steady⟩
    · exact (steady.pointed (some point)).input _
  | key pressed => exact steady.key pressed
  | pause milliseconds => exact ⟨_, rfl, steady.tended, steady.arrows⟩
  | keyUp released => exact ⟨_, rfl, steady⟩
  | quit => exact ⟨_, rfl, steady⟩

theorem play (steady : simulator.Steady) (events : List SimulatorEvent) :
    ∃ isOpen after, simulator.play events = .ok (isOpen, after) ∧ after.Steady := by
  induction events generalizing simulator with
  | nil => exact ⟨true, simulator, rfl, steady⟩
  | cons event rest ih =>
    simp only [Simulator.play]
    split
    · exact ⟨false, simulator, rfl, steady⟩
    · rcases steady.handle event with ⟨next, handled, kept⟩
      rcases ih kept with ⟨isOpen, after, played, last⟩
      refine ⟨isOpen, after, ?_, last⟩
      rw [bind_eq_ok]
      exact ⟨next, handled, played⟩

theorem redraw (steady : simulator.Steady) : simulator.redraw.Steady := by
  simp only [Simulator.redraw]
  split
  · exact ⟨steady.tended, steady.arrows⟩
  · exact steady

theorem present (steady : simulator.Steady) : simulator.present.2.Steady :=
  ⟨steady.tended, steady.arrows⟩

/-- Every frame ends. -/
theorem endFrame (steady : simulator.Steady) :
    ∃ frame after, simulator.endFrame = .ok (frame, after) ∧ after.Steady := by
  rcases steady.used (.tick frameTime) rfl with ⟨outcome, deck, ticked, kept⟩
  have shown := kept.redraw.present
  simp only [Simulator.endFrame, ticked]
  exact ⟨_, _, rfl, shown.tended, shown.arrows⟩

theorem playAll (steady : simulator.Steady) (frames : List (List SimulatorEvent)) :
    ∃ shown after, simulator.playAll frames = .ok (shown, after) ∧ after.Steady := by
  induction frames generalizing simulator with
  | nil => exact ⟨[], simulator, rfl, steady⟩
  | cons events rest ih =>
    rcases steady.play events with ⟨isOpen, played, done, kept⟩
    cases isOpen with
    | false =>
      refine ⟨[], played, ?_, kept⟩
      simp only [Simulator.playAll, bind_eq_ok]
      exact ⟨(false, played), done, rfl⟩
    | true =>
      rcases kept.endFrame with ⟨frame, ended, shown, keptToo⟩
      rcases ih keptToo with ⟨others, after, playedOn, last⟩
      refine ⟨frame :: others, after, ?_, last⟩
      simp only [Simulator.playAll, bind_eq_ok]
      refine ⟨(true, played), done, ?_⟩
      simp only [if_true, bind_eq_ok, pure_eq_ok]
      exact ⟨(frame, ended), shown, (others, after), playedOn, rfl⟩

end Steady

/-- The simulator starts with a deck of which every tab is enabled. -/
theorem start_ok :
    ∃ log simulator, start = .ok (log, some simulator) ∧ simulator.Steady ∧
      simulator.deck.tabs.map Tab.enabled = List.replicate demoCaptions.length true := by
  rcases build_ok .touchscreen with ⟨lines, deck, built, tended, flags⟩
  simp only [start, built, bind_eq_ok, pure_eq_ok]
  exact ⟨_, _, ⟨_, rfl, rfl⟩, ⟨tended, rfl⟩, flags⟩

/-- Whatever events the window hands over, a session runs to its end. -/
theorem run_total (events : List (List SimulatorEvent)) : ∃ playback, run events = .ok playback := by
  rcases start_ok with ⟨log, simulator, started, steady, -⟩
  rcases steady.present.playAll events with ⟨frames, after, played, -⟩
  simp only [run, started]
  apply bind_total played
  exact ⟨_, rfl⟩

end Simulator

end TabDeck
