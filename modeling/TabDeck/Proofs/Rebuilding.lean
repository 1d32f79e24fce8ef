import TabDeck.Proofs.SimulatorSessions

/-!
# What a new deck keeps of the old one

Two keys of the simulator change the settings: one the pane mode, the other the edge of the strip.
Both throw the deck away and build another one, to which the active tab and the colours are carried
over. Which tabs are enabled is not carried over, so that a user who disabled the third tab finds it
enabled again (`Simulator.rebuild_keeps_choices_iff`).
-/

namespace TabDeck

namespace Simulator

/-- The keys for which the deck is built anew, and what they do to the settings. -/
inductive Rebuilds : SimulatorKey → (Settings → Settings) → Prop where
  | mode : Rebuilds (.letter 'M') otherMode
  | edge : Rebuilds (.letter 'B') otherEdge

/-- What a user chose other than the settings is as before. -/
structure KeepsChoices (before after : Simulator) : Prop where
  active : after.deck.active = before.deck.active
  palette : after.deck.palette = before.deck.palette
  flags : before.deck.SameFlags after.deck

/-- The deck was made for the settings that the simulator has. -/
structure RunsWith (settings : Settings) (simulator : Simulator) : Prop where
  own : simulator.settings = settings
  ofDeck : simulator.deck.settings = settings

theorem otherMode_otherMode {settings : Settings}
    (arrows : settings.showArrows = !settings.flicks) :
    otherMode (otherMode settings) = settings := by
  cases settings with
  | mk edge style mode =>
    cases mode <;> simp_all [otherMode, Settings.flicks]

theorem otherEdge_otherEdge (settings : Settings) : otherEdge (otherEdge settings) = settings := by
  cases settings with
  | mk edge =>
    cases edge <;> rfl

section Keys

variable {simulator after : Simulator} {key : SimulatorKey} {change : Settings → Settings}
  {wanted : Settings}

/-- Pressing one of these keys twice leaves the settings as they were. -/
theorem Rebuilds.twice (rebuilds : Rebuilds key change) (steady : simulator.Steady) :
    change (change simulator.settings) = simulator.settings := by
  cases rebuilds with
  | mode => exact otherMode_otherMode steady.arrows
  | edge => exact otherEdge_otherEdge simulator.settings

theorem Rebuilds.arrows (rebuilds : Rebuilds key change)
    (arrows : wanted.showArrows = !wanted.flicks) :
    (change wanted).showArrows = !(change wanted).flicks := by
  cases rebuilds with
  | mode => exact arrows_otherMode wanted
  | edge => exact arrows_otherEdge arrows

theorem Rebuilds.rebuilt (rebuilds : Rebuilds key change) (steady : simulator.Steady) :
    ∃ after, simulator.key key = .ok after ∧
      simulator.Rebuilt (change simulator.settings) after := by
  cases rebuilds with
  | mode => exact steady.rebuild (otherMode simulator.settings)
  | edge => exact steady.rebuild (otherEdge simulator.settings)

theorem Rebuilt.runsWith (rebuilt : simulator.Rebuilt wanted after) : after.RunsWith wanted :=
  ⟨rebuilt.settings, rebuilt.tended.settings⟩

theorem Rebuilt.trans {last : Simulator} {others : Settings}
    (earlier : simulator.Rebuilt others after) (later : after.Rebuilt wanted last) :
    simulator.Rebuilt wanted last :=
  ⟨later.settings, later.tended, later.active.trans earlier.active,
    later.palette.trans earlier.palette, later.flags⟩

/-- On a deck of the simulator all tabs are enabled as soon as the one is that can be toggled. -/
theorem Tended.flags_iff {deck : DemoDeck} (tended : Tended wanted deck) :
    deck.tabs.map Tab.enabled = List.replicate demoCaptions.length true ↔
      deck.isEnabled toggledTab = true := by
  constructor
  · intro flags
    rw [Deck.isEnabled_eq, flags]
    rfl
  · intro toggled
    apply List.ext_getElem?
    intro index
    rcases Nat.lt_or_ge index demoCaptions.length with present | absent
    · have enabled : deck.isEnabled index = true := by
        by_cases same : index = toggledTab
        · rw [same]
          exact toggled
        · exact tended.others index present same
      rw [Deck.isEnabled, Option.getD_eq_iff] at enabled
      rw [List.getElem?_replicate_of_lt present, List.getElem?_map]
      rcases enabled with found | ⟨-, impossible⟩
      · exact found
      · cases impossible
    · rw [List.getElem?_eq_none, List.getElem?_eq_none]
      · rwa [List.length_replicate]
      · rwa [List.length_map, tended.length]

/-- A new deck keeps what the user chose exactly if the third tab is enabled. -/
theorem Rebuilt.keepsChoices_iff (rebuilt : simulator.Rebuilt wanted after)
    (steady : simulator.Steady) :
    simulator.KeepsChoices after ↔ simulator.deck.isEnabled toggledTab = true := by
  rw [← steady.tended.flags_iff, ← rebuilt.flags]
  constructor
  · intro keeps
    exact keeps.flags.symm
  · intro flags
    exact ⟨rebuilt.active, rebuilt.palette, flags.symm⟩

end Keys

/-- Whatever happened before in a session, the keys for the pane mode and for the edge of the strip
change nothing else in the settings, and pressed twice nothing at all. Each time the active tab and
the colours are kept. Which tabs are enabled is kept exactly if the third one is enabled. -/
theorem rebuild_keeps_choices_iff (frames : List (List SimulatorEvent))
    (events : List SimulatorEvent) :
    ∃ log opened shown later isOpen now,
      start = .ok (log, some opened) ∧
      opened.present.2.playAll frames = .ok (shown, later) ∧
      later.play events = .ok (isOpen, now) ∧
      ∀ key change, Rebuilds key change → ∃ once twice,
        now.key key = .ok once ∧ once.key key = .ok twice ∧
        once.RunsWith (change now.settings) ∧ twice.RunsWith now.settings ∧
        once.deck.active = now.deck.active ∧ once.deck.palette = now.deck.palette ∧
        twice.deck.active = now.deck.active ∧ twice.deck.palette = now.deck.palette ∧
        (now.KeepsChoices once ↔ now.deck.isEnabled toggledTab = true) ∧
        (now.KeepsChoices twice ↔ now.deck.isEnabled toggledTab = true) := by
  rcases start_ok with ⟨log, opened, started, steady, -⟩
  rcases steady.present.playAll frames with ⟨shown, later, playedAll, steadyLater⟩
  rcases steadyLater.play events with ⟨isOpen, now, played, steadyNow⟩
  refine ⟨log, opened, shown, later, isOpen, now, started, playedAll, played, ?_⟩
  intro key change rebuilds
  rcases rebuilds.rebuilt steadyNow with ⟨once, pressed, first⟩
  have steadyOnce := first.steady (rebuilds.arrows steadyNow.arrows)
  rcases rebuilds.rebuilt steadyOnce with ⟨twice, pressedAgain, again⟩
  rw [first.settings, rebuilds.twice steadyNow] at again
  have second := first.trans again
  exact ⟨once, twice, pressed, pressedAgain, first.runsWith, second.runsWith, first.active,
    first.palette, second.active, second.palette, first.keepsChoices_iff steadyNow,
    second.keepsChoices_iff steadyNow⟩

/-- A frame in which the deck gets the focus and goes to the second tab. -/
def secondTab : List SimulatorEvent := [.key (.letter 'F'), .key (.arrow .right)]

/-- The second tab stays active and the light colours stay when the panes are put side by side or
apart, as long as the third tab is enabled. -/
theorem rebuild_keeps_second_tab :
    ∃ log opened shown later now,
      start = .ok (log, some opened) ∧
      opened.present.2.playAll [secondTab] = .ok (shown, later) ∧
      later.play [.key (.letter 'L')] = .ok (true, now) ∧
      now.deck.active = some 1 ∧ now.deck.palette = .light ∧
      now.deck.isEnabled toggledTab = true ∧
      ∃ once twice, now.key (.letter 'M') = .ok once ∧ once.key (.letter 'M') = .ok twice ∧
        now.KeepsChoices once ∧ now.KeepsChoices twice := by
  obtain ⟨log, opened, shown, later, now, started, playedAll, played, active, palette, enabled⟩ :
      ∃ log opened shown later now,
        start = .ok (log, some opened) ∧
        opened.present.2.playAll [secondTab] = .ok (shown, later) ∧
        later.play [.key (.letter 'L')] = .ok (true, now) ∧
        now.deck.active = some 1 ∧ now.deck.palette = .light ∧
        now.deck.isEnabled toggledTab = true :=
    ⟨_, _, _, _, _, rfl, rfl, rfl, rfl, rfl, rfl⟩
  rcases rebuild_keeps_choices_iff [secondTab] [.key (.letter 'L')] with
    ⟨_, _, _, _, _, _, startedAlso, playedAllAlso, playedAlso, rebuilds⟩
  rw [started] at startedAlso
  cases startedAlso
  rw [playedAll] at playedAllAlso
  cases playedAllAlso
  rw [played] at playedAlso
  cases playedAlso
  rcases rebuilds _ _ .mode with
    ⟨once, twice, pressed, again, -, -, -, -, -, -, keepsOnce, keepsTwice⟩
  exact ⟨log, opened, shown, later, now, started, playedAll, played, active, palette, enabled, once,
    twice, pressed, again, keepsOnce.mpr enabled, keepsTwice.mpr enabled⟩

/-- Disables the third tab. -/
def thirdDisabled : List SimulatorEvent := [.key (.letter 'D')]

/-- The third tab was disabled, and is enabled again once the panes are put apart. -/
theorem rebuild_enables_third_tab :
    ∃ log opened now once,
      start = .ok (log, some opened) ∧ opened.present.2.play thirdDisabled = .ok (true, now) ∧
      now.key (.letter 'M') = .ok once ∧
      now.deck.isEnabled toggledTab = false ∧ once.deck.isEnabled toggledTab = true ∧
      ¬ now.KeepsChoices once := by
  obtain ⟨log, opened, now, once, started, played, pressed, disabled, enabled⟩ :
      ∃ log opened now once,
        start = .ok (log, some opened) ∧ opened.present.2.play thirdDisabled = .ok (true, now) ∧
        now.key (.letter 'M') = .ok once ∧
        now.deck.isEnabled toggledTab = false ∧ once.deck.isEnabled toggledTab = true :=
    ⟨_, _, _, _, rfl, rfl, rfl, rfl, rfl⟩
  refine ⟨log, opened, now, once, started, played, pressed, disabled, enabled, ?_⟩
  intro keeps
  rw [keeps.flags.isEnabled, disabled] at enabled
  cases enabled

end Simulator

end TabDeck
