import TabDeck.Proofs.Resting
import TabDeck.Proofs.Settling
import TabDeck.Simulator.DemoPanes

/-!
# Where a flick lands

A paging rule that keeps disabled tabs closed is asked once, when a movement takes hold of a row
that is aligned with a pane, and only about the next tab in the direction of that movement. The
pane on which the row settles is found later, from where the movements left it, and nobody asks the
rule about that one. So the tab on which a flick lands is enabled when it is the active one or the
one that the rule let in, and any other is entered whether or not it is enabled.
-/

namespace TabDeck

namespace PagingRule

/-- The tab next to the active one in a direction, if there is one. -/
def neighbour (rule : PagingRule) : Direction → Option Nat
  | .left => if 0 < rule.active then some (rule.active - 1) else none
  | .right => if rule.active + 1 < rule.blocked.length then some (rule.active + 1) else none
  | .up | .down => none

/-- From an aligned row a rule permits only directions with an open neighbour. -/
theorem open_of_permits {rule : PagingRule} {direction : Direction}
    (permitted : rule.permits direction true = .ok true) :
    ∃ next, rule.neighbour direction = some next ∧
      (rule.intoDisabled = true ∨ rule.blocked[next]? = some false) := by
  simp only [permits, Bool.not_true, Bool.false_eq_true, if_false] at permitted
  split at permitted
  · cases permitted
  · next next found =>
    refine ⟨next, found, ?_⟩
    split at permitted
    · next open_ => exact Or.inl open_
    · right
      cases asked : entry rule.blocked next with
      | error fault =>
        rw [asked] at permitted
        cases permitted
      | ok isBlocked =>
        rw [asked] at permitted
        cases isBlocked with
        | true => cases permitted
        | false => exact entry_eq_ok.mp asked

end PagingRule

/-- A movement takes hold of a row sideways, with the permission of the rule. -/
theorem Gesture.permits_of_takesHold {row : PaneRow} {rule : PagingRule} {movement : Point}
    (holds : takesHold row rule movement = .ok true) :
    ∃ direction, Direction.ofMovement? movement = some direction ∧
      rule.permits direction.opposite row.aligned.isSome = .ok true := by
  simp only [takesHold] at holds
  split at holds
  · cases holds
  · next direction isDirection =>
    split at holds
    · exact ⟨direction, isDirection, holds⟩
    · cases holds

/-- One movement of a finger on the display. -/
structure Sample where
  touch : Touch
  movement : Point
  time : Nat
  deriving DecidableEq, Repr

/-- The action of passing a movement on. -/
def Sample.action (sample : Sample) : Action :=
  .input (.drag sample.touch sample.movement sample.time)

namespace Deck

variable {μ σ : Type} {deck : Deck μ σ} {pane : Nat} {samples : List Sample}

/-- The first of some movements that takes hold of the row leads from an aligned pane to another,
and the rule let it in. -/
def PagesInto (deck : Deck μ σ) (samples : List Sample) (pane : Nat) : Prop :=
  ∃ active earlier sample later direction, deck.active = some active ∧
    samples = earlier ++ sample :: later ∧
    (∀ other ∈ earlier,
      Gesture.takesHold deck.row (deck.pagingRule active) other.movement = .ok false) ∧
    Gesture.takesHold deck.row (deck.pagingRule active) sample.movement = .ok true ∧
    deck.row.aligned.isSome = true ∧ Direction.ofMovement? sample.movement = some direction ∧
    (deck.pagingRule active).neighbour direction.opposite = some pane

theorem isEnabled_eq (deck : Deck μ σ) (index : Nat) :
    deck.isEnabled index = ((deck.tabs.map Tab.enabled)[index]?).getD false := by
  rw [isEnabled, List.getElem?_map]

theorem isEnabled_of_disabledFlags (flag : deck.disabledFlags[pane]? = some false) :
    deck.isEnabled pane = true := by
  rw [disabledFlags, List.getElem?_map] at flag
  rw [isEnabled]
  cases found : deck.tabs[pane]? with
  | none =>
    rw [found] at flag
    cases flag
  | some tab =>
    rw [found] at flag
    simpa using flag

theorem blockedFlags_of_isEnabled (enabled : deck.isEnabled pane = true) :
    deck.blockedFlags = deck.disabledFlags := by
  have some_ : deck.allDisabled = false := by
    rw [isEnabled] at enabled
    cases found : deck.tabs[pane]? with
    | none =>
      rw [found] at enabled
      cases enabled
    | some tab =>
      rw [found] at enabled
      simp only [allDisabled, List.all_eq_false]
      exact ⟨tab, List.mem_of_getElem? found, by simpa using enabled⟩
  simp only [blockedFlags, some_, Bool.false_eq_true, if_false]

/-- A rule that keeps disabled tabs closed lets only enabled tabs in. -/
theorem PagesInto.isEnabled (pagesInto : deck.PagesInto samples pane)
    (refuses : deck.settings.flickIntoDisabled = false)
    (activeEnabled : ∀ active, deck.active = some active → deck.isEnabled active = true) :
    deck.isEnabled pane = true := by
  rcases pagesInto with ⟨active, earlier, sample, later, direction, isActive, -, -, holds, aligned,
    isDirection, isNeighbour⟩
  rcases Gesture.permits_of_takesHold holds with ⟨same, isSame, permitted⟩
  rw [isDirection] at isSame
  cases isSame
  rw [aligned] at permitted
  rcases PagingRule.open_of_permits permitted with ⟨next, isNext, open_⟩
  rw [isNeighbour] at isNext
  cases isNext
  rcases open_ with into | unblocked
  · rw [show deck.settings.flickIntoDisabled = true from into] at refuses
    cases refuses
  · have flags := blockedFlags_of_isEnabled (activeEnabled active isActive)
    exact isEnabled_of_disabledFlags (flags ▸ unblocked)

/-! ## The flags during a gesture -/

section Flags

variable [PaneHost σ] {after : Deck μ σ} {outcome : Outcome}

/-- The same tabs are enabled. -/
def SameFlags (before after : Deck μ σ) : Prop :=
  after.tabs.map Tab.enabled = before.tabs.map Tab.enabled

omit [PaneHost σ] in
theorem SameFlags.isEnabled (same : deck.SameFlags after) (index : Nat) :
    after.isEnabled index = deck.isEnabled index := by
  rw [isEnabled_eq, isEnabled_eq, same]

omit [PaneHost σ] in
theorem SameFlags.trans {first second third : Deck μ σ} (earlier : first.SameFlags second)
    (later : second.SameFlags third) : first.SameFlags third :=
  Eq.trans later earlier

omit [PaneHost σ] in
theorem Served.sameFlags (served : deck.Served after) : deck.SameFlags after := by
  rcases served with ⟨_, _, rfl, filled⟩
  exact filled.map_eq fun _ _ => rfl

theorem Switched.sameFlags (switched : deck.Switched after) : deck.SameFlags after := by
  rcases switched with rfl | ⟨index, outcome, -, -, activated⟩
  · rfl
  · rcases activate_eq_ok activated with ⟨_, _, mid, served, rfl, -, -⟩
    exact served.sameFlags

theorem sameFlags_of_press {touch : Touch} (done : deck.press touch = .ok (outcome, after)) :
    deck.SameFlags after := by
  rcases press_eq_ok done with ⟨point, rest⟩
  have begun : deck.SameFlags (deck.beginGesture point) := by
    simp only [beginGesture]
    split <;> rfl
  rcases rest with switched | ⟨index, rfl⟩
  · exact begun.trans switched.sameFlags
  · exact begun

theorem sameFlags_of_drag {movement : Point} {time : Nat}
    (done : deck.drag movement time = .ok (outcome, after)) : deck.SameFlags after := by
  rcases drag_eq_ok done with ⟨-, rfl⟩ | ⟨active, taken, gesture, row, -, -, -, takes, leaves⟩
  · rfl
  · cases taken with
    | true => exact (served_of_moveAll (takes rfl)).sameFlags
    | false =>
      rw [leaves rfl]
      rfl

theorem sameFlags_of_release (done : deck.release = .ok (outcome, after)) :
    deck.SameFlags after := by
  rcases release_eq_ok done with ⟨mid, switched, -, settles, stays⟩
  have chosen := switched.sameFlags
  cases flicks : deck.settings.flicks with
  | true =>
    rw [settles flicks]
    exact chosen
  | false =>
    rw [stays flicks]
    exact chosen

/-- No event of a gesture enables or disables a tab. -/
theorem sameFlags_of_perform [FontMetrics μ] {event : Input} {answer : Answer}
    (finger : (∃ touch, event = .press touch) ∨ (∃ touch movement time,
      event = .drag touch movement time) ∨ ∃ touch, event = .release touch)
    (done : deck.perform (.input event) = .ok (answer, after)) : deck.SameFlags after := by
  rcases accepted_eq_ok.mp done with ⟨outcome, handled, -⟩
  rcases handle_eq_ok handled with ⟨-, rfl⟩ | ⟨-, handled⟩
  · rfl
  · rcases finger with ⟨touch, rfl⟩ | ⟨touch, movement, time, rfl⟩ | ⟨touch, rfl⟩
    · exact sameFlags_of_press handled
    · exact sameFlags_of_drag handled
    · exact sameFlags_of_release handled

theorem Reaches.sameFlags [FontMetrics μ]
    (dragged : deck.Reaches (samples.map Sample.action) after) : deck.SameFlags after := by
  induction samples generalizing deck with
  | nil =>
    rw [List.map_nil, reaches_nil] at dragged
    rw [dragged]
    rfl
  | cons sample rest ih =>
    rcases reaches_cons.mp dragged with ⟨answer, middle, performed, later⟩
    have first := sameFlags_of_perform
      (Or.inr (Or.inl ⟨sample.touch, sample.movement, sample.time, rfl⟩)) performed
    exact first.trans (ih later)

end Flags

/-! ## Gestures -/

section Sessions

variable [FontMetrics μ] [PaneHost σ] {capacity : Nat} {captions : List Caption} {metrics : μ}
  {host : σ} {settings : Settings} {history : List Action} {down up : Touch}
  {first last : Answer} {start begun moved letGo : Deck μ σ}

/-- After a gesture that makes no tab active itself, time makes only enabled tabs active, exactly if
the row settles on the active tab, on the tab that the rule let in or on an enabled one. The gesture
changes no flag, so that the answer of the rule still counts when the row settles. -/
theorem ticks_enter_enabled_iff
    (made : ofCaptions capacity captions metrics host settings = .ok start)
    (refuses : settings.flickIntoDisabled = false) (reached : start.Reaches history deck)
    (activeEnabled : ∀ active, deck.active = some active → deck.isEnabled active = true)
    (pressed : deck.perform (.input (.press down)) = .ok (first, begun))
    (kept : begun.active = deck.active)
    (dragged : begun.Reaches (samples.map Sample.action) moved)
    (released : moved.perform (.input (.release up)) = .ok (last, letGo)) :
    (∀ pane, letGo.TicksInto pane → letGo.isEnabled pane = true) ↔
      ∀ pane, letGo.gesture.target = some pane →
        letGo.active = some pane ∨ begun.PagesInto samples pane ∨ letGo.isEnabled pane = true := by
  have coherentBegun := (reached.coherent (coherent_ofCaptions made)).perform pressed
  have coherent := (dragged.coherent coherentBegun).perform released
  have pressedFlags := sameFlags_of_perform (Or.inl ⟨down, rfl⟩) pressed
  have releasedFlags := sameFlags_of_perform (Or.inr (Or.inr ⟨up, rfl⟩)) released
  have flags := dragged.sameFlags.trans releasedFlags
  constructor
  · intro enters pane target
    by_cases isActive : letGo.active = some pane
    · exact Or.inl isActive
    · exact Or.inr (Or.inr (enters pane (coherent.ticksInto_iff.mpr ⟨target, isActive⟩)))
  · intro lands pane ticksInto
    rcases coherent.ticksInto_iff.mp ticksInto with ⟨target, inactive⟩
    rcases lands pane target with isActive | pagesInto | enabled
    · exact absurd isActive inactive
    · rw [flags.isEnabled]
      apply pagesInto.isEnabled
      · rw [(Lasts.of_perform pressed).settings, reached.lasts.settings]
        rcases ofCaptions_eq_ok made with ⟨-, _, _, -, rfl⟩
        exact refuses
      · intro active isActive
        rw [kept] at isActive
        rw [pressedFlags.isEnabled]
        exact activeEnabled active isActive
    · exact enabled

end Sessions

/-! ## Four images, the third of them disabled -/

/-- Settings for fingers that keep disabled tabs closed. -/
def closedSettings : Settings := { Settings.touchscreen with flickIntoDisabled := false }

/-- A deck of a hundred columns whose third tab is disabled. -/
def thirdDisabled : List Action := [.placeAt ⟨⟨0, 0⟩, ⟨100, 80⟩⟩, .enableTab 2 false]

/-- One movement by the width of the deck leads to the second tab, which is enabled. -/
theorem flick_enters_neighbour :
    ∃ start deck begun moved letGo : Deck FixedAdvance DemoPanes, ∃ first last,
      ofCaptions 8 fourImages ⟨6, 7, 10⟩ {} closedSettings = .ok start ∧
      closedSettings.flickIntoDisabled = false ∧ start.Reaches thirdDisabled deck ∧
      (∀ active, deck.active = some active → deck.isEnabled active = true) ∧
      deck.perform (.input (.press ⟨50, 50⟩)) = .ok (first, begun) ∧
      begun.active = deck.active ∧
      begun.Reaches ([⟨⟨50, 50⟩, ⟨-100, 0⟩, 0⟩].map Sample.action) moved ∧
      moved.perform (.input (.release ⟨50, 50⟩)) = .ok (last, letGo) ∧
      letGo.gesture.target = some 1 ∧
      ∀ pane, letGo.TicksInto pane → letGo.isEnabled pane = true := by
  obtain ⟨start, deck, begun, moved, letGo, first, last, made, reached, activeEnabled, pressed,
      kept, dragged, released, target, open_⟩ :
      ∃ start deck begun moved letGo : Deck FixedAdvance DemoPanes, ∃ first last,
        ofCaptions 8 fourImages ⟨6, 7, 10⟩ {} closedSettings = .ok start ∧
        start.Reaches thirdDisabled deck ∧
        (∀ active, deck.active = some active → deck.isEnabled active = true) ∧
        deck.perform (.input (.press ⟨50, 50⟩)) = .ok (first, begun) ∧
        begun.active = deck.active ∧
        begun.Reaches ([⟨⟨50, 50⟩, ⟨-100, 0⟩, 0⟩].map Sample.action) moved ∧
        moved.perform (.input (.release ⟨50, 50⟩)) = .ok (last, letGo) ∧
        letGo.gesture.target = some 1 ∧ letGo.isEnabled 1 = true := by
    refine ⟨_, _, _, _, _, _, _, rfl, ⟨_, rfl⟩, ?_, rfl, rfl, ⟨_, rfl⟩, rfl, rfl, rfl⟩
    intro active isActive
    cases isActive
    rfl
  refine ⟨start, deck, begun, moved, letGo, first, last, made, rfl, reached, activeEnabled, pressed,
    kept, dragged, released, target, ?_⟩
  apply (ticks_enter_enabled_iff made rfl reached activeEnabled pressed kept dragged released).mpr
  intro pane isTarget
  rw [target] at isTarget
  cases isTarget
  exact Or.inr (Or.inr open_)

/-- A second movement by the width of the deck leads on to the third tab, about which the rule was
not asked. -/
theorem flick_enters_disabled :
    ∃ start deck begun moved letGo : Deck FixedAdvance DemoPanes, ∃ first last,
      ofCaptions 8 fourImages ⟨6, 7, 10⟩ {} closedSettings = .ok start ∧
      closedSettings.flickIntoDisabled = false ∧ start.Reaches thirdDisabled deck ∧
      deck.AtRest ∧
      (∀ active, deck.active = some active → deck.isEnabled active = true) ∧
      deck.perform (.input (.press ⟨50, 50⟩)) = .ok (first, begun) ∧
      begun.active = deck.active ∧
      begun.Reaches ([⟨⟨50, 50⟩, ⟨-100, 0⟩, 0⟩, ⟨⟨50, 50⟩, ⟨-100, 0⟩, 16⟩].map Sample.action)
        moved ∧
      moved.perform (.input (.release ⟨50, 50⟩)) = .ok (last, letGo) ∧
      letGo.TicksInto 2 ∧ letGo.isEnabled 2 = false := by
  obtain ⟨start, deck, begun, moved, letGo, first, last, made, reached, rests, activeEnabled,
      pressed, kept, dragged, released, target, inactive, closed⟩ :
      ∃ start deck begun moved letGo : Deck FixedAdvance DemoPanes, ∃ first last,
        ofCaptions 8 fourImages ⟨6, 7, 10⟩ {} closedSettings = .ok start ∧
        start.Reaches thirdDisabled deck ∧ deck.AtRest ∧
        (∀ active, deck.active = some active → deck.isEnabled active = true) ∧
        deck.perform (.input (.press ⟨50, 50⟩)) = .ok (first, begun) ∧
        begun.active = deck.active ∧
        begun.Reaches ([⟨⟨50, 50⟩, ⟨-100, 0⟩, 0⟩, ⟨⟨50, 50⟩, ⟨-100, 0⟩, 16⟩].map Sample.action)
          moved ∧
        moved.perform (.input (.release ⟨50, 50⟩)) = .ok (last, letGo) ∧
        letGo.gesture.target = some 2 ∧ letGo.active = some 0 ∧ letGo.isEnabled 2 = false := by
    refine ⟨_, _, _, _, _, _, _, rfl, ⟨_, rfl⟩, ⟨rfl, rfl⟩, ?_, rfl, rfl, ⟨_, rfl⟩, rfl, rfl, rfl,
      rfl⟩
    intro active isActive
    cases isActive
    rfl
  have coherent := (dragged.coherent ((reached.coherent (coherent_ofCaptions made)).perform
    pressed)).perform released
  refine ⟨start, deck, begun, moved, letGo, first, last, made, rfl, reached, rests, activeEnabled,
    pressed, kept, dragged, released, ?_, closed⟩
  refine coherent.ticksInto_iff.mpr ⟨target, ?_⟩
  rw [inactive]
  decide

end Deck

end TabDeck
