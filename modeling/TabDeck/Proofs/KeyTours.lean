import Mathlib.Data.List.Nodup
import TabDeck.Proofs.ArrowTaps
import TabDeck.Proofs.Modes

/-!
# Around the strip with the arrow keys

While the focus is on the strip, the left and right keys search for the next open tab. Repeated, the
search ends on the open places of the ring in the order in which they are met, so that as many
presses as there are open tabs visit each of them once and end where they began. The opposite key
takes a press back, since nothing open lies between (`Deck.arrow_keys_go_around`).
-/

namespace TabDeck

namespace Ring

/-- The places met on the way around, in some steps after others. -/
def stretch (count : Nat) (forward : Bool) (start met left : Nat) : List Nat :=
  (List.range' met left).map fun steps => around count forward start (steps + 1)

/-- The places met on the way once around, the place itself last. -/
def lap (count : Nat) (forward : Bool) (start : Nat) : List Nat :=
  stretch count forward start 0 count

/-- The places of a list that are open. -/
def openAmong (disabled : List Bool) (places : List Nat) : List Nat :=
  places.filter fun index => disabled[index]? = some false

section Laps

variable {count start index other steps further : Nat} {forward : Bool}

theorem around_count (present : start < count) : around count forward start count = start := by
  simp only [around]
  split <;> split <;> omega

theorem around_around (present : start < count) (within : steps + further ≤ count) :
    around count forward (around count forward start steps) further =
      around count forward start (steps + further) := by
  cases forward with
  | true =>
    simp only [around, if_true]
    split <;> split <;> split <;> omega
  | false =>
    simp only [around, Bool.false_eq_true, if_false]
    split <;> split <;> split <;> omega

theorem mem_lap (present : start < count) : index ∈ lap count forward start ↔ index < count := by
  simp only [lap, stretch, ← List.range_eq_range', List.mem_map, List.mem_range]
  constructor
  · rintro ⟨steps, inside, rfl⟩
    exact around_lt present inside
  · intro inRange
    have positive : 0 < distance count forward start index := distance_pos present inRange
    have within : distance count forward start index ≤ count := distance_le_count present inRange
    refine ⟨distance count forward start index - 1, by omega, ?_⟩
    rw [Nat.sub_add_cancel positive, around_distance present inRange]

theorem nodup_lap (present : start < count) : (lap count forward start).Nodup := by
  rw [lap, stretch, ← List.range_eq_range']
  refine List.Nodup.map_on ?_ List.nodup_range
  intro steps inside others alsoInside same
  rw [List.mem_range] at inside alsoInside
  have first : distance count forward start (around count forward start (steps + 1)) = steps + 1 :=
    distance_around present (Nat.succ_pos steps) inside
  rw [same, distance_around present (Nat.succ_pos others) alsoInside] at first
  omega

/-- The way once around meets every place once. -/
theorem lap_perm (present : start < count) :
    (lap count forward start).Perm (List.range count) := by
  refine (List.perm_ext_iff_of_nodup (nodup_lap present) List.nodup_range).mpr fun index => ?_
  rw [mem_lap present, List.mem_range]

/-- An open place is the last one on its way around. -/
theorem getLastD_lap {disabled : List Bool} (open_ : disabled[start]? = some false) :
    (openAmong disabled (lap disabled.length forward start)).getLastD start = start := by
  have present := (List.getElem?_eq_some_iff.mp open_).1
  have ends : around disabled.length forward start disabled.length = start := around_count present
  rcases Nat.exists_eq_succ_of_ne_zero (Nat.ne_zero_of_lt present) with ⟨last, count⟩
  simp only [lap, stretch, openAmong, ← List.range_eq_range', count, List.range_succ,
    List.map_append, List.map_cons, List.map_nil, List.filter_append, Nat.succ_eq_add_one]
    at ends ⊢
  rw [ends, List.filter_cons_of_pos (by simpa using open_), List.filter_nil, List.getLastD_concat]

/-- The way back is as long as the way there. -/
theorem distance_reverse :
    distance count (!forward) index start = distance count forward start index := by
  cases forward <;> rfl

/-- What lies on the way back lies on the way there. -/
theorem distance_lt_of_reverse (present : start < count) (inRange : index < count)
    (otherInRange : other < count) (apart : other ≠ start)
    (nearer : distance count (!forward) index other ≤ distance count (!forward) index start) :
    distance count forward start other < distance count forward start index := by
  rw [distance_reverse, distance_reverse] at nearer
  cases forward with
  | true =>
    simp only [distance, if_true] at nearer ⊢
    split at nearer <;> split at nearer <;> split <;> omega
  | false =>
    simp only [distance, Bool.false_eq_true, if_false] at nearer ⊢
    split at nearer <;> split at nearer <;> split <;> omega

end Laps

/-- Where a search ends that is repeated some times. -/
def tour (disabled : List Bool) (forward : Bool) (place : Nat) : Nat → List Nat
  | 0 => []
  | times + 1 =>
    let next := nextAvailable (some place) forward disabled
    next :: tour disabled forward next times

section Tours

variable {disabled : List Bool} {forward : Bool} {start index : Nat}

/-- The search ends on the first open place that it meets. -/
theorem nextAvailable_around (present : start < disabled.length) {here there : Nat}
    (further : here < there) (within : there ≤ disabled.length)
    (open_ : disabled[around disabled.length forward start there]? = some false)
    (closed : ∀ between, here < between → between < there →
      disabled[around disabled.length forward start between]? ≠ some false) :
    nextAvailable (some (around disabled.length forward start here)) forward disabled =
      around disabled.length forward start there := by
  have hereInRange : around disabled.length forward start here < disabled.length :=
    around_lt present (by omega)
  have split : around disabled.length forward start there =
      around disabled.length forward (around disabled.length forward start here)
        (there - here) := by
    rw [around_around present (by omega), Nat.add_sub_cancel' (Nat.le_of_lt further)]
  rcases nextAvailable_nearest forward hereInRange open_ with ⟨found, nearest⟩
  generalize nextAvailable (some (around disabled.length forward start here)) forward disabled =
    next at found nearest ⊢
  have inRange := (List.getElem?_eq_some_iff.mp found).1
  have positive : 0 < distance disabled.length forward _ next := distance_pos hereInRange inRange
  have back : around disabled.length forward _ (distance disabled.length forward _ next) = next :=
    around_distance hereInRange inRange
  rw [split, distance_around hereInRange (by omega) (by omega)] at nearest
  rw [around_around present (by omega)] at back
  rcases Nat.lt_or_eq_of_le nearest with nearer | same
  · rw [← back] at found
    exact absurd found (closed _ (by omega) (by omega))
  · rw [← back, same, Nat.add_sub_cancel' (Nat.le_of_lt further)]

/-- From a place with nothing open after it, up to those already passed, the search goes on to the
open ones that are left. -/
theorem tour_rest (forward : Bool) (present : start < disabled.length) {here met left : Nat}
    (passed : here ≤ met) (all : met + left = disabled.length)
    (closed : ∀ between, here < between → between ≤ met →
      disabled[around disabled.length forward start between]? ≠ some false) :
    let rest := openAmong disabled (stretch disabled.length forward start met left)
    tour disabled forward (around disabled.length forward start here) rest.length = rest := by
  induction left generalizing here met with
  | zero => rfl
  | succ left ih =>
    simp only [stretch, openAmong, List.range'_succ, List.map_cons]
    by_cases open_ : disabled[around disabled.length forward start (met + 1)]? = some false
    · have next := nextAvailable_around present (Nat.lt_succ_of_le passed) (by omega) open_
        fun between after before => closed between after (Nat.le_of_lt_succ before)
      rw [List.filter_cons_of_pos (by simpa using open_), List.length_cons, tour, next]
      congr 1
      exact ih (Nat.le_refl _) (by omega) fun between after before => by omega
    · rw [List.filter_cons_of_neg (by simpa using open_)]
      refine ih (by omega) (by omega) fun between after before => ?_
      rcases Nat.lt_or_eq_of_le before with earlier | rfl
      · exact closed between after (Nat.le_of_lt_succ earlier)
      · exact open_

/-- As many searches as there are open places go once around. -/
theorem tour_lap (present : start < disabled.length) {times : Nat}
    (all : (openAmong disabled (lap disabled.length forward start)).length = times) :
    tour disabled forward start times =
      openAmong disabled (lap disabled.length forward start) := by
  have whole := tour_rest forward present (Nat.le_refl 0) (Nat.zero_add disabled.length)
    fun between after before => by omega
  rw [around_zero present] at whole
  rw [← all]
  exact whole

/-- A search in the other direction comes back. -/
theorem nextAvailable_back (open_ : disabled[start]? = some false) :
    nextAvailable (some (nextAvailable (some start) forward disabled)) (!forward) disabled =
      start := by
  have present := (List.getElem?_eq_some_iff.mp open_).1
  have found := (nextAvailable_nearest forward present open_).1
  have inRange := (List.getElem?_eq_some_iff.mp found).1
  rcases nextAvailable_nearest (!forward) inRange open_ with ⟨foundBack, nearest⟩
  by_contra apart
  have between := distance_lt_of_reverse present inRange
    (List.getElem?_eq_some_iff.mp foundBack).1 apart nearest
  have least := (nextAvailable_nearest forward present foundBack).2
  omega

end Tours

end Ring

/-- The key that points on along the strip, or back. -/
def Direction.along (forward : Bool) : Direction := if forward then .right else .left

namespace Navigation

variable {μ : Type} {nav : Navigation μ}

/-- A key leads to the next open tab, whatever the panes are like. -/
theorem follow_key {active : Nat} {forward : Bool} {answer : Option Bool}
    (attentive : nav.settings.keyboardFocus = true) (onStrip : nav.focus = .onStrip)
    (isActive : nav.active = some active)
    (present : nextAvailable (some active) forward nav.blockedFlags < nav.flags.length) :
    ∃ lastActive, nav.follow (.key (.along forward)) answer =
      { nav with
        active := some (nextAvailable (some active) forward nav.blockedFlags), lastActive
        focus := .onStrip } := by
  have responds : nav.focus.respond (.key (.along forward)) nav.settings.edge =
      (.onStrip, .changeTab forward) := by
    rw [onStrip]
    cases forward <;> rfl
  simp only [follow, attentive, responds, if_true, isActive, choose]
  split
  · next idle =>
    have stays := idle.resolve_left (Nat.not_le_of_lt present)
    exact ⟨nav.lastActive, by rw [← stays]⟩
  · exact ⟨some active, rfl⟩

end Navigation

namespace Deck

variable {μ σ : Type} {deck : Deck μ σ} {active : Nat}

/-- The tabs that take input: those that are enabled, or all of them if none is. -/
def openTabs (deck : Deck μ σ) : List Nat :=
  let flags := deck.tabs.map Tab.enabled
  (List.range flags.length).filter fun index => flags[index]? = some true ∨ true ∉ flags

theorem allDisabled_iff : deck.allDisabled = true ↔ true ∉ deck.tabs.map Tab.enabled := by
  simp [allDisabled]

theorem openTabs_eq : deck.openTabs =
    (List.range deck.tabs.length).filter fun index => deck.blockedFlags[index]? = some false := by
  simp only [openTabs, List.length_map]
  refine List.filter_congr fun index inRange => ?_
  rw [List.mem_range] at inRange
  rw [decide_eq_decide, ← allDisabled_iff, blockedFlags_eq_some, isBlocked, entry,
    List.getElem?_map, List.getElem?_eq_getElem inRange]
  cases (deck.tabs[index]).enabled <;> cases deck.allDisabled <;> simp [Except.map]

/-- Presses a key some times, and gathers which tab is active after each press. -/
def pressKeys [PaneHost σ] (deck : Deck μ σ) (direction : Direction) :
    Nat → Except Fault (List (Option Nat) × Deck μ σ)
  | 0 => .ok ([], deck)
  | times + 1 => do
    let (_, deck) ← deck.handle (.key direction)
    let (visited, last) ← deck.pressKeys direction times
    return (deck.active :: visited, last)

/-- The left and right keys change the tabs of the deck. -/
structure TakesKeys (deck : Deck μ σ) : Prop where
  coherent : deck.Coherent
  enabled : deck.enabled = true
  attentive : deck.settings.keyboardFocus = true
  onStrip : deck.focus = .onStrip

section Keys

variable [PaneHost σ]

/-- A key makes the next open tab active, and changes nothing that matters to keys. -/
theorem TakesKeys.press (takes : deck.TakesKeys) (isActive : deck.active = some active)
    (forward : Bool) :
    ∃ outcome after, deck.handle (.key (.along forward)) = .ok (outcome, after) ∧
      after.TakesKeys ∧ after.blockedFlags = deck.blockedFlags ∧
      after.active = some (nextAvailable (some active) forward deck.blockedFlags) := by
  have handled : deck.handle (.key (.along forward)) =
      deck.handleFocus (.key (.along forward)) := by
    simp only [handle, takes.enabled, if_true]
  rcases takes.coherent.handleFocus_total (.key (.along forward)) with ⟨⟨outcome, after⟩, done⟩
  rcases navigates_of_handleFocus done with ⟨answer, -, -, leads⟩
  have inRange : nextAvailable (some active) forward deck.navigation.blockedFlags <
      deck.navigation.flags.length := by
    rw [length_navigation_flags, navigation_blockedFlags]
    exact takes.coherent.nextAvailable_lt isActive forward
  have attentive : deck.navigation.settings.keyboardFocus = true := takes.attentive
  rcases Navigation.follow_key attentive takes.onStrip isActive inRange with ⟨lastActive, followed⟩
  rw [followed, navigation_blockedFlags] at leads
  refine ⟨outcome, after, handled.trans done, ⟨takes.coherent.handleFocus done, ?_, ?_, ?_⟩, ?_, ?_⟩
  · exact (congrArg Navigation.enabled leads).trans takes.enabled
  · have settings := congrArg Navigation.settings leads
    exact (congrArg Settings.keyboardFocus settings).trans attentive
  · exact congrArg Navigation.focus leads
  · rw [← navigation_blockedFlags after, leads]
    exact navigation_blockedFlags deck
  · exact congrArg Navigation.active leads

/-- Pressed again and again, a key makes those tabs active on which the search ends. -/
theorem TakesKeys.pressKeys (takes : deck.TakesKeys) (isActive : deck.active = some active)
    (forward : Bool) (times : Nat) :
    ∃ after, deck.pressKeys (.along forward) times =
        .ok ((Ring.tour deck.blockedFlags forward active times).map some, after) ∧
      after.active = some ((Ring.tour deck.blockedFlags forward active times).getLastD active) := by
  induction times generalizing deck active with
  | zero => exact ⟨deck, rfl, isActive⟩
  | succ times ih =>
    rcases takes.press isActive forward with ⟨outcome, next, pressed, nextTakes, flags, current⟩
    rcases ih nextTakes current with ⟨after, continued, last⟩
    rw [flags] at continued last
    refine ⟨after, ?_, ?_⟩
    · rw [Deck.pressKeys, pressed]
      simp only [bind_eq_ok, pure_eq_ok]
      exact ⟨_, rfl, _, continued, by rw [current]; rfl⟩
    · rw [Ring.tour, List.getLastD_cons]
      exact last

variable [FontMetrics μ] {start : Deck μ σ} {actions : List Action} {capacity : Nat}
  {captions : List Caption} {metrics : μ} {host : σ} {settings : Settings}

/-- Wherever a session led to: if the keys change tabs and the active tab is open, then as many
presses of a key as there are open tabs visit each of them once and come back to the first, and the
opposite key takes a press back. -/
theorem arrow_keys_go_around
    (made : ofCaptions capacity captions metrics host settings = .ok start)
    (reached : start.Reaches actions deck) (enabled : deck.enabled = true)
    (attentive : deck.settings.keyboardFocus = true) (onStrip : deck.focus = .onStrip)
    (isActive : deck.active = some active) (open_ : deck.isBlocked active = .ok false)
    (forward : Bool) :
    (∃ visited after,
      deck.pressKeys (.along forward) deck.openTabs.length = .ok (visited, after) ∧
        visited.Perm (deck.openTabs.map some) ∧ after.active = some active) ∧
    ∃ first next second after,
      deck.handle (.key (.along forward)) = .ok (first, next) ∧
        next.handle (.key (.along !forward)) = .ok (second, after) ∧
        after.active = some active := by
  have takes : deck.TakesKeys :=
    ⟨reached.coherent (coherent_ofCaptions made), enabled, attentive, onStrip⟩
  have inFlags := blockedFlags_eq_some.mpr open_
  have present := (List.getElem?_eq_some_iff.mp inFlags).1
  constructor
  · have met : (Ring.openAmong deck.blockedFlags
        (Ring.lap deck.blockedFlags.length forward active)).Perm deck.openTabs := by
      rw [openTabs_eq, ← length_blockedFlags]
      exact (Ring.lap_perm present).filter _
    rcases takes.pressKeys isActive forward deck.openTabs.length with ⟨after, pressed, last⟩
    rw [Ring.tour_lap present met.length_eq] at pressed last
    exact ⟨_, after, pressed, met.map some, last.trans (congrArg some (Ring.getLastD_lap inFlags))⟩
  · rcases takes.press isActive forward with ⟨first, next, pressed, nextTakes, flags, current⟩
    rcases nextTakes.press current (!forward) with ⟨second, after, back, -, -, last⟩
    rw [flags, Ring.nextAvailable_back inFlags] at last
    exact ⟨first, next, second, after, pressed, back, last⟩

end Keys

/-- The focus is on the strip, and the second of some tabs is disabled. -/
def onStripBesideDisabled : List Action :=
  [.placeAt ⟨⟨0, 0⟩, ⟨100, 100⟩⟩, .enableTab 1 false, .input .focus]

/-- Three presses of the left key visit the enabled ones of four tabs. -/
theorem left_key_goes_around_enabled_tabs :
    ∃ deck : Deck FixedAdvance DemoPanes, deck.openTabs = [0, 2, 3] ∧ deck.active = some 0 ∧
      (∃ visited after, deck.pressKeys (.along false) 3 = .ok (visited, after) ∧
        visited.Perm [some 0, some 2, some 3] ∧ after.active = some 0) ∧
      ∃ first next second after,
        deck.handle (.key .left) = .ok (first, next) ∧
          next.handle (.key .right) = .ok (second, after) ∧ after.active = some 0 := by
  obtain ⟨start, deck, made, reached, enabled, attentive, onStrip, isActive, open_, tabs⟩ :
      ∃ start deck : Deck FixedAdvance DemoPanes,
        ofCaptions 8 fourImages ⟨6, 7, 10⟩ {} { keyboardFocus := true } = .ok start ∧
        start.Reaches onStripBesideDisabled deck ∧ deck.enabled = true ∧
        deck.settings.keyboardFocus = true ∧ deck.focus = .onStrip ∧ deck.active = some 0 ∧
        deck.isBlocked 0 = .ok false ∧ deck.openTabs = [0, 2, 3] :=
    ⟨_, _, rfl, ⟨_, rfl⟩, rfl, rfl, rfl, rfl, rfl, by decide⟩
  have around := arrow_keys_go_around made reached enabled attentive onStrip isActive open_ false
  rw [tabs] at around
  exact ⟨deck, tabs, isActive, around⟩

end Deck

end TabDeck
