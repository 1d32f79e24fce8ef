import TabDeck.Proofs.RingSearch
import TabDeck.Proofs.TapTargets

/-!
# In which direction arrows lead

A tap on an arrow should lead to a tab on its side, or nowhere. It does, unless the tabs on its side
are there but take no input: then the arrow can be tapped all the same, the search for the next tab
passes the end of the strip, and a tab on the other side becomes active if one takes input
(`Deck.arrow_keeps_direction_iff`).
-/

namespace TabDeck

namespace Arrows

/-- The arrow that points on, or the one that points back. -/
def button (arrows : Arrows) (forward : Bool) : Rect :=
  if forward then arrows.right else arrows.left

/-- Whether one of the arrows can be tapped. -/
def canTap (arrows : Arrows) (forward : Bool) : Bool :=
  if forward then arrows.rightEnabled else arrows.leftEnabled

variable {arrows : Arrows} {forward : Bool}

@[simp] theorem button_shiftBy (offset : Point) :
    (arrows.shiftBy offset).button forward = (arrows.button forward).shiftBy offset := by
  cases forward <;> rfl

@[simp] theorem canTap_shiftBy (offset : Point) :
    (arrows.shiftBy offset).canTap forward = arrows.canTap forward := rfl

/-- The left arrow ends two columns before the right one. -/
def Apart (arrows : Arrows) : Prop :=
  arrows.left.origin.x + arrows.left.size.width + 2 = arrows.right.origin.x

theorem apart_fit {size : Size} {stripHeight lineHeight : Nat} {edge : StripEdge} {touch : Bool}
    (narrow : ((fit size stripHeight lineHeight edge touch).left.size.width : Int) ≤
      Word.maxSigned) : (fit size stripHeight lineHeight edge touch).Apart := by
  simp only [fit, Apart] at narrow ⊢
  rw [Word.signed_ofNat narrow]
  omega

theorem Apart.not_both (apart : arrows.Apart) {point : Point}
    (left : arrows.left.Contains point) : ¬ arrows.right.Contains point := by
  simp only [Apart] at apart
  simp only [Rect.Contains] at left ⊢
  omega

/-- Both arrows lie where captions are hidden. -/
theorem Apart.limit_le (apart : arrows.Apart) {point : Point}
    (on : (arrows.button forward).Contains point) : arrows.limit ≤ point.x := by
  simp only [Apart] at apart
  cases forward with
  | true =>
    simp only [button, if_true, Rect.Contains] at on
    simp only [limit]
    omega
  | false =>
    simp only [button, Bool.false_eq_true, if_false, Rect.Contains] at on
    simp only [limit]
    omega

end Arrows

namespace Deck

variable {μ σ : Type} {deck : Deck μ σ} {point : Point} {index active : Nat} {forward : Bool}

/-! ## What arrows mean -/

/-- A tab that an arrow leads to does not lie on the other side, and is the active one if no tab on
the arrow's side takes input. -/
structure KeepsDirection (deck : Deck μ σ) (forward : Bool) (active current : Nat) : Prop where
  not_behind : ¬ Ring.Ahead (!forward) active current
  stays : (∀ index, Ring.Ahead forward active index → deck.isBlocked index ≠ .ok false) →
    current = active

/-- Of the tabs on one side none takes input, but one on the other side does. -/
def OnlyBehind (deck : Deck μ σ) (forward : Bool) (active : Nat) : Prop :=
  (∀ index, Ring.Ahead forward active index → deck.isBlocked index ≠ .ok false) ∧
    ∃ index, Ring.Ahead (!forward) active index ∧ deck.isBlocked index = .ok false

/-- A tab takes input when its flag says so. -/
theorem blockedFlags_eq_some {blocked : Bool} :
    deck.blockedFlags[index]? = some blocked ↔ deck.isBlocked index = .ok blocked := by
  have flag : deck.blockedFlags[index]? =
      deck.tabs[index]?.map fun tab => !tab.enabled && !deck.allDisabled := by
    simp only [blockedFlags, disabledFlags]
    cases deck.allDisabled <;>
      simp only [Bool.false_eq_true, if_true, if_false, List.getElem?_map, Bool.not_true,
        Bool.not_false, Bool.and_true, Bool.and_false]
  rw [flag, isBlocked, entry]
  cases deck.tabs[index]? <;> simp [Except.map]

@[simp] theorem length_blockedFlags : deck.blockedFlags.length = deck.tabs.length := by
  simp only [blockedFlags, disabledFlags]
  split <;> exact List.length_map _

theorem keepsDirection_self : deck.KeepsDirection forward active active :=
  ⟨Ring.not_ahead_self, fun _ => rfl⟩

/-- Where the search for the next tab leads from an arrow. -/
theorem keepsDirection_nextAvailable_iff (present : active < deck.tabs.length) :
    deck.KeepsDirection forward active (nextAvailable (some active) forward deck.blockedFlags) ↔
      ¬ deck.OnlyBehind forward active := by
  have inFlags : active < deck.blockedFlags.length := by rwa [length_blockedFlags]
  constructor
  · rintro keeps ⟨closed, index, behind, open_⟩
    apply keeps.not_behind
    apply nextAvailable_behind inFlags _ (blockedFlags_eq_some.mpr open_) behind
    intro other ahead alsoOpen
    exact closed other ahead (blockedFlags_eq_some.mp alsoOpen)
  · intro notBehind
    by_cases some_ : ∃ index, Ring.Ahead forward active index ∧ deck.isBlocked index = .ok false
    · rcases some_ with ⟨index, ahead, open_⟩
      have leads := nextAvailable_ahead inFlags (blockedFlags_eq_some.mpr open_) ahead
      exact ⟨leads.not_behind, fun closed => absurd open_ (closed index ahead)⟩
    · have back : nextAvailable (some active) forward deck.blockedFlags = active := by
        apply nextAvailable_self
        intro other apart open_
        rw [blockedFlags_eq_some] at open_
        rcases Ring.ahead_or_behind apart with ahead | behind
        · exact some_ ⟨other, ahead, open_⟩
        · refine notBehind ⟨fun index ahead alsoOpen => ?_, other, behind, open_⟩
          exact some_ ⟨index, ahead, alsoOpen⟩
      rw [back]
      exact keepsDirection_self

/-! ## What comes of a tap on an arrow -/

section Placed

variable [FontMetrics μ] {arrows : Arrows}

omit [FontMetrics μ] in
theorem arrows_of_arranges (arranges : deck.geometry.Arranges deck.inputs)
    (shown : deck.arrows = some arrows) :
    arrows = (Arrows.fit deck.bounds.size deck.strip.height deck.strip.lineHeight
      deck.settings.edge deck.settings.flicks).enableFor deck.active deck.tabs.length
        deck.enabled := by
  have needed : deck.arrows = deck.geometry.arrowsFor deck.inputs := arranges.arrows
  have count : deck.inputs.captions.length = deck.tabs.length := List.length_map _
  rw [shown, StripGeometry.arrowsFor, count] at needed
  split at needed
  · exact Option.some.inj needed
  · cases needed

variable (follows : deck.geometry.Follows deck.capacity deck.inputs)

include follows

/-- An arrow that can be tapped is not disabled with its deck. -/
theorem enabled_of_canTap (shown : deck.arrows = some arrows)
    (open_ : arrows.canTap forward = true) : deck.enabled = true := by
  rw [arrows_of_arranges follows.arranges shown] at open_
  cases forward with
  | true =>
    simp only [Arrows.canTap, Arrows.enableFor, if_true, Bool.and_eq_true] at open_
    exact open_.1
  | false =>
    simp only [Arrows.canTap, Arrows.enableFor, Bool.false_eq_true, if_false,
      Bool.and_eq_true] at open_
    exact open_.1

theorem apart_of_follows (shown : deck.arrows = some arrows)
    (narrow : (arrows.left.size.width : Int) ≤ Word.maxSigned) : arrows.Apart := by
  rw [arrows_of_arranges follows.arranges shown] at narrow ⊢
  exact Arrows.apart_fit narrow

end Placed

/-- A point on an arrow is on that arrow alone. -/
theorem arrowAt_of_button {arrows : Arrows} (shown : deck.arrows = some arrows)
    (apart : arrows.Apart) (on : (arrows.button forward).Contains point) :
    deck.arrowAt point = if arrows.canTap forward then some forward else none := by
  cases forward with
  | true =>
    simp only [Arrows.button, if_true] at on
    have beside : ¬ arrows.left.Contains point := fun left => apart.not_both left on
    simp [arrowAt, shown, Arrows.canTap, on, beside]
  | false =>
    simp only [Arrows.button, Bool.false_eq_true, if_false] at on
    simp [arrowAt, shown, Arrows.canTap, on, apart.not_both on]

/-- The search for the next open tab ends on a tab. -/
theorem Coherent.nextAvailable_lt (coherent : deck.Coherent) (isActive : deck.active = some active)
    (forward : Bool) :
    nextAvailable (some active) forward deck.blockedFlags < deck.tabs.length := by
  rcases nextAvailable_cases active forward deck.blockedFlags with same | open_
  · rw [same]
    exact coherent.present active isActive
  · have inRange := (List.getElem?_eq_some_iff.mp open_).1
    rwa [length_blockedFlags] at inRange

variable [PaneHost σ]

/-- A selection of a tab that is there makes it the active one. -/
theorem active_of_select {after : Deck μ σ} {outcome : Outcome} (present : index < deck.tabs.length)
    (done : deck.select index = .ok (outcome, after)) : after.active = some index := by
  rcases select_eq_ok done with ⟨rfl, -, absent | isActive⟩ | ⟨-, -, activated⟩
  · omega
  · exact isActive
  · exact active_of_activate activated

/-- A tap on an arrow that can be tapped makes the next tab active. -/
theorem active_of_tapArrow (coherent : deck.Coherent) (isActive : deck.active = some active) :
    ∃ outcome after, deck.tapArrow forward = .ok (outcome, after) ∧
      after.active = some (nextAvailable (some active) forward deck.blockedFlags) := by
  rcases coherent.select_total (nextAvailable deck.active forward deck.blockedFlags) with
    ⟨⟨outcome, after⟩, selected⟩
  refine ⟨{ outcome with consumed := true }, after, ?_, ?_⟩
  · rw [tapArrow, selected]
    rfl
  · rw [isActive] at selected
    exact active_of_select (coherent.nextAvailable_lt isActive forward) selected

variable [FontMetrics μ]

/-- A finger that comes down on an arrow keeps to its direction, unless the arrow can be tapped
while of all other tabs only some behind the active one take input. -/
theorem arrow_keeps_direction_iff (wasPlaced : deck.WasPlaced)
    (isActive : deck.active = some active) {arrows : Arrows}
    (shown : deck.visibleArrows = some arrows)
    (narrow : (arrows.left.size.width : Int) ≤ Word.maxSigned) {touch : Touch}
    (on : (arrows.button forward).Contains touch.point) :
    ∃ outcome after current, deck.handle (.press touch) = .ok (outcome, after) ∧
      after.active = some current ∧
      (deck.KeepsDirection forward active current ↔
        ¬(arrows.canTap forward = true ∧ deck.OnlyBehind forward active)) := by
  have follows := wasPlaced.follows
  have coherent := wasPlaced.coherent
  rcases Option.map_eq_some_iff.mp shown with ⟨own, isShown, rfl⟩
  rw [Arrows.button_shiftBy, Rect.contains_shiftBy] at on
  rw [Arrows.canTap_shiftBy]
  have apart := apart_of_follows follows isShown narrow
  have tapped := arrowAt_of_button isShown apart on
  cases canTap : own.canTap forward with
  | true =>
    rw [canTap] at tapped
    have begun := coherent.beginGesture (touch.point - deck.bounds.origin)
    have stillActive := (active_beginGesture (touch.point - deck.bounds.origin)).trans isActive
    rcases active_of_tapArrow begun stillActive with ⟨outcome, after, done, current⟩
    refine ⟨outcome, after, _, ?_, current, ?_⟩
    · simp only [handle, enabled_of_canTap follows isShown canTap, if_true]
      exact (press_of_arrow tapped).trans done
    · rw [blockedFlags_beginGesture, keepsDirection_nextAvailable_iff (coherent.present _ isActive)]
      simp only [true_and]
  | false =>
    rw [canTap] at tapped
    have hidden : deck.captionLimit ≤ touch.point.x := by
      have past := apart.limit_le on
      rw [Point.sub_x] at past
      simp only [captionLimit, stripLimit, isShown]
      omega
    rcases handle_press_of_beside tapped (Or.inl hidden) with ⟨after, done, same⟩
    refine ⟨.nothing, after, active, done, ?_, ?_⟩
    · rcases same with rfl | rfl
      · exact isActive
      · rw [active_beginGesture, isActive]
    · refine iff_of_true keepsDirection_self ?_
      rintro ⟨canTap, -⟩
      cases canTap

/-! ## Arrows beside disabled tabs -/

/-- The second of some tabs is active, and the third one is disabled. -/
def besideDisabled : List Action :=
  [.placeAt ⟨⟨0, 0⟩, ⟨100, 100⟩⟩, .select 1, .enableTab 2 false]

/-- The right arrow leads past a disabled tab to the one behind it. -/
theorem arrow_skips_disabled_tab :
    ∃ deck after : Deck FixedAdvance DemoPanes, ∃ arrows touch outcome current,
      deck.WasPlaced ∧ deck.active = some 1 ∧ deck.visibleArrows = some arrows ∧
      (arrows.left.size.width : Int) ≤ Word.maxSigned ∧
      (arrows.button true).Contains touch.point ∧ arrows.canTap true = true ∧
      deck.isBlocked 2 = .ok true ∧ deck.handle (.press touch) = .ok (outcome, after) ∧
      after.active = some current ∧ deck.KeepsDirection true 1 current := by
  obtain ⟨start, deck, arrows, answers, made, ran, isActive, shown, narrow, on, canTap, closed,
      open_⟩ :
      ∃ start deck : Deck FixedAdvance DemoPanes, ∃ arrows answers,
        ofCaptions 8 fourImages ⟨6, 7, 10⟩ {} {} = .ok start ∧
        start.run besideDisabled = .ok (answers, deck) ∧ deck.active = some 1 ∧
        deck.visibleArrows = some arrows ∧ (arrows.left.size.width : Int) ≤ Word.maxSigned ∧
        (arrows.button true).Contains ⟨97, 7⟩ ∧ arrows.canTap true = true ∧
        deck.isBlocked 2 = .ok true ∧ deck.isBlocked 3 = .ok false :=
    ⟨_, _, _, _, rfl, rfl, rfl, rfl, by decide, by decide, by decide, rfl, rfl⟩
  have wasPlaced : deck.WasPlaced := .of_run made ran
  have tapped : (arrows.button true).Contains (Touch.point ⟨97, 7⟩) := on
  rcases arrow_keeps_direction_iff wasPlaced isActive shown narrow tapped with
    ⟨outcome, after, current, done, becomes, keeps⟩
  refine ⟨deck, after, arrows, ⟨97, 7⟩, outcome, current, wasPlaced, isActive, shown, narrow,
    tapped, canTap, closed, done, becomes, keeps.mpr ?_⟩
  rintro ⟨-, none, -⟩
  exact none 3 (show 1 < 3 by decide) open_

/-- The right arrow leads back to the first tab when the last one is disabled. -/
theorem right_arrow_leads_left :
    ∃ deck after : Deck FixedAdvance DemoPanes, ∃ arrows touch outcome,
      deck.WasPlaced ∧ deck.active = some 1 ∧ deck.visibleArrows = some arrows ∧
      arrows.rightEnabled = true ∧ arrows.right.Contains touch.point ∧
      deck.handle (.press touch) = .ok (outcome, after) ∧ after.active = some 0 ∧
      ¬ deck.KeepsDirection true 1 0 := by
  obtain ⟨start, deck, after, arrows, outcome, answers, made, ran, isActive, shown, canTap, on,
      done, becomes⟩ :
      ∃ start deck after : Deck FixedAdvance DemoPanes, ∃ arrows outcome answers,
        ofCaptions 8 wideImages ⟨6, 7, 10⟩ {} {} = .ok start ∧
        start.run besideDisabled = .ok (answers, deck) ∧ deck.active = some 1 ∧
        deck.visibleArrows = some arrows ∧ arrows.rightEnabled = true ∧
        arrows.right.Contains ⟨97, 7⟩ ∧
        deck.handle (.press ⟨97, 7⟩) = .ok (outcome, after) ∧ after.active = some 0 :=
    ⟨_, _, _, _, _, _, rfl, rfl, rfl, rfl, rfl, by decide, rfl, rfl⟩
  have wasPlaced : deck.WasPlaced := .of_run made ran
  refine ⟨deck, after, arrows, ⟨97, 7⟩, outcome, wasPlaced, isActive, shown, canTap, on, done,
    becomes, fun keeps => keeps.not_behind ?_⟩
  show 0 < 1
  decide

end Deck

end TabDeck
