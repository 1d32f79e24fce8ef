import TabDeck.Proofs.StripColumns
import TabDeck.Proofs.TouchSearch

/-!
# Which tab a tap hits

A tap in one tab only should hit that tab. In paged mode it does. In flick mode the nearest tab is
hit, of several the first, and a tab is at no distance from the first column and the first row past
it. Tabs share one column with their neighbours, so that the column past a tab is one that its
neighbour has to itself, and a tap there hits the tab before (`Deck.tap_hits_tab_iff`).
-/

namespace TabDeck

/-! ## The rows of a strip -/

/-- The rectangle keeps to the first rows. -/
def Rect.InRows (rect : Rect) (height : Nat) : Prop :=
  0 ≤ rect.origin.y ∧ rect.origin.y + rect.size.height ≤ height

/-- A tab keeps to the rows of its strip, and has two columns besides the one that it shares. -/
structure TabMeasure.Upright (tab : TabMeasure) (height : Nat) : Prop where
  selected : tab.selected.InRows height
  unselected : tab.unselected.InRows height
  wide : 3 ≤ tab.unselected.size.width

namespace StripPolicy

/-- There is room for what inactive tabs are lower than the active one. -/
theorem room_of_stripHeight (policy : StripPolicy) (lineHeight : Nat) (captions : List Caption) :
    unselectedDrop ≤ policy.stripHeight lineHeight captions ∧
      (policy.style = .material → textStrip captions = true →
        policy.extraHeight / 2 ≤ policy.stripHeight lineHeight captions) := by
  simp only [stripHeight, unselectedDrop, classicRows, materialRows, imageRows]
  split
  · split
    · next classic => simp [classic]; omega
    · refine ⟨?_, fun _ _ => ?_⟩ <;> omega
  · next isImage => simp [isImage]

theorem upright_tabMeasure (policy : StripPolicy) {isText : Bool} {height : Nat}
    (widths : Nat × Nat) (room : unselectedDrop ≤ height)
    (half : policy.style = .material → isText = true → policy.extraHeight / 2 ≤ height) :
    (policy.tabMeasure isText height widths).Upright height := by
  simp only [unselectedDrop] at room
  simp only [tabMeasure]
  split
  · next classic =>
    refine ⟨?_, ?_, ?_⟩
    · simp [Rect.InRows]
    · simp only [Rect.InRows, unselectedDrop]
      split <;> omega
    · simp [unselectedColumns]
  · next material =>
    refine ⟨?_, ?_, ?_⟩
    · simp [Rect.InRows]
    · split
      · next overlaid =>
        simp only [Bool.and_eq_true] at overlaid
        have lower := half material overlaid.1
        simp only [Rect.InRows]
        split <;> omega
      · simp [Rect.InRows]
    · split <;> simp [materialColumns]

end StripPolicy

namespace Strip

theorem upright_of_measure {μ : Type} [FontMetrics μ] {capacity : Nat} {captions : List Caption}
    {metrics : μ} {policy : StripPolicy} {strip : Strip}
    (measured : measure capacity captions metrics policy = .ok strip) :
    ∀ tab ∈ strip.tabs, tab.Upright strip.height := by
  intro tab member
  simp only [measure, bind_eq_ok, pure_eq_ok] at measured
  rcases measured with ⟨_, _, rfl⟩
  rcases List.mem_map.mp member with ⟨widths, -, rfl⟩
  rcases policy.room_of_stripHeight (FontMetrics.lineHeight metrics .plain) captions with
    ⟨room, half⟩
  exact policy.upright_tabMeasure widths room half

/-- A placed tab is one of its two rectangles, moved to the rows of the strip. -/
theorem size_placeFrom {active : Option Nat} {top left : Int} {first : Nat}
    {tabs : List TabMeasure} {rect : Rect} (member : rect ∈ placeFrom active top first left tabs) :
    ∃ tab ∈ tabs, ∃ own, (own = tab.selected ∨ own = tab.unselected) ∧ rect.size = own.size ∧
      rect.origin.y = own.origin.y + top := by
  induction tabs generalizing first left with
  | nil => simp [placeFrom] at member
  | cons tab rest ih =>
    simp only [placeFrom, List.mem_cons] at member
    rcases member with rfl | later
    · refine ⟨tab, List.mem_cons_self, if active = some first then tab.selected else tab.unselected,
        ?_, rfl, rfl⟩
      split
      · exact Or.inl rfl
      · exact Or.inr rfl
    · rcases ih later with ⟨other, isOther, own⟩
      exact ⟨other, List.mem_cons_of_mem tab isOther, own⟩

/-- Between a tab and the next but one there are two columns at least. -/
theorem columns_take_add_two {widths : List Nat} {first second width : Nat}
    (wide : ∀ width ∈ widths, 3 ≤ width) (present : widths[first]? = some width)
    (apart : first + 1 < second) (inRange : second ≤ widths.length) :
    columns (widths.take first) + width + 1 ≤ columns (widths.take second) := by
  induction widths generalizing first second with
  | nil => simp at present
  | cons head rest ih =>
    rw [List.forall_mem_cons] at wide
    obtain ⟨second, rfl⟩ : ∃ before, second = before + 1 := ⟨second - 1, by omega⟩
    simp only [List.length_cons] at inRange
    cases first with
    | zero =>
      simp only [List.getElem?_cons_zero, Option.some.injEq] at present
      subst present
      obtain ⟨next, others, rfl⟩ : ∃ next others, rest = next :: others :=
        List.exists_cons_of_length_pos (by omega)
      obtain ⟨second, rfl⟩ : ∃ before, second = before + 1 := ⟨second - 1, by omega⟩
      have nextWide := wide.2 next List.mem_cons_self
      simp only [List.take_zero, List.take_succ_cons, columns_nil, columns_cons]
      omega
    | succ first =>
      simp only [List.getElem?_cons_succ] at present
      have later := ih wide.2 present (Nat.lt_of_succ_lt_succ apart) (by omega)
      simp only [List.take_succ_cons, columns_cons]
      omega

end Strip

namespace Deck

variable {μ σ : Type} {deck : Deck μ σ} {point : Point} {index : Nat}

/-! ## What a tap can mean -/

/-- The point lies in the rectangle of one tab, and of no other. -/
def OnlyTabAt (deck : Deck μ σ) (point : Point) (index : Nat) : Prop :=
  (∃ rect, deck.tabRect index = some rect ∧ rect.Contains point) ∧
    ∀ other rect, deck.tabRect other = some rect → rect.Contains point → other = index

instance (deck : Deck μ σ) (point : Point) (index : Nat) :
    Decidable (deck.OnlyTabAt point index) :=
  decidable_of_iff
    ((∃ rect ∈ deck.tabRect index, rect.Contains point) ∧
      ∀ other < deck.stripRects.length, (∃ rect ∈ deck.tabRect other, rect.Contains point) →
        other = index) (by
    apply and_congr Iff.rfl
    constructor
    · intro alone other rect isRect contains
      rcases Option.map_eq_some_iff.mp isRect with ⟨_, present, -⟩
      exact alone other (List.getElem?_eq_some_iff.mp present).1 ⟨rect, isRect, contains⟩
    · rintro alone other - ⟨rect, isRect, contains⟩
      exact alone other rect isRect contains)

/-- The point lies in no arrow. -/
def ClearOfArrows (deck : Deck μ σ) (point : Point) : Prop :=
  ∀ arrows, deck.visibleArrows = some arrows →
    ¬ arrows.left.Contains point ∧ ¬ arrows.right.Contains point

/-- The tab before this one ends in the column or row before the point. -/
def TouchesPrevious (deck : Deck μ σ) (point : Point) (index : Nat) : Prop :=
  ∃ previous rect, previous + 1 = index ∧ deck.tabRect previous = some rect ∧ rect.Touches point

/-- A tap may enter the tab: it is not active and takes input. -/
def Enterable (deck : Deck μ σ) (index : Nat) : Prop :=
  deck.active ≠ some index ∧ deck.isBlocked index = .ok false

/-- What comes of a tap on a tab. A classic tab becomes active and a flat one is pressed, and a tap
on a tab that may not be entered is only used up. -/
structure Hits (deck : Deck μ σ) (index : Nat) (outcome : Outcome) (after : Deck μ σ) : Prop where
  consumed : outcome.consumed = true
  enters : deck.Enterable index → match deck.settings.style with
    | .classic => after.active = some index ∧ after.pressed = none
    | .material => after.active = deck.active ∧ after.pressed = some index
  stays : ¬ deck.Enterable index →
    outcome = .usedUp ∧ after.active = deck.active ∧ after.pressed = none

/-- A tap that hits a tab hits another as well only when it may enter neither. -/
theorem Hits.other {after : Deck μ σ} {outcome : Outcome} {other : Nat}
    (hits : deck.Hits other outcome after) (apart : other ≠ index) :
    deck.Hits index outcome after ↔ ¬(deck.Enterable other ∨ deck.Enterable index) := by
  constructor
  · rintro also (enterable | enterable)
    · have entered := hits.enters enterable
      by_cases both : deck.Enterable index
      · have alsoEntered := also.enters both
        cases style : deck.settings.style with
        | classic =>
          simp only [style] at entered alsoEntered
          rw [entered.1, Option.some.injEq] at alsoEntered
          exact apart alsoEntered.1
        | material =>
          simp only [style] at entered alsoEntered
          rw [entered.2, Option.some.injEq] at alsoEntered
          exact apart alsoEntered.2
      · have stayed := also.stays both
        cases style : deck.settings.style with
        | classic =>
          simp only [style] at entered
          rw [entered.1] at stayed
          exact enterable.1 stayed.2.1.symm
        | material =>
          simp only [style] at entered
          rw [entered.2] at stayed
          exact absurd stayed.2.2 nofun
    · have entered := also.enters enterable
      by_cases both : deck.Enterable other
      · have alsoEntered := hits.enters both
        cases style : deck.settings.style with
        | classic =>
          simp only [style] at entered alsoEntered
          rw [entered.1, Option.some.injEq] at alsoEntered
          exact apart alsoEntered.1.symm
        | material =>
          simp only [style] at entered alsoEntered
          rw [entered.2, Option.some.injEq] at alsoEntered
          exact apart alsoEntered.2.symm
      · have stayed := hits.stays both
        cases style : deck.settings.style with
        | classic =>
          simp only [style] at entered
          rw [entered.1] at stayed
          exact enterable.1 stayed.2.1.symm
        | material =>
          simp only [style] at entered
          rw [entered.2] at stayed
          exact absurd stayed.2.2 nofun
  · intro neither
    rw [not_or] at neither
    exact ⟨hits.consumed, fun enterable => absurd enterable neither.2,
      fun _ => hits.stays neither.1⟩

/-! ## The tab that a tap means -/

theorem tabRect_eq_some {rect : Rect} :
    deck.tabRect index = some rect ↔
      ∃ own, deck.stripRects[index]? = some own ∧ own.shiftBy deck.bounds.origin = rect := by
  simp only [tabRect, Option.map_eq_some_iff]

section Placed

variable [FontMetrics μ] (follows : deck.geometry.Follows deck.capacity deck.inputs)

include follows

/-- Placed tabs keep to the rows of the strip, and are no wider than when they are active. -/
theorem measured_of_placed {rect : Rect} (member : rect ∈ deck.stripRects) :
    ∃ tab ∈ deck.strip.tabs, 3 ≤ rect.size.width ∧
      rect.size.width ≤ tab.selected.size.width ∧ deck.stripRow ≤ rect.origin.y ∧
      rect.origin.y + rect.size.height ≤ deck.stripRow + deck.strip.height := by
  have placed : deck.placed = deck.strip.place deck.active deck.settings.edge
    deck.bounds.size.height := follows.arranges.placed
  rcases List.mem_map.mp member with ⟨unshifted, isPlaced, rfl⟩
  rw [placed] at isPlaced
  rcases Strip.size_placeFrom isPlaced with ⟨tab, isTab, own, isOwn, size, row⟩
  have upright : tab.Upright deck.strip.height :=
    Strip.upright_of_measure follows.measures.measured tab isTab
  have grows := (sound_of_follows follows tab isTab).grows
  have wide := upright.wide
  refine ⟨tab, isTab, ?_⟩
  simp only [Rect.shiftBy_size, Rect.shiftBy_origin, Point.add_y, size, row, stripRow]
  rcases isOwn with rfl | rfl
  · have rows := upright.selected
    simp only [Rect.InRows] at rows
    omega
  · have rows := upright.unselected
    simp only [Rect.InRows] at rows
    omega

theorem inWords_of_placed
    (narrow : ∀ tab ∈ deck.strip.tabs, (tab.selected.size.width : Int) ≤ Word.maxSigned)
    (low : (deck.strip.height : Int) ≤ Word.maxSigned) :
    ∀ rect ∈ deck.stripRects, rect.InWords := by
  intro rect member
  rcases measured_of_placed follows member with ⟨tab, isTab, -, narrower, top, bottom⟩
  have width := narrow tab isTab
  constructor <;> omega

/-- Where a tab is in the strip, and how wide. -/
theorem column_of_placed (isActive : ∃ active, deck.active = some active)
    (narrow : ∀ tab ∈ deck.strip.tabs, (tab.selected.size.width : Int) ≤ Word.maxSigned)
    {rect : Rect} (present : deck.stripRects[index]? = some rect) :
    (Strip.widthsOf deck.placed)[index]? = some rect.size.width ∧
      rect.origin.x = 1 + Strip.columns ((Strip.widthsOf deck.placed).take index) + deck.shift := by
  rcases isActive with ⟨active, isActive⟩
  have widths : Strip.widthsOf deck.stripRects = Strip.widthsOf deck.placed := by
    simp [Strip.widthsOf, stripRects]
  have measured : ∀ width ∈ (Strip.widthsOf deck.placed).take index,
      2 ≤ width ∧ (width : Int) ≤ Word.maxSigned := by
    intro width member
    rw [← widths] at member
    rcases List.mem_map.mp (List.mem_of_mem_take member) with ⟨other, isOther, rfl⟩
    rcases measured_of_placed follows isOther with ⟨tab, isTab, wide, narrower, -⟩
    have fits := narrow tab isTab
    omega
  rw [← Strip.advance_eq (fun width member => (measured width member).1)
    fun width member => (measured width member).2]
  simp only [stripRects, List.getElem?_map, Option.map_eq_some_iff] at present
  rcases present with ⟨unshifted, isPlaced, rfl⟩
  refine ⟨by simp [Strip.widthsOf, isPlaced], ?_⟩
  rw [placed_of_follows follows isActive] at isPlaced ⊢
  rw [← Strip.origin_placeFrom isPlaced]
  rfl

/-- A point in a tab touches no tab before it but its neighbour. -/
theorem neighbour_of_touches (isActive : ∃ active, deck.active = some active)
    (narrow : ∀ tab ∈ deck.strip.tabs, (tab.selected.size.width : Int) ≤ Word.maxSigned)
    {rect other : Rect} {earlier : Nat} (present : deck.stripRects[index]? = some rect)
    (contains : rect.Contains point) (before : earlier < index)
    (isOther : deck.stripRects[earlier]? = some other) (touches : other.Touches point) :
    earlier + 1 = index := by
  rcases column_of_placed follows isActive narrow present with ⟨-, column⟩
  rcases column_of_placed follows isActive narrow isOther with ⟨width, otherColumn⟩
  have wide : ∀ width ∈ Strip.widthsOf deck.placed, 3 ≤ width := by
    intro width member
    rcases List.mem_map.mp member with ⟨unshifted, isPlaced, rfl⟩
    rcases measured_of_placed follows (List.mem_map_of_mem isPlaced) with ⟨_, -, wide, -⟩
    exact wide
  have inRange : index ≤ (Strip.widthsOf deck.placed).length := by
    have bound := (List.getElem?_eq_some_iff.mp present).1
    simp only [stripRects, List.length_map] at bound
    rw [Strip.length_widthsOf]
    omega
  simp only [Rect.Contains] at contains
  simp only [Rect.Touches] at touches
  by_contra apart
  have columns := Strip.columns_take_add_two wide width (by omega) inRange
  omega

section TabAt

variable (isActive : ∃ active, deck.active = some active)
  (narrow : ∀ tab ∈ deck.strip.tabs, (tab.selected.size.width : Int) ≤ Word.maxSigned)
  (low : (deck.strip.height : Int) ≤ Word.maxSigned)
  (only : deck.OnlyTabAt point index)

include isActive narrow low only

/-- A tab hides nothing of its neighbours from a tap in it, if it ends before the point. -/
theorem tabAt_of_only (apart : ¬(deck.settings.flicks = true ∧ deck.TouchesPrevious point index)) :
    deck.tabAt (point - deck.bounds.origin) = some index := by
  rcases only with ⟨⟨rect, isRect, contains⟩, alone⟩
  rcases tabRect_eq_some.mp isRect with ⟨own, present, rfl⟩
  rw [Rect.contains_shiftBy] at contains
  cases flicks : deck.settings.flicks with
  | true =>
    simp only [tabAt, flicks, if_true]
    apply Rect.nearestWithin_eq_some _ (inWords_of_placed follows narrow low) present
      contains.touches
    intro earlier other before isOther touches
    have next :=
      neighbour_of_touches follows isActive narrow present contains before isOther touches
    refine apart ⟨flicks, earlier, _, next, tabRect_eq_some.mpr ⟨other, isOther, rfl⟩, ?_⟩
    rwa [Rect.touches_shiftBy]
  | false =>
    have inStrip : deck.inStrip (point - deck.bounds.origin) = true := by
      rcases measured_of_placed follows (List.mem_of_getElem? present) with
        ⟨_, -, -, -, top, bottom⟩
      have rows := contains.2.2
      simp only [inStrip, Word.signed_ofNat low, Bool.and_eq_true, decide_eq_true_eq]
      omega
    simp only [tabAt, flicks, Bool.false_eq_true, if_false, inStrip, if_true]
    apply Rect.lastContaining_eq_some present contains
    intro later other after isOther also
    have same := alone later _ (tabRect_eq_some.mpr ⟨other, isOther, rfl⟩)
      (Rect.contains_shiftBy.mpr also)
    omega

/-- In flick mode a tap in the first column past a tab means that tab. -/
theorem tabAt_of_touchesPrevious (flicks : deck.settings.flicks = true)
    (touches : deck.TouchesPrevious point index) :
    ∃ previous, previous + 1 = index ∧
      deck.tabAt (point - deck.bounds.origin) = some previous := by
  rcases only with ⟨⟨rect, isRect, contains⟩, -⟩
  rcases tabRect_eq_some.mp isRect with ⟨own, present, rfl⟩
  rw [Rect.contains_shiftBy] at contains
  rcases touches with ⟨previous, before, next, isBefore, touches⟩
  rcases tabRect_eq_some.mp isBefore with ⟨other, isOther, rfl⟩
  rw [Rect.touches_shiftBy] at touches
  refine ⟨previous, next, ?_⟩
  simp only [tabAt, flicks, if_true]
  apply Rect.nearestWithin_eq_some _ (inWords_of_placed follows narrow low) isOther touches
  intro earlier another before isAnother alsoTouches
  have neighbour := neighbour_of_touches follows isActive narrow present contains (by omega)
    isAnother alsoTouches
  omega

end TabAt

end Placed

/-! ## What comes of a tap -/

theorem arrowAt_of_clear (clear : deck.ClearOfArrows point) :
    deck.arrowAt (point - deck.bounds.origin) = none := by
  simp only [arrowAt]
  split
  · rfl
  · next arrows shown =>
    have apart := clear (arrows.shiftBy deck.bounds.origin) (by simp [visibleArrows, shown])
    simp only [Arrows.shiftBy, Rect.contains_shiftBy] at apart
    simp [apart]

section Begun

@[simp] theorem active_beginGesture (point : Point) :
    (deck.beginGesture point).active = deck.active := by
  simp only [beginGesture]
  split <;> rfl

@[simp] theorem tabs_beginGesture (point : Point) : (deck.beginGesture point).tabs = deck.tabs := by
  simp only [beginGesture]
  split <;> rfl

@[simp] theorem blockedFlags_beginGesture (point : Point) :
    (deck.beginGesture point).blockedFlags = deck.blockedFlags := by
  simp only [beginGesture]
  split <;> rfl

@[simp] theorem settings_beginGesture : (deck.beginGesture point).settings = deck.settings := by
  simp only [beginGesture]
  split <;> rfl

@[simp] theorem pressed_beginGesture : (deck.beginGesture point).pressed = none := by
  simp only [beginGesture]
  split <;> rfl

@[simp] theorem arrowAt_beginGesture (tapped : Point) :
    (deck.beginGesture point).arrowAt tapped = deck.arrowAt tapped := by
  simp only [beginGesture]
  split <;> rfl

@[simp] theorem stripLimit_beginGesture :
    (deck.beginGesture point).stripLimit = deck.stripLimit := by
  simp only [beginGesture]
  split <;> rfl

@[simp] theorem tabAt_beginGesture (tapped : Point) :
    (deck.beginGesture point).tabAt tapped = deck.tabAt tapped := by
  simp only [beginGesture]
  split <;> rfl

theorem enterable_beginGesture :
    (deck.beginGesture point).Enterable index ↔ deck.Enterable index := by
  simp only [beginGesture]
  split <;> exact Iff.rfl

theorem Hits.of_beginGesture {after : Deck μ σ} {outcome : Outcome}
    (hits : (deck.beginGesture point).Hits index outcome after) :
    deck.Hits index outcome after := by
  rcases hits with ⟨consumed, enters, stays⟩
  rw [enterable_beginGesture, active_beginGesture] at stays
  rw [enterable_beginGesture, active_beginGesture, settings_beginGesture] at enters
  exact ⟨consumed, enters, stays⟩

end Begun

variable [PaneHost σ]

/-! The gesture that a finger begins when it comes down does not change what it taps. -/

section Press

variable {touch : Touch}

theorem press_of_arrow {forward : Bool}
    (tapped : deck.arrowAt (touch.point - deck.bounds.origin) = some forward) :
    deck.press touch =
      (deck.beginGesture (touch.point - deck.bounds.origin)).tapArrow forward := by
  simp only [press, arrowAt_beginGesture, tapped]

variable (bare : deck.arrowAt (touch.point - deck.bounds.origin) = none)

include bare

theorem press_of_tab (left : touch.point.x < deck.captionLimit)
    (found : deck.tabAt (touch.point - deck.bounds.origin) = some index) :
    deck.press touch =
      (deck.beginGesture (touch.point - deck.bounds.origin)).tapTab index := by
  have shown : ¬ deck.stripLimit ≤ (touch.point - deck.bounds.origin).x := by
    simp only [captionLimit] at left
    rw [Point.sub_x]
    omega
  simp only [press, arrowAt_beginGesture, bare, stripLimit_beginGesture, if_neg shown,
    tabAt_beginGesture, found]

theorem press_of_beside (beside : deck.captionLimit ≤ touch.point.x ∨
      deck.tabAt (touch.point - deck.bounds.origin) = none) :
    deck.press touch =
      .ok (.nothing, deck.beginGesture (touch.point - deck.bounds.origin)) := by
  simp only [press, arrowAt_beginGesture, bare, stripLimit_beginGesture, tabAt_beginGesture]
  split
  · rfl
  · next shown =>
    have missed := beside.resolve_left fun hidden => shown (by
      simp only [captionLimit] at hidden
      rw [Point.sub_x]
      omega)
    rw [missed]
    rfl

/-- A finger that comes down beside everything that can be tapped begins a gesture at most. -/
theorem handle_press_of_beside (beside : deck.captionLimit ≤ touch.point.x ∨
      deck.tabAt (touch.point - deck.bounds.origin) = none) :
    ∃ after, deck.handle (.press touch) = .ok (.nothing, after) ∧
      (after = deck ∨ after = deck.beginGesture (touch.point - deck.bounds.origin)) := by
  cases enabled : deck.enabled with
  | true =>
    refine ⟨_, ?_, Or.inr rfl⟩
    simp only [handle, enabled, if_true]
    exact press_of_beside bare beside
  | false =>
    refine ⟨deck, ?_, Or.inl rfl⟩
    simp only [handle, enabled, Bool.false_eq_true, if_false]
    rfl

end Press

theorem hits_of_tapTab (coherent : deck.Coherent) (released : deck.pressed = none)
    (present : index < deck.tabs.length) :
    ∃ outcome after, deck.tapTab index = .ok (outcome, after) ∧ deck.Hits index outcome after := by
  rcases coherent.tapTab_total present with ⟨⟨outcome, after⟩, tapped⟩
  refine ⟨outcome, after, tapped, ?_⟩
  simp only [tapTab] at tapped
  split at tapped
  · next isActive =>
    cases tapped
    exact ⟨rfl, fun enterable => absurd isActive enterable.1, fun _ => ⟨rfl, rfl, released⟩⟩
  · next inactive =>
    simp only [bind_eq_ok] at tapped
    rcases tapped with ⟨blocked, asked, tapped⟩
    cases blocked with
    | true =>
      cases tapped
      refine ⟨rfl, fun enterable => ?_, fun _ => ⟨rfl, rfl, released⟩⟩
      rw [Enterable, asked] at enterable
      cases enterable.2
    | false =>
      have enterable : deck.Enterable index := ⟨inactive, asked⟩
      simp only [Bool.false_eq_true, if_false, tapOpenTab] at tapped
      cases style : deck.settings.style with
      | classic =>
        simp only [style] at tapped
        rcases thenSelect_eq_ok tapped with ⟨selection, selected, rfl⟩
        rcases select_eq_ok selected with ⟨-, -, idle⟩ | ⟨-, -, activated⟩
        · rcases idle with absent | isActive
          · omega
          · exact absurd isActive inactive
        · refine ⟨rfl, fun _ => ?_, fun closed => absurd enterable closed⟩
          rcases activate_eq_ok activated with ⟨_, _, mid, ⟨_, _, rfl, -⟩, rfl, -⟩
          simp only [style]
          exact ⟨rfl, rfl⟩
      | material =>
        simp only [style] at tapped
        cases tapped
        refine ⟨rfl, fun _ => ?_, fun closed => absurd enterable closed⟩
        simp [style]

/-- A tap that means a tab hits it. -/
theorem hits_of_tabAt {touch : Touch} (coherent : deck.Coherent)
    (present : index < deck.tabs.length) (clear : deck.ClearOfArrows touch.point)
    (left : touch.point.x < deck.captionLimit)
    (found : deck.tabAt (touch.point - deck.bounds.origin) = some index) :
    ∃ outcome after, deck.press touch = .ok (outcome, after) ∧ deck.Hits index outcome after := by
  rw [press_of_tab (arrowAt_of_clear clear) left found]
  have begun := coherent.beginGesture (touch.point - deck.bounds.origin)
  rw [← tabs_beginGesture (touch.point - deck.bounds.origin)] at present
  rcases hits_of_tapTab begun pressed_beginGesture present with ⟨outcome, after, tapped, hits⟩
  exact ⟨outcome, after, tapped, hits.of_beginGesture⟩

variable [FontMetrics μ]

/-- A tap in one tab only hits that tab, whatever the tolerance. In flick mode a tap in the first
column or row past the tab before it hits that one. -/
theorem tap_hits_tab_iff (wasPlaced : deck.WasPlaced)
    (narrow : ∀ tab ∈ deck.strip.tabs, (tab.selected.size.width : Int) ≤ Word.maxSigned)
    (low : (deck.strip.height : Int) ≤ Word.maxSigned) {touch : Touch}
    (only : deck.OnlyTabAt touch.point index) (clear : deck.ClearOfArrows touch.point)
    (left : touch.point.x < deck.captionLimit) :
    ∃ outcome after, deck.press touch = .ok (outcome, after) ∧
      (deck.Hits index outcome after ↔
        ¬(deck.settings.flicks = true ∧ deck.TouchesPrevious touch.point index ∧
          (deck.Enterable (index - 1) ∨ deck.Enterable index))) := by
  have follows := wasPlaced.follows
  have isActive : ∃ active, deck.active = some active := by
    rcases wasPlaced.active with ⟨active, _, isActive, -⟩
    exact ⟨active, isActive⟩
  have coherent : deck.Coherent := by
    rcases wasPlaced with ⟨_, _, _, _, _, start, actions, made, reached, -⟩
    exact reached.coherent (coherent_ofCaptions made)
  have inRange : ∀ {tab}, deck.tabAt (touch.point - deck.bounds.origin) = some tab →
      tab < deck.tabs.length := by
    intro tab found
    rw [← length_placed_of_follows follows]
    exact tabAt_lt found
  by_cases nearby : deck.settings.flicks = true ∧ deck.TouchesPrevious touch.point index
  · rcases tabAt_of_touchesPrevious follows isActive narrow low only nearby.1 nearby.2 with
      ⟨previous, rfl, found⟩
    rcases hits_of_tabAt coherent (inRange found) clear left found with
      ⟨outcome, after, pressed, hits⟩
    refine ⟨outcome, after, pressed, ?_⟩
    rw [hits.other (by omega), Nat.add_sub_cancel]
    simp [nearby.1, nearby.2]
  · have found := tabAt_of_only follows isActive narrow low only nearby
    rcases hits_of_tabAt coherent (inRange found) clear left found with
      ⟨outcome, after, pressed, hits⟩
    refine ⟨outcome, after, pressed, iff_of_true hits ?_⟩
    rintro ⟨flicks, touches, -⟩
    exact nearby ⟨flicks, touches⟩

/-- A finger in the middle of the last of three tabs that flick, and away from the tab before. -/
theorem tap_hits_last_tab :
    ∃ deck : Deck FixedAdvance DemoPanes, ∃ touch : Touch,
      deck.WasPlaced ∧
      (∀ tab ∈ deck.strip.tabs, (tab.selected.size.width : Int) ≤ Word.maxSigned) ∧
      (deck.strip.height : Int) ≤ Word.maxSigned ∧ deck.OnlyTabAt touch.point 2 ∧
      deck.ClearOfArrows touch.point ∧ touch.point.x < deck.captionLimit ∧
      deck.settings.flicks = true ∧ deck.Enterable 2 ∧
      ∃ outcome after, deck.press touch = .ok (outcome, after) ∧ deck.Hits 2 outcome after := by
  obtain ⟨start, deck, answers, made, ran, narrow, low, only, bare, left, flicks, enterable,
      middle⟩ :
      ∃ start deck : Deck FixedAdvance DemoPanes, ∃ answers,
        ofCaptions 8 wideImages ⟨6, 7, 10⟩ {} .touchscreen = .ok start ∧
        start.run [.placeAt ⟨⟨0, 0⟩, ⟨200, 100⟩⟩] = .ok (answers, deck) ∧
        (∀ tab ∈ deck.strip.tabs, (tab.selected.size.width : Int) ≤ Word.maxSigned) ∧
        (deck.strip.height : Int) ≤ Word.maxSigned ∧ deck.OnlyTabAt ⟨95, 5⟩ 2 ∧
        deck.visibleArrows = none ∧ 95 < deck.captionLimit ∧ deck.settings.flicks = true ∧
        (deck.active ≠ some 2 ∧ deck.isBlocked 2 = .ok false) ∧
        deck.tabRect 1 = some ⟨⟨45, 2⟩, ⟨44, 12⟩⟩ :=
    ⟨_, _, _, rfl, rfl, by decide, by decide, by decide, by decide, by decide, by decide, by decide,
      by decide⟩
  have wasPlaced : deck.WasPlaced :=
    ⟨_, _, _, _, _, start, _, made, ⟨answers, ran⟩, _, List.mem_cons_self⟩
  have clear : deck.ClearOfArrows (Touch.point ⟨95, 5⟩) := by
    intro arrows shown
    rw [bare] at shown
    cases shown
  rcases @tap_hits_tab_iff _ _ deck 2 _ _ wasPlaced narrow low ⟨95, 5⟩ only clear left with
    ⟨outcome, after, pressed, hits⟩
  refine ⟨deck, ⟨95, 5⟩, wasPlaced, narrow, low, only, clear, left, flicks, enterable, outcome,
    after, pressed, hits.mpr ?_⟩
  rintro ⟨-, ⟨previous, rect, next, isShown, touches⟩, -⟩
  obtain rfl : previous = 1 := by omega
  rw [middle, Option.some.injEq] at isShown
  rw [← isShown] at touches
  exact absurd touches (by decide)

/-- A tap in the first column that is the last tab's alone makes the tab before it active. -/
theorem tap_hits_previous_tab :
    ∃ deck after : Deck FixedAdvance DemoPanes, ∃ touch outcome,
      deck.WasPlaced ∧ touch.point = ⟨89, 5⟩ ∧ deck.OnlyTabAt touch.point 2 ∧
      deck.ClearOfArrows touch.point ∧ touch.point.x < deck.captionLimit ∧
      deck.tabRect 2 = some ⟨⟨88, 2⟩, ⟨44, 12⟩⟩ ∧ deck.Enterable 2 ∧
      deck.press touch = .ok (outcome, after) ∧ after.active = some 1 ∧
      ¬ deck.Hits 2 outcome after := by
  obtain ⟨start, deck, answers, made, ran, narrow, low, only, bare, left, flicks, shown, enterable,
      middle, middleEnterable, isActive, style⟩ :
      ∃ start deck : Deck FixedAdvance DemoPanes, ∃ answers,
        ofCaptions 8 wideImages ⟨6, 7, 10⟩ {} .touchscreen = .ok start ∧
        start.run [.placeAt ⟨⟨0, 0⟩, ⟨200, 100⟩⟩] = .ok (answers, deck) ∧
        (∀ tab ∈ deck.strip.tabs, (tab.selected.size.width : Int) ≤ Word.maxSigned) ∧
        (deck.strip.height : Int) ≤ Word.maxSigned ∧ deck.OnlyTabAt ⟨89, 5⟩ 2 ∧
        deck.visibleArrows = none ∧ 89 < deck.captionLimit ∧ deck.settings.flicks = true ∧
        deck.tabRect 2 = some ⟨⟨88, 2⟩, ⟨44, 12⟩⟩ ∧
        (deck.active ≠ some 2 ∧ deck.isBlocked 2 = .ok false) ∧
        deck.tabRect 1 = some ⟨⟨45, 2⟩, ⟨44, 12⟩⟩ ∧
        (deck.active ≠ some 1 ∧ deck.isBlocked 1 = .ok false) ∧ deck.active = some 0 ∧
        deck.settings.style = .classic :=
    ⟨_, _, _, rfl, rfl, by decide, by decide, by decide, by decide, by decide, by decide, by decide,
      by decide, by decide, by decide, rfl, by decide⟩
  have wasPlaced : deck.WasPlaced :=
    ⟨_, _, _, _, _, start, _, made, ⟨answers, ran⟩, _, List.mem_cons_self⟩
  have follows := wasPlaced.follows
  have clear : deck.ClearOfArrows (Touch.point ⟨89, 5⟩) := by
    intro arrows shown
    rw [bare] at shown
    cases shown
  have touches : deck.TouchesPrevious ⟨89, 5⟩ 2 := ⟨1, _, rfl, middle, by decide⟩
  rcases tabAt_of_touchesPrevious follows ⟨0, isActive⟩ narrow low only flicks touches with
    ⟨previous, next, found⟩
  obtain rfl : previous = 1 := by omega
  have inRange : 1 < deck.tabs.length := by
    rw [← length_placed_of_follows follows]
    exact tabAt_lt found
  have coherent := Reaches.coherent ⟨answers, ran⟩ (coherent_ofCaptions made)
  rcases @hits_of_tabAt _ _ deck 1 _ ⟨89, 5⟩ coherent inRange clear left found with
    ⟨outcome, after, pressed, hits⟩
  have entered := hits.enters middleEnterable
  simp only [style] at entered
  refine ⟨deck, after, ⟨89, 5⟩, outcome, wasPlaced, rfl, only, clear, left, shown, enterable,
    pressed, entered.1, fun also => ?_⟩
  have alsoEntered := also.enters enterable
  simp [style, entered.1] at alsoEntered

end Deck

end TabDeck
