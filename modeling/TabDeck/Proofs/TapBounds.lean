import TabDeck.Proofs.ArrowTaps
import TabDeck.Proofs.StripEnds

/-!
# Taps outside a deck

What is painted of a strip is cut off at the bounds of its deck. What can be tapped is not: where a
tab or an arrow reaches over the bounds, a tap outside the deck means it all the same. A deck
ignores the taps outside its bounds exactly if nothing that can be tapped (`Deck.TapArea`) reaches
over them. Tabs do so at the left as soon as the strip is shifted by more than the column that it
leaves free.
-/

namespace TabDeck

/-- Every pixel of the display can be touched. -/
theorem Touch.exists_point {point : Point} (column : 0 ≤ point.x ∧ point.x < 65536)
    (row : 0 ≤ point.y ∧ point.y < 65536) : ∃ touch : Touch, touch.point = point := by
  refine ⟨.ofPoint point, ?_⟩
  rcases point with ⟨x, y⟩
  simp only [Touch.ofPoint, Touch.point, UInt16.toNat_ofNat', Point.mk.injEq] at column row ⊢
  omega

/-! ## Every column of a strip belongs to a tab -/

theorem StripPolicy.tall_tabMeasure (policy : StripPolicy) {isText : Bool} {height : Nat}
    (widths : Nat × Nat) (room : unselectedDrop < height)
    (half : policy.style = .material → isText = true → policy.extraHeight / 2 < height) :
    0 < (policy.tabMeasure isText height widths).selected.size.height ∧
      0 < (policy.tabMeasure isText height widths).unselected.size.height := by
  simp only [unselectedDrop] at room
  simp only [tabMeasure]
  split
  · simp only [unselectedDrop]
    omega
  · next material =>
    split
    · next overlaid =>
      simp only [Bool.and_eq_true] at overlaid
      have lower := half material overlaid.1
      simp only
      omega
    · simp only
      omega

namespace Strip

theorem tall_of_measure {μ : Type} [FontMetrics μ] {capacity : Nat} {captions : List Caption}
    {metrics : μ} {policy : StripPolicy} {strip : Strip}
    (measured : measure capacity captions metrics policy = .ok strip) :
    ∀ tab ∈ strip.tabs, 0 < tab.selected.size.height ∧ 0 < tab.unselected.size.height := by
  intro tab member
  simp only [measure, bind_eq_ok, pure_eq_ok] at measured
  rcases measured with ⟨_, _, rfl⟩
  rcases List.mem_map.mp member with ⟨widths, -, rfl⟩
  apply policy.tall_tabMeasure widths
  · simp only [StripPolicy.stripHeight, StripPolicy.unselectedDrop, StripPolicy.classicRows,
      StripPolicy.materialRows, StripPolicy.imageRows]
    split
    · split <;> omega
    · omega
  · intro material isText
    simp only [StripPolicy.stripHeight, isText, material, if_true, StripPolicy.materialRows]
    omega

/-- Tabs that share a column with their neighbours leave out no column between them. -/
theorem exists_placeFrom_of_column {active : Option Nat} {top left column : Int} {first : Nat}
    {tabs : List TabMeasure} (nonempty : tabs ≠ [])
    (narrow : ∀ rect ∈ placeFrom active top first left tabs,
      (rect.size.width : Int) ≤ Word.maxSigned)
    (lower : left ≤ column)
    (upper : column ≤ left + advance (widthsOf (placeFrom active top first left tabs))) :
    ∃ rect ∈ placeFrom active top first left tabs,
      rect.origin.x ≤ column ∧ column < rect.origin.x + rect.size.width := by
  induction tabs generalizing first left with
  | nil => exact absurd rfl nonempty
  | cons tab rest ih =>
    simp only [placeFrom] at narrow upper ⊢
    generalize (if active = some first then tab.selected else tab.unselected) = own
      at narrow upper ⊢
    rw [List.forall_mem_cons] at narrow
    have width := Word.signed_ofNat narrow.1
    simp only [widthsOf, List.map_cons, advance_cons, width] at upper narrow ⊢
    by_cases inside : column < left + own.size.width
    · exact ⟨_, List.mem_cons_self, lower, inside⟩
    · have more : rest ≠ [] := by
        rintro rfl
        simp only [placeFrom, List.map_nil, advance_nil] at upper
        omega
      rcases ih more narrow.2 (by omega) (by simp only [widthsOf]; omega) with ⟨rect, member, on⟩
      exact ⟨rect, List.mem_cons_of_mem _ member, on⟩

end Strip

namespace Deck

variable {μ σ : Type} {deck : Deck μ σ} {point : Point}

/-- A tap at the point means something in paged mode: an arrow that can be tapped, or a tab, in the
rows of the strip and left of the column from which on captions are hidden. -/
inductive TapArea (deck : Deck μ σ) (point : Point) : Prop
  | arrow {arrows : Arrows} {forward : Bool} (shown : deck.visibleArrows = some arrows)
      (canTap : arrows.canTap forward = true) (on : (arrows.button forward).Contains point)
  | tab {index : Nat} {rect : Rect} (shown : deck.tabRect index = some rect)
      (left : point.x < deck.captionLimit)
      (inStrip : deck.inStrip (point - deck.bounds.origin) = true) (on : rect.Contains point)

/-! ## What taps mean in paged mode -/

theorem arrowAt_eq_none :
    deck.arrowAt point = none ↔ ∀ arrows, deck.arrows = some arrows → ∀ forward,
      arrows.canTap forward = true → ¬ (arrows.button forward).Contains point := by
  simp only [arrowAt]
  cases deck.arrows with
  | none => simp
  | some own =>
    simp only [Option.some.injEq, forall_eq', Bool.forall_bool, Arrows.canTap, Arrows.button,
      Bool.false_eq_true, if_false, if_true]
    split
    · next left => simp [left]
    · next left =>
      split
      · next right => simp [right]
      · next right =>
        exact iff_of_true rfl
          ⟨fun canTap on => left ⟨canTap, on⟩, fun canTap on => right ⟨canTap, on⟩⟩

theorem tabAt_eq_none (paged : deck.settings.flicks = false) :
    deck.tabAt point = none ↔
      (deck.inStrip point = true → ∀ rect ∈ deck.stripRects, ¬ rect.Contains point) := by
  simp only [tabAt, paged, Bool.false_eq_true, if_false]
  split
  · next inStrip => simp [Rect.lastContaining_eq_none, inStrip]
  · next beside => simp [beside]

/-- Where there is nothing to tap, a tap finds neither an arrow nor a tab. -/
theorem beside_of_not_tapArea (paged : deck.settings.flicks = false)
    (apart : ¬ deck.TapArea point) :
    deck.arrowAt (point - deck.bounds.origin) = none ∧
      (deck.captionLimit ≤ point.x ∨ deck.tabAt (point - deck.bounds.origin) = none) := by
  constructor
  · rw [arrowAt_eq_none]
    intro arrows shown forward canTap on
    have visible : deck.visibleArrows = some (arrows.shiftBy deck.bounds.origin) := by
      simp [visibleArrows, shown]
    rw [← Rect.contains_shiftBy, ← Arrows.button_shiftBy] at on
    exact apart (.arrow visible canTap on)
  · by_cases left : point.x < deck.captionLimit
    · right
      rw [tabAt_eq_none paged]
      intro inStrip rect member on
      rcases List.getElem?_of_mem member with ⟨index, present⟩
      refine apart (.tab (tabRect_eq_some.mpr ⟨rect, present, rfl⟩) left inStrip ?_)
      rwa [Rect.contains_shiftBy]
    · exact .inl (Int.not_lt.mp left)

variable [PaneHost σ]

section Taps

variable {after : Deck μ σ} {outcome : Outcome}

theorem consumed_of_tapArrow {forward : Bool}
    (done : deck.tapArrow forward = .ok (outcome, after)) : outcome.consumed = true := by
  simp only [tapArrow, bind_eq_ok] at done
  rcases done with ⟨selection, -, finished⟩
  cases finished
  rfl

/-- A tap on an arrow or a tab is used up, whatever comes of it. -/
theorem consumed_of_tapArea (coherent : deck.Coherent) (paged : deck.settings.flicks = false)
    (inRange : deck.placed.length ≤ deck.tabs.length) {touch : Touch}
    (area : deck.TapArea touch.point) (done : deck.press touch = .ok (outcome, after)) :
    outcome.consumed = true := by
  cases bare : deck.arrowAt (touch.point - deck.bounds.origin) with
  | some forward =>
    rw [press_of_arrow bare] at done
    exact consumed_of_tapArrow done
  | none =>
    cases area with
    | @arrow arrows forward shown canTap on =>
      rcases Option.map_eq_some_iff.mp shown with ⟨own, isShown, rfl⟩
      rw [Arrows.button_shiftBy, Rect.contains_shiftBy] at on
      exact absurd on (arrowAt_eq_none.mp bare own isShown forward canTap)
    | @tab index rect shown left inStrip on =>
      rcases tabRect_eq_some.mp shown with ⟨own, present, rfl⟩
      rw [Rect.contains_shiftBy] at on
      cases found : deck.tabAt (touch.point - deck.bounds.origin) with
      | some hit =>
        have begun := coherent.beginGesture (touch.point - deck.bounds.origin)
        have isThere := Nat.lt_of_lt_of_le (tabAt_lt found) inRange
        rw [← tabs_beginGesture (touch.point - deck.bounds.origin)] at isThere
        rcases hits_of_tapTab begun pressed_beginGesture isThere with ⟨_, _, tapped, hits⟩
        rw [press_of_tab bare left found, tapped] at done
        cases done
        exact hits.consumed
      | none =>
        exact absurd on ((tabAt_eq_none paged).mp found inStrip own
          (List.mem_of_getElem? present))

end Taps

/-- Nothing comes of a finger that comes down there: it is not used up, and makes no tab active or
pressed. -/
def Ignores (deck : Deck μ σ) (touch : Touch) : Prop :=
  ∃ outcome after, deck.handle (.press touch) = .ok (outcome, after) ∧
    outcome.consumed = false ∧ after.active = deck.active ∧
    ∀ index, after.pressed = some index → deck.pressed = some index

variable [FontMetrics μ]

theorem ignores_iff (wasPlaced : deck.WasPlaced) (paged : deck.settings.flicks = false)
    {touch : Touch} :
    deck.Ignores touch ↔ (deck.enabled = true → ¬ deck.TapArea touch.point) := by
  have inRange : deck.placed.length ≤ deck.tabs.length :=
    Nat.le_of_eq (length_placed_of_follows wasPlaced.follows)
  constructor
  · rintro ⟨outcome, after, done, unused, -⟩ enabled area
    simp only [handle, enabled, if_true] at done
    rw [consumed_of_tapArea wasPlaced.coherent paged inRange area done] at unused
    cases unused
  · intro apart
    cases enabled : deck.enabled with
    | true =>
      rcases beside_of_not_tapArea paged (apart enabled) with ⟨bare, beside⟩
      rcases handle_press_of_beside bare beside with ⟨after, done, same⟩
      refine ⟨.nothing, after, done, rfl, ?_⟩
      rcases same with rfl | rfl
      · exact ⟨rfl, fun _ pressed => pressed⟩
      · simp
    | false =>
      refine ⟨.nothing, deck, ?_, rfl, rfl, fun _ pressed => pressed⟩
      simp only [handle, enabled, Bool.false_eq_true, if_false]
      rfl

theorem outside_ignored_iff_within (wasPlaced : deck.WasPlaced)
    (paged : deck.settings.flicks = false) :
    (∀ touch : Touch, ¬ deck.bounds.Contains touch.point → deck.Ignores touch) ↔
      (deck.enabled = true → ∀ touch : Touch, deck.TapArea touch.point →
        deck.bounds.Contains touch.point) := by
  constructor
  · intro ignored enabled touch area
    by_contra outside
    exact (ignores_iff wasPlaced paged).mp (ignored touch outside) enabled area
  · intro within touch outside
    exact (ignores_iff wasPlaced paged).mpr fun enabled area =>
      outside (within enabled touch area)

/-! ## Decks that only their tabs can reach over -/

/-- The deck is on the display with a column to spare at its left, and all that can be tapped is
within it but for the columns of its tabs. -/
structure Framed (deck : Deck μ σ) : Prop where
  enabled : deck.enabled = true
  left : 1 ≤ deck.bounds.origin.x ∧ deck.bounds.origin.x ≤ 65536
  rows : 0 ≤ deck.bounds.origin.y ∧ deck.bounds.origin.y + deck.bounds.size.height ≤ 65536
  narrow : ∀ tab ∈ deck.strip.tabs, (tab.selected.size.width : Int) ≤ Word.maxSigned
  fits : deck.strip.height ≤ deck.bounds.size.height
  limit : 0 ≤ deck.stripLimit ∧ deck.stripLimit ≤ deck.bounds.size.width
  arrows : ∀ arrows, deck.visibleArrows = some arrows → ∀ forward point,
    (arrows.button forward).Contains point → deck.bounds.Contains point

section Framed

variable (framed : deck.Framed)

include framed

omit [PaneHost σ] [FontMetrics μ] in
theorem Framed.low : (deck.strip.height : Int) ≤ Word.maxSigned := by
  have rows := framed.rows
  have fits := framed.fits
  simp only [Word.maxSigned]
  omega

omit [PaneHost σ] [FontMetrics μ] in
theorem Framed.stripRow_bounds :
    0 ≤ deck.stripRow ∧ deck.stripRow + deck.strip.height ≤ deck.bounds.size.height := by
  have rows := framed.rows
  have fits := framed.fits
  have tall : (deck.bounds.size.height : Int) ≤ Word.maxSigned := by
    simp only [Word.maxSigned]
    omega
  rw [stripRow]
  cases deck.settings.edge with
  | top =>
    simp only [stripTop]
    omega
  | bottom =>
    simp only [stripTop, Word.signed_ofNat framed.low, Word.signed_ofNat tall]
    omega

omit [PaneHost σ] [FontMetrics μ] in
theorem Framed.inStrip_iff :
    deck.inStrip point = true ↔
      deck.stripRow ≤ point.y ∧ point.y < deck.stripRow + deck.strip.height := by
  simp only [inStrip, Word.signed_ofNat framed.low, Bool.and_eq_true, decide_eq_true_eq]

variable (follows : deck.geometry.Follows deck.capacity deck.inputs) {active : Nat}
  {tab : TabMeasure} (isActive : deck.active = some active)

include follows isActive

omit [PaneHost σ] in
/-- A strip that is not shifted over the left edge keeps all that can be tapped within the deck. -/
theorem Framed.contains (begins : -1 ≤ deck.shift) (area : deck.TapArea point) :
    deck.bounds.Contains point := by
  cases area with
  | @arrow arrows forward shown canTap on => exact framed.arrows arrows shown forward point on
  | @tab index rect shown left inStrip on =>
    rcases tabRect_eq_some.mp shown with ⟨own, present, rfl⟩
    rcases column_of_placed follows ⟨active, isActive⟩ framed.narrow present with ⟨-, column⟩
    have limit := framed.limit
    have band := framed.stripRow_bounds
    rw [framed.inStrip_iff, Point.sub_y] at inStrip
    rw [Rect.contains_shiftBy] at on
    simp only [Rect.Contains, Point.sub_x, captionLimit] at on left ⊢
    omega

variable (present : deck.strip.tabs[active]? = some tab)

include present

omit [PaneHost σ] in
/-- In a strip that overflows every column from the first tab up to the limit belongs to a tab. -/
theorem Framed.exists_tab_of_column (overflowing : deck.overflows = true) {column : Int}
    (lower : 1 + deck.shift ≤ column) (upper : column < deck.stripLimit) :
    ∃ rect ∈ deck.stripRects, rect.origin.x ≤ column ∧
      column < rect.origin.x + rect.size.width := by
  have placed := placed_of_follows follows isActive
  have ends := (endsAtLimit_iff follows isActive overflowing).mp
    (endsAtLimit_of_overflow follows isActive overflowing present)
  have limit : deck.stripLimit ≤ deck.shiftLimit + 1 := by
    cases shown : deck.arrows.isSome with
    | true =>
      rw [stripLimit_of_arrows shown]
      omega
    | false => exact Int.le_of_eq (stripLimit_of_bare shown)
  have narrow : ∀ rect ∈ deck.placed, (rect.size.width : Int) ≤ Word.maxSigned := by
    intro rect member
    rcases measured_of_placed follows (List.mem_map_of_mem member) with ⟨tab, isTab, -, narrower, -⟩
    have fits := framed.narrow tab isTab
    simp only [Rect.shiftBy_size] at narrower
    omega
  have fromFirst : 1 ≤ column - deck.shift := by omega
  have upTo : column - deck.shift ≤ 1 + Strip.advance (Strip.widthsOf deck.placed) := by
    rw [unshiftedEnd] at ends
    omega
  rw [placed] at narrow upTo
  have nonempty := List.ne_nil_of_mem (List.mem_of_getElem? present)
  rcases Strip.exists_placeFrom_of_column nonempty narrow fromFirst upTo with ⟨rect, member, on⟩
  rw [← placed] at member
  refine ⟨_, List.mem_map_of_mem member, ?_⟩
  simp only [Rect.shiftBy_origin, Rect.shiftBy_size, Point.add_x]
  omega

end Framed

omit [PaneHost σ] in
theorem tall_of_placed (follows : deck.geometry.Follows deck.capacity deck.inputs) {rect : Rect}
    (member : rect ∈ deck.stripRects) : 0 < rect.size.height := by
  have placed : deck.placed = deck.strip.place deck.active deck.settings.edge
    deck.bounds.size.height := follows.arranges.placed
  rcases List.mem_map.mp member with ⟨unshifted, isPlaced, rfl⟩
  rw [placed] at isPlaced
  rcases Strip.size_placeFrom isPlaced with ⟨tab, isTab, own, isOwn, size, -⟩
  have tall := Strip.tall_of_measure follows.measures.measured tab isTab
  rw [Rect.shiftBy_size, size]
  rcases isOwn with rfl | rfl
  · exact tall.1
  · exact tall.2

/-- A deck with room at its left ignores the taps around it exactly if its strip is not shifted over
its left edge. Where it is, the column left of the deck belongs to a tab. -/
theorem Framed.outside_ignored (framed : deck.Framed) (wasPlaced : deck.WasPlaced)
    (paged : deck.settings.flicks = false) :
    (∀ touch : Touch, ¬ deck.bounds.Contains touch.point → deck.Ignores touch) ↔
      -1 ≤ deck.shift := by
  have follows := wasPlaced.follows
  rcases wasPlaced.active with ⟨active, tab, isActive, present⟩
  rw [outside_ignored_iff_within wasPlaced paged]
  constructor
  · intro within
    by_contra shifted
    have overflowing : deck.overflows = true := by
      by_contra fits
      rw [Bool.not_eq_true] at fits
      have unshifted := shift_of_fits follows fits
      omega
    have limit := framed.limit
    have left := framed.left
    have rows := framed.rows
    have band := framed.stripRow_bounds
    rcases framed.exists_tab_of_column follows isActive present overflowing
      (show 1 + deck.shift ≤ -1 by omega) (by omega) with ⟨rect, member, on⟩
    have tall := tall_of_placed follows member
    rcases measured_of_placed follows member with ⟨_, -, -, -, top, bottom⟩
    rcases List.getElem?_of_mem member with ⟨index, isRect⟩
    have touchable : ∃ touch : Touch, touch.point =
        ⟨deck.bounds.origin.x - 1, deck.bounds.origin.y + rect.origin.y⟩ := by
      apply Touch.exists_point <;> dsimp only <;> omega
    rcases touchable with ⟨touch, there⟩
    have area : deck.TapArea touch.point := by
      apply TapArea.tab (tabRect_eq_some.mpr ⟨rect, isRect, rfl⟩)
      · simp only [there, captionLimit]
        omega
      · simp only [framed.inStrip_iff, there, Point.sub_y]
        omega
      · rw [there, Rect.contains_shiftBy]
        simp only [Rect.Contains, Point.sub_x, Point.sub_y]
        omega
    have inside := within framed.enabled touch area
    rw [there] at inside
    simp only [Rect.Contains] at inside
    omega
  · intro begins _ touch area
    exact framed.contains follows isActive begins area

/-- The taps outside a deck are ignored exactly if nothing that can be tapped reaches over its
bounds. With room at the left of a deck that has room for the rest, that is exactly if its strip is
not shifted over the left edge. -/
theorem outside_ignored_iff (wasPlaced : deck.WasPlaced) (paged : deck.settings.flicks = false) :
    ((∀ touch : Touch, ¬ deck.bounds.Contains touch.point → deck.Ignores touch) ↔
      (deck.enabled = true → ∀ touch : Touch, deck.TapArea touch.point →
        deck.bounds.Contains touch.point)) ∧
    (deck.Framed →
      ((∀ touch : Touch, ¬ deck.bounds.Contains touch.point → deck.Ignores touch) ↔
        -1 ≤ deck.shift)) :=
  ⟨outside_ignored_iff_within wasPlaced paged, fun framed => framed.outside_ignored wasPlaced paged⟩

/-! ## Decks with and without a strip over their edge -/

/-- A strip that fits ignores all taps around its deck. -/
theorem unshifted_strip_ignores_outside :
    ∃ deck : Deck FixedAdvance DemoPanes,
      deck.WasPlaced ∧ deck.settings.flicks = false ∧ deck.Framed ∧
      deck.bounds = ⟨⟨100, 50⟩, ⟨200, 100⟩⟩ ∧
      ∀ touch : Touch, ¬ deck.bounds.Contains touch.point → deck.Ignores touch := by
  obtain ⟨start, deck, answers, made, ran, paged, enabled, bounds, narrow, fits, limit, begins,
      bare⟩ :
      ∃ start deck : Deck FixedAdvance DemoPanes, ∃ answers,
        ofCaptions 8 wideImages ⟨6, 7, 10⟩ {} {} = .ok start ∧
        start.run [.placeAt ⟨⟨100, 50⟩, ⟨200, 100⟩⟩] = .ok (answers, deck) ∧
        deck.settings.flicks = false ∧ deck.enabled = true ∧
        deck.bounds = ⟨⟨100, 50⟩, ⟨200, 100⟩⟩ ∧
        (∀ tab ∈ deck.strip.tabs, (tab.selected.size.width : Int) ≤ Word.maxSigned) ∧
        deck.strip.height ≤ deck.bounds.size.height ∧
        (0 ≤ deck.stripLimit ∧ deck.stripLimit ≤ deck.bounds.size.width) ∧ -1 ≤ deck.shift ∧
        deck.visibleArrows = none :=
    ⟨_, _, _, rfl, rfl, by decide, by decide, by decide, by decide, by decide, by decide, by decide,
      by decide⟩
  have wasPlaced : deck.WasPlaced := .of_run made ran
  have framed : deck.Framed := by
    refine ⟨enabled, ?_, ?_, narrow, fits, limit, fun arrows shown => ?_⟩
    · rw [bounds]
      decide
    · rw [bounds]
      decide
    · rw [bare] at shown
      cases shown
  have ignored := (outside_ignored_iff wasPlaced paged).2 framed
  exact ⟨deck, wasPlaced, paged, framed, bounds, ignored.mpr begins⟩

/-- With the last tab active, the first one reaches over the left edge, and a tap there makes it
active. -/
theorem tap_beside_deck_selects :
    ∃ deck after : Deck FixedAdvance DemoPanes, ∃ touch outcome,
      deck.WasPlaced ∧ deck.settings.flicks = false ∧
      deck.bounds = ⟨⟨100, 0⟩, ⟨100, 100⟩⟩ ∧ deck.shift = -45 ∧ touch.point = ⟨60, 5⟩ ∧
      ¬ deck.bounds.Contains touch.point ∧ deck.active = some 2 ∧
      deck.handle (.press touch) = .ok (outcome, after) ∧ outcome.consumed = true ∧
      after.active = some 0 ∧ ¬ deck.Ignores touch := by
  obtain ⟨start, deck, after, outcome, answers, made, ran, paged, bounds, shift, isActive, done,
      consumed, becomes⟩ :
      ∃ start deck after : Deck FixedAdvance DemoPanes, ∃ outcome answers,
        ofCaptions 8 wideImages ⟨6, 7, 10⟩ {} {} = .ok start ∧
        start.run [.placeAt ⟨⟨100, 0⟩, ⟨100, 100⟩⟩, .select 2] = .ok (answers, deck) ∧
        deck.settings.flicks = false ∧ deck.bounds = ⟨⟨100, 0⟩, ⟨100, 100⟩⟩ ∧
        deck.shift = -45 ∧ deck.active = some 2 ∧
        deck.handle (.press ⟨60, 5⟩) = .ok (outcome, after) ∧ outcome.consumed = true ∧
        after.active = some 0 :=
    ⟨_, _, _, _, _, rfl, rfl, by decide, by decide, by decide, rfl, rfl, by decide, rfl⟩
  have wasPlaced : deck.WasPlaced := .of_run made ran
  refine ⟨deck, after, ⟨60, 5⟩, outcome, wasPlaced, paged, bounds, shift, rfl, ?_, isActive, done,
    consumed, becomes, ?_⟩
  · rw [bounds]
    decide
  · rintro ⟨_, _, same, unused, -⟩
    rw [done] at same
    cases same
    rw [consumed] at unused
    cases unused

end Deck

end TabDeck
