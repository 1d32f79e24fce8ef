import TabDeck.Deck.Painting
import TabDeck.Proofs.ArrowTaps
import TabDeck.Proofs.Coverage
import TabDeck.Proofs.PaneArea
import TabDeck.Proofs.StripLayout
import TabDeck.Proofs.StripView

/-!
# Where decks are drawn

A deck is to be drawn within its bounds. Its tabs are clipped to them, and its background is no
larger. The frame behind the panes, the arrows and the ring of the keyboard focus are not clipped:
the frame leaves a deck that is lower than its strip, the arrows one that is too small for them, and
the ring follows an active tab out of view. A deck changes nothing outside its bounds exactly if
none of these happens (`Deck.drawn_inside_iff`), and none does with room for the whole strip
(`Deck.picture_inside_of_holdsTabs`).
-/

namespace TabDeck

/-! ## Parts of pictures -/

/-- All that the painted shape covers lies in a rectangle. -/
def Painted.KeepsTo (painted : Painted) (rect : Rect) : Prop :=
  ∀ point, painted.Covers point → rect.Contains point

namespace Picture

variable {picture other : Picture} {painted : Painted} {rect clip : Rect}

theorem inside_nil : Inside [] rect := by
  rintro point ⟨painted, member, -⟩
  cases member

theorem inside_cons :
    Inside (painted :: picture) rect ↔ painted.KeepsTo rect ∧ Inside picture rect := by
  constructor
  · intro inside
    constructor
    · exact fun point covers => inside point ⟨painted, List.mem_cons_self, covers⟩
    · rintro point ⟨later, member, covers⟩
      exact inside point ⟨later, List.mem_cons_of_mem painted member, covers⟩
  · rintro ⟨first, rest⟩ point ⟨later, member, covers⟩
    rcases List.mem_cons.mp member with rfl | isLater
    · exact first point covers
    · exact rest point ⟨later, isLater, covers⟩

theorem inside_append :
    Inside (picture ++ other) rect ↔ Inside picture rect ∧ Inside other rect := by
  induction picture with
  | nil => simp [inside_nil]
  | cons painted rest ih => rw [List.cons_append, inside_cons, inside_cons, ih, and_assoc]

/-- Without a clip only the shape matters. -/
theorem keepsTo_of_unclipped (unclipped : painted.clip = none) :
    painted.KeepsTo rect ↔ painted.shape.KeepsTo rect := by
  simp [Painted.KeepsTo, Painted.Covers, Shape.KeepsTo, unclipped]

/-- A clipped picture lies in its clip. -/
theorem inside_clippedTo (picture : Picture) (clip : Rect) :
    Inside (picture.clippedTo clip) clip := by
  rintro point ⟨painted, member, covers⟩
  rcases List.mem_map.mp member with ⟨own, -, rfl⟩
  exact covers.2 clip rfl

end Picture

namespace Deck

/-! ## The parts of a deck -/

section Parts

variable {σ : Type} (deck : Deck FontPair σ)

/-- The sizes from which the deck computes coordinates fit signed words. -/
structure FitsWords : Prop where
  width : (deck.bounds.size.width : Int) ≤ Word.maxSigned
  height : (deck.bounds.size.height : Int) ≤ Word.maxSigned
  strip : (deck.strip.height : Int) ≤ Word.maxSigned
  arrows : ∀ arrows, deck.arrows = some arrows → (arrows.left.size.width : Int) ≤ Word.maxSigned

/-- The frame leaves the deck neither above nor below. A deck without columns has none of the frame
but the line along the strip. -/
def FrameInside : Prop :=
  if deck.bounds.size.width = 0 then
    ¬ (deck.settings.style = .classic ∧ deck.settings.border = .bare)
  else
    (deck.settings.edge = .top → deck.strip.height ≤ deck.bounds.size.height) ∧
      (deck.settings.edge = .bottom → 0 < deck.bounds.size.height)

/-- Where the ring of the keyboard focus is, while it is shown. -/
def focusRing (active : Nat) : Option Rect :=
  (deck.tabRect active).bind fun rect =>
    if deck.settings.keyboardFocus && deck.focus = .onStrip && 2 < rect.size.width &&
        2 < rect.size.height then
      some ⟨rect.origin + ⟨1, 1⟩, ⟨rect.size.width - 2, rect.size.height - 2⟩⟩
    else none

/-- Nothing of the deck that is not clipped leaves it. -/
structure PartsInside (active : Nat) : Prop where
  frame : deck.FrameInside
  arrows : ∀ arrows, deck.visibleArrows = some arrows →
    (arrowhead arrows.left true).CornersIn deck.bounds ∧
      (arrowhead arrows.right false).CornersIn deck.bounds
  ring : ∀ ring, deck.focusRing active = some ring → ring.Inside deck.bounds

instance : Decidable deck.FitsWords :=
  decidable_of_iff
    (((deck.bounds.size.width : Int) ≤ Word.maxSigned ∧
        (deck.bounds.size.height : Int) ≤ Word.maxSigned) ∧
      (deck.strip.height : Int) ≤ Word.maxSigned ∧
        ∀ arrows, deck.arrows = some arrows → (arrows.left.size.width : Int) ≤ Word.maxSigned)
    ⟨fun ⟨⟨width, height⟩, strip, arrows⟩ => ⟨width, height, strip, arrows⟩,
      fun fits => ⟨⟨fits.width, fits.height⟩, fits.strip, fits.arrows⟩⟩

instance : Decidable deck.FrameInside :=
  inferInstanceAs (Decidable (if deck.bounds.size.width = 0 then ¬ (_ ∧ _) else (_ → _) ∧ (_ → _)))

instance (active : Nat) : Decidable (deck.PartsInside active) :=
  decidable_of_iff
    (deck.FrameInside ∧
      (∀ arrows, deck.visibleArrows = some arrows →
        (arrowhead arrows.left true).CornersIn deck.bounds ∧
          (arrowhead arrows.right false).CornersIn deck.bounds) ∧
      ∀ ring, deck.focusRing active = some ring → ring.Inside deck.bounds)
    ⟨fun ⟨frame, arrows, ring⟩ => ⟨frame, arrows, ring⟩,
      fun parts => ⟨parts.frame, parts.arrows, parts.ring⟩⟩

variable {deck} {active : Nat}

theorem inside_focusPicture_iff : Picture.Inside (deck.focusPicture active) deck.bounds ↔
    ∀ ring, deck.focusRing active = some ring → ring.Inside deck.bounds := by
  simp only [focusPicture, focusRing]
  cases deck.tabRect active with
  | none => simp [Picture.inside_nil]
  | some rect =>
    simp only [Option.bind_some]
    split
    · next shown =>
      simp only [Bool.and_eq_true, decide_eq_true_eq] at shown
      rw [Picture.inside_cons, Picture.keepsTo_of_unclipped rfl, Shape.outline_keepsTo_iff]
      · simp [Picture.inside_nil]
      · dsimp only
        omega
      · dsimp only
        omega
    · simp [Picture.inside_nil]

theorem inside_arrowPicture_iff : Picture.Inside deck.arrowPicture deck.bounds ↔
    ∀ arrows, deck.visibleArrows = some arrows →
      (arrowhead arrows.left true).CornersIn deck.bounds ∧
        (arrowhead arrows.right false).CornersIn deck.bounds := by
  simp only [arrowPicture]
  cases deck.visibleArrows with
  | none => simp [Picture.inside_nil]
  | some arrows =>
    simp only [Picture.inside_cons, Picture.keepsTo_of_unclipped, Triangle.keepsTo_iff]
    simp [Picture.inside_nil]

theorem inside_stripPicture (limit : deck.stripLimit ≤ deck.bounds.size.width) :
    Picture.Inside (deck.stripPicture active) deck.bounds := by
  intro point covers
  have inClip := Picture.inside_clippedTo _ _ point covers
  simp only [stripClip, Rect.Contains] at inClip ⊢
  omega

theorem backdrop_inside_iff (fits : deck.FitsWords) (high : 0 < deck.strip.height)
    (wide : 0 < deck.bounds.size.width) :
    deck.backdrop.Inside deck.bounds ↔ deck.FrameInside := by
  simp only [FrameInside, if_neg (Nat.pos_iff_ne_zero.mp wide), backdrop, Rect.Inside, Point.add_x,
    Point.add_y, Word.signed_ofNat fits.strip]
  cases deck.settings.edge with
  | top =>
    simp only [true_imp_iff, reduceCtorEq, false_imp_iff, and_true]
    omega
  | bottom =>
    simp only [true_imp_iff, reduceCtorEq, false_imp_iff, true_and]
    omega

/-- The line along the strip is a row of the backdrop. -/
theorem level_keepsTo_of_inside (fits : deck.FitsWords) (wide : 0 < deck.bounds.size.width)
    (inside : deck.backdrop.Inside deck.bounds) {row : Int}
    (isRow : row = deck.backdrop.origin.y ∨ row = deck.backdrop.bottom - 1) :
    (Shape.level row deck.bounds.origin.x (deck.bounds.right - 1)).KeepsTo deck.bounds := by
  have low : (deck.backdrop.size.height : Int) ≤ Word.maxSigned := by
    have height := fits.height
    simp only [Rect.Inside] at inside
    omega
  have high : 0 < deck.backdrop.size.height := Nat.succ_pos _
  simp only [Rect.bottom, Word.signed_ofNat low] at isRow
  simp only [Shape.level_keepsTo_iff, Rect.Contains, Rect.right, Word.signed_ofNat fits.width]
  simp only [Rect.Inside] at inside
  omega

/-- The frame paints nothing outside the deck exactly if it leaves the deck nowhere. Without columns
the block and the outline cover nothing, but the line along the strip still has its two ends. -/
theorem inside_framePicture_iff (fits : deck.FitsWords) (high : 0 < deck.strip.height)
    (fill : Colour) :
    Picture.Inside (deck.framePicture fill) deck.bounds ↔ deck.FrameInside := by
  rcases Nat.eq_zero_or_pos deck.bounds.size.width with narrow | wide
  · have backdropNarrow : deck.backdrop.size.width = 0 := narrow
    rcases Shape.keepsTo_of_narrow backdropNarrow deck.bounds with ⟨block, outline⟩
    have beside : ∀ row, ¬ (Shape.level row deck.bounds.origin.x (deck.bounds.right - 1)).KeepsTo
        deck.bounds := by
      intro row keeps
      have first := (Shape.level_keepsTo_iff.mp keeps).1
      simp only [Rect.Contains] at first
      omega
    simp only [framePicture, FrameInside, if_pos narrow]
    cases deck.settings.style <;> cases deck.settings.border <;>
      simp [framed, Picture.inside_cons, Picture.inside_nil, Picture.keepsTo_of_unclipped, block,
        outline, beside]
  · have backdropWide : 0 < deck.backdrop.size.width := wide
    have backdropHigh : 0 < deck.backdrop.size.height := Nat.succ_pos _
    have block := Shape.block_keepsTo_iff backdropWide backdropHigh deck.bounds
    have outline := Shape.outline_keepsTo_iff backdropWide backdropHigh deck.bounds
    rw [← backdrop_inside_iff fits high wide]
    simp only [framePicture]
    cases deck.settings.style with
    | material =>
      simp [Picture.inside_cons, Picture.inside_nil, Picture.keepsTo_of_unclipped, block]
    | classic =>
      cases deck.settings.border with
      | framed =>
        simp [framed, Picture.inside_cons, Picture.inside_nil, Picture.keepsTo_of_unclipped, block,
          outline]
      | bare =>
        simp only [Picture.inside_cons, Picture.inside_nil, Picture.keepsTo_of_unclipped, block,
          and_true, and_iff_left_iff_imp]
        intro inside
        apply level_keepsTo_of_inside fits wide inside
        cases deck.settings.edge with
        | top => exact Or.inl rfl
        | bottom => exact Or.inr rfl

/-- A deck that does not clip its tabs beyond its width draws inside exactly if the rest does. -/
theorem inside_picture_iff (fits : deck.FitsWords) (high : 0 < deck.strip.height)
    (limit : deck.stripLimit ≤ deck.bounds.size.width) :
    Picture.Inside deck.picture deck.bounds ↔
      ∀ active, deck.active = some active → deck.PartsInside active := by
  have background : (Shape.block deck.bounds).KeepsTo deck.bounds :=
    fun point covers => Shape.covers_block.mp covers
  simp only [picture]
  cases deck.active with
  | none => simp [Picture.inside_nil]
  | some active =>
    simp only [Picture.inside_cons, Picture.inside_append, Picture.keepsTo_of_unclipped, background,
      inside_framePicture_iff fits high, inside_stripPicture limit, inside_arrowPicture_iff,
      inside_focusPicture_iff, true_and, and_true, Option.some.injEq, forall_eq']
    constructor
    · rintro ⟨⟨frame, arrows⟩, ring⟩
      exact ⟨frame, arrows, ring⟩
    · rintro ⟨frame, arrows, ring⟩
      exact ⟨⟨frame, arrows⟩, ring⟩

end Parts

/-! ## Arrows of reached decks -/

section Reached

variable {μ σ : Type} {before after deck : Deck μ σ}

/-- Only a deck that was placed has arrows. -/
def ArrowsPlaced (deck : Deck μ σ) : Prop := deck.laidOut = false → deck.arrows = none

theorem ArrowsPlaced.same (placed : before.ArrowsPlaced) (same : before.SameStrip after) :
    after.ArrowsPlaced := by
  have arrows : after.arrows = before.arrows := congrArg StripGeometry.arrows same.geometry
  rw [ArrowsPlaced, arrows, same.laidOut]
  exact placed

theorem arrowsPlaced_arrange (deck : Deck μ σ) : deck.arrange.ArrowsPlaced := by
  intro unplaced
  have notLaidOut : deck.laidOut = false := unplaced
  simp [arrange, neededArrows, notLaidOut]

variable [FontMetrics μ] [PaneHost σ] {action : Action} {answer : Answer} {start : Deck μ σ}
  {actions : List Action}

theorem ArrowsPlaced.perform (placed : before.ArrowsPlaced)
    (done : before.perform action = .ok (answer, after)) : after.ArrowsPlaced := by
  refine kept_of_perform arrowsPlaced_arrange ArrowsPlaced.same ?_ placed done
  intro first second enabled earlier kept unplaced
  have toggled : ({ first with enabled } : Deck μ σ).ArrowsPlaced := earlier
  have enabledPlaced : second.ArrowsPlaced := toggled.same kept
  simp only [enableArrows, enabledPlaced unplaced, Option.map_none]

theorem Reaches.arrowsPlaced (reached : start.Reaches actions deck) (bare : start.arrows = none) :
    deck.ArrowsPlaced := by
  have initial : start.ArrowsPlaced := fun _ => bare
  exact reached.kept initial fun earlier performed => earlier.perform performed

omit [PaneHost σ] in
/-- Tabs are clipped to columns of the deck. -/
theorem stripLimit_le {deck : Deck FontPair σ} (upToDate : deck.UpToDate)
    (placed : deck.ArrowsPlaced) (fits : deck.FitsWords) :
    deck.stripLimit ≤ deck.bounds.size.width := by
  simp only [stripLimit]
  split
  · next arrows shown =>
    have narrow := fits.arrows arrows shown
    cases laidOut : deck.laidOut with
    | false =>
      rw [placed laidOut] at shown
      cases shown
    | true =>
      rw [arrows_of_arranges (upToDate.arranged laidOut) shown] at narrow ⊢
      simp only [Arrows.enableFor, Arrows.fit] at narrow
      simp only [Arrows.enableFor, Arrows.fit, Arrows.limit, Word.signed_ofNat narrow,
        Word.signed_ofNat fits.width]
      omega
  · exact Int.le_of_eq (Word.signed_ofNat fits.width)

end Reached

/-! ## Decks with room for their strip -/

section Roomy

variable {σ : Type} {deck : Deck FontPair σ} {active index : Nat} {rect : Rect}

theorem strip_height_pos (measured : deck.Measured) : 0 < deck.strip.height := by
  have room := (deck.inputs.policy.room_of_stripHeight
    (FontMetrics.lineHeight deck.metrics .plain) deck.inputs.captions).1
  have height : deck.strip.height = _ := Strip.height_of_measure measured.measured
  rw [height]
  exact Nat.lt_of_lt_of_le (by decide) room

variable (follows : deck.geometry.Follows deck.capacity deck.inputs)
  (isActive : deck.active = some active)

include follows

theorem arrows_of_fits (bare : deck.overflows = false) : deck.arrows = none := by
  have needed : deck.arrows = deck.geometry.arrowsFor deck.inputs := follows.arranges.arrows
  have enough : deck.geometry.overflows = false := bare
  rw [needed, StripGeometry.arrowsFor, enough, Bool.and_false]
  exact if_neg Bool.false_ne_true

include isActive

/-- The tabs of a deck that is no lower than its strip lie between its first row and its last. -/
theorem rows_of_tabRect (fits : deck.FitsWords) (high : deck.strip.height ≤ deck.bounds.size.height)
    (shown : deck.tabRect index = some rect) :
    deck.bounds.origin.y ≤ rect.origin.y ∧
      rect.origin.y + rect.size.height ≤ deck.bounds.origin.y + deck.bounds.size.height := by
  simp only [tabRect, stripRects, List.getElem?_map, Option.map_eq_some_iff] at shown
  rcases shown with ⟨_, ⟨placed, present, rfl⟩, rfl⟩
  have member := List.mem_of_getElem? present
  rw [placed_of_follows follows isActive] at member
  rcases Strip.rows_place follows.measures.measured deck.bounds.size.height fits.strip member with
    ⟨below, above, -⟩
  have band : 0 ≤ Strip.bandTop deck.settings.edge deck.bounds.size.height deck.strip.height ∧
      Strip.bandTop deck.settings.edge deck.bounds.size.height deck.strip.height +
        deck.strip.height ≤ deck.bounds.size.height := by
    simp only [Strip.bandTop, Word.signed_ofNat fits.height]
    split <;> omega
  have edge : deck.inputs.policy.edge = deck.settings.edge := rfl
  have height : deck.geometry.strip.height = deck.strip.height := rfl
  rw [edge, height] at below above
  simp only [Rect.shiftBy_origin, Rect.shiftBy_size, Point.add_y]
  omega

theorem wide_of_tabRect (present : active < deck.tabs.length)
    (shown : deck.tabRect active = some rect) : 2 ≤ rect.size.width := by
  rcases tabRect_of_follows follows isActive present with ⟨same, isSame, width, -⟩
  rw [shown, Option.some.injEq] at isSame
  rw [← Measured.length_tabs follows.measures] at present
  rw [widthsOf_placed follows isActive (List.getElem?_eq_getElem present), ← isSame] at width
  exact Strip.two_le_of_mem_set (sound_of_follows follows) (List.getElem?_eq_getElem present) _
    (List.mem_of_getElem? width)

/-- A deck that is no lower than its strip and holds all of its tabs has its parts inside. -/
theorem partsInside_of_holdsTabs (fits : deck.FitsWords)
    (high : deck.strip.height ≤ deck.bounds.size.height) (bare : deck.overflows = false)
    (present : active < deck.tabs.length) (holds : deck.HoldsTabs) : deck.PartsInside active := by
  rcases holds active present with ⟨rect, shown, columns⟩
  simp only [Rect.InColumns] at columns
  constructor
  case frame =>
    have wide : 2 ≤ rect.size.width := wide_of_tabRect follows isActive present shown
    have rows := strip_height_pos follows.measures
    have nonempty : deck.bounds.size.width ≠ 0 := by omega
    rw [FrameInside, if_neg nonempty]
    exact ⟨fun _ => high, fun _ => Nat.lt_of_lt_of_le rows high⟩
  case arrows =>
    intro arrows shows
    rw [visibleArrows, arrows_of_fits follows bare] at shows
    cases shows
  case ring =>
    intro ring isRing
    rw [focusRing, shown, Option.bind_some] at isRing
    split at isRing
    · next visible =>
      simp only [Bool.and_eq_true, decide_eq_true_eq] at visible
      have rows := rows_of_tabRect follows isActive fits high shown
      rw [Option.some.injEq] at isRing
      subst isRing
      simp only [Rect.Inside, Point.add_x, Point.add_y]
      omega
    · cases isRing

/-- Nothing of such a deck is painted outside its bounds. -/
theorem picture_inside_of_holdsTabs (fits : deck.FitsWords)
    (high : deck.strip.height ≤ deck.bounds.size.height) (bare : deck.overflows = false)
    (present : active < deck.tabs.length) (holds : deck.HoldsTabs) :
    Picture.Inside deck.picture deck.bounds := by
  have unarrowed := arrows_of_fits follows bare
  have limit : deck.stripLimit ≤ deck.bounds.size.width := by
    rw [stripLimit, unarrowed]
    exact Int.le_of_eq (Word.signed_ofNat fits.width)
  apply (inside_picture_iff fits (strip_height_pos follows.measures) limit).mpr
  intro other isOther
  rw [isActive, Option.some.injEq] at isOther
  rw [← isOther]
  exact partsInside_of_holdsTabs follows isActive fits high bare present holds

end Roomy

/-! ## Where reached decks are drawn -/

section Drawn

variable {σ : Type} [PaneHost σ] {capacity : Nat} {captions : List Caption} {metrics : FontPair}
  {host : σ} {settings : Settings} {start deck : Deck FontPair σ} {actions : List Action}

/-- A deck changes nothing outside its bounds, whatever the display shows, exactly if its frame, its
arrows and the ring of the keyboard focus lie inside. -/
theorem drawn_inside_iff
    (made : ofCaptions capacity captions metrics host settings = .ok start)
    (reached : start.Reaches actions deck) (fits : deck.FitsWords) :
    ((∀ (screen : Screen) (point : Point), ¬ deck.bounds.Contains point →
        screen.draw deck.picture point = screen point) ↔
      ∀ active, deck.active = some active → deck.PartsInside active) ∧
    ((∀ active, deck.active = some active → deck.PartsInside active) →
      ∀ (canvas : Canvas) (point : Point), ¬ deck.bounds.Contains point →
        (canvas.draw deck.picture).get? point = canvas.get? point) := by
  have upToDate := reached.upToDate made
  have bare : start.arrows = none := by
    rcases ofCaptions_eq_ok made with ⟨-, _, _, -, rfl⟩
    rfl
  have high := strip_height_pos upToDate.measured
  have limit := stripLimit_le upToDate (reached.arrowsPlaced bare) fits
  have inside := inside_picture_iff fits high limit
  constructor
  · exact Screen.draw_inside_iff.trans inside
  · intro parts canvas point outside
    rw [Canvas.get?_draw]
    exact Screen.draw_inside_iff.mpr (inside.mpr parts) _ point outside

/-- Fonts of solid letters. -/
def blockFonts : FontPair := ⟨⟨6, 10, 0, .blocks⟩, some ⟨7, 10, 0, .blocks⟩⟩

/-- A deck with arrows and a ring, both of them inside. -/
theorem arrows_and_ring_drawn_inside :
    ∃ deck : Deck FontPair DemoPanes,
      deck.WasPlaced ∧ deck.FitsWords ∧ deck.bounds = ⟨⟨4, 2⟩, ⟨60, 30⟩⟩ ∧
      deck.visibleArrows.isSome = true ∧ (deck.focusRing 0).isSome = true ∧
      ∀ (screen : Screen) (point : Point), ¬ deck.bounds.Contains point →
        screen.draw deck.picture point = screen point := by
  obtain ⟨start, deck, answers, made, ran, fits, bounds, isActive, arrows, ring, parts⟩ :
      ∃ start deck : Deck FontPair DemoPanes, ∃ answers,
        ofCaptions 8 wideImages blockFonts {} { keyboardFocus := true } = .ok start ∧
        start.run [.placeAt ⟨⟨4, 2⟩, ⟨60, 30⟩⟩, .input .focus] = .ok (answers, deck) ∧
        deck.FitsWords ∧ deck.bounds = ⟨⟨4, 2⟩, ⟨60, 30⟩⟩ ∧ deck.active = some 0 ∧
        deck.visibleArrows.isSome = true ∧ (deck.focusRing 0).isSome = true ∧
        deck.PartsInside 0 :=
    ⟨_, _, _, rfl, rfl, by decide, rfl, rfl, rfl, by decide, by decide⟩
  refine ⟨deck, .of_run made ran, fits, bounds, arrows, ring, ?_⟩
  apply (drawn_inside_iff made ⟨answers, ran⟩ fits).1.mpr
  rintro active same
  rw [isActive, Option.some.injEq] at same
  rwa [← same]

/-- Two images of one pixel. -/
def dots : List Caption := List.replicate 2 (.image ⟨0, ⟨1, 1⟩⟩)

/-- The frame leaves a deck of three rows below, the ring one that is as wide as it wants to be to
the right, and the arrows one of two columns. -/
theorem frame_ring_and_arrows_leave_decks :
    ∃ low full narrow : Deck FontPair DemoPanes,
      (low.WasPlaced ∧ low.bounds = ⟨⟨0, 0⟩, ⟨20, 3⟩⟩ ∧
        ((Canvas.filled ⟨24, 16⟩ .black).draw low.picture).get? ⟨0, 4⟩ ≠
          (Canvas.filled ⟨24, 16⟩ .black).get? ⟨0, 4⟩) ∧
      (full.WasPlaced ∧ full.bounds = ⟨⟨0, 0⟩, ⟨9, 8⟩⟩ ∧ full.wantedWidth = 9 ∧
        ((Canvas.filled ⟨24, 16⟩ .black).draw full.picture).get? ⟨9, 2⟩ ≠
          (Canvas.filled ⟨24, 16⟩ .black).get? ⟨9, 2⟩) ∧
      narrow.WasPlaced ∧ narrow.bounds = ⟨⟨10, 0⟩, ⟨2, 8⟩⟩ ∧ narrow.FrameInside ∧
        narrow.focusRing 0 = none ∧ ¬ Picture.Inside narrow.picture narrow.bounds := by
  obtain ⟨lowStart, low, lowAnswers, madeLow, ranLow, lowDrawn⟩ :
      ∃ start low : Deck FontPair DemoPanes, ∃ answers,
        ofCaptions 8 dots blockFonts {} {} = .ok start ∧
        start.run [.placeAt ⟨⟨0, 0⟩, ⟨20, 3⟩⟩] = .ok (answers, low) ∧
        low.bounds = ⟨⟨0, 0⟩, ⟨20, 3⟩⟩ ∧
        ((Canvas.filled ⟨24, 16⟩ .black).draw low.picture).get? ⟨0, 4⟩ ≠
          (Canvas.filled ⟨24, 16⟩ .black).get? ⟨0, 4⟩ :=
    ⟨_, _, _, rfl, rfl, rfl, by decide +kernel⟩
  obtain ⟨fullStart, full, fullAnswers, madeFull, ranFull, fullDrawn⟩ :
      ∃ start full : Deck FontPair DemoPanes, ∃ answers,
        ofCaptions 8 dots blockFonts {} { keyboardFocus := true } = .ok start ∧
        start.run [.placeAt ⟨⟨0, 0⟩, ⟨9, 8⟩⟩, .select 1, .input .focus] = .ok (answers, full) ∧
        full.bounds = ⟨⟨0, 0⟩, ⟨9, 8⟩⟩ ∧ full.wantedWidth = 9 ∧
        ((Canvas.filled ⟨24, 16⟩ .black).draw full.picture).get? ⟨9, 2⟩ ≠
          (Canvas.filled ⟨24, 16⟩ .black).get? ⟨9, 2⟩ :=
    ⟨_, _, _, rfl, rfl, rfl, by decide +kernel, by decide +kernel⟩
  obtain ⟨start, narrow, answers, made, ran, bounds, isActive, fits, high, limit, frame, ring,
      parts⟩ :
      ∃ start narrow : Deck FontPair DemoPanes, ∃ answers,
        ofCaptions 8 dots blockFonts {} {} = .ok start ∧
        start.run [.placeAt ⟨⟨10, 0⟩, ⟨2, 8⟩⟩] = .ok (answers, narrow) ∧
        narrow.bounds = ⟨⟨10, 0⟩, ⟨2, 8⟩⟩ ∧ narrow.active = some 0 ∧ narrow.FitsWords ∧
        0 < narrow.strip.height ∧ narrow.stripLimit ≤ narrow.bounds.size.width ∧
        narrow.FrameInside ∧ narrow.focusRing 0 = none ∧ ¬ narrow.PartsInside 0 :=
    ⟨_, _, _, rfl, rfl, rfl, rfl, by decide, by decide, by decide, by decide, by decide, by decide⟩
  refine ⟨low, full, narrow, ⟨.of_run madeLow ranLow, lowDrawn⟩, ⟨.of_run madeFull ranFull,
    fullDrawn⟩, .of_run made ran, bounds, frame, ring, fun inside => parts ?_⟩
  exact (inside_picture_iff fits high limit).mp inside 0 isActive

end Drawn

end Deck

end TabDeck
