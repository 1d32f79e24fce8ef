import TabDeck.Deck.Basic
import TabDeck.Picture.Canvas

/-!
# The picture of a deck

A deck with fonts paints its background, the frame around the panes, its tabs with their captions,
the arrows and the ring of the keyboard focus. Images and icons are left to the host, which finds
their place by `Deck.tabRect`. A deck without an active tab paints nothing.
-/

namespace TabDeck

/-- The triangle in a rectangle that points left or right. -/
def arrowhead (rect : Rect) (pointsLeft : Bool) : Triangle :=
  let left := rect.origin.x
  let right := rect.origin.x + Word.signed rect.size.width - 1
  let top := rect.origin.y
  let bottom := rect.origin.y + Word.signed rect.size.height - 1
  let middle := (top + bottom).tdiv 2
  if pointsLeft then ⟨⟨left, middle⟩, ⟨right, top⟩, ⟨right, bottom⟩⟩
  else ⟨⟨right, middle⟩, ⟨left, top⟩, ⟨left, bottom⟩⟩

/-- A rectangle of one colour with its outermost pixels in another. -/
def framed (rect : Rect) (fill border : Colour) : Picture :=
  [{ shape := .block rect, colour := fill }, { shape := .outline rect, colour := border }]

namespace Deck

variable {σ : Type}

/-- The rectangle behind the panes, which reaches one row into the strip. -/
def backdrop (deck : Deck FontPair σ) : Rect :=
  let top := match deck.settings.edge with
    | .top => Word.signed deck.strip.height - 1
    | .bottom => 0
  ⟨deck.bounds.origin + ⟨0, top⟩,
    ⟨deck.bounds.size.width, deck.bounds.size.height - deck.strip.height + 1⟩⟩

/-- The frame around the panes in the fill of the active tab. A classic deck without a frame still
has a line along the strip. -/
def framePicture (deck : Deck FontPair σ) (fill : Colour) : Picture :=
  let rect := deck.backdrop
  match deck.settings.style, deck.settings.border with
  | .classic, .framed => framed rect fill deck.palette.border
  | .classic, .bare =>
    let row := match deck.settings.edge with
      | .top => rect.origin.y
      | .bottom => rect.bottom - 1
    let left := deck.bounds.origin.x
    [{ shape := .block rect, colour := fill },
      { shape := .level row left (deck.bounds.right - 1), colour := deck.palette.border }]
  | .material, _ => [{ shape := .block rect, colour := fill }]

/-- The fill of a tab, which may differ while it is pressed or active. -/
def tabFill (deck : Deck FontPair σ) (index : Nat) (base : Colour) (isActive : Bool) : Colour :=
  if deck.pressed = some index then deck.palette.pressed.getD base
  else if isActive then deck.palette.activeTab.getD base
  else base

/-- The body of a tab. A classic active tab is open toward the panes, a flat one is underlined. -/
def bodyPicture (deck : Deck FontPair σ) (rect : Rect) (fill base : Colour) (isActive : Bool) :
    Picture :=
  match deck.settings.style with
  | .classic =>
    let row := match deck.settings.edge with
      | .top => rect.bottom - 1
      | .bottom => rect.origin.y
    framed rect fill deck.palette.border ++
      if isActive && 2 < rect.size.width then
        [{ shape := .level row (rect.origin.x + 1) (rect.right - 2), colour := base }]
      else []
  | .material =>
    let row := match deck.settings.edge with
      | .top => rect.bottom - 2
      | .bottom => rect.origin.y
    { shape := .block rect, colour := fill } ::
      if isActive then
        [{ shape := .block ⟨⟨rect.origin.x, row⟩, ⟨rect.size.width, 2⟩⟩,
           colour := deck.palette.focus }]
      else []

/-- The colour of the caption of a tab. -/
def captionColour (deck : Deck FontPair σ) (tab : Tab) : Colour :=
  if !deck.enabled then deck.palette.caption.faded
  else if !tab.enabled then deck.palette.disabledCaption
  else deck.palette.caption

/-- The weight in which the caption of a tab is painted. -/
def captionWeight (deck : Deck FontPair σ) (isActive : Bool) : Weight :=
  if isActive && deck.settings.style = .classic then .bold else .plain

/-- The pixel on which a caption is centred. With icons it keeps to the half of the tab that lies
toward the panes in a strip on top, and away from them otherwise. -/
def captionAnchor (deck : Deck FontPair σ) (rect : Rect) : Point :=
  let centre := rect.centre
  match deck.strip.iconSize with
  | none => centre
  | some size =>
    let shift := Word.signed (size / 2 : Nat)
    match deck.settings.edge with
    | .top => ⟨centre.x, centre.y + shift⟩
    | .bottom => ⟨centre.x, centre.y - shift⟩

/-- The caption of a tab, unless it is an image. -/
def captionPicture (deck : Deck FontPair σ) (rect : Rect) (tab : Tab) (isActive : Bool) :
    Picture :=
  match tab.caption with
  | .image _ => []
  | .text content =>
    let font := deck.metrics.face (deck.captionWeight isActive)
    (font.centred (deck.captionAnchor rect) content.content).map fun shape =>
      { shape, colour := deck.captionColour tab }

/-- One tab. -/
def tabPicture (deck : Deck FontPair σ) (index : Nat) (isActive : Bool) : Picture :=
  match deck.tabRect index, deck.tabs[index]? with
  | some rect, some tab =>
    let base := tab.colour.getD deck.palette.tab
    deck.bodyPicture rect (deck.tabFill index base isActive) base isActive ++
      deck.captionPicture rect tab isActive
  | _, _ => []

/-- The part of the deck in which tabs are painted: captions never run under the arrows. -/
def stripClip (deck : Deck FontPair σ) : Rect :=
  ⟨deck.bounds.origin, ⟨deck.stripLimit.toNat, deck.bounds.size.height⟩⟩

/-- All tabs, the active one over its neighbours. -/
def stripPicture (deck : Deck FontPair σ) (active : Nat) : Picture :=
  let others := (List.range deck.tabs.length).filter fun index => index != active
  Picture.clippedTo
    (others.flatMap (fun index => deck.tabPicture index false) ++ deck.tabPicture active true)
    deck.stripClip

/-- The arrows, faded where they cannot be tapped. -/
def arrowPicture (deck : Deck FontPair σ) : Picture :=
  match deck.visibleArrows with
  | none => []
  | some arrows =>
    let colour (canTap : Bool) : Colour :=
      if canTap && deck.enabled then deck.palette.arrows else deck.palette.arrows.faded
    [{ shape := .triangle (arrowhead arrows.left true), colour := colour arrows.leftEnabled },
      { shape := .triangle (arrowhead arrows.right false), colour := colour arrows.rightEnabled }]

/-- The ring of the keyboard focus inside the active tab. -/
def focusPicture (deck : Deck FontPair σ) (active : Nat) : Picture :=
  match deck.tabRect active with
  | none => []
  | some rect =>
    if deck.settings.keyboardFocus && deck.focus = .onStrip && 2 < rect.size.width &&
        2 < rect.size.height then
      let inner : Rect :=
        ⟨rect.origin + ⟨1, 1⟩, ⟨rect.size.width - 2, rect.size.height - 2⟩⟩
      [{ shape := .outline inner, colour := deck.palette.focus }]
    else []

/-- Everything that a deck paints. -/
def picture (deck : Deck FontPair σ) : Picture :=
  match deck.active with
  | none => []
  | some active =>
    let fill := (deck.tabColour active).getD deck.palette.tab
    { shape := .block deck.bounds, colour := deck.palette.background } ::
      (deck.framePicture fill ++ deck.stripPicture active ++ deck.arrowPicture ++
        deck.focusPicture active)

end Deck

end TabDeck
