import TabDeck.Gesture
import TabDeck.KeyFocus
import TabDeck.Outcome
import TabDeck.Palette
import TabDeck.PaneHost
import TabDeck.Ring
import TabDeck.Strip.Placement

/-!
# Decks

A deck is a strip of tabs and one pane for each of them. The strip's geometry is kept relative to
the deck's top-left corner, and what is asked of a deck is answered in display coordinates. This
module has the state of a deck, how it is made, and what can be read from it.
-/

namespace TabDeck

/-- One tab of a deck. -/
structure Tab where
  caption : Caption
  enabled : Bool := true
  /-- The rectangle of the active tab, not placed. -/
  selected : Rect
  /-- The rectangle of the inactive tab, not placed. -/
  unselected : Rect
  /-- A fill in place of the palette's. -/
  colour : Option Colour := none
  /-- An icon beside a text caption. -/
  icon : Option Image := none
  /-- The pane, once there is one. -/
  pane : Option PaneId := none
  deriving DecidableEq

/-- A strip of tabs with a pane for each. Fonts are a `μ` and the panes belong to a host with state
`σ`. -/
structure Deck (μ σ : Type) where
  metrics : μ
  link : PaneLink σ
  settings : Settings
  palette : Palette := .dark
  capacity : Nat
  tabs : List Tab
  strip : Strip
  /-- The placed tabs, before the shift of the strip. -/
  placed : List Rect := []
  /-- How far the strip is shifted to keep the active tab in view. -/
  shift : Int := 0
  bounds : Rect := .zero
  /-- The area of the panes, relative to the bounds. -/
  paneArea : Rect := .zero
  /-- The deck was given bounds. -/
  laidOut : Bool := false
  active : Option Nat := none
  lastActive : Option Nat := none
  row : PaneRow
  gesture : Gesture := {}
  focus : KeyFocus := .outside
  /-- The arrows beside the strip, relative to the bounds. -/
  arrows : Option Arrows := none
  /-- A flat tab that was tapped and not yet released. -/
  pressed : Option Nat := none
  /-- Whether the deck takes part in input. -/
  enabled : Bool := true
  hasIcons : Bool := false

/-- The policy that settings impose on a strip. -/
def Settings.stripPolicy (settings : Settings) (availableWidth : Nat) (hasIcons : Bool) :
    StripPolicy where
  equalWidths := settings.equalWidths
  extraHeight := settings.extraHeight
  hasIcons
  edge := settings.edge
  style := settings.style
  availableWidth
  extraWidth := settings.insets.horizontal

namespace Deck

variable {μ σ : Type}

/-- Makes a deck of captions. It has no bounds and no active tab yet. -/
def ofCaptions [FontMetrics μ] (capacity : Nat) (captions : List Caption) (metrics : μ) (host : σ)
    (settings : Settings) : Except DeckError (Deck μ σ) := do
  let strip ← Strip.measure capacity captions metrics (settings.stripPolicy 0 false)
  return {
    metrics
    link := { host }
    settings
    capacity
    tabs := List.zipWith
      (fun caption (measure : TabMeasure) =>
        { caption, selected := measure.selected, unselected := measure.unselected })
      captions strip.tabs
    strip
    row := .ofPanes captions.length 0 }

/-- Texts as captions, from an index on; the first text that does not fit is an error. -/
def captionsOfTexts : Nat → List String → Except DeckError (List Caption)
  | _, [] => .ok []
  | index, content :: rest => do
    match Caption.ofText? content with
    | none => throw (.longCaption index maxCaptionBytes)
    | some caption => return caption :: (← captionsOfTexts (index + 1) rest)

/-- Makes a deck of text captions. That there are too many is found before one is too long. -/
def ofTexts [FontMetrics μ] (capacity : Nat) (texts : List String) (metrics : μ) (host : σ)
    (settings : Settings) : Except DeckError (Deck μ σ) :=
  if capacity < texts.length then .error (.tooManyCaptions capacity)
  else do ofCaptions capacity (← captionsOfTexts 0 texts) metrics host settings

/-- The width that the deck wants: all tabs with the active one selected, and the insets. -/
def wantedWidth (deck : Deck μ σ) : Nat :=
  deck.strip.wantedWidth deck.active deck.settings.insets.horizontal

/-- The height that the deck wants for its strip and the insets. -/
def wantedHeight (deck : Deck μ σ) : Nat := deck.strip.height + deck.settings.insets.vertical

/-- The area of the panes on the display. -/
def paneRect (deck : Deck μ σ) : Rect :=
  ⟨deck.bounds.origin + deck.paneArea.origin, deck.paneArea.size⟩

/-- The rectangle of a pane on the display. -/
def paneBounds (deck : Deck μ σ) (index : Nat) : Rect :=
  if deck.settings.flicks then deck.paneRect.shiftBy ⟨deck.row.paneLeft index, 0⟩
  else deck.paneRect

/-- The tabs as placed and shifted, relative to the bounds. -/
def stripRects (deck : Deck μ σ) : List Rect :=
  deck.placed.map fun rect => rect.shiftBy ⟨deck.shift, 0⟩

/-- The rectangle of a tab on the display. -/
def tabRect (deck : Deck μ σ) (index : Nat) : Option Rect :=
  deck.stripRects[index]?.map fun rect => rect.shiftBy deck.bounds.origin

/-- The column, relative to the bounds, from which on captions are hidden. -/
def stripLimit (deck : Deck μ σ) : Int :=
  match deck.arrows with
  | some arrows => arrows.limit
  | none => Word.signed deck.bounds.size.width

/-- The column of the display from which on captions are hidden. -/
def captionLimit (deck : Deck μ σ) : Int := deck.bounds.origin.x + deck.stripLimit

/-- The arrows on the display. -/
def visibleArrows (deck : Deck μ σ) : Option Arrows :=
  deck.arrows.map fun arrows => arrows.shiftBy deck.bounds.origin

/-- The first row of the strip, relative to the bounds. -/
def stripRow (deck : Deck μ σ) : Int :=
  stripTop deck.settings.edge deck.bounds.size.height deck.strip.height

/-- The band of the strip on the display. -/
def stripBand (deck : Deck μ σ) : Rect :=
  ⟨deck.bounds.origin + ⟨0, deck.stripRow⟩, ⟨deck.bounds.size.width, deck.strip.height⟩⟩

/-- Whether a row relative to the bounds belongs to the strip. -/
def inStrip (deck : Deck μ σ) (point : Point) : Bool :=
  deck.stripRow ≤ point.y && point.y < deck.stripRow + Word.signed deck.strip.height

/-- Whether the strip wants more than the deck's width. -/
def overflows (deck : Deck μ σ) : Bool := deck.row.overflows

/-- Whether a tab is there and enabled. -/
def isEnabled (deck : Deck μ σ) (index : Nat) : Bool :=
  (deck.tabs[index]?.map Tab.enabled).getD false

/-- The fill of a tab. -/
def tabColour (deck : Deck μ σ) (index : Nat) : Option Colour :=
  deck.tabs[index]?.map fun tab => tab.colour.getD deck.palette.tab

/-- For every tab whether it is disabled. -/
def disabledFlags (deck : Deck μ σ) : List Bool := deck.tabs.map fun tab => !tab.enabled

/-- Whether no tab is enabled. -/
def allDisabled (deck : Deck μ σ) : Bool := deck.tabs.all fun tab => !tab.enabled

/-- For every tab whether it refuses input. While all are disabled none does. -/
def blockedFlags (deck : Deck μ σ) : List Bool :=
  if deck.allDisabled then deck.tabs.map fun _ => false else deck.disabledFlags

/-- Whether a tab refuses input. -/
def isBlocked (deck : Deck μ σ) (index : Nat) : Except Fault Bool :=
  (entry deck.tabs index).map fun tab => !tab.enabled && !deck.allDisabled

/-- Where an arrow key leads while the focus is on the strip. -/
def keyRoute (deck : Deck μ σ) (direction : Direction) : KeyRoute :=
  TabDeck.keyRoute direction deck.settings.edge (deck.active.getD 0) deck.tabs.length

/-- The outcome of having changed anything that is painted. -/
def repaintAll (deck : Deck μ σ) : Outcome := .repaint deck.bounds

/-- The outcome of having changed only the strip. -/
def repaintStrip (deck : Deck μ σ) : Outcome := .repaint deck.stripBand

/-- The outcome of having changed only the panes. -/
def repaintPanes (deck : Deck μ σ) : Outcome := .repaint deck.paneRect

end Deck

end TabDeck
