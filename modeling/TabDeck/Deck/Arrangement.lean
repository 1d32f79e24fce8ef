import TabDeck.Deck.Basic

/-!
# Keeping the geometry of a deck up to date

A deck remembers what follows from its captions, settings and bounds: the measures of the strip, the
area of the panes, the placed tabs, the arrows and the shift of the strip. The functions below
compute each anew, and mount and move the panes accordingly.
-/

namespace TabDeck

namespace Deck

variable {μ σ : Type}

/-- Measures the strip anew. Captions that make no strip leave the measures as they are. -/
def remeasure [FontMetrics μ] (deck : Deck μ σ) : Deck μ σ :=
  let policy := deck.settings.stripPolicy deck.bounds.size.width deck.hasIcons
  match Strip.measure deck.capacity (deck.tabs.map Tab.caption) deck.metrics policy with
  | .error _ => deck
  | .ok strip =>
    { deck with
      strip
      tabs := List.zipWith
        (fun tab (measure : TabMeasure) =>
          { tab with selected := measure.selected, unselected := measure.unselected })
        deck.tabs strip.tabs }

/-- The area that the strip, the frame and the insets leave to the panes. -/
def areaOfPanes (settings : Settings) (stripHeight : Nat) (size : Size) : Rect :=
  let gap := settings.frameGap
  let insets := settings.insets
  let top := match settings.edge with
    | .top => stripHeight + insets.top
    | .bottom => gap + insets.top
  ⟨⟨Word.signed (insets.left + gap : Nat), Word.signed top⟩,
    ⟨size.width - (insets.horizontal + 2 * gap),
      size.height - (insets.vertical + 2 * gap + stripHeight)⟩⟩

/-- Computes the area of the panes anew. -/
def refitPanes (deck : Deck μ σ) : Deck μ σ :=
  { deck with paneArea := areaOfPanes deck.settings deck.strip.height deck.bounds.size }

/-- The arrows that a deck should show: those of a laid out strip that overflows, if wanted. -/
def neededArrows (deck : Deck μ σ) : Option Arrows :=
  if deck.laidOut && deck.settings.showArrows && deck.overflows then
    let arrows := Arrows.fit deck.bounds.size deck.strip.height deck.strip.lineHeight
      deck.settings.edge deck.settings.flicks
    some (arrows.enableFor deck.active deck.tabs.length deck.enabled)
  else none

/-- The shift that keeps the active tab of an overflowing strip in view, left of the arrows. -/
def neededShift (deck : Deck μ σ) : Int :=
  match deck.active with
  | none => 0
  | some active =>
    if deck.laidOut && deck.overflows then
      let limit := match deck.arrows with
        | some arrows => arrows.limit
        | none => Word.signed deck.bounds.size.width - 1
      let peek := Word.signed (7 * deck.strip.lineHeight / 11 : Nat)
      let widths := deck.strip.tabs.map fun tab => tab.unselected.size.width
      stripShift active deck.placed widths limit peek
    else 0

/-- Places the tabs, the arrows and the strip for the active tab. -/
def arrange (deck : Deck μ σ) : Deck μ σ :=
  let placed := deck.strip.place deck.active deck.settings.edge deck.bounds.size.height
  let deck := { deck with placed, row := deck.row.withStripWidth deck.wantedWidth }
  let deck := { deck with arrows := deck.neededArrows }
  { deck with shift := deck.neededShift }

variable [PaneHost σ]

/-- The pane of a tab, created if there is none yet. -/
def paneOf (deck : Deck μ σ) (index : Nat) : Except Fault (PaneId × Deck μ σ) := do
  let tab ← entry deck.tabs index
  match tab.pane with
  | some handle => return (handle, deck)
  | none =>
    let (handle, link) := deck.link.create index
    return (handle,
      { deck with link, tabs := deck.tabs.set index { tab with pane := some handle } })

/-- Mounts the pane of a tab where it belongs. -/
def mountPane (deck : Deck μ σ) (index : Nat) : Except Fault (Deck μ σ) := do
  let (handle, deck) ← deck.paneOf index
  return { deck with link := deck.link.mount handle (deck.paneBounds index) }

/-- Moves the mounted pane of a tab to where it belongs. -/
def movePane (deck : Deck μ σ) (index : Nat) : Except Fault (Deck μ σ) := do
  let (handle, deck) ← deck.paneOf index
  return { deck with link := deck.link.move handle (deck.paneBounds index).origin }

/-- Mounts all panes. -/
def mountAll (deck : Deck μ σ) : Except Fault (Deck μ σ) :=
  (List.range deck.tabs.length).foldlM mountPane deck

/-- Moves all panes of a laid out deck that flicks; other decks have no panes side by side. -/
def moveAll (deck : Deck μ σ) : Except Fault (Deck μ σ) :=
  if deck.settings.flicks && deck.laidOut then
    (List.range deck.tabs.length).foldlM movePane deck
  else .ok deck

/-- Unmounts the pane of a tab, if it has one. -/
def unmountPane (deck : Deck μ σ) (index : Nat) : Except Fault (Deck μ σ) := do
  match (← entry deck.tabs index).pane with
  | some handle => return { deck with link := deck.link.unmount handle }
  | none => return deck

/-- Aligns the row of panes with a tab. -/
def alignRow (deck : Deck μ σ) (index : Nat) : Except Fault (Deck μ σ) := do
  return { deck with row := ← deck.row.alignTo index }

end Deck

end TabDeck
