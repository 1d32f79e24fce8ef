import TabDeck.Deck.Arrangement

/-!
# What a host can do with a deck

A host places the deck, chooses the active tab, enables and labels tabs, supplies panes and lets
time pass. Each operation answers with an outcome, or breaks off with a fault.
-/

namespace TabDeck

namespace Deck

variable {μ σ : Type}

/-- An operation that is done with the deck as it is. -/
def finish (outcome : Outcome) (deck : Deck μ σ) : Except Fault (Outcome × Deck μ σ) :=
  .ok (outcome, deck)

section Selection

variable [PaneHost σ]

/-- Shows the pane of one tab in place of another's. -/
def exchangePanes (deck : Deck μ σ) (previous : Option Nat) (index : Nat) :
    Except Fault (Deck μ σ) := do
  let deck ← match previous with
    | some previous => deck.unmountPane previous
    | none => .ok deck
  deck.mountPane index

/-- Ends the gesture and brings the pane of a tab into view. -/
def bringIntoView (deck : Deck μ σ) (index : Nat) : Except Fault (Deck μ σ) := do
  let deck ← deck.alignRow index
  { deck with gesture := deck.gesture.forget }.moveAll

/-- Makes another tab the active one. -/
def activate (deck : Deck μ σ) (index : Nat) : Except Fault (Outcome × Deck μ σ) := do
  let previous := deck.active
  let deck ←
    if !deck.settings.flicks && deck.laidOut then deck.exchangePanes previous index else .ok deck
  let deck := { deck with lastActive := previous, active := some index, pressed := none }
  let deck ← if deck.settings.flicks then deck.bringIntoView index else .ok deck
  let deck := deck.arrange
  let change := previous.map fun previous => { previous, current := index : TabChange }
  deck.finish { deck.repaintAll with change }

/-- Makes a tab the active one. A tab that is not there, or active already, changes nothing. -/
def select (deck : Deck μ σ) (index : Nat) : Except Fault (Outcome × Deck μ σ) :=
  if deck.tabs.length ≤ index ∨ deck.active = some index then deck.finish .nothing
  else deck.activate index

/-- Makes a tab the active one after something else came of the same operation. -/
def thenSelect (deck : Deck μ σ) (outcome : Outcome) (index : Nat) :
    Except Fault (Outcome × Deck μ σ) := do
  let (selection, deck) ← deck.select index
  deck.finish (outcome.andThen selection)

/-- Mounts the panes that belong on the display: in flick mode all, otherwise the active one. -/
def showPanes (deck : Deck μ σ) : Except Fault (Deck μ σ) := do
  if deck.settings.flicks then
    match deck.active with
    | some active => (← deck.alignRow active).mountAll
    | none => deck.mountAll
  else
    match deck.active with
    | some active => deck.mountPane active
    | none => .ok deck

/-- Gives the deck a place on the display. Everything is measured anew, panes are mounted, and the
first enabled tab becomes active if none is. -/
def placeAt [FontMetrics μ] (deck : Deck μ σ) (bounds : Rect) :
    Except Fault (Outcome × Deck μ σ) := do
  let deck := ({ deck with bounds, laidOut := true } : Deck μ σ).remeasure.refitPanes
  let row ← deck.row.resize deck.tabs.length bounds.size.width deck.wantedWidth
  let deck ← { deck with row }.showPanes
  let (outcome, deck) ← match deck.active with
    | some _ => deck.finish deck.repaintAll
    | none => deck.thenSelect deck.repaintAll (nextAvailable none true deck.disabledFlags)
  deck.arrange.finish outcome

/-- Enables or disables a tab. Disabling the active one makes the next enabled one active; when
there is none it stays active. -/
def enableTab (deck : Deck μ σ) (index : Nat) (enabled : Bool) :
    Except Fault (Outcome × Deck μ σ) :=
  match deck.tabs[index]? with
  | none => deck.finish .nothing
  | some tab =>
    if tab.enabled = enabled then deck.finish .nothing
    else
      let deck := { deck with tabs := deck.tabs.set index { tab with enabled } }
      if !enabled && deck.active = some index then
        deck.thenSelect deck.repaintAll (nextAvailable (some index) true deck.disabledFlags)
      else deck.finish deck.repaintAll

/-- Whether the pane of a tab is, or should be, on the display. -/
def showsPane (deck : Deck μ σ) (index : Nat) : Bool :=
  deck.laidOut && (deck.settings.flicks || deck.active = some index)

/-- Supplies the pane of a tab in place of the one it has. -/
def supplyPane (deck : Deck μ σ) (index : Nat) (handle : PaneId) :
    Except Fault (Outcome × Deck μ σ) :=
  match deck.tabs[index]? with
  | none => deck.finish .nothing
  | some tab =>
    let deck := { deck with tabs := deck.tabs.set index { tab with pane := some handle } }
    if deck.showsPane index then
      let link := match tab.pane with
        | some previous => deck.link.unmount previous
        | none => deck.link
      let deck := { deck with link := link.mount handle (deck.paneBounds index) }
      deck.finish deck.repaintPanes
    else deck.finish .nothing

end Selection

/-- Shows an icon on each tab. -/
def showIcons [FontMetrics μ] (deck : Deck μ σ) (icons : List Image) :
    Except DeckError (Outcome × Deck μ σ) :=
  if icons.length = deck.tabs.length then
    let tabs := List.zipWith (fun tab icon => { tab with icon := some icon }) deck.tabs icons
    let deck := ({ deck with tabs, hasIcons := true } : Deck μ σ).remeasure.arrange
    .ok (deck.repaintAll, deck)
  else .error (.iconCount deck.tabs.length icons.length)

/-- Gives all tabs new captions. Their number stays. -/
def relabel [FontMetrics μ] (deck : Deck μ σ) (captions : List Caption) :
    Except DeckError (Outcome × Deck μ σ) :=
  if captions.length = deck.tabs.length then do
    checkCaptions deck.capacity captions
    let tabs := List.zipWith (fun tab caption => { tab with caption }) deck.tabs captions
    let deck := ({ deck with tabs } : Deck μ σ).remeasure.refitPanes.arrange
    return (deck.repaintAll, deck)
  else .error (.captionCount deck.tabs.length captions.length)

/-- Fills a tab with a colour, or with the palette's again. -/
def paintTab (deck : Deck μ σ) (index : Nat) (colour : Option Colour) : Outcome × Deck μ σ :=
  match deck.tabs[index]? with
  | none => (.nothing, deck)
  | some tab => (deck.repaintAll, { deck with tabs := deck.tabs.set index { tab with colour } })

/-- Takes on other colours. -/
def usePalette (deck : Deck μ σ) (palette : Palette) : Outcome × Deck μ σ :=
  (deck.repaintAll, { deck with palette })

section Gestures

variable [PaneHost σ]

/-- Calls the gesture off. The answer is whether panes moved back. -/
def callOff (deck : Deck μ σ) : Except Fault (Bool × Deck μ σ) := do
  let (gesture, row) := deck.gesture.abandon deck.row
  let moved := row.movedFrom deck.row
  let deck := { deck with gesture, row }
  return (moved, ← if moved then deck.moveAll else .ok deck)

/-- Enables or disables the whole deck. A disabled deck ignores input, and a gesture is called
off. -/
def enable (deck : Deck μ σ) (enabled : Bool) : Except Fault (Outcome × Deck μ σ) := do
  if deck.enabled = enabled then deck.finish .nothing
  else
    let deck := { deck with enabled, pressed := none }
    let deck ← if enabled then .ok deck else (do return (← deck.callOff).2)
    let arrows := deck.arrows.map fun arrows =>
      arrows.enableFor deck.active deck.tabs.length enabled
    let deck := { deck with arrows }
    deck.finish deck.repaintAll

/-- Calls off a gesture that something else took over, and a press with it. -/
def abandon (deck : Deck μ σ) : Except Fault (Outcome × Deck μ σ) := do
  let wasPressed := deck.pressed.isSome
  let (moved, deck) ← { deck with pressed := none }.callOff
  deck.finish (if moved || wasPressed then deck.repaintAll else .nothing)

/-- Lets time pass: settling panes move on, and the tab on which they settle becomes active. -/
def tick (deck : Deck μ σ) (elapsed : Nat) : Except Fault (Outcome × Deck μ σ) := do
  let (step, gesture, row) ← deck.gesture.tick deck.row elapsed
  match step with
  | .idle => deck.finish .nothing
  | .moving =>
    let deck ← { deck with gesture, row }.moveAll
    deck.finish deck.repaintPanes
  | .arrived target =>
    let deck ← { deck with gesture, row }.moveAll
    deck.thenSelect deck.repaintPanes target

end Gestures

end Deck

end TabDeck
