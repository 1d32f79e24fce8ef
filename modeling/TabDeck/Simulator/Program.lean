import TabDeck.Deck.Painting
import TabDeck.Deck.Session
import TabDeck.Simulator.DemoPanes

/-!
# The simulator

The simulator runs a deck in a window with a mouse and a keyboard. Time goes by in frames: in each
frame the window hands over its events, the deck is told how much time passed, and what changed is
painted. The keys:

* the arrow keys and the enter key act on the keyboard focus, and F gives it to the deck;
* M switches between paged and flicking panes, and B moves the strip to the other edge;
* D enables or disables the third tab, and L switches between the dark and the light palette;
* the escape key calls the gesture off.

`Simulator.run` plays a whole session and answers with what could be seen of it.
-/

namespace TabDeck

/-- A key of the keyboard. -/
inductive SimulatorKey where
  | arrow (direction : Direction)
  | enter
  | escape
  | letter (character : Char)
  | other
  deriving DecidableEq, Repr

/-- What the window can hand over. -/
inductive SimulatorEvent where
  | press (point : Point)
  | release (point : Point)
  | move (point : Point)
  | key (key : SimulatorKey)
  | keyUp (key : SimulatorKey)
  /-- Some milliseconds pass before the next event. -/
  | pause (milliseconds : Nat)
  | quit
  deriving DecidableEq, Repr

/-- The deck of the simulator. -/
abbrev DemoDeck := Deck FontPair DemoPanes

/-- The state of the simulator. -/
structure Simulator where
  settings : Settings
  deck : DemoDeck
  /-- The milliseconds since the start. -/
  clock : Nat := 0
  /-- The last place of the mouse while its button is down. -/
  pointer : Option Point := none
  /-- Something has to be painted anew. -/
  needsRedraw : Bool := true
  light : Bool := false
  /-- What is on the display. -/
  screen : Canvas
  /-- What happened since the last frame, the latest line first. -/
  log : List LogLine := []

/-- What could be seen of a frame. -/
structure Frame where
  /-- What happened in the frame, from first to last. -/
  log : List LogLine
  /-- The display at its end. -/
  screen : Canvas
  deriving DecidableEq

/-- What could be seen of a session. -/
structure Playback where
  /-- The frames, of which the first comes before all events. -/
  frames : List Frame
  /-- What happened after the last frame. -/
  ending : List LogLine
  deriving DecidableEq

namespace Simulator

/-- The size of the display. -/
def displaySize : Size := ⟨240, 160⟩

/-- The largest number of tabs. -/
def capacity : Nat := 8

/-- The milliseconds of a frame. -/
def frameTime : Nat := 33

/-- The tab that can be disabled. -/
def toggledTab : Nat := 2

/-- The name of a pane mode in the log. -/
def modeName : PaneMode → String
  | .paged => "Paged"
  | .flick => "Flick"

/-- The name of a defect in the log. -/
def defectName : StripDefect → String
  | .iconsWithoutRoom => "IconsWithoutExtraHeight"

/-- Empties the log of the panes. The lines come with the latest first. -/
def takeLog (deck : DemoDeck) : List LogLine × DemoDeck :=
  let host := deck.link.host
  (host.log, { deck with link := { deck.link with host := { host with log := [] } } })

/-- Builds the deck for some settings, and tells what happened, the latest line first. -/
def build (settings : Settings) : Except Fault (List LogLine × Option DemoDeck) := do
  match Deck.ofTexts capacity demoCaptions FontPair.builtIn ({} : DemoPanes) settings with
  | .error problem =>
    return ([⟨.warn, s!"Failed to build tab bar: {problem.message}"⟩], none)
  | .ok deck =>
    let (_, deck) ← deck.placeAt ⟨.zero, displaySize⟩
    let (created, deck) := takeLog deck
    let warnings : List LogLine := match deck.strip.defect with
      | some defect => [⟨.warn, s!"Layout warning: {defectName defect}"⟩]
      | none => []
    let ready : LogLine :=
      ⟨.info, s!"Tab bar ready: {modeName settings.mode} mode, must scroll: {deck.overflows}"⟩
    return (ready :: (warnings ++ created), some deck)

/-- The lines that tell what came of an operation, the latest first. -/
def linesFor (outcome : Outcome) : List LogLine :=
  let change : List LogLine := match outcome.change with
    | some change => [⟨.info, s!"Tab changed {change.previous} -> {change.current}"⟩]
    | none => []
  let click : List LogLine :=
    if outcome.click then [⟨.debug, "Click feedback requested"⟩] else []
  let focus : List LogLine := match outcome.focus with
    | some .delegated => [⟨.info, "Focus handed to the active pane"⟩]
    | some .reclaimed => [⟨.info, "Focus back on the tab strip"⟩]
    | some .released => [⟨.info, "Focus left the control"⟩]
    | none => []
  focus ++ click ++ change

/-- Takes over the deck after an operation, with what came of it. -/
def report (simulator : Simulator) (outcome : Outcome) (deck : DemoDeck) : Simulator :=
  let (created, deck) := takeLog deck
  { simulator with
    deck
    log := linesFor outcome ++ created ++ simulator.log
    needsRedraw := simulator.needsRedraw || outcome.needsRedraw }

/-- Passes an input event on to the deck. -/
def input (simulator : Simulator) (event : Input) : Except Fault Simulator := do
  let (outcome, deck) ← simulator.deck.handle event
  return simulator.report outcome deck

/-- The row after a focused one, unless the focus runs off an end. -/
def nextRow (row : Nat) (down : Bool) : Option Nat :=
  if down then if row + 1 < demoRows then some (row + 1) else none
  else if row = 0 then none
  else some (row - 1)

/-- Moves the focus inside a pane; past an end it goes back to the strip. -/
def moveFocus (simulator : Simulator) (handle : PaneId) (row : Nat) (down : Bool) :
    Except Fault Simulator := do
  let deck := simulator.deck
  let withHost (host : DemoPanes) : DemoDeck := { deck with link := { deck.link with host } }
  match nextRow row down with
  | some next =>
    let focusNext (pane : DemoPane) : DemoPane := { pane with focusedRow := some next }
    let deck := withHost (deck.link.host.modify handle focusNext)
    return { simulator with deck, needsRedraw := true }
  | none =>
    let (outcome, deck) ← (withHost deck.link.host.clearFocus).reclaimFocus
    return simulator.report outcome deck

/-- An arrow key goes to the focused pane first. -/
def arrowKey (simulator : Simulator) (direction : Direction) : Except Fault Simulator :=
  let focused := simulator.deck.link.host.focused?
  match simulator.deck.focus, direction.isVertical, focused with
  | .inPane, true, some (handle, row) => simulator.moveFocus handle row (direction = .down)
  | _, _, _ => simulator.input (.key direction)

/-- Enables the third tab, or disables it. -/
def toggleTab (simulator : Simulator) : Except Fault Simulator := do
  let enabled := !simulator.deck.isEnabled toggledTab
  let word := if enabled then "enabled" else "disabled"
  let simulator :=
    { simulator with log := ⟨.info, s!"Tab {toggledTab} {word}"⟩ :: simulator.log }
  let (outcome, deck) ← simulator.deck.enableTab toggledTab enabled
  return simulator.report outcome deck

/-- Switches between the dark and the light palette. -/
def togglePalette (simulator : Simulator) : Simulator :=
  let light := !simulator.light
  let (outcome, deck) := simulator.deck.usePalette (if light then .light else .dark)
  { simulator with light }.report outcome deck

/-- Builds the deck anew for other settings. The palette and the active tab are kept. -/
def rebuild (simulator : Simulator) (settings : Settings) : Except Fault Simulator := do
  let active := simulator.deck.active.getD 0
  let (lines, built) ← build settings
  let simulator :=
    { simulator with settings, log := lines ++ simulator.log, needsRedraw := true }
  match built with
  | none => return simulator
  | some deck =>
    let (_, deck) := deck.usePalette simulator.deck.palette
    let (_, deck) ← deck.select active
    let (created, deck) := takeLog deck
    return { simulator with deck, log := created ++ simulator.log }

/-- The settings with the other pane mode; only paged decks have arrows. -/
def otherMode (settings : Settings) : Settings :=
  match settings.mode with
  | .flick => { settings with mode := .paged, showArrows := true }
  | .paged => { settings with mode := .flick, showArrows := false }

/-- The settings with the strip at the other edge. -/
def otherEdge (settings : Settings) : Settings :=
  match settings.edge with
  | .top => { settings with edge := .bottom }
  | .bottom => { settings with edge := .top }

/-- A key goes down. -/
def key (simulator : Simulator) : SimulatorKey → Except Fault Simulator
  | .arrow direction => simulator.arrowKey direction
  | .enter => simulator.input .action
  | .escape => simulator.input .abandon
  | .letter 'F' => simulator.input .focus
  | .letter 'D' => simulator.toggleTab
  | .letter 'L' => .ok simulator.togglePalette
  | .letter 'M' => simulator.rebuild (otherMode simulator.settings)
  | .letter 'B' => simulator.rebuild (otherEdge simulator.settings)
  | .letter _ | .other => .ok simulator

/-- The touch at a place of the mouse; places left of or above the display count as its edge. -/
def touchAt (point : Point) : Touch := .ofPoint ⟨max point.x 0, max point.y 0⟩

/-- The mouse moves, which drags something while its button is down. -/
def movePointer (simulator : Simulator) (point : Point) : Except Fault Simulator :=
  match simulator.pointer with
  | none => .ok simulator
  | some last =>
    { simulator with pointer := some point }.input
      (.drag (touchAt point) (point - last) simulator.clock)

/-- Takes one event of the window. -/
def handle (simulator : Simulator) : SimulatorEvent → Except Fault Simulator
  | .press point => { simulator with pointer := some point }.input (.press (touchAt point))
  | .release point => { simulator with pointer := none }.input (.release (touchAt point))
  | .move point => simulator.movePointer point
  | .key key => simulator.key key
  | .pause milliseconds => .ok { simulator with clock := simulator.clock + milliseconds }
  | .keyUp _ | .quit => .ok simulator

/-- Takes events until there are no more or the window is closed. The answer is whether it is still
open. -/
def play (simulator : Simulator) : List SimulatorEvent → Except Fault (Bool × Simulator)
  | [] => .ok (true, simulator)
  | event :: rest =>
    if event = .quit then .ok (false, simulator)
    else do (← simulator.handle event).play rest

/-- Paints the deck and then its panes, if anything changed. -/
def redraw (simulator : Simulator) : Simulator :=
  if simulator.needsRedraw then
    let deck := simulator.deck
    let panes := Picture.clippedTo deck.link.host.picture deck.paneRect
    { simulator with
      screen := (simulator.screen.draw deck.picture).draw panes
      needsRedraw := false }
  else simulator

/-- What can be seen now. The log begins anew. -/
def present (simulator : Simulator) : Frame × Simulator :=
  (⟨simulator.log.reverse, simulator.screen⟩, { simulator with log := [] })

/-- Ends a frame: the deck is told of the time, everything is painted and shown. -/
def endFrame (simulator : Simulator) : Except Fault (Frame × Simulator) := do
  let (outcome, deck) ← simulator.deck.tick frameTime
  let (frame, simulator) := (simulator.report outcome deck).redraw.present
  return (frame, { simulator with clock := simulator.clock + frameTime })

/-- Plays frames until there are no more events or the window is closed. -/
def playAll (simulator : Simulator) :
    List (List SimulatorEvent) → Except Fault (List Frame × Simulator)
  | [] => .ok ([], simulator)
  | events :: rest => do
    let (isOpen, simulator) ← simulator.play events
    if isOpen then
      let (frame, simulator) ← simulator.endFrame
      let (frames, simulator) ← simulator.playAll rest
      return (frame :: frames, simulator)
    else return ([], simulator)

/-- The lines before the deck is built, the latest first. -/
def greeting : List LogLine :=
  [⟨.info, s!"Display: {displaySize.width}x{displaySize.height}"⟩,
    ⟨.info, "Starting tabstrip simulator"⟩]

/-- Starts the simulator, unless its deck cannot be built. -/
def start : Except Fault (List LogLine × Option Simulator) := do
  let settings := Settings.touchscreen
  let (lines, built) ← build settings
  let log := lines ++ greeting
  return (log, built.map fun deck =>
    { settings, deck, screen := .filled displaySize .black, log })

/-- Plays a session, given the events of each frame. The window is shown once before the first. -/
def run (events : List (List SimulatorEvent)) : Except Fault Playback := do
  let (log, started) ← start
  match started with
  | none => return ⟨[], log.reverse⟩
  | some simulator =>
    let (first, simulator) := simulator.present
    let (frames, simulator) ← simulator.playAll events
    let closing : LogLine := ⟨.info, "Simulator closed"⟩
    return ⟨first :: frames, (closing :: simulator.log).reverse⟩

end Simulator

end TabDeck
