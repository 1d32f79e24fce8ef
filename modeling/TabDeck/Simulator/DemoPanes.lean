import TabDeck.Font.BuiltIn
import TabDeck.PaneHost
import TabDeck.Picture.Canvas
import TabDeck.Simulator.Log

/-!
# The panes of the simulator

Each pane is a coloured block with a title and a few rows that can take the keyboard focus. Panes
are numbered in the order of their creation, and creating one is logged.
-/

namespace TabDeck

/-- The captions of the simulator's tabs. -/
def demoCaptions : List String :=
  ["Overview", "Network", "Storage", "Sensors", "Logs", "Settings", "About"]

/-- The fills of the panes, which take turns. -/
def demoColours : List Colour :=
  [.ofChannels 4 12 8, .ofChannels 8 10 4, .ofChannels 4 8 12, .ofChannels 10 6 10]

/-- The number of rows in a pane. -/
def demoRows : Nat := 3

/-- A pane of the simulator. -/
structure DemoPane where
  /-- The tab for which the pane was created. -/
  tab : Nat
  bounds : Rect := .zero
  mounted : Bool := false
  focusedRow : Option Nat := none
  deriving DecidableEq, Repr

/-- All panes of the simulator. -/
structure DemoPanes where
  /-- The panes in the order of their creation. -/
  panes : List DemoPane := []
  /-- What happened since the log was last taken, the latest line first. -/
  log : List LogLine := []
  deriving DecidableEq, Repr

namespace DemoPanes

/-- Changes one pane, if it is there. -/
def modify (host : DemoPanes) (handle : PaneId) (change : DemoPane → DemoPane) : DemoPanes :=
  { host with panes := host.panes.modify handle.id change }

/-- Takes the focus away from all panes. -/
def clearFocus (host : DemoPanes) : DemoPanes :=
  { host with panes := host.panes.map fun pane => { pane with focusedRow := none } }

/-- The first pane with the focus, and its focused row. -/
def focused? (host : DemoPanes) : Option (PaneId × Nat) :=
  host.panes.zipIdx.findSome? fun (pane, index) => pane.focusedRow.map fun row => (⟨index⟩, row)

instance : PaneHost DemoPanes where
  create host tab :=
    let index := host.panes.length
    let line : LogLine := ⟨.debug, s!"Created pane PaneHandle({index}) for tab {tab}"⟩
    (⟨index⟩, { panes := host.panes ++ [{ tab }], log := line :: host.log })
  mount host handle rect :=
    host.modify handle fun pane => { pane with bounds := rect, mounted := true }
  unmount host handle :=
    host.modify handle fun pane => { pane with mounted := false, focusedRow := none }
  move host handle corner :=
    host.modify handle fun pane => { pane with bounds := ⟨corner, pane.bounds.size⟩ }
  takeFocus host handle forward :=
    let row := if forward then 0 else demoRows - 1
    let host := host.clearFocus.modify handle fun pane => { pane with focusedRow := some row }
    (handle.id < host.panes.length, host)

/-- One line of text in the plain font. -/
def label (content : String) (corner : Point) (colour : Colour) : Painted :=
  { shape := .text .regular corner content.toList, colour }

/-- The picture of one pane. -/
def panePicture (pane : DemoPane) : Picture :=
  let origin := pane.bounds.origin + ⟨6, 6⟩
  let fill := demoColours.getD (pane.tab % demoColours.length) .black
  let title := demoCaptions.getD pane.tab "" ++ " pane"
  let rows := (List.range demoRows).map fun row =>
    let colour : Colour := if pane.focusedRow = some row then .yellow else .white
    label s!"[ item {row + 1} ]" (origin + ⟨4, 16 + 12 * row⟩) colour
  { shape := .block pane.bounds, colour := fill } :: label title origin .white :: rows

/-- The picture of all panes that are shown. -/
def picture (host : DemoPanes) : Picture :=
  (host.panes.filter DemoPane.mounted).flatMap panePicture

end DemoPanes

end TabDeck
