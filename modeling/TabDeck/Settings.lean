/-!
# Settings of a deck

Everything a host may want to keep with the rest of its settings. Colours are not part of it.
-/

namespace TabDeck

/-- The side of the panes on which the strip of tabs lies. -/
inductive StripEdge where
  | top
  | bottom
  deriving DecidableEq, Repr, Inhabited

/-- The look of the tabs. -/
inductive Style where
  /-- Outlined tabs; the active one is taller and its caption is bold. -/
  | classic
  /-- Flat tabs of one height, without bold captions; a tap counts on release. -/
  | material
  deriving DecidableEq, Repr, Inhabited

/-- What becomes of the panes of inactive tabs. -/
inductive PaneMode where
  /-- Only the active pane is mounted. -/
  | paged
  /-- All panes are mounted side by side, and a sideways drag pages between them. -/
  | flick
  deriving DecidableEq, Repr, Inhabited

/-- The border around the panes. -/
inductive Border where
  | framed
  | bare
  deriving DecidableEq, Repr, Inhabited

/-- The room left free on each side, in pixels. -/
structure Insets where
  top : Nat := 0
  right : Nat := 0
  bottom : Nat := 0
  left : Nat := 0
  deriving DecidableEq, Repr, Inhabited

namespace Insets

/-- The same room on every side. -/
def uniform (room : Nat) : Insets := ⟨room, room, room, room⟩

/-- The columns taken on both sides. -/
def horizontal (insets : Insets) : Nat := insets.left + insets.right

/-- The rows taken above and below. -/
def vertical (insets : Insets) : Nat := insets.top + insets.bottom

end Insets

/-- How a deck looks and behaves. -/
structure Settings where
  edge : StripEdge := .top
  style : Style := .classic
  /-- What becomes of inactive panes. -/
  mode : PaneMode := .paged
  border : Border := .framed
  equalWidths : Bool := false
  /-- Rows reserved in each tab for an icon. -/
  extraHeight : Nat := 0
  /-- Show arrows beside a strip that overflows. -/
  showArrows : Bool := true
  /-- A gesture may enter a disabled tab. -/
  flickIntoDisabled : Bool := true
  /-- Keys move between the tabs and into the active pane. -/
  keyboardFocus : Bool := true
  /-- Ask for a click sound when a tab is tapped. -/
  clickSound : Bool := false
  /-- How far, in pixels, a tap may miss a tab in flick mode. -/
  touchTolerance : Nat := 8
  /-- The room between the deck's bounds and the frame around the panes. -/
  insets : Insets := {}
  deriving DecidableEq, Repr, Inhabited

namespace Settings

/-- Settings for fingers: panes gesture and arrows are hidden. -/
def touchscreen : Settings := { mode := .flick, showArrows := false }

/-- Whether the panes lie side by side. -/
def flicks (settings : Settings) : Bool := settings.mode = .flick

/-- The pixels between the frame and the panes: only framed classic decks leave one. -/
def frameGap (settings : Settings) : Nat :=
  match settings.border, settings.style with
  | .framed, .classic => 1
  | _, _ => 0

end Settings

end TabDeck
