import TabDeck.Deck.Operations

/-!
# Keys on a deck

Keys act on the focus, and the focus on the deck: it changes tabs, enters the active pane or leaves
the deck. Whenever the focus moves on or off the strip, the strip is painted anew.
-/

namespace TabDeck

namespace Deck

variable {μ σ : Type} [PaneHost σ]

/-- Offers the focus to the active pane. If it has nothing to focus, the focus stays on the
strip. -/
def enterPane (deck : Deck μ σ) (forward : Bool) : Except Fault (Outcome × Deck μ σ) := do
  match deck.active with
  | none => finish .nothing { deck with focus := deck.focus.refused }
  | some active =>
    let (handle, deck) ← deck.paneOf active
    let (granted, link) := deck.link.takeFocus handle forward
    let deck := { deck with link }
    if granted then deck.finish { Outcome.usedUp with focus := some .delegated }
    else finish .usedUp { deck with focus := deck.focus.refused }

/-- Carries out what the focus asks for. -/
def followFocus (deck : Deck μ σ) (effect : KeyFocus.Task) : Except Fault (Outcome × Deck μ σ) :=
  match effect with
  | .nothing => deck.finish .nothing
  | .changeTab forward =>
    deck.thenSelect .usedUp (nextAvailable deck.active forward deck.blockedFlags)
  | .enterPane forward => deck.enterPane forward
  | .reclaim => deck.finish { Outcome.usedUp with focus := some .reclaimed }
  | .release => deck.finish { Outcome.usedUp with focus := some .released }

/-- Something happened to the focus. A deck without keyboard focus does not care. -/
def handleFocus (deck : Deck μ σ) (event : KeyFocus.Event) : Except Fault (Outcome × Deck μ σ) := do
  if deck.settings.keyboardFocus then
    let before := deck.focus
    let (focus, effect) := before.respond event deck.settings.edge
    let (outcome, deck) ← { deck with focus }.followFocus effect
    deck.finish (if deck.focus = before then outcome else outcome.andThen deck.repaintStrip)
  else deck.finish .nothing

/-- The traversal of the active pane ran off an end: the strip takes the focus back. -/
def reclaimFocus (deck : Deck μ σ) : Except Fault (Outcome × Deck μ σ) :=
  deck.handleFocus .paneExhausted

end Deck

end TabDeck
