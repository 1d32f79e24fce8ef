import TabDeck.Deck.Keyboard
import TabDeck.Deck.Pointer

/-!
# Sessions with a deck

A session is a list of actions: what the host does with a deck, and the events that it passes on.
`Deck.perform` takes one action and `Deck.run` a list of them.
-/

namespace TabDeck

/-- Anything that can be done with a deck. -/
inductive Action where
  /-- Give the deck a place on the display. -/
  | placeAt (bounds : Rect)
  | select (index : Nat)
  | enableTab (index : Nat) (enabled : Bool)
  /-- Supply the pane of a tab. -/
  | supplyPane (index : Nat) (handle : PaneId)
  | showIcons (icons : List Image)
  | relabel (captions : List Caption)
  | enable (enabled : Bool)
  /-- Set or clear the colour of a tab. -/
  | paintTab (index : Nat) (colour : Option Colour)
  | usePalette (palette : Palette)
  | input (event : Input)
  | abandon
  /-- The active pane has no further child to focus. -/
  | reclaimFocus
  /-- Let some milliseconds pass. -/
  | tick (elapsed : Nat)
  deriving DecidableEq

namespace Deck

variable {μ σ : Type}

/-- Passes an event on to a deck. A disabled deck ignores it. -/
def handle [PaneHost σ] (deck : Deck μ σ) (event : Input) :
    Except Fault (Outcome × Deck μ σ) :=
  if deck.enabled then
    match event with
    | .press touch => deck.press touch
    | .drag _ movement time => deck.drag movement time
    | .release _ => deck.release
    | .abandon => deck.abandon
    | .key direction => deck.handleFocus (.key direction)
    | .action => deck.handleFocus .action
    | .focus => deck.handleFocus .enter
  else deck.finish .nothing

/-- What came of an action: an outcome, or the error for which it was refused. -/
abbrev Answer := Except DeckError Outcome

/-- An operation that cannot be refused. -/
def accepted (result : Except Fault (Outcome × Deck μ σ)) : Except Fault (Answer × Deck μ σ) := do
  let (outcome, deck) ← result
  return (.ok outcome, deck)

/-- An operation that can be refused, and then leaves the deck as it was. -/
def acceptedOr (deck : Deck μ σ) (result : Except DeckError (Outcome × Deck μ σ)) :
    Except Fault (Answer × Deck μ σ) :=
  match result with
  | .ok (outcome, changed) => .ok (.ok outcome, changed)
  | .error refusal => .ok (.error refusal, deck)

/-- Takes one action. -/
def perform [FontMetrics μ] [PaneHost σ] (deck : Deck μ σ) (action : Action) :
    Except Fault (Answer × Deck μ σ) :=
  match action with
  | .placeAt bounds => accepted (deck.placeAt bounds)
  | .select index => accepted (deck.select index)
  | .enableTab index enabled => accepted (deck.enableTab index enabled)
  | .supplyPane index handle => accepted (deck.supplyPane index handle)
  | .showIcons icons => deck.acceptedOr (deck.showIcons icons)
  | .relabel captions => deck.acceptedOr (deck.relabel captions)
  | .enable enabled => accepted (deck.enable enabled)
  | .paintTab index colour => accepted (.ok (deck.paintTab index colour))
  | .usePalette palette => accepted (.ok (deck.usePalette palette))
  | .input event => accepted (deck.handle event)
  | .abandon => accepted deck.abandon
  | .reclaimFocus => accepted deck.reclaimFocus
  | .tick elapsed => accepted (deck.tick elapsed)

/-- Takes a list of actions, and gathers their answers. -/
def run [FontMetrics μ] [PaneHost σ] (deck : Deck μ σ) :
    List Action → Except Fault (List Answer × Deck μ σ)
  | [] => .ok ([], deck)
  | action :: rest => do
    let (answer, deck) ← deck.perform action
    let (answers, deck) ← deck.run rest
    return (answer :: answers, deck)

end Deck

end TabDeck
