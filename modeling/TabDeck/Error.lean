import TabDeck.Settings.Stored

/-!
# Faults and errors

An error is an answer: what the caller asked for cannot be done, and `DeckError.message` says why.
A fault is none: the operation breaks off in the middle and nothing can be said of the deck after
it.
-/

namespace TabDeck

/-- Why an operation broke off. -/
inductive Fault where
  /-- An offset was to be confined to a range whose lower end lies above its upper end. -/
  | emptyRange (lower upper : Int)
  /-- A list was asked for an entry past its end. -/
  | outOfBounds (index length : Nat)
  deriving DecidableEq, Repr

/-- The entry of a list at an index that should be there. -/
def entry {α : Type} (list : List α) (index : Nat) : Except Fault α :=
  match list[index]? with
  | some value => .ok value
  | none => .error (.outOfBounds index list.length)

/-- Why a deck cannot be made or changed as asked. -/
inductive DeckError where
  | noCaptions
  /-- There are more captions than the deck has room for. -/
  | tooManyCaptions (capacity : Nat)
  /-- The text of a caption does not fit. -/
  | longCaption (index maxBytes : Nat)
  /-- Texts and images stand in one strip. -/
  | mixedCaptions
  /-- New captions must be as many as the old. -/
  | captionCount (expected actual : Nat)
  /-- There must be one icon for each tab. -/
  | iconCount (expected actual : Nat)
  | stored (problem : StoredError)
  deriving DecidableEq, Repr

namespace DeckError

/-- The text of an error. -/
def message : DeckError → String
  | .noCaptions => "Tab bar has no captions"
  | .tooManyCaptions capacity => s!"Too many tabs (max: {capacity})"
  | .longCaption index maxBytes => s!"Caption {index} is longer than {maxBytes} bytes"
  | .mixedCaptions => "Captions mix text and images"
  | .captionCount expected actual =>
    s!"Caption count mismatch (expected {expected}, got {actual})"
  | .iconCount expected actual => s!"Icon count mismatch (expected {expected}, got {actual})"
  | .stored problem => s!"Config encoding failed: {problem.name}"

end DeckError

end TabDeck
