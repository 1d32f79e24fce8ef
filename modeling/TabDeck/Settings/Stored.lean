import TabDeck.Settings

/-!
# The stored form of settings

Settings are stored as their fields in order of declaration, with no length in front and no mark
behind. A number is written in groups of seven bits, the lowest group first, and every byte but the
last has its high bit set; a choice is written as its number and a flag as one byte. Reading takes
at most five bytes for a number, accepts numbers with needless zero groups, and leaves what follows
the last field alone.
-/

namespace TabDeck

/-- What may be wrong with stored settings. -/
inductive StoredError where
  /-- The bytes end inside a field. -/
  | truncated
  /-- A number has more than 32 bits. -/
  | longNumber
  /-- A flag is neither zero nor one. -/
  | badFlag
  /-- A choice has a number that nothing stands for. -/
  | badChoice
  deriving DecidableEq, Repr

namespace StoredError

/-- The name under which the error is reported. -/
def name : StoredError → String
  | .truncated => "DeserializeUnexpectedEnd"
  | .longNumber => "DeserializeBadVarint"
  | .badFlag => "DeserializeBadBool"
  | .badChoice => "SerdeDeCustom"

end StoredError

namespace Stored

/-- The bytes of a number. -/
def number (value : Nat) : List UInt8 :=
  if value < 128 then [value.toUInt8]
  else (value % 128 + 128).toUInt8 :: number (value / 128)
termination_by value

/-- The byte of a flag. -/
def flag (value : Bool) : List UInt8 := [if value then 1 else 0]

/-- The bytes of a strip edge. -/
def edge : StripEdge → List UInt8
  | .top => number 0
  | .bottom => number 1

/-- The bytes of a style. -/
def style : Style → List UInt8
  | .classic => number 0
  | .material => number 1

/-- The bytes of a pane mode. -/
def mode : PaneMode → List UInt8
  | .paged => number 0
  | .flick => number 1

/-- The bytes of a border. -/
def border : Border → List UInt8
  | .framed => number 0
  | .bare => number 1

/-- The bytes of insets. -/
def insets (value : Insets) : List UInt8 :=
  number value.top ++ number value.right ++ number value.bottom ++ number value.left

/-- A reader takes a value from the front of the bytes and leaves the rest. -/
abbrev Reader (α : Type) := StateT (List UInt8) (Except StoredError) α

/-- The largest value of the last byte of a number of full length: the four highest of 32 bits. -/
def lastByteMax : UInt8 := 15

/-- Reads a number that may take `room` more bytes. -/
def readNumberWithin : Nat → List UInt8 → Except StoredError (Nat × List UInt8)
  | 0, _ => .error .longNumber
  | _ + 1, [] => .error .truncated
  | room + 1, byte :: rest =>
    if byte < 128 then
      if room = 0 ∧ lastByteMax < byte then .error .longNumber else .ok (byte.toNat, rest)
    else
      match readNumberWithin room rest with
      | .ok (high, rest) => .ok (byte.toNat - 128 + 128 * high, rest)
      | .error problem => .error problem

/-- Reads a number of at most five bytes. -/
def readNumber : Reader Nat := readNumberWithin 5

/-- Reads a flag. -/
def readFlag : Reader Bool := fun
  | [] => .error .truncated
  | byte :: rest =>
    if byte = 0 then .ok (false, rest)
    else if byte = 1 then .ok (true, rest)
    else .error .badFlag

/-- Reads the number of one of two choices. -/
def readChoice {α : Type} (first second : α) : Reader α := do
  match ← readNumber with
  | 0 => pure first
  | 1 => pure second
  | _ => throw .badChoice

/-- Reads insets. -/
def readInsets : Reader Insets := do
  let top ← readNumber
  let right ← readNumber
  let bottom ← readNumber
  let left ← readNumber
  return { top, right, bottom, left }

/-- Reads all fields of settings. -/
def readSettings : Reader Settings := do
  let edge ← readChoice .top .bottom
  let style ← readChoice .classic .material
  let mode ← readChoice .paged .flick
  let border ← readChoice .framed .bare
  let equalWidths ← readFlag
  let extraHeight ← readNumber
  let showArrows ← readFlag
  let flickIntoDisabled ← readFlag
  let keyboardFocus ← readFlag
  let clickSound ← readFlag
  let touchTolerance ← readNumber
  let insets ← readInsets
  return { edge, style, mode, border, equalWidths, extraHeight, showArrows, flickIntoDisabled,
           keyboardFocus, clickSound, touchTolerance, insets }

end Stored

namespace Settings

/-- The stored form of settings. -/
def encode (settings : Settings) : List UInt8 :=
  Stored.edge settings.edge ++ Stored.style settings.style ++ Stored.mode settings.mode ++
    Stored.border settings.border ++ Stored.flag settings.equalWidths ++
    Stored.number settings.extraHeight ++ Stored.flag settings.showArrows ++
    Stored.flag settings.flickIntoDisabled ++ Stored.flag settings.keyboardFocus ++
    Stored.flag settings.clickSound ++ Stored.number settings.touchTolerance ++
    Stored.insets settings.insets

/-- The settings at the front of some bytes. -/
def decode (bytes : List UInt8) : Except StoredError Settings :=
  (Stored.readSettings bytes).map Prod.fst

end Settings

end TabDeck
