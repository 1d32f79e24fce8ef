import TabDeck.Geometry

/-!
# Captions and their measurement

A caption is a short text or an image that the host draws. A strip never looks at letters: all it
asks of a font is `FontMetrics`, the width of a text and the height of a line in either weight.
-/

namespace TabDeck

/-- The weight in which a caption is set: the active tab may use the bold one. -/
inductive Weight where
  | plain
  | bold
  deriving DecidableEq, Repr

/-- What can measure captions. -/
class FontMetrics (μ : Type) where
  textWidth : μ → Weight → String → Nat
  lineHeight : μ → Weight → Nat
  /-- Whether the bold weight has widths of its own. -/
  boldDiffers : μ → Bool

/-- The room for the text of one caption, in bytes. -/
def maxCaptionBytes : Nat := 32

/-- A text that fits the room for a caption. -/
structure CaptionText where
  content : String
  fits : content.utf8ByteSize ≤ maxCaptionBytes
  deriving DecidableEq

/-- A text as a caption text, if it fits. -/
def CaptionText.ofString? (content : String) : Option CaptionText :=
  if fits : content.utf8ByteSize ≤ maxCaptionBytes then some ⟨content, fits⟩ else none

/-- An image of the host, known by number and size only. -/
structure Image where
  id : Nat
  size : Size
  deriving DecidableEq, Repr, Inhabited

/-- What stands on a tab. -/
inductive Caption where
  | text (content : CaptionText)
  | image (picture : Image)
  deriving DecidableEq

namespace Caption

/-- A text caption, if the text fits. -/
def ofText? (content : String) : Option Caption :=
  (CaptionText.ofString? content).map .text

/-- Whether the caption is a text. -/
def isText : Caption → Bool
  | .text _ => true
  | .image _ => false

/-- The text of a text caption. -/
def text? : Caption → Option String
  | .text content => some content.content
  | .image _ => none

/-- The height of an image caption; a text has none of its own. -/
def imageHeight : Caption → Nat
  | .text _ => 0
  | .image picture => picture.size.height

/-- The width of the caption in a weight. -/
def width {μ : Type} [FontMetrics μ] (metrics : μ) (weight : Weight) : Caption → Nat
  | .text content => FontMetrics.textWidth metrics weight content.content
  | .image picture => picture.size.width

end Caption

end TabDeck
