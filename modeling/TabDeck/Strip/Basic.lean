import TabDeck.Strip.Caption
import TabDeck.Error

/-!
# The measures of a strip

Every tab has two rectangles, one for when it is active and one for when it is not. They follow from
the captions and from a `StripPolicy`, and are measured from the tab's own left edge and from the
top of the strip. `Strip.measure` finds them, `Strip.wantedWidth` adds them up.
-/

namespace TabDeck

/-- What the measures depend on besides the captions. -/
structure StripPolicy where
  /-- Give every tab the width of the widest, or an equal share if that is more. -/
  equalWidths : Bool
  /-- Rows reserved for icons. -/
  extraHeight : Nat
  /-- Icons stand beside text captions. -/
  hasIcons : Bool
  edge : StripEdge
  style : Style
  availableWidth : Nat
  /-- The columns that insets take, which are not shared out. -/
  extraWidth : Nat
  deriving DecidableEq, Repr

/-- A defect of a strip that does not prevent it. -/
inductive StripDefect where
  /-- There are icons but no rows reserved for them; they keep their size. -/
  | iconsWithoutRoom
  deriving DecidableEq, Repr

/-- The measures of one tab. -/
structure TabMeasure where
  /-- The width of the caption, or its share, while the tab is inactive. -/
  plainWidth : Nat
  /-- The width of the caption, or its share, while the tab is active. -/
  boldWidth : Nat
  selected : Rect
  unselected : Rect
  deriving DecidableEq, Repr, Inhabited

/-- The measures of a strip. -/
structure Strip where
  tabs : List TabMeasure
  height : Nat
  /-- The line height of the plain font. -/
  lineHeight : Nat
  /-- The edge to which icons are scaled, if there are icons with room. -/
  iconSize : Option Nat
  defect : Option StripDefect
  deriving DecidableEq, Repr, Inhabited

/-- Captions make a strip if there are some, not too many, and all of one kind. -/
def checkCaptions (capacity : Nat) (captions : List Caption) : Except DeckError Unit :=
  match captions with
  | [] => .error .noCaptions
  | first :: _ =>
    if capacity < captions.length then .error (.tooManyCaptions capacity)
    else if captions.any fun caption => caption.isText != first.isText then .error .mixedCaptions
    else .ok ()

/-- Whether a strip consists of texts. -/
def textStrip (captions : List Caption) : Bool := (captions.head?.map Caption.isText).getD false

/-- The widths of a caption on an inactive and on an active tab. A bold text is never narrower. -/
def Caption.tabWidths {μ : Type} [FontMetrics μ] (metrics : μ) (usesBold : Bool)
    (caption : Caption) : Nat × Nat :=
  let plain := caption.width metrics .plain
  (plain, if usesBold then max (caption.width metrics .bold) plain else plain)

namespace StripPolicy

/-- The rows around a classic text. -/
def classicRows : Nat := 4

/-- The rows around a flat text. -/
def materialRows : Nat := 8

/-- The rows around an image. -/
def imageRows : Nat := 4

/-- The columns around the caption of an active classic tab. -/
def selectedColumns : Nat := 5

/-- The columns around the caption of an inactive classic tab. -/
def unselectedColumns : Nat := 4

/-- The columns around a flat caption. -/
def materialColumns : Nat := 12

/-- The rows by which an inactive classic tab is lower than the active one. -/
def unselectedDrop : Nat := 2

/-- Whether icons stand beside the captions. -/
def overlaysIcons (policy : StripPolicy) (captions : List Caption) : Bool :=
  textStrip captions && policy.hasIcons

/-- The height of a strip. -/
def stripHeight (policy : StripPolicy) (lineHeight : Nat) (captions : List Caption) : Nat :=
  if textStrip captions then
    match policy.style with
    | .classic =>
      lineHeight + classicRows + if policy.hasIcons then policy.extraHeight else 0
    | .material => lineHeight + materialRows + policy.extraHeight
  else
    (captions.map Caption.imageHeight).foldl max 0 + imageRows

/-- The share of the available width that each tab gets. -/
def equalShare (policy : StripPolicy) (count : Nat) : Nat :=
  (policy.availableWidth - policy.extraWidth) / count

/-- The widths of all captions, made equal where the policy says so. -/
def sharedWidths (policy : StripPolicy) (widths : List (Nat × Nat)) : List (Nat × Nat) :=
  if policy.equalWidths then
    let share := policy.equalShare widths.length
    let plain := max ((widths.map Prod.fst).foldl max 0) share
    let bold := max ((widths.map Prod.snd).foldl max 0) share
    widths.map fun _ => (plain, bold)
  else
    widths

/-- The measures of a tab whose caption has two given widths. -/
def tabMeasure (policy : StripPolicy) (isText : Bool) (height : Nat) (widths : Nat × Nat) :
    TabMeasure :=
  let (plain, bold) := widths
  match policy.style with
  | .classic =>
    let drop : Int := match policy.edge with
      | .top => unselectedDrop
      | .bottom => 0
    { plainWidth := plain
      boldWidth := bold
      selected := ⟨⟨0, 0⟩, ⟨bold + selectedColumns, height⟩⟩
      unselected := ⟨⟨0, drop⟩, ⟨plain + unselectedColumns, height - unselectedDrop⟩⟩ }
  | .material =>
    let width := plain + materialColumns
    let selected : Rect := ⟨⟨0, 0⟩, ⟨width, height⟩⟩
    let half := policy.extraHeight / 2
    let drop : Int := match policy.edge with
      | .top => half
      | .bottom => 0
    { plainWidth := plain
      boldWidth := bold
      selected
      unselected :=
        if isText && !policy.hasIcons then ⟨⟨0, drop⟩, ⟨width, height - half⟩⟩
        else selected }

end StripPolicy

namespace Strip

/-- Measures captions and derives the rectangles of every tab. -/
def measure {μ : Type} [FontMetrics μ] (capacity : Nat) (captions : List Caption) (metrics : μ)
    (policy : StripPolicy) : Except DeckError Strip := do
  checkCaptions capacity captions
  let isText := textStrip captions
  let lineHeight := FontMetrics.lineHeight metrics .plain
  let height := policy.stripHeight lineHeight captions
  let usesBold := isText && policy.style = .classic && FontMetrics.boldDiffers metrics
  let widths := captions.map (Caption.tabWidths metrics usesBold)
  let overlaid := policy.overlaysIcons captions
  return {
    tabs := (policy.sharedWidths widths).map (policy.tabMeasure isText height)
    height
    lineHeight
    iconSize :=
      if overlaid && policy.extraHeight != 0 then some (policy.extraHeight - lineHeight / 2)
      else none
    defect := if overlaid && policy.extraHeight == 0 then some .iconsWithoutRoom else none }

/-- The first of the tabs whose selected rectangle is widest. -/
def widestSelected : List TabMeasure → Option TabMeasure
  | [] => none
  | first :: rest =>
    some (rest.foldl
      (fun widest tab =>
        if widest.selected.size.width < tab.selected.size.width then tab else widest)
      first)

/-- The tab drawn as active; while there is none, or no such tab, the widest stands in for it. -/
def standIn (strip : Strip) (active : Option Nat) : Option TabMeasure :=
  (active.bind fun index => strip.tabs[index]?).or (widestSelected strip.tabs)

/-- The width the strip takes with its active tab, plus some extra columns. Neighbours share a
column. -/
def wantedWidth (strip : Strip) (active : Option Nat) (extraWidth : Nat) : Nat :=
  match strip.standIn active with
  | none => extraWidth
  | some tab =>
    strip.tabs.foldr (fun tab width => tab.unselected.size.width - 1 + width) 0 +
      (tab.selected.size.width - tab.unselected.size.width) + extraWidth

end Strip

end TabDeck
