import TabDeck.Proofs.DrawnArea

/-!
# Room for captions

A caption is centred on its tab, below the middle or above it where icons stand beside it. Every tab
is wide enough for its caption, the active one for a bold caption, too. The rows of a strip are
counted from the plain font alone: a caption keeps to its tab, unless the tab is an active classic
one and the lines of the bold font are too high for the strip (`Deck.caption_fits_iff`).
-/

namespace TabDeck

/-! ## Centred boxes and lines -/

/-- A box whose middle pixel is given. -/
def Rect.centredOn (anchor : Point) (size : Size) : Rect :=
  ⟨⟨anchor.x - ((size.width - 1) / 2 : Nat), anchor.y - ((size.height - 1) / 2 : Nat)⟩, size⟩

/-- A line keeps to some rows if it is centred on the row that lies some rows below the middle. -/
def LineFits (line height : Nat) (shift : Int) : Prop :=
  ((line - 1) / 2 : Nat) ≤ ((height - 1) / 2 : Nat) + shift ∧
    ((height - 1) / 2 : Nat) + shift + line ≤ height + ((line - 1) / 2 : Nat)

instance (line height : Nat) (shift : Int) : Decidable (LineFits line height shift) :=
  inferInstanceAs (Decidable (_ ∧ _))

/-- In the middle of some rows there is room for exactly as many. -/
theorem lineFits_centred_iff {line height : Nat} : LineFits line height 0 ↔ line ≤ height := by
  simp only [LineFits]
  omega

/-- A box that is not too wide has room if its lines have. -/
theorem Rect.inside_centredOn_iff {rect : Rect} {size : Size} {shift : Int}
    (narrow : size.width ≤ rect.size.width) :
    (centredOn ⟨rect.centre.x, rect.centre.y + shift⟩ size).Inside rect ↔
      LineFits size.height rect.size.height shift := by
  simp only [Inside, centredOn, centre, LineFits]
  omega

namespace MonoFont

variable {font : MonoFont} {first last row : Nat} {character : Char}

/-- A glyph keeps to its columns and rows. -/
theorem ink_bounds (inked : (first, last) ∈ font.ink character row) :
    row < font.height ∧ last < font.width := by
  simp only [ink] at inked
  split at inked
  · cases inked
  · refine ⟨by omega, ?_⟩
    split at inked
    · split at inked
      · cases inked
      · next solid =>
        rw [List.mem_singleton, Prod.mk.injEq] at inked
        rw [not_or] at solid
        omega
    · rcases List.mem_filterMap.mp inked with ⟨column, inRange, inked⟩
      rw [List.mem_range] at inRange
      simp only [Option.ite_none_right_eq_some, Option.some.injEq, Prod.mk.injEq] at inked
      omega

theorem advance_le_runWidth {index count : Nat} (inRange : index < count) :
    index * font.advance + font.width ≤ font.runWidth count := by
  have columns := Nat.mul_le_mul_right font.width inRange
  have gaps := Nat.mul_le_mul_right font.spacing (Nat.le_sub_one_of_lt inRange)
  simp only [advance, runWidth, Nat.mul_add, Nat.succ_mul] at columns gaps ⊢
  omega

/-- A line of text keeps to the room for its characters, or for more of them. -/
theorem text_keepsTo {corner : Point} {line : List Char} {count : Nat}
    (short : line.length ≤ count) :
    (Shape.text font corner line).KeepsTo ⟨corner, ⟨font.runWidth count, font.height⟩⟩ := by
  rintro point ⟨run, isRun, inRun⟩
  simp only [Shape.runs, MonoFont.runs] at isRun
  split at isRun
  · cases isRun
  · rcases List.mem_flatMap.mp isRun with ⟨⟨character, index⟩, member, glyph⟩
    rcases List.mem_map.mp glyph with ⟨⟨first, last⟩, inked, rfl⟩
    have inLine := (List.mem_zipIdx' member).1
    have bounds := ink_bounds inked
    have room := font.advance_le_runWidth (Nat.lt_of_lt_of_le inLine short)
    simp only [Rect.Contains] at inRun ⊢
    omega

theorem runWidth_eq (font : MonoFont) (count : Nat) :
    max (((count * font.advance : Nat) : Int) - font.spacing) 0 = font.runWidth count := by
  cases count with
  | zero => simp [runWidth]
  | succ count =>
    simp only [runWidth, advance, Nat.mul_add, Nat.succ_mul, Nat.add_sub_cancel]
    omega

end MonoFont

theorem linesOf_of_single {characters : List Char} (single : '\n' ∉ characters) :
    linesOf characters = [characters] := by
  induction characters with
  | nil => rfl
  | cons character rest ih =>
    rw [List.mem_cons, not_or] at single
    rw [linesOf]
    · simp [ih single.2]
    · exact fun isBreak => single.1 isBreak.symm

theorem length_drawnPart_le (line : List Char) : (drawnPart line).length ≤ line.length := by
  simp only [drawnPart]
  split
  · simp
  · exact Nat.le_refl _

/-- What lies left of the middle pixel, or above it. -/
theorem tdiv_pred (length : Nat) : ((length : Int) - 1).tdiv 2 = ((length - 1) / 2 : Nat) := by
  cases length with
  | zero => rfl
  | succ length =>
    rw [Nat.add_sub_cancel, Int.natCast_add, Int.natCast_one, Int.add_sub_cancel]
    exact (Int.ofNat_tdiv length 2).symm

/-- A text of one line is painted in the box around its anchor that is as wide as the text. -/
theorem MonoFont.centred_keepsTo (font : MonoFont) (anchor : Point) {content : String}
    (single : '\n' ∉ content.toList) :
    ∀ shape ∈ font.centred anchor content, shape.KeepsTo
      (.centredOn anchor ⟨font.runWidth content.length, font.height⟩) := by
  intro shape member
  simp only [centred, linesOf_of_single single, List.zipIdx_cons, List.zipIdx_nil, List.map_cons,
    List.map_nil, List.mem_singleton, runWidth_eq, tdiv_pred, Nat.zero_mul, Int.natCast_zero,
    Int.add_zero] at member
  rw [member]
  exact text_keepsTo (length_drawnPart_le content.toList)

/-! ## The rows of tabs with texts -/

/-- Captions that make a strip are texts if one of them is. -/
theorem textStrip_eq {capacity : Nat} {captions : List Caption} {caption : Caption}
    (checked : checkCaptions capacity captions = .ok ()) (member : caption ∈ captions) :
    textStrip captions = caption.isText := by
  cases captions with
  | nil => cases member
  | cons first rest =>
    simp only [checkCaptions] at checked
    split at checked
    · cases checked
    · split at checked
      · cases checked
      · next uniform =>
        simp only [List.any_eq_true, not_exists, not_and, bne_iff_ne, ne_eq, not_not] at uniform
        exact (uniform caption member).symm

namespace Strip

/-- How far below the middle of a tab its text stands to make room for an icon. -/
def textShift (strip : Strip) (edge : StripEdge) : Int :=
  match strip.iconSize with
  | none => 0
  | some size =>
    match edge with
    | .top => (size / 2 : Nat)
    | .bottom => -((size / 2 : Nat) : Int)

section Measured

variable {μ : Type} [FontMetrics μ] {capacity : Nat} {captions : List Caption} {metrics : μ}
  {policy : StripPolicy} {strip : Strip}
  (measured : measure capacity captions metrics policy = .ok strip)

include measured

theorem exists_tabMeasure {tab : TabMeasure} (isTab : tab ∈ strip.tabs) :
    ∃ widths, tab = policy.tabMeasure (textStrip captions) strip.height widths := by
  simp only [measure, bind_eq_ok, pure_eq_ok] at measured
  rcases measured with ⟨_, _, rfl⟩
  rcases List.mem_map.mp isTab with ⟨widths, -, rfl⟩
  exact ⟨widths, rfl⟩

theorem iconSize_of_measure (texts : textStrip captions = true) :
    strip.iconSize = if policy.hasIcons && policy.extraHeight != 0 then
      some (policy.extraHeight - FontMetrics.lineHeight metrics .plain / 2) else none := by
  simp only [measure, bind_eq_ok, pure_eq_ok] at measured
  rcases measured with ⟨_, _, rfl⟩
  simp only [StripPolicy.overlaysIcons, texts, Bool.true_and]

/-- A tab is as high as the strip while it is active. -/
theorem selected_height {tab : TabMeasure} (isTab : tab ∈ strip.tabs) :
    tab.selected.size.height = strip.height := by
  rcases exists_tabMeasure measured isTab with ⟨widths, rfl⟩
  simp only [StripPolicy.tabMeasure]
  cases policy.style <;> rfl

/-- Every tab has the rows of a plain line, and beside icons those reserved for them as well. -/
theorem rows_of_text (texts : textStrip captions = true) {tab : TabMeasure}
    (isTab : tab ∈ strip.tabs) {own : Rect} (isOwn : own = tab.selected ∨ own = tab.unselected) :
    FontMetrics.lineHeight metrics .plain ≤ own.size.height ∧
      (policy.hasIcons = true →
        FontMetrics.lineHeight metrics .plain + policy.extraHeight + 2 ≤ own.size.height) := by
  have height := height_of_measure measured
  rcases exists_tabMeasure measured isTab with ⟨widths, rfl⟩
  simp only [StripPolicy.stripHeight, StripPolicy.classicRows, StripPolicy.materialRows, texts,
    if_true] at height
  simp only [StripPolicy.tabMeasure, StripPolicy.unselectedDrop, texts, Bool.true_and] at isOwn
  cases style : policy.style with
  | classic =>
    simp only [style] at height isOwn
    constructor
    · rcases isOwn with rfl | rfl <;> dsimp only <;> omega
    · intro icons
      rw [if_pos icons] at height
      rcases isOwn with rfl | rfl <;> dsimp only <;> omega
  | material =>
    simp only [style] at height isOwn
    constructor
    · rcases isOwn with rfl | rfl
      · dsimp only
        omega
      · split <;> dsimp only <;> omega
    · intro icons
      simp only [icons, Bool.not_true, Bool.false_eq_true, if_false, or_self] at isOwn
      rw [isOwn]
      dsimp only
      omega

/-- Every tab has room for a line of the plain font, whichever way it is moved for an icon. -/
theorem lineFits_plain (texts : textStrip captions = true) {tab : TabMeasure}
    (isTab : tab ∈ strip.tabs) {own : Rect} (isOwn : own = tab.selected ∨ own = tab.unselected)
    (edge : StripEdge) :
    LineFits (FontMetrics.lineHeight metrics .plain) own.size.height (strip.textShift edge) := by
  rcases rows_of_text measured texts isTab isOwn with ⟨rows, besideIcons⟩
  simp only [textShift, iconSize_of_measure measured texts]
  split
  · exact lineFits_centred_iff.mpr rows
  · next size isSize =>
    rw [Option.ite_none_right_eq_some, Bool.and_eq_true, Option.some.injEq] at isSize
    rcases isSize with ⟨⟨icons, -⟩, rfl⟩
    have room := besideIcons icons
    cases edge <;> simp only [LineFits] <;> omega

/-- A line has room on an active classic tab if it is no higher than a plain one with the rows
around it; where no icon moves it, only then. -/
theorem lineFits_classic (texts : textStrip captions = true) (classic : policy.style = .classic)
    (line : Nat) (edge : StripEdge) :
    (line ≤ FontMetrics.lineHeight metrics .plain + StripPolicy.classicRows →
        LineFits line strip.height (strip.textShift edge)) ∧
      (strip.iconSize = none → LineFits line strip.height (strip.textShift edge) →
        line ≤ FontMetrics.lineHeight metrics .plain + StripPolicy.classicRows) := by
  have height := height_of_measure measured
  have icons := iconSize_of_measure measured texts
  simp only [StripPolicy.stripHeight, StripPolicy.classicRows, texts, classic, if_true] at height ⊢
  by_cases moved : (policy.hasIcons && policy.extraHeight != 0) = true
  · rw [if_pos moved] at icons
    rw [Bool.and_eq_true] at moved
    rw [if_pos moved.1] at height
    refine ⟨fun low => ?_, fun bare => ?_⟩
    · simp only [textShift, icons, height]
      cases edge <;> simp only [LineFits] <;> omega
    · rw [icons] at bare
      cases bare
  · have unreserved : (if policy.hasIcons then policy.extraHeight else 0) = 0 := by
      simpa [imp_iff_not_or] using moved
    rw [if_neg moved] at icons
    simp only [textShift, icons, height, unreserved, Nat.add_zero, lineFits_centred_iff]
    exact ⟨id, fun _ => id⟩

end Measured

end Strip

namespace Deck

/-! ## The strip of a reached deck -/

section Reached

variable {μ σ : Type} {before after start deck : Deck μ σ}

/-- As far as the tabs were placed, they are where the strip and the active tab want them. -/
def StripPlaced (deck : Deck μ σ) : Prop :=
  deck.placed = [] ∨
    deck.placed = deck.strip.place deck.active deck.settings.edge deck.bounds.size.height

theorem StripPlaced.same (placed : before.StripPlaced) (same : before.SameStrip after) :
    after.StripPlaced := by
  have strip : after.strip = before.strip := congrArg StripGeometry.strip same.geometry
  have rects : after.placed = before.placed := congrArg StripGeometry.placed same.geometry
  have active : after.active = before.active := congrArg StripInputs.active same.inputs
  have settings : after.settings = before.settings := congrArg StripInputs.settings same.inputs
  have bounds : after.bounds = before.bounds := congrArg StripInputs.bounds same.inputs
  rw [StripPlaced, strip, rects, active, settings, bounds]
  exact placed

/-- A tab that is shown has the size that it has while it is active, or the other. -/
theorem StripPlaced.size (placed : deck.StripPlaced) {index : Nat} {measure : TabMeasure}
    {rect : Rect} (isTab : deck.strip.tabs[index]? = some measure)
    (isRect : deck.tabRect index = some rect) :
    rect.size =
      if deck.active = some index then measure.selected.size else measure.unselected.size := by
  rcases tabRect_eq_some.mp isRect with ⟨shifted, isShifted, rfl⟩
  simp only [stripRects, List.getElem?_map, Option.map_eq_some_iff] at isShifted
  rcases isShifted with ⟨own, isOwn, rfl⟩
  rcases placed with none | all
  · simp [none] at isOwn
  · rcases Strip.exists_placeFrom deck.active
      (stripTop deck.settings.edge deck.bounds.size.height deck.strip.height) 1 0 isTab with
      ⟨placed, isPlaced, size⟩
    rw [all, Strip.place, isPlaced, Option.some.injEq] at isOwn
    rw [← isOwn, Rect.shiftBy_size, Rect.shiftBy_size, size, Nat.zero_add]

variable [FontMetrics μ] [PaneHost σ] {action : Action} {answer : Answer} {actions : List Action}

theorem StripPlaced.perform (placed : before.StripPlaced)
    (done : before.perform action = .ok (answer, after)) : after.StripPlaced := by
  refine kept_of_perform (fun _ => Or.inr rfl) StripPlaced.same ?_ placed done
  intro first second enabled earlier kept
  have toggled : ({ first with enabled } : Deck μ σ).StripPlaced := earlier
  have keptPlaced : second.StripPlaced := toggled.same kept
  exact keptPlaced

theorem Reaches.stripPlaced (reached : start.Reaches actions deck) (bare : start.placed = []) :
    deck.StripPlaced := by
  have initial : start.StripPlaced := Or.inl bare
  exact reached.kept initial fun earlier performed => earlier.perform performed

end Reached

/-! ## Boxes of captions -/

section Boxes

variable {σ : Type} {deck : Deck FontPair σ} {index : Nat} {tab : Tab} {content : CaptionText}
  {rect : Rect}

/-- The box of a text on a tab, in the weight in which it is painted: as wide as it is measured, and
as high as a line. -/
def captionBox (deck : Deck FontPair σ) (rect : Rect) (content : String) (isActive : Bool) : Rect :=
  let weight := deck.captionWeight isActive
  .centredOn (deck.captionAnchor rect)
    ⟨FontMetrics.textWidth deck.metrics weight content,
      FontMetrics.lineHeight deck.metrics weight⟩

/-- A caption of one line is painted in its box. -/
theorem captionPicture_keepsTo (isText : tab.caption = .text content)
    (single : '\n' ∉ content.content.toList) (rect : Rect) (isActive : Bool) :
    ∀ painted ∈ deck.captionPicture rect tab isActive,
      painted.shape.KeepsTo (deck.captionBox rect content.content isActive) := by
  intro painted member
  simp only [captionPicture, isText] at member
  rcases List.mem_map.mp member with ⟨shape, isShape, rfl⟩
  exact MonoFont.centred_keepsTo _ _ single shape isShape

theorem captionAnchor_eq (narrow : ∀ size, deck.strip.iconSize = some size → size < Word.modulus)
    (rect : Rect) : deck.captionAnchor rect =
      ⟨rect.centre.x, rect.centre.y + deck.strip.textShift deck.settings.edge⟩ := by
  simp only [captionAnchor, Strip.textShift]
  cases isSize : deck.strip.iconSize with
  | none => simp
  | some size =>
    have small : ((size / 2 : Nat) : Int) ≤ Word.maxSigned := by
      have below := narrow size isSize
      simp only [Word.modulus] at below
      simp only [Word.maxSigned]
      omega
    simp only [Word.signed_ofNat small]
    cases deck.settings.edge <;> rfl

/-- A text that is no wider than its tab keeps to the tab if its line does. -/
theorem captionBox_inside_iff {text : String} {isActive : Bool}
    (narrow : ∀ size, deck.strip.iconSize = some size → size < Word.modulus)
    (short : FontMetrics.textWidth deck.metrics (deck.captionWeight isActive) text ≤
      rect.size.width) :
    (deck.captionBox rect text isActive).Inside rect ↔
      LineFits (FontMetrics.lineHeight deck.metrics (deck.captionWeight isActive))
        rect.size.height (deck.strip.textShift deck.settings.edge) := by
  rw [captionBox, captionAnchor_eq narrow]
  exact Rect.inside_centredOn_iff short

/-- A line of the bold font keeps to the rows of the strip, where captions are centred. -/
def BoldFits (deck : Deck FontPair σ) : Prop :=
  LineFits (FontMetrics.lineHeight deck.metrics .bold) deck.strip.height
    (deck.strip.textShift deck.settings.edge)

instance : Decidable deck.BoldFits := inferInstanceAs (Decidable (LineFits _ _ _))

/-- The measures of a tab with a text. -/
structure MeasuresText (deck : Deck FontPair σ) (index : Nat) (content : CaptionText)
    (measure : TabMeasure) : Prop where
  texts : textStrip deck.inputs.captions = true
  isTab : deck.strip.tabs[index]? = some measure
  plain : FontMetrics.textWidth deck.metrics .plain content.content ≤
    measure.unselected.size.width
  grows : measure.unselected.size.width ≤ measure.selected.size.width
  bold : deck.settings.style = .classic →
    FontMetrics.textWidth deck.metrics .bold content.content ≤ measure.selected.size.width

/-- A text is measured in both weights, and in the plain one twice if there is no bold font. -/
theorem Measured.exists_measuresText (measured : deck.Measured)
    (isTab : deck.tabs[index]? = some tab) (isText : tab.caption = .text content) :
    ∃ measure, deck.MeasuresText index content measure := by
  have isCaption : deck.inputs.captions[index]? = some (.text content) := by
    rw [inputs, List.getElem?_map, isTab, Option.map_some, isText]
  have texts : textStrip deck.inputs.captions = true :=
    textStrip_eq measured.checked (List.mem_of_getElem? isCaption)
  have inRange : index < deck.strip.tabs.length := by
    rw [measured.length_tabs]
    exact (List.getElem?_eq_some_iff.mp isTab).1
  have isMeasure := List.getElem?_eq_getElem inRange
  have room := Strip.accommodates_of_measure measured.measured
  have plain := room.plain index _ _ isCaption isMeasure
  have grows := room.grows _ (List.getElem_mem inRange)
  refine ⟨_, texts, isMeasure, plain, grows, fun classic => ?_⟩
  cases differs : deck.metrics.bold with
  | some bold =>
    exact room.bold classic texts (Option.isSome_iff_exists.mpr ⟨bold, differs⟩) index _ _
      isCaption isMeasure
  | none =>
    have same : FontMetrics.textWidth deck.metrics .bold content.content =
        FontMetrics.textWidth deck.metrics .plain content.content := by
      simp only [FontMetrics.textWidth, FontPair.face, differs, Option.getD_none]
    rw [same]
    exact Nat.le_trans plain grows

end Boxes

section Rooms

variable {σ : Type} [PaneHost σ] {deck start : Deck FontPair σ} {actions : List Action}
  {capacity : Nat} {captions : List Caption} {fonts : FontPair} {host : σ} {settings : Settings}
  {index : Nat} {tab : Tab} {content : CaptionText} {rect : Rect}

/-- The caption of a tab keeps to the tab, unless the tab is an active classic one and the lines of
the bold font are too high for the strip. They are not if they are no more than four rows higher
than those of the plain font; where captions do not make room for icons, only then. -/
theorem caption_fits_iff
    (made : ofCaptions capacity captions fonts host settings = .ok start)
    (reached : start.Reaches actions deck)
    (narrow : deck.settings.extraHeight < Word.modulus)
    (isTab : deck.tabs[index]? = some tab) (isText : tab.caption = .text content)
    (isRect : deck.tabRect index = some rect) :
    ((deck.captionBox rect content.content (deck.active = some index)).Inside rect ↔
        (deck.active = some index → deck.settings.style = .classic → deck.BoldFits)) ∧
      (deck.settings.style = .classic →
        (FontMetrics.lineHeight deck.metrics .bold ≤
            FontMetrics.lineHeight deck.metrics .plain + 4 → deck.BoldFits) ∧
        (deck.strip.iconSize = none → deck.BoldFits →
          FontMetrics.lineHeight deck.metrics .bold ≤
            FontMetrics.lineHeight deck.metrics .plain + 4)) := by
  have measured := (reached.upToDate made).measured
  have bare : start.placed = [] := by
    rcases ofCaptions_eq_ok made with ⟨-, tabs, strip, -, rfl⟩
    rfl
  have placed := reached.stripPlaced bare
  rcases measured.exists_measuresText isTab isText with ⟨measure, room⟩
  have size := placed.size room.isTab isRect
  have member := List.mem_of_getElem? room.isTab
  have small : ∀ size, deck.strip.iconSize = some size → size < Word.modulus := by
    have icons : deck.strip.iconSize = _ := Strip.iconSize_of_measure measured.measured room.texts
    intro size isSize
    rw [icons, Option.ite_none_right_eq_some, Option.some.injEq] at isSize
    have extra : deck.inputs.policy.extraHeight < Word.modulus := narrow
    omega
  constructor
  · by_cases heavy : deck.active = some index ∧ deck.settings.style = .classic
    · have weight : deck.captionWeight (deck.active = some index) = .bold := by
        simp [captionWeight, heavy]
      have isSelected : rect.size = measure.selected.size := by
        rw [size, if_pos heavy.1]
      have height : rect.size.height = deck.strip.height :=
        (congrArg Size.height isSelected).trans (Strip.selected_height measured.measured member)
      rw [captionBox_inside_iff small (by rw [weight, isSelected]; exact room.bold heavy.2),
        weight, height]
      simp only [heavy, BoldFits, true_implies]
    · have weight : deck.captionWeight (deck.active = some index) = .plain := by
        simpa [captionWeight] using heavy
      have isOwn : ∃ own, (own = measure.selected ∨ own = measure.unselected) ∧
          own.size = rect.size ∧ measure.unselected.size.width ≤ own.size.width := by
        rw [size]
        split
        · exact ⟨_, Or.inl rfl, rfl, room.grows⟩
        · exact ⟨_, Or.inr rfl, rfl, Nat.le_refl _⟩
      rcases isOwn with ⟨own, isOwn, same, wide⟩
      rw [captionBox_inside_iff small (by rw [weight, ← same]; exact Nat.le_trans room.plain wide),
        weight, ← same]
      refine iff_of_true ?_ fun isActive classic => absurd ⟨isActive, classic⟩ heavy
      exact Strip.lineFits_plain measured.measured room.texts member isOwn deck.settings.edge
  · intro classic
    exact Strip.lineFits_classic measured.measured room.texts classic _ deck.settings.edge

end Rooms

/-- Two short texts. -/
def shortTexts : List Caption := [.text ⟨"Log", by decide⟩, .text ⟨"Map", by decide⟩]

/-- The built-in fonts suit each other: a bold caption keeps to its tab, here beside an icon at the
lower edge. -/
theorem built_in_caption_fits_beside_icon :
    ∃ deck : Deck FontPair DemoPanes, ∃ rect, deck.active = some 0 ∧
      deck.strip.iconSize = some 7 ∧ deck.tabRect 0 = some rect ∧
      (deck.captionBox rect "Log" true).Inside rect := by
  obtain ⟨start, deck, tab, rect, made, reached, narrow, isActive, icons, isTab, isText, isRect,
      room⟩ :
      ∃ start deck : Deck FontPair DemoPanes, ∃ tab rect,
        ofCaptions 8 shortTexts .builtIn {} { edge := .bottom, extraHeight := 12 } = .ok start ∧
        start.Reaches [.placeAt ⟨⟨0, 0⟩, ⟨100, 60⟩⟩,
          .showIcons [⟨0, ⟨8, 8⟩⟩, ⟨1, ⟨8, 8⟩⟩]] deck ∧
        deck.settings.extraHeight < Word.modulus ∧ deck.active = some 0 ∧
        deck.strip.iconSize = some 7 ∧ deck.tabs[0]? = some tab ∧
        tab.caption = .text ⟨"Log", by decide⟩ ∧ deck.tabRect 0 = some rect ∧ deck.BoldFits :=
    ⟨_, _, _, _, rfl, ⟨_, rfl⟩, by decide, rfl, rfl, rfl, rfl, rfl, by decide⟩
  have fits := (caption_fits_iff made reached narrow isTab isText isRect).1.mpr fun _ _ => room
  rw [isActive] at fits
  exact ⟨deck, rect, isActive, icons, isRect, fits⟩

/-- A bold font of twice the height of the plain one leaves the tab above and below. -/
theorem high_bold_caption_leaves_tab :
    ∃ start deck : Deck FontPair DemoPanes, ∃ rect,
      ofCaptions 8 [.text ⟨"A", by decide⟩] ⟨⟨6, 10, 0, .blocks⟩, some ⟨7, 20, 0, .blocks⟩⟩ {} {} =
        .ok start ∧
      start.Reaches [.placeAt ⟨⟨0, 0⟩, ⟨60, 60⟩⟩] deck ∧ deck.active = some 0 ∧
      deck.tabRect 0 = some rect ∧ rect = ⟨⟨1, 0⟩, ⟨12, 14⟩⟩ ∧
      deck.captionBox rect "A" true = ⟨⟨3, -3⟩, ⟨7, 20⟩⟩ ∧
      ¬ (deck.captionBox rect "A" true).Inside rect :=
  ⟨_, _, _, rfl, ⟨_, rfl⟩, rfl, rfl, rfl, rfl, by decide⟩

end Deck

end TabDeck
