import TabDeck.Proofs.TapTargets

/-!
# Measuring and placing describe one strip

`Strip.measure` gives every tab the width of its caption in either weight and some columns around
it. `Strip.place` puts the tabs side by side, and `Strip.wantedWidth` adds the same widths up
without placing anything. Both walk along the tabs with one of them active, and agree on the last
column of the strip (`Strip.laid_out_as_one`).
-/

namespace TabDeck

/-! ## The widths of measured tabs -/

namespace StripPolicy

variable (policy : StripPolicy)

/-- The widths of an inactive and of an active tab, for a caption with two given widths. -/
def outerWidths (widths : Nat × Nat) : Nat × Nat :=
  match policy.style with
  | .classic => (widths.1 + unselectedColumns, widths.2 + selectedColumns)
  | .material => (widths.1 + materialColumns, widths.1 + materialColumns)

theorem le_outerWidths (widths : Nat × Nat) : widths.1 ≤ (policy.outerWidths widths).1 := by
  simp only [outerWidths]
  split <;> exact Nat.le_add_right _ _

/-- Whether captions are measured in the bold weight, too. -/
def usesBold {μ : Type} [FontMetrics μ] (metrics : μ) (captions : List Caption) : Bool :=
  textStrip captions && policy.style = .classic && FontMetrics.boldDiffers metrics

/-- The widths of all captions on inactive and on active tabs. -/
def captionWidths {μ : Type} [FontMetrics μ] (metrics : μ) (captions : List Caption) :
    List (Nat × Nat) :=
  captions.map (Caption.tabWidths metrics (policy.usesBold metrics captions))

@[simp] theorem length_captionWidths {μ : Type} [FontMetrics μ] (metrics : μ)
    (captions : List Caption) : (policy.captionWidths metrics captions).length = captions.length :=
  List.length_map _

theorem outerWidths_tabMeasure (isText : Bool) (height : Nat) (widths : Nat × Nat) :
    ((policy.tabMeasure isText height widths).unselected.size.width,
        (policy.tabMeasure isText height widths).selected.size.width) =
      policy.outerWidths widths := by
  simp only [tabMeasure, outerWidths]
  cases policy.style with
  | classic => rfl
  | material => dsimp only; split <;> rfl

/-- The widths of all captions where they are to be equal: those of the widest, or a share. -/
def commonWidths (widths : List (Nat × Nat)) : Nat × Nat :=
  (max ((widths.map Prod.fst).foldl max 0) (policy.equalShare widths.length),
    max ((widths.map Prod.snd).foldl max 0) (policy.equalShare widths.length))

theorem sharedWidths_eq (equal : policy.equalWidths = true) (widths : List (Nat × Nat)) :
    policy.sharedWidths widths = List.replicate widths.length (policy.commonWidths widths) := by
  simp only [sharedWidths, equal, if_true, List.map_const', commonWidths]

theorem equalShare_le (widths : List (Nat × Nat)) :
    policy.equalShare widths.length ≤ (policy.commonWidths widths).1 :=
  Nat.le_max_right _ _

theorem le_commonWidths {widths : List (Nat × Nat)} {own : Nat × Nat} (member : own ∈ widths) :
    own.1 ≤ (policy.commonWidths widths).1 ∧ own.2 ≤ (policy.commonWidths widths).2 := by
  have widest : ∀ side : Nat × Nat → Nat, side own ≤ (widths.map side).foldl max 0 := by
    intro side
    have present := List.mem_map_of_mem (f := side) member
    exact (List.max?_eq_some_iff.mp List.max?_cons').2 _ (List.mem_cons_of_mem 0 present)
  exact ⟨Nat.le_trans (widest Prod.fst) (Nat.le_max_left _ _),
    Nat.le_trans (widest Prod.snd) (Nat.le_max_left _ _)⟩

/-- Sharing widths makes none smaller. -/
theorem le_sharedWidths {widths : List (Nat × Nat)} {index : Nat} {own shared : Nat × Nat}
    (isOwn : widths[index]? = some own)
    (isShared : (policy.sharedWidths widths)[index]? = some shared) :
    own.1 ≤ shared.1 ∧ own.2 ≤ shared.2 := by
  cases equal : policy.equalWidths with
  | true =>
    rw [sharedWidths_eq policy equal] at isShared
    have common := List.eq_of_mem_replicate (List.mem_of_getElem? isShared)
    rw [common]
    exact policy.le_commonWidths (List.mem_of_getElem? isOwn)
  | false =>
    simp only [sharedWidths, equal, Bool.false_eq_true, if_false, isOwn,
      Option.some.injEq] at isShared
    rw [isShared]
    exact ⟨Nat.le_refl _, Nat.le_refl _⟩

end StripPolicy

/-- The widths of a tab while it is inactive and while it is active. -/
def TabMeasure.widths (tab : TabMeasure) : Nat × Nat :=
  (tab.unselected.size.width, tab.selected.size.width)

namespace Strip

section Measured

variable {μ : Type} [FontMetrics μ] {capacity : Nat} {captions : List Caption} {metrics : μ}
  {policy : StripPolicy} {strip : Strip}

/-- The widths of the tabs are those of their captions, shared if they are to be equal, and the
columns around them. -/
theorem widths_of_measure (measured : measure capacity captions metrics policy = .ok strip) :
    strip.tabs.map TabMeasure.widths =
      (policy.sharedWidths (policy.captionWidths metrics captions)).map policy.outerWidths := by
  simp only [measure, bind_eq_ok, pure_eq_ok] at measured
  rcases measured with ⟨_, _, rfl⟩
  rw [List.map_map]
  exact List.map_congr_left fun widths _ => policy.outerWidths_tabMeasure _ _ widths

/-- Every tab has room for its caption in either weight. Where all are to have one width they do,
and it is no smaller than an equal share of the columns that are not set aside. -/
structure Accommodates (strip : Strip) (captions : List Caption) (metrics : μ)
    (policy : StripPolicy) : Prop where
  count : strip.tabs.length = captions.length
  grows : ∀ tab ∈ strip.tabs, tab.unselected.size.width ≤ tab.selected.size.width
  plain : ∀ (index : Nat) (caption : Caption) (tab : TabMeasure),
    captions[index]? = some caption → strip.tabs[index]? = some tab →
      caption.width metrics .plain ≤ tab.unselected.size.width
  bold : policy.style = .classic → textStrip captions = true →
    FontMetrics.boldDiffers metrics = true → ∀ (index : Nat) (caption : Caption) (tab : TabMeasure),
      captions[index]? = some caption → strip.tabs[index]? = some tab →
        caption.width metrics .bold ≤ tab.selected.size.width
  equal : policy.equalWidths = true → ∀ tab ∈ strip.tabs, ∀ other ∈ strip.tabs,
    tab.unselected.size.width = other.unselected.size.width ∧
      tab.selected.size.width = other.selected.size.width
  share : policy.equalWidths = true → ∀ tab ∈ strip.tabs,
    (policy.availableWidth - policy.extraWidth) / captions.length ≤ tab.unselected.size.width

/-- A tab has at least the widths of its caption and the columns around them. -/
theorem tabWidths_le_of_measure (measured : measure capacity captions metrics policy = .ok strip)
    {index : Nat} {caption : Caption} {tab : TabMeasure}
    (isCaption : captions[index]? = some caption) (isTab : strip.tabs[index]? = some tab) :
    (caption.tabWidths metrics (policy.usesBold metrics captions)).1 ≤ tab.unselected.size.width ∧
      (policy.style = .classic →
        (caption.tabWidths metrics (policy.usesBold metrics captions)).2 ≤
          tab.selected.size.width) := by
  have widths := congrArg (fun widths => widths[index]?) (widths_of_measure measured)
  simp only [List.getElem?_map, isTab, Option.map_some] at widths
  rcases Option.map_eq_some_iff.mp widths.symm with ⟨shared, isShared, outer⟩
  have own : (policy.captionWidths metrics captions)[index]? =
      some (caption.tabWidths metrics (policy.usesBold metrics captions)) := by
    rw [StripPolicy.captionWidths, List.getElem?_map, isCaption, Option.map_some]
  rcases policy.le_sharedWidths own isShared with ⟨plain, bold⟩
  simp only [StripPolicy.outerWidths, TabMeasure.widths] at outer
  cases style : policy.style with
  | classic =>
    simp only [style, Prod.mk.injEq] at outer
    exact ⟨by omega, fun _ => by omega⟩
  | material =>
    simp only [style, Prod.mk.injEq] at outer
    exact ⟨by omega, nofun⟩

/-- Tabs that are to have one width do. -/
theorem uniform_of_measure (measured : measure capacity captions metrics policy = .ok strip)
    (equal : policy.equalWidths = true) :
    ∀ tab ∈ strip.tabs, tab.widths =
      policy.outerWidths (policy.commonWidths (policy.captionWidths metrics captions)) := by
  intro tab isTab
  have member := List.mem_map_of_mem (f := TabMeasure.widths) isTab
  rw [widths_of_measure measured, policy.sharedWidths_eq equal, List.map_replicate] at member
  exact List.eq_of_mem_replicate member

theorem accommodates_of_measure (measured : measure capacity captions metrics policy = .ok strip) :
    strip.Accommodates captions metrics policy where
  count := length_tabs_of_measure measured
  grows := unselected_le_selected measured
  plain := fun index caption tab isCaption isTab =>
    (tabWidths_le_of_measure measured isCaption isTab).1
  bold := by
    intro classic texts differs index caption tab isCaption isTab
    have room := (tabWidths_le_of_measure measured isCaption isTab).2 classic
    have usesBold : policy.usesBold metrics captions = true := by
      simp [StripPolicy.usesBold, texts, classic, differs]
    simp only [Caption.tabWidths, usesBold, if_true] at room
    omega
  equal := by
    intro equal tab isTab other isOther
    have same : tab.widths = other.widths :=
      (uniform_of_measure measured equal tab isTab).trans
        (uniform_of_measure measured equal other isOther).symm
    exact ⟨congrArg Prod.fst same, congrArg Prod.snd same⟩
  share := by
    intro equal tab isTab
    have width : tab.unselected.size.width = _ :=
      congrArg Prod.fst (uniform_of_measure measured equal tab isTab)
    have share := policy.equalShare_le (policy.captionWidths metrics captions)
    rw [StripPolicy.length_captionWidths, StripPolicy.equalShare] at share
    rw [width]
    exact Nat.le_trans share (policy.le_outerWidths _)

end Measured

end Strip

/-! ## The rows of measured tabs -/

/-- The rectangle takes a column. -/
def Rect.HasColumn (rect : Rect) (column : Int) : Prop :=
  rect.origin.x ≤ column ∧ column < rect.origin.x + rect.size.width

/-- The rectangle reaches that end of a band of rows that lies toward the panes. -/
def Rect.Seated (rect : Rect) (edge : StripEdge) (top : Int) (height : Nat) : Prop :=
  match edge with
  | .top => rect.origin.y + rect.size.height = top + height
  | .bottom => rect.origin.y = top

theorem StripPolicy.seated_tabMeasure (policy : StripPolicy) {isText : Bool} {height : Nat}
    (widths : Nat × Nat) (room : unselectedDrop ≤ height)
    (half : policy.style = .material → isText = true → policy.extraHeight / 2 ≤ height) :
    (policy.tabMeasure isText height widths).selected.Seated policy.edge 0 height ∧
      (policy.tabMeasure isText height widths).unselected.Seated policy.edge 0 height := by
  simp only [unselectedDrop] at room
  simp only [tabMeasure, Rect.Seated]
  cases style : policy.style with
  | classic =>
    cases policy.edge with
    | top => simp only [unselectedDrop, Int.zero_add, true_and]; omega
    | bottom => simp
  | material =>
    by_cases overlaid : (isText && !policy.hasIcons) = true
    · have lower := half style (Bool.and_eq_true_iff.mp overlaid).1
      cases policy.edge with
      | top => simp only [overlaid, if_true, Int.zero_add, true_and]; omega
      | bottom => simp [overlaid]
    · cases policy.edge with
      | top => simp [overlaid]
      | bottom => simp [overlaid]

namespace Strip

theorem seated_of_measure {μ : Type} [FontMetrics μ] {capacity : Nat} {captions : List Caption}
    {metrics : μ} {policy : StripPolicy} {strip : Strip}
    (measured : measure capacity captions metrics policy = .ok strip) :
    ∀ tab ∈ strip.tabs, tab.selected.Seated policy.edge 0 strip.height ∧
      tab.unselected.Seated policy.edge 0 strip.height := by
  intro tab member
  simp only [measure, bind_eq_ok, pure_eq_ok] at measured
  rcases measured with ⟨_, _, rfl⟩
  rcases List.mem_map.mp member with ⟨widths, -, rfl⟩
  rcases policy.room_of_stripHeight (FontMetrics.lineHeight metrics .plain) captions with
    ⟨room, half⟩
  exact policy.seated_tabMeasure widths room half

/-! ## Placed tabs -/

section Placing

variable {active : Option Nat} {top left : Int} {first index : Nat} {tabs : List TabMeasure}

/-- A placed tab has one of its two sizes. -/
theorem exists_placeFrom (active : Option Nat) (top left : Int) (first : Nat) {tab : TabMeasure}
    (present : tabs[index]? = some tab) :
    ∃ rect, (placeFrom active top first left tabs)[index]? = some rect ∧
      rect.size = if active = some (first + index) then tab.selected.size
        else tab.unselected.size := by
  induction tabs generalizing first left index with
  | nil => simp at present
  | cons head rest ih =>
    cases index with
    | zero =>
      simp only [List.getElem?_cons_zero, Option.some.injEq] at present
      subst present
      exact ⟨_, List.getElem?_cons_zero, apply_ite Rect.size _ _ _⟩
    | succ index =>
      simp only [List.getElem?_cons_succ] at present
      simp only [placeFrom, List.getElem?_cons_succ]
      rw [← Nat.add_assoc, Nat.add_right_comm]
      exact ih _ _ present

/-- A tab begins in the last column of the tab before it. -/
theorem origin_next_placeFrom {rect next : Rect}
    (present : (placeFrom active top first left tabs)[index]? = some rect)
    (isNext : (placeFrom active top first left tabs)[index + 1]? = some next) :
    next.origin.x = rect.origin.x + (Word.signed rect.size.width - 1) := by
  induction tabs generalizing first left index with
  | nil => simp [placeFrom] at present
  | cons tab rest ih =>
    cases index with
    | zero =>
      simp only [placeFrom, List.getElem?_cons_zero, List.getElem?_cons_succ,
        Option.some.injEq] at present isNext
      cases rest with
      | nil => simp [placeFrom] at isNext
      | cons second others =>
        simp only [placeFrom, List.getElem?_cons_zero, Option.some.injEq] at isNext
        rw [← present, ← isNext]
    | succ index =>
      simp only [placeFrom, List.getElem?_cons_succ] at present isNext
      exact ih present isNext

end Placing

/-- The first row that a strip takes of its deck. -/
def bandTop (edge : StripEdge) (deckHeight height : Nat) : Int :=
  match edge with
  | .top => 0
  | .bottom => Word.signed deckHeight - height

/-- The rectangles lie side by side in a band of rows, from column one on. The active tab has its
selected size, neighbours share a column, and the last column is the one that the strip wants. -/
structure SideBySide (strip : Strip) (active : Nat) (edge : StripEdge) (top : Int)
    (rects : List Rect) : Prop where
  count : rects.length = strip.tabs.length
  first : ∀ rect, rects[0]? = some rect → rect.origin.x = 1
  size : ∀ (index : Nat) (tab : TabMeasure) (rect : Rect),
    strip.tabs[index]? = some tab → rects[index]? = some rect →
      rect.size = if index = active then tab.selected.size else tab.unselected.size
  meets : ∀ (index : Nat) (rect next : Rect),
    rects[index]? = some rect → rects[index + 1]? = some next →
      next.origin.x = rect.origin.x + rect.size.width - 1
  shares : ∀ (index : Nat) (rect next : Rect),
    rects[index]? = some rect → rects[index + 1]? = some next →
      ∀ column, rect.HasColumn column ∧ next.HasColumn column ↔ column = next.origin.x
  rows : ∀ rect ∈ rects,
    top ≤ rect.origin.y ∧ rect.origin.y + rect.size.height ≤ top + strip.height
  seated : ∀ rect ∈ rects, rect.Seated edge top strip.height
  ends : ∀ rect, rects.getLast? = some rect →
    rect.origin.x + rect.size.width - 1 = strip.wantedWidth (some active) 0 + 1

theorem widthsOf_place {strip : Strip} {active : Nat} {tab : TabMeasure} (edge : StripEdge)
    (deckHeight : Nat) (present : strip.tabs[active]? = some tab) :
    widthsOf (strip.place (some active) edge deckHeight) =
      (unselectedWidths strip.tabs).set active tab.selected.size.width := by
  have widths := widthsOf_placeFrom (stripTop edge deckHeight strip.height) 1 0 present
  rwa [Nat.zero_add] at widths

section Placed

variable {μ : Type} [FontMetrics μ] {capacity : Nat} {captions : List Caption} {metrics : μ}
  {policy : StripPolicy} {strip : Strip} {active : Nat} {tab : TabMeasure}
  (measured : measure capacity captions metrics policy = .ok strip)

include measured

/-- The widths of placed tabs fit if their sum does. -/
theorem inWords_of_place (deckHeight : Nat) (present : strip.tabs[active]? = some tab)
    (fits : (strip.wantedWidth (some active) 0 : Int) < Word.maxSigned) :
    ∀ width ∈ widthsOf (strip.place (some active) policy.edge deckHeight),
      2 ≤ width ∧ (width : Int) ≤ Word.maxSigned := by
  intro width member
  have sound := sound_of_measure measured
  have inStrip := List.length_pos_of_mem member
  rw [widthsOf_place _ deckHeight present] at member inStrip
  have reach := le_columns_of_mem (two_le_of_mem_set sound present) member
  rw [columns_place sound present] at reach
  exact ⟨two_le_of_mem_set sound present width member, by omega⟩

/-- The rows of placed tabs are those of their rectangles, moved to the rows of the strip. -/
theorem rows_place (deckHeight : Nat) (low : (strip.height : Int) ≤ Word.maxSigned) {rect : Rect}
    (member : rect ∈ strip.place (some active) policy.edge deckHeight) :
    bandTop policy.edge deckHeight strip.height ≤ rect.origin.y ∧
      rect.origin.y + rect.size.height ≤
        bandTop policy.edge deckHeight strip.height + strip.height ∧
      rect.Seated policy.edge (bandTop policy.edge deckHeight strip.height) strip.height := by
  have top : stripTop policy.edge deckHeight strip.height =
      bandTop policy.edge deckHeight strip.height := by
    cases policy.edge with
    | top => rfl
    | bottom => simp only [stripTop, bandTop, Word.signed_ofNat low]
  simp only [place, top] at member
  rcases size_placeFrom member with ⟨tab, isTab, own, isOwn, size, row⟩
  have upright := upright_of_measure measured tab isTab
  have seated := seated_of_measure measured tab isTab
  obtain ⟨inRows, ownSeated⟩ : own.InRows strip.height ∧ own.Seated policy.edge 0 strip.height := by
    rcases isOwn with rfl | rfl
    · exact ⟨upright.selected, seated.1⟩
    · exact ⟨upright.unselected, seated.2⟩
  simp only [Rect.InRows] at inRows
  simp only [Rect.Seated] at ownSeated ⊢
  rw [row, size]
  refine ⟨by omega, by omega, ?_⟩
  cases edge : policy.edge with
  | top => simp only [edge] at ownSeated ⊢; omega
  | bottom => simp only [edge] at ownSeated ⊢; omega

/-- A placed tab has a column besides the one in which the next tab begins. -/
theorem begins_of_place (deckHeight : Nat) (present : strip.tabs[active]? = some tab)
    (fits : (strip.wantedWidth (some active) 0 : Int) < Word.maxSigned) {index : Nat}
    {rect next : Rect}
    (isRect : (strip.place (some active) policy.edge deckHeight)[index]? = some rect)
    (isNext : (strip.place (some active) policy.edge deckHeight)[index + 1]? = some next) :
    2 ≤ rect.size.width ∧ next.origin.x = rect.origin.x + rect.size.width - 1 := by
  have word := inWords_of_place measured deckHeight present fits _
    (List.mem_map_of_mem (List.mem_of_getElem? isRect))
  have nextColumn := origin_next_placeFrom isRect isNext
  rw [Word.signed_ofNat word.2] at nextColumn
  exact ⟨word.1, by omega⟩

/-- Placed tabs end in the last of the columns that the strip wants. -/
theorem ends_of_place (deckHeight : Nat) (present : strip.tabs[active]? = some tab)
    (fits : (strip.wantedWidth (some active) 0 : Int) < Word.maxSigned) {rect : Rect}
    (isLast : (strip.place (some active) policy.edge deckHeight).getLast? = some rect) :
    rect.origin.x + rect.size.width - 1 = strip.wantedWidth (some active) 0 + 1 := by
  have inWords := inWords_of_place measured deckHeight present fits
  have member := List.mem_map_of_mem (f := fun rect : Rect => rect.size.width)
    (List.mem_of_getLast? isLast)
  have right := right_of_getLast? isLast
  rw [← place, advance_eq (fun width isWidth => (inWords width isWidth).1)
    (fun width isWidth => (inWords width isWidth).2), widthsOf_place _ deckHeight present,
    columns_place (sound_of_measure measured) present, Rect.right,
    Word.signed_ofNat (inWords _ member).2] at right
  omega

/-- The tabs of a strip whose sums fit are laid out as one strip. -/
theorem laid_out_as_one (isTab : active < strip.tabs.length)
    (fits : (strip.wantedWidth (some active) 0 : Int) < Word.maxSigned)
    (low : (strip.height : Int) ≤ Word.maxSigned) (deckHeight : Nat) :
    strip.Accommodates captions metrics policy ∧
      strip.SideBySide active policy.edge (bandTop policy.edge deckHeight strip.height)
        (strip.place (some active) policy.edge deckHeight) := by
  have present := List.getElem?_eq_getElem isTab
  refine ⟨accommodates_of_measure measured, ?_⟩
  constructor
  case count => exact length_placeFrom ..
  case first =>
    intro rect isFirst
    have column := origin_placeFrom isFirst
    simpa using column
  case size =>
    intro index tab rect isMeasure isRect
    rcases exists_placeFrom (some active) (stripTop policy.edge deckHeight strip.height) 1 0
      isMeasure with ⟨placed, isPlaced, size⟩
    simp only [place] at isRect
    rw [isRect, Option.some.injEq] at isPlaced
    simp [isPlaced, size, eq_comm]
  case meets =>
    intro index rect next isRect isNext
    exact (begins_of_place measured deckHeight present fits isRect isNext).2
  case shares =>
    intro index rect next isRect isNext column
    have meets := begins_of_place measured deckHeight present fits isRect isNext
    have word := inWords_of_place measured deckHeight present fits _
      (List.mem_map_of_mem (List.mem_of_getElem? isNext))
    simp only [Rect.HasColumn]
    omega
  case rows =>
    intro rect member
    have rows := rows_place measured deckHeight low member
    exact ⟨rows.1, rows.2.1⟩
  case seated => exact fun rect member => (rows_place measured deckHeight low member).2.2
  case ends => exact fun rect isLast => ends_of_place measured deckHeight present fits isLast

end Placed

/-- Three texts on classic tabs at the lower edge. A third of a hundred columns is more than the
widest of them takes, and makes inactive tabs of 37 columns. In bold that one takes more, and makes
active tabs of 40. -/
theorem equal_tabs_laid_out_as_one :
    ∃ captions strip, (∀ caption ∈ captions, caption.isText = true) ∧
      measure 8 captions (⟨6, 7, 10⟩ : FixedAdvance)
        ⟨true, 0, false, .bottom, .classic, 100, 0⟩ = .ok strip ∧
      strip.tabs.map TabMeasure.widths = [(37, 40), (37, 40), (37, 40)] ∧
      (strip.wantedWidth (some 1) 0 : Int) < Word.maxSigned ∧
      (strip.height : Int) ≤ Word.maxSigned ∧
      strip.Accommodates captions (⟨6, 7, 10⟩ : FixedAdvance)
        ⟨true, 0, false, .bottom, .classic, 100, 0⟩ ∧
      strip.SideBySide 1 .bottom 66 (strip.place (some 1) .bottom 80) := by
  obtain ⟨captions, strip, texts, measured, widths, isTab, fits, low, top⟩ :
      ∃ captions strip, (∀ caption ∈ captions, caption.isText = true) ∧
        measure 8 captions (⟨6, 7, 10⟩ : FixedAdvance)
          ⟨true, 0, false, .bottom, .classic, 100, 0⟩ = .ok strip ∧
        strip.tabs.map TabMeasure.widths = [(37, 40), (37, 40), (37, 40)] ∧
        1 < strip.tabs.length ∧ (strip.wantedWidth (some 1) 0 : Int) < Word.maxSigned ∧
        (strip.height : Int) ≤ Word.maxSigned ∧ bandTop .bottom 80 strip.height = 66 :=
    ⟨[.text ⟨"Files", by decide⟩, .text ⟨"Log", by decide⟩, .text ⟨"About", by decide⟩], _,
      by simp [Caption.isText], rfl, rfl, by decide, by decide, by decide, by decide⟩
  have laidOut := laid_out_as_one measured isTab fits low 80
  rw [top] at laidOut
  exact ⟨captions, strip, texts, measured, widths, fits, low, laidOut⟩

end Strip

end TabDeck
