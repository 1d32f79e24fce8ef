import TabDeck.Proofs.Holding
import TabDeck.Proofs.Settling
import TabDeck.Proofs.StripGeometry
import TabDeck.Proofs.TouchSearch

/-!
# Sessions never break off

An operation breaks off when it asks a list for an entry past its end, or when it confines an offset
to an empty range. Neither happens in a session whose placements leave room for all panes side by
side: the lists of a deck have one entry for each tab, and the indices that it keeps from one action
to the next stay below that number (`Deck.Indexed`). One more subtraction would go wrong if a tab
were wider while it is inactive; measuring never makes it so.
-/

namespace TabDeck

/-! ## No tab is narrower while it is active -/

theorem Caption.tabWidths_le {μ : Type} [FontMetrics μ] (metrics : μ) (usesBold : Bool)
    (caption : Caption) :
    (caption.tabWidths metrics usesBold).1 ≤ (caption.tabWidths metrics usesBold).2 := by
  simp only [tabWidths]
  split
  · exact Nat.le_max_right _ _
  · exact Nat.le_refl _

/-- The maximum of larger numbers is larger. -/
theorem foldl_max_le {α : Type} {small large : α → Nat} (items : List α)
    (below : ∀ item ∈ items, small item ≤ large item) {first second : Nat}
    (start : first ≤ second) :
    (items.map small).foldl max first ≤ (items.map large).foldl max second := by
  induction items generalizing first second with
  | nil => exact start
  | cons item rest ih =>
    simp only [List.map_cons, List.foldl_cons]
    apply ih fun other member => below other (List.mem_cons_of_mem item member)
    have here := below item List.mem_cons_self
    omega

namespace StripPolicy

theorem sharedWidths_le (policy : StripPolicy) {widths : List (Nat × Nat)}
    (narrow : ∀ pair ∈ widths, pair.1 ≤ pair.2) :
    ∀ pair ∈ policy.sharedWidths widths, pair.1 ≤ pair.2 := by
  intro pair member
  simp only [sharedWidths] at member
  split at member
  · rw [List.mem_map] at member
    rcases member with ⟨_, -, rfl⟩
    have widest := foldl_max_le widths narrow (Nat.le_refl 0)
    show max _ _ ≤ max _ _
    omega
  · exact narrow pair member

theorem tabMeasure_le (policy : StripPolicy) (isText : Bool) (height : Nat) {widths : Nat × Nat}
    (narrow : widths.1 ≤ widths.2) :
    (policy.tabMeasure isText height widths).unselected.size.width ≤
      (policy.tabMeasure isText height widths).selected.size.width := by
  simp only [tabMeasure]
  split
  · show widths.1 + unselectedColumns ≤ widths.2 + selectedColumns
    simp only [unselectedColumns, selectedColumns]
    omega
  · show Size.width (Rect.size (if _ then _ else _)) ≤ _
    split <;> exact Nat.le_refl _

end StripPolicy

namespace Strip

theorem unselected_le_selected {μ : Type} [FontMetrics μ] {capacity : Nat}
    {captions : List Caption} {metrics : μ} {policy : StripPolicy} {strip : Strip}
    (measured : measure capacity captions metrics policy = .ok strip) :
    ∀ tab ∈ strip.tabs, tab.unselected.size.width ≤ tab.selected.size.width := by
  simp only [measure, bind_eq_ok, pure_eq_ok] at measured
  rcases measured with ⟨_, _, rfl⟩
  intro tab member
  rcases List.mem_map.mp member with ⟨widths, shared, rfl⟩
  apply StripPolicy.tabMeasure_le
  apply StripPolicy.sharedWidths_le _ _ widths shared
  intro pair isPair
  rcases List.mem_map.mp isPair with ⟨caption, -, rfl⟩
  exact caption.tabWidths_le metrics _

theorem length_placeFrom (active : Option Nat) (top : Int) (index : Nat) (left : Int)
    (tabs : List TabMeasure) : (placeFrom active top index left tabs).length = tabs.length := by
  induction tabs generalizing index left with
  | nil => rfl
  | cons tab rest ih =>
    rw [placeFrom, List.length_cons, List.length_cons, ih]

end Strip

/-! ## A tap finds a tab that is there -/

namespace Rect

theorem lastContaining_lt {point : Point} {rects : List Rect} {index : Nat}
    (found : lastContaining point rects = some index) : index < rects.length := by
  induction rects generalizing index with
  | nil => cases found
  | cons rect rest ih =>
    rw [lastContaining] at found
    rw [List.length_cons]
    split at found
    · next later isLater =>
      cases found
      exact Nat.succ_lt_succ (ih isLater)
    · split at found
      · cases found
        exact Nat.succ_pos _
      · cases found

theorem nearestWithin_lt {point : Point} {tolerance : Nat} {rects : List Rect} {index : Nat}
    (found : nearestWithin point tolerance rects = some index) : index < rects.length := by
  rcases nearestWithin_eq_some_iff.mp found with ⟨rect, isNearest⟩
  exact (List.getElem?_eq_some_iff.mp isNearest.present).1

end Rect

namespace PaneRow

theorem confine_total_iff (row : PaneRow) (value : Int) :
    (∃ offset, row.confine value = .ok offset) ↔ row.lowest ≤ 0 := by
  simp only [confine]
  constructor
  · rintro ⟨offset, confined⟩
    split at confined
    · cases confined
    · omega
  · intro roomy
    rw [if_neg (Int.not_lt.mpr roomy)]
    exact ⟨_, rfl⟩

/-- A row takes on new dimensions exactly if they leave a range for its offsets. -/
theorem resize_total_iff (row : PaneRow) (count viewport stripWidth : Nat) :
    (∃ after, row.resize count viewport stripWidth = .ok after) ↔
      (ofPanes count viewport).lowest ≤ 0 := by
  have range : ∀ value, (∃ offset, ({ row with
      count, viewport, stride := viewport, stripWidth } : PaneRow).confine value = .ok offset) ↔
        (ofPanes count viewport).lowest ≤ 0 := confine_total_iff _
  simp only [resize]
  constructor
  · rintro ⟨after, resized⟩
    rcases bind_eq_ok.mp resized with ⟨offset, confined, -⟩
    exact (range row.offset).mp ⟨offset, confined⟩
  · intro roomy
    rcases (range row.offset).mpr roomy with ⟨offset, confined⟩
    rcases (range row.remembered).mpr roomy with ⟨remembered, confinedToo⟩
    apply bind_total confined
    apply bind_total confinedToo
    exact ⟨_, rfl⟩

/-- There is a range if the left edges of all panes fit the coordinates. -/
theorem lowest_ofPanes {count viewport : Nat}
    (reach : (((count - 1) * viewport : Nat) : Int) ≤ Word.maxSigned) :
    (ofPanes count viewport).lowest ≤ 0 := by
  rcases Nat.eq_zero_or_pos count with rfl | nonempty
  · have excess : max (((viewport * 0 : Nat) : Int) - viewport) 0 = 0 := by
      omega
    exact Int.le_of_eq (by simp only [lowest, ofPanes, excess]; rfl)
  · have fits : (ofPanes count viewport).Fits := ⟨nonempty, rfl, reach⟩
    apply (confine_total_iff _ 0).mp
    exact ⟨_, fits.confine_eq 0⟩

theorem Within.moveBy_total {row : PaneRow} (within : row.Within) (distance : Int) :
    ∃ after, row.moveBy distance = .ok after := by
  simp only [PaneRow.moveBy]
  split
  · exact within.moveTo_total _
  · exact ⟨row, rfl⟩

end PaneRow

namespace PagingRule

/-- A rule about an active tab that is there always has an answer. -/
theorem permits_total {rule : PagingRule} (present : rule.active < rule.blocked.length)
    (direction : Direction) (isAligned : Bool) :
    ∃ permitted, rule.permits direction isAligned = .ok permitted := by
  have asked : ∀ neighbour, neighbour < rule.blocked.length →
      ∃ permitted, (if rule.intoDisabled then .ok true
        else (entry rule.blocked neighbour).map fun isBlocked => !isBlocked) =
          (.ok permitted : Except Fault Bool) := by
    intro neighbour inRange
    split
    · exact ⟨true, rfl⟩
    · rcases Deck.entry_total inRange with ⟨flag, found⟩
      rw [found]
      exact ⟨_, rfl⟩
  simp only [permits]
  split
  · exact ⟨true, rfl⟩
  · split
    · exact ⟨false, rfl⟩
    · next neighbour isNeighbour =>
      apply asked neighbour
      split at isNeighbour
      · split at isNeighbour <;> cases isNeighbour
        omega
      · split at isNeighbour <;> cases isNeighbour
        assumption
      · cases isNeighbour
      · cases isNeighbour

end PagingRule

/-- A movement finds out whether it takes hold of the row, if the rule is about a tab that is
there. -/
theorem Gesture.takesHold_total {rule : PagingRule} (present : rule.active < rule.blocked.length)
    (row : PaneRow) (movement : Point) : ∃ holds, takesHold row rule movement = .ok holds := by
  simp only [takesHold]
  split
  · exact ⟨_, rfl⟩
  · split
    · exact PagingRule.permits_total present _ _
    · exact ⟨_, rfl⟩

namespace Deck

variable {μ σ : Type}

/-! ## The placed tabs -/

/-- Every tab is placed, or the strip has not been arranged yet. -/
def TabsPlaced (deck : Deck μ σ) : Prop :=
  deck.placed.length = deck.tabs.length ∨
    deck.placed = [] ∧ deck.laidOut = false ∧ deck.active = none

section Placed

variable {before after deck : Deck μ σ}

theorem TabsPlaced.length_le (placed : deck.TabsPlaced) : deck.placed.length ≤ deck.tabs.length := by
  rcases placed with same | ⟨none, -⟩
  · exact Nat.le_of_eq same
  · rw [none]
    exact Nat.zero_le _

theorem Measured.length_tabs [FontMetrics μ] (measured : deck.Measured) :
    deck.strip.tabs.length = deck.tabs.length := by
  have length := Strip.length_tabs_of_measure measured.measured
  rwa [inputs, List.length_map] at length

theorem TabsPlaced.same (placed : before.TabsPlaced) (same : before.SameStrip after) :
    after.TabsPlaced := by
  have tabs : after.tabs.length = before.tabs.length := by
    have captions := congrArg (fun inputs => inputs.captions.length) same.inputs
    simpa only [inputs, List.length_map] using captions
  have active : after.active = before.active := congrArg StripInputs.active same.inputs
  have rects : after.placed = before.placed := congrArg StripGeometry.placed same.geometry
  rw [TabsPlaced, tabs, active, rects, same.laidOut]
  exact placed

/-- Arranging places every tab. -/
theorem tabsPlaced_arrange [FontMetrics μ] (measured : deck.arrange.Measured) :
    deck.arrange.TabsPlaced := by
  left
  rw [← measured.length_tabs]
  exact Strip.length_placeFrom ..

section Steps

variable [FontMetrics μ] [PaneHost σ]

theorem TabsPlaced.switched (placed : before.TabsPlaced) (upToDate : before.UpToDate)
    (switched : before.Switched after) : after.TabsPlaced := by
  have measured := (upToDate.switched switched).measured
  rcases switched with rfl | ⟨index, outcome, -, -, activated⟩
  · exact placed
  · rcases activate_eq_ok activated with ⟨_, _, mid, -, rfl, -⟩
    exact tabsPlaced_arrange measured

theorem TabsPlaced.perform {action : Action} {answer : Answer} (placed : before.TabsPlaced)
    (upToDate : before.UpToDate) (done : before.perform action = .ok (answer, after)) :
    after.TabsPlaced := by
  have measured := (upToDate.perform done).measured
  cases stripStep_of_perform done with
  | reselects reselects =>
    rcases reselects with ⟨mid, last, same, switched, again⟩
    exact ((placed.same same).switched (upToDate.same same) switched).same again
  | enables enabled mid _ kept same =>
    rw [same]
    have toggled : ({ before with enabled } : Deck μ σ).TabsPlaced := placed
    have enabledPlaced : mid.TabsPlaced := toggled.same kept
    exact enabledPlaced
  | places bounds outcome _ done =>
    rcases placeAt_eq_ok done with ⟨_, _, _, _, _, last, -, -, -, -, -, -, rfl⟩
    exact tabsPlaced_arrange measured
  | showsIcons icons outcome _ shown =>
    rcases showIcons_eq_ok shown with ⟨-, tabs, -, rfl⟩
    exact tabsPlaced_arrange measured
  | relabels captions outcome _ relabelled =>
    rcases relabel_eq_ok relabelled with ⟨mid, area, -, -, rfl⟩
    exact tabsPlaced_arrange measured

end Steps

end Placed

/-! ## Operations that cannot break off -/

section Total

variable [PaneHost σ] {deck : Deck μ σ}

theorem mountAll_total (deck : Deck μ σ) : ∃ after, deck.mountAll = .ok after := by
  have each : ∀ index ∈ List.range deck.tabs.length, ∀ before : Deck μ σ,
      before.tabs.length = deck.tabs.length →
        ∃ after, before.mountPane index = .ok after ∧ after.tabs.length = deck.tabs.length := by
    intro index member before length
    rcases mountPane_total (length ▸ List.mem_range.mp member) with ⟨after, mounted⟩
    exact ⟨after, mounted, (served_of_mountPane mounted).length_tabs.trans length⟩
  rcases foldlM_total _ each rfl with ⟨after, mounted, -⟩
  exact ⟨after, mounted⟩

namespace Coherent

theorem showPanes_total (coherent : deck.Coherent) : ∃ after, deck.showPanes = .ok after := by
  simp only [Deck.showPanes]
  split
  · split
    · next active isActive =>
      rcases coherent.within.alignTo_total active with ⟨row, aligned⟩
      have alignedRow : deck.alignRow active = .ok { deck with row } := by
        rw [alignRow, bind_eq_ok]
        exact ⟨row, aligned, rfl⟩
      apply bind_total alignedRow
      exact mountAll_total _
    · exact mountAll_total deck
  · split
    · next active isActive => exact mountPane_total (coherent.present active isActive)
    · exact ⟨deck, rfl⟩

/-- A deck can be placed wherever its row has a range of offsets. -/
theorem placeAt_total [FontMetrics μ] (coherent : deck.Coherent) {bounds : Rect}
    (roomy : (PaneRow.ofPanes deck.tabs.length bounds.size.width).lowest ≤ 0) :
    ∃ result, deck.placeAt bounds = .ok result := by
  have restyled := restyled_remeasure ({ deck with bounds, laidOut := true } : Deck μ σ)
  have tabs : ({ deck with bounds, laidOut := true } : Deck μ σ).remeasure.tabs.length =
      deck.tabs.length := restyled.length_tabs
  simp only [Deck.placeAt]
  generalize ({ deck with bounds, laidOut := true } : Deck μ σ).remeasure = measured
    at restyled tabs ⊢
  rcases measured.refitPanes_eq with ⟨area, -, refitted⟩
  rw [refitted]
  rw [← tabs] at roomy
  rcases (measured.row.resize_total_iff _ _ _).mpr roomy with ⟨row, resized⟩
  apply bind_total resized
  have sized : ({ measured with paneArea := area, row } : Deck μ σ).Coherent :=
    coherent.resized restyled resized
  rcases sized.showPanes_total with ⟨shown, showed⟩
  apply bind_total showed
  have displayed : shown.Coherent := sized.showPanes showed
  split
  · exact ⟨_, rfl⟩
  · rcases displayed.thenSelect_total shown.repaintAll
      (nextAvailable none true shown.disabledFlags) with ⟨result, selected⟩
    apply bind_total selected
    exact ⟨_, rfl⟩

theorem enableTab_total (coherent : deck.Coherent) (index : Nat) (enabled : Bool) :
    ∃ result, deck.enableTab index enabled = .ok result := by
  simp only [Deck.enableTab]
  split
  · exact ⟨_, rfl⟩
  · next tab present =>
    split
    · exact ⟨_, rfl⟩
    · split
      · apply Coherent.thenSelect_total
        exact coherent.restyled (restyled_tabs (map_set present rfl))
      · exact ⟨_, rfl⟩

end Coherent

theorem supplyPane_total (deck : Deck μ σ) (index : Nat) (handle : PaneId) :
    ∃ result, deck.supplyPane index handle = .ok result := by
  simp only [supplyPane]
  split
  · exact ⟨_, rfl⟩
  · split <;> exact ⟨_, rfl⟩

theorem callOff_total (deck : Deck μ σ) : ∃ result, deck.callOff = .ok result := by
  by_cases moves : deck.row.goBack.movedFrom deck.row = true
  · rcases moveAll_total
      { deck with gesture := deck.gesture.forget, row := deck.row.goBack } with ⟨after, moved⟩
    simp only [callOff, Gesture.abandon, moves, if_true]
    apply bind_total moved
    exact ⟨_, rfl⟩
  · simp only [callOff, Gesture.abandon, moves]
    exact ⟨_, rfl⟩

theorem abandon_total (deck : Deck μ σ) : ∃ result, deck.abandon = .ok result := by
  rcases callOff_total { deck with pressed := none } with ⟨⟨moved, after⟩, calledOff⟩
  apply bind_total calledOff
  exact ⟨_, rfl⟩

theorem enable_total (deck : Deck μ σ) (enabled : Bool) :
    ∃ result, deck.enable enabled = .ok result := by
  simp only [enable]
  split
  · exact ⟨_, rfl⟩
  · cases enabled with
    | true => exact ⟨_, rfl⟩
    | false =>
      rcases callOff_total { deck with enabled := false, pressed := none } with
        ⟨⟨moved, after⟩, calledOff⟩
      simp only [Bool.false_eq_true, if_false, calledOff]
      exact ⟨_, rfl⟩

omit [PaneHost σ] in
/-- A tap means a placed tab. -/
theorem tabAt_lt {point : Point} {index : Nat} (found : deck.tabAt point = some index) :
    index < deck.placed.length := by
  have rects : deck.stripRects.length = deck.placed.length := List.length_map ..
  rw [← rects]
  simp only [tabAt] at found
  split at found
  · exact Rect.nearestWithin_lt found
  · split at found
    · exact Rect.lastContaining_lt found
    · cases found

namespace Coherent

theorem tapTab_total (coherent : deck.Coherent) {index : Nat} (present : index < deck.tabs.length) :
    ∃ result, deck.tapTab index = .ok result := by
  simp only [tapTab]
  split
  · exact ⟨_, rfl⟩
  · have asked : ∃ blocked, deck.isBlocked index = .ok blocked := by
      rcases entry_total present with ⟨tab, found⟩
      rw [isBlocked, found]
      exact ⟨_, rfl⟩
    rcases asked with ⟨blocked, asked⟩
    apply bind_total asked
    split
    · exact ⟨_, rfl⟩
    · simp only [tapOpenTab]
      split
      · exact coherent.thenSelect_total _ index
      · exact ⟨_, rfl⟩

theorem press_total (coherent : deck.Coherent) (placed : deck.TabsPlaced) (touch : Touch) :
    ∃ result, deck.press touch = .ok result := by
  have begun := coherent.beginGesture (touch.point - deck.bounds.origin)
  have inRange : (deck.beginGesture (touch.point - deck.bounds.origin)).placed.length ≤
      (deck.beginGesture (touch.point - deck.bounds.origin)).tabs.length := by
    simp only [Deck.beginGesture]
    split <;> exact placed.length_le
  simp only [Deck.press]
  generalize deck.beginGesture (touch.point - deck.bounds.origin) = began at begun inRange ⊢
  split
  · rcases begun.select_total _ with ⟨⟨selection, after⟩, selected⟩
    apply bind_total selected
    exact ⟨_, rfl⟩
  · split
    · exact ⟨_, rfl⟩
    · split
      · next index found => exact begun.tapTab_total (Nat.lt_of_lt_of_le (tabAt_lt found) inRange)
      · exact ⟨_, rfl⟩

omit [PaneHost σ] in
theorem takesHold_total (coherent : deck.Coherent) {active : Nat}
    (isActive : deck.active = some active) (movement : Point) :
    ∃ holds, Gesture.takesHold deck.row (deck.pagingRule active) movement = .ok holds := by
  have flags : deck.blockedFlags.length = deck.tabs.length := by
    simp only [blockedFlags, disabledFlags]
    split <;> exact List.length_map ..
  apply Gesture.takesHold_total
  show active < deck.blockedFlags.length
  rw [flags]
  exact coherent.present active isActive

omit [PaneHost σ] in
theorem gesture_drag_total (coherent : deck.Coherent) {active : Nat}
    (isActive : deck.active = some active) (movement : Point) (time : Nat) :
    ∃ result, deck.gesture.drag deck.row (deck.pagingRule active) movement time = .ok result := by
  rcases coherent.within.moveBy_total (-movement.x) with ⟨row, moved⟩
  simp only [Gesture.drag]
  split
  · apply bind_total moved
    exact ⟨_, rfl⟩
  · exact ⟨_, rfl⟩
  · rcases coherent.takesHold_total isActive movement with ⟨holds, asked⟩
    apply bind_total asked
    split
    · apply bind_total moved
      exact ⟨_, rfl⟩
    · exact ⟨_, rfl⟩

theorem drag_total (coherent : deck.Coherent) (movement : Point) (time : Nat) :
    ∃ result, deck.drag movement time = .ok result := by
  simp only [Deck.drag]
  split
  · exact ⟨_, rfl⟩
  · exact ⟨_, rfl⟩
  · next active _ isActive =>
    rcases coherent.gesture_drag_total isActive movement time with
      ⟨⟨taken, gesture, row⟩, dragged⟩
    apply bind_total dragged
    cases taken with
    | true =>
      rcases moveAll_total { deck with gesture, row, pressed := none } with ⟨after, moved⟩
      apply bind_total moved
      exact ⟨_, rfl⟩
    | false => exact ⟨_, rfl⟩

theorem release_total (coherent : deck.Coherent) : ∃ result, deck.release = .ok result := by
  simp only [Deck.release]
  split
  · next index _ =>
    split
    · exact ⟨_, rfl⟩
    · rcases (coherent.pressing none).select_total index with ⟨result, selected⟩
      apply bind_total selected
      exact ⟨_, rfl⟩
  · exact ⟨_, rfl⟩

theorem enterPane_total (coherent : deck.Coherent) (forward : Bool) :
    ∃ result, deck.enterPane forward = .ok result := by
  simp only [enterPane]
  split
  · exact ⟨_, rfl⟩
  · next active isActive =>
    rcases paneOf_total (coherent.present active isActive) with ⟨⟨handle, mid⟩, found⟩
    apply bind_total found
    split <;> exact ⟨_, rfl⟩

theorem handleFocus_total (coherent : deck.Coherent) (event : KeyFocus.Event) :
    ∃ result, deck.handleFocus event = .ok result := by
  simp only [Deck.handleFocus]
  split
  · generalize deck.focus.respond event deck.settings.edge = response
    have followed : ∃ result,
        { deck with focus := response.1 }.followFocus response.2 = .ok result := by
      have moved := coherent.focused response.1
      simp only [followFocus]
      split
      · exact ⟨_, rfl⟩
      · exact moved.thenSelect_total _ _
      · exact moved.enterPane_total _
      · exact ⟨_, rfl⟩
      · exact ⟨_, rfl⟩
    rcases followed with ⟨result, followed⟩
    apply bind_total followed
    exact ⟨_, rfl⟩
  · exact ⟨_, rfl⟩

theorem handle_total (coherent : deck.Coherent) (placed : deck.TabsPlaced) (event : Input) :
    ∃ result, deck.handle event = .ok result := by
  simp only [Deck.handle]
  split
  · cases event with
    | press touch => exact coherent.press_total placed touch
    | drag touch movement time => exact coherent.drag_total movement time
    | release touch => exact coherent.release_total
    | abandon => exact abandon_total deck
    | key direction => exact coherent.handleFocus_total _
    | action => exact coherent.handleFocus_total _
    | focus => exact coherent.handleFocus_total _
  · exact ⟨_, rfl⟩

/-- Every action has an answer, if a placement leaves the row a range of offsets. -/
theorem perform_total [FontMetrics μ] (coherent : deck.Coherent) (placed : deck.TabsPlaced)
    {action : Action}
    (roomy : ∀ bounds, action = .placeAt bounds →
      (PaneRow.ofPanes deck.tabs.length bounds.size.width).lowest ≤ 0) :
    ∃ result, deck.perform action = .ok result := by
  have accepts : ∀ {step : Except Fault (Outcome × Deck μ σ)}, (∃ result, step = .ok result) →
      ∃ result, accepted step = .ok result := by
    rintro _ ⟨⟨outcome, after⟩, rfl⟩
    exact ⟨_, rfl⟩
  have acceptsOr : ∀ step : Except DeckError (Outcome × Deck μ σ),
      ∃ result, deck.acceptedOr step = .ok result := by
    rintro (refusal | ⟨outcome, after⟩) <;> exact ⟨_, rfl⟩
  cases action with
  | placeAt bounds => exact accepts (coherent.placeAt_total (roomy bounds rfl))
  | select index => exact accepts (coherent.select_total index)
  | enableTab index enabled => exact accepts (coherent.enableTab_total index enabled)
  | supplyPane index handle => exact accepts (supplyPane_total deck index handle)
  | showIcons icons => exact acceptsOr _
  | relabel captions => exact acceptsOr _
  | enable enabled => exact accepts (enable_total deck enabled)
  | paintTab index colour => exact ⟨_, rfl⟩
  | usePalette palette => exact ⟨_, rfl⟩
  | input event => exact accepts (coherent.handle_total placed event)
  | abandon => exact accepts (abandon_total deck)
  | reclaimFocus => exact accepts (coherent.handleFocus_total _)
  | tick elapsed => exact accepts (coherent.tick_total elapsed)

end Coherent

end Total

/-! ## Sessions -/

/-- The lists of a deck have one entry for each tab, and what it refers to is there. -/
structure Indexed (deck : Deck μ σ) : Prop where
  measures : deck.strip.tabs.length = deck.tabs.length
  /-- The strip is arranged when the deck is placed or gets an active tab, or before. -/
  placed : deck.placed.length = deck.tabs.length ∨
    deck.placed = [] ∧ deck.laidOut = false ∧ deck.active = none
  panes : deck.row.count = deck.tabs.length
  active : ∀ index, deck.active = some index → index < deck.tabs.length
  pressed : ∀ index, deck.pressed = some index → index < deck.tabs.length
  target : ∀ index, deck.gesture.target = some index → index < deck.tabs.length
  /-- The range of offsets is not empty. -/
  range : deck.row.lowest ≤ deck.row.highest
  /-- The width of the inactive tab can be taken from that of the active one. -/
  widths : ∀ tab ∈ deck.strip.tabs, tab.unselected.size.width ≤ tab.selected.size.width

/-- What every action keeps, and what lets it succeed. -/
structure Sound [FontMetrics μ] (deck : Deck μ σ) : Prop where
  coherent : deck.Coherent
  poised : deck.Poised
  upToDate : deck.UpToDate
  tabsPlaced : deck.TabsPlaced

section Sessions

variable [FontMetrics μ] {capacity : Nat} {captions : List Caption} {metrics : μ} {host : σ}
  {settings : Settings} {start deck : Deck μ σ} {actions : List Action}

theorem Sound.indexed (sound : deck.Sound) : deck.Indexed where
  measures := sound.upToDate.measured.length_tabs
  placed := sound.tabsPlaced
  panes := sound.coherent.counted
  active := sound.coherent.present
  pressed := fun index pressed => (sound.poised.held index pressed).1
  target := sound.coherent.targeted
  range := Int.le_trans sound.coherent.within.lowest_le_offset sound.coherent.within.offset_le_zero
  widths := Strip.unselected_le_selected sound.upToDate.measured.measured

theorem sound_ofCaptions (made : ofCaptions capacity captions metrics host settings = .ok start) :
    start.Sound := by
  refine ⟨coherent_ofCaptions made, poised_ofCaptions made, upToDate_ofCaptions made, ?_⟩
  rcases ofCaptions_eq_ok made with ⟨-, tabs, strip, -, rfl⟩
  exact Or.inr ⟨rfl, rfl, rfl⟩

variable [PaneHost σ]

theorem Sound.perform {action : Action} {answer : Answer} {after : Deck μ σ} (sound : deck.Sound)
    (done : deck.perform action = .ok (answer, after)) : after.Sound :=
  ⟨sound.coherent.perform done, sound.poised.perform sound.coherent done,
    sound.upToDate.perform done, sound.tabsPlaced.perform sound.upToDate done⟩

theorem Reaches.sound (reached : start.Reaches actions deck) (sound : start.Sound) :
    deck.Sound :=
  reached.kept sound fun earlier performed => earlier.perform performed

/-- A placement that succeeded left the row a range of offsets. -/
theorem roomy_of_perform {bounds : Rect} {answer : Answer} {after : Deck μ σ}
    (done : deck.perform (.placeAt bounds) = .ok (answer, after)) :
    (PaneRow.ofPanes deck.tabs.length bounds.size.width).lowest ≤ 0 := by
  rcases accepted_eq_ok.mp done with ⟨outcome, placed, -⟩
  rcases placeAt_eq_ok placed with ⟨measured, area, row, stripWidth, -, -, restyled, -, resized, -⟩
  have tabs : measured.tabs.length = deck.tabs.length := restyled.length_tabs
  rw [← tabs]
  exact (measured.row.resize_total_iff _ _ _).mp ⟨row, resized⟩

/-- A session runs to its end exactly if every placement leaves the row a range of offsets. -/
theorem Sound.reaches_iff (sound : start.Sound) :
    (∃ deck, start.Reaches actions deck) ↔ ∀ bounds, .placeAt bounds ∈ actions →
      (PaneRow.ofPanes start.tabs.length bounds.size.width).lowest ≤ 0 := by
  induction actions generalizing start with
  | nil => exact ⟨fun _ => nofun, fun _ => ⟨start, reaches_nil.mpr rfl⟩⟩
  | cons action rest ih =>
    have later : ∀ {answer middle}, start.perform action = .ok (answer, middle) →
        ((∃ deck, middle.Reaches rest deck) ↔ ∀ bounds, .placeAt bounds ∈ rest →
          (PaneRow.ofPanes start.tabs.length bounds.size.width).lowest ≤ 0) := by
      intro answer middle performed
      rw [← (Lasts.of_perform performed).length]
      exact ih (sound.perform performed)
    constructor
    · rintro ⟨deck, reached⟩ bounds member
      rcases reaches_cons.mp reached with ⟨answer, middle, performed, continued⟩
      rcases List.mem_cons.mp member with rfl | inRest
      · exact roomy_of_perform performed
      · exact (later performed).mp ⟨deck, continued⟩ bounds inRest
    · intro roomy
      have first : ∃ result, start.perform action = .ok result := by
        apply sound.coherent.perform_total sound.tabsPlaced
        rintro bounds rfl
        exact roomy bounds List.mem_cons_self
      rcases first with ⟨⟨answer, middle⟩, performed⟩
      rcases (later performed).mpr fun bounds member =>
        roomy bounds (List.mem_cons_of_mem action member) with ⟨deck, continued⟩
      exact ⟨deck, reaches_cons.mpr ⟨answer, middle, performed, continued⟩⟩

theorem Sound.run_total (sound : start.Sound)
    (reach : ∀ bounds, .placeAt bounds ∈ actions →
      (((start.tabs.length - 1) * bounds.size.width : Nat) : Int) ≤ Word.maxSigned) :
    ∃ deck, start.Reaches actions deck := by
  apply sound.reaches_iff.mpr
  intro bounds member
  exact PaneRow.lowest_ofPanes (reach bounds member)

/-- Whatever is done with a deck, if every placement leaves room for all panes side by side, then
the session runs to its end, at every point of it the lists and indices of the deck are in order,
and the deck is never left without an active tab again. -/
theorem session_never_breaks_off
    (made : ofCaptions capacity captions metrics host settings = .ok start)
    (reach : ∀ bounds, .placeAt bounds ∈ actions →
      (((captions.length - 1) * bounds.size.width : Nat) : Int) ≤ Word.maxSigned) :
    (∃ answers deck, start.run actions = .ok (answers, deck)) ∧
      start.Throughout actions fun _ deck =>
        deck.Indexed ∧ ∀ later after, deck.Reaches later after →
          deck.active.isSome = true → after.active.isSome = true := by
  have sound := sound_ofCaptions made
  constructor
  · have length : start.tabs.length = captions.length := by
      rcases ofCaptions_eq_ok made with ⟨-, tabs, strip, length, rfl⟩
      exact length
    rw [← length] at reach
    rcases sound.run_total reach with ⟨deck, answers, ran⟩
    exact ⟨answers, deck, ran⟩
  · intro earlier _ deck reached
    refine ⟨(reached.sound sound).indexed, ?_⟩
    intro later after continued
    exact continued.lasts.active

/-- A finger presses before the only placement, then drags and lets go, and the panes settle. -/
def aroundPlacement : List Action :=
  [.input (.press ⟨50, 50⟩), .tick 16, .select 7, .placeAt ⟨⟨0, 0⟩, ⟨60, 100⟩⟩,
    .input (.press ⟨50, 50⟩), .input (.drag ⟨10, 50⟩ ⟨-40, 0⟩ 16), .input (.release ⟨10, 50⟩),
    .tick 16, .tick 500, .input (.key .left), .enable false]

/-- All of it is carried out. -/
theorem session_around_placement_never_breaks_off :
    ∃ start : Deck FixedAdvance DemoPanes,
      ofCaptions 8 wideImages ⟨6, 7, 10⟩ {} .touchscreen = .ok start ∧
      (∃ answers deck, start.run aroundPlacement = .ok (answers, deck)) ∧
      start.Throughout aroundPlacement fun _ deck =>
        deck.Indexed ∧ ∀ later after, deck.Reaches later after →
          deck.active.isSome = true → after.active.isSome = true := by
  obtain ⟨start, made⟩ : ∃ start : Deck FixedAdvance DemoPanes,
      ofCaptions 8 wideImages ⟨6, 7, 10⟩ {} .touchscreen = .ok start := ⟨_, rfl⟩
  refine ⟨start, made, session_never_breaks_off made ?_⟩
  intro bounds member
  have only : bounds = ⟨⟨0, 0⟩, ⟨60, 100⟩⟩ := by simpa [aroundPlacement] using member
  rw [only]
  decide

end Sessions

end Deck

end TabDeck
