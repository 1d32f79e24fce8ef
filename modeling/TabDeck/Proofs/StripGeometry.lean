import TabDeck.Proofs.StripSteps
import TabDeck.Simulator.DemoPanes

/-!
# The remembered geometry of a strip

`StripGeometry.Follows` says what a deck has to remember of its strip, given everything that this
depends on. A placed deck remembers a geometry that follows from its inputs. The inputs determine
it, so that two decks with the same inputs have the same geometry, whatever was done with them
before. The captions of a deck always make a strip, and the measures follow from the inputs even
before the first placement.
-/

namespace TabDeck

/-- The policy by which a strip is measured. -/
def StripInputs.policy {μ : Type} (inputs : StripInputs μ) : StripPolicy :=
  inputs.settings.stripPolicy inputs.bounds.size.width inputs.hasIcons

namespace StripGeometry

variable {μ : Type}

/-- Whether the strip wants more than the viewport has. -/
def overflows (geometry : StripGeometry) : Bool :=
  1 < geometry.count && geometry.viewport < geometry.stripWidth

/-- The arrows of a strip that overflows, if they are wanted. Those of an enabled deck can be
tapped while there is a tab before the active one, or after it. -/
def arrowsFor (geometry : StripGeometry) (inputs : StripInputs μ) : Option Arrows :=
  if inputs.settings.showArrows && geometry.overflows then
    let arrows := Arrows.fit inputs.bounds.size geometry.strip.height geometry.strip.lineHeight
      inputs.settings.edge inputs.settings.flicks
    let active := inputs.active.getD 0
    some { arrows with
      leftEnabled := inputs.enabled && 0 < active
      rightEnabled := inputs.enabled && active + 1 < inputs.captions.length }
  else none

/-- The shift of a strip that overflows: it ends left of the arrows, or in the last column. -/
def shiftFor (geometry : StripGeometry) (inputs : StripInputs μ) : Int :=
  match inputs.active with
  | none => 0
  | some active =>
    if geometry.overflows then
      let limit := match geometry.arrows with
        | some arrows => arrows.limit
        | none => Word.signed inputs.bounds.size.width - 1
      let widths := geometry.strip.tabs.map fun tab => tab.unselected.size.width
      let peek := Word.signed (7 * geometry.strip.lineHeight / 11 : Nat)
      stripShift active geometry.placed widths limit peek
    else 0

theorem arrowsFor_congr {first second : StripGeometry} {inputs : StripInputs μ}
    (strip : first.strip = second.strip) (overflows : first.overflows = second.overflows) :
    first.arrowsFor inputs = second.arrowsFor inputs := by
  simp only [arrowsFor, strip, overflows]

theorem shiftFor_congr {first second : StripGeometry} {inputs : StripInputs μ}
    (strip : first.strip = second.strip) (overflows : first.overflows = second.overflows)
    (placed : first.placed = second.placed)
    (limit : first.arrows.map Arrows.limit = second.arrows.map Arrows.limit) :
    first.shiftFor inputs = second.shiftFor inputs := by
  have arrows : (match first.arrows with
      | some arrows => arrows.limit
      | none => Word.signed inputs.bounds.size.width - 1) =
        match second.arrows with
        | some arrows => arrows.limit
        | none => Word.signed inputs.bounds.size.width - 1 := by
    revert limit
    cases first.arrows <;> cases second.arrows <;> simp
  simp only [shiftFor, strip, overflows, placed, arrows]

/-- The captions can be measured, and what is remembered of each tab is what comes of it. -/
structure Measures [FontMetrics μ] (geometry : StripGeometry) (capacity : Nat)
    (inputs : StripInputs μ) : Prop where
  measured : Strip.measure capacity inputs.captions inputs.metrics inputs.policy =
    .ok geometry.strip
  tabRects : geometry.tabRects =
    geometry.strip.tabs.map fun measure => (measure.selected, measure.unselected)

/-- The tabs are placed for the active one, and the arrows and the shift are those that they
need. -/
structure Arranges (geometry : StripGeometry) (inputs : StripInputs μ) : Prop where
  placed : geometry.placed =
    geometry.strip.place inputs.active inputs.settings.edge inputs.bounds.size.height
  stripWidth : geometry.stripWidth =
    geometry.strip.wantedWidth inputs.active inputs.settings.insets.horizontal
  arrows : geometry.arrows = geometry.arrowsFor inputs
  shift : geometry.shift = geometry.shiftFor inputs

theorem arrowsFor_enable (geometry : StripGeometry) (inputs : StripInputs μ) (enabled : Bool) :
    (geometry.arrowsFor inputs).map
        (fun arrows => arrows.enableFor inputs.active inputs.captions.length enabled) =
      geometry.arrowsFor { inputs with enabled } := by
  simp only [arrowsFor]
  split <;> rfl

/-- When the whole is enabled or disabled, it is enough to do so with the arrows. -/
theorem Arranges.enable {geometry : StripGeometry} {inputs : StripInputs μ}
    (arranges : geometry.Arranges inputs) (enabled : Bool) :
    ({ geometry with
        arrows := geometry.arrows.map fun arrows =>
          arrows.enableFor inputs.active inputs.captions.length enabled } : StripGeometry).Arranges
      { inputs with enabled } := by
  refine ⟨arranges.placed, arranges.stripWidth, ?_, ?_⟩
  · show geometry.arrows.map _ = _
    rw [arranges.arrows, arrowsFor_enable]
    exact arrowsFor_congr rfl rfl
  · have limit : geometry.arrows.map Arrows.limit =
        (geometry.arrows.map fun arrows =>
          arrows.enableFor inputs.active inputs.captions.length enabled).map Arrows.limit := by
      rw [Option.map_map]
      rfl
    calc geometry.shift = geometry.shiftFor inputs := arranges.shift
      _ = geometry.shiftFor { inputs with enabled } := rfl
      _ = _ := by refine shiftFor_congr ?_ ?_ ?_ limit <;> rfl

/-- The geometry is the one that follows from the inputs. -/
structure Follows [FontMetrics μ] (geometry : StripGeometry) (capacity : Nat)
    (inputs : StripInputs μ) : Prop where
  measures : geometry.Measures capacity inputs
  count : geometry.count = inputs.captions.length
  viewport : geometry.viewport = inputs.bounds.size.width
  arranges : geometry.Arranges inputs

end StripGeometry

namespace Strip

variable {μ : Type} [FontMetrics μ] {capacity : Nat} {captions : List Caption} {metrics : μ}
  {policy : StripPolicy} {strip : Strip}

/-- Captions can be measured exactly if they make a strip. -/
theorem measure_ok_iff (metrics : μ) (policy : StripPolicy) :
    (∃ strip, measure capacity captions metrics policy = .ok strip) ↔
      checkCaptions capacity captions = .ok () := by
  simp only [measure, bind_eq_ok, pure_eq_ok]
  constructor
  · rintro ⟨_, _, checked, -⟩
    exact checked
  · intro checked
    exact ⟨_, (), checked, rfl⟩

/-- How many captions there is room for does not show in the measures. -/
theorem measure_unique {otherCapacity : Nat} {other : Strip}
    (measured : measure capacity captions metrics policy = .ok strip)
    (also : measure otherCapacity captions metrics policy = .ok other) : strip = other := by
  simp only [measure, bind_eq_ok, pure_eq_ok] at measured also
  rcases measured with ⟨_, _, rfl⟩
  rcases also with ⟨_, _, rfl⟩
  rfl

end Strip

/-- The inputs determine the geometry. -/
theorem StripGeometry.Follows.unique {μ : Type} [FontMetrics μ] {first second : StripGeometry}
    {capacity otherCapacity : Nat} {inputs : StripInputs μ}
    (follows : first.Follows capacity inputs) (also : second.Follows otherCapacity inputs) :
    first = second := by
  have strip := Strip.measure_unique follows.measures.measured also.measures.measured
  have tabRects : first.tabRects = second.tabRects := by
    rw [follows.measures.tabRects, also.measures.tabRects, strip]
  have placed : first.placed = second.placed := by
    rw [follows.arranges.placed, also.arranges.placed, strip]
  have count := follows.count.trans also.count.symm
  have viewport := follows.viewport.trans also.viewport.symm
  have stripWidth : first.stripWidth = second.stripWidth := by
    rw [follows.arranges.stripWidth, also.arranges.stripWidth, strip]
  have overflows : first.overflows = second.overflows := by
    rw [StripGeometry.overflows, StripGeometry.overflows, count, viewport, stripWidth]
  have arrows : first.arrows = second.arrows := by
    rw [follows.arranges.arrows, also.arranges.arrows, arrowsFor_congr strip overflows]
  have limit : first.arrows.map Arrows.limit = second.arrows.map Arrows.limit := by rw [arrows]
  have shift : first.shift = second.shift := by
    rw [follows.arranges.shift, also.arranges.shift, shiftFor_congr strip overflows placed limit]
  exact StripGeometry.ext strip tabRects placed count viewport stripWidth arrows shift

namespace Deck

variable {μ σ : Type} [FontMetrics μ]

/-- The measures of the strip follow from the inputs. -/
def Measured (deck : Deck μ σ) : Prop := deck.geometry.Measures deck.capacity deck.inputs

/-- The measures follow from the inputs, and those that arranging renews as well from the first
placement on. -/
structure UpToDate (deck : Deck μ σ) : Prop where
  measured : deck.Measured
  arranged : deck.laidOut = true → deck.geometry.Arranges deck.inputs

section Measured

variable {before after deck : Deck μ σ}

theorem Measured.same (measured : before.Measured) (same : before.SameStrip after) :
    after.Measured := by
  rw [Measured, same.capacity, same.geometry, same.inputs]
  exact measured

theorem UpToDate.same (upToDate : before.UpToDate) (same : before.SameStrip after) :
    after.UpToDate := by
  refine ⟨upToDate.measured.same same, fun laidOut => ?_⟩
  rw [same.geometry, same.inputs]
  exact upToDate.arranged (same.laidOut ▸ laidOut)

omit [FontMetrics μ] in
theorem neededArrows_eq (laidOut : deck.laidOut = true) :
    deck.neededArrows = deck.geometry.arrowsFor deck.inputs := by
  simp only [neededArrows, StripGeometry.arrowsFor, laidOut, Bool.true_and, inputs,
    List.length_map]
  rfl

omit [FontMetrics μ] in
theorem neededShift_eq (laidOut : deck.laidOut = true) :
    deck.neededShift = deck.geometry.shiftFor deck.inputs := by
  have overflows : deck.geometry.overflows = deck.overflows := rfl
  simp only [neededShift, StripGeometry.shiftFor, laidOut, Bool.true_and, overflows]
  rfl

/-- Arranging a measured deck brings the rest up to date. -/
theorem upToDate_arrange (measured : deck.Measured) : deck.arrange.UpToDate := by
  refine ⟨⟨measured.measured, measured.tabRects⟩, fun laidOut => ⟨rfl, rfl, ?_, ?_⟩⟩
  · exact neededArrows_eq laidOut
  · exact neededShift_eq laidOut

theorem measured_of_tabs {strip : Strip} {tabs : List Tab}
    (measured : Strip.measure deck.capacity (deck.tabs.map Tab.caption) deck.metrics
      deck.inputs.policy = .ok strip)
    (captions : tabs.map Tab.caption = deck.tabs.map Tab.caption)
    (tabRects : tabs.map (fun tab => (tab.selected, tab.unselected)) =
      strip.tabs.map fun measure => (measure.selected, measure.unselected)) :
    ({ deck with strip, tabs } : Deck μ σ).Measured := by
  refine ⟨?_, tabRects⟩
  simp only [inputs, geometry, captions]
  exact measured

/-- A deck whose captions make a strip has its measures after measuring anew. -/
theorem measured_remeasure
    (checked : checkCaptions deck.capacity (deck.tabs.map Tab.caption) = .ok ()) :
    deck.remeasure.Measured := by
  simp only [remeasure]
  split
  · next failed =>
    rcases (Strip.measure_ok_iff deck.metrics _).mpr checked with ⟨strip, measured⟩
    rw [measured] at failed
    cases failed
  · next strip measured =>
    have length : strip.tabs.length = deck.tabs.length := by
      rw [Strip.length_tabs_of_measure measured, List.length_map]
    apply measured_of_tabs measured
    · exact map_zipWith length fun _ _ => rfl
    · exact map_zipWith_right length fun _ _ => rfl

theorem Measured.checked (measured : deck.Measured) :
    checkCaptions deck.capacity (deck.tabs.map Tab.caption) = .ok () :=
  (Strip.measure_ok_iff _ _).mp ⟨_, measured.measured⟩

end Measured

/-! ## Sessions keep the geometry up to date -/

section Steps

variable [PaneHost σ] {before after deck : Deck μ σ} {outcome : Outcome}

/-- A change of the active tab ends with the strip being arranged anew. -/
theorem Measured.activate {index : Nat} (measured : deck.Measured)
    (done : deck.activate index = .ok (outcome, after)) : after.UpToDate := by
  rcases activate_eq_ok done with ⟨row, gesture, mid, served, rfl, -, -⟩
  apply upToDate_arrange
  apply Measured.same _ (SameStrip.of_served served)
  exact ⟨measured.measured, measured.tabRects⟩

theorem Measured.switched (measured : before.Measured) (switched : before.Switched after) :
    after.Measured := by
  rcases switched with rfl | ⟨index, outcome, -, -, activated⟩
  · exact measured
  · exact (measured.activate activated).measured

theorem UpToDate.switched (upToDate : before.UpToDate) (switched : before.Switched after) :
    after.UpToDate := by
  rcases switched with rfl | ⟨index, outcome, -, -, activated⟩
  · exact upToDate
  · exact upToDate.measured.activate activated

theorem UpToDate.reselects (upToDate : before.UpToDate) (reselects : before.Reselects after) :
    after.UpToDate := by
  rcases reselects with ⟨mid, last, same, switched, again⟩
  exact ((upToDate.same same).switched switched).same again

omit [PaneHost σ] in
theorem UpToDate.enables {enabled : Bool} {mid : Deck μ σ} (upToDate : before.UpToDate)
    (kept : ({ before with enabled } : Deck μ σ).SameStrip mid) :
    (mid.enableArrows enabled).UpToDate := by
  have measured : ({ before with enabled } : Deck μ σ).Measured :=
    ⟨upToDate.measured.measured, upToDate.measured.tabRects⟩
  have inputs : mid.inputs = { before.inputs with enabled } := kept.inputs
  have geometry : mid.geometry = before.geometry := kept.geometry
  refine ⟨⟨(measured.same kept).measured, (measured.same kept).tabRects⟩, fun laidOut => ?_⟩
  have arranges := (upToDate.arranged (kept.laidOut ▸ laidOut)).enable enabled
  rw [← inputs, ← geometry] at arranges
  have active : before.inputs.active = mid.active := congrArg StripInputs.active inputs.symm
  have captions : before.inputs.captions = mid.tabs.map Tab.caption :=
    congrArg StripInputs.captions inputs.symm
  rw [active, captions, List.length_map] at arranges
  exact arranges

/-- The panes are shown, and a first tab becomes active, before the strip is arranged at last. -/
theorem UpToDate.placeAt {bounds : Rect} (upToDate : deck.UpToDate)
    (done : deck.placeAt bounds = .ok (outcome, after)) : after.UpToDate := by
  rcases placeAt_eq_ok done with ⟨measured, area, row, stripWidth, shown, last, -, ⟨rfl, -⟩, -,
    showed, stays, selects, rfl⟩
  have checked : checkCaptions ({ deck with bounds, laidOut := true } : Deck μ σ).capacity
      (deck.tabs.map Tab.caption) = .ok () := upToDate.measured.checked
  have remeasured := measured_remeasure checked
  rcases served_of_showPanes showed with ⟨aligned, served, -, -⟩
  have displayed : shown.Measured := by
    apply Measured.same _ (SameStrip.of_served served)
    exact ⟨remeasured.measured, remeasured.tabRects⟩
  exact upToDate_arrange (displayed.switched (switched_of_placement stays selects))

omit [PaneHost σ] in
theorem UpToDate.showIcons {icons : List Image} (upToDate : deck.UpToDate)
    (done : deck.showIcons icons = .ok (outcome, after)) : after.UpToDate := by
  rcases showIcons_eq_ok done with ⟨-, tabs, labelled, rfl⟩
  have captions : tabs.map Tab.caption = deck.tabs.map Tab.caption := labelled fun _ _ => rfl
  apply upToDate_arrange
  apply measured_remeasure
  show checkCaptions deck.capacity (tabs.map Tab.caption) = .ok ()
  rw [captions]
  exact upToDate.measured.checked

omit [PaneHost σ] in
/-- New captions were checked before they replace the old ones. -/
theorem upToDate_of_relabel {captions : List Caption}
    (done : deck.relabel captions = .ok (outcome, after)) : after.UpToDate := by
  rcases relabel_eq_ok done with ⟨mid, area, -, ⟨-, lengths, checked, tabs, labelled, rfl⟩, rfl⟩
  have replaced : tabs.map Tab.caption = captions.map id := by
    rw [labelled]
    exact map_zipWith_right lengths fun _ _ => rfl
  have remeasured : ({ deck with tabs } : Deck μ σ).remeasure.Measured := by
    apply measured_remeasure
    show checkCaptions deck.capacity (tabs.map Tab.caption) = .ok ()
    rw [replaced, List.map_id]
    exact checked
  exact upToDate_arrange ⟨remeasured.measured, remeasured.tabRects⟩

theorem UpToDate.perform {action : Action} {answer : Answer} (upToDate : deck.UpToDate)
    (done : deck.perform action = .ok (answer, after)) : after.UpToDate := by
  cases stripStep_of_perform done with
  | reselects reselects => exact upToDate.reselects reselects
  | enables enabled mid _ kept same =>
    rw [same]
    exact upToDate.enables kept
  | places bounds outcome _ placed => exact upToDate.placeAt placed
  | showsIcons icons outcome _ shown => exact upToDate.showIcons shown
  | relabels captions outcome _ relabelled => exact upToDate_of_relabel relabelled

end Steps

section Sessions

variable [PaneHost σ] {capacity : Nat} {captions : List Caption} {metrics : μ} {host : σ}
  {settings : Settings} {start deck : Deck μ σ} {actions : List Action}

omit [PaneHost σ] in
/-- A new deck was measured, and has not been arranged. -/
theorem upToDate_ofCaptions
    (made : ofCaptions capacity captions metrics host settings = .ok start) : start.UpToDate := by
  simp only [ofCaptions, bind_eq_ok, pure_eq_ok] at made
  rcases made with ⟨strip, measured, rfl⟩
  have length := Strip.length_tabs_of_measure measured
  have captioned : (List.zipWith (fun caption (measure : TabMeasure) =>
      ({ caption, selected := measure.selected, unselected := measure.unselected } : Tab))
      captions strip.tabs).map Tab.caption = captions.map id := map_zipWith length fun _ _ => rfl
  refine ⟨⟨?_, map_zipWith_right length fun _ _ => rfl⟩, fun laidOut => ?_⟩
  · simp only [inputs, geometry, captioned, List.map_id]
    exact measured
  · cases laidOut

theorem Reaches.upToDate (reached : start.Reaches actions deck)
    (made : ofCaptions capacity captions metrics host settings = .ok start) : deck.UpToDate :=
  reached.kept (upToDate_ofCaptions made) fun earlier performed => earlier.perform performed

/-- A placed deck remembers the geometry that follows from its inputs. -/
theorem Reaches.follows (reached : start.Reaches actions deck)
    (made : ofCaptions capacity captions metrics host settings = .ok start)
    (placed : Placed actions) : deck.geometry.Follows deck.capacity deck.inputs := by
  have coherent := reached.coherent (coherent_ofCaptions made)
  have upToDate := reached.upToDate made
  refine ⟨upToDate.measured, ?_, coherent.spans, upToDate.arranged (reached.laidOut placed)⟩
  rw [inputs, List.length_map]
  exact coherent.counted

/-- The deck was made and placed in some session. -/
def WasPlaced (deck : Deck μ σ) : Prop :=
  ∃ capacity captions metrics host settings, ∃ start : Deck μ σ, ∃ actions,
    ofCaptions capacity captions metrics host settings = .ok start ∧
    start.Reaches actions deck ∧ Placed actions

/-- A placed deck has the geometry that follows from its inputs, and the same geometry as every
other placed deck with these inputs. What happened in the sessions does not show in it. -/
theorem strip_geometry_follows (wasPlaced : deck.WasPlaced) :
    deck.geometry.Follows deck.capacity deck.inputs ∧
      ∀ {τ : Type} [PaneHost τ] {other : Deck μ τ}, other.WasPlaced →
        other.inputs = deck.inputs → other.geometry = deck.geometry := by
  rcases wasPlaced with ⟨_, _, _, _, _, start, actions, made, reached, placed⟩
  have follows := reached.follows made placed
  refine ⟨follows, ?_⟩
  rintro τ _ other ⟨_, _, _, _, _, _, _, otherMade, otherReached, otherPlaced⟩ inputs
  have otherFollows := otherReached.follows otherMade otherPlaced
  rw [inputs] at otherFollows
  exact otherFollows.unique follows

end Sessions

/-! ## The same deck in two sessions -/

/-- Three images that need more than sixty columns. -/
def wideImages : List Caption := List.replicate 3 (.image ⟨0, ⟨40, 10⟩⟩)

/-- The strip is placed, and then shifted as far as it goes. -/
def placedFirst : List Action :=
  [.placeAt ⟨⟨0, 0⟩, ⟨60, 100⟩⟩, .select 2, .enable false]

/-- The strip is placed twice, the last tab being active already. -/
def placedLast : List Action :=
  [.enable false, .select 2, .placeAt ⟨⟨5, 0⟩, ⟨300, 80⟩⟩, .placeAt ⟨⟨0, 0⟩, ⟨60, 100⟩⟩]

/-- Two sessions lead to one geometry, with arrows that are disabled and a shifted strip. -/
theorem strip_geometry_in_either_order :
    ∃ first second : Deck FixedAdvance DemoPanes,
      first.WasPlaced ∧ second.WasPlaced ∧ second.inputs = first.inputs ∧
      first.geometry.Follows 8 first.inputs ∧ second.geometry = first.geometry ∧
      first.arrows.map (fun arrows => (arrows.leftEnabled, arrows.rightEnabled)) =
        some (false, false) ∧
      first.shift = -85 := by
  obtain ⟨start, first, second, answers, otherAnswers, made, ran, ranOther, inputs, capacity,
      arrows, shift⟩ :
      ∃ start first second : Deck FixedAdvance DemoPanes, ∃ answers otherAnswers,
        ofCaptions 8 wideImages ⟨6, 7, 10⟩ {} {} = .ok start ∧
        start.run placedFirst = .ok (answers, first) ∧
        start.run placedLast = .ok (otherAnswers, second) ∧
        second.inputs = first.inputs ∧ first.capacity = 8 ∧
        first.arrows.map (fun arrows => (arrows.leftEnabled, arrows.rightEnabled)) =
          some (false, false) ∧
        first.shift = -85 :=
    ⟨_, _, _, _, _, rfl, rfl, rfl, rfl, rfl, by decide, by decide⟩
  have firstPlaced : first.WasPlaced :=
    ⟨_, _, _, _, _, start, placedFirst, made, ⟨answers, ran⟩, _, List.mem_cons_self⟩
  have secondPlaced : second.WasPlaced :=
    ⟨_, _, _, _, _, start, placedLast, made, ⟨otherAnswers, ranOther⟩, ⟨⟨0, 0⟩, ⟨60, 100⟩⟩,
      by decide⟩
  have follows := strip_geometry_follows firstPlaced
  rw [capacity] at follows
  exact ⟨first, second, firstPlaced, secondPlaced, inputs, follows.1, follows.2 secondPlaced inputs,
    arrows, shift⟩

end Deck

end TabDeck
