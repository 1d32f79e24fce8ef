import TabDeck.Proofs.ArrowTaps
import TabDeck.Proofs.Navigation
import TabDeck.Proofs.StripLayout

/-!
# Decks as wide as they want to be

A host may ask a deck for the width that it wants, and then place it with that width. Before there
is an active tab, the tab that is widest while active stands in for it. What a tab adds to the width
is how much it gains when it becomes active, and the widest tab need not gain most. Only if it does,
the width stays enough whichever tab becomes active (`Deck.wants_enough_iff`).
-/

namespace TabDeck

/-- The columns that a tab gains while it is active. -/
def TabMeasure.growth (tab : TabMeasure) : Nat :=
  tab.selected.size.width - tab.unselected.size.width

/-- Whether the action places the deck or changes its captions or icons. -/
def Action.remeasures : Action → Bool
  | .placeAt _ | .showIcons _ | .relabel _ => true
  | _ => false

namespace Navigation

variable {μ : Type}

theorem exists_choose (nav : Navigation μ) (index : Nat) :
    ∃ active lastActive, nav.choose index = { nav with active, lastActive } := by
  simp only [choose]
  split
  · exact ⟨nav.active, nav.lastActive, rfl⟩
  · exact ⟨some index, nav.active, rfl⟩

variable [FontMetrics μ]

theorem exists_remeasure (nav : Navigation μ) : ∃ strip, nav.remeasure = { nav with strip } := by
  simp only [remeasure]
  split
  · exact ⟨nav.strip, rfl⟩
  · next strip _ => exact ⟨strip, rfl⟩

/-- A placement keeps what is measured, but for the width that there is. -/
theorem exists_placeAt (nav : Navigation μ) (bounds : Rect) :
    ∃ strip paneArea active lastActive, nav.placeAt bounds =
      { nav with bounds, strip, paneArea, active, lastActive } := by
  rcases exists_remeasure { nav with bounds } with ⟨strip, measured⟩
  simp only [placeAt, measured, refit]
  split
  · exact ⟨strip, _, nav.active, nav.lastActive, rfl⟩
  · rcases exists_choose _ _ with ⟨active, lastActive, chosen⟩
    exact ⟨strip, _, active, lastActive, chosen⟩

end Navigation

namespace Strip

section Wanted

variable {strip : Strip} {active : Option Nat}

theorem mem_of_widestSelected {tabs : List TabMeasure} {tab : TabMeasure}
    (widest : widestSelected tabs = some tab) : tab ∈ tabs := by
  cases tabs with
  | nil => cases widest
  | cons first rest =>
    simp only [widestSelected, Option.some.injEq] at widest
    rw [← widest]
    clear widest
    induction rest generalizing first with
    | nil => exact List.mem_singleton_self first
    | cons next others ih =>
      simp only [List.foldl_cons]
      split
      · exact List.mem_cons_of_mem first (ih next)
      · rcases List.mem_cons.mp (ih first) with isFirst | later
        · rw [isFirst]
          exact List.mem_cons_self
        · exact List.mem_cons_of_mem first (List.mem_cons_of_mem next later)

theorem mem_of_standIn {tab : TabMeasure} (standsIn : strip.standIn active = some tab) :
    tab ∈ strip.tabs := by
  rcases Option.or_eq_some_iff.mp standsIn with isActive | ⟨-, widest⟩
  · rcases Option.bind_eq_some_iff.mp isActive with ⟨index, -, present⟩
    exact List.mem_of_getElem? present
  · exact mem_of_widestSelected widest

theorem standIn_of_active {index : Nat} {tab : TabMeasure}
    (present : strip.tabs[index]? = some tab) : strip.standIn (some index) = some tab := by
  simp [standIn, present]

theorem exists_standIn (nonempty : 0 < strip.tabs.length) (active : Option Nat) :
    ∃ tab, strip.standIn active = some tab := by
  rcases List.exists_cons_of_length_pos nonempty with ⟨first, rest, tabs⟩
  apply Option.isSome_iff_exists.mp
  simp [standIn, widestSelected, tabs]

/-- A strip wants the unselected widths of its tabs, and what its active tab gains. -/
theorem wantedWidth_of_standIn {tab : TabMeasure} (standsIn : strip.standIn active = some tab)
    (extraWidth : Nat) : strip.wantedWidth active extraWidth =
      columns (unselectedWidths strip.tabs) + tab.growth + extraWidth := by
  simp [wantedWidth, standsIn, TabMeasure.growth, columns, unselectedWidths, List.foldr_map]

end Wanted

/-- Tabs that have widths of their own are measured alike in every width. -/
theorem measure_of_unequal {μ : Type} [FontMetrics μ] (capacity : Nat) (captions : List Caption)
    (metrics : μ) {policy : StripPolicy} (unequal : policy.equalWidths = false)
    (availableWidth : Nat) :
    measure capacity captions metrics { policy with availableWidth } =
      measure capacity captions metrics policy := by
  simp only [measure, StripPolicy.sharedWidths, unequal, Bool.false_eq_true, if_false]
  rfl

/-- Without a bold weight all tabs gain alike. -/
theorem growth_of_one_weight {μ : Type} [FontMetrics μ] {capacity : Nat} {captions : List Caption}
    {metrics : μ} {policy : StripPolicy} {strip : Strip}
    (measured : measure capacity captions metrics policy = .ok strip)
    (unequal : policy.equalWidths = false) (plain : policy.usesBold metrics captions = false) :
    ∀ tab ∈ strip.tabs, ∀ other ∈ strip.tabs, tab.growth = other.growth := by
  have gains : ∀ tab ∈ strip.tabs, tab.growth =
      (policy.outerWidths (0, 0)).2 - (policy.outerWidths (0, 0)).1 := by
    intro tab isTab
    have member := List.mem_map_of_mem (f := TabMeasure.widths) isTab
    simp only [widths_of_measure measured, StripPolicy.sharedWidths, unequal, Bool.false_eq_true,
      if_false, StripPolicy.captionWidths, plain, List.map_map, List.mem_map, Function.comp_apply,
      Caption.tabWidths, TabMeasure.widths] at member
    rcases member with ⟨caption, -, widths⟩
    simp only [TabMeasure.growth]
    simp only [StripPolicy.outerWidths] at widths ⊢
    cases style : policy.style with
    | classic =>
      simp only [style, Prod.mk.injEq] at widths ⊢
      omega
    | material =>
      simp only [style, Prod.mk.injEq] at widths ⊢
      omega
  intro tab isTab other isOther
  rw [gains tab isTab, gains other isOther]

end Strip

namespace Deck

variable {μ σ : Type} [FontMetrics μ] [PaneHost σ] {deck after : Deck μ σ}

section Steps

variable {outcome : Outcome} {bounds : Rect}

omit [FontMetrics μ] [PaneHost σ] in
theorem SameStrip.strip (same : deck.SameStrip after) : after.strip = deck.strip :=
  congrArg StripGeometry.strip same.geometry

omit [FontMetrics μ] in
theorem Reselects.strip (reselects : deck.Reselects after) : after.strip = deck.strip := by
  rcases reselects with ⟨mid, last, same, switched, again⟩
  rw [again.strip, ← same.strip]
  rcases switched with rfl | ⟨index, outcome, -, -, activated⟩
  · rfl
  · exact congrArg Navigation.strip (navigation_of_activate activated)

/-- Only a placement, icons and captions lead to other measures. -/
theorem strip_of_perform {action : Action} {answer : Answer} (keeps : action.remeasures = false)
    (done : deck.perform action = .ok (answer, after)) : after.strip = deck.strip := by
  cases stripStep_of_perform done with
  | reselects reselects => exact reselects.strip
  | enables enabled mid _ kept enabled =>
    rw [enabled]
    exact kept.strip
  | places bounds outcome same _ => cases same; cases keeps
  | showsIcons icons outcome same _ => cases same; cases keeps
  | relabels captions outcome same _ => cases same; cases keeps

theorem strip_of_run {actions : List Action}
    (keep : ∀ action ∈ actions, action.remeasures = false) (reached : deck.Reaches actions after) :
    after.strip = deck.strip ∧ after.bounds = deck.bounds := by
  induction actions generalizing deck with
  | nil =>
    rw [reaches_nil.mp reached]
    exact ⟨rfl, rfl⟩
  | cons action rest ih =>
    rw [List.forall_mem_cons] at keep
    rcases reaches_cons.mp reached with ⟨answer, middle, performed, continued⟩
    have unplaced : ∀ bounds, action ≠ .placeAt bounds := by
      rintro bounds rfl
      cases keep.1
    rcases ih keep.2 continued with ⟨strip, bounds⟩
    exact ⟨strip.trans (strip_of_perform keep.1 performed),
      bounds.trans (Keeps.of_perform unplaced performed).bounds⟩

/-- Tabs that have widths of their own are measured alike wherever the deck is placed. -/
theorem strip_of_placeAt (sound : deck.Sound) (unequal : deck.settings.equalWidths = false)
    (done : deck.placeAt bounds = .ok (outcome, after)) (soundAfter : after.Sound) :
    after.strip = deck.strip := by
  rcases deck.navigation.exists_placeAt bounds with ⟨_, _, _, _, placed⟩
  rw [← navigation_of_placeAt done] at placed
  have settings : after.settings = deck.settings := (Keeps.of_placeAt done).settings
  have before := sound.upToDate.measured.measured
  have afterwards := soundAfter.upToDate.measured.measured
  have captions : after.inputs.captions = deck.inputs.captions :=
    congrArg Navigation.captions placed
  have metrics : after.inputs.metrics = deck.inputs.metrics := congrArg Navigation.metrics placed
  have hasIcons : after.hasIcons = deck.hasIcons := congrArg Navigation.hasIcons placed
  have policy : after.inputs.policy =
      { deck.inputs.policy with availableWidth := after.bounds.size.width } := by
    simp only [StripInputs.policy, inputs, settings, hasIcons]
    rfl
  rw [captions, metrics, policy, Strip.measure_of_unequal _ _ _ unequal] at afterwards
  exact Strip.measure_unique afterwards before

end Steps

section Sessions

variable {capacity : Nat} {captions : List Caption} {metrics : μ} {host : σ} {settings : Settings}
  {start : Deck μ σ} {earlier : List Action}

/-- A deck that is placed with the width that it wants has room for its tabs, whatever is done with
it then and whichever of them becomes active. -/
def WantsEnough (deck : Deck μ σ) (corner : Point) (height : Nat) : Prop :=
  ∀ actions : List Action, (∀ action ∈ actions, action.remeasures = false) →
    ∃ after, deck.Reaches (.placeAt ⟨corner, ⟨deck.wantedWidth, height⟩⟩ :: actions) after ∧
      after.overflows = false

section Continued

variable {corner : Point} {height : Nat} {actions : List Action}
  (made : ofCaptions capacity captions metrics host settings = .ok start)
  (reached : start.Reaches earlier deck)
  (continued : deck.Reaches (.placeAt ⟨corner, ⟨deck.wantedWidth, height⟩⟩ :: actions) after)

include made reached continued

theorem wasPlaced_of_continued : after.WasPlaced :=
  ⟨_, _, _, _, _, start, _, made, reaches_append.mpr ⟨deck, reached, continued⟩, _,
    List.mem_append_right earlier List.mem_cons_self⟩

/-- Tabs that have widths of their own keep the measures that the deck wanted room for. -/
theorem measures_of_unequal (keep : ∀ action ∈ actions, action.remeasures = false)
    (unequal : deck.settings.equalWidths = false) :
    after.strip = deck.strip ∧ after.bounds.size.width = deck.wantedWidth := by
  have sound := reached.sound (sound_ofCaptions made)
  rcases reaches_cons.mp continued with ⟨answer, placed, performed, later⟩
  rcases accepted_eq_ok.mp performed with ⟨outcome, placing, -⟩
  rcases strip_of_run keep later with ⟨strip, bounds⟩
  constructor
  · exact strip.trans (strip_of_placeAt sound unequal placing (sound.perform performed))
  · rw [bounds, (Keeps.of_placeAt placing).bounds]

/-- Tabs that have widths of their own take up more than the deck wanted if the active tab gains
more than the one that stood in for it. -/
theorem overflows_of_unequal (keep : ∀ action ∈ actions, action.remeasures = false)
    (unequal : deck.settings.equalWidths = false) {active : Nat} {standIn tab : TabMeasure}
    (standsIn : deck.strip.standIn deck.active = some standIn)
    (isActive : after.active = some active) (present : deck.strip.tabs[active]? = some tab) :
    after.overflows = true ↔ 1 < deck.tabs.length ∧ standIn.growth < tab.growth := by
  have lasts := continued.lasts
  rcases measures_of_unequal made reached continued keep unequal with ⟨strip, width⟩
  have wanted : after.wantedWidth = Strip.columns (Strip.unselectedWidths deck.strip.tabs) +
      tab.growth + deck.settings.insets.horizontal := by
    rw [wantedWidth, strip, isActive, lasts.settings]
    exact Strip.wantedWidth_of_standIn (Strip.standIn_of_active present) _
  have before := Strip.wantedWidth_of_standIn standsIn deck.settings.insets.horizontal
  rw [overflows_of_follows (wasPlaced_of_continued made reached continued).follows, lasts.length,
    width, wanted, wantedWidth, before]
  omega

end Continued

theorem exists_continued {corner : Point} {height : Nat} {actions : List Action}
    (sound : deck.Sound)
    (reach : (((deck.tabs.length - 1) * deck.wantedWidth : Nat) : Int) ≤ Word.maxSigned)
    (keep : ∀ action ∈ actions, action.remeasures = false) :
    ∃ after,
      deck.Reaches (.placeAt ⟨corner, ⟨deck.wantedWidth, height⟩⟩ :: actions) after := by
  apply sound.run_total
  intro bounds member
  rcases List.mem_cons.mp member with same | inRest
  · cases same
    exact reach
  · cases keep _ inRest

/-- The width is enough if no tab gains more than the one that stands in for the active one. -/
theorem wantsEnough_of_gains {corner : Point} {height : Nat}
    (made : ofCaptions capacity captions metrics host settings = .ok start)
    (reached : start.Reaches earlier deck)
    (reach : (((deck.tabs.length - 1) * deck.wantedWidth : Nat) : Int) ≤ Word.maxSigned)
    (unequal : deck.settings.equalWidths = false)
    (most : ∀ standIn, deck.strip.standIn deck.active = some standIn →
      ∀ tab ∈ deck.strip.tabs, tab.growth ≤ standIn.growth) : deck.WantsEnough corner height := by
  intro actions keep
  rcases exists_continued (reached.sound (sound_ofCaptions made)) reach keep with
    ⟨after, continued⟩
  refine ⟨after, continued, Bool.eq_false_iff.mpr fun overflowing => ?_⟩
  rcases (wasPlaced_of_continued made reached continued).active with
    ⟨active, tab, isActive, present⟩
  rw [(measures_of_unequal made reached continued keep unequal).1] at present
  have isTab := List.mem_of_getElem? present
  rcases deck.strip.exists_standIn (List.length_pos_of_mem isTab) deck.active with
    ⟨standIn, standsIn⟩
  have gainsMore := (overflows_of_unequal made reached continued keep unequal standsIn isActive
    present).mp overflowing
  have gains := most standIn standsIn tab isTab
  omega

/-- Tabs that have widths of their own and no bold captions never want more than they wanted. -/
theorem wantsEnough_in_one_weight
    (made : ofCaptions capacity captions metrics host settings = .ok start)
    (reached : start.Reaches earlier deck)
    (reach : (((deck.tabs.length - 1) * deck.wantedWidth : Nat) : Int) ≤ Word.maxSigned)
    (unequal : deck.settings.equalWidths = false)
    (plain : deck.inputs.policy.usesBold deck.metrics (deck.tabs.map Tab.caption) = false)
    (corner : Point) (height : Nat) : deck.WantsEnough corner height := by
  have measured := (reached.sound (sound_ofCaptions made)).upToDate.measured.measured
  apply wantsEnough_of_gains made reached reach unequal
  intro standIn standsIn tab isTab
  exact Nat.le_of_eq (Strip.growth_of_one_weight measured unequal plain tab isTab standIn
    (Strip.mem_of_standIn standsIn))

/-- For tabs that have widths of their own, the width that their deck wants is enough exactly if
there is only one, or if none gains more than the tab that stands in for the active one. -/
theorem wants_enough_iff
    (made : ofCaptions capacity captions metrics host settings = .ok start)
    (reached : start.Reaches earlier deck)
    (reach : (((deck.tabs.length - 1) * deck.wantedWidth : Nat) : Int) ≤ Word.maxSigned)
    (unequal : deck.settings.equalWidths = false) (corner : Point) (height : Nat) :
    deck.WantsEnough corner height ↔
      deck.tabs.length ≤ 1 ∨ ∀ standIn, deck.strip.standIn deck.active = some standIn →
        ∀ tab ∈ deck.strip.tabs, tab.growth ≤ standIn.growth := by
  have sound := reached.sound (sound_ofCaptions made)
  constructor
  · intro enough
    by_cases single : deck.tabs.length ≤ 1
    · exact Or.inl single
    right
    intro standIn standsIn tab isTab
    by_contra gainsMore
    rcases List.getElem?_of_mem isTab with ⟨index, present⟩
    have keep : ∀ action ∈ [Action.select index], action.remeasures = false := by
      simp [Action.remeasures]
    rcases enough [.select index] keep with ⟨after, continued, fits⟩
    have isActive : after.active = some index := by
      rcases reaches_append.mp (show deck.Reaches ([_] ++ [.select index]) after from continued)
        with ⟨middle, placed, selecting⟩
      rcases reaches_cons.mp selecting with ⟨answer, last, performed, same⟩
      rw [reaches_nil.mp same]
      rcases accepted_eq_ok.mp performed with ⟨outcome, selected, -⟩
      apply active_of_select _ selected
      rw [placed.lasts.length, ← sound.indexed.measures]
      exact (List.getElem?_eq_some_iff.mp present).1
    have overflowing := (overflows_of_unequal made reached continued keep unequal standsIn isActive
      present).mpr ⟨by omega, by omega⟩
    rw [overflowing] at fits
    cases fits
  · rintro (single | most)
    · intro actions keep
      rcases exists_continued sound reach keep with ⟨after, continued⟩
      refine ⟨after, continued, Bool.eq_false_iff.mpr fun overflowing => ?_⟩
      have follows := (wasPlaced_of_continued made reached continued).follows
      have several := ((overflows_of_follows follows).mp overflowing).1
      rw [continued.lasts.length] at several
      omega
    · exact wantsEnough_of_gains made reached reach unequal most

/-- Three images on classic tabs fit into the columns that they want, whichever is active. -/
theorem images_want_enough :
    ∃ start : Deck FixedAdvance DemoPanes,
      ofCaptions 8 wideImages ⟨6, 7, 10⟩ {} {} = .ok start ∧ start.active = none ∧
      start.wantedWidth = 130 ∧ start.WantsEnough ⟨0, 0⟩ 100 := by
  obtain ⟨start, made, isActive, wants, reach, unequal, growth⟩ :
      ∃ start : Deck FixedAdvance DemoPanes,
        ofCaptions 8 wideImages ⟨6, 7, 10⟩ {} {} = .ok start ∧ start.active = none ∧
        start.wantedWidth = 130 ∧
        (((start.tabs.length - 1) * start.wantedWidth : Nat) : Int) ≤ Word.maxSigned ∧
        start.settings.equalWidths = false ∧ ∀ tab ∈ start.strip.tabs, tab.growth = 1 :=
    ⟨_, rfl, rfl, rfl, by decide, rfl, by decide⟩
  refine ⟨start, made, isActive, wants, ?_⟩
  refine (wants_enough_iff made (reaches_nil.mpr rfl) reach unequal ⟨0, 0⟩ 100).mpr (Or.inr ?_)
  intro standIn standsIn tab isTab
  have own := growth standIn (Strip.mem_of_standIn standsIn)
  exact Nat.le_of_eq ((growth tab isTab).trans own.symm)

/-- A font whose bold letters are wider than its plain ones, but stand closer together. -/
def tightBold : FontPair := ⟨⟨1, 10, 10, .blocks⟩, some ⟨5, 10, 0, .blocks⟩⟩

/-- A short text and a long one. -/
def shortAndLong : List Caption := [.text ⟨"A", by decide⟩, .text ⟨"AAAA", by decide⟩]

/-- A short text gains more by becoming active than the long one that stood in for it. -/
theorem wanted_width_too_small :
    ∃ start after : Deck FontPair DemoPanes,
      ofCaptions 8 shortAndLong tightBold {} {} = .ok start ∧
      start.settings.equalWidths = false ∧ start.wantedWidth = 42 ∧
      start.Reaches [.placeAt ⟨⟨0, 0⟩, ⟨42, 100⟩⟩] after ∧
      after.active = some 0 ∧ after.wantedWidth = 46 ∧ after.overflows = true :=
  ⟨_, _, rfl, rfl, by decide +kernel, ⟨_, rfl⟩, rfl, by decide +kernel, by decide +kernel⟩

end Sessions

end Deck

end TabDeck
