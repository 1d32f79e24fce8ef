import TabDeck.Proofs.StripLayout

/-!
# Equal shares of a strip

Where all tabs are to be equally wide, each gets a share of the columns that the deck has. The
shares are handed out to the captions, and the columns around the captions come on top. Several tabs
therefore never fit their deck, however much room the captions leave (`Deck.equal_shares_overflow`).
-/

namespace TabDeck

namespace StripPolicy

variable (policy : StripPolicy)

/-- The columns that tabs of one width take side by side besides their captions. Neighbours share
one, and an active classic tab takes one more. -/
def paddings (count : Nat) : Nat :=
  match policy.style with
  | .classic => 3 * count + 1
  | .material => 11 * count

theorem lt_paddings {count : Nat} (nonempty : 0 < count) : 3 * count < policy.paddings count := by
  simp only [paddings]
  split <;> omega

/-- The columns that tabs of one width take side by side, with one of them active. -/
def uniformColumns (count : Nat) (widths : Nat × Nat) : Nat :=
  count * ((policy.outerWidths widths).1 - 1) +
    ((policy.outerWidths widths).2 - (policy.outerWidths widths).1)

theorem uniformColumns_eq (count width : Nat) :
    policy.uniformColumns count (width, width) = count * width + policy.paddings count := by
  simp only [uniformColumns, outerWidths, paddings, unselectedColumns, selectedColumns,
    materialColumns]
  cases policy.style with
  | classic =>
    have inner : count * (width + 4 - 1) = count * width + 3 * count := by
      rw [Nat.add_sub_assoc (by decide), Nat.mul_add, Nat.mul_comm count 3]
    dsimp only
    omega
  | material =>
    have inner : count * (width + 12 - 1) = count * width + 11 * count := by
      rw [Nat.add_sub_assoc (by decide), Nat.mul_add, Nat.mul_comm count 11]
    dsimp only
    omega

/-- Wider captions take more columns. -/
theorem uniformColumns_le (count : Nat) {width : Nat} {widths : Nat × Nat}
    (wider : width ≤ widths.1) (grows : widths.1 ≤ widths.2) :
    policy.uniformColumns count (width, width) ≤ policy.uniformColumns count widths := by
  simp only [uniformColumns, outerWidths]
  cases policy.style with
  | classic =>
    simp only [selectedColumns, unselectedColumns]
    apply Nat.add_le_add
    · exact Nat.mul_le_mul_left count (by omega)
    · omega
  | material =>
    simp only [Nat.sub_self]
    exact Nat.add_le_add_right (Nat.mul_le_mul_left count (by omega)) 0

/-- The shares leave fewer columns over than there are tabs. -/
theorem availableWidth_lt {count : Nat} (nonempty : 0 < count) :
    policy.availableWidth < count * policy.equalShare count + count + policy.extraWidth := by
  have whole := Nat.div_add_mod (policy.availableWidth - policy.extraWidth) count
  have rest := Nat.mod_lt (policy.availableWidth - policy.extraWidth) nonempty
  simp only [equalShare]
  omega

section Captions

variable {μ : Type} [FontMetrics μ] {captions : List Caption} {metrics : μ}

/-- The common width of active tabs is no smaller than that of inactive ones. -/
theorem commonWidths_le (metrics : μ) (captions : List Caption) :
    (policy.commonWidths (policy.captionWidths metrics captions)).1 ≤
      (policy.commonWidths (policy.captionWidths metrics captions)).2 := by
  have grow : ∀ pair ∈ policy.captionWidths metrics captions, pair.1 ≤ pair.2 := by
    intro pair member
    rcases List.mem_map.mp member with ⟨caption, -, rfl⟩
    exact caption.tabWidths_le metrics _
  have widest := foldl_max_le _ grow (Nat.le_refl 0)
  simp only [commonWidths]
  omega

/-- A share that no width exceeds is the common width. -/
theorem commonWidth_of_le {side : Nat × Nat → Nat} {widths : List (Nat × Nat)} {share : Nat}
    (narrow : ∀ pair ∈ widths, side pair ≤ share) :
    max ((widths.map side).foldl max 0) share = share := by
  apply Nat.max_eq_right
  have widest : (0 :: widths.map side).max? = some ((widths.map side).foldl max 0) :=
    List.max?_cons'
  rcases List.mem_cons.mp (List.max?_eq_some_iff.mp widest).1 with isZero | member
  · rw [isZero]
    exact Nat.zero_le share
  · rcases List.mem_map.mp member with ⟨pair, isPair, same⟩
    rw [← same]
    exact narrow pair isPair

/-- A share is enough for every caption in its wider weight, and for the columns around it. -/
def SharesSuffice (policy : StripPolicy) (captions : List Caption) (metrics : μ) : Prop :=
  ∀ pair ∈ policy.captionWidths metrics captions,
    (policy.outerWidths pair).2 ≤ (policy.availableWidth - policy.extraWidth) / captions.length

instance : Decidable (policy.SharesSuffice captions metrics) :=
  inferInstanceAs (Decidable (∀ _ ∈ _, _))

variable {policy}

/-- Shares that suffice are what the captions get. -/
theorem outerWidths_of_sharesSuffice (suffice : policy.SharesSuffice captions metrics) :
    policy.outerWidths (policy.commonWidths (policy.captionWidths metrics captions)) =
      policy.outerWidths
        (policy.equalShare captions.length, policy.equalShare captions.length) := by
  simp only [SharesSuffice, outerWidths] at suffice
  simp only [outerWidths, commonWidths, length_captionWidths]
  cases style : policy.style with
  | classic =>
    simp only [style] at suffice
    have bold : ∀ pair ∈ policy.captionWidths metrics captions,
        pair.2 ≤ policy.equalShare captions.length :=
      fun pair member => Nat.le_of_add_right_le (suffice pair member)
    have plain : ∀ pair ∈ policy.captionWidths metrics captions,
        pair.1 ≤ policy.equalShare captions.length := by
      intro pair member
      refine Nat.le_trans ?_ (bold pair member)
      rcases List.mem_map.mp member with ⟨caption, -, rfl⟩
      exact caption.tabWidths_le metrics _
    rw [commonWidth_of_le plain, commonWidth_of_le bold]
  | material =>
    simp only [style] at suffice
    have plain : ∀ pair ∈ policy.captionWidths metrics captions,
        pair.1 ≤ policy.equalShare captions.length :=
      fun pair member => Nat.le_of_add_right_le (suffice pair member)
    rw [commonWidth_of_le plain]

end Captions

end StripPolicy

namespace Strip

theorem columns_replicate (count width : Nat) :
    columns (List.replicate count width) = count * (width - 1) := by
  induction count with
  | zero => simp
  | succ count ih => rw [List.replicate_succ, columns_cons, ih, Nat.succ_mul, Nat.add_comm]

section Measured

variable {μ : Type} [FontMetrics μ] {capacity : Nat} {captions : List Caption} {metrics : μ}
  {policy : StripPolicy} {strip : Strip} {active : Nat} {tab : TabMeasure}
  (measured : measure capacity captions metrics policy = .ok strip)
  (equal : policy.equalWidths = true) (present : strip.tabs[active]? = some tab)

include measured equal present

/-- What tabs of one width want. -/
theorem wantedWidth_of_equal (extraWidth : Nat) :
    strip.wantedWidth (some active) extraWidth =
      policy.uniformColumns captions.length
        (policy.commonWidths (policy.captionWidths metrics captions)) + extraWidth := by
  have uniform := uniform_of_measure measured equal
  have own := uniform tab (List.mem_of_getElem? present)
  have same : unselectedWidths strip.tabs = List.replicate captions.length
      (policy.outerWidths (policy.commonWidths (policy.captionWidths metrics captions))).1 := by
    apply List.eq_replicate_iff.mpr
    constructor
    · rw [length_unselectedWidths, length_tabs_of_measure measured]
    · intro width member
      rcases List.mem_map.mp member with ⟨other, isTab, rfl⟩
      exact congrArg Prod.fst (uniform other isTab)
  rw [wantedWidth_eq present, same, columns_replicate, StripPolicy.uniformColumns, ← own]
  rfl

/-- Shares that suffice are taken in full, and the columns around the captions besides. -/
theorem wantedWidth_of_sharesSuffice (suffice : policy.SharesSuffice captions metrics)
    (extraWidth : Nat) :
    strip.wantedWidth (some active) extraWidth =
      captions.length * policy.equalShare captions.length + policy.paddings captions.length +
        extraWidth := by
  rw [wantedWidth_of_equal measured equal present, StripPolicy.uniformColumns,
    StripPolicy.outerWidths_of_sharesSuffice suffice, ← StripPolicy.uniformColumns,
    policy.uniformColumns_eq]

/-- Tabs of one width want more columns than they shared out. -/
theorem availableWidth_lt_wantedWidth :
    policy.availableWidth + 2 * captions.length + 2 ≤
      strip.wantedWidth (some active) policy.extraWidth := by
  have nonempty : 0 < captions.length := by
    rw [← length_tabs_of_measure measured]
    exact Nat.lt_of_le_of_lt (Nat.zero_le active) (List.getElem?_eq_some_iff.mp present).1
  have handedOut := policy.availableWidth_lt nonempty
  have padded := policy.lt_paddings nonempty
  have share := policy.equalShare_le (policy.captionWidths metrics captions)
  have wider := policy.uniformColumns_le captions.length share
    (policy.commonWidths_le metrics captions)
  rw [policy.uniformColumns_eq, StripPolicy.length_captionWidths] at wider
  rw [wantedWidth_of_equal measured equal present]
  omega

end Measured

end Strip

namespace Deck

variable {μ σ : Type}

/-- The share of the deck's width that each tab gets where all are to be equally wide. -/
def equalShare (deck : Deck μ σ) : Nat :=
  (deck.bounds.size.width - deck.settings.insets.horizontal) / deck.tabs.length

variable [FontMetrics μ] {deck : Deck μ σ}

/-- An equal share of the deck's width is enough for every caption of the deck, and for the columns
around it. -/
def SharesSuffice (deck : Deck μ σ) : Prop :=
  deck.inputs.policy.SharesSuffice (deck.tabs.map Tab.caption) deck.metrics

instance : Decidable deck.SharesSuffice :=
  inferInstanceAs (Decidable (StripPolicy.SharesSuffice _ _ _))

section Placed

variable [PaneHost σ] (wasPlaced : deck.WasPlaced) (equal : deck.settings.equalWidths = true)

include wasPlaced equal

/-- Tabs that are to be equally wide want more columns than the deck has. -/
theorem width_lt_wantedWidth :
    deck.bounds.size.width + 2 * deck.tabs.length + 2 ≤ deck.wantedWidth := by
  rcases wasPlaced.active with ⟨active, tab, isActive, present⟩
  have wide := Strip.availableWidth_lt_wantedWidth wasPlaced.follows.measures.measured equal present
  have count : deck.inputs.captions.length = deck.tabs.length := List.length_map _
  rw [count, ← isActive] at wide
  exact wide

theorem overflows_of_equalWidths : deck.overflows = true ↔ 1 < deck.tabs.length := by
  have wide := width_lt_wantedWidth wasPlaced equal
  rw [overflows_of_follows wasPlaced.follows]
  omega

/-- Tabs that are to be equally wide never fit their deck, unless there is only one. If the shares
suffice, what they want too much is what stands around the captions. -/
theorem equal_shares_overflow :
    deck.bounds.size.width + 2 * deck.tabs.length + 2 ≤ deck.wantedWidth ∧
      (deck.SharesSuffice → deck.wantedWidth = deck.tabs.length * deck.equalShare +
        deck.inputs.policy.paddings deck.tabs.length + deck.settings.insets.horizontal) ∧
      (deck.overflows = true ↔ 1 < deck.tabs.length) ∧
      (deck.visibleArrows.isSome = true ↔
        deck.settings.showArrows = true ∧ 1 < deck.tabs.length) := by
  have follows := wasPlaced.follows
  have overflowing := overflows_of_equalWidths wasPlaced equal
  refine ⟨width_lt_wantedWidth wasPlaced equal, fun suffice => ?_, overflowing, ?_⟩
  · rcases wasPlaced.active with ⟨active, tab, isActive, present⟩
    have wanted := Strip.wantedWidth_of_sharesSuffice follows.measures.measured equal present
      suffice deck.settings.insets.horizontal
    have count : deck.inputs.captions.length = deck.tabs.length := List.length_map _
    rw [count, ← isActive] at wanted
    exact wanted
  · have arrows : deck.arrows = deck.geometry.arrowsFor deck.inputs := follows.arranges.arrows
    have inArrows : deck.geometry.overflows = deck.overflows := rfl
    rw [← overflowing, visibleArrows, Option.isSome_map, arrows, StripGeometry.arrowsFor, inArrows]
    simp [inputs]

end Placed

/-- Three flat tabs between insets get arrows, though a share is more than any of them needs. -/
theorem flat_tabs_with_ample_shares_overflow :
    ∃ deck : Deck FixedAdvance DemoPanes,
      deck.WasPlaced ∧ deck.settings.equalWidths = true ∧ deck.SharesSuffice ∧
      deck.bounds.size.width = 400 ∧ deck.equalShare = 130 ∧ deck.wantedWidth = 433 ∧
      deck.visibleArrows.isSome = true := by
  obtain ⟨start, deck, answers, made, ran, equal, suffice, width, share, padding, insets, count,
      shows⟩ :
      ∃ start deck : Deck FixedAdvance DemoPanes, ∃ answers,
        ofCaptions 8 wideImages ⟨6, 7, 10⟩ {}
          { style := .material, equalWidths := true, insets := ⟨0, 4, 0, 6⟩ } = .ok start ∧
        start.run [.placeAt ⟨⟨0, 0⟩, ⟨400, 100⟩⟩] = .ok (answers, deck) ∧
        deck.settings.equalWidths = true ∧ deck.SharesSuffice ∧ deck.bounds.size.width = 400 ∧
        deck.equalShare = 130 ∧ deck.inputs.policy.paddings deck.tabs.length = 33 ∧
        deck.settings.insets.horizontal = 10 ∧ deck.tabs.length = 3 ∧
        deck.settings.showArrows = true :=
    ⟨_, _, _, rfl, rfl, rfl, by decide, rfl, rfl, rfl, rfl, rfl, rfl⟩
  have wasPlaced : deck.WasPlaced := .of_run made ran
  rcases equal_shares_overflow wasPlaced equal with ⟨-, wanted, -, arrows⟩
  refine ⟨deck, wasPlaced, equal, suffice, width, share, ?_, arrows.mpr ⟨shows, ?_⟩⟩
  · rw [wanted suffice, share, padding, insets, count]
  · omega

/-- Two tabs that need 45 columns each overflow a deck of 200, where shares are 100. -/
theorem ample_shares_do_not_fit :
    ∃ deck : Deck FixedAdvance DemoPanes,
      deck.WasPlaced ∧ deck.settings = { equalWidths := true } ∧ deck.tabs.length = 2 ∧
      deck.bounds = ⟨⟨0, 0⟩, ⟨200, 100⟩⟩ ∧ deck.equalShare = 100 ∧ deck.SharesSuffice ∧
      deck.overflows = true ∧ deck.visibleArrows.isSome = true := by
  obtain ⟨start, deck, answers, made, ran, found⟩ :
      ∃ start deck : Deck FixedAdvance DemoPanes, ∃ answers,
        ofCaptions 8 (List.replicate 2 (.image ⟨0, ⟨40, 10⟩⟩)) ⟨6, 7, 10⟩ {}
          { equalWidths := true } = .ok start ∧
        start.run [.placeAt ⟨⟨0, 0⟩, ⟨200, 100⟩⟩] = .ok (answers, deck) ∧
        deck.settings = { equalWidths := true } ∧ deck.tabs.length = 2 ∧
        deck.bounds = ⟨⟨0, 0⟩, ⟨200, 100⟩⟩ ∧ deck.equalShare = 100 ∧ deck.SharesSuffice ∧
        deck.overflows = true ∧ deck.visibleArrows.isSome = true :=
    ⟨_, _, _, rfl, rfl, rfl, rfl, rfl, rfl, by decide, by decide, rfl⟩
  exact ⟨deck, .of_run made ran, found⟩

end Deck

end TabDeck
