import TabDeck.Proofs.StripView

/-!
# The ends of a strip that overflows

A strip that overflows is shifted so that no gap opens at its right end: its last column is at the
limit or beyond. At its left end there is no gap either, provided that the strip reached the limit
before it was shifted, and that the tabs before the active one have the columns of the peek. The
insets can deny the first, since they count among what the strip wants but no tab is moved or
widened by them; tabs narrower than the peek deny the second.
-/

namespace TabDeck

namespace Deck

variable {μ σ : Type}

/-- The last tab has its last column where the strip is to end, or right of there. -/
def EndsAtLimit (deck : Deck μ σ) : Prop :=
  ∃ rect, deck.tabRect (deck.tabs.length - 1) = some rect ∧
    deck.bounds.origin.x + deck.shiftLimit ≤ rect.right - 1

/-- The strip is not shifted to the right, and for the first tab not at all. -/
structure BeginsInPlace (deck : Deck μ σ) : Prop where
  leftward : deck.shift ≤ 0
  unmoved : deck.active = some 0 → deck.shift = 0
  /-- The first tab is not shown right of where it was placed. -/
  first : ∀ placed shown, deck.placed[0]? = some placed → deck.tabRect 0 = some shown →
    shown.origin.x ≤ deck.bounds.origin.x + placed.origin.x

theorem tabRect_of_placed {deck : Deck μ σ} {index : Nat} {placed : Rect}
    (present : deck.placed[index]? = some placed) :
    deck.tabRect index =
      some ((placed.shiftBy ⟨deck.shift, 0⟩).shiftBy deck.bounds.origin) := by
  simp [tabRect, stripRects, present]

/-- Where the first tab is shown is a matter of the shift. -/
theorem beginsInPlace_iff {deck : Deck μ σ} {active : Nat} (isActive : deck.active = some active) :
    deck.BeginsInPlace ↔ deck.shift ≤ 0 ∧ (active = 0 → deck.shift = 0) := by
  have first : deck.active = some 0 ↔ active = 0 := by rw [isActive, Option.some.injEq]
  constructor
  · intro begins
    exact ⟨begins.leftward, fun isFirst => begins.unmoved (first.mpr isFirst)⟩
  · rintro ⟨leftward, unmoved⟩
    refine ⟨leftward, fun isFirst => unmoved (first.mp isFirst), fun placed shown present => ?_⟩
    rw [tabRect_of_placed present, Option.some.injEq]
    rintro rfl
    simp only [Rect.shiftBy_origin, Point.add_x]
    omega

variable [FontMetrics μ] {deck : Deck μ σ}

section Ends

variable {active : Nat} {tab : TabMeasure}
  (follows : deck.geometry.Follows deck.capacity deck.inputs)
  (isActive : deck.active = some active) (overflowing : deck.overflows = true)

include follows isActive overflowing

/-- The last column of the last tab moves with the shift. -/
theorem endsAtLimit_iff :
    deck.EndsAtLimit ↔ deck.shiftLimit ≤ deck.unshiftedEnd + deck.shift := by
  have length := length_placed_of_follows follows
  have several := (overflows_of_follows follows).mp overflowing
  have nonempty : deck.placed ≠ [] := List.ne_nil_of_length_pos (by omega)
  rcases Option.isSome_iff_exists.mp (List.getLast?_isSome.mpr nonempty) with ⟨last, isLast⟩
  have ends := right_of_getLast? follows isActive isLast
  rw [List.getLast?_eq_getElem?, length] at isLast
  simp only [EndsAtLimit, tabRect_of_placed isLast, Option.some.injEq, exists_eq_left', Rect.right,
    Rect.shiftBy_origin, Rect.shiftBy_size, Point.add_x] at ends ⊢
  omega

variable (present : deck.strip.tabs[active]? = some tab)

include present

theorem endsAtLimit_of_overflow : deck.EndsAtLimit := by
  rw [endsAtLimit_iff follows isActive overflowing,
    shift_eq follows isActive present overflowing]
  split
  · omega
  · omega

theorem beginsInPlace_of_overflow :
    deck.BeginsInPlace ↔ deck.shiftLimit ≤ deck.unshiftedEnd ∧
      (active = 0 ∨ active + 1 = deck.tabs.length ∨
        deck.peek ≤ Strip.advance ((Strip.unselectedWidths deck.strip.tabs).take active)) := by
  have several := (overflows_of_follows follows).mp overflowing
  have shift := shift_eq follows isActive present overflowing
  rw [beginsInPlace_iff isActive]
  generalize deck.shift = shift at shift ⊢
  rcases Nat.eq_zero_or_pos active with rfl | later
  · rw [leadIn_zero] at shift
    split at shift <;> omega
  · rw [leadIn_of_pos later] at shift
    generalize Strip.advance ((Strip.unselectedWidths deck.strip.tabs).take active) = before
      at shift ⊢
    generalize deck.peek = peek at shift ⊢
    split at shift <;> omega

end Ends

section Bare

variable (follows : deck.geometry.Follows deck.capacity deck.inputs)
  (fits : ∀ tab ∈ deck.strip.tabs, (tab.selected.size.width : Int) ≤ Word.maxSigned)

include follows fits

theorem unselected_fits :
    ∀ tab ∈ deck.strip.tabs, (tab.unselected.size.width : Int) ≤ Word.maxSigned := by
  intro tab isTab
  have grows := (sound_of_follows follows tab isTab).grows
  have narrow := fits tab isTab
  omega

theorem fits_of_mem_set {active : Nat} {tab : TabMeasure}
    (present : deck.strip.tabs[active]? = some tab) :
    ∀ width ∈ (Strip.unselectedWidths deck.strip.tabs).set active tab.selected.size.width,
      (width : Int) ≤ Word.maxSigned := by
  intro width member
  rcases List.mem_or_eq_of_mem_set member with unselected | rfl
  · exact (measured_of_unselected follows (unselected_fits follows fits) unselected).2
  · exact fits tab (List.mem_of_getElem? present)

/-- Before it is shifted, a strip ends where its tabs have what they want, the insets left out. -/
theorem unshiftedEnd_eq {active : Nat} {tab : TabMeasure} (isActive : deck.active = some active)
    (present : deck.strip.tabs[active]? = some tab) :
    deck.unshiftedEnd = deck.strip.wantedWidth (some active) 0 + 1 := by
  rw [unshiftedEnd, widthsOf_placed follows isActive present,
    Strip.advance_eq (Strip.two_le_of_mem_set (sound_of_follows follows) present)
      (fits_of_mem_set follows fits present),
    Strip.columns_place (sound_of_follows follows) present]
  omega

/-- The tabs before a tab take at least what the first one does. -/
theorem le_advance_of_first {first : TabMeasure} (isFirst : deck.strip.tabs[0]? = some first)
    {active : Nat} (later : 0 < active) :
    (first.unselected.size.width : Int) - 1 ≤
      Strip.advance ((Strip.unselectedWidths deck.strip.tabs).take active) := by
  have measured : ∀ width ∈ (Strip.unselectedWidths deck.strip.tabs).take active,
      2 ≤ width ∧ (width : Int) ≤ Word.maxSigned := fun width member =>
    measured_of_unselected follows (unselected_fits follows fits) (List.mem_of_mem_take member)
  have present : ((Strip.unselectedWidths deck.strip.tabs).take active)[0]? =
      some first.unselected.size.width := by
    simp [Strip.unselectedWidths, later, isFirst]
  have total := Strip.columns_split present
  rw [Strip.advance_eq (fun width member => (measured width member).1)
    fun width member => (measured width member).2]
  omega

end Bare

variable [PaneHost σ]

/-- A strip that overflows leaves no gap at its right end, and none at its left end exactly if it
reaches the limit before it is shifted and the tabs before the active one have room for the peek,
where there is one. -/
theorem strip_ends_without_gap_iff (wasPlaced : deck.WasPlaced)
    (overflowing : deck.overflows = true) {active : Nat} (isActive : deck.active = some active) :
    deck.EndsAtLimit ∧
      (deck.BeginsInPlace ↔ deck.shiftLimit ≤ deck.unshiftedEnd ∧
        (active = 0 ∨ active + 1 = deck.tabs.length ∨
          deck.peek ≤ Strip.advance ((Strip.unselectedWidths deck.strip.tabs).take active))) := by
  have follows := wasPlaced.follows
  rcases wasPlaced.active with ⟨active', tab, isActive', present⟩
  rw [isActive, Option.some.injEq] at isActive'
  subst isActive'
  exact ⟨endsAtLimit_of_overflow follows isActive overflowing present,
    beginsInPlace_of_overflow follows isActive overflowing present⟩

/-- Without insets, and with a first tab that is wider than the peek, there is no gap at all. -/
theorem no_gap_without_insets (wasPlaced : deck.WasPlaced) (overflowing : deck.overflows = true)
    (fits : ∀ tab ∈ deck.strip.tabs, (tab.selected.size.width : Int) ≤ Word.maxSigned)
    (limit : deck.shiftLimit ≤ deck.bounds.size.width)
    (bare : deck.settings.insets.horizontal = 0) {first : TabMeasure}
    (isFirst : deck.strip.tabs[0]? = some first)
    (wider : deck.peek < first.unselected.size.width) :
    deck.EndsAtLimit ∧ deck.BeginsInPlace := by
  have follows := wasPlaced.follows
  rcases wasPlaced.active with ⟨active, tab, isActive, present⟩
  refine ⟨endsAtLimit_of_overflow follows isActive overflowing present, ?_⟩
  rw [beginsInPlace_of_overflow follows isActive overflowing present]
  constructor
  · have wants := ((overflows_of_follows follows).mp overflowing).2
    rw [wantedWidth, bare, isActive] at wants
    rw [unshiftedEnd_eq follows fits isActive present]
    omega
  · rcases Nat.eq_zero_or_pos active with isZero | later
    · exact .inl isZero
    · have room := le_advance_of_first follows fits isFirst later
      exact .inr (.inr (by omega))

/-! ## Strips with and without a gap -/

/-- With three wide tabs and the second one active there is no gap. -/
theorem middle_tab_without_gap :
    ∃ deck : Deck FixedAdvance DemoPanes,
      deck.WasPlaced ∧ deck.overflows = true ∧ deck.active = some 1 ∧ deck.shift = -37 ∧
      deck.EndsAtLimit ∧ deck.BeginsInPlace := by
  obtain ⟨start, deck, answers, made, ran, overflowing, isActive, shift, reaches, room⟩ :
      ∃ start deck : Deck FixedAdvance DemoPanes, ∃ answers,
        ofCaptions 8 wideImages ⟨6, 7, 10⟩ {} {} = .ok start ∧
        start.run [.placeAt ⟨⟨0, 0⟩, ⟨100, 100⟩⟩, .select 1] = .ok (answers, deck) ∧
        deck.overflows = true ∧ deck.active = some 1 ∧ deck.shift = -37 ∧
        deck.shiftLimit ≤ deck.unshiftedEnd ∧
        deck.peek ≤ Strip.advance ((Strip.unselectedWidths deck.strip.tabs).take 1) :=
    ⟨_, _, _, rfl, rfl, by decide, rfl, by decide, by decide, by decide⟩
  have wasPlaced : deck.WasPlaced := .of_run made ran
  rcases strip_ends_without_gap_iff wasPlaced overflowing isActive with ⟨ends, begins⟩
  exact ⟨deck, wasPlaced, overflowing, isActive, shift, ends,
    begins.mpr ⟨reaches, .inr (.inr room)⟩⟩

/-- Three images, the first of which is narrower than the peek. -/
def narrowFirst : List Caption := .image ⟨0, ⟨1, 10⟩⟩ :: List.replicate 2 (.image ⟨0, ⟨40, 10⟩⟩)

/-- A peek at a narrow tab opens a gap, and so do insets around a strip that would fit. -/
theorem gap_before_first_tab :
    (∃ deck : Deck FixedAdvance DemoPanes,
      deck.WasPlaced ∧ deck.overflows = true ∧ deck.active = some 1 ∧ deck.settings = {} ∧
      deck.shift = 2 ∧ deck.tabRect 0 = some ⟨⟨3, 2⟩, ⟨5, 12⟩⟩ ∧ ¬ deck.BeginsInPlace) ∧
    ∃ deck : Deck FixedAdvance DemoPanes,
      deck.WasPlaced ∧ deck.overflows = true ∧ deck.active = some 0 ∧
      deck.settings = { insets := ⟨0, 50, 0, 50⟩ } ∧ deck.shift = 55 ∧ ¬ deck.BeginsInPlace := by
  constructor
  · obtain ⟨start, deck, answers, made, ran, overflowing, isActive, settings, shift, shown⟩ :
        ∃ start deck : Deck FixedAdvance DemoPanes, ∃ answers,
          ofCaptions 8 narrowFirst ⟨6, 7, 10⟩ {} {} = .ok start ∧
          start.run [.placeAt ⟨⟨0, 0⟩, ⟨60, 100⟩⟩, .select 1] = .ok (answers, deck) ∧
          deck.overflows = true ∧ deck.active = some 1 ∧ deck.settings = {} ∧ deck.shift = 2 ∧
          deck.tabRect 0 = some ⟨⟨3, 2⟩, ⟨5, 12⟩⟩ :=
      ⟨_, _, _, rfl, rfl, by decide, rfl, rfl, by decide, by decide⟩
    have wasPlaced : deck.WasPlaced := .of_run made ran
    refine ⟨deck, wasPlaced, overflowing, isActive, settings, shift, shown, fun begins => ?_⟩
    have leftward := begins.leftward
    omega
  · obtain ⟨start, deck, answers, made, ran, overflowing, isActive, settings, shift⟩ :
        ∃ start deck : Deck FixedAdvance DemoPanes, ∃ answers,
          ofCaptions 8 wideImages ⟨6, 7, 10⟩ {} { insets := ⟨0, 50, 0, 50⟩ } = .ok start ∧
          start.run [.placeAt ⟨⟨0, 0⟩, ⟨200, 100⟩⟩] = .ok (answers, deck) ∧
          deck.overflows = true ∧ deck.active = some 0 ∧
          deck.settings = { insets := ⟨0, 50, 0, 50⟩ } ∧ deck.shift = 55 :=
      ⟨_, _, _, rfl, rfl, by decide, rfl, rfl, by decide⟩
    have wasPlaced : deck.WasPlaced := .of_run made ran
    refine ⟨deck, wasPlaced, overflowing, isActive, settings, shift, fun begins => ?_⟩
    have leftward := begins.leftward
    omega

end Deck

end TabDeck
