import TabDeck.Proofs.StripColumns

/-!
# What can be seen of a strip

A strip that does not overflow is not shifted, and its tabs are all within the deck if two more
columns are left than the strip wants: the first column, in which no tab begins, and the last one,
which the last tab does not share. A strip that overflows is shifted so that the active tab is left
of the column from which on captions are hidden. It then is, save for the last column of the last
tab when there are arrows.
-/

namespace TabDeck

namespace Deck

variable {μ σ : Type}

/-- Every tab has a rectangle within the columns of the deck. -/
def HoldsTabs (deck : Deck μ σ) : Prop :=
  ∀ index < deck.tabs.length, ∃ rect, deck.tabRect index = some rect ∧
    rect.InColumns deck.bounds.origin.x (deck.bounds.origin.x + deck.bounds.size.width)

variable [FontMetrics μ] {deck : Deck μ σ}

theorem shift_of_fits (follows : deck.geometry.Follows deck.capacity deck.inputs)
    (fits : deck.overflows = false) : deck.shift = 0 := by
  have overflows : deck.geometry.overflows = false := fits
  have shift : deck.shift = deck.geometry.shiftFor deck.inputs := follows.arranges.shift
  rw [shift, StripGeometry.shiftFor, overflows]
  split <;> rfl

/-- The tabs of an unshifted strip are within the deck if the last one is. -/
theorem holdsTabs_iff_of_unshifted (follows : deck.geometry.Follows deck.capacity deck.inputs)
    {active : Nat} (isActive : deck.active = some active) (unshifted : deck.shift = 0)
    (wide : ∀ width ∈ Strip.widthsOf deck.placed, 2 ≤ width)
    (fits : ∀ width ∈ Strip.widthsOf deck.placed, (width : Int) ≤ Word.maxSigned)
    (nonempty : 0 < deck.tabs.length) :
    deck.HoldsTabs ↔ Strip.columns (Strip.widthsOf deck.placed) + 2 ≤ deck.bounds.size.width := by
  have length : (Strip.widthsOf deck.placed).length = deck.tabs.length := by
    rw [Strip.length_widthsOf, length_placed_of_follows follows]
  have begins : ∀ index < deck.tabs.length, ∃ rect, deck.tabRect index = some rect ∧
      (Strip.widthsOf deck.placed)[index]? = some rect.size.width ∧
      rect.origin.x = deck.bounds.origin.x + 1 +
        Strip.columns ((Strip.widthsOf deck.placed).take index) := by
    intro index inRange
    rcases tabRect_of_follows follows isActive inRange with ⟨rect, isShown, width, column⟩
    have exactly : Strip.advance ((Strip.widthsOf deck.placed).take index) =
        Strip.columns ((Strip.widthsOf deck.placed).take index) :=
      Strip.advance_eq (fun _ member => wide _ (List.mem_of_mem_take member))
        fun _ member => fits _ (List.mem_of_mem_take member)
    rw [exactly, unshifted] at column
    exact ⟨rect, isShown, width, by omega⟩
  constructor
  · intro holds
    have inRange : deck.tabs.length - 1 < deck.tabs.length := by omega
    rcases begins _ inRange with ⟨rect, isShown, width, column⟩
    rcases holds _ inRange with ⟨same, isSame, -, within⟩
    rw [isShown, Option.some.injEq] at isSame
    subst isSame
    have total := Strip.columns_split width
    have ownColumn := wide _ (List.mem_of_getElem? width)
    have behind : (Strip.widthsOf deck.placed).drop (deck.tabs.length - 1 + 1) = [] := by
      apply List.drop_eq_nil_of_le
      omega
    rw [behind, Strip.columns_nil] at total
    omega
  · intro room index inRange
    rcases begins index inRange with ⟨rect, isShown, width, column⟩
    have total := Strip.columns_split width
    have ownColumn := wide _ (List.mem_of_getElem? width)
    refine ⟨rect, isShown, ?_, ?_⟩ <;> omega

variable [PaneHost σ]

/-- A strip that does not overflow is within its deck exactly if two columns are left besides those
that the tabs want. -/
theorem strip_held_iff (wasPlaced : deck.WasPlaced) (several : 1 < deck.tabs.length)
    (inRange : (deck.bounds.size.width : Int) ≤ Word.maxSigned)
    (fits : deck.overflows = false) :
    deck.HoldsTabs ↔ deck.strip.wantedWidth deck.active 0 + 2 ≤ deck.bounds.size.width := by
  have follows := wasPlaced.follows
  rcases wasPlaced.active with ⟨active, tab, isActive, present⟩
  have sound := sound_of_follows follows
  have widths := widthsOf_placed follows isActive present
  have wide := Strip.two_le_of_mem_set sound present
  have total := Strip.columns_place sound present
  rw [← widths] at wide total
  have room : deck.strip.wantedWidth (some active) 0 ≤ deck.bounds.size.width := by
    have overflowing := overflows_of_follows follows
    have wanted : deck.wantedWidth = deck.strip.wantedWidth deck.active _ := rfl
    rw [wanted, isActive, Strip.wantedWidth_eq present] at overflowing
    rw [Strip.wantedWidth_eq present]
    simp only [fits, several, true_and, false_iff, Bool.false_eq_true] at overflowing
    omega
  have length : (Strip.widthsOf deck.placed).length = deck.tabs.length := by
    rw [Strip.length_widthsOf, length_placed_of_follows follows]
  rw [isActive, ← total]
  apply holdsTabs_iff_of_unshifted follows isActive (shift_of_fits follows fits) wide
  · intro width member
    have reach := Strip.le_columns_of_mem wide member
    omega
  · omega

/-- With two columns to spare the whole strip is within the deck. -/
theorem strip_held_with_columns_to_spare :
    ∃ deck : Deck FixedAdvance DemoPanes,
      deck.WasPlaced ∧ 1 < deck.tabs.length ∧
      (deck.bounds.size.width : Int) ≤ Word.maxSigned ∧ deck.overflows = false ∧
      deck.strip.wantedWidth deck.active 0 + 2 = deck.bounds.size.width ∧ deck.HoldsTabs := by
  obtain ⟨start, deck, answers, made, ran, several, inRange, fits, spare⟩ :
      ∃ start deck : Deck FixedAdvance DemoPanes, ∃ answers,
        ofCaptions 8 wideImages ⟨6, 7, 10⟩ {} {} = .ok start ∧
        start.run [.placeAt ⟨⟨0, 0⟩, ⟨132, 100⟩⟩] = .ok (answers, deck) ∧
        1 < deck.tabs.length ∧ (deck.bounds.size.width : Int) ≤ Word.maxSigned ∧
        deck.overflows = false ∧
        deck.strip.wantedWidth deck.active 0 + 2 = deck.bounds.size.width :=
    ⟨_, _, _, rfl, rfl, by decide, by decide, by decide, by decide⟩
  have wasPlaced : deck.WasPlaced :=
    ⟨_, _, _, _, _, start, _, made, ⟨answers, ran⟩, _, List.mem_cons_self⟩
  have held := strip_held_iff wasPlaced several inRange fits
  exact ⟨deck, wasPlaced, several, inRange, fits, spare, held.mpr (Nat.le_of_eq spare)⟩

/-- A strip that takes exactly what its deck has does not overflow, and its last tab is cut off. -/
theorem last_tab_cut_off :
    ∃ deck : Deck FixedAdvance DemoPanes,
      deck.WasPlaced ∧ deck.tabs.length = 3 ∧ deck.overflows = false ∧
      deck.bounds = ⟨⟨0, 0⟩, ⟨130, 100⟩⟩ ∧ deck.tabRect 2 = some ⟨⟨88, 2⟩, ⟨44, 12⟩⟩ ∧
      ¬ deck.HoldsTabs := by
  obtain ⟨start, deck, answers, made, ran, count, fits, bounds, shown⟩ :
      ∃ start deck : Deck FixedAdvance DemoPanes, ∃ answers,
        ofCaptions 8 wideImages ⟨6, 7, 10⟩ {} {} = .ok start ∧
        start.run [.placeAt ⟨⟨0, 0⟩, ⟨130, 100⟩⟩] = .ok (answers, deck) ∧
        deck.tabs.length = 3 ∧ deck.overflows = false ∧ deck.bounds = ⟨⟨0, 0⟩, ⟨130, 100⟩⟩ ∧
        deck.tabRect 2 = some ⟨⟨88, 2⟩, ⟨44, 12⟩⟩ :=
    ⟨_, _, _, rfl, rfl, by decide, by decide, by decide, by decide⟩
  have wasPlaced : deck.WasPlaced :=
    ⟨_, _, _, _, _, start, _, made, ⟨answers, ran⟩, _, List.mem_cons_self⟩
  refine ⟨deck, wasPlaced, count, fits, bounds, shown, fun held => ?_⟩
  rcases held 2 (by omega) with ⟨rect, isShown, -, within⟩
  rw [shown, Option.some.injEq] at isShown
  rw [← isShown, bounds] at within
  exact absurd within (by decide)

end Deck

/-! ## The active tab of a strip that overflows -/

/-- How a strip is shifted for a tab, in terms of the last column of all tabs. -/
theorem stripShift_eq {tab : Nat} {placed : List Rect} {last : Rect}
    (unselectedWidths : List Nat) (limit peek : Int) (several : 1 < placed.length)
    (inRange : tab < placed.length) (isLast : placed.getLast? = some last) {shift : Int}
    (shown : shift = if tab = 0 then 0 else peek - Strip.advance (unselectedWidths.take tab)) :
    stripShift tab placed unselectedWidths limit peek =
      if last.right - 1 + shift < limit ∨ tab = placed.length - 1 then limit - (last.right - 1)
      else shift := by
  have shiftable : ¬(placed.length < 2 ∨ placed.length ≤ tab) := by omega
  simp only [stripShift, if_neg shiftable, isLast]
  rw [Strip.advance] at shown
  rw [← shown]
  split
  · omega
  · rfl

namespace Deck

variable {μ σ : Type}

/-- The column in which an overflowing strip is to end. -/
def shiftLimit (deck : Deck μ σ) : Int :=
  match deck.arrows with
  | some arrows => arrows.limit
  | none => Word.signed deck.bounds.size.width - 1

/-- The last column of a strip that is not shifted. -/
def unshiftedEnd (deck : Deck μ σ) : Int := 1 + Strip.advance (Strip.widthsOf deck.placed)

/-- The columns of the tab before the active one that are to stay visible. -/
def peek (deck : Deck μ σ) : Int := Word.signed (7 * deck.strip.lineHeight / 11 : Nat)

/-- The shift that leaves a peek at the tab before a tab. The first tab needs none. -/
def leadIn (deck : Deck μ σ) (index : Nat) : Int :=
  if index = 0 then 0
  else deck.peek - Strip.advance ((Strip.unselectedWidths deck.strip.tabs).take index)

@[simp] theorem leadIn_zero (deck : Deck μ σ) : deck.leadIn 0 = 0 := rfl

theorem leadIn_of_pos {deck : Deck μ σ} {index : Nat} (later : 0 < index) :
    deck.leadIn index =
      deck.peek - Strip.advance ((Strip.unselectedWidths deck.strip.tabs).take index) :=
  if_neg (Nat.ne_of_gt later)

theorem stripLimit_of_arrows {deck : Deck μ σ} (arrows : deck.arrows.isSome = true) :
    deck.stripLimit = deck.shiftLimit := by
  rcases Option.isSome_iff_exists.mp arrows with ⟨shown, isShown⟩
  simp only [stripLimit, shiftLimit, isShown]

theorem stripLimit_of_bare {deck : Deck μ σ} (bare : deck.arrows.isSome = false) :
    deck.stripLimit = deck.shiftLimit + 1 := by
  simp only [Option.isSome_eq_false_iff, Option.isNone_iff_eq_none] at bare
  simp [stripLimit, shiftLimit, bare]

variable [FontMetrics μ] {deck : Deck μ σ}

theorem right_of_getLast? (follows : deck.geometry.Follows deck.capacity deck.inputs)
    {active : Nat} (isActive : deck.active = some active) {last : Rect}
    (isLast : deck.placed.getLast? = some last) :
    last.right - 1 = deck.unshiftedEnd := by
  have placed := placed_of_follows follows isActive
  rw [unshiftedEnd]
  rw [placed] at isLast ⊢
  exact Strip.right_of_getLast? isLast

section Active

variable {active : Nat} {tab : TabMeasure}
  (follows : deck.geometry.Follows deck.capacity deck.inputs)
  (isActive : deck.active = some active) (present : deck.strip.tabs[active]? = some tab)
  (overflowing : deck.overflows = true)

include follows isActive overflowing

theorem shift_of_overflow :
    deck.shift = stripShift active deck.placed (Strip.unselectedWidths deck.strip.tabs)
      deck.shiftLimit (Word.signed (7 * deck.strip.lineHeight / 11 : Nat)) := by
  have overflows : deck.geometry.overflows = true := overflowing
  have active : deck.inputs.active = some active := isActive
  have shift : deck.shift = deck.geometry.shiftFor deck.inputs := follows.arranges.shift
  rw [shift, StripGeometry.shiftFor, overflows, active]
  rfl

include present

/-- The shift is the one that leaves the peek, or the one with which the strip ends where it is
to. -/
theorem shift_eq :
    deck.shift =
      if deck.unshiftedEnd + deck.leadIn active < deck.shiftLimit ∨
          active + 1 = deck.tabs.length then
        deck.shiftLimit - deck.unshiftedEnd
      else deck.leadIn active := by
  have length := length_placed_of_follows follows
  have several := (overflows_of_follows follows).mp overflowing
  have isTab := (List.getElem?_eq_some_iff.mp present).1
  have sameLength := Measured.length_tabs follows.measures
  have nonempty : deck.placed ≠ [] := List.ne_nil_of_length_pos (by omega)
  rcases Option.isSome_iff_exists.mp (List.getLast?_isSome.mpr nonempty) with ⟨last, isLast⟩
  have lastTab : active = deck.placed.length - 1 ↔ active + 1 = deck.tabs.length := by omega
  rw [shift_of_overflow follows isActive overflowing,
    stripShift_eq _ _ _ (by omega) (by omega) isLast rfl, right_of_getLast? follows isActive isLast]
  simp only [lastTab]
  rfl

/-- Either the strip ends where it is to, with the tabs behind the active one before that, or it is
not pulled back and the active tab begins where the peek at the tab before it ends. -/
theorem column_of_active (narrow : (tab.selected.size.width : Int) ≤ Word.maxSigned)
    {column : Int}
    (begins : column = 1 + Strip.advance ((Strip.widthsOf deck.placed).take active) + deck.shift) :
    (column + tab.selected.size.width = deck.shiftLimit + 1 -
        Strip.advance ((Strip.unselectedWidths deck.strip.tabs).drop (active + 1)) ∧
      (active + 1 = deck.tabs.length ∨ 1 ≤ column ∨ 1 + deck.peek ≤ column)) ∨
    active + 1 < deck.tabs.length ∧ (column = 1 ∨ column = 1 + deck.peek) := by
  have isTab := (List.getElem?_eq_some_iff.mp present).1
  have sameLength := Measured.length_tabs follows.measures
  rw [shift_eq follows isActive present overflowing, unshiftedEnd,
    widthsOf_placed follows isActive present, List.take_set_of_le (Nat.le_refl active),
    Strip.advance_set (by rwa [Strip.length_unselectedWidths]), Word.signed_ofNat narrow] at begins
  have unpulled : 1 + Strip.advance ((Strip.unselectedWidths deck.strip.tabs).take active) +
        deck.leadIn active = 1 ∨
      1 + Strip.advance ((Strip.unselectedWidths deck.strip.tabs).take active) +
        deck.leadIn active = 1 + deck.peek := by
    by_cases first : active = 0
    · simp [first]
    · rw [leadIn_of_pos (Nat.pos_of_ne_zero first)]
      omega
  generalize Strip.advance ((Strip.unselectedWidths deck.strip.tabs).take active) = before
    at begins unpulled
  generalize deck.leadIn active = shift at begins unpulled
  generalize deck.peek = peek at unpulled ⊢
  generalize Strip.advance ((Strip.unselectedWidths deck.strip.tabs).drop (active + 1)) = behind
    at begins ⊢
  split at begins
  · next pulled =>
    refine .inl ⟨by omega, ?_⟩
    rcases pulled with gap | last
    · omega
    · omega
  · next stays =>
    refine .inr ⟨by omega, ?_⟩
    omega

end Active

theorem measured_of_unselected (follows : deck.geometry.Follows deck.capacity deck.inputs)
    (fits : ∀ tab ∈ deck.strip.tabs, (tab.unselected.size.width : Int) ≤ Word.maxSigned)
    {width : Nat} (member : width ∈ Strip.unselectedWidths deck.strip.tabs) :
    2 ≤ width ∧ (width : Int) ≤ Word.maxSigned := by
  rcases List.mem_map.mp member with ⟨tab, isTab, rfl⟩
  exact ⟨(sound_of_follows follows tab isTab).wide, fits tab isTab⟩

/-- Behind the last tab there is nothing, and any other tab has a column at least behind it. -/
theorem advance_behind (follows : deck.geometry.Follows deck.capacity deck.inputs)
    (fits : ∀ tab ∈ deck.strip.tabs, (tab.unselected.size.width : Int) ≤ Word.maxSigned)
    (active : Nat) :
    (deck.tabs.length ≤ active + 1 →
      Strip.advance ((Strip.unselectedWidths deck.strip.tabs).drop (active + 1)) = 0) ∧
    (active + 1 < deck.tabs.length →
      1 ≤ Strip.advance ((Strip.unselectedWidths deck.strip.tabs).drop (active + 1))) := by
  have sameLength := Measured.length_tabs follows.measures
  have length : (Strip.unselectedWidths deck.strip.tabs).length = deck.tabs.length := by
    rw [Strip.length_unselectedWidths, sameLength]
  constructor
  · intro last
    rw [List.drop_eq_nil_of_le (by omega), Strip.advance_nil]
  · intro earlier
    have measured : ∀ width ∈ (Strip.unselectedWidths deck.strip.tabs).drop (active + 1),
        2 ≤ width ∧ (width : Int) ≤ Word.maxSigned :=
      fun width member => measured_of_unselected follows fits (List.mem_of_mem_drop member)
    have wide := Strip.length_le_columns fun width member => (measured width member).1
    rw [Strip.advance_eq (fun width member => (measured width member).1)
      fun width member => (measured width member).2]
    rw [List.length_drop] at wide
    omega

variable [PaneHost σ]

/-- The active tab of a strip that overflows is seen as a whole if there is room for it and for the
peek, unless it is the last tab and there are arrows. -/
theorem active_tab_seen_iff (wasPlaced : deck.WasPlaced) (overflowing : deck.overflows = true)
    (fits : ∀ tab ∈ deck.strip.tabs, (tab.unselected.size.width : Int) ≤ Word.maxSigned)
    (inRange : deck.stripLimit ≤ Word.maxSigned) {active : Nat} {tab : TabMeasure}
    (isActive : deck.active = some active) (present : deck.strip.tabs[active]? = some tab)
    (room : ((tab.selected.size.width + 7 * deck.strip.lineHeight / 11 + 1 : Nat) : Int) ≤
      deck.captionLimit - deck.bounds.origin.x) :
    ∃ rect, deck.tabRect active = some rect ∧
      (rect.InColumns deck.bounds.origin.x deck.captionLimit ↔
        ¬(deck.arrows.isSome = true ∧ active + 1 = deck.tabs.length)) := by
  have follows := wasPlaced.follows
  have sameLength := Measured.length_tabs follows.measures
  have isTab := (List.getElem?_eq_some_iff.mp present).1
  have inDeck : active < deck.tabs.length := by omega
  simp only [captionLimit] at room ⊢
  rcases tabRect_of_follows follows isActive inDeck with ⟨rect, isShown, width, begins⟩
  have narrow : (tab.selected.size.width : Int) ≤ Word.maxSigned := by omega
  have peek : ((7 * deck.strip.lineHeight / 11 : Nat) : Int) ≤ Word.maxSigned := by omega
  have column := column_of_active follows isActive present overflowing narrow rfl
  rw [Deck.peek, Word.signed_ofNat peek] at column
  have selected : rect.size.width = tab.selected.size.width := by
    rw [widthsOf_placed follows isActive present, List.getElem?_set_self
      (by rwa [Strip.length_unselectedWidths]), Option.some.injEq] at width
    exact width.symm
  rcases advance_behind follows fits active with ⟨behindLast, behindEarlier⟩
  refine ⟨rect, isShown, ?_⟩
  rw [Rect.InColumns, selected, begins]
  generalize 1 + Strip.advance ((Strip.widthsOf deck.placed).take active) + deck.shift = shown
    at column ⊢
  cases arrows : deck.arrows.isSome with
  | true =>
    have limit := stripLimit_of_arrows arrows
    simp only [true_and]
    constructor
    · intro seen last
      have behind := behindLast (by omega)
      omega
    · intro notLast
      have behind := behindEarlier (by omega)
      omega
  | false =>
    have limit := stripLimit_of_bare arrows
    simp only [Bool.false_eq_true, false_and, not_false_eq_true, iff_true]
    by_cases last : active + 1 = deck.tabs.length
    · have behind := behindLast (by omega)
      omega
    · have behind := behindEarlier (by omega)
      omega

/-- The middle one of three tabs is seen beside the arrows. -/
theorem middle_tab_seen :
    ∃ deck : Deck FixedAdvance DemoPanes, ∃ tab rect,
      deck.WasPlaced ∧ deck.overflows = true ∧
      (∀ tab ∈ deck.strip.tabs, (tab.unselected.size.width : Int) ≤ Word.maxSigned) ∧
      deck.stripLimit ≤ Word.maxSigned ∧ deck.active = some 1 ∧
      deck.strip.tabs[1]? = some tab ∧
      ((tab.selected.size.width + 7 * deck.strip.lineHeight / 11 + 1 : Nat) : Int) ≤
        deck.captionLimit - deck.bounds.origin.x ∧
      deck.arrows.isSome = true ∧ deck.tabRect 1 = some rect ∧
      rect.InColumns deck.bounds.origin.x deck.captionLimit := by
  obtain ⟨start, deck, tab, answers, made, ran, overflowing, fits, inRange, isActive, present, room,
      arrows, count⟩ :
      ∃ start deck : Deck FixedAdvance DemoPanes, ∃ tab answers,
        ofCaptions 8 wideImages ⟨6, 7, 10⟩ {} {} = .ok start ∧
        start.run [.placeAt ⟨⟨0, 0⟩, ⟨100, 100⟩⟩, .select 1] = .ok (answers, deck) ∧
        deck.overflows = true ∧
        (∀ tab ∈ deck.strip.tabs, (tab.unselected.size.width : Int) ≤ Word.maxSigned) ∧
        deck.stripLimit ≤ Word.maxSigned ∧ deck.active = some 1 ∧
        deck.strip.tabs[1]? = some tab ∧
        ((tab.selected.size.width + 7 * deck.strip.lineHeight / 11 + 1 : Nat) : Int) ≤
          deck.captionLimit - deck.bounds.origin.x ∧
        deck.arrows.isSome = true ∧ deck.tabs.length = 3 :=
    ⟨_, _, _, _, rfl, rfl, by decide, by decide, by decide, by decide, rfl, by decide, by decide,
      by decide⟩
  have wasPlaced : deck.WasPlaced :=
    ⟨_, _, _, _, _, start, _, made, ⟨answers, ran⟩, _, List.mem_cons_self⟩
  rcases active_tab_seen_iff wasPlaced overflowing fits inRange isActive present room with
    ⟨rect, isShown, seen⟩
  refine ⟨deck, tab, rect, wasPlaced, overflowing, fits, inRange, isActive, present, room, arrows,
    isShown, seen.mpr fun last => ?_⟩
  omega

/-- The last one of three tabs reaches into the first column that is hidden beside the arrows. -/
theorem last_tab_hidden_in_part :
    ∃ deck : Deck FixedAdvance DemoPanes, ∃ tab rect,
      deck.WasPlaced ∧ deck.overflows = true ∧ deck.active = some 2 ∧
      deck.strip.tabs[2]? = some tab ∧
      ((tab.selected.size.width + 7 * deck.strip.lineHeight / 11 + 1 : Nat) : Int) ≤
        deck.captionLimit - deck.bounds.origin.x ∧
      deck.captionLimit = 86 ∧ deck.tabRect 2 = some rect ∧ rect = ⟨⟨42, 0⟩, ⟨45, 14⟩⟩ ∧
      ¬ rect.InColumns deck.bounds.origin.x deck.captionLimit := by
  obtain ⟨start, deck, tab, answers, made, ran, overflowing, isActive, present, room, limit, shown,
      hidden⟩ :
      ∃ start deck : Deck FixedAdvance DemoPanes, ∃ tab answers,
        ofCaptions 8 wideImages ⟨6, 7, 10⟩ {} {} = .ok start ∧
        start.run [.placeAt ⟨⟨0, 0⟩, ⟨100, 100⟩⟩, .select 2] = .ok (answers, deck) ∧
        deck.overflows = true ∧ deck.active = some 2 ∧ deck.strip.tabs[2]? = some tab ∧
        ((tab.selected.size.width + 7 * deck.strip.lineHeight / 11 + 1 : Nat) : Int) ≤
          deck.captionLimit - deck.bounds.origin.x ∧
        deck.captionLimit = 86 ∧ deck.tabRect 2 = some ⟨⟨42, 0⟩, ⟨45, 14⟩⟩ ∧
        ¬ Rect.InColumns ⟨⟨42, 0⟩, ⟨45, 14⟩⟩ deck.bounds.origin.x deck.captionLimit :=
    ⟨_, _, _, _, rfl, rfl, by decide, by decide, rfl, by decide, by decide, by decide, by decide⟩
  have wasPlaced : deck.WasPlaced :=
    ⟨_, _, _, _, _, start, _, made, ⟨answers, ran⟩, _, List.mem_cons_self⟩
  exact ⟨deck, tab, _, wasPlaced, overflowing, isActive, present, room, limit, shown, rfl, hidden⟩

end Deck

end TabDeck
