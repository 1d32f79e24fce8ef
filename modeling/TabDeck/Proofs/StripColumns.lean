import Mathlib.Algebra.Group.Int.Defs
import Mathlib.Algebra.Group.Nat.Defs
import TabDeck.Proofs.Totality

/-!
# The columns of a strip

Placed tabs follow one another: each begins in the last column of the one before it. Where a tab
begins is therefore a sum over the widths of the tabs before it (`Strip.advance`), and the width that
a strip wants is such a sum over all tabs. The sums are computed in words, and are exact for widths
that fit.
-/

namespace TabDeck

/-- Every column of the rectangle lies between two columns, the second one excluded. -/
def Rect.InColumns (rect : Rect) (first limit : Int) : Prop :=
  first ≤ rect.origin.x ∧ rect.origin.x + rect.size.width ≤ limit

instance (rect : Rect) (first limit : Int) : Decidable (rect.InColumns first limit) :=
  inferInstanceAs (Decidable (_ ∧ _))

/-- A tab has a column of its own besides the one that it shares, and loses none while it is
active. -/
structure TabMeasure.Sound (tab : TabMeasure) : Prop where
  wide : 2 ≤ tab.unselected.size.width
  grows : tab.unselected.size.width ≤ tab.selected.size.width

theorem StripPolicy.two_le_tabMeasure (policy : StripPolicy) (isText : Bool) (height : Nat)
    (widths : Nat × Nat) : 2 ≤ (policy.tabMeasure isText height widths).unselected.size.width := by
  simp only [tabMeasure]
  split
  · simp [unselectedColumns]
  · simp only [materialColumns]
    split <;> simp

namespace Strip

theorem sound_of_measure {μ : Type} [FontMetrics μ] {capacity : Nat} {captions : List Caption}
    {metrics : μ} {policy : StripPolicy} {strip : Strip}
    (measured : measure capacity captions metrics policy = .ok strip) :
    ∀ tab ∈ strip.tabs, tab.Sound := by
  intro tab member
  refine ⟨?_, unselected_le_selected measured tab member⟩
  simp only [measure, bind_eq_ok, pure_eq_ok] at measured
  rcases measured with ⟨_, _, rfl⟩
  rcases List.mem_map.mp member with ⟨widths, -, rfl⟩
  exact StripPolicy.two_le_tabMeasure ..

/-! ## Sums of widths -/

/-- The columns that tabs of some widths take side by side, but for the last one. -/
def columns (widths : List Nat) : Nat :=
  widths.foldr (fun width columns => width - 1 + columns) 0

/-- The same columns computed in words: how far the tabs lead from where the first one begins. -/
def advance (widths : List Nat) : Int :=
  widths.foldr (fun (width : Nat) columns => Word.signed width - 1 + columns) 0

section Sums

variable {widths : List Nat} {index width : Nat}

@[simp] theorem columns_nil : columns [] = 0 := rfl

@[simp] theorem columns_cons (width : Nat) (rest : List Nat) :
    columns (width :: rest) = width - 1 + columns rest :=
  List.foldr_cons ..

@[simp] theorem advance_nil : advance [] = 0 := rfl

@[simp] theorem advance_cons (width : Nat) (rest : List Nat) :
    advance (width :: rest) = Word.signed width - 1 + advance rest :=
  List.foldr_cons ..

/-- A sum over all tabs, taken apart at one of them. -/
theorem foldr_add_split {M : Type} [AddMonoid M] (weight : Nat → M)
    (present : widths[index]? = some width) :
    widths.foldr (fun width total => weight width + total) 0 =
      (widths.take index).foldr (fun width total => weight width + total) 0 + weight width +
        (widths.drop (index + 1)).foldr (fun width total => weight width + total) 0 := by
  induction widths generalizing index with
  | nil => simp at present
  | cons first rest ih =>
    cases index with
    | zero =>
      simp only [List.getElem?_cons_zero, Option.some.injEq] at present
      simp [present]
    | succ index =>
      simp only [List.getElem?_cons_succ] at present
      simp [ih present, add_assoc]

theorem columns_split (present : widths[index]? = some width) :
    columns widths = columns (widths.take index) + (width - 1) +
      columns (widths.drop (index + 1)) :=
  foldr_add_split (fun width => width - 1) present

theorem columns_set {other : Nat} (present : widths[index]? = some width) (wide : 2 ≤ width)
    (wider : width ≤ other) :
    columns (widths.set index other) = columns widths + (other - width) := by
  rcases List.getElem?_eq_some_iff.mp present with ⟨inRange, -⟩
  rw [columns_split present, columns_split (List.getElem?_set_self inRange),
    List.take_set_of_le (Nat.le_refl index), List.drop_set_of_lt (Nat.lt_add_one index)]
  omega

theorem advance_split (present : widths[index]? = some width) :
    advance widths = advance (widths.take index) + (Word.signed width - 1) +
      advance (widths.drop (index + 1)) :=
  foldr_add_split (fun (width : Nat) => Word.signed width - 1) present

theorem advance_set (inRange : index < widths.length) (width : Nat) :
    advance (widths.set index width) = advance (widths.take index) + (Word.signed width - 1) +
      advance (widths.drop (index + 1)) := by
  rw [advance_split (List.getElem?_set_self inRange), List.take_set_of_le (Nat.le_refl index),
    List.drop_set_of_lt (Nat.lt_add_one index)]

/-- Widths that fit are added up exactly. -/
theorem advance_eq (wide : ∀ width ∈ widths, 2 ≤ width)
    (fits : ∀ width ∈ widths, (width : Int) ≤ Word.maxSigned) :
    advance widths = columns widths := by
  induction widths with
  | nil => rfl
  | cons width rest ih =>
    rw [List.forall_mem_cons] at wide fits
    rw [advance_cons, columns_cons, ih wide.2 fits.2, Word.signed_ofNat fits.1]
    omega

theorem length_le_columns (wide : ∀ width ∈ widths, 2 ≤ width) : widths.length ≤ columns widths := by
  induction widths with
  | nil => exact Nat.le_refl 0
  | cons width rest ih =>
    rw [List.forall_mem_cons] at wide
    have later := ih wide.2
    simp only [List.length_cons, columns_cons]
    omega

/-- Besides what one tab takes, every other one takes a column at least. -/
theorem le_columns_of_mem (wide : ∀ width ∈ widths, 2 ≤ width) (member : width ∈ widths) :
    width + widths.length ≤ columns widths + 2 := by
  induction widths with
  | nil => simp at member
  | cons first rest ih =>
    rw [List.forall_mem_cons] at wide
    simp only [List.length_cons, columns_cons]
    rcases List.mem_cons.mp member with rfl | later
    · have others := length_le_columns wide.2
      omega
    · have others := ih wide.2 later
      omega

end Sums

/-! ## Where tabs are placed -/

/-- The widths of rectangles. -/
def widthsOf (rects : List Rect) : List Nat := rects.map fun rect => rect.size.width

/-- The widths of tabs none of which is active. -/
def unselectedWidths (tabs : List TabMeasure) : List Nat :=
  tabs.map fun tab => tab.unselected.size.width

@[simp] theorem length_widthsOf (rects : List Rect) : (widthsOf rects).length = rects.length :=
  List.length_map _

@[simp] theorem length_unselectedWidths (tabs : List TabMeasure) :
    (unselectedWidths tabs).length = tabs.length :=
  List.length_map _

section Placing

variable {active : Option Nat} {top left : Int} {first index : Nat} {tabs : List TabMeasure}
  {rect : Rect} {tab : TabMeasure}

/-- A placed tab begins after the tabs before it. -/
theorem origin_placeFrom (present : (placeFrom active top first left tabs)[index]? = some rect) :
    rect.origin.x =
      left + advance ((widthsOf (placeFrom active top first left tabs)).take index) := by
  induction tabs generalizing first left index with
  | nil => simp [placeFrom] at present
  | cons tab rest ih =>
    cases index with
    | zero =>
      simp only [placeFrom, List.getElem?_cons_zero, Option.some.injEq] at present
      simp [← present]
    | succ index =>
      simp only [placeFrom, List.getElem?_cons_succ] at present
      simp only [widthsOf] at ih
      simp [ih present, placeFrom, widthsOf, Int.add_assoc]

/-- The last column of the last tab is as far away as all tabs lead. -/
theorem right_of_getLast? (last : (placeFrom active top first left tabs).getLast? = some rect) :
    rect.right - 1 = left + advance (widthsOf (placeFrom active top first left tabs)) := by
  rw [List.getLast?_eq_getElem?] at last
  have begins := origin_placeFrom last
  generalize placeFrom active top first left tabs = rects at last begins ⊢
  have width : (widthsOf rects)[rects.length - 1]? = some rect.size.width := by
    simp [widthsOf, last]
  have behind : (widthsOf rects).drop (rects.length - 1 + 1) = [] := by
    apply List.drop_eq_nil_of_le
    rw [length_widthsOf]
    omega
  rw [advance_split width, behind, advance_nil, Rect.right, begins]
  omega

/-- The tabs after the active one are inactive. -/
theorem widthsOf_after (top left : Int) (tabs : List TabMeasure) (after : index < first) :
    widthsOf (placeFrom (some index) top first left tabs) = unselectedWidths tabs := by
  induction tabs generalizing first left with
  | nil => rfl
  | cons tab rest ih =>
    have inactive : some index ≠ some first := by simp [Nat.ne_of_lt after]
    simp only [widthsOf, unselectedWidths] at ih
    simp [placeFrom, widthsOf, unselectedWidths, inactive, ih _ (Nat.lt_succ_of_lt after)]

/-- The active tab takes its selected width among the unselected ones. -/
theorem widthsOf_placeFrom (top left : Int) (first : Nat) (present : tabs[index]? = some tab) :
    widthsOf (placeFrom (some (first + index)) top first left tabs) =
      (unselectedWidths tabs).set index tab.selected.size.width := by
  induction tabs generalizing first left index with
  | nil => simp at present
  | cons head rest ih =>
    cases index with
    | zero =>
      simp only [List.getElem?_cons_zero, Option.some.injEq] at present
      have others := widthsOf_after top (left + (Word.signed tab.selected.size.width - 1)) rest
        (Nat.lt_add_one first)
      simp only [widthsOf, unselectedWidths] at others
      simp [placeFrom, widthsOf, unselectedWidths, others, present]
    | succ index =>
      simp only [List.getElem?_cons_succ] at present
      have shifted : first + (index + 1) = first + 1 + index := by omega
      have inactive : some (first + 1 + index) ≠ some first := by
        simp only [ne_eq, Option.some.injEq]
        omega
      have others := ih (left + (Word.signed head.unselected.size.width - 1)) (first + 1) present
      simp only [widthsOf, unselectedWidths] at others
      simp [placeFrom, widthsOf, unselectedWidths, shifted, inactive, others]

end Placing

section Wanted

variable {strip : Strip} {active : Nat} {tab : TabMeasure}

theorem wantedWidth_eq (present : strip.tabs[active]? = some tab) (extraWidth : Nat) :
    strip.wantedWidth (some active) extraWidth = columns (unselectedWidths strip.tabs) +
      (tab.selected.size.width - tab.unselected.size.width) + extraWidth := by
  simp [wantedWidth, standIn, present, columns, unselectedWidths, List.foldr_map]

/-- What a strip wants without extra columns is what its placed tabs take. -/
theorem columns_place (sound : ∀ tab ∈ strip.tabs, tab.Sound)
    (present : strip.tabs[active]? = some tab) :
    columns ((unselectedWidths strip.tabs).set active tab.selected.size.width) =
      strip.wantedWidth (some active) 0 := by
  have soundTab := sound tab (List.mem_of_getElem? present)
  have unselected : (unselectedWidths strip.tabs)[active]? = some tab.unselected.size.width := by
    simp [unselectedWidths, present]
  rw [wantedWidth_eq present, columns_set unselected soundTab.wide soundTab.grows, Nat.add_zero]

theorem two_le_of_mem_set (sound : ∀ tab ∈ strip.tabs, tab.Sound)
    (present : strip.tabs[active]? = some tab) :
    ∀ width ∈ (unselectedWidths strip.tabs).set active tab.selected.size.width, 2 ≤ width := by
  intro width member
  rcases List.mem_or_eq_of_mem_set member with unselected | rfl
  · rcases List.mem_map.mp unselected with ⟨other, isTab, rfl⟩
    exact (sound other isTab).wide
  · have soundTab := sound tab (List.mem_of_getElem? present)
    exact Nat.le_trans soundTab.wide soundTab.grows

end Wanted

end Strip

/-! ## Placed decks -/

namespace Deck

variable {μ σ : Type} [FontMetrics μ] {deck : Deck μ σ}

section Placed

variable [PaneHost σ]

/-- A session that begins with a placement leads to placed decks only. -/
theorem WasPlaced.of_run {capacity : Nat} {captions : List Caption} {metrics : μ} {host : σ}
    {settings : Settings} {start : Deck μ σ} {bounds : Rect} {actions : List Action}
    {answers : List Answer} (made : ofCaptions capacity captions metrics host settings = .ok start)
    (ran : start.run (.placeAt bounds :: actions) = .ok (answers, deck)) : deck.WasPlaced :=
  ⟨_, _, _, _, _, start, _, made, ⟨answers, ran⟩, bounds, List.mem_cons_self⟩

theorem WasPlaced.follows (wasPlaced : deck.WasPlaced) :
    deck.geometry.Follows deck.capacity deck.inputs := by
  rcases wasPlaced with ⟨_, _, _, _, _, start, actions, made, reached, placed⟩
  exact reached.follows made placed

theorem WasPlaced.coherent (wasPlaced : deck.WasPlaced) : deck.Coherent := by
  rcases wasPlaced with ⟨_, _, _, _, _, start, actions, made, reached, -⟩
  exact reached.coherent (coherent_ofCaptions made)

theorem WasPlaced.active (wasPlaced : deck.WasPlaced) :
    ∃ active tab, deck.active = some active ∧ deck.strip.tabs[active]? = some tab := by
  have follows := wasPlaced.follows
  have inDeck := wasPlaced.coherent.present
  rcases wasPlaced with ⟨_, _, _, _, _, start, actions, made, reached, placed⟩
  have isSome := reached.active (coherent_ofCaptions made) (unplaced_ofCaptions made)
    (reached.laidOut placed)
  rcases Option.isSome_iff_exists.mp isSome with ⟨active, isActive⟩
  have inRange := inDeck active isActive
  rw [← Measured.length_tabs follows.measures] at inRange
  exact ⟨active, _, isActive, List.getElem?_eq_getElem inRange⟩

end Placed

variable (follows : deck.geometry.Follows deck.capacity deck.inputs)

include follows

theorem sound_of_follows : ∀ tab ∈ deck.strip.tabs, tab.Sound :=
  Strip.sound_of_measure follows.measures.measured

theorem placed_of_follows {active : Nat} (isActive : deck.active = some active) :
    deck.placed = Strip.placeFrom (some active)
      (stripTop deck.settings.edge deck.bounds.size.height deck.strip.height) 0 1
      deck.strip.tabs := by
  rw [← isActive]
  exact follows.arranges.placed

theorem length_placed_of_follows : deck.placed.length = deck.tabs.length := by
  rw [← Measured.length_tabs follows.measures]
  exact (congrArg List.length follows.arranges.placed).trans (Strip.length_placeFrom ..)

theorem widthsOf_placed {active : Nat} {tab : TabMeasure} (isActive : deck.active = some active)
    (present : deck.strip.tabs[active]? = some tab) :
    Strip.widthsOf deck.placed =
      (Strip.unselectedWidths deck.strip.tabs).set active tab.selected.size.width := by
  have widths := Strip.widthsOf_placeFrom
    (stripTop deck.settings.edge deck.bounds.size.height deck.strip.height) 1 0 present
  rw [placed_of_follows follows isActive, ← widths, Nat.zero_add]

/-- A strip overflows when it has several tabs and wants more than the deck has. -/
theorem overflows_of_follows :
    deck.overflows = true ↔
      1 < deck.tabs.length ∧ deck.bounds.size.width < deck.wantedWidth := by
  have count : deck.row.count = deck.tabs.length := by
    simpa [inputs, geometry] using follows.count
  have viewport : deck.row.viewport = deck.bounds.size.width := follows.viewport
  have stripWidth : deck.row.stripWidth = deck.wantedWidth := follows.arranges.stripWidth
  simp [overflows, PaneRow.overflows, count, viewport, stripWidth]

/-- Where a tab is on the display. -/
theorem tabRect_of_follows {active index : Nat} (isActive : deck.active = some active)
    (inRange : index < deck.tabs.length) :
    ∃ rect, deck.tabRect index = some rect ∧
      (Strip.widthsOf deck.placed)[index]? = some rect.size.width ∧
      rect.origin.x = deck.bounds.origin.x +
        (1 + Strip.advance ((Strip.widthsOf deck.placed).take index) + deck.shift) := by
  rw [← length_placed_of_follows follows] at inRange
  have present := List.getElem?_eq_getElem inRange
  generalize deck.placed[index] = rect at present
  refine ⟨(rect.shiftBy ⟨deck.shift, 0⟩).shiftBy deck.bounds.origin, ?_, ?_, ?_⟩
  · simp [tabRect, stripRects, present]
  · simp [Strip.widthsOf, present]
  · have placed := placed_of_follows follows isActive
    rw [placed] at present ⊢
    rw [← Strip.origin_placeFrom present]
    simp only [Rect.shiftBy_origin, Point.add_x]
    omega

end Deck

end TabDeck
