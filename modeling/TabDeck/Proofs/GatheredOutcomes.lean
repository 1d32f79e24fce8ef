import Mathlib.Order.Bounds.Basic
import TabDeck.Outcome
import TabDeck.Proofs.Coverage
import TabDeck.Proofs.TouchSearch

/-!
# The outcomes of a frame

A host gathers what came of all operations of a frame, and paints once. This file says what it ends
up with. Flags are raised if some outcome raises them, and of several changes the last one counts.

Regions need more care, since joining two of them goes from origin and size to edges and back, in
words. Rectangles are ordered here by lying inside each other, which compares edges and so makes a
difference between empty rectangles as well. As long as all regions lie in one rectangle whose extent
fits a word, the hull of two is their least upper bound, and so is what is gathered from many. Least
upper bounds do not depend on how they were reached: gathering may be divided and reordered
(`Outcome.gathering_folds`).
-/

namespace TabDeck

namespace Rect

theorem inside_refl (rect : Rect) : rect.Inside rect := by
  simp [Inside]

theorem inside_trans (first second third : Rect) (inner : first.Inside second)
    (outer : second.Inside third) : first.Inside third := by
  simp only [Inside] at inner outer ⊢
  omega

theorem inside_antisymm (first second : Rect) (inner : first.Inside second)
    (outer : second.Inside first) : first = second := by
  rcases first with ⟨⟨left, top⟩, ⟨width, height⟩⟩
  rcases second with ⟨⟨otherLeft, otherTop⟩, ⟨otherWidth, otherHeight⟩⟩
  simp only [Inside] at inner outer
  simp only [Rect.mk.injEq, Point.mk.injEq, Size.mk.injEq]
  omega

/-- A rectangle is below another if it lies inside it. -/
instance : PartialOrder Rect where
  le inner outer := inner.Inside outer
  le_refl := inside_refl
  le_trans := inside_trans
  le_antisymm := inside_antisymm

theorem le_def {inner outer : Rect} : inner ≤ outer ↔ inner.Inside outer := Iff.rfl

/-- Some rectangles lie in one whose extent fits a word. -/
def FitTogether (regions : Set Rect) : Prop :=
  ∃ frame ∈ upperBounds regions, frame.InWords

theorem FitTogether.mono {regions others : Set Rect} (fit : FitTogether others)
    (among : regions ⊆ others) : FitTogether regions := by
  rcases fit with ⟨frame, encloses, inWords⟩
  exact ⟨frame, upperBounds_mono_set among encloses, inWords⟩

theorem right_eq {rect frame : Rect} (inWords : frame.InWords) (inside : rect ≤ frame) :
    rect.right = rect.origin.x + rect.size.width := by
  have narrow : (rect.size.width : Int) ≤ Word.maxSigned := by
    simp only [le_def, Inside, InWords] at inside inWords
    omega
  simp only [right, Word.signed_ofNat narrow]

theorem bottom_eq {rect frame : Rect} (inWords : frame.InWords) (inside : rect ≤ frame) :
    rect.bottom = rect.origin.y + rect.size.height := by
  have low : (rect.size.height : Int) ≤ Word.maxSigned := by
    simp only [le_def, Inside, InWords] at inside inWords
    omega
  simp only [bottom, Word.signed_ofNat low]

/-- A distance of edges in a frame survives the passage through a word. -/
theorem unsigned_distance {first last : Int} (ordered : first ≤ last)
    (near : last - first ≤ Word.maxSigned) :
    (Word.unsigned (last - first) : Int) = last - first := by
  simp only [Word.maxSigned] at near
  simp only [Word.unsigned, Word.modulus]
  omega

theorem isLUB_hull {first second frame : Rect} (inWords : frame.InWords)
    (firstInside : first ≤ frame) (secondInside : second ≤ frame) :
    IsLUB {first, second} (first.hull second) := by
  have firstRight := right_eq inWords firstInside
  have secondRight := right_eq inWords secondInside
  have firstBottom := bottom_eq inWords firstInside
  have secondBottom := bottom_eq inWords secondInside
  simp only [le_def, Inside, InWords] at inWords firstInside secondInside
  have width : (Word.unsigned (max first.right second.right -
      min first.origin.x second.origin.x) : Int) = _ :=
    unsigned_distance (by omega) (by omega)
  have height : (Word.unsigned (max first.bottom second.bottom -
      min first.origin.y second.origin.y) : Int) = _ :=
    unsigned_distance (by omega) (by omega)
  constructor
  · simp only [upperBounds_insert, upperBounds_singleton, Set.mem_inter_iff, Set.mem_Ici, le_def,
      Inside, hull, width, height]
    omega
  · intro other encloses
    simp only [upperBounds_insert, upperBounds_singleton, Set.mem_inter_iff, Set.mem_Ici, le_def,
      Inside] at encloses
    simp only [le_def, Inside, hull, width, height]
    omega

/-- The region is the least rectangle around some others, and there is one exactly if there are
others. -/
def IsJoin (regions : Set Rect) : Option Rect → Prop
  | none => regions = ∅
  | some region => regions.Nonempty ∧ IsLUB regions region

theorem isJoin_singleton (region : Option Rect) : IsJoin {rect | region = some rect} region := by
  cases region with
  | none => simp [IsJoin]
  | some rect =>
    have alone : {other | some rect = some other} = {rect} := by
      ext other
      simp [eq_comm]
    simp only [IsJoin, alone]
    exact ⟨Set.singleton_nonempty rect, isLUB_singleton⟩

theorem IsJoin.unique {regions : Set Rect} {first second : Option Rect}
    (isFirst : IsJoin regions first) (isSecond : IsJoin regions second) : first = second := by
  cases first with
  | none =>
    cases second with
    | none => rfl
    | some rect => exact absurd isFirst isSecond.1.ne_empty
  | some rect =>
    cases second with
    | none => exact absurd isSecond isFirst.1.ne_empty
    | some other => exact congrArg some (isFirst.2.unique isSecond.2)

/-- What was joined apart can be joined, since what encloses both joins encloses everything. -/
theorem IsJoin.union {regions others : Set Rect} {first second : Option Rect}
    (isFirst : IsJoin regions first) (isSecond : IsJoin others second)
    (fit : FitTogether (regions ∪ others)) :
    IsJoin (regions ∪ others) (joinRegions first second) := by
  cases first with
  | none =>
    rw [show regions = ∅ from isFirst, Set.empty_union, joinRegions_none_left]
    exact isSecond
  | some rect =>
    cases second with
    | none =>
      rw [show others = ∅ from isSecond, Set.union_empty]
      exact isFirst
    | some other =>
      rcases fit with ⟨frame, encloses, inWords⟩
      rw [upperBounds_union] at encloses
      have isHull := isLUB_hull inWords (isFirst.2.2 encloses.1) (isSecond.2.2 encloses.2)
      have bounds : upperBounds (regions ∪ others) = upperBounds {rect, other} := by
        simp only [upperBounds_union, isFirst.2.upperBounds_eq, isSecond.2.upperBounds_eq,
          upperBounds_insert, upperBounds_singleton]
      refine ⟨isFirst.1.inl, ?_⟩
      simp only [IsLUB, bounds]
      exact isHull

end Rect

namespace Outcome

variable {outcomes : List Outcome}

/-- All outcomes of a list in one. -/
def gather (outcomes : List Outcome) : Outcome := outcomes.foldl andThen nothing

/-- The regions that some outcomes want to have painted anew. -/
def regions (outcomes : List Outcome) : Set Rect :=
  {region | ∃ outcome ∈ outcomes, outcome.dirty = some region}

theorem regions_cons (outcome : Outcome) (rest : List Outcome) :
    regions (outcome :: rest) = {region | outcome.dirty = some region} ∪ regions rest := by
  ext region
  simp [regions]

theorem regions_mono {others : List Outcome} (among : outcomes ⊆ others) :
    regions outcomes ⊆ regions others := by
  rintro region ⟨outcome, member, isDirty⟩
  exact ⟨outcome, among member, isDirty⟩

/-! ## One part at a time -/

/-- A flag that is raised by either of two outcomes is raised by any of many. -/
theorem flag_foldl (flag : Outcome → Bool)
    (either : ∀ first second, flag (first.andThen second) = (flag first || flag second))
    (outcomes : List Outcome) (before : Outcome) :
    flag (outcomes.foldl andThen before) = (flag before || outcomes.any flag) := by
  induction outcomes generalizing before with
  | nil => simp
  | cons outcome rest ih => simp [ih, either, Bool.or_assoc]

/-- Of a part for which the later of two outcomes counts, the last one counts. -/
theorem latest_foldl {α : Type} (part : Outcome → Option α)
    (later : ∀ first second, part (first.andThen second) = (part second).or (part first))
    (outcomes : List Outcome) (before : Outcome) :
    part (outcomes.foldl andThen before) =
      (outcomes.filterMap part).getLast?.or (part before) := by
  induction outcomes generalizing before with
  | nil => simp
  | cons outcome rest ih =>
    rw [List.foldl_cons, ih, later]
    cases here : part outcome with
    | none => simp [here]
    | some value =>
      rw [List.filterMap_cons_some here, List.getLast?_cons]
      cases (rest.filterMap part).getLast? <;> rfl

theorem isJoin_foldl {seen : Set Rect} {before : Outcome} (outcomes : List Outcome)
    (isJoin : Rect.IsJoin seen before.dirty) (fit : Rect.FitTogether (seen ∪ regions outcomes)) :
    Rect.IsJoin (seen ∪ regions outcomes) (outcomes.foldl andThen before).dirty := by
  induction outcomes generalizing seen before with
  | nil =>
    have none : regions [] = ∅ := by simp [regions]
    rw [none, Set.union_empty]
    exact isJoin
  | cons outcome rest ih =>
    rw [regions_cons, ← Set.union_assoc] at fit ⊢
    apply ih _ fit
    apply isJoin.union (Rect.isJoin_singleton outcome.dirty)
    exact fit.mono Set.subset_union_left

/-! ## All outcomes of a frame -/

/-- What a host learns from all outcomes of a frame. -/
structure Sums (whole : Outcome) (outcomes : List Outcome) : Prop where
  consumed : whole.consumed = true ↔ ∃ outcome ∈ outcomes, outcome.consumed = true
  click : whole.click = true ↔ ∃ outcome ∈ outcomes, outcome.click = true
  change : whole.change = (outcomes.filterMap Outcome.change).getLast?
  focus : whole.focus = (outcomes.filterMap Outcome.focus).getLast?
  dirty : Rect.IsJoin (regions outcomes) whole.dirty

theorem isJoin_gather (fit : Rect.FitTogether (regions outcomes)) :
    Rect.IsJoin (regions outcomes) (gather outcomes).dirty := by
  have start : Rect.IsJoin ∅ nothing.dirty := rfl
  rw [← Set.empty_union (regions outcomes)] at fit ⊢
  exact isJoin_foldl outcomes start fit

theorem sums_gather (fit : Rect.FitTogether (regions outcomes)) :
    (gather outcomes).Sums outcomes where
  consumed := by
    rw [gather, flag_foldl Outcome.consumed fun _ _ => rfl]
    simp [nothing]
  click := by
    rw [gather, flag_foldl Outcome.click fun _ _ => rfl]
    simp [nothing]
  change := by
    rw [gather, latest_foldl Outcome.change fun _ _ => rfl]
    exact Option.or_none ..
  focus := by
    rw [gather, latest_foldl Outcome.focus fun _ _ => rfl]
    exact Option.or_none ..
  dirty := isJoin_gather fit

theorem nothing_andThen (outcome : Outcome) : nothing.andThen outcome = outcome := by
  cases outcome
  simp [andThen, nothing]

theorem andThen_nothing (outcome : Outcome) : outcome.andThen nothing = outcome := by
  rcases outcome with ⟨consumed, dirty, change, focus, click⟩
  cases dirty <;> simp [andThen, nothing, joinRegions]

theorem andThen_assoc {first second third : Outcome}
    (fit : Rect.FitTogether (regions [first, second, third])) :
    (first.andThen second).andThen third = first.andThen (second.andThen third) := by
  have regions_eq : regions [first, second, third] =
      {region | first.dirty = some region} ∪ {region | second.dirty = some region} ∪
        {region | third.dirty = some region} := by
    ext region
    simp [regions, or_assoc]
  rw [regions_eq] at fit
  have isFirst := Rect.isJoin_singleton first.dirty
  have isSecond := Rect.isJoin_singleton second.dirty
  have isThird := Rect.isJoin_singleton third.dirty
  have onLeft := (isFirst.union isSecond (fit.mono Set.subset_union_left)).union isThird fit
  rw [Set.union_assoc] at fit onLeft
  have onRight := isFirst.union (isSecond.union isThird (fit.mono Set.subset_union_right)) fit
  have dirty : joinRegions (joinRegions first.dirty second.dirty) third.dirty =
      joinRegions first.dirty (joinRegions second.dirty third.dirty) := onLeft.unique onRight
  simp only [andThen, dirty, Bool.or_assoc, Option.or_assoc]

/-- Gathering outcomes whose regions fit together is the fold of a monoid: nothing is neutral, it
does not matter how the outcomes are bracketed, and the whole consists of the flags that some outcome
raises, the last change and the last movement of the focus, and the least region around all regions.
All but the last change and the last movement is the same for every order. -/
theorem gathering_folds (fit : Rect.FitTogether (regions outcomes)) :
    (∀ outcome : Outcome, nothing.andThen outcome = outcome ∧ outcome.andThen nothing = outcome) ∧
      (∀ first ∈ outcomes, ∀ second ∈ outcomes, ∀ third ∈ outcomes,
        (first.andThen second).andThen third = first.andThen (second.andThen third)) ∧
      (gather outcomes).Sums outcomes ∧
      ∀ reordered : List Outcome, reordered.Perm outcomes →
        (gather reordered).dirty = (gather outcomes).dirty ∧
          (gather reordered).consumed = (gather outcomes).consumed ∧
            (gather reordered).click = (gather outcomes).click := by
  refine ⟨fun outcome => ⟨nothing_andThen outcome, andThen_nothing outcome⟩, ?_, sums_gather fit,
    ?_⟩
  · intro first isFirst second isSecond third isThird
    apply andThen_assoc
    apply fit.mono
    apply regions_mono
    simp [isFirst, isSecond, isThird]
  · intro reordered perm
    have sameRegions : regions reordered = regions outcomes := by
      simp only [regions, perm.mem_iff]
    have whole := sums_gather fit
    have other := sums_gather (sameRegions ▸ fit)
    refine ⟨?_, ?_, ?_⟩
    · exact (sameRegions ▸ other.dirty).unique whole.dirty
    · rw [Bool.eq_iff_iff, other.consumed, whole.consumed]
      simp only [perm.mem_iff]
    · rw [Bool.eq_iff_iff, other.click, whole.click]
      simp only [perm.mem_iff]

/-- A tab became active, the strip was left, and an empty corner far outside has to be painted. -/
def scattered : List Outcome :=
  [{ consumed := true, dirty := some ⟨⟨10, 0⟩, ⟨80, 20⟩⟩, change := some ⟨0, 2⟩ },
    { dirty := none, focus := some .released },
    { dirty := some ⟨⟨-30, -7⟩, ⟨0, 0⟩⟩, change := some ⟨2, 1⟩, click := true }]

/-- The empty region counts: the least region around both begins there. -/
theorem gathering_folds_scattered :
    Rect.FitTogether (regions scattered) ∧
      (gather scattered.reverse).dirty = some ⟨⟨-30, -7⟩, ⟨120, 27⟩⟩ ∧
      (gather scattered).Sums scattered := by
  have fit : Rect.FitTogether (regions scattered) := by
    refine ⟨⟨⟨-30, -7⟩, ⟨120, 27⟩⟩, ?_, by decide, by decide⟩
    rintro region ⟨outcome, member, isDirty⟩
    simp only [scattered, List.mem_cons, List.not_mem_nil, or_false] at member
    rcases member with rfl | rfl | rfl <;> cases isDirty <;> rw [Rect.le_def] <;> decide
  rcases gathering_folds fit with ⟨-, -, sums, reorders⟩
  refine ⟨fit, ?_, sums⟩
  rw [(reorders scattered.reverse scattered.reverse_perm).1]
  rfl

end Outcome

end TabDeck
