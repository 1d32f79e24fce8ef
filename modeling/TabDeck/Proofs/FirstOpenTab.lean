import Mathlib.Data.Int.ModEq
import Mathlib.Order.Bounds.Basic
import TabDeck.Proofs.RingSearch

/-!
# The first open tab in a direction

Seen from a place, the tabs of the ring lie at distances in either direction, counted modulo their
number. From nowhere they are counted from just before the first tab, or back from just after the
last one. The two ends of the strip meet on the ring, so that nowhere is one of the tabs
(`Ring.entrance`) as far as steps are concerned, and so is a place past the end.

If a tab is open the search ends on the one at the least positive distance, after at most one step
for each tab, and never falls back on the place it came from (`nextAvailable_first_open`).
-/

namespace TabDeck

namespace Ring

/-- Where distances are counted from: a tab, or from nowhere just beyond the end of the strip. -/
def origin (count : Nat) (forward : Bool) : Option Nat → Int
  | some start => start
  | none => if forward then -1 else count

/-- Some number of steps leads to a tab, round and round the ring. -/
def Leads (count : Nat) (forward : Bool) (place : Option Nat) (steps index : Nat) : Prop :=
  origin count forward place + (if forward then (steps : Int) else -steps) ≡ index [ZMOD count]

/-- The tab of the ring from which the steps are the same as from a place. -/
def entrance (count : Nat) (forward : Bool) : Option Nat → Nat
  | some start => start % count
  | none => if forward then count - 1 else 0

section Entrance

variable {count steps index other start : Nat} {forward : Bool} {place : Option Nat}

theorem entrance_lt (nonempty : 0 < count) : entrance count forward place < count := by
  cases place with
  | none =>
    simp only [entrance]
    split <;> omega
  | some start => exact Nat.mod_lt start nonempty

theorem entrance_some (present : start < count) : entrance count forward (some start) = start :=
  Nat.mod_eq_of_lt present

theorem step_entrance (nonempty : 0 < count) :
    step count forward (some (entrance count forward place)) = step count forward place := by
  cases place with
  | none =>
    cases forward with
    | true =>
      simp only [entrance, step, if_true]
      rw [Nat.sub_add_cancel nonempty, Nat.mod_self]
    | false =>
      simp only [entrance, step, Bool.false_eq_true, if_false, Nat.zero_add]
      exact Nat.mod_eq_of_lt (Nat.sub_lt nonempty Nat.one_pos)
  | some start =>
    simp only [entrance, step]
    split
    · exact Nat.mod_add_mod start count 1
    · rw [Nat.add_sub_assoc nonempty, Nat.add_sub_assoc nonempty, Nat.mod_add_mod]

theorem search_entrance {disabled : List Bool} (nonempty : 0 < disabled.length) (steps : Nat) :
    search disabled forward steps (some (entrance disabled.length forward place)) =
      search disabled forward steps place := by
  cases steps with
  | zero => rfl
  | succ steps => simp only [search, step_entrance nonempty]

theorem entrance_modEq (nonempty : 0 < count) :
    (entrance count forward place : Int) ≡ origin count forward place [ZMOD count] := by
  cases place with
  | none =>
    cases forward with
    | true =>
      simp only [entrance, origin, if_true]
      refine Int.modEq_iff_dvd.mpr ⟨-1, ?_⟩
      omega
    | false =>
      simp only [entrance, origin, Bool.false_eq_true, if_false]
      exact Int.modEq_iff_dvd.mpr ⟨1, by omega⟩
  | some start =>
    simp only [entrance, origin, Int.natCast_mod]
    exact Int.mod_modEq start count

theorem leads_entrance (nonempty : 0 < count) :
    Leads count forward (some (entrance count forward place)) steps index ↔
      Leads count forward place steps index := by
  have same : (entrance count forward place : Int) + (if forward then (steps : Int) else -steps) ≡
      origin count forward place + (if forward then (steps : Int) else -steps) [ZMOD count] :=
    (entrance_modEq nonempty).add_right _
  exact ⟨fun leads => same.symm.trans leads, fun leads => same.trans leads⟩

end Entrance

section Distances

variable {count steps index other start : Nat} {forward : Bool}

/-- So many steps lead to the tab so far around the ring. -/
theorem leads_around (within : steps ≤ count) :
    Leads count forward (some start) steps (around count forward start steps) := by
  cases forward with
  | true =>
    simp only [Leads, origin, around, if_true]
    split
    · exact Int.modEq_iff_dvd.mpr ⟨0, by omega⟩
    · exact Int.modEq_iff_dvd.mpr ⟨-1, by omega⟩
  | false =>
    simp only [Leads, origin, around, Bool.false_eq_true, if_false]
    split
    · exact Int.modEq_iff_dvd.mpr ⟨0, by omega⟩
    · exact Int.modEq_iff_dvd.mpr ⟨1, by omega⟩

/-- Some number of steps leads to one tab only. -/
theorem eq_of_leads {place : Option Nat} (inRange : index < count) (otherInRange : other < count)
    (leads : Leads count forward place steps index)
    (alsoLeads : Leads count forward place steps other) : index = other := by
  have same : (index : Int) ≡ other [ZMOD count] := leads.symm.trans alsoLeads
  exact (Int.natCast_modEq_iff.mp same).eq_of_lt_of_lt inRange otherInRange

/-- The distance of a tab is the least positive number of steps that lead to it. -/
theorem distance_isLeast (present : start < count) (inRange : index < count) :
    IsLeast {steps | 0 < steps ∧ Leads count forward (some start) steps index}
      (distance count forward start index) := by
  have most : distance count forward start index ≤ count := distance_le_count present inRange
  constructor
  · refine ⟨distance_pos present inRange, ?_⟩
    have leads : Leads count forward (some start) _ _ := leads_around most
    rwa [around_distance present inRange] at leads
  · rintro steps ⟨positive, leads⟩
    by_contra fewer
    have within : steps ≤ count := by omega
    have there := eq_of_leads inRange (around_lt present within) leads (leads_around within)
    rw [there, distance_around present positive within] at fewer
    exact fewer (Nat.le_refl steps)

end Distances

/-- A tab is the first open one that so many steps in a direction lead to. A place itself is only
met at the end of the way around, when no other tab is open. -/
structure FirstOpen (disabled : List Bool) (forward : Bool) (place : Option Nat)
    (index steps : Nat) : Prop where
  open_ : disabled[index]? = some false
  leads : Leads disabled.length forward place steps index
  least : IsLeast {steps | 0 < steps ∧
    ∃ other, disabled[other]? = some false ∧ Leads disabled.length forward place steps other} steps
  once : steps ≤ disabled.length
  alone : place = some index →
    steps = disabled.length ∧ ∀ other, disabled[other]? = some false → other = index

/-- What is open and at no greater distance than any other open tab is the first. -/
theorem firstOpen_of_distance {disabled : List Bool} {forward : Bool} {place : Option Nat}
    {index : Nat} (open_ : disabled[index]? = some false)
    (nearest : ∀ other, disabled[other]? = some false →
      distance disabled.length forward (entrance disabled.length forward place) index ≤
        distance disabled.length forward (entrance disabled.length forward place) other) :
    FirstOpen disabled forward place index
      (distance disabled.length forward (entrance disabled.length forward place) index) := by
  have inRange := (List.getElem?_eq_some_iff.mp open_).1
  have nonempty := Nat.zero_lt_of_lt inRange
  have present : entrance disabled.length forward place < disabled.length := entrance_lt nonempty
  rcases distance_isLeast present inRange with ⟨⟨positive, leadsInside⟩, -⟩
  have leads := (leads_entrance nonempty).mp leadsInside
  refine ⟨open_, leads, ⟨⟨positive, index, open_, leads⟩, ?_⟩, distance_le_count present inRange, ?_⟩
  · rintro steps ⟨positive, other, alsoOpen, alsoLeads⟩
    have otherInRange := (List.getElem?_eq_some_iff.mp alsoOpen).1
    refine Nat.le_trans (nearest other alsoOpen) ?_
    exact (distance_isLeast present otherInRange).2
      ⟨positive, (leads_entrance nonempty).mpr alsoLeads⟩
  · rintro rfl
    rw [entrance_some inRange] at nearest ⊢
    refine ⟨distance_self, fun other alsoOpen => ?_⟩
    by_contra apart
    have nearer := distance_lt_count forward inRange
      (List.getElem?_eq_some_iff.mp alsoOpen).1 apart
    have notNearer := nearest other alsoOpen
    rw [distance_self] at notNearer
    omega

/-- A search with one step for each tab ends if a tab is open, on the first open one. -/
theorem exists_firstOpen_of_search {disabled : List Bool} (forward : Bool) (place : Option Nat)
    (someOpen : false ∈ disabled) :
    ∃ index steps, search disabled forward disabled.length place = some index ∧
      FirstOpen disabled forward place index steps := by
  rcases List.getElem?_of_mem someOpen with ⟨first, firstOpen⟩
  have nonempty := Nat.zero_lt_of_lt (List.getElem?_eq_some_iff.mp firstOpen).1
  have present : entrance disabled.length forward place < disabled.length := entrance_lt nonempty
  rcases search_nearest forward present firstOpen with ⟨index, searched, -⟩
  have nearest : ∀ other, disabled[other]? = some false →
      distance disabled.length forward (entrance disabled.length forward place) index ≤
        distance disabled.length forward (entrance disabled.length forward place) other := by
    intro other otherOpen
    rcases search_nearest forward present otherOpen with ⟨found, alsoSearched, nearer⟩
    rw [searched, Option.some.injEq] at alsoSearched
    rwa [← alsoSearched] at nearer
  have isFirst := firstOpen_of_distance (open_of_search searched) nearest
  rw [search_entrance nonempty] at searched
  exact ⟨index, _, searched, isFirst⟩

end Ring

/-- If a tab is open then the search around the ring ends, on the open tab at the least positive
distance in its direction. When every tab is disabled it keeps the place, and nowhere counts as the
first tab. -/
theorem nextAvailable_first_open (place : Option Nat) (forward : Bool) (disabled : List Bool) :
    (false ∈ disabled →
      Ring.search disabled forward disabled.length place =
          some (nextAvailable place forward disabled) ∧
        ∃ steps,
          Ring.FirstOpen disabled forward place (nextAvailable place forward disabled) steps) ∧
    (false ∉ disabled → nextAvailable place forward disabled = place.getD 0) := by
  constructor
  · intro someOpen
    rcases Ring.exists_firstOpen_of_search forward place someOpen with
      ⟨index, steps, searched, isFirst⟩
    have found : nextAvailable place forward disabled = index := by
      rw [nextAvailable, searched, Option.getD_some]
    rw [found]
    exact ⟨searched, steps, isFirst⟩
  · intro noneOpen
    cases searched : Ring.search disabled forward disabled.length place with
    | none => rw [nextAvailable, searched, Option.getD_none]
    | some found =>
      exact absurd (List.mem_of_getElem? (Ring.open_of_search searched)) noneOpen

/-- The search comes all the way around to the only open tab. -/
theorem sole_open_tab_is_next :
    false ∈ [true, true, false, true] ∧
      nextAvailable (some 2) false [true, true, false, true] = 2 ∧
      Ring.FirstOpen [true, true, false, true] false (some 2) 2 4 := by
  have someOpen : false ∈ [true, true, false, true] := by decide
  rcases (nextAvailable_first_open (some 2) false [true, true, false, true]).1 someOpen with
    ⟨-, steps, isFirst⟩
  obtain ⟨rfl, -⟩ := isFirst.alone rfl
  exact ⟨someOpen, by decide, isFirst⟩

end TabDeck
