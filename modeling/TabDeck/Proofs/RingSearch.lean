import TabDeck.Proofs.Admission

/-!
# Where the search around the ring ends

The search for the next available tab meets the tabs of the ring one after the other, each one step
further from where it began, and ends on the nearest one that is open. The tabs that lie ahead are
nearer than those behind, which are met past the end of the strip. The search therefore stays ahead
while a tab there is open, passes the end when none is, and comes back when no other tab is open.
-/

namespace TabDeck

namespace Ring

/-- The place some steps away on a ring of `count` places, at most once around. -/
def around (count : Nat) (forward : Bool) (start distance : Nat) : Nat :=
  if forward then if start + distance < count then start + distance else start + distance - count
  else if distance ≤ start then start - distance else start + count - distance

/-- How many steps lead from one place to another. The place itself is once around away. -/
def distance (count : Nat) (forward : Bool) (start index : Nat) : Nat :=
  if forward then if start < index then index - start else index + count - start
  else if index < start then start - index else start + count - index

/-- One place lies ahead of another, before the end of the strip. -/
def Ahead (forward : Bool) (start index : Nat) : Prop :=
  if forward then start < index else index < start

section Places

variable {count start index other steps : Nat} {forward : Bool}

theorem step_some (present : index < count) :
    step count forward (some index) =
      if forward then if index + 1 < count then index + 1 else 0
      else if index = 0 then count - 1 else index - 1 := by
  cases forward with
  | true =>
    simp only [step, if_true]
    split
    · next inside => exact Nat.mod_eq_of_lt inside
    · next last =>
      obtain rfl : index + 1 = count := by omega
      exact Nat.mod_self _
  | false =>
    simp only [step, Bool.false_eq_true, if_false]
    split
    · next first =>
      rw [first, Nat.zero_add]
      exact Nat.mod_eq_of_lt (by omega)
    · next later =>
      rw [show index + count - 1 = index - 1 + count by omega, Nat.add_mod_right]
      exact Nat.mod_eq_of_lt (by omega)

theorem around_lt (present : start < count) (within : steps ≤ count) :
    around count forward start steps < count := by
  simp only [around]
  split <;> split <;> omega

theorem around_zero (present : start < count) : around count forward start 0 = start := by
  simp [around, present]

theorem step_around (present : start < count) (within : steps < count) :
    step count forward (some (around count forward start steps)) =
      around count forward start (steps + 1) := by
  rw [step_some (around_lt present (Nat.le_of_lt within))]
  cases forward with
  | true =>
    simp only [around, if_true]
    split <;> split <;> split <;> omega
  | false =>
    simp only [around, Bool.false_eq_true, if_false]
    split <;> split <;> split <;> omega

theorem distance_pos (present : start < count) (inRange : index < count) :
    0 < distance count forward start index := by
  simp only [distance]
  split <;> split <;> omega

theorem distance_le_count (present : start < count) (inRange : index < count) :
    distance count forward start index ≤ count := by
  simp only [distance]
  split <;> split <;> omega

theorem around_distance (present : start < count) (inRange : index < count) :
    around count forward start (distance count forward start index) = index := by
  cases forward with
  | true =>
    simp only [around, distance, if_true]
    split <;> split <;> omega
  | false =>
    simp only [around, distance, Bool.false_eq_true, if_false]
    split <;> split <;> omega

theorem distance_around (present : start < count) (positive : 0 < steps) (within : steps ≤ count) :
    distance count forward start (around count forward start steps) = steps := by
  cases forward with
  | true =>
    simp only [around, distance, if_true]
    split <;> split <;> omega
  | false =>
    simp only [around, distance, Bool.false_eq_true, if_false]
    split <;> split <;> omega

theorem distance_self : distance count forward start start = count := by
  simp [distance]

/-- Only the way back to a place itself leads all the way around. -/
theorem distance_lt_count (forward : Bool) (present : start < count) (inRange : index < count)
    (apart : index ≠ start) : distance count forward start index < count := by
  simp only [distance]
  split <;> split <;> omega

/-- What lies ahead is nearer than what does not. -/
theorem Ahead.distance_lt (ahead : Ahead forward start index) (behind : ¬ Ahead forward start other)
    (inRange : index < count) (otherInRange : other < count) :
    distance count forward start index < distance count forward start other := by
  cases forward with
  | true =>
    simp only [Ahead, if_true] at ahead behind
    simp only [distance, ahead, behind, if_true, if_false]
    omega
  | false =>
    simp only [Ahead, Bool.false_eq_true, if_false] at ahead behind
    simp only [distance, ahead, behind, Bool.false_eq_true, if_true, if_false]
    omega

/-- Another place lies ahead on one side or on the other. -/
theorem ahead_or_behind (apart : index ≠ start) :
    Ahead forward start index ∨ Ahead (!forward) start index := by
  cases forward with
  | true =>
    simp only [Ahead, Bool.not_true, Bool.false_eq_true, if_true, if_false]
    omega
  | false =>
    simp only [Ahead, Bool.not_false, Bool.false_eq_true, if_true, if_false]
    omega

theorem Ahead.not_behind (ahead : Ahead forward start index) : ¬ Ahead (!forward) start index := by
  cases forward with
  | true =>
    simp only [Ahead, Bool.not_true, Bool.false_eq_true, if_true, if_false] at ahead ⊢
    omega
  | false =>
    simp only [Ahead, Bool.not_false, Bool.false_eq_true, if_true, if_false] at ahead ⊢
    omega

theorem not_ahead_self : ¬ Ahead forward start start := by
  cases forward <;> simp [Ahead]

end Places

/-- A search that has met the places up to some distance ends before it has passed an open one. -/
theorem search_le {disabled : List Bool} {forward : Bool} {start index : Nat}
    (present : start < disabled.length) (open_ : disabled[index]? = some false) {met steps : Nat}
    (further : met < distance disabled.length forward start index)
    (reach : distance disabled.length forward start index ≤ met + steps)
    (within : met + steps ≤ disabled.length) :
    ∃ found, search disabled forward steps (some (around disabled.length forward start met)) =
        some found ∧
      distance disabled.length forward start found ≤
        distance disabled.length forward start index := by
  have inRange := (List.getElem?_eq_some_iff.mp open_).1
  induction steps generalizing met with
  | zero => omega
  | succ steps ih =>
    simp only [search, step_around present (show met < disabled.length by omega)]
    split
    · refine ⟨_, rfl, ?_⟩
      rw [distance_around present (Nat.succ_pos met) (by omega)]
      exact further
    · next closed =>
      refine ih ?_ (by omega) (by omega)
      have apart : distance disabled.length forward start index ≠ met + 1 := by
        intro same
        rw [← same, around_distance present inRange] at closed
        exact closed open_
      omega

/-- A search once around ends, and no open place is nearer than where it ends. -/
theorem search_nearest {disabled : List Bool} (forward : Bool) {start index : Nat}
    (present : start < disabled.length) (open_ : disabled[index]? = some false) :
    ∃ found, search disabled forward disabled.length (some start) = some found ∧
      distance disabled.length forward start found ≤
        distance disabled.length forward start index := by
  have inRange := (List.getElem?_eq_some_iff.mp open_).1
  have round : distance disabled.length forward start index ≤ 0 + disabled.length := by
    rw [Nat.zero_add]
    exact distance_le_count present inRange
  rcases search_le present open_ (distance_pos present inRange) round
    (Nat.le_of_eq (Nat.zero_add _)) with ⟨found, searched, nearest⟩
  rw [around_zero present] at searched
  exact ⟨found, searched, nearest⟩

end Ring

section Available

variable {disabled : List Bool} {forward : Bool} {start index : Nat}

/-- The next available tab is open, and no open one is nearer. -/
theorem nextAvailable_nearest (forward : Bool) (present : start < disabled.length)
    (open_ : disabled[index]? = some false) :
    disabled[nextAvailable (some start) forward disabled]? = some false ∧
      Ring.distance disabled.length forward start (nextAvailable (some start) forward disabled) ≤
        Ring.distance disabled.length forward start index := by
  rcases Ring.search_nearest forward present open_ with ⟨found, searched, nearest⟩
  rw [nextAvailable, searched]
  exact ⟨Ring.open_of_search searched, nearest⟩

/-- While a tab ahead is open the search stays ahead. -/
theorem nextAvailable_ahead (present : start < disabled.length)
    (open_ : disabled[index]? = some false) (ahead : Ring.Ahead forward start index) :
    Ring.Ahead forward start (nextAvailable (some start) forward disabled) := by
  by_contra behind
  rcases nextAvailable_nearest forward present open_ with ⟨found, nearest⟩
  have nearer := ahead.distance_lt behind (List.getElem?_eq_some_iff.mp open_).1
    (List.getElem?_eq_some_iff.mp found).1
  omega

/-- When no tab ahead is open the search passes the end, if one behind is. -/
theorem nextAvailable_behind (present : start < disabled.length)
    (closed : ∀ other, Ring.Ahead forward start other → disabled[other]? ≠ some false)
    (open_ : disabled[index]? = some false) (behind : Ring.Ahead (!forward) start index) :
    Ring.Ahead (!forward) start (nextAvailable (some start) forward disabled) := by
  rcases nextAvailable_nearest forward present open_ with ⟨found, nearest⟩
  have apart : nextAvailable (some start) forward disabled ≠ start := by
    intro back
    have inRange := (List.getElem?_eq_some_iff.mp open_).1
    have other : index ≠ start := by
      rintro rfl
      exact Ring.not_ahead_self behind
    rw [back, Ring.distance_self] at nearest
    have nearer := Ring.distance_lt_count forward present inRange other
    omega
  refine (Ring.ahead_or_behind apart).resolve_left fun ahead => ?_
  exact closed _ ahead found

/-- The search comes back when no tab is open on either side. -/
theorem nextAvailable_self
    (closed : ∀ other, other ≠ start → disabled[other]? ≠ some false) :
    nextAvailable (some start) forward disabled = start := by
  rcases nextAvailable_cases start forward disabled with same | open_
  · exact same
  · by_contra apart
    exact closed _ apart open_

end Available

end TabDeck
