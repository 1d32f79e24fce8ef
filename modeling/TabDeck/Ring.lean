/-!
# The next tab around the ring

Stepping past the last tab leads to the first one and the other way round. `nextAvailable` steps
until it meets a tab that is not disabled.
-/

namespace TabDeck

namespace Ring

/-- The neighbour of a place on a ring of `count` places; from nowhere a step enters at an end. -/
def step (count : Nat) (forward : Bool) : Option Nat → Nat
  | none => if forward then 0 else count - 1
  | some index => if forward then (index + 1) % count else (index + count - 1) % count

/-- The first tab that is not disabled, among those met in `steps` steps from a place. -/
def search (disabled : List Bool) (forward : Bool) : Nat → Option Nat → Option Nat
  | 0, _ => none
  | steps + 1, place =>
    let next := step disabled.length forward place
    if disabled[next]? = some false then some next
    else search disabled forward steps (some next)

end Ring

/-- The next tab that is not disabled, once around the ring. When every tab is disabled the place
itself is kept, and nowhere counts as the first tab. -/
def nextAvailable (place : Option Nat) (forward : Bool) (disabled : List Bool) : Nat :=
  (Ring.search disabled forward disabled.length place).getD (place.getD 0)

end TabDeck
