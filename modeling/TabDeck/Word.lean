/-!
# Lengths and coordinates as 32-bit words

Display coordinates are signed and lengths are unsigned 32-bit words. The library computes with
`Int` and `Nat`, and passes through the functions below exactly where a value changes its width or
its sign. On values that fit, both readings are the identity.
-/

namespace TabDeck

namespace Word

/-- The number of 32-bit words. -/
def modulus : Nat := 4294967296

/-- The largest signed word. -/
def maxSigned : Int := 2147483647

/-- The smallest signed word. -/
def minSigned : Int := -2147483648

/-- The low 32 bits of `value` read in two's complement. -/
def signed (value : Int) : Int := value.bmod modulus

/-- The low 32 bits of `value` read as a length. -/
def unsigned (value : Int) : Nat := (value % modulus).toNat

/-- The signed word closest to `value`. -/
def saturate (value : Int) : Int := max minSigned (min maxSigned value)

/-- A value inside the signed range is its own signed reading. -/
theorem signed_eq_self {value : Int} (lower : minSigned ≤ value) (upper : value ≤ maxSigned) :
    signed value = value := by
  simp only [minSigned, maxSigned] at lower upper
  apply Int.bmod_eq_of_le <;> simp only [modulus] <;> omega

/-- A length in the signed range is its own signed reading. -/
theorem signed_ofNat {length : Nat} (fits : length ≤ maxSigned) : signed length = length := by
  apply signed_eq_self _ fits
  simp only [minSigned]
  omega

/-- A signed reading always lies in the signed range. -/
theorem signed_bounds (value : Int) : minSigned ≤ signed value ∧ signed value ≤ maxSigned := by
  have lower := Int.le_bmod (x := value) (m := modulus) (by decide)
  have upper := Int.bmod_lt (x := value) (m := modulus) (by decide)
  simp only [signed, minSigned, maxSigned]
  simp only [modulus] at lower upper ⊢
  omega

end Word

end TabDeck
