/-!
# Herald.Number.Power

Powers of two and of ten, and the bounds of machine words.
-/

namespace Herald.Number

/-- Two to the `k`. -/
def twoTo (k : Nat) : Nat := Nat.pow 2 k

/-- Ten to the `k`. -/
def tenTo (k : Nat) : Nat := Nat.pow 10 k

/-- The naturals below this one fit 64 bits. -/
def wordLimit : Nat := twoTo 64

/-- The integers from its negative on and below this one fit 64 bits with a sign. -/
def signedLimit : Nat := twoTo 63

/-- Whether an integer fits 64 bits with a sign. -/
def fitsSigned (i : Int) : Bool := -(signedLimit : Int) ≤ i && i < signedLimit

/-- A count as an integer of 64 bits with a sign. What does not fit starts again from below. -/
def toSigned (n : Nat) : Int := if n < signedLimit then n else (n : Int) - wordLimit

theorem fitsSigned_iff (i : Int) :
    fitsSigned i = true ↔ -9223372036854775808 ≤ i ∧ i < 9223372036854775808 := by
  have : (signedLimit : Int) = 9223372036854775808 := by decide +kernel
  simp [fitsSigned, this]

end Herald.Number
