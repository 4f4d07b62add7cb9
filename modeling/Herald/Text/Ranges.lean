/-!
# Herald.Text.Ranges

Sets of characters given as ranges of code points, the form in which the Unicode tables beside
this module are written.

* `Ranges`: closed ranges of code points.
* `Ranges.has`: whether a character lies in one of them.
-/

namespace Herald.Text

abbrev Ranges := List (Nat × Nat)

/-- Whether `c` lies in one of the ranges. -/
def Ranges.has (rs : Ranges) (c : Char) : Bool :=
  rs.any fun r => r.1 ≤ c.toNat && c.toNat ≤ r.2

theorem Ranges.has_iff {rs : Ranges} {c : Char} :
    rs.has c = true ↔ ∃ r ∈ rs, r.1 ≤ c.toNat ∧ c.toNat ≤ r.2 := by
  simp [Ranges.has]

end Herald.Text
