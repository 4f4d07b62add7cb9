import Mathlib.Algebra.GroupWithZero.Nat
import Herald.Observation

/-!
# Herald.Proofs.Observation.Tally

How far the counters move in a course.

* `tally`: the movement of a counter for one label. `total`: for all labels together.
* `tally_append`, `total_append`, `statisticCount_append`: a course in two parts.
-/

namespace Herald.Observation

def movement (c : Counter) (label : String) : Observation → Nat
  | .counted c' label' n => if c' = c ∧ label' = label then n else 0
  | _ => 0

def movementOfAny (c : Counter) : Observation → Nat
  | .counted c' _ n => if c' = c then n else 0
  | _ => 0

/-- By how much a counter moves in a course for a label. -/
def tally (c : Counter) (label : String) (os : List Observation) : Nat :=
  (os.map (movement c label)).sum

/-- By how much a counter moves in a course, all labels together. -/
def total (c : Counter) (os : List Observation) : Nat := (os.map (movementOfAny c)).sum

variable (c : Counter) (label : String) (s : Statistic)

@[simp] theorem tally_nil : tally c label [] = 0 := rfl

@[simp] theorem tally_cons (o : Observation) (os : List Observation) :
    tally c label (o :: os) = movement c label o + tally c label os := by
  simp [tally]

@[simp] theorem tally_append (os os' : List Observation) :
    tally c label (os ++ os') = tally c label os + tally c label os' := by
  simp [tally]

theorem tally_single (c' : Counter) (label' : String) :
    tally c label [.counted c' label' 1] = if (c, label) = (c', label') then 1 else 0 := by
  simp [movement, Prod.ext_iff, eq_comm]

@[simp] theorem total_nil : total c [] = 0 := rfl

@[simp] theorem total_cons (o : Observation) (os : List Observation) :
    total c (o :: os) = movementOfAny c o + total c os := by
  simp [total]

@[simp] theorem total_append (os os' : List Observation) :
    total c (os ++ os') = total c os + total c os' := by
  simp [total]

@[simp] theorem statisticCount_nil : statisticCount s [] = 0 := rfl

@[simp] theorem statisticCount_append (os os' : List Observation) :
    statisticCount s (os ++ os') = statisticCount s os + statisticCount s os' :=
  List.countP_append

end Herald.Observation
