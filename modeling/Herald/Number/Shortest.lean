import Herald.Number.Double

/-!
# Herald.Number.Shortest

The fewest decimal digits that identify a double.

A finite double stands for every real nearer to it than to its neighbours, the two halfway points
included when its significand is even. `shortest` looks for a decimal of one digit in this interval,
then of two, and so on: on each grid only the two neighbours of the value can be the nearest hit.
-/

namespace Herald.Number

inductive Tie where
  | toEven
  | up
  deriving DecidableEq, Repr

/-- A positive decimal `digits · 10 ^ exponent`. -/
structure Decimal where
  digits : Nat
  exponent : Int
  deriving DecidableEq, Repr

namespace Decimal

def strip (fuel : Nat) (x : Decimal) : Decimal :=
  match fuel with
  | 0 => x
  | fuel + 1 =>
    if x.digits % 10 = 0 then strip fuel ⟨x.digits / 10, x.exponent + 1⟩ else x

/-- `num / den` over `10 ^ e`, as a fraction. -/
def overPower (num den : Nat) (e : Int) : Nat × Nat :=
  if 0 ≤ e then (num, den * tenTo e.toNat) else (num * tenTo (-e).toNat, den)

/-- The exponent of the leading digit of `num / den`. -/
def magnitude (num den : Nat) : Int :=
  let k : Int := (Nat.toDigits 10 num).length - (Nat.toDigits 10 den).length
  let (n, d) := overPower num den k
  if d ≤ n then k else k - 1

/-- The reals that round to `significand · 2 ^ exponent`, as numerators over a common denominator:
the lower end, the value and the upper end. -/
structure Interval where
  lower : Nat
  value : Nat
  upper : Nat
  den : Nat
  closed : Bool

/-- The interval of a double. Below a power of two the neighbours stand half as far apart. -/
def Interval.of (significand : Nat) (exponent : Int) : Interval :=
  let narrow := significand = twoTo 52 ∧ exponent ≠ Double.minExponent
  let (unit, den) := scaleDown 1 1 (2 - exponent)
  ⟨(4 * significand - if narrow then 1 else 2) * unit, 4 * significand * unit,
    (4 * significand + 2) * unit, den, significand % 2 = 0⟩

def Interval.has (i : Interval) (x : Decimal) : Bool :=
  let (n, d) := if 0 ≤ x.exponent then (x.digits * tenTo x.exponent.toNat, 1)
    else (x.digits, tenTo (-x.exponent).toNat)
  let low := i.lower * d
  let high := i.upper * d
  let v := n * i.den
  if i.closed then low ≤ v && v ≤ high else low < v && v < high

/-- The hit of the grid `10 ^ e`, the nearer one if both neighbours of the value are hits. -/
def onGrid (i : Interval) (tie : Tie) (e : Int) : Option Decimal :=
  let (n, d) := overPower i.value i.den e
  let q := n / d
  let r := n % d
  let down : Decimal := ⟨q, e⟩
  let up : Decimal := ⟨q + 1, e⟩
  match i.has down, i.has up with
  | true, true =>
    let takeDown := 2 * r < d || 2 * r = d && tie == .toEven && q % 2 = 0
    some (if takeDown then down else up)
  | true, false => some down
  | false, true => some up
  | false, false => none

/-- The first hit on the grids of 18 digits and fewer, the coarsest first. -/
def search (i : Interval) (tie : Tie) (top : Int) : Nat → Option Decimal
  | 0 => none
  | left + 1 => onGrid i tie (top - (17 - left)) <|> search i tie top left

/-- The fewest digits that identify `significand · 2 ^ exponent`, without zeros at the end. -/
def shortest (tie : Tie) (significand : Nat) (exponent : Int) : Decimal :=
  if significand = 0 then ⟨0, 0⟩
  else
    let i := Interval.of significand exponent
    match search i tie (magnitude i.value i.den) 18 with
    | some x => x.strip 20
    | none => ⟨significand, exponent⟩

end Decimal

end Herald.Number
