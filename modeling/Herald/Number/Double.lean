import Herald.Number.Power

/-!
# Herald.Number.Double

Binary floating-point numbers of double precision, in exact integer arithmetic.

* `Double`: a sign, a significand and a power of two, or an infinity, or no number at all.
* `Double.ofRatio`: a quotient of naturals rounded to the nearest double, ties to the even
  significand.
* `Double.ofDecimal`: a decimal rounded in the same way.
* `mul`, `div`, `le`: exact operations on the operands, rounded once.
-/

namespace Herald.Number

/-- A double. A finite one is `significand · 2 ^ exponent`, negated when `negative` holds; the
significand is below `2 ^ 53`, and at least `2 ^ 52` unless the exponent is the least one. -/
inductive Double where
  | finite (negative : Bool) (significand : Nat) (exponent : Int)
  | infinite (negative : Bool)
  | nan
  deriving DecidableEq, Repr

/-- The quotient of two naturals, rounded to the nearest natural, ties to the even one. -/
def roundQuotient (num den : Nat) : Nat :=
  let q := num / den
  let r := num % den
  if 2 * r < den then q else if den < 2 * r then q + 1 else q + q % 2

/-- The fraction `num / den / 2 ^ e` as numerator and denominator. -/
def scaleDown (num den : Nat) (e : Int) : Nat × Nat :=
  if 0 ≤ e then (num, den * twoTo e.toNat) else (num * twoTo (-e).toNat, den)

namespace Double

def minExponent : Int := -1074

def maxExponent : Int := 971

def zero (negative : Bool) : Double := .finite negative 0 minExponent

/-- The exponent at which the quotient `num / den` has a significand of 53 bits, or the least one.
-/
def exponentFor (num den : Nat) : Int :=
  let low : Int := max ((num.log2 : Int) - den.log2 - 53) minExponent
  let (n, d) := scaleDown num den low
  if n / d < twoTo 53 then low else low + 1

/-- The double nearest to `num / den`, of two equally near the one with an even significand. -/
def ofRatio (negative : Bool) (num den : Nat) : Double :=
  if num = 0 then zero negative
  else
    let e := exponentFor num den
    let (n, d) := scaleDown num den e
    let m := roundQuotient n d
    let (m, e) := if m = twoTo 53 then (twoTo 52, e + 1) else (m, e)
    if maxExponent < e then .infinite negative else .finite negative m e

def ofNat (n : Nat) : Double := ofRatio false n 1

def ofInt (i : Int) : Double := ofRatio (i < 0) i.natAbs 1

/-- The double nearest to `digits · 10 ^ exponent`. Decimals far outside the range are settled by
their order of magnitude. -/
def ofDecimal (negative : Bool) (digits : Nat) (exponent : Int) : Double :=
  let size : Int := (Nat.toDigits 10 digits).length + exponent
  if digits = 0 then zero negative
  else if size < -400 then zero negative
  else if 400 < size then .infinite negative
  else if 0 ≤ exponent then ofRatio negative (digits * tenTo exponent.toNat) 1
  else ofRatio negative digits (tenTo (-exponent).toNat)

/-- The double nearest to `significand · 2 ^ exponent / den`. -/
def ofScaled (negative : Bool) (significand den : Nat) (exponent : Int) : Double :=
  let (n, d) := scaleDown significand den (-exponent)
  ofRatio negative n d

/-- The product, rounded once. -/
def mul : Double → Double → Double
  | .finite s m e, .finite t n f => ofScaled (s != t) (m * n) 1 (e + f)
  | .infinite s, .infinite t => .infinite (s != t)
  | .infinite s, .finite t n _ | .finite s n _, .infinite t =>
    if n = 0 then .nan else .infinite (s != t)
  | .nan, _ | _, .nan => .nan

/-- The quotient, rounded once. -/
def div : Double → Double → Double
  | .finite s m e, .finite t n f =>
    if n = 0 then if m = 0 then .nan else .infinite (s != t)
    else ofScaled (s != t) m n (e - f)
  | .infinite s, .finite t _ _ => .infinite (s != t)
  | .finite s _ _, .infinite t => zero (s != t)
  | .infinite _, .infinite _ | .nan, _ | _, .nan => .nan

def isZero : Double → Bool
  | .finite _ m _ => m == 0
  | _ => false

def isInfinite : Double → Bool
  | .infinite _ => true
  | _ => false

/-- The number as a fraction with a signed numerator, for finite numbers. -/
def toRatio? : Double → Option (Int × Nat)
  | .finite s m e =>
    let (n, d) := scaleDown m 1 (-e)
    some (if s then -(n : Int) else n, d)
  | _ => none

/-- Whether one number is at most the other. Nothing compares with `nan`. -/
def le : Double → Double → Bool
  | .nan, _ | _, .nan => false
  | .infinite s, b => s || b == .infinite false
  | a, .infinite t => !t || a == .infinite true
  | a, b =>
    match a.toRatio?, b.toRatio? with
    | some (n, d), some (p, q) => n * q ≤ p * d
    | _, _ => false

/-- The number without what stands behind its point; there is none beyond every finite one. -/
def truncate (d : Double) : Int :=
  match d.toRatio? with
  | some (n, d) => n.tdiv d
  | none => 0

/-- The natural nearest to the number, a half away from zero, kept within `0 … limit`; `nan` is 0.
-/
def clampRound (limit : Nat) : Double → Nat
  | .nan => 0
  | .infinite s => if s then 0 else limit
  | .finite s m e =>
    if s then 0
    else
      let (n, d) := scaleDown m 1 (-e)
      min ((2 * n + d) / (2 * d)) limit

end Double

end Herald.Number
