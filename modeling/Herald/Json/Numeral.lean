import Herald.Json.Basic

/-!
# Herald.Json.Numeral

Number literals of JSON and what they stand for.

A literal without fraction and exponent that fits 64 bits is an integer. Every other one is a
double, found in two steps: the digits are collected as long as they fit 64 bits unsigned, and the
rounded significand is then multiplied or divided by a power of ten. The digits that no longer fit
count only by their place.
-/

namespace Herald.Json

open Number

structure Numeral where
  negative : Bool
  whole : List Char
  fraction : List Char
  exponent : Option (Bool × List Char)

namespace Numeral

def digit (c : Char) : Nat := c.toNat - '0'.toNat

/-- Digits collected so far, their place, and whether one of them did not fit. -/
structure Significand where
  value : Nat
  place : Int
  full : Bool

def Significand.pushWhole (s : Significand) (c : Char) : Significand :=
  if s.full || wordLimit ≤ s.value * 10 + digit c then ⟨s.value, s.place + 1, true⟩
  else ⟨s.value * 10 + digit c, s.place, false⟩

def Significand.pushFraction (s : Significand) (c : Char) : Significand :=
  if s.full || wordLimit ≤ s.value * 10 + digit c then { s with full := true }
  else ⟨s.value * 10 + digit c, s.place - 1, false⟩

def wholeSignificand (n : Numeral) : Significand :=
  n.whole.foldl Significand.pushWhole ⟨0, 0, false⟩

def significand (n : Numeral) : Significand :=
  n.fraction.foldl Significand.pushFraction { n.wholeSignificand with full := false }

def powerOfTen (k : Nat) : Double := Double.ofRatio false (tenTo k) 1

/-- A significand times a power of ten, in steps of at most `10 ^ 308`. No value if it lies beyond
every double. -/
def scale (f : Double) (e : Int) : Nat → Option Double
  | 0 => some f
  | steps + 1 =>
    if e.natAbs ≤ 308 then
      let r := if 0 ≤ e then f.mul (powerOfTen e.natAbs) else f.div (powerOfTen e.natAbs)
      if r.isInfinite then none else some r
    else if f.isZero then some f
    else if 0 ≤ e then none
    else scale (f.div (powerOfTen 308)) (e + 308) steps

def signed (negative : Bool) : Double → Double
  | .finite _ m e => .finite negative m e
  | .infinite _ => .infinite negative
  | .nan => .nan

/-- The value of the exponent's digits, none if it does not fit 32 bits with a sign. -/
def exponentValue? (ds : List Char) : Option Int :=
  let n := ds.foldl (fun n c => if twoTo 31 ≤ n then n else n * 10 + digit c) 0
  if n < twoTo 31 then some n else none

def real (n : Numeral) : Json :=
  let s := n.significand
  let finish (e : Int) : Json :=
    match scale (Double.ofNat s.value) e 4 with
    | some d => .real (signed n.negative d)
    | none => .malformed
  match n.exponent with
  | none => finish s.place
  | some (down, ds) =>
    match exponentValue? ds with
    | some e => finish (if down then s.place - e else s.place + e)
    | none => if s.value ≠ 0 && !down then .malformed else .real (Double.zero n.negative)

/-- What the literal stands for. A zero with a minus sign is a double. -/
def value (n : Numeral) : Json :=
  match n.fraction, n.exponent with
  | [], none =>
    let s := n.wholeSignificand
    if s.full then n.real
    else if !n.negative then .int s.value
    else if s.value = 0 || signedLimit < s.value then n.real
    else .int (-s.value)
  | _, _ => n.real

/-- A fraction: a point and at least one digit, or nothing. -/
def readFraction : List Char → Option (List Char × List Char)
  | '.' :: r =>
    let ds := r.takeWhile Char.isDigit
    if ds = [] then none else some (ds, r.dropWhile Char.isDigit)
  | r => some ([], r)

def readExponentDigits (down : Bool) (r : List Char) :
    Option (Option (Bool × List Char) × List Char) :=
  let ds := r.takeWhile Char.isDigit
  if ds = [] then none else some (some (down, ds), r.dropWhile Char.isDigit)

/-- An exponent: the letter, a sign or none, and at least one digit, or nothing. -/
def readExponent : List Char → Option (Option (Bool × List Char) × List Char)
  | 'e' :: '-' :: r | 'E' :: '-' :: r => readExponentDigits true r
  | 'e' :: '+' :: r | 'E' :: '+' :: r => readExponentDigits false r
  | 'e' :: r | 'E' :: r => readExponentDigits false r
  | r => some (none, r)

/-- A literal without its sign. The only one that starts with `0` before the point is `0`. -/
def readUnsigned (negative : Bool) (r : List Char) : Option (Numeral × List Char) :=
  let ds := r.takeWhile Char.isDigit
  if ds = [] || ds.head? = some '0' && ds ≠ ['0'] then none
  else do
    let (fraction, r) ← readFraction (r.dropWhile Char.isDigit)
    let (exponent, r) ← readExponent r
    return (⟨negative, ds, fraction, exponent⟩, r)

def read? : List Char → Option (Numeral × List Char)
  | '-' :: r => readUnsigned true r
  | r => readUnsigned false r

end Numeral

end Herald.Json
