import Herald.Number.Double

/-!
# Herald.Number.Read

Numbers as people write them.

* `readInt?`: a whole number of 64 bits, with or without a sign.
* `readNat?`: one without a sign below `2 ^ 64`; a plus is allowed.
* `readDouble?`: a decimal with or without a point and an exponent, or a name of an infinity or of
  no number at all, rounded to the nearest double.
-/

namespace Herald.Number

def digitsValue (ds : List Char) : Nat := ds.foldl (fun n c => 10 * n + (c.toNat - '0'.toNat)) 0

def isDigits (ds : List Char) : Bool := ds ≠ [] && ds.all Char.isDigit

def splitSign : List Char → Bool × List Char
  | '-' :: r => (true, r)
  | '+' :: r => (false, r)
  | r => (false, r)

/-- A whole number of 64 bits. -/
def readInt? (s : String) : Option Int :=
  let (negative, ds) := splitSign s.toList
  let i : Int := if negative then -(digitsValue ds : Int) else digitsValue ds
  if isDigits ds && fitsSigned i then some i else none

/-- A whole number of 64 bits that is not negative. -/
def readNat? (s : String) : Option Nat :=
  let ds := match s.toList with
    | '+' :: r => r
    | r => r
  if isDigits ds && digitsValue ds < wordLimit then some (digitsValue ds) else none

/-- An exponent: the letter, a sign or none, and digits; nothing stands for zero. -/
def readExponent? : List Char → Option Int
  | [] => some 0
  | c :: r =>
    let (negative, ds) := splitSign r
    if (c = 'e' || c = 'E') && isDigits ds then
      some (if negative then -(digitsValue ds : Int) else digitsValue ds)
    else none

/-- A decimal without a sign. There has to be a digit before or behind the point. -/
def readDecimal? (negative : Bool) (r : List Char) : Option Double :=
  let whole := r.takeWhile Char.isDigit
  let (fraction, tail) := match r.dropWhile Char.isDigit with
    | '.' :: r => (r.takeWhile Char.isDigit, r.dropWhile Char.isDigit)
    | r => ([], r)
  if whole = [] && fraction = [] then none
  else
    (readExponent? tail).map fun e =>
      Double.ofDecimal negative (digitsValue (whole ++ fraction)) (e - fraction.length)

def readDouble? (s : String) : Option Double :=
  let (negative, r) := splitSign s.toList
  match String.ofList (r.map Char.toLower) with
  | "inf" | "infinity" => some (.infinite negative)
  | "nan" => some .nan
  | _ => readDecimal? negative r

end Herald.Number
