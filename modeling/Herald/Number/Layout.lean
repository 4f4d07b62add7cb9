import Herald.Number.Shortest

/-!
# Herald.Number.Layout

The text of a double: its shortest digits laid out positionally or with an exponent.

* `Layout`: the decisions of one format.
* `Double.text`: a double in a format.
* `plain`: the format without exponents, in which settings show a double.
-/

namespace Herald.Number

structure Layout where
  tie : Tie
  /-- Whether a number whose leading digit stands at this power of ten is written positionally. -/
  positional : Int → Bool
  /-- Whether a positional whole number ends in `.0`. -/
  marksWhole : Bool

namespace Layout

/-- Digits of `x` with the decimal point in its place. -/
def positionalText (marksWhole : Bool) (x : Decimal) : String :=
  let ds := Nat.toDigits 10 x.digits
  let whole := if marksWhole then ['.', '0'] else []
  String.ofList <|
    if 0 ≤ x.exponent then ds ++ List.replicate x.exponent.toNat '0' ++ whole
    else
      let point := ds.length + x.exponent
      if 0 < point then ds.take point.toNat ++ '.' :: ds.drop point.toNat
      else ['0', '.'] ++ List.replicate (-point).toNat '0' ++ ds

/-- One digit before the point, and the power of ten behind `e` with its sign. -/
def exponentText (x : Decimal) : String :=
  let ds := Nat.toDigits 10 x.digits
  let e := x.exponent + ds.length - 1
  let mantissa := match ds with
    | [] => []
    | [d] => [d]
    | d :: r => d :: '.' :: r
  String.ofList (mantissa ++ ['e', if e < 0 then '-' else '+'] ++ Nat.toDigits 10 e.natAbs)

def decimalText (l : Layout) (x : Decimal) : String :=
  let top := x.exponent + (Nat.toDigits 10 x.digits).length - 1
  if l.positional top then positionalText l.marksWhole x else exponentText x

end Layout

def Double.text (l : Layout) : Double → String
  | .nan => "NaN"
  | .infinite s => if s then "-inf" else "inf"
  | .finite s m e => (if s then "-" else "") ++ l.decimalText (Decimal.shortest l.tie m e)

/-- Shortest digits, always positional, nothing after a whole number. -/
def plain : Layout := ⟨.up, fun _ => true, false⟩

end Herald.Number
