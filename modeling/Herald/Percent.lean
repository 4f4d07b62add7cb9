import Herald.Text.Hex

/-!
# Herald.Percent

Percent-encoding of bytes. Letters, digits and `-`, `_`, `.`, `~` stand for themselves, every other
byte is written as `%` and two capital digits of base sixteen.

* `Percent.encode`, `Percent.decode?`: the two directions.
-/

namespace Herald.Percent

/-- Whether an ASCII character stands for itself. -/
def unreservedChar (c : Char) : Bool :=
  c.isAlphanum || c = '-' || c = '_' || c = '.' || c = '~'

/-- Whether a byte is written as the ASCII character of that number. -/
def unreserved (b : UInt8) : Bool := b.toNat < 0x80 && unreservedChar (Char.ofNat b.toNat)

def encodeByte (b : UInt8) : List Char :=
  if unreserved b then [Char.ofNat b.toNat]
  else ['%', Text.upperHexDigit (b.toNat / 16), Text.upperHexDigit (b.toNat % 16)]

/-- The text of some bytes. -/
def encode (bs : List UInt8) : List Char := bs.flatMap encodeByte

/-- The bytes of a text. -/
def decode? : List Char → Option (List UInt8)
  | [] => some []
  | '%' :: a :: b :: r => do
    let x ← Text.hexValue? a
    let y ← Text.hexValue? b
    return UInt8.ofNat (16 * x + y) :: (← decode? r)
  | c :: r =>
    if unreservedChar c then (decode? r).map (UInt8.ofNat c.toNat :: ·) else none

end Herald.Percent
