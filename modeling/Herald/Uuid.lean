import Herald.Number.Power
import Herald.Text.Hex

/-!
# Herald.Uuid

Identifiers of 128 bits.

* `Uuid.text`: the form in groups of 8, 4, 4, 4 and 12 small digits.
* `Uuid.read?`: that form in any case, also in braces or after `urn:uuid:` in any case, and the bare
  32 digits.
* `Uuid.ofRandom`: an identifier made of random bits.
-/

namespace Herald

/-- An identifier of 128 bits. -/
structure Uuid where
  value : Nat
  deriving DecidableEq, Repr

namespace Uuid

open Number

/-- The digit at a place, counted from the least one. -/
def digitAt (u : Uuid) (place : Nat) : Nat := u.value / twoTo (4 * place) % 16

/-- All 32 digits. -/
def digits (u : Uuid) : List Char :=
  (List.range 32).map fun i => Text.hexDigit (u.digitAt (31 - i))

/-- Puts dashes after 8, 12, 16 and 20 digits. -/
def group (ds : List Char) : List Char :=
  ds.take 8 ++ '-' :: (ds.drop 8).take 4 ++ '-' :: (ds.drop 12).take 4 ++
    '-' :: (ds.drop 16).take 4 ++ '-' :: ds.drop 20

def text (u : Uuid) : String := String.ofList (group u.digits)

/-- The identifier of 32 digits. -/
def ofDigits? (ds : List Char) : Option Uuid :=
  if ds.length = 32 then
    (ds.mapM Text.hexValue?).map fun vs => ⟨vs.foldl (fun n v => 16 * n + v) 0⟩
  else none

def ofGroups? (cs : List Char) : Option Uuid :=
  let ds := cs.filter (· ≠ '-')
  if cs = group ds then ofDigits? ds else none

def lead : List Char := "urn:uuid:".toList

def read? (s : String) : Option Uuid :=
  match s.toList with
  | '{' :: r => if r.getLast? = some '}' then ofGroups? r.dropLast else none
  | r =>
    if r.length = 32 then ofDigits? r
    else if (r.take lead.length).map Char.toLower = lead then ofGroups? (r.drop lead.length)
    else ofGroups? r

def version (u : Uuid) : Nat := u.digitAt 19

/-- The identifier of random bits: version 4, and the variant in the two leading bits of the ninth
byte. -/
def ofRandom (bits : Nat) : Uuid :=
  let high := bits / twoTo 80 % twoTo 48
  let middle := bits / twoTo 64 % twoTo 12
  let low := bits % twoTo 62
  ⟨(((high * 16 + 4) * twoTo 12 + middle) * 4 + 2) * twoTo 62 + low⟩

end Uuid

end Herald
