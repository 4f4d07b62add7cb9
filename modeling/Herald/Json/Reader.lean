import Herald.Json.Numeral
import Herald.Text.Hex

/-!
# Herald.Json.Reader

Reading JSON texts.

* `Json.read?`: the value that a text stands for, none if the text breaks the grammar.

The reader is lenient where the grammar is: what a literal of right form cannot express becomes
`Json.malformed` in its place.
-/

namespace Herald.Json

/-- A part of a string literal: a character, or a 16-bit unit that was written as an escape. -/
inductive Piece where
  | char (c : Char)
  | unit (n : Nat)

def shortEscape? : Char → Option Char
  | '"' => some '"'
  | '\\' => some '\\'
  | '/' => some '/'
  | 'b' => some '\x08'
  | 'f' => some '\x0c'
  | 'n' => some '\n'
  | 'r' => some '\r'
  | 't' => some '\t'
  | _ => none

def unit? (a b c d : Char) : Option Nat := do
  let a ← Text.hexValue? a
  let b ← Text.hexValue? b
  let c ← Text.hexValue? c
  let d ← Text.hexValue? d
  return ((a * 16 + b) * 16 + c) * 16 + d

/-- The parts of a string up to its closing quote, and what follows. -/
def pieces? : List Char → Option (List Piece × List Char)
  | [] => none
  | '"' :: r => some ([], r)
  | '\\' :: 'u' :: a :: b :: c :: d :: r => do
    let n ← unit? a b c d
    let (ps, r) ← pieces? r
    return (.unit n :: ps, r)
  | '\\' :: e :: r => do
    let c ← shortEscape? e
    let (ps, r) ← pieces? r
    return (.char c :: ps, r)
  | c :: r =>
    if c.toNat < 0x20 then none
    else do
      let (ps, r) ← pieces? r
      return (.char c :: ps, r)

def isHigh (n : Nat) : Bool := 0xd800 ≤ n && n < 0xdc00

/-- Whether a unit is the second half of a surrogate pair. -/
def isLow (n : Nat) : Bool := 0xdc00 ≤ n && n < 0xe000

/-- The characters of a string, none if half of a surrogate pair stands alone. -/
def joinPieces : List Piece → Option (List Char)
  | [] => some []
  | .char c :: ps => (joinPieces ps).map (c :: ·)
  | .unit m :: .unit n :: ps =>
    if isHigh m then
      if isLow n then
        (joinPieces ps).map (Char.ofNat (0x10000 + (m - 0xd800) * 0x400 + (n - 0xdc00)) :: ·)
      else none
    else if isLow m then none
    else (joinPieces (.unit n :: ps)).map (Char.ofNat m :: ·)
  | .unit m :: ps =>
    if isHigh m || isLow m then none else (joinPieces ps).map (Char.ofNat m :: ·)

/-- A string behind its opening quote. The inner value is missing if it is malformed. -/
def string (r : List Char) : Option (Option String × List Char) := do
  let (ps, r) ← pieces? r
  return ((joinPieces ps).map String.ofList, r)

def isSpace (c : Char) : Bool := c = ' ' || c = '\n' || c = '\t' || c = '\r'

def skip (r : List Char) : List Char := r.dropWhile isSpace

mutual

/-- The value at the front of a text. `fuel` bounds the tokens. -/
def value : Nat → List Char → Option (Json × List Char)
  | 0, _ => none
  | fuel + 1, r =>
    match skip r with
    | 'n' :: 'u' :: 'l' :: 'l' :: r => some (.null, r)
    | 't' :: 'r' :: 'u' :: 'e' :: r => some (.bool true, r)
    | 'f' :: 'a' :: 'l' :: 's' :: 'e' :: r => some (.bool false, r)
    | '"' :: r => do
      let (s, r) ← string r
      return (s.elim .malformed .str, r)
    | '[' :: r =>
      match skip r with
      | ']' :: r => some (.arr [], r)
      | r => do
        let (vs, r) ← items fuel r
        return (.arr vs, r)
    | '{' :: r =>
      match skip r with
      | '}' :: r => some (.obj [], r)
      | r => do
        let (ms, r) ← members fuel r
        return (ms.elim .malformed .obj, r)
    | r => do
      let (n, r) ← Numeral.read? r
      return (n.value, r)

def items : Nat → List Char → Option (List Json × List Char)
  | 0, _ => none
  | fuel + 1, r => do
    let (v, r) ← value fuel r
    match skip r with
    | ',' :: r => do
      let (vs, r) ← items fuel r
      return (v :: vs, r)
    | ']' :: r => some ([v], r)
    | _ => none

/-- Members up to the closing brace; the inner value is missing if a name is malformed. -/
def members : Nat → List Char → Option (Option (List (String × Json)) × List Char)
  | 0, _ => none
  | fuel + 1, r =>
    match skip r with
    | '"' :: r => do
      let (k, r) ← string r
      match skip r with
      | ':' :: r => do
        let (v, r) ← value fuel r
        match skip r with
        | ',' :: r => do
          let (ms, r) ← members fuel r
          return (do return (← k, v) :: (← ms), r)
        | '}' :: r => some (k.map fun k => [(k, v)], r)
        | _ => none
      | _ => none
    | _ => none

end

/-- The value that a text stands for, none if the text breaks the grammar. -/
def read? (s : String) : Option Json :=
  match value (s.toList.length + 1) s.toList with
  | some (v, r) => if skip r = [] then some v else none
  | none => none

end Herald.Json
