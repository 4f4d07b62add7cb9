import Herald.Json.Basic
import Herald.Number.Layout
import Herald.Text.Hex

/-!
# Herald.Json.Writer

The text of JSON values.

* `Json.compact`: on one line, without blanks.
* `Json.pretty`: one item or member a line, two blanks for each level.
-/

namespace Herald.Json

open Number

/-- Doubles have their shortest digits, positional from `0.00001` up to `10 ^ 16`, and always a
point or an exponent. -/
def numberLayout : Layout := ⟨.toEven, fun k => -5 ≤ k && k < 16, true⟩

def escapeChar (c : Char) : List Char :=
  if c = '"' then ['\\', '"']
  else if c = '\\' then ['\\', '\\']
  else if c = '\x08' then ['\\', 'b']
  else if c = '\x0c' then ['\\', 'f']
  else if c = '\n' then ['\\', 'n']
  else if c = '\r' then ['\\', 'r']
  else if c = '\t' then ['\\', 't']
  else if c.toNat < 0x20 then
    ['\\', 'u', '0', '0', Text.hexDigit (c.toNat / 16), Text.hexDigit (c.toNat % 16)]
  else [c]

def literal (s : String) : String :=
  String.ofList (['"'] ++ s.toList.flatMap escapeChar ++ ['"'])

mutual

def compact : Json → String
  | .null | .malformed => "null"
  | .bool b => if b then "true" else "false"
  | .int i => toString i
  | .real d => d.text numberLayout
  | .str s => literal s
  | .arr items => "[" ++ compactItems "" items ++ "]"
  | .obj members => "\x7b" ++ compactMembers "" members ++ "\x7d"

/-- Items after `lead`, separated by commas. -/
def compactItems (lead : String) : List Json → String
  | [] => ""
  | v :: vs => lead ++ compact v ++ compactItems "," vs

/-- Members after `lead`, separated by commas. -/
def compactMembers (lead : String) : List (String × Json) → String
  | [] => ""
  | (k, v) :: ms => lead ++ literal k ++ ":" ++ compact v ++ compactMembers "," ms

end

def indent (level : Nat) : String := String.ofList ('\n' :: List.replicate (2 * level) ' ')

mutual

/-- The text of a value on several lines, the inner ones from `level` on. -/
def pretty (level : Nat) : Json → String
  | .arr (v :: vs) => "[" ++ prettyItems (level + 1) "" (v :: vs) ++ indent level ++ "]"
  | .obj (m :: ms) => "\x7b" ++ prettyMembers (level + 1) "" (m :: ms) ++ indent level ++ "\x7d"
  | .null | .malformed => "null"
  | .bool b => if b then "true" else "false"
  | .int i => toString i
  | .real d => d.text numberLayout
  | .str s => literal s
  | .arr [] => "[]"
  | .obj [] => "\x7b\x7d"

def prettyItems (level : Nat) (lead : String) : List Json → String
  | [] => ""
  | v :: vs => lead ++ indent level ++ pretty level v ++ prettyItems level "," vs

def prettyMembers (level : Nat) (lead : String) : List (String × Json) → String
  | [] => ""
  | (k, v) :: ms =>
    lead ++ indent level ++ literal k ++ ": " ++ pretty level v ++ prettyMembers level "," ms

end

end Herald.Json
