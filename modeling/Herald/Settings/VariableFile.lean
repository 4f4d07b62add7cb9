import Herald.Settings.Environment
import Herald.Text.Alphanumeric
import Herald.Text.Blank

/-!
# Herald.Settings.VariableFile

Variables from a file of lines `NAME=value`.

* `VariableFile.entries`: the entries of a text. An entry is a line, or several that quotes hold
  together.
* `VariableFile.value?`: the value that is written behind a name, with quotes, escapes and
  references to other variables.
* `VariableFile.load?`: the environment with the variables of a text that are not set in it yet.
-/

namespace Herald.Settings.VariableFile

open Environment (Variables)

inductive Place where
  | plain
  | blank
  | escaped
  | single
  | singleEscaped
  | double
  | doubleEscaped
  deriving DecidableEq, Repr

def Place.enter (c : Char) : Place :=
  if c = '\\' then .escaped
  else if c = '"' then .double
  else if c = '\'' then .single
  else .plain

def Place.next (c : Char) : Place → Place
  | .plain => if Text.isBlank c && c ≠ '\n' && c ≠ '\r' then .blank else enter c
  | .blank => enter c
  | .escaped => .plain
  | .single => if c = '\\' then .singleEscaped else if c = '\'' then .plain else .single
  | .singleEscaped => .single
  | .double => if c = '\\' then .doubleEscaped else if c = '"' then .plain else .double
  | .doubleEscaped => .double

/-- Reads a line from some place on: what stands before a comment, and the place at the end unless a
comment was met. -/
def scan (p : Place) : List Char → List Char × Option Place
  | [] => ([], some p)
  | c :: r =>
    if p = .blank ∧ c = '#' then ([], none)
    else
      let s := scan (p.next c) r
      (c :: s.1, s.2)

def lines : List Char → List (List Char)
  | [] => []
  | c :: r =>
    if c = '\n' then [c] :: lines r
    else
      match lines r with
      | [] => [[c]]
      | l :: ls => (c :: l) :: ls

/-- Whether nothing but a comment stands in a text. -/
def isComment (cs : List Char) : Bool := (cs.dropWhile Text.isBlank).head? = some '#'

/-- The entries of lines, the first of which goes on from `start` at some place. What is still open
at the end is no entry. -/
def join (start : List Char) (p : Place) : List (List Char) → List (List Char)
  | [] => []
  | l :: ls =>
    if isComment (start ++ l) then join [] .plain ls
    else
      match scan p l with
      | (kept, none) => (start ++ kept) :: join [] .plain ls
      | (_, some .plain) => (start ++ l) :: join [] .plain ls
      | (_, some q) => join (start ++ l) q ls

def dropMark : List Char → List Char
  | '\ufeff' :: r => r
  | r => r

def entries (text : List Char) : List (List Char) := join [] .plain (lines (dropMark text))

inductive Reading where
  | text
  | escaped
  | single
  | name (read : List Char)
  | braced (read : List Char)
  | ended

def escape? : Char → Option Char
  | 'n' => some '\n'
  | c => if c = '\\' || c = '\'' || c = '"' || c = '$' || c = ' ' then some c else none

/-- The value that is written, from somewhere within it. The value of a variable is put where a
dollar sign and its name stand. The character that ends a name without braces stands for itself,
even if it is a quote. Behind a blank only a comment may stand. -/
def valueFrom? (lookup : List Char → List Char) (quoted : Bool) :
    Reading → List Char → Option (List Char)
  | .single, [] | .braced _, [] => none
  | .name n, [] => if quoted then none else some (lookup n)
  | .text, [] | .escaped, [] | .ended, [] => if quoted then none else some []
  | .ended, c :: r =>
    if c = ' ' || c = '\t' then valueFrom? lookup quoted .ended r
    else if c = '#' then some []
    else none
  | .escaped, c :: r => do
    return (← escape? c) :: (← valueFrom? lookup quoted .text r)
  | .single, c :: r =>
    if c = '\'' then valueFrom? lookup quoted .text r
    else (valueFrom? lookup quoted .single r).map (c :: ·)
  | .name n, c :: r =>
    if Text.isAlphanumeric c then valueFrom? lookup quoted (.name (n ++ [c])) r
    else if c = '{' && n = [] then valueFrom? lookup quoted (.braced []) r
    else if c = '$' then (valueFrom? lookup quoted (.name []) r).map (lookup n ++ ·)
    else (valueFrom? lookup quoted .text r).map (lookup n ++ c :: ·)
  | .braced n, c :: r =>
    if c = '}' then (valueFrom? lookup quoted .text r).map (lookup n ++ ·)
    else valueFrom? lookup quoted (.braced (n ++ [c])) r
  | .text, c :: r =>
    if c = '$' then valueFrom? lookup quoted (.name []) r
    else if c = '\\' then valueFrom? lookup quoted .escaped r
    else if c = '"' then valueFrom? lookup (!quoted) .text r
    else if quoted then (valueFrom? lookup quoted .text r).map (c :: ·)
    else if c = '\'' then valueFrom? lookup quoted .single r
    else if c = ' ' || c = '\t' then valueFrom? lookup quoted .ended r
    else (valueFrom? lookup quoted .text r).map (c :: ·)

def value? (lookup : List Char → List Char) (cs : List Char) : Option (List Char) :=
  match cs with
  | [] | '#' :: _ => some []
  | _ => valueFrom? lookup false .text cs

def isNameChar (c : Char) : Bool := c.isAlphanum || c = '_' || c = '.'

/-- The name at the front of an entry, and what follows its blanks. -/
def name? (r : List Char) : Option (List Char × List Char) :=
  match r with
  | c :: _ =>
    if c.isAlpha || c = '_' then
      some (r.takeWhile isNameChar, (r.dropWhile isNameChar).dropWhile Text.isBlank)
    else none
  | [] => none

def assigned? (lookup : List Char → List Char) (name : List Char) :
    List Char → Option (String × String)
  | '=' :: r =>
    (value? lookup (r.dropWhile Text.isBlank)).map fun v => (String.ofList name, String.ofList v)
  | _ => none

/-- The variable that an entry sets. The word `export` may stand before it, and may be its name. -/
def assignment? (lookup : List Char → List Char) (r : List Char) : Option (String × String) := do
  let (name, rest) ← name? r
  match rest with
  | '=' :: _ => assigned? lookup name rest
  | _ =>
    if name = "export".toList then
      let (name, rest) ← name? rest
      assigned? lookup name rest
    else none

/-- The value of a variable, empty if it is not set. It is what stands behind the name and an equals
sign in an entry `NAME=value` of the environment. -/
def valueIn (vs : Variables) (name : List Char) : List Char :=
  if name = [] then []
  else
    (vs.findSome? fun v =>
      Text.after? (name ++ ['=']) (v.1.toList ++ '=' :: v.2.toList)).getD []

/-- Sets a variable unless it is set. No value may hold the null character, which ends a value in
the environment. -/
def setDefault? (vs : Variables) (v : String × String) : Option Variables :=
  if (vs.lookup v.1).isSome then some vs
  else if v.2.toList.contains '\x00' then none
  else some (vs ++ [v])

/-- Sets the variables of entries that are not set yet, up to the first entry that makes no sense.
There is no result if a value cannot be set. -/
def apply (vs : Variables) : List (List Char) → Option Variables
  | [] => some vs
  | e :: es =>
    match Text.trimChars e with
    | [] | '#' :: _ => apply vs es
    | r =>
      match assignment? (valueIn vs) r with
      | some v => (setDefault? vs v).bind fun vs => apply vs es
      | none => some vs

def load? (vs : Variables) (text : String) : Option Variables := apply vs (entries text.toList)

end Herald.Settings.VariableFile
