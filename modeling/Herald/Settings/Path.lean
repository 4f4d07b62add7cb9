import Herald.Number.Read

/-!
# Herald.Settings.Path

Where in the settings a key leads.

* `Step`: the way into a member of a table, or to an item of a list.
* `Path.read?`: the steps of a key such as `tenant.domains.acme` or `engine[0]`.
* `Path.ofKey`: these steps, or the key as one name.
-/

namespace Herald.Settings

inductive Step where
  | member (name : String)
  /-- An item by its place. Places below zero count from the end of the list. -/
  | item (place : Int)
  deriving DecidableEq, Repr

namespace Path

open Number

def isNameChar (c : Char) : Bool := c.isAlphanum || c = '_' || c = '-' || c = ' '

def isSpace (c : Char) : Bool := c = ' ' || c = '\t'

/-- The place that is written between brackets: a whole number of 64 bits, at most with a minus. -/
def place? (cs : List Char) : Option Int :=
  let inner := ((cs.dropWhile isSpace).reverse.dropWhile isSpace).reverse
  match inner with
  | '+' :: _ => none
  | _ => readInt? (String.ofList inner)

inductive Reading where
  /-- Within a name, of which the characters so far are given in reverse. -/
  | name (read : List Char)
  /-- Within brackets, likewise. -/
  | place (read : List Char)
  | closed

/-- The member that the characters of a name in reverse stand for. -/
def memberOf (read : List Char) : Step := .member (String.ofList read.reverse)

def steps? : Reading → List Char → Option (List Step)
  | .name read, [] => if read = [] then none else some [memberOf read]
  | .place _, [] => none
  | .closed, [] => some []
  | .name read, c :: r =>
    if isNameChar c then steps? (.name (c :: read)) r
    else if read = [] then none
    else if c = '.' then (steps? (.name []) r).map (memberOf read :: ·)
    else if c = '[' then (steps? (.place []) r).map (memberOf read :: ·)
    else none
  | .place read, c :: r =>
    if c = ']' then do
      let i ← place? read.reverse
      return .item i :: (← steps? .closed r)
    else steps? (.place (c :: read)) r
  | .closed, c :: r =>
    if c = '.' then steps? (.name []) r
    else if c = '[' then steps? (.place []) r
    else none

/-- The steps of a key of names with points between them and places in brackets behind them. -/
def read? (key : String) : Option (List Step) := steps? (.name []) key.toList

/-- The steps of a key. A key of another form is a name itself. -/
def ofKey (key : String) : List Step := (read? key).getD [.member key]

end Path

end Herald.Settings
